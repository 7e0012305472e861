import YrSandbox.Foundation.Association
import YrSandbox.Foundation.Transition
import YrSandbox.Python.Uuid
import YrSandbox.Tunnel.Limits

/-! # A session with many requests

The maps that a tunnel session keeps by request id, the tasks of its upstream requests
and the set `http_tasks`, by which new requests are admitted. All of this outlives the
connections. What goes on within one request is the subject of the model of one id;
here a task begins a response, ends it and finishes.

An event is one turn of the event loop. An id may be empty, it is then remembered
nowhere. -/

namespace YrSandbox.Tunnel

open Python Transition

/-! ## The cache of finished requests -/

inductive CachedFrame
  | httpResp (bytes : Nat)
  | error (message : String)
deriving DecidableEq, Repr

def CachedFrame.bytes : CachedFrame → Nat
  | httpResp bytes => bytes
  | error _ => 0

structure Cached where
  frame : CachedFrame
  timestamp : Int
deriving DecidableEq, Repr

def completedFrameLimit : Nat := 1024

def completedFrameBytesLimit : Nat := 16 * 1024 * 1024

/-- The dictionary `completed`, in the order of insertion. -/
abbrev Completed (Rid : Type u) := List (Rid × Cached)

namespace Completed

variable {Rid : Type u}

def bytes (completed : Completed Rid) : Nat :=
    (completed.map fun entry => entry.2.frame.bytes).sum

def expire (now : Int) (completed : Completed Rid) : Completed Rid :=
  completed.filter fun entry => decide (now - entry.2.timestamp ≤ completedFrameTtl)

def fits (completed : Completed Rid) : Bool :=
  decide (completed.length ≤ completedFrameLimit) &&
    decide (completed.bytes ≤ completedFrameBytesLimit)

variable [DecidableEq Rid]

/-- The loop that evicts, in at most `rounds` rounds. -/
def evict : Nat → Completed Rid → Completed Rid
  | 0, completed => completed
  | rounds + 1, completed =>
      if completed.fits then completed
      else
        match Association.oldest (fun entry => entry.2.timestamp) completed with
        | none => completed
        | some entry => evict rounds (Association.pop entry.1 completed)

def cleanup (now : Int) (completed : Completed Rid) : Completed Rid :=
  evict completed.length (completed.expire now)

/-! ### What a clean-up leaves -/

omit [DecidableEq Rid] in
theorem bytes_le_of_sublist {left right : Completed Rid} (sublist : left.Sublist right) :
    left.bytes ≤ right.bytes := by
  induction sublist with
  | slnil => exact Nat.le_refl _
  | cons entry sublist induction => exact Nat.le_trans induction (Nat.le_add_left _ _)
  | cons_cons entry sublist induction => exact Nat.add_le_add_left induction _

omit [DecidableEq Rid] in
theorem fits_of_sublist {left right : Completed Rid} (sublist : left.Sublist right)
    (fits : right.fits = true) : left.fits = true := by
  rw [Completed.fits, Bool.and_eq_true, decide_eq_true_eq, decide_eq_true_eq] at fits ⊢
  have shorter : left.length ≤ right.length := sublist.length_le
  have smaller := bytes_le_of_sublist sublist
  omega

theorem evict_sublist (rounds : Nat) (completed : Completed Rid) :
    (evict rounds completed).Sublist completed := by
  induction rounds generalizing completed with
  | zero => exact List.Sublist.refl _
  | succ rounds induction =>
      rw [evict]
      split
      · exact List.Sublist.refl _
      · split
        · exact List.Sublist.refl _
        · exact (induction _).trans Association.pop_sublist

theorem evict_fits {rounds : Nat} {completed : Completed Rid}
    (enough : completed.length ≤ rounds) : (evict rounds completed).fits = true := by
  induction rounds generalizing completed with
  | zero =>
      have empty : completed = [] := List.eq_nil_of_length_eq_zero (Nat.le_zero.mp enough)
      subst empty
      rfl
  | succ rounds induction =>
      rw [evict]
      split
      · assumption
      · split
        · rename_i none
          rw [Association.oldest_eq_argmin, List.argmin_eq_none] at none
          rw [none]
          rfl
        · rename_i entry isOldest
          rw [Association.oldest_eq_argmin] at isOldest
          apply induction
          have erased := Association.length_pop_argmin isOldest
          omega

theorem cleanup_fits (now : Int) (completed : Completed Rid) :
    (completed.cleanup now).fits = true :=
  evict_fits (List.length_filter_le _ _)

theorem cleanup_sublist (now : Int) (completed : Completed Rid) :
    (completed.cleanup now).Sublist completed :=
  (evict_sublist _ _).trans List.filter_sublist

theorem cleanup_eq_expire {completed : Completed Rid} (fits : completed.fits = true)
    (now : Int) :
    completed.cleanup now = completed.expire now := by
  have within : (completed.expire now).fits = true :=
    fits_of_sublist List.filter_sublist fits
  rw [cleanup]
  cases rounds : completed.length with
  | zero => rfl
  | succ rounds => rw [evict, if_pos within]

end Completed

/-! ## Upstream requests -/

inductive TaskKind
  | small -- `build_http_resp_frame`
  | stream -- `stream_http_response`
deriving DecidableEq, Repr

/-- What a task ends with: the frame it returns, `None`, the error it has sent, or a
cancellation. -/
inductive TaskResult
  | frame (frame : CachedFrame)
  | streamed
  | failed (message : String)
  | cancelled
deriving DecidableEq, Repr

/-- Where a task stands. `settled` is a small one whose callback has run. -/
inductive UpstreamPhase
  | created
  | running
  | cancelling
  | done (result : TaskResult)
  | settled (result : TaskResult)
deriving DecidableEq, Repr

/-- The task of an upstream request. `responded` and `ended` tell of the response that it
streams: that it has begun, and that it is complete. -/
structure UpstreamTask where
  rid : Text
  kind : TaskKind
  phase : UpstreamPhase
  responded : Bool
  ended : Bool
deriving DecidableEq, Repr

namespace UpstreamTask

def executes (task : UpstreamTask) : Bool :=
  match task.phase with
  | .created | .running | .cancelling => true
  | .done _ | .settled _ => false

/-- `task.cancel()`; a task without a turn yet is over. -/
def cancel (task : UpstreamTask) : UpstreamTask :=
  { task with
    phase :=
      match task.phase with
      | .created => .done .cancelled
      | .running => .cancelling
      | phase => phase }

/-- A task may end so. One that is cancelled can still fail when its upstream request is
closed. -/
def mayFinish (task : UpstreamTask) : TaskResult → Bool
  | .frame _ =>
      task.kind = .small && (task.phase = .running || task.phase = .cancelling)
  | .streamed => task.phase = .running && task.responded && task.ended
  | .failed _ =>
      task.kind = .stream && (task.phase = .running || task.phase = .cancelling)
  | .cancelled => task.phase = .cancelling

end UpstreamTask

/-- A member of `http_tasks`: the task that awaits a small request and sends its frame, a
stream, or one that sends a frame again, or nothing. -/
inductive HttpTask
  | upstream (task : Nat)
  | replay
deriving DecidableEq, Repr

/-! ## The session -/

inductive Answer
  | window
  | responseBegin
  | cached (frame : CachedFrame)
  | error (message : String)
deriving DecidableEq, Repr

def Answer.isRefusal : Answer → Bool
  | error _ => true
  | _ => false

abbrev ById (α : Type) := Text → Option α

def ById.set {α : Type} (map : ById α) (rid : Text) (value : Option α) : ById α :=
  fun other => if other = rid then value else map other

structure Session where
  now : Int
  limits : Limits
  connected : Bool
  raised : Option String -- a `ProtocolError` is ending the connection
  inflight : ById Nat
  completed : Completed Text
  streamRequests : ById Nat
  responseCredits : ById Nat -- the task whose response it is
  task : Nat → UpstreamTask
  started : Nat
  httpTasks : List HttpTask
  answers : List (Text × Answer)

namespace Session

def initial (limits : Limits) : Session where
  now := 0
  limits := limits
  connected := true
  raised := none
  inflight := fun _ => none
  completed := []
  streamRequests := fun _ => none
  responseCredits := fun _ => none
  task := fun _ => ⟨[], .small, .settled .cancelled, false, false⟩
  started := 0
  httpTasks := []
  answers := []

def answer (rid : Text) (frame : Answer) (session : Session) : Session :=
  { session with answers := session.answers ++ [(rid, frame)] }

def raise (message : String) (session : Session) : Session :=
  { session with raised := some message }

def modifyTask (number : Nat) (change : UpstreamTask → UpstreamTask) (session : Session) :
    Session :=
  { session with
    task := fun other =>
      if other = number then change (session.task other) else session.task other }

def cleanupCompleted (session : Session) : Session :=
  { session with completed := session.completed.cleanup session.now }

/-- A task of `http_tasks` that only sends a frame, or nothing. -/
def spawnReplay (session : Session) : Session :=
  { session with httpTasks := session.httpTasks ++ [.replay] }

def spawn (rid : Text) (kind : TaskKind) (session : Session) : Session :=
  let phase := if kind = .small then UpstreamPhase.running else .created
  { session.modifyTask session.started fun _ => ⟨rid, kind, phase, false, false⟩ with
    started := session.started + 1
    httpTasks := session.httpTasks ++ [.upstream session.started] }

/-! ### Frames -/

def handleHttpReq (rid : Text) (session : Session) : Session :=
  let session := session.cleanupCompleted
  if rid ≠ [] ∧ (session.responseCredits rid).isSome then
    (session.answer rid .responseBegin).spawnReplay
  else
    match if rid ≠ [] then session.completed.lookup rid else none with
    | some cached => (session.answer rid (.cached cached.frame)).spawnReplay
    | none =>
        if rid ≠ [] ∧ (session.inflight rid).isSome then session.spawnReplay
        else if rid ≠ [] then
          { session.spawn rid .small with
            inflight := session.inflight.set rid (some session.started) }
        else session.spawn rid .small

/-- The `http_req` branch of `_proxy_loop` -/
def httpReq (rid : Text) (session : Session) : Session :=
  let isExisting := (session.inflight rid).isSome || (session.completed.lookup rid).isSome
  if !isExisting &&
      decide (session.limits.negotiatedMaxInflight ≤ session.httpTasks.length) then
    session.answer rid (.error "tunnel max_inflight limit reached")
  else session.handleHttpReq rid

/-- The `http_req_begin` branch and `handle_http_req_begin` -/
def httpReqBegin (unicode : UnicodeData) (rid : Text) (contentLength : Option Int)
    (session : Session) : Session :=
  if session.limits.negotiatedProtocolVersion < protocolVersion then
    session.raise "received streaming request before V2 negotiation"
  else if (Uuid.ofText unicode rid).isNone then
    session.raise "streaming request id must be a UUID string"
  else if (session.streamRequests rid).isSome then session.answer rid .window
  else if (session.responseCredits rid).isSome then session.answer rid .responseBegin
  else if contentLength.any (· < 0) then
    session.raise "invalid streaming request content_length"
  else if contentLength.any ((session.limits.negotiatedMaxBodySize : Int) < ·) then
    session.answer rid (.error "request body exceeds tunnel limit")
  else if session.limits.negotiatedMaxInflight ≤ session.httpTasks.length then
    session.answer rid (.error "tunnel max_inflight limit reached")
  else
    { session.spawn rid .stream with
      streamRequests := session.streamRequests.set rid (some session.started) }.answer
        rid .window

/-- A `window` frame, which concerns these maps only when it is complete. -/
def windowFrame (rid : Text) (complete : Bool) (session : Session) : Session :=
  if complete then { session with responseCredits := session.responseCredits.set rid none }
  else session

def errorFrame (rid : Text) (session : Session) : Session :=
  let session := { session with responseCredits := session.responseCredits.set rid none }
  match session.streamRequests rid with
  | some stream =>
      { session.modifyTask stream UpstreamTask.cancel with
        streamRequests := session.streamRequests.set rid none }
  | none =>
      match session.inflight rid with
      | some task => session.modifyTask task UpstreamTask.cancel
      | none => session

def refuse (rid : Text) (message : String) (session : Session) : Session :=
  match session.streamRequests rid with
  | some stream =>
      { session.modifyTask stream UpstreamTask.cancel with
        streamRequests := session.streamRequests.set rid none }.answer rid (.error message)
  | none => session

/-! ### Turns of the tasks -/

/-- `response_credits[rid] = response_state` -/
def respond (number : Nat) (session : Session) : Session :=
  { session.modifyTask number fun task => { task with responded := true } with
    responseCredits :=
      session.responseCredits.set (session.task number).rid (some number) }

def finish (number : Nat) (result : TaskResult) (session : Session) : Session :=
  let task := session.task number
  let finished := session.modifyTask number fun task => { task with phase := .done result }
  match task.kind with
  | .small => finished
  | .stream =>
      let popped :=
        { finished with streamRequests := finished.streamRequests.set task.rid none }
      match result with
      | .failed message => popped.answer task.rid (.error message)
      | _ => popped

/-- `done_callback`, which a request without an id does not have. -/
def callback (number : Nat) (result : TaskResult) (session : Session) : Session :=
  let rid := (session.task number).rid
  let settled := session.modifyTask number fun task =>
    { task with phase := .settled result }
  if rid = [] then settled
  else
    let popped := { settled with inflight := settled.inflight.set rid none }
    match result with
    | .frame frame =>
        { popped with
          completed :=
            Association.store rid ⟨frame, popped.now⟩ popped.completed }.cleanupCompleted
    | _ => popped

/-- A task of `http_tasks` is done and discarded; one that awaits a small request has
sent the frame of it. -/
def discard (member : HttpTask) (session : Session) : Session :=
  let discarded := { session with httpTasks := session.httpTasks.erase member }
  match member with
  | .replay => discarded
  | .upstream number =>
      match (session.task number).phase with
      | .settled (.frame frame) =>
          discarded.answer (session.task number).rid (.cached frame)
      | _ => discarded

/-! ### Steps -/

inductive Event
  | httpReq (rid : Text)
  | httpReqBegin (rid : Text) (contentLength : Option Int)
  | windowFrame (rid : Text) (complete : Bool)
  | errorFrame (rid : Text)
  | refuse (rid : Text) (message : String)
  | raise (message : String)
  | negotiated (limits : Limits)
  | start (task : Nat)
  | respond (task : Nat)
  | endResponse (task : Nat)
  | finish (task : Nat) (result : TaskResult)
  | callback (task : Nat)
  | discard (member : HttpTask)
  | disconnect
  | reconnect (limits : Limits)
  | tick (elapsed : Nat)
deriving DecidableEq, Repr

/-- The receive loop is at `async for message in ws`. -/
def listening (session : Session) : Bool := session.connected && session.raised.isNone

/-- Whether a member of `http_tasks` is done. -/
def mayDiscard (session : Session) : HttpTask → Bool
  | .replay => true
  | .upstream number =>
      match (session.task number).kind, (session.task number).phase with
      | .small, .settled _ => true
      | .stream, .done _ => true
      | _, _ => false

def step (unicode : UnicodeData) (session : Session) : Event → Option Session
  | .httpReq rid => if session.listening then some (session.httpReq rid) else none
  | .httpReqBegin rid contentLength =>
      if session.listening then some (session.httpReqBegin unicode rid contentLength)
      else none
  | .windowFrame rid complete =>
      if session.listening then some (session.windowFrame rid complete) else none
  | .errorFrame rid => if session.listening then some (session.errorFrame rid) else none
  | .refuse rid message =>
      if session.listening then some (session.refuse rid message) else none
  | .raise message => if session.listening then some (session.raise message) else none
  | .negotiated limits => if session.listening then some { session with limits } else none
  | .start number =>
      if (session.task number).phase = .created then
        some (session.modifyTask number fun task => { task with phase := .running })
      else none
  | .respond number =>
      if (session.task number).phase = .running ∧
        (session.task number).responded = false then
        some (session.respond number)
      else none
  | .endResponse number =>
      if (session.task number).phase = .running ∧
        (session.task number).responded = true then
        some (session.modifyTask number fun task => { task with ended := true })
      else none
  | .finish number result =>
      if (session.task number).mayFinish result then some (session.finish number result)
      else none
  | .callback number =>
      match (session.task number).kind, (session.task number).phase with
      | .small, .done result => some (session.callback number result)
      | _, _ => none
  | .discard member =>
      if session.connected ∧ member ∈ session.httpTasks ∧
        session.mayDiscard member = true then
        some (session.discard member)
      else none
  | .disconnect =>
      if session.connected then some { session with connected := false, raised := none }
      else none
  | .reconnect limits =>
      if session.connected then none else some { session with connected := true, limits }
  | .tick elapsed => some { session with now := session.now + elapsed }

end Session

end YrSandbox.Tunnel
