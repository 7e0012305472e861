import YrSandbox.Foundation.BoundedQueue
import YrSandbox.Foundation.Chunk
import YrSandbox.Foundation.Transition
import YrSandbox.Tunnel.Limits

/-! # The requests of one id

The entries that a tunnel session keeps under one request id, in
`stream_requests`, `response_credits`, `terminated_streams`, `inflight` and
`completed`, together with the tasks that were ever started for that id. Frames
for other ids change none of this, except that the size bounds on `completed`
and `terminated_streams` may evict the records of this id.

An event is one turn of the event loop: the receive loop handles a frame up to
its next `await`, or a task runs up to its own. The id is not empty and, where a
stream is begun, a UUID. -/

namespace YrSandbox.Tunnel

open Python

/-! ## Streaming requests -/

/-- An entry of `stream_requests`, less its task. -/
structure RequestState where
  queue : BoundedQueue (Option Bytes)
  received : Nat
  consumed : Nat
  pendingCredit : Nat
  contentLength : Option Nat
  ended : Bool
deriving DecidableEq, Repr

/-- Where the generator `request_content` stands. -/
inductive RequestContent
  | waiting -- `await request_queue.get()`
  | yielded -- the HTTP client is sending the chunk
  | crediting -- `await send_frame` of the returned credit
  | returned
deriving DecidableEq, Repr

/-- The task of `stream_http_response`. Cancelling it before its first turn ends
it without its `finally` clause; cancelling it later only schedules that
clause. -/
inductive TaskPhase
  | created
  | running
  | cancelling
  | finished
deriving DecidableEq, Repr

/-- One accepted `http_req_begin`: its entry, its task and, for the record, the
chunks accepted from the peer, all that was put into the queue, the chunks
handed to the HTTP client, and the peer's unspent credits on this connection. -/
structure Incarnation where
  request : RequestState
  content : RequestContent
  task : TaskPhase
  accepted : List (Chunk UInt8)
  puts : List (Option Bytes)
  handed : List Bytes
  allowance : Nat
deriving DecidableEq, Repr

namespace Incarnation

/-- The entry that `handle_http_req_begin` registers. -/
def opening (window : Nat) (contentLength : Option Nat) : Incarnation where
  request :=
    { queue := .empty window
      received := 0
      consumed := 0
      pendingCredit := 0
      contentLength := contentLength
      ended := false }
  content := .waiting
  task := .created
  accepted := []
  puts := []
  handed := []
  allowance := window

def Active (incarnation : Incarnation) : Prop :=
  incarnation.task = .created ∨ incarnation.task = .running

instance (incarnation : Incarnation) : Decidable incarnation.Active :=
  inferInstanceAs (Decidable (_ ∨ _))

def spend (incarnation : Incarnation) : Incarnation :=
  { incarnation with allowance := incarnation.allowance - 1 }

def grant (credits : Nat) (incarnation : Incarnation) : Incarnation :=
  { incarnation with allowance := incarnation.allowance + credits }

def voidCredits (incarnation : Incarnation) : Incarnation :=
  { incarnation with allowance := 0 }

/-- `queue.put_nowait(envelope.payload)` and `received = total` -/
def accept (queue : BoundedQueue (Option Bytes)) (chunk : Chunk UInt8)
    (incarnation : Incarnation) : Incarnation :=
  { incarnation with
    request := { incarnation.request with queue, received := chunk.finish }
    accepted := incarnation.accepted ++ [chunk]
    puts := incarnation.puts ++ [some chunk.payload] }

def markEnded (incarnation : Incarnation) : Incarnation :=
  { incarnation with request := { incarnation.request with ended := true } }

def putEnd (queue : BoundedQueue (Option Bytes)) (incarnation : Incarnation) :
    Incarnation :=
  { incarnation with
    request := { incarnation.request with queue }
    puts := incarnation.puts ++ [none] }

def cancel (incarnation : Incarnation) : Incarnation :=
  { incarnation with
    task :=
      match incarnation.task with
      | .created => .finished
      | .running => .cancelling
      | .cancelling => .cancelling
      | .finished => .finished }

/-- `chunk = await request_queue.get()` and on to the `yield` or the return. -/
def take (incarnation : Incarnation) : Option Incarnation :=
  match incarnation.request.queue.get? with
  | none => none
  | some (some chunk, queue) =>
      some { incarnation with
        request :=
          { incarnation.request with
            queue
            consumed := incarnation.request.consumed + chunk.length
            pendingCredit := incarnation.request.pendingCredit + 1 }
        content := .yielded
        handed := incarnation.handed ++ [chunk] }
  | some (none, queue) =>
      some { incarnation with
        request := { incarnation.request with queue }
        content := .returned }

theorem take_eq_some {incarnation taken : Incarnation}
    (took : incarnation.take = some taken) :
    (∃ chunk queue, incarnation.request.queue.items = some chunk :: queue.items ∧
      queue.maxsize = incarnation.request.queue.maxsize ∧
      taken = { incarnation with
        request :=
          { incarnation.request with
            queue
            consumed := incarnation.request.consumed + chunk.length
            pendingCredit := incarnation.request.pendingCredit + 1 }
        content := .yielded
        handed := incarnation.handed ++ [chunk] }) ∨
    ∃ queue, incarnation.request.queue.items = none :: queue.items ∧
      queue.maxsize = incarnation.request.queue.maxsize ∧
      taken = { incarnation with
        request := { incarnation.request with queue }
        content := .returned } := by
  rw [take] at took
  split at took
  · cases took
  · rename_i chunk queue got
    rcases BoundedQueue.get?_eq_some got with ⟨items, maxsize⟩
    exact .inl ⟨chunk, queue, items, maxsize, (Option.some.inj took).symm⟩
  · rename_i queue got
    rcases BoundedQueue.get?_eq_some got with ⟨items, maxsize⟩
    exact .inr ⟨queue, items, maxsize, (Option.some.inj took).symm⟩

def returnCredit (incarnation : Incarnation) : Incarnation :=
  { incarnation with
    request :=
      { incarnation.request with
        pendingCredit := incarnation.request.pendingCredit - 1 }
    content := .waiting }

/-- The task ends; a generator caught in `send_frame` takes its credit back. -/
def finish (incarnation : Incarnation) : Incarnation :=
  { incarnation with
    request :=
      { incarnation.request with
        pendingCredit :=
          if incarnation.content = .crediting then incarnation.request.pendingCredit - 1
          else incarnation.request.pendingCredit }
    task := .finished }

end Incarnation

/-! ## Small requests -/

/-- What a task of `build_http_resp_frame` ends with: a frame, `None` after a
streamed response, or a cancellation. -/
inductive SmallResult
  | frame
  | streamed
  | cancelled
deriving DecidableEq, Repr

inductive SmallPhase
  | running
  | cancelling
  | done (result : SmallResult)
  | calledBack
deriving DecidableEq, Repr

structure SmallTask where
  phase : SmallPhase
  responded : Bool
deriving DecidableEq, Repr

/-! ## The session as one id sees it -/

inductive Reply
  | window (credits ackOffset : Nat)
  | responseBegin
  | cached
  | error (message : String)
deriving DecidableEq, Repr

inductive Receiver
  | idle
  | refusing (stream : Nat) -- `await send_frame` of the error that ends a stream
  | puttingEnd (stream : Nat) -- `await request_state["queue"].put(None)`
  | raised (message : String) -- a `ProtocolError` is ending the connection
deriving DecidableEq, Repr

inductive Owner
  | small (task : Nat)
  | stream (incarnation : Nat)
deriving DecidableEq, Repr

def Owner.isSmall : Owner → Bool
  | .small _ => true
  | .stream _ => false

def Owner.isStream (owner : Owner) : Bool := !owner.isSmall

/-- For the record: the upstream request started last, unless the peer has
released it since. -/
structure Live where
  owner : Owner
  responded : Bool
  refused : Bool
  finished : Option Int
deriving DecidableEq, Repr

structure Streams where
  receiver : Receiver
  streamRequest : Option Nat
  incarnation : Nat → Incarnation
  opened : Nat

def Streams.modify (stream : Nat) (change : Incarnation → Incarnation)
    (streams : Streams) : Streams :=
  { streams with
    incarnation := fun other =>
      if other = stream then change (streams.incarnation other)
      else streams.incarnation other }

/-- What is remembered of the requests of this id: the small ones, the answers
and, for the record, the last upstream request. -/
structure Records where
  now : Int
  responseCredits : Bool
  inflight : Option Nat
  completed : Option Int
  small : Nat → SmallTask
  started : Nat
  live : Option Live
  repeated : Bool

namespace Records

def retained (records : Records) : Bool :=
  records.live.any fun live =>
    live.finished.all fun finished =>
      decide (records.now - finished ≤ completedFrameTtl)

def mapLive (owner : Owner) (change : Live → Live) (records : Records) : Records :=
  { records with
    live := records.live.map fun live =>
      if live.owner = owner then change live else live }

/-- The part of `cleanup_completed` that concerns this id's own age. -/
def cleanupCompleted (records : Records) : Records :=
  { records with
    completed := records.completed.filter fun timestamp =>
      decide (records.now - timestamp ≤ completedFrameTtl) }

end Records

structure Exchange extends Streams, Records where
  rid : String
  limits : Limits
  connected : Bool
  terminated : Option Int
  replies : List Reply

namespace Exchange

def initial (rid : String) (limits : Limits) : Exchange where
  receiver := .idle
  streamRequest := none
  incarnation _ :=
    { Incarnation.opening limits.negotiatedStreamWindow none with task := .finished }
  opened := 0
  now := 0
  responseCredits := false
  inflight := none
  completed := none
  small _ := ⟨.calledBack, false⟩
  started := 0
  live := none
  repeated := false
  rid := rid
  limits := limits
  connected := true
  terminated := none
  replies := []

def modify (stream : Nat) (change : Incarnation → Incarnation) (exchange : Exchange) :
    Exchange :=
  { exchange with toStreams := exchange.toStreams.modify stream change }

def modifySmall (task : Nat) (change : SmallTask → SmallTask) (exchange : Exchange) :
    Exchange :=
  { exchange with
    small := fun other =>
      if other = task then change (exchange.small other) else exchange.small other }

def reply (frame : Reply) (exchange : Exchange) : Exchange :=
  { exchange with replies := exchange.replies ++ [frame] }

def raise (message : String) (exchange : Exchange) : Exchange :=
  { exchange with receiver := .raised message }

/-- `rid in terminated_streams` and not expired. -/
def isTerminated (exchange : Exchange) : Bool :=
  exchange.terminated.any fun timestamp =>
    decide (exchange.now - timestamp ≤ completedFrameTtl)

def absorbOrRaise (message : String) (exchange : Exchange) : Exchange :=
  if exchange.isTerminated then exchange
  else { exchange with terminated := none }.raise message

/-! ### Starting upstream requests -/

/-- For the record: `owner` starts an upstream request. -/
def begins (owner : Owner) (exchange : Exchange) : Exchange :=
  { exchange with
    live := some ⟨owner, false, false, none⟩
    repeated := exchange.repeated || exchange.retained }

def mapLive (owner : Owner) (change : Live → Live) (exchange : Exchange) : Exchange :=
  { exchange with toRecords := exchange.toRecords.mapLive owner change }

def markResponded (live : Live) : Live := { live with responded := true }

def markRefused (live : Live) : Live := { live with refused := true }

def markFinished (now : Int) (live : Live) : Live := { live with finished := some now }

def release (exchange : Exchange) : Exchange := { exchange with live := none }

def releaseFinished (kind : Owner → Bool) (exchange : Exchange) : Exchange :=
  { exchange with
    live := exchange.live.filter fun live =>
      live.finished.isNone || !kind live.owner }

def cancelStream (stream : Nat) (exchange : Exchange) : Exchange :=
  let unstarted := (exchange.incarnation stream).task = .created
  let exchange := exchange.modify stream Incarnation.cancel
  if unstarted then exchange.mapLive (.stream stream) (markFinished exchange.now)
  else exchange

/-! ### Frames -/

def cleanupCompleted (exchange : Exchange) : Exchange :=
  { exchange with toRecords := exchange.toRecords.cleanupCompleted }

def handleHttpReq (exchange : Exchange) : Exchange :=
  let exchange := exchange.cleanupCompleted
  if exchange.responseCredits then exchange.reply .responseBegin
  else if exchange.completed.isSome then exchange.reply .cached
  else if exchange.inflight.isSome then exchange
  else
    let task := exchange.started
    { exchange.begins (.small task) with
      small := fun other =>
        if other = task then ⟨.running, false⟩ else exchange.small other
      started := task + 1
      inflight := some task }

/-- The `http_req` branch of `_proxy_loop`; `httpTasks` is `len(http_tasks)`. -/
def httpReq (httpTasks : Nat) (exchange : Exchange) : Exchange :=
  let isExisting := exchange.inflight.isSome || exchange.completed.isSome
  if !isExisting && decide (exchange.limits.negotiatedMaxInflight ≤ httpTasks) then
    exchange.reply (.error "tunnel max_inflight limit reached")
  else exchange.handleHttpReq

def resumeCredits (limits : Limits) (request : RequestState) : Nat :=
  limits.negotiatedStreamWindow - request.queue.qsize - request.pendingCredit

def openStream (contentLength : Option Nat) (exchange : Exchange) : Exchange :=
  let stream := exchange.opened
  let window := exchange.limits.negotiatedStreamWindow
  { exchange.begins (.stream stream) with
    incarnation := fun other =>
      if other = stream then Incarnation.opening window contentLength
      else exchange.incarnation other
    opened := stream + 1
    streamRequest := some stream }.reply (.window window 0)

/-- `handle_http_req_begin`, behind the check of the negotiated version. -/
def httpReqBegin (contentLength : Option Int) (httpTasks : Nat) (exchange : Exchange) :
    Exchange :=
  if exchange.limits.negotiatedProtocolVersion < protocolVersion then
    exchange.raise "received streaming request before V2 negotiation"
  else
    match exchange.streamRequest with
    | some stream =>
        let request := (exchange.incarnation stream).request
        let credits := resumeCredits exchange.limits request
        (exchange.modify stream (Incarnation.grant credits)).reply
          (.window credits request.consumed)
    | none =>
        if exchange.responseCredits then exchange.reply .responseBegin
        else if contentLength.any (· < 0) then
          exchange.raise "invalid streaming request content_length"
        else if contentLength.any ((exchange.limits.negotiatedMaxBodySize : Int) < ·) then
          exchange.reply (.error "request body exceeds tunnel limit")
        else if exchange.limits.negotiatedMaxInflight ≤ httpTasks then
          exchange.reply (.error "tunnel max_inflight limit reached")
        else exchange.openStream (contentLength.map Int.toNat)

def refuse (stream : Nat) (message : String) (exchange : Exchange) : Exchange :=
  { exchange.reply (.error message) with receiver := .refusing stream }

def endBody (stream : Nat) (exchange : Exchange) : Exchange :=
  let exchange := exchange.modify stream Incarnation.markEnded
  match (exchange.incarnation stream).request.queue.put? none with
  | some queue => exchange.modify stream (Incarnation.putEnd queue)
  | none => { exchange with receiver := .puttingEnd stream }

/-- An `HTTP_REQUEST_DATA` frame for a registered stream. -/
def streamData (stream : Nat) (offset : Option Nat) (payload : Bytes)
    (endOfBody : Bool) (exchange : Exchange) : Exchange :=
  let request := (exchange.incarnation stream).request
  let exchange := exchange.modify stream Incarnation.spend
  match offset with
  | none => exchange.raise s!"resumable request chunk is missing offset: {exchange.rid}"
  | some chunkOffset =>
      let chunk : Chunk UInt8 := ⟨chunkOffset, payload⟩
      if chunkOffset < request.received then
        if chunk.finish ≤ request.received then
          exchange.reply (.window 0 request.received)
        else exchange.raise s!"overlapping request chunk for stream: {exchange.rid}"
      else if request.received < chunkOffset then
        exchange.raise s!"request chunk gap for stream: {exchange.rid}"
      else if request.ended then exchange
      else if exchange.limits.negotiatedMaxBodySize < chunk.finish then
        exchange.refuse stream "request body exceeds tunnel limit"
      else
        match request.queue.put? (some payload) with
        | none => exchange.refuse stream "request stream exceeded advertised window"
        | some queue =>
            let exchange := exchange.modify stream (Incarnation.accept queue chunk)
            if endOfBody then exchange.endBody stream else exchange

def requestData (offset : Option Nat) (payload : Bytes) (endOfBody : Bool)
    (exchange : Exchange) : Exchange :=
  match exchange.streamRequest with
  | none => exchange.absorbOrRaise s!"request data for unknown stream: {exchange.rid}"
  | some stream => exchange.streamData stream offset payload endOfBody

/-- An `http_req_end` frame for a registered stream. -/
def streamEnd (stream : Nat) (exchange : Exchange) : Exchange :=
  let request := (exchange.incarnation stream).request
  if request.ended then exchange
  else if request.contentLength.any (· ≠ request.received) then
    exchange.refuse stream "request content length mismatch"
  else exchange.endBody stream

def httpReqEnd (exchange : Exchange) : Exchange :=
  match exchange.streamRequest with
  | none => exchange.absorbOrRaise s!"request end for unknown stream: {exchange.rid}"
  | some stream => exchange.streamEnd stream

/-- A `window` frame, which concerns these maps only when it is complete. -/
def windowFrame (complete : Bool) (exchange : Exchange) : Exchange :=
  if complete && exchange.responseCredits then
    { exchange with responseCredits := false }.release
  else exchange

def errorFrame (exchange : Exchange) : Exchange :=
  let exchange := { exchange with responseCredits := false }
  match exchange.streamRequest with
  | some stream =>
      { exchange.cancelStream stream with
        streamRequest := none
        terminated := some exchange.now }.release
  | none =>
      match exchange.inflight with
      | some task =>
          (exchange.modifySmall task fun small =>
            { small with
              phase :=
                if small.phase = .running then .cancelling else small.phase }).release
      | none => exchange.release

/-! ### Turns of the tasks -/

def refused (stream : Nat) (exchange : Exchange) : Exchange :=
  { (exchange.cancelStream stream).mapLive (.stream stream) markRefused with
    receiver := .idle
    streamRequest := none
    terminated := some exchange.now }

/-- The `finally` clause of `stream_http_response`, which pops by id. -/
def cleanup (stream : Nat) (exchange : Exchange) : Exchange :=
  { (exchange.modify stream Incarnation.finish).mapLive (.stream stream)
      (markFinished exchange.now) with
    streamRequest := none
    terminated := some exchange.now }

/-- A response of a stream begins: `response_credits[rid] = response_state`. -/
def respond (stream : Nat) (exchange : Exchange) : Exchange :=
  { exchange.mapLive (.stream stream) markResponded with responseCredits := true }

def smallRespond (task : Nat) (exchange : Exchange) : Exchange :=
  { (exchange.modifySmall task fun small => { small with responded := true }).mapLive
      (.small task) markResponded with responseCredits := true }

def smallFinish (task : Nat) (result : SmallResult) (exchange : Exchange) : Exchange :=
  (exchange.modifySmall task fun small => { small with phase := .done result }).mapLive
    (.small task) (markFinished exchange.now)

def smallCallback (task : Nat) (result : SmallResult) (exchange : Exchange) : Exchange :=
  let exchange :=
    { exchange.modifySmall task fun small => { small with phase := .calledBack } with
      inflight := none }
  match result with
  | .frame => { exchange with completed := some exchange.now }.cleanupCompleted
  | .streamed => exchange
  | .cancelled => exchange

/-! ### Steps -/

inductive Event
  | httpReq (httpTasks : Nat)
  | httpReqBegin (contentLength : Option Int) (httpTasks : Nat)
  | requestData (offset : Option Nat) (payload : Bytes) (endOfBody : Bool)
  | httpReqEnd
  | windowFrame (complete : Bool)
  | errorFrame
  | negotiated (limits : Limits)
  | refused
  | endPut
  | start (stream : Nat)
  | take (stream : Nat)
  | resumeContent (stream : Nat)
  | credited (stream : Nat)
  | respond (stream : Nat)
  | cleanup (stream : Nat)
  | smallRespond (task : Nat)
  | smallFinish (task : Nat) (result : SmallResult)
  | smallCallback (task : Nat)
  | disconnect
  | reconnect (limits : Limits)
  | tick (elapsed : Nat)
  | evictCompleted
  | evictTerminated
deriving DecidableEq, Repr

/-- The receive loop is at `async for message in ws`. -/
def listening (exchange : Exchange) : Bool :=
  exchange.connected && decide (exchange.receiver = .idle)

/-- A small task may end so in its present phase. A cancelled one can still
return a frame when closing its upstream request fails. -/
def smallMayFinish (small : SmallTask) : SmallResult → Bool
  | .frame => small.phase = .running || small.phase = .cancelling
  | .streamed => small.phase = .running && small.responded
  | .cancelled => small.phase = .cancelling

def step (exchange : Exchange) : Event → Option Exchange
  | .httpReq httpTasks =>
      if exchange.listening then some (exchange.httpReq httpTasks) else none
  | .httpReqBegin contentLength httpTasks =>
      if exchange.listening then some (exchange.httpReqBegin contentLength httpTasks)
      else none
  | .requestData offset payload endOfBody =>
      if exchange.listening then some (exchange.requestData offset payload endOfBody)
      else none
  | .httpReqEnd => if exchange.listening then some exchange.httpReqEnd else none
  | .windowFrame complete =>
      if exchange.listening then some (exchange.windowFrame complete) else none
  | .errorFrame => if exchange.listening then some exchange.errorFrame else none
  | .negotiated limits =>
      if exchange.listening then some { exchange with limits } else none
  | .refused =>
      match exchange.receiver with
      | .refusing stream => some (exchange.refused stream)
      | _ => none
  | .endPut =>
      match exchange.receiver with
      | .puttingEnd stream =>
          ((exchange.incarnation stream).request.queue.put? none).map fun queue =>
            { exchange.modify stream (Incarnation.putEnd queue) with receiver := .idle }
      | _ => none
  | .start stream =>
      if (exchange.incarnation stream).task = .created then
        some (exchange.modify stream fun incarnation =>
          { incarnation with task := .running })
      else none
  | .take stream =>
      if (exchange.incarnation stream).task = .running ∧
          (exchange.incarnation stream).content = .waiting then
        (exchange.incarnation stream).take.map fun taken =>
          exchange.modify stream fun _ => taken
      else none
  | .resumeContent stream =>
      if (exchange.incarnation stream).task = .running ∧
          (exchange.incarnation stream).content = .yielded then
        some (exchange.modify stream fun incarnation =>
          { incarnation with content := .crediting })
      else none
  | .credited stream =>
      if exchange.connected ∧ (exchange.incarnation stream).task = .running ∧
          (exchange.incarnation stream).content = .crediting then
        some (exchange.modify stream fun incarnation => incarnation.returnCredit.grant 1)
      else none
  | .respond stream =>
      if (exchange.incarnation stream).task = .running then some (exchange.respond stream)
      else none
  | .cleanup stream =>
      if (exchange.incarnation stream).task = .running ∨
          (exchange.incarnation stream).task = .cancelling then
        some (exchange.cleanup stream)
      else none
  | .smallRespond task =>
      if (exchange.small task).phase = .running then some (exchange.smallRespond task)
      else none
  | .smallFinish task result =>
      if smallMayFinish (exchange.small task) result then
        some (exchange.smallFinish task result)
      else none
  | .smallCallback task =>
      match (exchange.small task).phase with
      | .done result => some (exchange.smallCallback task result)
      | _ => none
  | .disconnect =>
      match exchange.connected, exchange.receiver with
      | true, .idle | true, .raised _ =>
          some { exchange with
            connected := false
            receiver := .idle
            incarnation := fun stream => (exchange.incarnation stream).voidCredits }
      | _, _ => none
  | .reconnect limits =>
      if exchange.connected then none else some { exchange with connected := true, limits }
  | .tick elapsed => some { exchange with now := exchange.now + elapsed }
  | .evictCompleted =>
      if exchange.completed.isSome then
        some { exchange.releaseFinished Owner.isSmall with completed := none }
      else none
  | .evictTerminated =>
      if exchange.terminated.isSome then
        some { exchange.releaseFinished Owner.isStream with terminated := none }
      else none

end Exchange

end YrSandbox.Tunnel
