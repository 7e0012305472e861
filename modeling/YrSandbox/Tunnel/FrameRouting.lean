import YrSandbox.Tunnel.BinaryEnvelope
import YrSandbox.Tunnel.FailedResponses

/-! # Routing of binary frames

The receive loop looks for the stream or the channel of a binary frame under the id that
`decode` prints. The tables it looks in are keyed by the ids of the JSON frames, which
may be any text that `uuid.UUID` reads. -/

namespace YrSandbox.Tunnel

open Python Transition

/-! ## Ids that were terminated -/

/-- The dictionary `terminated_streams`, in the order of insertion. -/
abbrev Terminated (Rid : Type u) := List (Rid × Int)

namespace Terminated

variable {Rid : Type u}

/-- `min(terminated_streams, key=terminated_streams.get)`, with its timestamp. -/
def oldest (terminated : Terminated Rid) : Option (Rid × Int) :=
  Association.oldest Prod.snd terminated

def expire (now : Int) (terminated : Terminated Rid) : Terminated Rid :=
  terminated.filter fun entry => decide (now - entry.2 ≤ completedFrameTtl)

variable [DecidableEq Rid]

/-- The loop that makes room for one more, in at most `rounds` rounds. -/
def makeRoom : Nat → Terminated Rid → Terminated Rid
  | 0, terminated => terminated
  | rounds + 1, terminated =>
      if terminated.length < completedFrameLimit then terminated
      else
        match terminated.oldest with
        | none => terminated
        | some entry => makeRoom rounds (Association.pop entry.1 terminated)

variable [BEq Rid]

def remember (rid : Rid) (now : Int) (terminated : Terminated Rid) : Terminated Rid :=
  let recent := terminated.expire now
  Association.store rid now (makeRoom recent.length recent)

/-- `is_terminated`, which drops an entry that has expired. -/
def isTerminated (rid : Rid) (now : Int) (terminated : Terminated Rid) :
    Bool × Terminated Rid :=
  match terminated.lookup rid with
  | none => (false, terminated)
  | some timestamp =>
      if now - timestamp > completedFrameTtl then
        (false, Association.pop rid terminated)
      else (true, terminated)

end Terminated

/-! ## The receive loop -/

/-- The name of a member of `BinaryKind`. -/
def BinaryKind.name : BinaryKind → String
  | httpRequestData => "HTTP_REQUEST_DATA"
  | httpResponseData => "HTTP_RESPONSE_DATA"
  | wsBinaryData => "WS_BINARY_DATA"

/-- The text of a `ProtocolError`; `decode` raises nothing else. -/
def EnvelopeError.text : EnvelopeError → String
  | protocol message => message
  | outOfRange | badUuid => ""

inductive WsPhase
  | created
  | running
  | done
deriving DecidableEq, Repr

/-- The task of a channel, `handle_ws_connect`. -/
structure WsTask where
  rid : Text
  phase : WsPhase
deriving DecidableEq, Repr

/-- `task.cancel()`; a task without a turn yet is over, another ends in a turn of its
own. -/
def WsTask.cancel (task : WsTask) : WsTask :=
  { task with
    phase :=
      match task.phase with
      | .created => .done
      | phase => phase }

inductive Route
  | stream (number : Nat)
  | channel (number : Nat)
deriving DecidableEq, Repr

/-- A session with the channels of its connection. The dictionary `ws_tasks` has the keys
of `ws_channels`, so that one list gives both. -/
structure ProxyLoop where
  session : Session
  terminated : Terminated Text
  wsChannels : List (Text × Nat)
  wsTask : Nat → WsTask
  wsStarted : Nat
  routed : List (Route × BinaryEnvelope)

namespace ProxyLoop

def initial (limits : Limits) : ProxyLoop where
  session := Session.initial limits
  terminated := []
  wsChannels := []
  wsTask := fun _ => ⟨[], .done⟩
  wsStarted := 0
  routed := []

def answer (rid : Text) (message : String) (loop : ProxyLoop) : ProxyLoop :=
  { loop with session := loop.session.answer rid (.error message) }

def raise (message : String) (loop : ProxyLoop) : ProxyLoop :=
  { loop with session := loop.session.raise message }

def remember (rid : Text) (loop : ProxyLoop) : ProxyLoop :=
  { loop with terminated := loop.terminated.remember rid loop.session.now }

def modifyWsTask (number : Nat) (change : WsTask → WsTask) (loop : ProxyLoop) :
    ProxyLoop :=
  { loop with
    wsTask := fun other =>
      if other = number then change (loop.wsTask other) else loop.wsTask other }

def popChannel (rid : Text) (loop : ProxyLoop) : ProxyLoop :=
  { loop with wsChannels := Association.pop rid loop.wsChannels }

def closeChannel (rid : Text) (number : Nat) (loop : ProxyLoop) : ProxyLoop :=
  ((loop.modifyWsTask number WsTask.cancel).popChannel rid).remember rid

/-! ### Frames -/

def handTo (route : Route) (envelope : BinaryEnvelope) (loop : ProxyLoop) : ProxyLoop :=
  { loop with routed := loop.routed ++ [(route, envelope)] }

def absorb (rid : Text) (message : String) (loop : ProxyLoop) : ProxyLoop :=
  let (isTerminated, terminated) := loop.terminated.isTerminated rid loop.session.now
  let checked := { loop with terminated }
  if isTerminated then checked else checked.raise message

/-- The branch of binary messages, to where the frame is handed to its stream or channel.
What is wrong with it there is a matter of the model of one id. -/
def receive (raw : Bytes) (loop : ProxyLoop) : ProxyLoop :=
  match BinaryEnvelope.decode raw loop.session.limits.negotiatedStreamChunk with
  | .error error => loop.raise error.text
  | .ok envelope =>
      let rid := envelope.requestId
      match envelope.kind with
      | .wsBinaryData =>
          match loop.wsChannels.lookup rid with
          | some number => loop.handTo (.channel number) envelope
          | none =>
              loop.absorb rid s!"WebSocket data for unknown channel: {String.ofList rid}"
      | .httpRequestData =>
          match loop.session.streamRequests rid with
          | some number => loop.handTo (.stream number) envelope
          | none =>
              loop.absorb rid s!"request data for unknown stream: {String.ofList rid}"
      | .httpResponseData =>
          loop.raise s!"unexpected binary frame kind: {envelope.kind.name}"

def wsConnect (rid : Text) (loop : ProxyLoop) : ProxyLoop :=
  if rid = [] then loop
  else if (loop.wsChannels.lookup rid).isSome then
    loop.answer rid "duplicate WebSocket channel id"
  else
    let (isTerminated, terminated) := loop.terminated.isTerminated rid loop.session.now
    let checked := { loop with terminated }
    if isTerminated then checked.answer rid "duplicate WebSocket channel id"
    else if loop.session.limits.negotiatedMaxInflight ≤ loop.wsChannels.length then
      checked.answer rid "tunnel WebSocket channel limit reached"
    else
      { checked.modifyWsTask loop.wsStarted fun _ => ⟨rid, .created⟩ with
        wsChannels := loop.wsChannels ++ [(rid, loop.wsStarted)]
        wsStarted := loop.wsStarted + 1 }

def overflow (rid : Text) (loop : ProxyLoop) : ProxyLoop :=
  match loop.wsChannels.lookup rid with
  | some number =>
      (loop.closeChannel rid number).answer rid "WebSocket channel queue limit reached"
  | none => loop

/-! ### Turns -/

/-- The `finally` clause of `handle_ws_connect` -/
def wsFinish (number : Nat) (loop : ProxyLoop) : ProxyLoop :=
  let rid := (loop.wsTask number).rid
  let finished := loop.modifyWsTask number fun task => { task with phase := .done }
  let popped :=
    if loop.wsChannels.lookup rid = some number then finished.popChannel rid else finished
  popped.remember rid

def follow (loop : ProxyLoop) : Session.Event → ProxyLoop
  | .errorFrame rid =>
      if (loop.session.streamRequests rid).isSome then loop.remember rid
      else if (loop.session.inflight rid).isSome then loop
      else
        match loop.wsChannels.lookup rid with
        | some number => loop.closeChannel rid number
        | none => loop
  | .refuse rid _ =>
      if (loop.session.streamRequests rid).isSome then loop.remember rid else loop
  | .finish number _ =>
      match (loop.session.task number).kind with
      | .small => loop
      | .stream => loop.remember (loop.session.task number).rid
  | .disconnect =>
      { loop with wsChannels := [], wsTask := fun number => (loop.wsTask number).cancel }
  | _ => loop

inductive Event
  | session (event : Session.Event)
  | wsConnect (rid : Text)
  | wsStart (number : Nat)
  | wsFinish (number : Nat)
  | overflow (rid : Text)
  | binary (raw : Bytes)
deriving DecidableEq, Repr

def hasRunningChannel (loop : ProxyLoop) : Bool :=
  (List.range loop.wsStarted).any fun number => (loop.wsTask number).phase = .running

def step (unicode : UnicodeData) (loop : ProxyLoop) : Event → Option ProxyLoop
  | .session event =>
      if event = .disconnect ∧ loop.hasRunningChannel = true then none
      else
        (loop.session.step unicode event).map fun session =>
          { loop.follow event with session }
  | .wsConnect rid => if loop.session.listening then some (loop.wsConnect rid) else none
  | .wsStart number =>
      if (loop.wsTask number).phase = .created then
        some (loop.modifyWsTask number fun task => { task with phase := .running })
      else none
  | .wsFinish number =>
      if (loop.wsTask number).phase = .running then some (loop.wsFinish number) else none
  | .overflow rid => if loop.session.listening then some (loop.overflow rid) else none
  | .binary raw => if loop.session.listening then some (loop.receive raw) else none

end ProxyLoop

/-! ## What the tables hold -/

namespace Session

theorem streamRequests_of_begin {unicode : UnicodeData} {session next : Session}
    {rid other : Text} {contentLength : Option Int} {number : Nat}
    (turn : BeginTurn unicode session rid contentLength next)
    (isOpen : next.streamRequests other = some number) :
    session.streamRequests other = some number ∨
      number = session.started ∧ next.started = session.started + 1 ∧
        (next.task number).rid = other ∧ (Uuid.ofText unicode other).isSome = true := by
  cases turn with
  | begun valid _ _ _ _ =>
      simp only [answer, ById.set] at isOpen
      split at isOpen
      · rename_i same
        subst same
        obtain rfl := Option.some.inj isOpen
        exact .inr ⟨rfl, rfl, by simp [answer, spawn, modifyTask], valid⟩
      · exact .inl isOpen
  | _ => exact .inl isOpen

theorem step_streamRequests {unicode : UnicodeData} {session next : Session}
    {event : Event} (stepped : step unicode session event = some next) {rid : Text}
    {number : Nat} (isOpen : next.streamRequests rid = some number) :
    session.streamRequests rid = some number ∨
      number = session.started ∧ next.started = session.started + 1 ∧
        (next.task number).rid = rid ∧ (Uuid.ofText unicode rid).isSome = true := by
  have removed : ∀ {table : ById Nat} {other : Text},
      table.set other none rid = some number → table rid = some number := by
    intro table other given
    simp only [ById.set] at given
    split at given
    · cases given
    · exact given
  cases step_turn stepped with
  | begins _ turn => exact streamRequests_of_begin turn isOpen
  | handled _ _ turn => exact .inl (turn.streamRequests ▸ isOpen)
  | erredStream _ _ | refused _ _ | failedStream _ _ | finishedStream _ _ _ =>
      exact .inl (removed isOpen)
  | _ => exact .inl isOpen

end Session

namespace ProxyLoop

/-- The entries of both tables are those of tasks under the same id, and a stream was
opened under a UUID. -/
structure Keyed (unicode : UnicodeData) (loop : ProxyLoop) : Prop where
  streams : ∀ rid number, loop.session.streamRequests rid = some number →
    number < loop.session.started ∧ (loop.session.task number).rid = rid ∧
      (Uuid.ofText unicode rid).isSome = true
  channels : ∀ entry ∈ loop.wsChannels,
    entry.2 < loop.wsStarted ∧ (loop.wsTask entry.2).rid = entry.1

namespace Keyed

variable {unicode : UnicodeData} {loop later : ProxyLoop}

theorem initial (limits : Limits) : Keyed unicode (initial limits) where
  streams := nofun
  channels := nofun

theorem of_sublist (keyed : Keyed unicode loop) (session : later.session = loop.session)
    (channels : later.wsChannels.Sublist loop.wsChannels)
    (rid : ∀ number, (later.wsTask number).rid = (loop.wsTask number).rid)
    (wsStarted : later.wsStarted = loop.wsStarted) : Keyed unicode later where
  streams := session ▸ keyed.streams
  channels := by
    intro entry isEntry
    rw [rid, wsStarted]
    exact keyed.channels entry (channels.subset isEntry)

theorem modifyWsTask (keyed : Keyed unicode loop) (number : Nat) {change : WsTask → WsTask}
    (same : ∀ task, (change task).rid = task.rid) :
    Keyed unicode (loop.modifyWsTask number change) := by
  have kept : ∀ other, ((loop.modifyWsTask number change).wsTask other).rid =
      (loop.wsTask other).rid := by
    intro other
    simp only [ProxyLoop.modifyWsTask]
    split
    · exact same _
    · rfl
  exact keyed.of_sublist rfl (List.Sublist.refl _) kept rfl

theorem popChannel (keyed : Keyed unicode loop) (rid : Text) :
    Keyed unicode (loop.popChannel rid) :=
  keyed.of_sublist rfl Association.pop_sublist (fun _ => rfl) rfl

theorem remember (keyed : Keyed unicode loop) (rid : Text) :
    Keyed unicode (loop.remember rid) :=
  keyed.of_sublist rfl (List.Sublist.refl _) (fun _ => rfl) rfl

theorem answer (keyed : Keyed unicode loop) (rid : Text) (message : String) :
    Keyed unicode (loop.answer rid message) where
  streams := keyed.streams
  channels := keyed.channels

theorem closeChannel (keyed : Keyed unicode loop) (rid : Text) (number : Nat) :
    Keyed unicode (loop.closeChannel rid number) := by
  have cancelled : ∀ task : WsTask, task.cancel.rid = task.rid := fun _ => rfl
  exact ((keyed.modifyWsTask number cancelled).popChannel rid).remember rid

theorem absorb (keyed : Keyed unicode loop) (rid : Text) (message : String) :
    Keyed unicode (loop.absorb rid message) := by
  rw [ProxyLoop.absorb]
  dsimp only
  split <;> exact ⟨keyed.streams, keyed.channels⟩

theorem receive (keyed : Keyed unicode loop) (raw : Bytes) :
    Keyed unicode (loop.receive raw) := by
  rw [ProxyLoop.receive]
  split
  · exact ⟨keyed.streams, keyed.channels⟩
  · dsimp only
    split
    · split
      · exact ⟨keyed.streams, keyed.channels⟩
      · exact keyed.absorb _ _
    · split
      · exact ⟨keyed.streams, keyed.channels⟩
      · exact keyed.absorb _ _
    · exact ⟨keyed.streams, keyed.channels⟩

theorem wsConnect (keyed : Keyed unicode loop) (rid : Text) :
    Keyed unicode (loop.wsConnect rid) := by
  rw [ProxyLoop.wsConnect]
  split
  · exact keyed
  · split
    · exact keyed.answer rid _
    · dsimp only
      split
      · exact ⟨keyed.streams, keyed.channels⟩
      · split
        · exact ⟨keyed.streams, keyed.channels⟩
        · refine ⟨keyed.streams, ?_⟩
          intro entry isEntry
          rcases List.mem_append.mp isEntry with older | isNew
          · rcases keyed.channels entry older with ⟨below, same⟩
            refine ⟨Nat.lt_succ_of_lt below, ?_⟩
            simpa only [ProxyLoop.modifyWsTask, if_neg (Nat.ne_of_lt below)] using same
          · obtain rfl := List.mem_singleton.mp isNew
            refine ⟨Nat.lt_succ_self _, ?_⟩
            simp only [ProxyLoop.modifyWsTask, if_pos]

theorem overflow (keyed : Keyed unicode loop) (rid : Text) :
    Keyed unicode (loop.overflow rid) := by
  rw [ProxyLoop.overflow]
  split
  · exact (keyed.closeChannel rid _).answer rid _
  · exact keyed

theorem wsFinish (keyed : Keyed unicode loop) (number : Nat) :
    Keyed unicode (loop.wsFinish number) := by
  have finished : Keyed unicode
      (loop.modifyWsTask number fun task => { task with phase := .done }) :=
    keyed.modifyWsTask number fun _ => rfl
  rw [ProxyLoop.wsFinish]
  split
  · exact (finished.popChannel _).remember _
  · exact finished.remember _

theorem follow (keyed : Keyed unicode loop) (event : Session.Event) :
    Keyed unicode (loop.follow event) := by
  unfold ProxyLoop.follow
  split
  · split
    · exact keyed.remember _
    · split
      · exact keyed
      · split
        · exact keyed.closeChannel _ _
        · exact keyed
  · split
    · exact keyed.remember _
    · exact keyed
  · split
    · exact keyed
    · exact keyed.remember _
  · exact keyed.of_sublist rfl (List.nil_sublist _) (fun _ => rfl) rfl
  · exact keyed

theorem session_step (keyed : Keyed unicode loop) {event : Session.Event}
    {session : Session} (stepped : loop.session.step unicode event = some session) :
    Keyed unicode { loop.follow event with session } where
  streams := by
    intro rid number isOpen
    have continues := Session.step_continues stepped
    rcases Session.step_streamRequests stepped isOpen with older | ⟨rfl, started, new⟩
    · rcases keyed.streams rid number older with ⟨below, same, isUuid⟩
      exact ⟨Nat.lt_of_lt_of_le below continues.started,
        (continues.rid number below).trans same, isUuid⟩
    · exact ⟨started ▸ Nat.lt_succ_self _, new⟩
  channels := (keyed.follow event).channels

end Keyed

theorem step_keyed {unicode : UnicodeData} (loop : ProxyLoop) (event : Event)
    (next : ProxyLoop) (keyed : Keyed unicode loop)
    (stepped : step unicode loop event = some next) : Keyed unicode next := by
  cases event with
  | session event =>
      rw [step, Option.ite_none_left_eq_some, Option.map_eq_some_iff] at stepped
      rcases stepped with ⟨_, session, sessionStepped, rfl⟩
      exact keyed.session_step sessionStepped
  | wsConnect rid =>
      rw [step, Option.ite_none_right_eq_some] at stepped
      rcases stepped with ⟨_, ⟨⟩⟩
      exact keyed.wsConnect rid
  | wsStart number =>
      rw [step, Option.ite_none_right_eq_some] at stepped
      rcases stepped with ⟨_, ⟨⟩⟩
      exact keyed.modifyWsTask number fun _ => rfl
  | wsFinish number =>
      rw [step, Option.ite_none_right_eq_some] at stepped
      rcases stepped with ⟨_, ⟨⟩⟩
      exact keyed.wsFinish number
  | overflow rid =>
      rw [step, Option.ite_none_right_eq_some] at stepped
      rcases stepped with ⟨_, ⟨⟩⟩
      exact keyed.overflow rid
  | binary raw =>
      rw [step, Option.ite_none_right_eq_some] at stepped
      rcases stepped with ⟨_, ⟨⟩⟩
      exact keyed.receive raw

theorem run_keyed {unicode : UnicodeData} {limits : Limits} {loop : ProxyLoop}
    {events : List Event} (ran : run (step unicode) (initial limits) events = some loop) :
    Keyed unicode loop :=
  invariant_of_run (Keyed unicode) step_keyed (.initial limits) ran

/-! ## Where the data of an id goes -/

def openRoute (loop : ProxyLoop) : BinaryKind → Text → Option Route
  | .httpRequestData, rid => (loop.session.streamRequests rid).map .stream
  | .wsBinaryData, rid => (loop.wsChannels.lookup rid).map .channel
  | .httpResponseData, _ => none

/-- Every data frame that a peer encodes for the id and that is decoded here is handed to
the stream or channel, and nothing else happens. -/
def RoutesData (unicode : UnicodeData) (loop : ProxyLoop) (kind : BinaryKind) (rid : Text)
    (route : Route) : Prop :=
  ∀ (envelope received : BinaryEnvelope) (maxPayload : Int) (raw : Bytes),
    envelope.requestId = rid → envelope.kind = kind →
    envelope.encode unicode maxPayload = .ok raw →
    BinaryEnvelope.decode raw loop.session.limits.negotiatedStreamChunk = .ok received →
    loop.receive raw = loop.handTo route received

theorem absorb_routed (loop : ProxyLoop) (rid : Text) (message : String) :
    (loop.absorb rid message).routed = loop.routed := by
  rw [absorb]
  dsimp only
  split <;> rfl

theorem handTo_inj {loop : ProxyLoop} {left right : Route} {envelope : BinaryEnvelope}
    (same : loop.handTo left envelope = loop.handTo right envelope) : left = right := by
  have entries := List.append_cancel_left (congrArg routed same)
  cases entries
  rfl

theorem handTo_ne {loop later : ProxyLoop} {route : Route} {envelope : BinaryEnvelope}
    (unrouted : later.routed = loop.routed) : later ≠ loop.handTo route envelope := by
  rintro rfl
  have longer := congrArg List.length unrouted
  simp [handTo] at longer

theorem receive_eq_handTo_iff {loop : ProxyLoop} {raw : Bytes} {received : BinaryEnvelope}
    {route : Route}
    (decoded : BinaryEnvelope.decode raw loop.session.limits.negotiatedStreamChunk =
      .ok received) :
    loop.receive raw = loop.handTo route received ↔
      loop.openRoute received.kind received.requestId = some route := by
  rw [receive, decoded]
  dsimp only
  cases received.kind with
  | httpRequestData =>
      rw [openRoute]
      dsimp only
      cases loop.session.streamRequests received.requestId with
      | none => exact iff_of_false (handTo_ne (loop.absorb_routed _ _)) nofun
      | some number =>
          rw [Option.map_some, Option.some.injEq]
          exact ⟨handTo_inj, congrArg (loop.handTo · received)⟩
  | wsBinaryData =>
      rw [openRoute]
      dsimp only
      cases loop.wsChannels.lookup received.requestId with
      | none => exact iff_of_false (handTo_ne (loop.absorb_routed _ _)) nofun
      | some number =>
          rw [Option.map_some, Option.some.injEq]
          exact ⟨handTo_inj, congrArg (loop.handTo · received)⟩
  | httpResponseData => exact iff_of_false (handTo_ne rfl) nofun

theorem openRoute_inj {unicode : UnicodeData} {loop : ProxyLoop} {kind : BinaryKind}
    {left right : Text} {route : Route} (keyed : Keyed unicode loop)
    (isLeft : loop.openRoute kind left = some route)
    (isRight : loop.openRoute kind right = some route) : left = right := by
  have entry : ∀ {rid : Text} {number : Nat}, loop.wsChannels.lookup rid = some number →
      (loop.wsTask number).rid = rid := by
    intro rid number found
    rcases List.lookup_eq_some_iff.mp found with ⟨before, after, spelt, _⟩
    apply (keyed.channels (rid, number) _).2
    simp [spelt]
  cases kind with
  | httpRequestData =>
      rcases Option.map_eq_some_iff.mp isLeft with ⟨number, foundLeft, rfl⟩
      rcases Option.map_eq_some_iff.mp isRight with ⟨other, foundRight, same⟩
      cases same
      exact (keyed.streams left number foundLeft).2.1.symm.trans
        (keyed.streams right number foundRight).2.1
  | wsBinaryData =>
      rcases Option.map_eq_some_iff.mp isLeft with ⟨number, foundLeft, rfl⟩
      rcases Option.map_eq_some_iff.mp isRight with ⟨other, foundRight, same⟩
      cases same
      exact (entry foundLeft).symm.trans (entry foundRight)
  | httpResponseData => cases isLeft

/-- While a stream or a channel is open under an id that can be encoded, it gets all data
of the id if and only if the id is in its canonical spelling, `str(uuid.UUID(id))`. Every
id of a stream can be encoded. -/
theorem open_routesData_iff {unicode : UnicodeData} {limits : Limits} {loop : ProxyLoop}
    {events : List Event} (ran : run (step unicode) (initial limits) events = some loop)
    {kind : BinaryKind} {rid : Text} {route : Route}
    (isOpen : loop.openRoute kind rid = some route)
    (encodable : kind = .wsBinaryData → (Uuid.ofText unicode rid).isSome = true) :
    RoutesData unicode loop kind rid route ↔
      (Uuid.ofText unicode rid).map Uuid.str = some rid := by
  have keyed := run_keyed ran
  have isUuid : (Uuid.ofText unicode rid).isSome = true := by
    cases kind with
    | wsBinaryData => exact encodable rfl
    | httpResponseData => cases isOpen
    | httpRequestData =>
        rcases Option.map_eq_some_iff.mp isOpen with ⟨number, found, _⟩
        exact (keyed.streams rid number found).2.2
  rcases Option.isSome_iff_exists.mp isUuid with ⟨uuid, read⟩
  rw [read, Option.map_some, Option.some.injEq]
  constructor
  · -- an empty frame tells
    intro routes
    have empty : ∃ raw, BinaryEnvelope.encode unicode ⟨rid, kind, [], false, none⟩
        loop.session.limits.negotiatedStreamChunk = .ok raw :=
      BinaryEnvelope.encode_of_fits read (Int.natCast_nonneg _) (by simp) nofun
    rcases empty with ⟨raw, encoded⟩
    rcases BinaryEnvelope.decode_encode encoded with ⟨other, isOther, decoded⟩
    obtain rfl := Option.some.inj (read.symm.trans isOther)
    have handed := routes _ _ _ _ rfl rfl encoded decoded
    exact openRoute_inj keyed ((receive_eq_handTo_iff decoded).mp handed) isOpen
  · intro canonical envelope received maxPayload raw isId isKind encoded decoded
    rcases BinaryEnvelope.decode_eq_of_encode encoded decoded with ⟨other, isOther, same⟩
    rw [isId] at isOther
    obtain rfl := Option.some.inj (read.symm.trans isOther)
    apply (receive_eq_handTo_iff decoded).mpr
    rw [same]
    dsimp only
    rw [canonical, isKind]
    exact isOpen

/-- A session in which `wsConnect` has opened a channel. -/
def withChannel (rid : Text) : ProxyLoop :=
  after (step ⟨fun _ => none⟩) (initial (.withWindow 4 fourFrames)) [.wsConnect rid]

def lowerCaseId : Text := "abcdefab-cdef-4abc-8def-abcdefabcdef".toList

def upperCaseId : Text := "ABCDEFAB-CDEF-4ABC-8DEF-ABCDEFABCDEF".toList

theorem open_routesData_iff_lowerCase :
    RoutesData ⟨fun _ => none⟩ (withChannel lowerCaseId) .wsBinaryData lowerCaseId
      (.channel 0) :=
  (open_routesData_iff (run_eq_after (by decide +kernel)) (by decide +kernel)
    (fun _ => by decide +kernel)).mpr (by decide +kernel)

/-- The data of a stream that was opened in upper case ends the connection. -/
theorem upper_case_id_not_routed :
    ¬∀ (unicode : UnicodeData) (limits : Limits) (events : List Event) (loop : ProxyLoop),
      run (step unicode) (initial limits) events = some loop →
      ∀ (kind : BinaryKind) (rid : Text) (route : Route),
        loop.openRoute kind rid = some route →
        (kind = .wsBinaryData → (Uuid.ofText unicode rid).isSome = true) →
        RoutesData unicode loop kind rid route := by
  intro claim
  have routes := claim ⟨fun _ => none⟩ (.withWindow 4 (by decide))
    [.session (.httpReqBegin upperCaseId none)] _ (run_eq_after (by decide +kernel))
    .httpRequestData upperCaseId (.stream 0) (by decide +kernel) nofun
  have handed := routes ⟨upperCaseId, .httpRequestData, [7], false, some 0⟩
    ⟨lowerCaseId, .httpRequestData, [7], false, some 0⟩ 65536
    ([0x59, 0x44, 1, 1, 16, 0xab, 0xcd, 0xef, 0xab, 0xcd, 0xef, 0x4a, 0xbc, 0x8d, 0xef,
      0xab, 0xcd, 0xef, 0xab, 0xcd, 0xef, 2, 0, 0, 0, 9, 0, 0, 0, 0, 0, 0, 0, 0, 7]) rfl rfl
    (by decide +kernel) (by decide +kernel)
  have raised := congrArg (fun loop : ProxyLoop => loop.session.raised.isSome) handed
  revert raised
  decide +kernel

end ProxyLoop

end YrSandbox.Tunnel
