import YrSandbox.Foundation.Transition
import YrSandbox.Python.Interpreter

/-! # The connection of a terminal session

`_PtyConnection` runs `_thread_main` in a thread of its own, with an event loop of its
own, while threads of the client call `close` and `wait`. A step is a block under
`_state_lock`, the setting of an event, a test, or the return of something that is waited
for. What is waited for may come back, end or raise at any time: a websocket that `close`
closes and a task that it cancels raise too. -/

namespace YrSandbox.Pty

open Python

/-! ## Control frames -/

/-- What `_handle_control` takes from a frame. -/
inductive Control
  | started (sessionId : String)
  | exited (sessionId : String) (exitCode : Int)
  | failed (sessionId : Option String) (message : String)
deriving DecidableEq, Repr

def protocolVersion : Int := 1

section

variable (interpreter : Interpreter)

/-- `event.get("version") == _PROTOCOL_VERSION`, which is so for `True` and `1.0` too. -/
def hasProtocolVersion (event : Dict) : Bool :=
  ((event.get? "version").bind interpreter.key?) = some (.int protocolVersion)

/-- `session_id` if it is a string and not empty -/
def sessionId? (event : Dict) : Option String :=
  match event.get? "session_id" with
  | some (.str sessionId) => if sessionId = "" then none else some sessionId
  | _ => none

/-- The branches of `_handle_control` on the type of an event; `repr` is that of the
type. -/
def controlOf (repr : Json → String) (event : Dict) (sessionId : String) : Control :=
  let eventType := (event.get? "type").getD .null
  match eventType with
  | .str "started" => .started sessionId
  | .str "exited" =>
      match event.get? "exit_code" with
      | some (.int exitCode) => .exited sessionId exitCode
      | _ => .failed none "PTY exit frame has no exit_code"
  | .str "error" =>
      let detail := match event.get? "message" with
        | some (.str detail) => detail
        | _ => "unknown error"
      .failed (some sessionId) ("remote PTY error: " ++ detail)
  | _ => .failed none ("unknown PTY control event " ++ repr eventType)

/-- `_handle_control`: it raises what `json.loads` raises, a `JSONDecodeError`
excepted. -/
def handleControl (repr : Json → String) (message : String) : Except LoadsError Control :=
  match interpreter.loads message with
  | .error (.decodeError text) =>
      .ok (.failed none ("invalid PTY control frame: " ++ text))
  | .error raised => .error raised
  | .ok (.object event) =>
      if hasProtocolVersion interpreter event then
        match sessionId? event with
        | some sessionId => .ok (controlOf repr event sessionId)
        | none => .ok (.failed none "PTY control frame has no session_id")
      else .ok (.failed none "unsupported PTY control frame")
  | .ok _ => .ok (.failed none "unsupported PTY control frame")

end

/-! ## The threads -/

/-- What `_error` holds: a `_PtyTransportError`, or what left `asyncio.run`. -/
inductive Failure
  | transport (message : String)
  | escaped (raised : String)
deriving DecidableEq, Repr

/-- Where the worker goes on when `_done` is set. -/
inductive Resume
  /-- in the loop over the messages, behind `_handle_control` -/
  | control
  /-- `await websocket.close()` and `return`, behind a failed callback -/
  | callback
  /-- at the end of the `except` clause of `_run` -/
  | clause
  /-- at the end of `_run` -/
  | run
  /-- in the `finally` clause of `_thread_main` -/
  | thread
deriving DecidableEq, Repr

/-- Where the worker stands in `_thread_main` and `_run`. -/
inductive Worker
  | unstarted
  | starting
  | connecting
  | resizing
  | iterating
  | calling
  | announcing
  | settingReady (resume : Resume)
  | settingDone (resume : Resume)
  | controlled
  | closing (raised : Bool)
  | excepting
  | reporting
  | finalizing (escaped : Option String)
  | finalized (escaped : Option String)
  | reportingEnd
  | ending
  | endingDone
  | notifying
  | ended
deriving DecidableEq, Repr

def Resume.worker : Resume → Worker
  | .control => .controlled
  | .callback => .closing false
  | .clause => .finalizing none
  | .run => .ending
  | .thread => .ending

inductive Closing
  | entered
  | deciding (loop runTask websocket : Bool)
  | closingWebsocket
  | cancelling
  | awaiting
  | joining
  | returned
  | raised
deriving DecidableEq, Repr

/-- A call of `close`, by the worker's own thread if the callback makes it. -/
structure Closer where
  ownThread : Bool
  closing : Closing
deriving DecidableEq, Repr

/-- A `_PtyConnection`. The flags of `_loop`, `_run_task` and `_websocket` say that they
are not `None`. -/
structure PtyConnection where
  onData : Bool
  ready : Bool
  done : Bool
  loop : Bool
  runTask : Bool
  websocket : Bool
  sessionId : Option String
  exitCode : Option Int
  error : Option Failure
  closedByClient : Bool
  worker : Worker
  closers : List Closer
deriving DecidableEq, Repr

inductive Message
  | binary (data : List UInt8)
  | text (content : String)
deriving DecidableEq, Repr

/-- What the worker does or is answered. The text of an exception is that of `str`, or
what `str` raises in its turn. -/
inductive Work
  /-- a statement that waits for nothing -/
  | proceed
  | startFailed (raised : String)
  | connected
  | resized
  | received (message : Message)
  | exhausted
  | returned
  | callbackRaised (text : Except String String)
  | reported (text : Except String String)
  | closed
  | raised
deriving DecidableEq

/-- What a call of `close` does or is answered. -/
inductive Close
  | proceed
  /-- the loop takes no callbacks any more -/
  | refused
  | timedOut
deriving DecidableEq, Repr

inductive Event
  | start
  | work (work : Work)
  | call (ownThread : Bool)
  | close (index : Nat) (close : Close)

namespace PtyConnection

def initial (onData : Bool) : PtyConnection where
  onData := onData
  ready := false
  done := false
  loop := false
  runTask := false
  websocket := false
  sessionId := none
  exitCode := none
  error := none
  closedByClient := false
  worker := .unstarted
  closers := []

def resume (connection : PtyConnection) (worker : Worker) : PtyConnection :=
  { connection with worker := worker }

/-- `_set_error`, up to the events that it sets. -/
def setError (connection : PtyConnection) (error : Failure) (resume : Resume) :
    PtyConnection :=
  { connection with
    error := connection.error.or (some error), worker := .settingReady resume }

/-- What `_handle_control` writes, up to the events that it sets. -/
def apply (connection : PtyConnection) : Control → PtyConnection
  | .started sessionId =>
      { connection with sessionId := some sessionId, worker := .announcing }
  | .exited sessionId exitCode =>
      { connection with
        sessionId := some sessionId, exitCode := some exitCode,
        worker := .settingReady .control }
  | .failed sessionId message =>
      { connection with sessionId := sessionId.or connection.sessionId }.setError
        (.transport message) .control

/-- Neither closed by the client nor done: what `_run` asks before it reports. -/
def unsettled (connection : PtyConnection) : Bool :=
  !connection.closedByClient && !connection.done

/-- The callback has returned from the calls of `close` that it made. -/
def ownThreadReturned (connection : PtyConnection) : Bool :=
  connection.closers.all fun closer =>
    !closer.ownThread || closer.closing = .returned || closer.closing = .raised

/-! ## Steps -/

def proceed (connection : PtyConnection) : Worker → PtyConnection
  | .announcing => { connection with ready := true, worker := .controlled }
  | .settingReady resume =>
      { connection with ready := true, worker := .settingDone resume }
  | .settingDone resume => { connection with done := true, worker := resume.worker }
  | .controlled =>
      connection.resume (if connection.done then .closing false else .iterating)
  | .excepting =>
      connection.resume (if connection.unsettled then .reporting else .finalizing none)
  | .finalizing escaped =>
      { connection with
        websocket := false, loop := false, runTask := false, worker := .finalized escaped }
  | .finalized (some raised) => connection.setError (.escaped raised) .thread
  | .finalized none =>
      connection.resume (if connection.unsettled then .reportingEnd else .ending)
  | .reportingEnd =>
      connection.setError
        (.transport "PTY connection closed before terminal status") .run
  | .ending => { connection with ready := true, worker := .endingDone }
  | .endingDone => { connection with done := true, worker := .notifying }
  | .notifying => connection.resume .ended
  | _ => connection

/-- `_thread_main` and `_run` until the loop and the task are published. -/
def starting (connection : PtyConnection) : Work → Option PtyConnection
  | .proceed =>
      some { connection with loop := true, runTask := true, worker := .connecting }
  | .startFailed raised => some (connection.setError (.escaped raised) .thread)
  | _ => none

def connecting (connection : PtyConnection) : Work → Option PtyConnection
  | .connected => some { connection with websocket := true, worker := .resizing }
  | .raised => some (connection.resume .excepting)
  | _ => none

/-- `await websocket.send(f"RESIZE:{self._cols}:{self._rows}")` -/
def resizing (connection : PtyConnection) : Work → Option PtyConnection
  | .resized => some (connection.resume .iterating)
  | .raised => some (connection.resume (.closing true))
  | _ => none

/-- `async for message in websocket` -/
def iterating (interpreter : Interpreter) (repr : Json → String)
    (connection : PtyConnection) : Work → Option PtyConnection
  | .received (.binary _) =>
      some (connection.resume (if connection.onData then .calling else .iterating))
  | .received (.text content) =>
      some (match handleControl interpreter repr content with
        | .ok control => connection.apply control
        | .error _ => connection.resume (.closing true))
  | .exhausted => some (connection.resume (.closing false))
  | .raised => some (connection.resume (.closing true))
  | _ => none

/-- `self._on_data(message)` -/
def calling (connection : PtyConnection) : Work → Option PtyConnection
  | .returned => some (connection.resume .iterating)
  | .callbackRaised (.ok text) =>
      some (connection.setError (.transport ("PTY on_data callback failed: " ++ text))
        .callback)
  | .callbackRaised (.error _) => some (connection.resume (.closing true))
  | _ => none

/-- `await websocket.close()`, and the one at the end of `async with` -/
def closing (connection : PtyConnection) (raised : Bool) : Work → Option PtyConnection
  | .closed => some (connection.resume (if raised then .excepting else .finalizing none))
  | .raised => some (connection.resume .excepting)
  | _ => none

/-- The `except` clause of `_run`, behind its test. -/
def reporting (connection : PtyConnection) : Work → Option PtyConnection
  | .reported (.ok text) =>
      some (connection.setError (.transport ("PTY WebSocket connection failed: " ++ text))
        .clause)
  | .reported (.error raised) => some (connection.resume (.finalizing (some raised)))
  | _ => none

section

variable (interpreter : Interpreter) (repr : Json → String)

/-- A step of the worker in `_thread_main` and `_run`. -/
def threadMain (connection : PtyConnection) (work : Work) : Option PtyConnection :=
  match connection.worker with
  | .unstarted | .ended => none
  | .starting => connection.starting work
  | .connecting => connection.connecting work
  | .resizing => connection.resizing work
  | .iterating => connection.iterating interpreter repr work
  | .calling => if connection.ownThreadReturned then connection.calling work else none
  | .closing raised => connection.closing raised work
  | .reporting => connection.reporting work
  | worker => if work = .proceed then some (connection.proceed worker) else none

def runTaskDone (connection : PtyConnection) : Bool :=
  match connection.worker with
  | .settingReady .thread | .settingDone .thread | .ending | .endingDone | .notifying
  | .ended => true
  | _ => false

/-- `thread.is_alive() and current_thread() is not thread` -/
def joins (connection : PtyConnection) (closer : Closer) : Bool :=
  connection.worker ≠ .unstarted && connection.worker ≠ .ended && !closer.ownThread

/-- A step of a call of `close`: where the call stands then. -/
def closes (connection : PtyConnection) (closer : Closer) (close : Close) :
    Option Closing :=
  match closer.closing, close with
  | .entered, .proceed =>
      some (if connection.closedByClient then .returned
        else .deciding connection.loop connection.runTask connection.websocket)
  | .deciding loop runTask websocket, .proceed =>
      some (if loop && websocket && !connection.done then .closingWebsocket
        else if loop && runTask && !connection.runTaskDone then .cancelling
        else .joining)
  | .closingWebsocket, .proceed => some .awaiting
  | .closingWebsocket, .refused | .cancelling, .refused =>
      if connection.runTaskDone then some .raised else none
  | .cancelling, .proceed => some .joining
  | .awaiting, .proceed | .awaiting, .timedOut => some .joining
  | .joining, .proceed => if connection.joins closer then none else some .returned
  | .joining, .timedOut => if connection.joins closer then some .returned else none
  | _, _ => none

/-- `close`: the call that makes its first step is the one that closes. -/
def close (connection : PtyConnection) (index : Nat) (close : Close) :
    Option PtyConnection :=
  connection.closers[index]?.bind fun closer =>
    (connection.closes closer close).map fun closing =>
      { connection with
        closedByClient := connection.closedByClient || closer.closing = .entered
        closers := connection.closers.set index { closer with closing := closing } }

/-- A step of the worker or of a thread of the client. The callback is the only code of
the client that the worker's own thread runs. -/
def step (connection : PtyConnection) : Event → Option PtyConnection
  | .start =>
      if connection.worker = .unstarted then some (connection.resume .starting) else none
  | .work work => connection.threadMain interpreter repr work
  | .call ownThread =>
      if ownThread → connection.worker = .calling ∧ connection.ownThreadReturned then
        some { connection with
          closers :=
            connection.closers ++ [{ ownThread := ownThread, closing := .entered }] }
      else none
  | .close index close => connection.close index close

end

/-! ## Steps of the worker by its stage -/

def proceeds : Worker → Bool
  | .announcing | .settingReady _ | .settingDone _ | .controlled | .excepting
  | .finalizing _ | .finalized _ | .reportingEnd | .ending | .endingDone
  | .notifying => true
  | _ => false

section

variable {interpreter : Interpreter} {repr : Json → String}
  {connection next : PtyConnection} {work : Work}

theorem threadMain_of_proceeds {worker : Worker} (given : connection.worker = worker)
    (waitsForNothing : proceeds worker = true)
    (stepped : connection.threadMain interpreter repr work = some next) :
    work = .proceed ∧ next = connection.proceed worker := by
  rw [threadMain, given] at stepped
  cases worker with
  | announcing | settingReady | settingDone | controlled | excepting | finalizing
  | finalized | reportingEnd | ending | endingDone | notifying =>
      rcases Option.ite_none_right_eq_some.mp stepped with ⟨isProceed, made⟩
      exact ⟨isProceed, (Option.some.inj made).symm⟩
  | _ => cases waitsForNothing

theorem threadMain_of_closing {raised : Bool} (given : connection.worker = .closing raised)
    (stepped : connection.threadMain interpreter repr work = some next) :
    work = .closed ∧
        next = connection.resume (if raised then .excepting else .finalizing none) ∨
      work = .raised ∧ next = connection.resume .excepting := by
  rw [threadMain, given] at stepped
  cases work with
  | closed => exact .inl ⟨rfl, (Option.some.inj stepped).symm⟩
  | raised => exact .inr ⟨rfl, (Option.some.inj stepped).symm⟩
  | _ => cases stepped

theorem threadMain_of_reporting (given : connection.worker = .reporting)
    (stepped : connection.threadMain interpreter repr work = some next) :
    (∃ text, work = .reported (.ok text) ∧ next = connection.setError
        (.transport ("PTY WebSocket connection failed: " ++ text)) .clause) ∨
      ∃ raised, work = .reported (.error raised) ∧
        next = connection.resume (.finalizing (some raised)) := by
  rw [threadMain, given] at stepped
  cases work with
  | reported text =>
      cases text with
      | ok text => exact .inl ⟨text, rfl, (Option.some.inj stepped).symm⟩
      | error raised => exact .inr ⟨raised, rfl, (Option.some.inj stepped).symm⟩
  | _ => cases stepped

end

/-! ## What the client reads -/

inductive WaitError
  | timeout
  | failed (error : Failure)
deriving DecidableEq, Repr

/-- `wait`, with a timeout that ends it while `_done` is not set. -/
def wait (connection : PtyConnection) : Except WaitError Int :=
  if connection.done then
    match connection.error, connection.exitCode with
    | some error, _ => .error (.failed error)
    | none, some exitCode => .ok exitCode
    | none, none =>
        .error (.failed (.transport (if connection.closedByClient then
          "PTY session was closed by the client"
        else "PTY connection closed without an exit status")))
  else .error .timeout

end PtyConnection

end YrSandbox.Pty
