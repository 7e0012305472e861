import YrSandbox.Pty.Connection

/-! # The outcome of a terminal session -/

namespace YrSandbox.Pty

open Python Transition

variable {interpreter : Interpreter} {repr : Json → String}

/-! ## Terminal events -/

def ExitFrame (interpreter : Interpreter) (content : String) (exitCode : Int) : Prop :=
  ∃ (event : Dict) (sessionId : String), interpreter.loads content = .ok (.object event) ∧
    hasProtocolVersion interpreter event = true ∧
    event.get? "session_id" = some (.str sessionId) ∧ sessionId ≠ "" ∧
    event.get? "type" = some (.str "exited") ∧
    event.get? "exit_code" = some (.int exitCode)

/-- What ends a session: a control frame that is no valid `started` frame, the failure of
the callback, of the connection or of its start, and its end. -/
def Event.terminal (interpreter : Interpreter) (repr : Json → String) : Event → Bool
  | .work (.received (.text content)) =>
      match handleControl interpreter repr content with
      | .ok (.started _) => false
      | _ => true
  | .work (.startFailed _) | .work (.callbackRaised _) | .work .exhausted
  | .work .raised => true
  | _ => false

def Event.exitCode? (interpreter : Interpreter) (repr : Json → String) :
    Event → Option Int
  | .work (.received (.text content)) =>
      match handleControl interpreter repr content with
      | .ok (.exited _ exitCode) => some exitCode
      | _ => none
  | _ => none

theorem sessionId?_eq_some {event : Dict} {sessionId : String} :
    sessionId? event = some sessionId ↔
      event.get? "session_id" = some (.str sessionId) ∧ sessionId ≠ "" := by
  unfold sessionId?
  split
  · rename_i text given
    rw [given]
    by_cases empty : text = "" <;> grind
  · rename_i other
    constructor
    · exact nofun
    · rintro ⟨given, -⟩
      exact absurd given (other sessionId)

theorem getD_eq_str {value : Option Json} {text : String} :
    value.getD .null = .str text ↔ value = some (.str text) := by
  cases value <;> simp

theorem controlOf_eq_exited {event : Dict} {sessionId other : String} {exitCode : Int} :
    controlOf repr event sessionId = .exited other exitCode ↔
      event.get? "type" = some (.str "exited") ∧
        event.get? "exit_code" = some (.int exitCode) ∧ sessionId = other := by
  rw [controlOf, ← getD_eq_str]
  generalize (event.get? "type").getD .null = eventType
  simp only
  split
  · simp
  · cases event.get? "exit_code" with
    | none => simp
    | some value => cases value <;> simp [and_comm]
  · simp
  · rename_i notExited _
    constructor
    · exact nofun
    · rintro ⟨exited, -⟩
      exact absurd exited notExited

theorem handleControl_eq_exited {content : String} {exitCode : Int} :
    (∃ sessionId, handleControl interpreter repr content =
      .ok (.exited sessionId exitCode)) ↔ ExitFrame interpreter content exitCode := by
  unfold handleControl ExitFrame
  split
  · rename_i loaded
    simp [loaded]
  · rename_i loaded
    simp [loaded]
  · rename_i event loaded
    simp only [loaded, Except.ok.injEq, Json.object.injEq]
    cases version : hasProtocolVersion interpreter event with
    | false => simp [version]
    | true =>
        cases session : sessionId? event with
        | none =>
            constructor
            · rintro ⟨_, handled⟩
              simp at handled
            · rintro ⟨_, sessionId, rfl, -, given, nonempty, -⟩
              rw [sessionId?_eq_some.mpr ⟨given, nonempty⟩] at session
              cases session
        | some sessionId =>
            rcases sessionId?_eq_some.mp session with ⟨given, nonempty⟩
            simp only [if_true, Except.ok.injEq, controlOf_eq_exited]
            grind
  · rename_i other loaded
    constructor
    · rintro ⟨_, handled⟩
      simp at handled
    · rintro ⟨event, _, object, -⟩
      exact absurd (Except.ok.inj (loaded.symm.trans object)) (other event)

theorem exitCode?_eq_some {event : Event} {exitCode : Int} :
    event.exitCode? interpreter repr = some exitCode ↔ ∃ content,
      event = .work (.received (.text content)) ∧
        ExitFrame interpreter content exitCode := by
  unfold Event.exitCode?
  split
  · rename_i content
    simp only [Event.work.injEq, Work.received.injEq, Message.text.injEq,
      exists_eq_left', ← @handleControl_eq_exited interpreter repr]
    split
    · rename_i given
      simp [given]
    · rename_i other
      simpa using fun sessionId => other sessionId exitCode
  · rename_i other
    simpa using fun content equal => absurd equal (other content)

/-! ## Stages of a session -/

def Worker.undecided : Worker → Bool
  | .unstarted | .starting | .connecting | .resizing | .iterating | .calling | .announcing
  | .controlled => true
  | _ => false

/-- From a terminal event that recorded nothing until something is recorded or `_done` is
set. -/
def Worker.failing : Worker → Bool
  | .closing _ | .excepting | .reporting | .finalizing _ | .finalized _ | .reportingEnd
  | .ending | .endingDone => true
  | _ => false

def Worker.windingUp : Worker → Bool
  | .controlled | .closing _ | .excepting | .finalizing none | .finalized none | .ending
  | .endingDone | .notifying | .ended => true
  | _ => false

namespace PtyConnection

inductive Follows (interpreter : Interpreter) (repr : Json → String) :
    Option Event → PtyConnection → Prop
  | undecided {connection : PtyConnection} (worker : connection.worker.undecided = true)
      (exitCode : connection.exitCode = none) (error : connection.error = none)
      (done : connection.done = false) : Follows interpreter repr none connection
  | recorded {first : Event} {connection : PtyConnection} (resume : Resume)
      (worker : connection.worker = .settingReady resume ∨
        connection.worker = .settingDone resume)
      (exitCode : connection.exitCode = first.exitCode? interpreter repr)
      (alone : connection.exitCode = none ∨ connection.error = none)
      (done : connection.done = false) : Follows interpreter repr (some first) connection
  | failing {first : Event} {connection : PtyConnection}
      (worker : connection.worker.failing = true)
      (exitCode : connection.exitCode = none)
      (silent : first.exitCode? interpreter repr = none)
      (done : connection.done = false) : Follows interpreter repr (some first) connection
  | finished {first : Event} {connection : PtyConnection}
      (worker : connection.worker.windingUp = true)
      (exitCode : connection.exitCode = first.exitCode? interpreter repr)
      (alone : connection.exitCode = none ∨ connection.error = none)
      (done : connection.done = true) : Follows interpreter repr (some first) connection

theorem follows_initial (onData : Bool) :
    Follows interpreter repr none (initial onData) := .undecided rfl rfl rfl rfl

theorem threadMain_windingUp {connection next : PtyConnection} {work : Work}
    (worker : connection.worker.windingUp = true) (done : connection.done = true)
    (stepped : connection.threadMain interpreter repr work = some next) :
    next.worker.windingUp = true ∧ next.done = true ∧ next.exitCode = connection.exitCode ∧
      next.error = connection.error ∧ ∀ message, work ≠ .received message := by
  cases given : connection.worker with
  | closing raised =>
      rcases threadMain_of_closing given stepped with ⟨rfl, rfl⟩ | ⟨rfl, rfl⟩
      · cases raised <;> exact ⟨rfl, done, rfl, rfl, nofun⟩
      · exact ⟨rfl, done, rfl, rfl, nofun⟩
  | ended => simp [threadMain, given] at stepped
  | controlled | excepting | ending | endingDone | notifying =>
      rcases threadMain_of_proceeds given rfl stepped with ⟨rfl, rfl⟩
      simp [proceed, resume, unsettled, done, Worker.windingUp]
  | finalizing escaped | finalized escaped =>
      cases escaped with
      | none =>
          rcases threadMain_of_proceeds given rfl stepped with ⟨rfl, rfl⟩
          simp [proceed, resume, unsettled, done, Worker.windingUp]
      | some raised => simp [given, Worker.windingUp] at worker
  | _ => simp [given, Worker.windingUp] at worker

theorem follows_setError {first : Event} {connection : PtyConnection} (error : Failure)
    (resume : Resume) (exitCode : connection.exitCode = none)
    (silent : first.exitCode? interpreter repr = none) (done : connection.done = false) :
    Follows interpreter repr (some first) (connection.setError error resume) :=
  .recorded resume (.inl rfl) (exitCode.trans silent.symm) (.inl exitCode) done

theorem follows_proceed_of_failing {first : Event} {connection : PtyConnection}
    (worker : connection.worker.failing = true) (exitCode : connection.exitCode = none)
    (silent : first.exitCode? interpreter repr = none) (done : connection.done = false) :
    Follows interpreter repr (some first) (connection.proceed connection.worker) := by
  cases given : connection.worker with
  | excepting =>
      cases unsettled : connection.unsettled <;>
        exact .failing (by simp [proceed, unsettled, resume, Worker.failing])
          exitCode silent
          done
  | finalizing escaped => exact .failing rfl exitCode silent done
  | finalized escaped =>
      cases escaped with
      | some raised => exact follows_setError _ _ exitCode silent done
      | none =>
          cases unsettled : connection.unsettled <;>
            exact .failing (by simp [proceed, unsettled, resume, Worker.failing]) exitCode
              silent done
  | reportingEnd => exact follows_setError _ _ exitCode silent done
  | ending => exact .failing rfl exitCode silent done
  | endingDone => exact .finished rfl (exitCode.trans silent.symm) (.inl exitCode) rfl
  | closing raised | reporting => exact .failing worker exitCode silent done
  | _ => simp [given, Worker.failing] at worker

theorem follows_of_failing {first : Event} {connection next : PtyConnection} {work : Work}
    (worker : connection.worker.failing = true) (exitCode : connection.exitCode = none)
    (silent : first.exitCode? interpreter repr = none) (done : connection.done = false)
    (stepped : connection.threadMain interpreter repr work = some next) :
    Follows interpreter repr (some first) next := by
  have proceeds := follows_proceed_of_failing worker exitCode silent done
  cases given : connection.worker with
  | closing raised =>
      rcases threadMain_of_closing given stepped with ⟨rfl, rfl⟩ | ⟨rfl, rfl⟩
      · cases raised <;> exact .failing rfl exitCode silent done
      · exact .failing rfl exitCode silent done
  | reporting =>
      rcases threadMain_of_reporting given stepped with ⟨text, rfl, rfl⟩ |
        ⟨raised, rfl, rfl⟩
      · exact follows_setError _ _ exitCode silent done
      · exact .failing rfl exitCode silent done
  | excepting | finalizing escaped | finalized escaped | reportingEnd | ending
  | endingDone =>
      rcases threadMain_of_proceeds given rfl stepped with ⟨rfl, rfl⟩
      rwa [given] at proceeds
  | _ => simp [given, Worker.failing] at worker

theorem follows_of_recorded {first : Event} {connection next : PtyConnection} {work : Work}
    {resume : Resume} (worker : connection.worker = .settingReady resume ∨
      connection.worker = .settingDone resume)
    (exitCode : connection.exitCode = first.exitCode? interpreter repr)
    (alone : connection.exitCode = none ∨ connection.error = none)
    (done : connection.done = false)
    (stepped : connection.threadMain interpreter repr work = some next) :
    Follows interpreter repr (some first) next := by
  rcases worker with given | given
  · rcases threadMain_of_proceeds given rfl stepped with ⟨rfl, rfl⟩
    exact .recorded resume (.inr rfl) exitCode alone done
  · rcases threadMain_of_proceeds given rfl stepped with ⟨rfl, rfl⟩
    have finished : resume.worker.windingUp = true := by cases resume <;> rfl
    exact .finished finished exitCode alone rfl

def firstTerminal (interpreter : Interpreter) (repr : Json → String)
    (first : Option Event) (event : Event) : Option Event :=
  first.or (if event.terminal interpreter repr then some event else none)

theorem firstTerminal_of_silent {first : Option Event} {event : Event}
    (silent : event.terminal interpreter repr = false) :
    firstTerminal interpreter repr first event = first := by
  simp [firstTerminal, silent]

theorem follows_apply {connection : PtyConnection} {content : String} {control : Control}
    (handled : handleControl interpreter repr content = .ok control)
    (exitCode : connection.exitCode = none) (error : connection.error = none)
    (done : connection.done = false) :
    Follows interpreter repr
      (firstTerminal interpreter repr none (.work (.received (.text content))))
      (connection.apply control) := by
  cases control with
  | started sessionId =>
      simp only [firstTerminal, Event.terminal, handled]
      exact .undecided rfl exitCode error done
  | exited sessionId code =>
      simp only [firstTerminal, Event.terminal, handled]
      exact .recorded .control (.inl rfl) (by simp [apply, Event.exitCode?, handled])
        (.inr error) done
  | failed sessionId message =>
      simp only [firstTerminal, Event.terminal, handled]
      exact follows_setError _ _ exitCode (by simp [Event.exitCode?, handled]) done

theorem follows_of_undecided {connection next : PtyConnection} {work : Work}
    (worker : connection.worker.undecided = true) (exitCode : connection.exitCode = none)
    (error : connection.error = none) (done : connection.done = false)
    (stepped : connection.threadMain interpreter repr work = some next) :
    Follows interpreter repr (firstTerminal interpreter repr none (.work work)) next := by
  cases given : connection.worker with
  | starting =>
      simp only [threadMain, given] at stepped
      unfold starting at stepped
      split at stepped <;> cases stepped
      · exact .undecided rfl exitCode error done
      · exact follows_setError _ _ exitCode rfl done
  | connecting =>
      simp only [threadMain, given] at stepped
      unfold connecting at stepped
      split at stepped <;> cases stepped
      · exact .undecided rfl exitCode error done
      · exact .failing rfl exitCode rfl done
  | resizing =>
      simp only [threadMain, given] at stepped
      unfold resizing at stepped
      split at stepped <;> cases stepped
      · exact .undecided rfl exitCode error done
      · exact .failing rfl exitCode rfl done
  | iterating =>
      simp only [threadMain, given] at stepped
      unfold iterating at stepped
      split at stepped <;> cases stepped
      · cases connection.onData <;> exact .undecided rfl exitCode error done
      · rename_i content
        cases handled : handleControl interpreter repr content with
        | ok control => exact follows_apply handled exitCode error done
        | error raised =>
            simp only [firstTerminal, Event.terminal, handled]
            exact .failing rfl exitCode (by simp [Event.exitCode?, handled]) done
      · exact .failing rfl exitCode rfl done
      · exact .failing rfl exitCode rfl done
  | calling =>
      simp only [threadMain, given, Option.ite_none_right_eq_some] at stepped
      rcases stepped with ⟨-, stepped⟩
      unfold calling at stepped
      split at stepped <;> cases stepped
      · exact .undecided rfl exitCode error done
      · exact follows_setError _ _ exitCode rfl done
      · exact .failing rfl exitCode rfl done
  | announcing =>
      rcases threadMain_of_proceeds given rfl stepped with ⟨rfl, rfl⟩
      exact .undecided rfl exitCode error done
  | controlled =>
      rcases threadMain_of_proceeds given rfl stepped with ⟨rfl, rfl⟩
      exact .undecided (by simp [proceed, done, resume, Worker.undecided])
        exitCode error done
  | unstarted => simp [threadMain, given] at stepped
  | _ => simp [given, Worker.undecided] at worker

theorem Follows.threadMain {first : Option Event} {connection next : PtyConnection}
    {work : Work} (follows : Follows interpreter repr first connection)
    (stepped : connection.threadMain interpreter repr work = some next) :
    Follows interpreter repr (firstTerminal interpreter repr first (.work work)) next := by
  cases follows with
  | undecided worker exitCode error done =>
      exact follows_of_undecided worker exitCode error done stepped
  | recorded resume worker exitCode alone done =>
      exact follows_of_recorded worker exitCode alone done stepped
  | failing worker exitCode silent done =>
      exact follows_of_failing worker exitCode silent done stepped
  | finished worker exitCode alone done =>
      rcases threadMain_windingUp worker done stepped with
        ⟨worker, done, sameCode, sameError, -⟩
      rw [← sameCode] at exitCode
      rw [← sameCode, ← sameError] at alone
      exact .finished worker exitCode alone done

theorem Follows.of_same {first : Option Event} {connection next : PtyConnection}
    (follows : Follows interpreter repr first connection)
    (worker : next.worker = connection.worker) (done : next.done = connection.done)
    (exitCode : next.exitCode = connection.exitCode)
    (error : next.error = connection.error) :
    Follows interpreter repr first next := by
  cases follows with
  | undecided _ _ _ _ => constructor <;> simp_all
  | recorded resume _ _ _ _ => apply Follows.recorded resume <;> simp_all
  | failing _ _ _ _ => apply Follows.failing <;> simp_all
  | finished _ _ _ _ => apply Follows.finished <;> simp_all

theorem close_eq {connection next : PtyConnection} {index : Nat} {close : Close}
    (stepped : connection.close index close = some next) :
    next.worker = connection.worker ∧ next.done = connection.done ∧
      next.exitCode = connection.exitCode ∧ next.error = connection.error := by
  rcases Option.bind_eq_some_iff.mp stepped with ⟨closer, -, closed⟩
  rcases Option.map_eq_some_iff.mp closed with ⟨closing, -, rfl⟩
  exact ⟨rfl, rfl, rfl, rfl⟩

theorem Follows.step {first : Option Event} {connection next : PtyConnection}
    {event : Event} (follows : Follows interpreter repr first connection)
    (stepped : connection.step interpreter repr event = some next) :
    Follows interpreter repr (firstTerminal interpreter repr first event) next := by
  cases event with
  | start =>
      rcases Option.ite_none_right_eq_some.mp stepped with ⟨unstarted, stepped⟩
      cases stepped
      cases follows with
      | undecided _ exitCode error done => exact .undecided rfl exitCode error done
      | recorded resume worker _ _ _ => simp [unstarted] at worker
      | failing worker _ _ _ | finished worker _ _ _ =>
          rw [unstarted] at worker; cases worker
  | work work => exact follows.threadMain stepped
  | call ownThread =>
      rcases Option.ite_none_right_eq_some.mp stepped with ⟨-, stepped⟩
      cases stepped
      rw [firstTerminal_of_silent rfl]
      exact follows.of_same rfl rfl rfl rfl
  | close index close =>
      rcases close_eq stepped with ⟨worker, done, exitCode, error⟩
      rw [firstTerminal_of_silent rfl]
      exact follows.of_same worker done exitCode error

theorem find?_cons_firstTerminal (first : Option Event) (event : Event)
    (events : List Event) :
    first.or ((event :: events).find? (Event.terminal interpreter repr)) =
      (firstTerminal interpreter repr first event).or
        (events.find? (Event.terminal interpreter repr)) := by
  cases first <;> cases terminal : event.terminal interpreter repr <;>
    simp [firstTerminal, List.find?, terminal]

theorem Follows.run {first : Option Event} {connection final : PtyConnection}
    {events : List Event} (follows : Follows interpreter repr first connection)
    (ran : run (PtyConnection.step interpreter repr) connection events = some final) :
    Follows interpreter repr
      (first.or (events.find? (Event.terminal interpreter repr))) final := by
  induction events generalizing first connection with
  | nil =>
      cases ran
      simpa using follows
  | cons event events induction =>
      rcases run_cons ran with ⟨next, stepped, rest⟩
      rw [find?_cons_firstTerminal]
      exact induction (follows.step stepped) rest

/-! ## The outcome -/

/-- What no step changes once `_done` is set. -/
structure Settled (exitCode : Option Int) (error : Option Failure)
    (connection : PtyConnection) : Prop where
  worker : connection.worker.windingUp = true
  done : connection.done = true
  exitCode : connection.exitCode = exitCode
  error : connection.error = error

theorem Settled.step {exitCode : Option Int} {error : Option Failure}
    {connection next : PtyConnection} {event : Event}
    (settled : Settled exitCode error connection)
    (stepped : connection.step interpreter repr event = some next) :
    Settled exitCode error next ∧ ∀ message, event ≠ .work (.received message) := by
  rcases settled with ⟨worker, done, rfl, rfl⟩
  cases event with
  | start =>
      rcases Option.ite_none_right_eq_some.mp stepped with ⟨unstarted, -⟩
      rw [unstarted] at worker
      cases worker
  | work work =>
      rcases threadMain_windingUp worker done stepped with
        ⟨worker, done, exitCode, error, others⟩
      exact ⟨⟨worker, done, exitCode, error⟩, fun message equal =>
        others message (Event.work.inj equal)⟩
  | call ownThread =>
      rcases Option.ite_none_right_eq_some.mp stepped with ⟨-, stepped⟩
      cases stepped
      exact ⟨⟨worker, done, rfl, rfl⟩, nofun⟩
  | close index close =>
      rcases close_eq stepped with ⟨sameWorker, sameDone, exitCode, error⟩
      exact ⟨⟨sameWorker ▸ worker, sameDone ▸ done, exitCode, error⟩, nofun⟩

theorem Settled.run {exitCode : Option Int} {error : Option Failure}
    {connection final : PtyConnection} {events : List Event}
    (settled : Settled exitCode error connection)
    (ran : run (PtyConnection.step interpreter repr) connection events = some final) :
    Settled exitCode error final ∧ ∀ message, .work (.received message) ∉ events := by
  induction events generalizing connection with
  | nil =>
      cases ran
      exact ⟨settled, nofun⟩
  | cons event events induction =>
      rcases run_cons ran with ⟨next, stepped, rest⟩
      rcases settled.step stepped with ⟨settled, other⟩
      rcases induction settled rest with ⟨settled, others⟩
      refine ⟨settled, fun message member => ?_⟩
      rcases List.mem_cons.mp member with equal | member
      · exact other message equal.symm
      · exact others message member

theorem Follows.settled {first : Option Event} {connection : PtyConnection}
    (follows : Follows interpreter repr first connection) (done : connection.done = true) :
    Settled connection.exitCode connection.error connection := by
  cases follows with
  | finished worker _ _ _ => exact ⟨worker, done, rfl, rfl⟩
  | undecided _ _ _ pending | recorded _ _ _ _ pending | failing _ _ _ pending =>
      rw [pending] at done
      cases done

theorem Follows.alone {first : Option Event} {connection : PtyConnection}
    (follows : Follows interpreter repr first connection) :
    connection.exitCode = none ∨ connection.error = none := by
  cases follows with
  | undecided _ exitCode _ _ | failing _ exitCode _ _ => exact .inl exitCode
  | recorded _ _ _ alone _ | finished _ _ alone _ => exact alone

theorem Follows.exitCode {first : Option Event} {connection : PtyConnection}
    (follows : Follows interpreter repr first connection) :
    connection.exitCode = first.bind (Event.exitCode? interpreter repr) := by
  cases follows with
  | undecided _ exitCode _ _ => exact exitCode
  | failing _ exitCode silent _ => exact exitCode.trans silent.symm
  | recorded _ _ exitCode _ _ | finished _ exitCode _ _ => exact exitCode

theorem Follows.done_of_ended {first : Option Event} {connection : PtyConnection}
    (follows : Follows interpreter repr first connection)
    (ended : connection.worker = .ended) : connection.done = true := by
  cases follows with
  | finished _ _ _ done => exact done
  | undecided worker _ _ _ | failing worker _ _ _ => rw [ended] at worker; cases worker
  | recorded resume worker _ _ _ => simp [ended] at worker

theorem wait_eq_ok {connection : PtyConnection} {exitCode : Int} :
    connection.wait = .ok exitCode ↔ connection.done = true ∧ connection.error = none ∧
      connection.exitCode = some exitCode := by
  unfold wait
  cases connection.done <;> cases connection.error <;> cases connection.exitCode <;> simp

/-- The first terminal event decides what becomes of a session: once `_done` is set it
stays so, nothing that `wait` reads changes and no message is taken; and `wait` returns a
code just if that event was a valid `exited` frame with the code. -/
theorem outcome_decided_once (interpreter : Interpreter) (repr : Json → String)
    (onData : Bool) (events : List Event) (final : PtyConnection)
    (ran : Transition.run (step interpreter repr) (initial onData) events = some final) :
    (final.exitCode = none ∨ final.error = none) ∧
    (∀ (later : List Event) (last : PtyConnection), final.done = true →
      Transition.run (step interpreter repr) final later = some last →
      last.done = true ∧ last.exitCode = final.exitCode ∧ last.error = final.error ∧
        ∀ message, .work (.received message) ∉ later) ∧
    (final.worker = .ended → final.done = true) ∧
    ∀ exitCode, final.wait = .ok exitCode ↔ final.done = true ∧
      ∃ content, events.find? (Event.terminal interpreter repr) =
        some (.work (.received (.text content))) ∧
          ExitFrame interpreter content exitCode := by
  have follows := (follows_initial onData).run ran
  rw [Option.none_or] at follows
  refine ⟨follows.alone, ?_, ?_, ?_⟩
  · intro later last done continued
    rcases (follows.settled done).run continued with ⟨settled, others⟩
    exact ⟨settled.done, settled.exitCode, settled.error, others⟩
  · exact follows.done_of_ended
  · intro exitCode
    rw [wait_eq_ok]
    constructor
    · rintro ⟨done, -, exited⟩
      rw [follows.exitCode] at exited
      rcases Option.bind_eq_some_iff.mp exited with ⟨event, found, exited⟩
      rcases exitCode?_eq_some.mp exited with ⟨content, rfl, exitFrame⟩
      exact ⟨done, content, found, exitFrame⟩
    · rintro ⟨done, content, found, exited⟩
      have exitCode : final.exitCode = some exitCode := by
        rw [follows.exitCode, found]
        exact exitCode?_eq_some.mpr ⟨content, rfl, exited⟩
      have error : final.error = none := follows.alone.resolve_left (by simp [exitCode])
      exact ⟨done, error, exitCode⟩

end PtyConnection

def answering (value : Json) : Interpreter where
  loads := fun _ => .ok value
  dumps := fun _ => ""
  nesting := 4
  framesNest := Nat.le_succ 3
  floatValue := .inr
  unicode := ⟨fun _ => none⟩
  builtins := ⟨fun _ => none, fun _ => none, fun _ => ""⟩

def exitFrame : Json :=
  .object [("version", .int 1), ("type", .str "exited"), ("session_id", .str "session"),
    ("exit_code", .int 0)]

def exitEvents : List Event :=
  [.start, .work .proceed, .work .connected, .work .resized,
    .work (.received (.text
      "\x7b\"version\":1,\"type\":\"exited\",\"session_id\":\"session\",\"exit_code\":0\x7d")),
    .work .proceed, .work .proceed, .call false, .close 0 .proceed]

namespace PtyConnection

theorem outcome_decided_once_exited :
    (after (step (answering exitFrame) fun _ => "") (initial false) exitEvents).wait =
      .ok 0 :=
  ((outcome_decided_once (answering exitFrame) (fun _ => "") false exitEvents _
    (run_eq_after (by decide))).2.2.2 0).mpr ⟨by decide, _, rfl, [("version", .int 1),
      ("type", .str "exited"), ("session_id", .str "session"), ("exit_code", .int 0)],
      "session", rfl, by decide, rfl, by decide, rfl, rfl⟩

end PtyConnection

end YrSandbox.Pty
