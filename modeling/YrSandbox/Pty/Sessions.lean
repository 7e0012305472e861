import YrSandbox.Pty.Connection

/-! # Creating and closing terminal sessions

One call of `Pty.create`, the threads that call `Pty._close` or `PtySession.close`
meanwhile, and the worker of the session. -/

namespace YrSandbox.Pty

open Python Transition

/-! ## The worker's connection -/

def Worker.processing : Worker → Bool
  | .resizing | .iterating | .calling | .announcing | .controlled
  | .settingReady .control | .settingDone .control | .settingReady .callback
  | .settingDone .callback => true
  | _ => false

def Worker.live : Worker → Bool
  | .starting | .connecting => true
  | worker => worker.processing

namespace PtyConnection

def closeReturned (connection : PtyConnection) : Bool :=
  connection.closers.any fun closer => closer.closing = .returned

@[simp] theorem closers_resume (connection : PtyConnection) (worker : Worker) :
    (connection.resume worker).closers = connection.closers := rfl

@[simp] theorem closers_setError (connection : PtyConnection) (error : Failure)
    (resume : Resume) : (connection.setError error resume).closers = connection.closers :=
      rfl

@[simp] theorem closers_apply (connection : PtyConnection) (control : Control) :
    (connection.apply control).closers = connection.closers := by
  cases control <;> rfl

@[simp] theorem closers_proceed (connection : PtyConnection) (worker : Worker) :
    (connection.proceed worker).closers = connection.closers := by
  cases worker with
  | finalized escaped => cases escaped <;> rfl
  | _ => rfl

theorem closers_threadMain {interpreter : Interpreter} {repr : Json → String}
    {connection next : PtyConnection} {work : Work}
    (stepped : connection.threadMain interpreter repr work = some next) :
    next.closers = connection.closers := by
  unfold threadMain starting connecting resizing iterating calling closing reporting
    at stepped
  grind [closers_resume, closers_setError, closers_apply, closers_proceed]

theorem live_of_threadMain {interpreter : Interpreter} {repr : Json → String}
    {connection next : PtyConnection} {work : Work}
    (stepped : connection.threadMain interpreter repr work = some next)
    (live : next.worker.live = true) : connection.worker.live = true := by
  cases given : connection.worker with
  | starting | connecting | resizing | iterating | calling | announcing | controlled => rfl
  | settingReady resume | settingDone resume =>
      cases resume with
      | control | callback => rfl
      | clause | run | thread =>
          rcases threadMain_of_proceeds given rfl stepped with ⟨-, rfl⟩
          cases live
  | unstarted | ended => simp [threadMain, given] at stepped
  | closing raised =>
      rcases threadMain_of_closing given stepped with ⟨-, rfl⟩ | ⟨-, rfl⟩
      · cases raised <;> cases live
      · cases live
  | reporting =>
      rcases threadMain_of_reporting given stepped with ⟨text, -, rfl⟩ | ⟨raised, -, rfl⟩
      · cases live
      · cases live
  | excepting =>
      rcases threadMain_of_proceeds given rfl stepped with ⟨-, rfl⟩
      cases unsettled : connection.unsettled <;>
        simp [proceed, resume, unsettled, Worker.live, Worker.processing] at live
  | finalized escaped =>
      rcases threadMain_of_proceeds given rfl stepped with ⟨-, rfl⟩
      cases escaped <;> cases unsettled : connection.unsettled <;>
        simp [proceed, resume, setError, unsettled, Worker.live, Worker.processing] at live
  | finalizing escaped | reportingEnd | ending | endingDone | notifying =>
      rcases threadMain_of_proceeds given rfl stepped with ⟨-, rfl⟩
      cases live

end PtyConnection

/-! ## `Pty` -/

/-- Where `Pty.create` stands; `closing` is one of its calls of `transport.close`, by its
index, and the other `timingOut`, which `start` makes. -/
inductive Creating
  | built
  | registered
  | waiting
  | timingOut (index : Nat)
  | failing
  | closing (index : Nat)
  | returned
  | raised
deriving DecidableEq, Repr

/-- A session of a `Pty`: whether it is in `_sessions`, and how many calls of `_close` have
found it there and are still to close it. -/
structure PtySession where
  connection : PtyConnection
  creating : Creating
  registered : Bool
  found : Nat
deriving DecidableEq, Repr

inductive Action
  /-- `self._sessions.add(session)` -/
  | register
  /-- `self._thread.start()` -/
  | start
  /-- `self._ready.wait(timeout)` has returned `True` -/
  | readied
  | timedOut
  /-- `create` goes on behind a call of `close` -/
  | proceed
  /-- `sessions = list(self._sessions)` in `_close` -/
  | find
  /-- `session.close()` in `_close` -/
  | closeFound (ownThread : Bool)
  /-- `session.close()` by whom `create` has returned the session to -/
  | closeSession (ownThread : Bool)
  /-- `self._remove(session)`, behind a call of `close` or in `on_done` -/
  | remove
  | work (work : Work)
  | close (index : Nat) (close : Close)

namespace PtySession

def initial (onData : Bool) : PtySession where
  connection := .initial onData
  creating := .built
  registered := false
  found := 0

section

variable (interpreter : Interpreter) (repr : Json → String)

def step (session : PtySession) (action : Action) : Option PtySession :=
  match action with
  | .register =>
      if session.creating = .built then
        some { session with creating := .registered, registered := true }
      else none
  | .start =>
      if session.creating = .registered then
        (session.connection.step interpreter repr .start).map fun connection =>
          { session with connection := connection, creating := .waiting }
      else none
  | .readied =>
      if session.creating = .waiting ∧ session.connection.ready then
        some { session with
          creating := match session.connection.error, session.connection.sessionId with
            | some (.escaped _), _ => .raised
            | some (.transport _), _ => .failing
            | none, none => .failing
            | none, some _ => .returned }
      else none
  | .timedOut =>
      if session.creating = .waiting ∧ !session.connection.ready then
        (session.connection.step interpreter repr (.call false)).map fun connection =>
          { session with
            connection := connection
            creating := .timingOut session.connection.closers.length }
      else none
  | .proceed =>
      match session.creating with
      | .timingOut index =>
          match session.connection.closers[index]?.map Closer.closing with
          | some .returned => some { session with creating := .failing }
          | some .raised => some { session with creating := .raised }
          | _ => none
      | .failing =>
          (session.connection.step interpreter repr (.call false)).map fun connection =>
            { session with
              connection := connection
              creating := .closing session.connection.closers.length }
      | .closing index =>
          match session.connection.closers[index]?.map Closer.closing with
          | some .returned =>
              some { session with creating := .raised, registered := false }
          | some .raised => some { session with creating := .raised }
          | _ => none
      | _ => none
  | .find => some (if session.registered then { session with found := session.found + 1 }
      else session)
  | .closeFound ownThread =>
      if 0 < session.found then
        (session.connection.step interpreter repr (.call ownThread)).map fun connection =>
          { session with connection := connection, found := session.found - 1 }
      else none
  | .closeSession ownThread =>
      if session.creating = .returned then
        (session.connection.step interpreter repr (.call ownThread)).map fun connection =>
          { session with connection := connection }
      else none
  | .remove =>
      if session.connection.closeReturned ∨ session.connection.worker = .notifying then
        some { session with registered := false }
      else none
  | .work work =>
      (session.connection.step interpreter repr (.work work)).map fun connection =>
        { session with connection := connection }
  | .close index close =>
      (session.connection.step interpreter repr (.close index close)).map fun connection =>
        { session with connection := connection }

end

end PtySession

end YrSandbox.Pty
