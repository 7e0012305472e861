import YrSandbox.Pty.Outcome
import YrSandbox.Pty.Sessions

/-! # Closed terminal sessions -/

namespace YrSandbox.Pty

open Python Transition

variable {interpreter : Interpreter} {repr : Json → String}

theorem Worker.processing_of_live {worker : Worker} (live : worker.live = false) :
    worker.processing = false := by
  cases worker with
  | starting | connecting => cases live
  | _ => exact live

namespace PtyConnection

/-- The step with which a call of `close` returns and does not know that the worker has
ended: the call is not the first one, it is the callback's, or it has waited for the thread
in vain. -/
def leavesUnseen (connection : PtyConnection) (index : Nat) (close : Close) : Bool :=
  match connection.closers[index]? with
  | none => false
  | some closer =>
      match closer.closing, close with
      | .entered, .proceed => connection.closedByClient
      | .joining, .proceed => closer.ownThread
      | .joining, .timedOut => true
      | _, _ => false

/-- Behind a `close` that has returned, the worker neither processes messages nor is it on
the way to it. -/
def Quiet (connection : PtyConnection) : Prop :=
  connection.closeReturned = true → connection.worker.live = false

theorem closeReturned_congr {connection next : PtyConnection}
    (closers : next.closers = connection.closers) :
    next.closeReturned = connection.closeReturned := by
  unfold closeReturned
  rw [closers]

theorem Quiet.threadMain {connection next : PtyConnection} {work : Work}
    (quiet : connection.Quiet)
    (stepped : connection.threadMain interpreter repr work = some next) : next.Quiet := by
  intro returned
  rw [closeReturned_congr (closers_threadMain stepped)] at returned
  cases live : next.worker.live with
  | false => rfl
  | true => exact (live_of_threadMain stepped live).symm.trans (quiet returned)

theorem Quiet.start {connection next : PtyConnection}
    (stepped : connection.step interpreter repr .start = some next)
    (notReturned : connection.closeReturned = false) : next.Quiet := by
  rcases Option.ite_none_right_eq_some.mp stepped with ⟨-, stepped⟩
  cases stepped
  intro returned
  exact absurd returned
    (by simpa [closeReturned_congr (closers_resume _ _)] using notReturned)

theorem Quiet.call {connection next : PtyConnection} {ownThread : Bool}
    (quiet : connection.Quiet)
    (stepped : connection.step interpreter repr (.call ownThread) = some next) :
    next.Quiet := by
  rcases Option.ite_none_right_eq_some.mp stepped with ⟨-, stepped⟩
  cases stepped
  intro returned
  apply quiet
  simpa [closeReturned] using returned

theorem closes_returned {connection : PtyConnection} {index : Nat} {closer : Closer}
    {close : Close} (found : connection.closers[index]? = some closer)
    (seen : connection.leavesUnseen index close = false)
    (closes : connection.closes closer close = some .returned) :
    connection.worker = .unstarted ∨ connection.worker = .ended := by
  simp only [leavesUnseen, found] at seen
  unfold PtyConnection.closes at closes
  grind [PtyConnection.joins]

theorem Quiet.close {connection next : PtyConnection} {index : Nat} {close : Close}
    (quiet : connection.Quiet)
    (seen : connection.leavesUnseen index close = true → connection.worker.live = false)
    (stepped : connection.close index close = some next) : next.Quiet := by
  rcases Option.bind_eq_some_iff.mp stepped with ⟨closer, found, closed⟩
  rcases Option.map_eq_some_iff.mp closed with ⟨closing, closes, rfl⟩
  intro returned
  rcases List.any_eq_true.mp returned with ⟨other, member, isReturned⟩
  rcases List.mem_or_eq_of_mem_set member with member | rfl
  · exact quiet (List.any_eq_true.mpr ⟨other, member, isReturned⟩)
  · obtain rfl : closing = .returned := by simpa using isReturned
    cases unseen : connection.leavesUnseen index close with
    | true => exact seen unseen
    | false =>
        rcases closes_returned found unseen closes with worker | worker <;>
          simp [worker, Worker.live, Worker.processing]

end PtyConnection

/-! ## Runs -/

namespace PtySession

/-- The thread is not started behind a `close` that has returned, and a call of `close`
that returns without knowing that the worker has ended finds that the worker has left its
connection. -/
def Orderly (session : PtySession) : Action → Prop
  | .start => session.connection.closeReturned = false
  | .close index close =>
      session.connection.leavesUnseen index close = true →
        session.connection.worker.live = false
  | _ => True

instance (session : PtySession) : (action : Action) → Decidable (session.Orderly action)
  | .start => inferInstanceAs (Decidable (session.connection.closeReturned = false))
  | .close index close =>
      inferInstanceAs (Decidable (session.connection.leavesUnseen index close = true →
        session.connection.worker.live = false))
  | .register | .readied | .timedOut | .proceed | .find | .closeFound _ | .closeSession _
  | .remove | .work _ => .isTrue trivial

def Makes (action : Action) : Event → Prop
  | .start => action = .start
  | .call _ => True
  | .work work => action = .work work
  | .close index close => action = .close index close

theorem makes_of_map {session next : PtySession} {action : Action} {event : Event}
    {update : PtyConnection → PtySession}
    (stepped : (session.connection.step interpreter repr event).map update = some next)
    (makes : Makes action event)
    (connection : ∀ connection, (update connection).connection = connection) :
    ∃ event, session.connection.step interpreter repr event = some next.connection ∧
      Makes action event := by
  rcases Option.map_eq_some_iff.mp stepped with ⟨made, advanced, rfl⟩
  rw [connection made]
  exact ⟨event, advanced, makes⟩

theorem connection_of_step {session next : PtySession} {action : Action}
    (stepped : session.step interpreter repr action = some next) :
    next.connection = session.connection ∨ ∃ event,
      session.connection.step interpreter repr event = some next.connection ∧
        Makes action event := by
  cases action with
  | register | readied | remove =>
      rcases Option.ite_none_right_eq_some.mp stepped with ⟨-, stepped⟩
      cases stepped
      exact .inl rfl
  | find =>
      cases stepped
      left
      split <;> rfl
  | start =>
      rcases Option.ite_none_right_eq_some.mp stepped with ⟨-, stepped⟩
      exact .inr (makes_of_map stepped rfl fun _ => rfl)
  | timedOut | closeFound ownThread | closeSession ownThread =>
      rcases Option.ite_none_right_eq_some.mp stepped with ⟨-, stepped⟩
      exact .inr (makes_of_map stepped trivial fun _ => rfl)
  | work work | close index close =>
      exact .inr (makes_of_map stepped rfl fun _ => rfl)
  | proceed =>
      simp only [step] at stepped
      split at stepped
      · split at stepped <;> cases stepped <;> exact .inl rfl
      · exact .inr (makes_of_map stepped trivial fun _ => rfl)
      · split at stepped <;> cases stepped <;> exact .inl rfl
      · cases stepped

theorem quiet_of_step {session next : PtySession} {action : Action}
    (quiet : session.connection.Quiet) (orderly : session.Orderly action)
    (stepped : session.step interpreter repr action = some next) :
    next.connection.Quiet := by
  rcases connection_of_step stepped with same | ⟨event, advanced, makes⟩
  · rwa [same]
  · cases event with
    | start =>
        cases makes
        exact .start advanced orderly
    | call ownThread => exact quiet.call advanced
    | work work => exact quiet.threadMain advanced
    | close index close =>
        cases makes
        exact quiet.close orderly advanced

/-- A session that `_close` closes while it is connected. -/
def closedLater : List Action :=
  [.register, .start, .work .proceed, .work .connected, .work .resized, .find,
    .closeFound false, .close 0 .proceed, .close 0 .proceed, .close 0 .proceed,
    .close 0 .proceed, .work .exhausted, .work .closed, .work .proceed, .work .proceed,
    .work .proceed, .work .proceed, .work .proceed, .close 0 .proceed]

/-- A session that `_close` closes when it has been registered and its thread has not been
started. -/
def closedFirst : List Action :=
  [.register, .find, .closeFound false, .close 0 .proceed, .close 0 .proceed,
    .close 0 .proceed, .remove, .start, .work .proceed, .work .connected, .work .resized]

end PtySession

end YrSandbox.Pty
