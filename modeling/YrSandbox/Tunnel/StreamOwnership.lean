import YrSandbox.Tunnel.StreamTurns

/-! # Whose entry it is

The cleanup of a stream forgets the entry of its id, whoever registered it. No
stream loses its entry to another as long as a new stream is begun only when the
task of the one before has run its cleanup. -/

namespace YrSandbox.Tunnel

open Transition

theorem Incarnation.Active.unfinished {incarnation : Incarnation}
    (active : incarnation.Active) : incarnation.task ≠ .finished := by
  rcases active with created | running
  · rw [created]
    exact TaskPhase.noConfusion
  · rw [running]
    exact TaskPhase.noConfusion

theorem Incarnation.not_active_cancel (incarnation : Incarnation) :
    ¬incarnation.cancel.Active := by
  cases task : incarnation.task <;> simp [Incarnation.Active, Incarnation.cancel, task]

theorem Incarnation.take_task {incarnation taken : Incarnation}
    (took : incarnation.take = some taken) : taken.task = incarnation.task := by
  rcases Incarnation.take_eq_some took with ⟨_, _, -, -, rfl⟩ | ⟨_, -, -, rfl⟩
  · rfl
  · rfl

structure Owned (streams : Streams) : Prop where
  single : ∀ left right, (streams.incarnation left).task ≠ .finished →
    (streams.incarnation right).task ≠ .finished → left = right
  registered : ∀ stream,
    streams.streamRequest = some stream ↔ (streams.incarnation stream).Active
  refusing : ∀ stream other, streams.receiver = .refusing stream →
    (streams.incarnation other).Active → other = stream
  fresh : ∀ stream, streams.opened ≤ stream →
    (streams.incarnation stream).task = .finished

def OpensAfterCleanup (answered : Bool) (streams : Streams) : Exchange.Event → Prop
  | .httpReqBegin _ _ =>
      streams.streamRequest = none → answered = false →
        ∀ stream < streams.opened, (streams.incarnation stream).task = .finished
  | _ => True

instance (answered : Bool) (streams : Streams) :
    ∀ event, Decidable (OpensAfterCleanup answered streams event)
  | .httpReqBegin _ _ => inferInstanceAs (Decidable (_ → _ → ∀ stream < streams.opened, _))
  | .httpReq _ | .requestData _ _ _ | .httpReqEnd | .windowFrame _ | .errorFrame
  | .negotiated _ | .refused | .endPut | .start _ | .take _ | .resumeContent _
  | .credited _ | .respond _ | .cleanup _ | .smallRespond _ | .smallFinish _ _
  | .smallCallback _ | .disconnect | .reconnect _ | .tick _ | .evictCompleted
  | .evictTerminated => .isTrue trivial

namespace Owned

variable {streams next : Streams}

theorem congr (owned : Owned streams)
    (active : ∀ stream,
      (next.incarnation stream).Active ↔ (streams.incarnation stream).Active)
    (finished : ∀ stream, (next.incarnation stream).task = .finished ↔
      (streams.incarnation stream).task = .finished)
    (entry : next.streamRequest = streams.streamRequest)
    (opened : next.opened = streams.opened)
    (refusing : ∀ stream, next.receiver = .refusing stream →
      streams.receiver = .refusing stream ∨ streams.streamRequest = some stream) :
    Owned next where
  single left right leftUnfinished rightUnfinished :=
    owned.single left right (mt (finished left).mpr leftUnfinished)
      (mt (finished right).mpr rightUnfinished)
  registered stream := by
    rw [entry, active]
    exact owned.registered stream
  refusing stream other refuses otherActive := by
    rw [active] at otherActive
    rcases refusing stream refuses with already | registered
    · exact owned.refusing stream other already otherActive
    · have entry := (owned.registered other).mpr otherActive
      rw [registered] at entry
      exact (Option.some.inj entry).symm
  fresh stream := by
    rw [opened, finished]
    exact owned.fresh stream

theorem same_task (owned : Owned streams)
    (task : ∀ stream, (next.incarnation stream).task = (streams.incarnation stream).task)
    (entry : next.streamRequest = streams.streamRequest)
    (opened : next.opened = streams.opened)
    (refusing : ∀ stream, next.receiver = .refusing stream →
      streams.receiver = .refusing stream ∨ streams.streamRequest = some stream) :
    Owned next := by
  refine owned.congr (fun stream => ?_) (fun stream => ?_) entry opened refusing
  · rw [Incarnation.Active, Incarnation.Active, task]
  · rw [task]

theorem modify {stream : Nat} {change : Incarnation → Incarnation} (owned : Owned streams)
    (task : (change (streams.incarnation stream)).task =
      (streams.incarnation stream).task) :
    Owned (streams.modify stream change) := by
  refine owned.same_task ?_ rfl rfl fun _ => Or.inl
  exact Streams.forall_modify
    (fun other incarnation => incarnation.task = (streams.incarnation other).task)
    task fun _ _ => rfl

theorem unregister {stream : Nat} {change : Incarnation → Incarnation}
    (owned : Owned streams)
    (others : ∀ other, (streams.incarnation other).Active → other = stream)
    (inactive : ¬(change (streams.incarnation stream)).Active)
    (finished : (streams.incarnation stream).task = .finished →
      (change (streams.incarnation stream)).task = .finished)
    (modified : next.incarnation = (streams.modify stream change).incarnation)
    (entry : next.streamRequest = none) (opened : next.opened = streams.opened) :
    Owned next := by
  have stays : ∀ other, (streams.incarnation other).task = .finished →
      (next.incarnation other).task = .finished := by
    rw [modified]
    exact Streams.forall_modify
      (fun other incarnation => (streams.incarnation other).task = .finished →
        incarnation.task = .finished)
      finished fun _ _ => id
  have inactive : ∀ other, ¬(next.incarnation other).Active := by
    rw [modified]
    exact Streams.forall_modify (fun _ incarnation => ¬incarnation.Active) inactive
      fun other different active => different (others other active)
  exact
    { single := fun left right leftUnfinished rightUnfinished =>
        owned.single left right (mt (stays left) leftUnfinished)
          (mt (stays right) rightUnfinished)
      registered := fun other => by
        rw [entry]
        exact ⟨nofun, fun active => absurd active (inactive other)⟩
      refusing := fun _ other _ active => absurd active (inactive other)
      fresh := fun other unopened => by
        rw [opened] at unopened
        exact stays other (owned.fresh other unopened) }

theorem register {window : Nat} {contentLength : Option Nat} (owned : Owned streams)
    (idle : streams.receiver = .idle)
    (cleaned : ∀ stream < streams.opened,
      (streams.incarnation stream).task = .finished) :
    Owned (streams.register window contentLength) := by
  have finished : ∀ stream, (streams.incarnation stream).task = .finished := by
    intro stream
    by_cases earlier : stream < streams.opened
    · exact cleaned stream earlier
    · exact owned.fresh stream (by omega)
  have others : ∀ stream, stream ≠ streams.opened →
      ((streams.register window contentLength).incarnation stream).task = .finished := by
    intro stream different
    simp only [Streams.register, if_neg different]
    exact finished stream
  have opens : ((streams.register window contentLength).incarnation
      streams.opened).Active := by
    simp [Streams.register, Incarnation.opening, Incarnation.Active]
  have only : ∀ stream, ((streams.register window contentLength).incarnation
      stream).task ≠ .finished → stream = streams.opened := by
    intro stream unfinished
    by_cases same : stream = streams.opened
    · exact same
    · exact absurd (others stream same) unfinished
  exact
    { single := fun left right leftUnfinished rightUnfinished =>
        (only left leftUnfinished).trans (only right rightUnfinished).symm
      registered := fun stream => by
        constructor
        · intro entry
          cases entry
          exact opens
        · intro active
          rw [only stream active.unfinished]
          rfl
      refusing := fun stream other refuses => by
        simp [Streams.register, idle] at refuses
      fresh := fun stream unopened => by
        apply others
        simp only [Streams.register] at unopened
        omega }

end Owned

theorem StreamTurn.owned {limits : Limits} {answered : Bool} {streams next : Streams}
    {event : Exchange.Event} (turn : StreamTurn limits answered streams event next)
    (owned : Owned streams) (opens : OpensAfterCleanup answered streams event) :
    Owned next := by
  cases turn with
  | idle => exact owned
  | raised _ => exact owned.same_task (fun _ => rfl) rfl rfl nofun
  | opened contentLength listening unregistered unanswered =>
      exact owned.register listening (opens unregistered unanswered)
  | resumed _ _ => exact owned.modify rfl
  | rejected _ registered outcome =>
      refine (owned.modify rfl).same_task (fun _ => rfl) rfl rfl fun stream refuses => ?_
      rcases outcome with rfl | ⟨message, rfl⟩ | rfl
      · cases refuses
      · cases refuses
      · cases refuses
        exact .inr registered
  | extended _ _ _ _ _ => exact owned.modify rfl
  | completed _ _ _ _ _ ends =>
      rcases ends with ⟨queue, _, rfl⟩ | ⟨_, rfl⟩
      · exact (owned.modify rfl).modify rfl
      · exact Owned.same_task ((owned.modify rfl).modify rfl) (fun _ => rfl) rfl rfl nofun
  | mismatched _ registered =>
      refine owned.same_task (fun _ => rfl) rfl rfl fun stream refuses => ?_
      cases refuses
      exact .inr registered
  | ended _ _ _ ends =>
      rcases ends with ⟨queue, _, rfl⟩ | ⟨_, rfl⟩
      · exact owned.modify rfl
      · exact (owned.modify rfl).same_task (fun _ => rfl) rfl rfl nofun
  | cancelled _ registered =>
      refine owned.unregister (fun other active => ?_) (Incarnation.not_active_cancel _)
        (fun finished => by simp [Incarnation.cancel, finished]) rfl rfl rfl
      have entry := (owned.registered other).mpr active
      rw [registered] at entry
      exact (Option.some.inj entry).symm
  | refused refusing =>
      exact owned.unregister (fun other => owned.refusing _ other refusing)
        (Incarnation.not_active_cancel _)
        (fun finished => by simp [Incarnation.cancel, finished]) rfl rfl rfl
  | endPut _ _ => exact (owned.modify rfl).same_task (fun _ => rfl) rfl rfl nofun
  | started created =>
      refine owned.congr ?_ ?_ rfl rfl fun _ => Or.inl
      · apply Streams.forall_modify (fun other incarnation =>
          incarnation.Active ↔ (streams.incarnation other).Active)
        · simp [Incarnation.Active, created]
        · exact fun _ _ => Iff.rfl
      · apply Streams.forall_modify (fun other incarnation =>
          incarnation.task = .finished ↔ (streams.incarnation other).task = .finished)
        · simp [created]
        · exact fun _ _ => Iff.rfl
  | taken _ _ took => exact owned.modify (Incarnation.take_task took)
  | resumedContent _ _ => exact owned.modify rfl
  | credited _ _ => exact owned.modify rfl
  | cleaned unfinished =>
      rename_i stream
      have running : (streams.incarnation stream).task ≠ .finished := by
        rcases unfinished with running | cancelling
        · simp [running]
        · simp [cancelling]
      exact owned.unregister
        (fun other active => owned.single other stream active.unfinished running)
        (by simp [Incarnation.finish, Incarnation.Active]) (fun _ => rfl) rfl rfl rfl
  | disconnected _ => exact owned.same_task (fun _ => rfl) rfl rfl nofun

namespace Exchange

/-- In this state no cleanup takes the entry of another stream, and the frames of
an active stream reach it. -/
structure KeepsEntries (exchange : Exchange) : Prop where
  kept : ∀ stream other next, exchange.streamRequest = some other → other ≠ stream →
    exchange.step (.cleanup stream) = some next → next.streamRequest = some other
  matched : ∀ stream, (exchange.incarnation stream).Active →
    exchange.streamRequest = some stream ∧
    (∀ offset payload endOfBody, exchange.requestData offset payload endOfBody =
      exchange.streamData stream offset payload endOfBody) ∧
    exchange.httpReqEnd = exchange.streamEnd stream

theorem initial_owned (rid : String) (limits : Limits) :
    Owned (initial rid limits).toStreams where
  single _ _ unfinished := absurd rfl unfinished
  registered _ := ⟨nofun, fun active => absurd rfl active.unfinished⟩
  refusing _ _ refuses := by cases refuses
  fresh _ _ := rfl

/-- While streams open only after the cleanup of the earlier ones, each keeps its
own entry. -/
theorem run_keepsEntries {rid : String} {limits : Limits} {events : List Event}
    {final : Exchange} (ran : run step (initial rid limits) events = some final)
    (opens : Meets step
      (fun exchange => OpensAfterCleanup exchange.responseCredits exchange.toStreams)
      (initial rid limits) events) : final.KeepsEntries := by
  have owned : Owned final.toStreams :=
    invariant_under (fun exchange => Owned exchange.toStreams)
      (fun exchange event next holds meets stepped =>
        (step_turn stepped).owned holds meets)
      (initial_owned rid limits) opens ran
  constructor
  · intro stream other next registered different cleaned
    simp only [step, Option.ite_none_right_eq_some] at cleaned
    have unfinished : (final.incarnation stream).task ≠ .finished := by
      rcases cleaned.1 with running | cancelling
      · simp [running]
      · simp [cancelling]
    have active := (owned.registered other).mp registered
    exact absurd (owned.single other stream active.unfinished unfinished) different
  · intro stream active
    have registered := (owned.registered stream).mpr active
    refine ⟨registered, ?_, ?_⟩
    · intro offset payload endOfBody
      rw [requestData, registered]
    · rw [httpReqEnd, registered]

/-- A stream is cancelled, cleaned up and begun anew. -/
theorem run_keepsEntries_begun_anew :
    (after step (initial "upload" (.withWindow 2 (by decide)))
      [.httpReqBegin none 0, .start 0, .errorFrame, .cleanup 0, .httpReqBegin none 0,
        .start 1]).KeepsEntries :=
  run_keepsEntries (run_eq_after (by decide)) (by decide)

/-- A stream is cancelled and begun anew before the cleanup of the first has run.
That cleanup then forgets the entry of the second and marks the id as terminated,
so that the data of the second is absorbed. -/
theorem late_cleanup_takes_new_entry :
    ¬∀ (rid : String) (limits : Limits) (events : List Event) (final : Exchange),
      run step (initial rid limits) events = some final → final.KeepsEntries := by
  intro claim
  have keeps := claim "upload" (.withWindow 2 (by decide))
    [.httpReqBegin none 0, .start 0, .errorFrame, .httpReqBegin none 0, .start 1,
      .cleanup 0] _ rfl
  exact absurd (keeps.matched 1 (.inr rfl)).1 (by decide)

end Exchange

end YrSandbox.Tunnel
