import YrSandbox.Tunnel.ResponseSteps

/-! # Credits for the replay

The receive loop is the only source of credits, and it takes one for every chunk
that it replays. It never waits for one if each resuming window frame leaves as
many as the replay can need. -/

namespace YrSandbox.Tunnel

open Transition

/-- A task past the ready gate can still take a credit and add a chunk to the
replay. -/
def Streamer.due : Streamer → Nat
  | credit _ _ => 2
  | _ => 0

namespace Streamer

theorem Between.due {streamer : Streamer} (between : streamer.Between false) :
    streamer.due = 0 := by
  cases streamer with
  | credit piece pieces => cases between
  | _ => rfl

@[simp] theorem due_interrupt (streamer : Streamer) :
    streamer.interrupt.due = streamer.due := by
  cases streamer <;> rfl

end Streamer

namespace ResponseStream

/-- A window frame that resumes the stream leaves a credit for every chunk it does
not acknowledge, and two more if the streaming task waits for a credit. -/
def LeavesCredits (stream : ResponseStream) : Event → Prop
  | .windowFrame frame =>
      stream.Resumes frame → (stream.granted frame).unacked ≠ [] →
        (stream.granted frame).unacked.length + stream.streamer.due ≤
          (stream.granted frame).credits
  | _ => True

instance (stream : ResponseStream) : ∀ event, Decidable (stream.LeavesCredits event)
  | .windowFrame _ => inferInstanceAs (Decidable (_ → _ → _))
  | .read _ | .exhausted | .fails | .takeCredit | .lock | .transmit | .drained
  | .errorFrame _ | .protocolError | .negotiated _ | .replayLock | .replayCredit
  | .replayTransmit | .replayDrained | .lost | .disconnect | .reconnect _ | .deliver =>
      .isTrue trivial

theorem due_takeCredit (piece : Bytes) (pieces : List Bytes) (stream : ResponseStream) :
    (stream.takeCredit piece pieces).streamer.due = 0 := by
  unfold takeCredit
  simp only
  split <;> rfl

structure Funded (stream : ResponseStream) : Prop where
  stored : stream.Stored
  supplied : ∀ index chunk, stream.replay ≠ .credit index chunk
  locking : stream.replay = .locking →
    stream.streamer.due = 0 ∧ stream.unacked.length ≤ stream.credits
  sending : ∀ index chunk stage, stream.replay = .sending index chunk stage →
    stream.unacked.length + stream.streamer.due ≤ stream.credits + index + 1

namespace Funded

variable {stream next : ResponseStream}

theorem resting (stored : next.Stored)
    (replay : next.replay = .idle ∨ next.replay = .raised ∨
      ∃ stage, next.replay = .ending stage) :
    Funded next := by
  refine ⟨stored, ?_, ?_, ?_⟩
  · intro index chunk waiting
    rcases replay with rests | rests | ⟨stage, rests⟩ <;> simp [rests] at waiting
  · intro locking
    rcases replay with rests | rests | ⟨stage, rests⟩ <;> simp [rests] at locking
  · intro index chunk stage sending
    rcases replay with rests | rests | ⟨stage, rests⟩ <;> simp [rests] at sending

theorem congr (funded : Funded stream) (stored : next.Stored)
    (unacked : next.unacked = stream.unacked) (credits : next.credits = stream.credits)
    (due : stream.Replaying → next.streamer.due ≤ stream.streamer.due)
    (replay : next.replay.interrupt = stream.replay.interrupt) : Funded next := by
  refine ⟨stored, ?_, ?_, ?_⟩
  · intro index chunk waiting
    rw [waiting] at replay
    apply funded.supplied index chunk
    revert replay
    cases stream.replay <;> simp +contextual [Replay.interrupt]
  · intro locking
    have before := Replay.locking_of_interrupt locking replay
    rw [unacked, credits]
    have enough := funded.locking before
    have fewer := due (by simp [Replaying, before])
    omega
  · intro index chunk stage sending
    have before : ∃ stage, stream.replay = .sending index chunk stage := by
      rw [sending] at replay
      revert replay
      cases stream.replay <;> simp +contextual [Replay.interrupt]
    rcases before with ⟨stage, before⟩
    rw [unacked, credits]
    have enough := funded.sending index chunk stage before
    have fewer := due (by simp [Replaying, before])
    omega

theorem replayFrom {index : Nat} (stored : (stream.replayFrom index).Stored)
    (enough : index < stream.unacked.length →
      stream.unacked.length + stream.streamer.due ≤ stream.credits + index) :
    Funded (stream.replayFrom index) := by
  rcases stream.replayFrom_cases index with ⟨chunk, found, same⟩ | ⟨_, _, same⟩ |
    ⟨_, _, same⟩
  · have inside := (List.getElem?_eq_some_iff.mp found).1
    have credits := enough inside
    rcases stream.replayChunk_cases index chunk with ⟨empty, _⟩ | ⟨held, raised | sends⟩
    · omega
    · rw [same, raised] at stored ⊢
      exact resting stored (.inr (.inl rfl))
    · rw [same, sends] at stored ⊢
      refine ⟨stored, nofun, nofun, ?_⟩
      intro other otherChunk stage sending
      cases sending
      simp only
      omega
  · rw [same] at stored ⊢
    exact resting stored (.inr (.inr ⟨_, rfl⟩))
  · rw [same] at stored ⊢
    exact resting stored (.inl rfl)

end Funded

end ResponseStream

theorem ResponseTurn.funded {stream next : ResponseStream} {event : ResponseStream.Event}
    (turn : ResponseTurn stream event next) (funded : stream.Funded)
    (leaves : stream.LeavesCredits event) : next.Funded := by
  have stored := turn.stored funded.stored
  cases turn with
  | advanced streamer responseSize before sent after _ =>
      refine funded.congr stored rfl rfl (fun replaying => ?_) rfl
      rcases after with rfl | rfl | between
      · exact Nat.zero_le _
      · exact Nat.zero_le _
      · rw [funded.stored.cleared replaying] at between
        simp [between.due]
  | exhausted reading => exact funded.congr stored rfl rfl (fun _ => Nat.zero_le _) rfl
  | finished ending => exact funded.congr stored rfl rfl (fun _ => Nat.zero_le _) rfl
  | took waiting held =>
      refine ⟨stored, funded.supplied, fun locking => ?_,
        fun index chunk stage sending => ?_⟩
      · have none := (funded.locking locking).1
        rw [waiting] at none
        cases none
      · have enough := funded.sending index chunk stage sending
        rw [waiting] at enough
        simp only [Streamer.due] at enough
        rw [ResponseStream.due_takeCredit]
        simp only [ResponseStream.takeCredit, List.length_append, List.length_singleton]
        omega
  | locked locking free => exact funded.congr stored rfl rfl (fun _ => Nat.zero_le _) rfl
  | sentData wsReady sending =>
      exact funded.congr stored rfl rfl (fun _ => Nat.zero_le _) rfl
  | sentEnd wsReady ending =>
      exact funded.congr stored rfl rfl (fun _ => Nat.zero_le _) rfl
  | raised connected idle => exact .resting stored (.inr (.inl rfl))
  | ignored => exact funded
  | completed frame idle =>
      refine .resting stored (.inl ?_)
      simpa using idle
  | granted idle ready =>
      refine .resting stored (.inl ?_)
      simpa using idle
  | blocked connected idle resumes held =>
      rename_i frame
      refine ⟨stored, nofun, fun _ => ?_, nofun⟩
      have none : stream.streamer.due = 0 := by
        revert held
        cases stream.streamer <;> simp [Streamer.holdsLock, Streamer.due]
      refine ⟨by simpa using none, ?_⟩
      by_cases empty : (stream.granted frame).unacked = []
      · simp [empty]
      · have enough := leaves resumes empty
        simp only
        omega
  | replays connected idle resumes free =>
      refine .replayFrom stored fun inside => ?_
      have enough := leaves resumes (List.ne_nil_of_length_pos inside)
      simpa using enough
  | cancelled idle cancels => exact .resting stored (.inl idle)
  | negotiated limits => exact funded.congr stored rfl rfl (fun _ => Nat.le_refl _) rfl
  | replayLocked locking free =>
      refine .replayFrom stored fun _ => ?_
      have enough := funded.locking locking
      omega
  | replayCredited waiting held => exact absurd waiting (funded.supplied _ _)
  | replaySentData wsReady sending =>
      refine funded.congr stored rfl rfl (fun _ => Nat.le_refl _) ?_
      rw [sending]
      rfl
  | replaySentEnd wsReady ending =>
      refine funded.congr stored rfl rfl (fun _ => Nat.le_refl _) ?_
      rw [ending]
      rfl
  | replayedChunk sending =>
      refine .replayFrom stored fun _ => ?_
      have enough := funded.sending _ _ _ sending
      omega
  | replayedEnd ending => exact .resting stored (.inl rfl)
  | lost connected =>
      refine funded.congr stored rfl rfl (fun _ => ?_) ?_
      · exact Nat.le_of_eq (Streamer.due_interrupt _)
      · unfold ResponseStream.lose
        cases stream.replay <;> rfl
  | disconnected between => exact .resting stored (.inl rfl)
  | reconnected limits apart =>
      exact funded.congr stored rfl rfl (fun _ => Nat.le_refl _) rfl
  | delivered accepted => exact funded.congr stored rfl rfl (fun _ => Nat.le_refl _) rfl

namespace ResponseStream

theorem initial_funded (head : ResponseHead) (limits : Limits) :
    (initial head limits).Funded :=
  .resting (.initial head limits) (.inl rfl)

/-- While resuming window frames leave credits for the replay, the receive loop
never waits for one. -/
theorem run_neverWaitsForCredit {head : ResponseHead} {limits : Limits}
    {events : List Event} {final : ResponseStream}
    (ran : run step (initial head limits) events = some final)
    (leaves : Meets step LeavesCredits (initial head limits) events) :
    ∀ index chunk, final.replay ≠ .credit index chunk :=
  (invariant_under Funded
    (fun _ _ _ funded leaves stepped => (step_turn stepped).funded funded leaves)
    (initial_funded head limits) leaves ran).supplied

/-- A chunk is lost with the connection and replayed for the credit that comes with
the resuming frame. -/
theorem run_neverWaitsForCredit_one_lost :
    ¬∃ index chunk,
      (after step (initial ⟨none, true⟩ (.withWindow 2 (by decide)))
        [.transmit, .drained, .windowFrame (.of 2 0), .read [7], .takeCredit, .transmit,
          .drained, .disconnect, .reconnect (.withWindow 2 (by decide)),
          .windowFrame (.of 2 0), .replayTransmit]).replay = .credit index chunk := by
  rintro ⟨index, chunk, waits⟩
  exact run_neverWaitsForCredit (run_eq_after (by decide)) (by decide) index chunk waits

/-- The window is one chunk, and the peer has queued it without consuming it. By
the rule of this client's own request streams it resumes with no credit and
acknowledges nothing, and the replay waits for a credit that only the receive loop
could bring. -/
theorem full_window_starves_replay :
    ¬∀ (head : ResponseHead) (limits : Limits) (events : List Event)
      (final : ResponseStream),
      run step (initial head limits) events = some final →
      ∀ index chunk, final.replay ≠ .credit index chunk := by
  intro claim
  have supplied := claim ⟨none, true⟩ (.withWindow 1 (by decide))
    [.transmit, .drained, .windowFrame (.of 1 0), .read [7], .takeCredit, .transmit,
      .drained, .disconnect, .reconnect (.withWindow 1 (by decide)),
      .windowFrame (.of 0 0)] _ rfl 0 ⟨0, [7]⟩
  exact supplied rfl

end ResponseStream

end YrSandbox.Tunnel
