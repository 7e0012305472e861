import YrSandbox.Tunnel.ResponseSteps

/-! # Unacknowledged chunks

The bytes of a response that the peer may ask for again are those of the list `unacked`.
What is read from the upstream is cut into chunks, each of them is put into the list when
a credit is taken for it, and only acknowledgements take chunks out. -/

namespace YrSandbox.Tunnel

open Transition

def Streamer.pending : Streamer → Bytes
  | gate piece pieces | credit piece pieces => (piece :: pieces).flatten
  | locking _ pieces | sending _ pieces _ => pieces.flatten
  | opening _ | reading | ending _ | done => []

@[simp] theorem Streamer.pending_interrupt (streamer : Streamer) :
    streamer.interrupt.pending = streamer.pending := by
  cases streamer <;> rfl

@[simp] theorem Streamer.pending_wake (streamer : Streamer) :
    streamer.wake.pending = streamer.pending := by
  cases streamer <;> rfl

namespace ResponseStream

def Event.body : Event → Bytes
  | .read rawChunk => rawChunk
  | _ => []

def bodyRead (events : List Event) : Bytes := events.flatMap Event.body

/-- A window frame acknowledges all before `offset`. -/
def Acknowledges (offset : Nat) (events : List Event) : Prop :=
  ∃ frame, .windowFrame frame ∈ events ∧ frame.valid = true ∧
    ∃ ackOffset, frame.ack = some ackOffset ∧ offset ≤ ackOffset

theorem Acknowledges.mono {offset : Nat} {events others : List Event}
    (acknowledges : Acknowledges offset events) (subset : events ⊆ others) :
    Acknowledges offset others := by
  rcases acknowledges with ⟨frame, isEvent, rest⟩
  exact ⟨frame, subset isEvent, rest⟩

/-! ## What a turn does to the list -/

structure SameList (stream next : ResponseStream) : Prop where
  produced : next.produced = stream.produced
  nextOffset : next.nextOffset = stream.nextOffset
  unacked : next.unacked = stream.unacked
  acked : next.acked = stream.acked
  pending : next.streamer ≠ .done →
    stream.streamer ≠ .done ∧ next.streamer.pending = stream.streamer.pending

inductive ListTurn (stream : ResponseStream) : Event → ResponseStream → Prop
  | same (unread : event.body = []) (list : SameList stream next) :
      ListTurn stream event next
  | read (reading : stream.streamer = .reading) :
      ListTurn stream (.read rawChunk) (stream.read rawChunk)
  | took (waiting : stream.streamer = .credit piece pieces) :
      ListTurn stream .takeCredit (stream.takeCredit piece pieces)
  | acknowledged (valid : frame.valid = true)
      (list : SameList (stream.acknowledge frame) next) :
      ListTurn stream (.windowFrame frame) next

variable {stream next : ResponseStream}

namespace SameList

theorem of_streamer (produced : next.produced = stream.produced)
    (nextOffset : next.nextOffset = stream.nextOffset)
    (unacked : next.unacked = stream.unacked) (acked : next.acked = stream.acked)
    (streamer : next.streamer = stream.streamer) : SameList stream next where
  produced := produced
  nextOffset := nextOffset
  unacked := unacked
  acked := acked
  pending running := by
    rw [streamer] at running ⊢
    exact ⟨running, rfl⟩

theorem moved {streamer : Streamer} (running : stream.streamer ≠ .done)
    (pending : streamer = .done ∨ streamer.pending = stream.streamer.pending) :
    SameList stream { stream with streamer } where
  produced := rfl
  nextOffset := rfl
  unacked := rfl
  acked := rfl
  pending left := ⟨running, pending.resolve_left left⟩

theorem nextPiece {pieces : List Bytes} (running : stream.streamer ≠ .done)
    (pending : stream.streamer.pending = pieces.flatten) :
    SameList stream (stream.nextPiece pieces) := by
  unfold ResponseStream.nextPiece
  split
  · exact moved running (.inr pending.symm)
  · apply moved running
    right
    rw [pending]
    split <;> rfl

theorem replayDone (stream : ResponseStream) : SameList stream stream.replayDone where
  produced := rfl
  nextOffset := rfl
  unacked := rfl
  acked := rfl
  pending running := by
    refine ⟨?_, Streamer.pending_wake _⟩
    intro done
    apply running
    rw [ResponseStream.replayDone, done]
    rfl

theorem replayChunk (index : Nat) (chunk : Chunk UInt8) (stream : ResponseStream) :
    SameList stream (stream.replayChunk index chunk) := by
  rcases stream.replayChunk_cases index chunk with ⟨_, same⟩ | ⟨_, same | same⟩ <;>
    rw [same] <;> exact of_streamer rfl rfl rfl rfl rfl

theorem replayFrom (index : Nat) (stream : ResponseStream) :
    SameList stream (stream.replayFrom index) := by
  rcases stream.replayFrom_cases index with ⟨chunk, _, same⟩ | ⟨_, _, same⟩ | ⟨_, _, same⟩
  · rw [same]
    exact replayChunk index chunk stream
  · rw [same]
    exact of_streamer rfl rfl rfl rfl rfl
  · rw [same]
    exact replayDone stream

theorem lose (stream : ResponseStream) : SameList stream stream.lose where
  produced := rfl
  nextOffset := rfl
  unacked := rfl
  acked := rfl
  pending running := by
    refine ⟨?_, Streamer.pending_interrupt _⟩
    intro done
    apply running
    rw [ResponseStream.lose, done]
    rfl

end SameList

theorem windowFrame_list (frame : WindowFrame) (stream : ResponseStream) :
    ListTurn stream (.windowFrame frame) (stream.windowFrame frame) := by
  unfold windowFrame
  split
  · exact .same rfl (.of_streamer rfl rfl rfl rfl rfl)
  · rename_i valid
    simp only [Bool.not_eq_true', Bool.not_eq_false] at valid
    split
    · exact .same rfl (.of_streamer rfl rfl rfl rfl rfl)
    · apply ListTurn.acknowledged valid
      dsimp only
      split
      · exact .of_streamer rfl rfl rfl rfl rfl
      · split
        · exact .of_streamer rfl rfl rfl rfl rfl
        · unfold lockAndReplay
          split
          · exact .of_streamer rfl rfl rfl rfl rfl
          · have replayed := SameList.replayFrom 0
              ((stream.acknowledge frame).topUp frame).noteWindow
            exact ⟨replayed.produced, replayed.nextOffset, replayed.unacked,
              replayed.acked, replayed.pending⟩

theorem step_list {event : Event} (stepped : stream.step event = some next) :
    ListTurn stream event next := by
  cases event with
  | read rawChunk =>
      rw [step, Option.ite_none_right_eq_some] at stepped
      rcases stepped with ⟨reading, ⟨⟩⟩
      exact .read reading
  | exhausted =>
      rw [step, Option.ite_none_right_eq_some] at stepped
      rcases stepped with ⟨reading, ⟨⟩⟩
      have running : stream.streamer ≠ .done := by simp [reading]
      apply ListTurn.same rfl
      unfold exhaust
      split
      · exact .moved running (.inl rfl)
      · exact ⟨rfl, rfl, rfl, rfl, fun _ => ⟨running, by rw [reading]; rfl⟩⟩
  | fails =>
      rw [step, Option.ite_none_right_eq_some] at stepped
      rcases stepped with ⟨reading, ⟨⟩⟩
      exact .same rfl (.moved (by simp [reading]) (.inl rfl))
  | takeCredit =>
      rw [step] at stepped
      split at stepped
      · rename_i piece pieces waiting
        rw [Option.ite_none_left_eq_some] at stepped
        rcases stepped with ⟨_, ⟨⟩⟩
        exact .took waiting
      · cases stepped
  | lock =>
      rw [step] at stepped
      split at stepped
      · rename_i chunk pieces locking
        rw [Option.ite_none_left_eq_some] at stepped
        rcases stepped with ⟨_, ⟨⟩⟩
        exact .same rfl (.moved (by simp [locking]) (.inr (by rw [locking]; rfl)))
      · cases stepped
  | transmit =>
      rw [step, Option.ite_none_right_eq_some] at stepped
      rcases stepped with ⟨_, stepped⟩
      split at stepped
      · rename_i opening
        cases stepped
        exact .same rfl (.moved (by simp [opening]) (.inr (by rw [opening]; rfl)))
      · rename_i chunk pieces sending
        cases stepped
        exact .same rfl ⟨rfl, rfl, rfl, rfl, fun _ =>
          ⟨by simp [sending], by rw [sending]; rfl⟩⟩
      · rename_i ending
        cases stepped
        exact .same rfl ⟨rfl, rfl, rfl, rfl, fun _ =>
          ⟨by simp [ending], by rw [ending]; rfl⟩⟩
      · cases stepped
  | drained =>
      rw [step] at stepped
      split at stepped
      · rename_i opening
        cases stepped
        exact .same rfl (.moved (by simp [opening]) (.inr (by rw [opening]; rfl)))
      · rename_i chunk pieces sending
        cases stepped
        exact .same rfl (.nextPiece (by simp [sending]) (by rw [sending]; rfl))
      · rename_i ending
        cases stepped
        exact .same rfl (.moved (by simp [ending]) (.inl rfl))
      · cases stepped
  | windowFrame frame =>
      rw [step, Option.ite_none_right_eq_some] at stepped
      rcases stepped with ⟨_, ⟨⟩⟩
      exact stream.windowFrame_list frame
  | errorFrame cancels =>
      rw [step, Option.ite_none_right_eq_some] at stepped
      rcases stepped with ⟨_, ⟨⟩⟩
      refine .same rfl ⟨rfl, rfl, rfl, rfl, ?_⟩
      cases cancels with
      | false => exact fun running => ⟨running, rfl⟩
      | true => exact fun running => absurd rfl running
  | replayCredit =>
      rw [step] at stepped
      split at stepped
      · rw [Option.ite_none_left_eq_some] at stepped
        rcases stepped with ⟨_, ⟨⟩⟩
        exact .same rfl (.replayChunk _ _ stream)
      · cases stepped
  | replayTransmit =>
      rw [step, Option.ite_none_right_eq_some] at stepped
      rcases stepped with ⟨_, stepped⟩
      split at stepped
      · cases stepped
        exact .same rfl (.of_streamer rfl rfl rfl rfl rfl)
      · cases stepped
        exact .same rfl (.of_streamer rfl rfl rfl rfl rfl)
      · cases stepped
  | replayDrained =>
      rw [step] at stepped
      split at stepped
      · cases stepped
        exact .same rfl (.replayFrom _ stream)
      · cases stepped
        exact .same rfl (.replayDone stream)
      · cases stepped
  | replayLock =>
      rw [step, Option.ite_none_right_eq_some] at stepped
      rcases stepped with ⟨_, ⟨⟩⟩
      exact .same rfl (.replayFrom 0 stream)
  | lost =>
      rw [step, Option.ite_none_right_eq_some] at stepped
      rcases stepped with ⟨_, ⟨⟩⟩
      exact .same rfl (.lose stream)
  | disconnect =>
      rw [step, Option.ite_none_right_eq_some] at stepped
      rcases stepped with ⟨_, ⟨⟩⟩
      exact .same rfl ⟨rfl, rfl, rfl, rfl, (SameList.lose stream).pending⟩
  | protocolError | negotiated limits =>
      rw [step, Option.ite_none_right_eq_some] at stepped
      rcases stepped with ⟨_, ⟨⟩⟩
      exact .same rfl (.of_streamer rfl rfl rfl rfl rfl)
  | reconnect limits =>
      rw [step, Option.ite_none_left_eq_some] at stepped
      rcases stepped with ⟨_, ⟨⟩⟩
      exact .same rfl (.of_streamer rfl rfl rfl rfl rfl)
  | deliver =>
      rcases Option.map_eq_some_iff.mp stepped with ⟨peer, _, rfl⟩
      exact .same rfl (.of_streamer rfl rfl rfl rfl rfl)

/-! ## What the list holds -/

theorem acknowledge_produced (frame : WindowFrame) (stream : ResponseStream) :
    (stream.acknowledge frame).produced = stream.produced := by
  unfold acknowledge
  split <;> rfl

theorem acknowledge_subset (frame : WindowFrame) (stream : ResponseStream) :
    (stream.acknowledge frame).unacked ⊆ stream.unacked := by
  unfold acknowledge
  split
  · exact List.Subset.refl _
  · exact List.filter_subset_self _

/-- The chunks spell a prefix of what was read, and with what is pending all of it. -/
structure Spells (body : Bytes) (stream : ResponseStream) : Prop where
  produced : Contiguous 0 stream.produced stream.nextOffset
  spelt : payloads stream.produced <+: body
  pending : stream.streamer ≠ .done →
    payloads stream.produced ++ stream.streamer.pending = body
  unacked : stream.unacked ⊆ stream.produced

namespace Spells

variable {body : Bytes}

theorem initial (head : ResponseHead) (limits : Limits) :
    Spells [] (initial head limits) where
  produced := rfl
  spelt := List.nil_prefix
  pending _ := rfl
  unacked := List.Subset.refl _

theorem congr (spells : Spells body stream) (same : SameList stream next) :
    Spells body next where
  produced := by
    rw [same.produced, same.nextOffset]
    exact spells.produced
  spelt := by
    rw [same.produced]
    exact spells.spelt
  pending left := by
    rcases same.pending left with ⟨running, pending⟩
    rw [same.produced, pending]
    exact spells.pending running
  unacked := by
    rw [same.produced, same.unacked]
    exact spells.unacked

theorem acknowledge (spells : Spells body stream) (frame : WindowFrame) :
    Spells body (stream.acknowledge frame) where
  produced := by
    rw [acknowledge_produced, acknowledge_nextOffset]
    exact spells.produced
  spelt := by
    rw [acknowledge_produced]
    exact spells.spelt
  pending := by
    rw [acknowledge_produced, acknowledge_streamer]
    exact spells.pending
  unacked := by
    rw [acknowledge_produced]
    exact List.Subset.trans (acknowledge_subset frame stream) spells.unacked

theorem read (spells : Spells body stream) (reading : stream.streamer = .reading)
    (rawChunk : Bytes) : Spells (body ++ rawChunk) (stream.read rawChunk) := by
  have whole := spells.pending (by simp [reading])
  rw [reading, Streamer.pending, List.append_nil] at whole
  have spelt : payloads stream.produced <+: body ++ rawChunk :=
    spells.spelt.trans (List.prefix_append _ _)
  unfold ResponseStream.read
  dsimp only
  split
  · exact ⟨spells.produced, spelt, fun running => absurd rfl running, spells.unacked⟩
  · have cutUp := flatten_cut stream.origin.chunkPositive rawChunk
    unfold nextPiece
    split
    · rename_i none
      rw [none] at cutUp
      refine ⟨spells.produced, spelt, fun _ => ?_, spells.unacked⟩
      rw [← cutUp, ← whole]
      rfl
    · rename_i piece pieces some
      rw [some] at cutUp
      refine ⟨spells.produced, spelt, fun _ => ?_, spells.unacked⟩
      rw [← cutUp, ← whole]
      dsimp only
      split <;> rfl

theorem takeCredit {piece : Bytes} {pieces : List Bytes} (spells : Spells body stream)
    (waiting : stream.streamer = .credit piece pieces) :
    Spells body (stream.takeCredit piece pieces) := by
  have whole := spells.pending (by simp [waiting])
  rw [waiting, Streamer.pending, List.flatten_cons, ← List.append_assoc] at whole
  have produced : payloads (stream.takeCredit piece pieces).produced =
      payloads stream.produced ++ piece := by
    simp [ResponseStream.takeCredit]
  have pending : (stream.takeCredit piece pieces).streamer.pending = pieces.flatten := by
    unfold ResponseStream.takeCredit
    dsimp only
    split <;> rfl
  refine ⟨spells.produced.concat rfl, ?_, fun _ => ?_, ?_⟩
  · rw [produced, ← whole]
    exact List.prefix_append _ _
  · rw [produced, pending, whole]
  · apply List.append_subset.mpr
    exact ⟨List.Subset.trans spells.unacked (List.subset_append_left _ _),
      List.subset_append_right _ _⟩

theorem step {event : Event} (spells : Spells body stream)
    (stepped : stream.step event = some next) : Spells (body ++ event.body) next := by
  cases step_list stepped with
  | same unread bytes =>
      rw [unread, List.append_nil]
      exact spells.congr bytes
  | read reading => exact spells.read reading _
  | took waiting =>
      simpa only [Event.body, List.append_nil] using spells.takeCredit waiting
  | acknowledged _ bytes =>
      simpa only [Event.body, List.append_nil] using (spells.acknowledge _).congr bytes

theorem run {events : List Event} (spells : Spells body stream)
    (ran : Transition.run ResponseStream.step stream events = some next) :
    Spells (body ++ bodyRead events) next := by
  induction events generalizing stream body with
  | nil =>
      cases ran
      rw [bodyRead, List.flatMap_nil, List.append_nil]
      exact spells
  | cons event events induction =>
      rcases run_cons ran with ⟨middle, stepped, rest⟩
      have later := induction (spells.step stepped) rest
      rw [List.append_assoc] at later
      exact later

theorem cutFrom (spells : Spells body stream) {chunk : Chunk UInt8}
    (member : chunk ∈ stream.unacked) : chunk.CutFrom body := by
  apply spells.produced.cutFrom _ (spells.unacked member)
  have lengths := spells.produced.length_payloads
  rw [Nat.zero_add] at lengths
  rw [Nat.sub_zero, slice, List.drop_zero, ← lengths]
  exact List.prefix_iff_eq_take.mp spells.spelt

end Spells

/-! ## What leaves the list -/

theorem step_leaves {event : Event} (stepped : stream.step event = some next)
    {chunk : Chunk UInt8} (member : chunk ∈ stream.unacked)
    (left : chunk ∉ next.unacked) : Acknowledges chunk.finish [event] := by
  cases step_list stepped with
  | same _ bytes =>
      rw [bytes.unacked] at left
      exact absurd member left
  | read _ =>
      rcases stream.read_cases _ with ⟨streamer, responseSize, _, same⟩
      rw [same] at left
      exact absurd member left
  | took _ => exact absurd (List.mem_append_left _ member) left
  | acknowledged valid bytes =>
      rename_i frame
      rw [bytes.unacked, acknowledge] at left
      cases acked : frame.ack with
      | none =>
          rw [acked] at left
          exact absurd member left
      | some ackOffset =>
          rw [acked] at left
          refine ⟨frame, List.mem_singleton_self _, valid, ackOffset, acked, ?_⟩
          by_contra beyond
          apply left
          exact List.mem_filter.mpr ⟨member, decide_eq_true (Nat.not_le.mp beyond)⟩

theorem run_leaves {events : List Event} (ran : run step stream events = some next)
    {chunk : Chunk UInt8} (member : chunk ∈ stream.unacked)
    (left : chunk ∉ next.unacked) : Acknowledges chunk.finish events := by
  induction events generalizing stream with
  | nil =>
      cases ran
      exact absurd member left
  | cons event events induction =>
      rcases run_cons ran with ⟨middle, stepped, rest⟩
      by_cases kept : chunk ∈ middle.unacked
      · exact (induction rest kept).mono (List.subset_cons_self _ _)
      · exact (step_leaves stepped member kept).mono (by simp)

theorem step_acked {event : Event} (stepped : stream.step event = some next) :
    next.acked = stream.acked ∨ Acknowledges next.acked [event] := by
  cases step_list stepped with
  | same _ bytes => exact .inl bytes.acked
  | read _ =>
      rcases stream.read_cases _ with ⟨streamer, responseSize, _, same⟩
      rw [same]
      exact .inl rfl
  | took _ => exact .inl rfl
  | acknowledged valid bytes =>
      rename_i frame
      rw [bytes.acked, acknowledge]
      cases acked : frame.ack with
      | none => exact .inl rfl
      | some ackOffset =>
          dsimp only
          rcases Nat.le_total ackOffset stream.acked with before | after
          · exact .inl (Nat.max_eq_left before)
          · right
            rw [Nat.max_eq_right after]
            exact ⟨frame, List.mem_singleton_self _, valid, ackOffset, acked,
              Nat.le_refl _⟩

theorem run_acked {events : List Event} (ran : run step stream events = some next) :
    next.acked = stream.acked ∨ Acknowledges next.acked events := by
  induction events generalizing stream with
  | nil =>
      cases ran
      exact .inl rfl
  | cons event events induction =>
      rcases run_cons ran with ⟨middle, stepped, rest⟩
      rcases induction rest with same | acknowledges
      · rw [same]
        rcases step_acked stepped with same | acknowledges
        · exact .inl same
        · exact .inr (acknowledges.mono (by simp))
      · exact .inr (acknowledges.mono (List.subset_cons_self _ _))

/-- In every state the list goes on without a gap from an offset that was acknowledged, or
from the start, to `next_offset`, and each chunk of it holds the bytes of the response at
its offset. A chunk leaves it when a window frame acknowledges its end, and every byte up
to `next_offset` that was not acknowledged is there for a replay. -/
theorem run_unackedChunks {head : ResponseHead} {limits : Limits}
    {before after : List Event} (ran : run step (initial head limits) before = some stream)
    (rest : run step stream after = some next) :
    (∃ start, (start = 0 ∨ Acknowledges start before) ∧
      Contiguous start stream.unacked stream.nextOffset) ∧
    (∀ chunk ∈ stream.unacked, chunk.CutFrom (bodyRead before)) ∧
    (∀ chunk ∈ stream.unacked, chunk ∉ next.unacked → Acknowledges chunk.finish after) ∧
    ∀ position < stream.nextOffset, ¬Acknowledges (position + 1) before →
      ∃ chunk ∈ stream.unacked, chunk.offset ≤ position ∧ position < chunk.finish := by
  have stored : stream.Stored :=
    invariant_of_run Stored (fun _ _ _ stored stepped => (step_turn stepped).stored stored)
      (.initial head limits) ran
  have spells : Spells (bodyRead before) stream := (Spells.initial head limits).run ran
  rcases stored.contiguous with ⟨start, within, contiguous⟩
  have from_acked : start = 0 ∨ Acknowledges start before := by
    rcases run_acked ran with unacked | ⟨frame, isEvent, valid, ackOffset, acked, beyond⟩
    · left
      rw [unacked] at within
      exact Nat.le_zero.mp within
    · exact .inr
        ⟨frame, isEvent, valid, ackOffset, acked, Nat.le_trans within beyond⟩
  refine ⟨⟨start, from_acked, contiguous⟩, fun chunk member => spells.cutFrom member,
    fun chunk member left => run_leaves rest member left, ?_⟩
  intro position sent unacked
  apply contiguous.covers _ sent
  rcases from_acked with rfl | ⟨frame, isEvent, valid, ackOffset, acked, beyond⟩
  · exact Nat.zero_le _
  · by_contra earlier
    exact unacked ⟨frame, isEvent, valid, ackOffset, acked, by omega⟩

def twoBytes : ResponseStream :=
  after step (initial ⟨none, true⟩ (.withWindow 4 fourFrames))
    [.transmit, .drained, .windowFrame (.of 1 0), .read [7, 8], .takeCredit, .transmit,
      .drained]

theorem run_unackedChunks_two_bytes : Acknowledges 2 [.windowFrame (.of 1 2)] := by
  have rest : run step twoBytes [.windowFrame (.of 1 2)] =
      some (after step twoBytes [.windowFrame (.of 1 2)]) :=
    run_eq_after (by decide +kernel)
  exact (run_unackedChunks (run_eq_after (by decide +kernel)) rest).2.2.1 ⟨0, [7, 8]⟩
    (by decide +kernel) (by decide +kernel)

end ResponseStream

end YrSandbox.Tunnel
