import YrSandbox.Foundation.History
import YrSandbox.Tunnel.ResponseSteps

/-! # Ends of response bodies

An end that the peer receives finds every byte of the body acknowledged or sent on
the same connection, if the streaming task sends its end only while `ready` is
set. -/

namespace YrSandbox.Tunnel

open Transition

/-! ## What a connection has carried -/

def Signal.carry (sent : List (Chunk UInt8)) : Signal → List (Chunk UInt8)
  | .reconnected => []
  | .data chunk => sent ++ [chunk]
  | .window _ | .ended _ _ => sent

def carried (log : List Signal) : List (Chunk UInt8) := log.foldl Signal.carry []

@[simp] theorem carried_concat (log : List Signal) (signal : Signal) :
    carried (log ++ [signal]) = signal.carry (carried log) := by
  simp [carried]

/-- Each of the first `size` bytes is acknowledged or in one of the chunks. -/
def Covered (acked size : Nat) (sent : List (Chunk UInt8)) : Prop :=
  ∀ byte < size, byte < acked ∨
    ∃ chunk ∈ sent, chunk.offset ≤ byte ∧ byte < chunk.finish

def EndsCovered : List Signal → Prop :=
  EachAfter fun before signal => ∀ acked size, signal = .ended acked size →
    Covered acked size (carried before)

theorem Covered.of_contiguous {start acked size : Nat}
    {unacked sent : List (Chunk UInt8)} (contiguous : Contiguous start unacked size)
    (within : start ≤ acked) (all : ∀ chunk ∈ unacked, chunk ∈ sent) :
    Covered acked size sent := by
  intro byte inside
  by_cases before : byte < acked
  · exact .inl before
  · have after : start ≤ byte := by omega
    rcases contiguous.covers after inside with ⟨chunk, member, found⟩
    exact .inr ⟨chunk, all chunk member, found⟩

/-! ## The length of the body -/

namespace ResponseStream

/-- What was read of the body has been cut into chunks, but for what the task still
holds. -/
def Sized (stream : ResponseStream) : Prop :=
  stream.streamer = .done ∧ stream.ended = false ∨
    stream.nextOffset + stream.streamer.remaining = stream.responseSize

namespace Sized

variable {stream next : ResponseStream}

theorem congr (sized : Sized stream) (nextOffset : next.nextOffset = stream.nextOffset)
    (responseSize : next.responseSize = stream.responseSize)
    (remaining : next.streamer.remaining = stream.streamer.remaining)
    (ended : next.ended = stream.ended)
    (done : stream.streamer = .done → next.streamer = .done) : Sized next := by
  rcases sized with ⟨isDone, unended⟩ | whole
  · exact .inl ⟨done isDone, by rw [ended, unended]⟩
  · refine .inr ?_
    rw [nextOffset, responseSize, remaining]
    exact whole

theorem replayDone (sized : Sized stream) : Sized stream.replayDone :=
  sized.congr rfl rfl (Streamer.remaining_wake _) rfl fun done => by
    simp [ResponseStream.replayDone, done, Streamer.wake]

theorem replayChunk (sized : Sized stream) (index : Nat) (chunk : Chunk UInt8) :
    Sized (stream.replayChunk index chunk) := by
  rcases stream.replayChunk_cases index chunk with ⟨_, same⟩ | ⟨_, same | same⟩ <;>
    rw [same] <;> exact sized

theorem replayFrom (sized : Sized stream) (index : Nat) :
    Sized (stream.replayFrom index) := by
  rcases stream.replayFrom_cases index with ⟨chunk, _, same⟩ | ⟨_, _, same⟩ |
    ⟨_, _, same⟩
  · rw [same]
    exact sized.replayChunk index chunk
  · rw [same]
    exact sized
  · rw [same]
    exact sized.replayDone

theorem acknowledge (sized : Sized stream) (frame : WindowFrame) :
    Sized (stream.acknowledge frame) := by
  unfold ResponseStream.acknowledge
  split <;> exact sized

theorem granted (sized : Sized stream) (frame : WindowFrame) :
    Sized (stream.granted frame) := sized.acknowledge frame

theorem whole (sized : Sized stream) (stored : stream.Stored)
    (ended : stream.ended = true) :
    stream.nextOffset = stream.responseSize := by
  rcases sized with ⟨_, unended⟩ | whole
  · rw [ended] at unended
    cases unended
  · rw [(stored.past ended).remaining] at whole
    exact whole

end Sized

end ResponseStream

theorem ResponseTurn.sized {stream next : ResponseStream} {event : ResponseStream.Event}
    (turn : ResponseTurn stream event next) (stored : stream.Stored)
    (sized : stream.Sized) : next.Sized := by
  -- Only the reading task changes how much of the body there is.
  have holding (live : stream.streamer ≠ .done) :
      stream.nextOffset + stream.streamer.remaining = stream.responseSize :=
    sized.resolve_left fun oversized => live oversized.1
  cases turn with
  | advanced streamer responseSize before sent after cut =>
      have live : stream.streamer ≠ .done := by
        intro done
        rw [done] at before
        exact before trivial
      have whole := holding live
      rcases cut with rfl | cut
      · refine .inl ⟨rfl, ?_⟩
        cases ended : stream.ended with
        | false => rfl
        | true => exact absurd (stored.past ended) before
      · refine .inr ?_
        simp only
        omega
  | exhausted reading =>
      have whole := holding (by simp [reading])
      rw [reading] at whole
      exact .inr whole
  | finished ending =>
      have whole := holding (by simp [ending])
      rw [ending] at whole
      exact .inr whole
  | took waiting held =>
      have whole := holding (by simp [waiting])
      rw [waiting] at whole
      refine .inr ?_
      simp only [Streamer.remaining, List.flatten_cons, List.length_append] at whole
      simp only [ResponseStream.takeCredit, Chunk.finish]
      split <;> simp only [Streamer.remaining] <;> omega
  | locked locking free =>
      have whole := holding (by simp [locking])
      rw [locking] at whole
      exact .inr whole
  | sentData wsReady sending =>
      have whole := holding (by simp [sending])
      rw [sending] at whole
      exact .inr whole
  | sentEnd wsReady ending =>
      have whole := holding (by simp [ending])
      rw [ending] at whole
      exact .inr whole
  | completed frame idle => exact sized.acknowledge frame
  | granted idle ready => exact sized.granted _
  | blocked connected idle resumes held => exact sized.granted _
  | replays connected idle resumes free => exact (sized.granted _).replayFrom 0
  | cancelled idle cancels =>
      cases cancels with
      | false => exact sized
      | true =>
          cases ended : stream.ended with
          | false => exact .inl ⟨rfl, rfl⟩
          | true => exact .inr (sized.whole stored ended)
  | replayLocked locking free => exact sized.replayFrom 0
  | replayCredited waiting held => exact sized.replayChunk _ _
  | replayedChunk sending => exact sized.replayFrom _
  | replayedEnd ending => exact sized.replayDone
  | lost connected =>
      exact sized.congr rfl rfl (Streamer.remaining_interrupt _) rfl fun done => by
        simp [ResponseStream.lose, done, Streamer.interrupt]
  | disconnected between =>
      exact sized.congr rfl rfl (Streamer.remaining_interrupt _) rfl fun done => by
        simp [ResponseStream.lose, done, Streamer.interrupt]
  | raised _ _ | ignored | negotiated _ | replaySentData _ _ | replaySentEnd _ _
  | reconnected _ _ | delivered _ => exact sized

namespace ResponseStream

/-! ## The invariant -/

/-- The streaming task puts its end on the wire only while `ready` is set. -/
def EndsWhenReady (stream : ResponseStream) : Event → Prop
  | .transmit => stream.streamer = .ending .waiting → stream.ready = true
  | _ => True

instance (stream : ResponseStream) : ∀ event, Decidable (stream.EndsWhenReady event)
  | .transmit => inferInstanceAs (Decidable (_ → _))
  | .read _ | .exhausted | .fails | .takeCredit | .lock | .drained | .windowFrame _
  | .errorFrame _ | .protocolError | .negotiated _ | .replayLock | .replayCredit
  | .replayTransmit | .replayDrained | .lost | .disconnect | .reconnect _ | .deliver =>
      .isTrue trivial

structure Carried (stream : ResponseStream) : Prop where
  stored : stream.Stored
  sized : stream.Sized
  detached : stream.Detached
  covered : EndsCovered stream.log
  streamed : stream.ready = true → stream.streamer ≠ .done → ∀ chunk ∈ stream.unacked,
    chunk ∈ carried stream.log ∨ stream.streamer.unsent = some chunk
  replayed : ∀ index chunk, stream.replay.At index chunk →
    ∀ other ∈ stream.unacked.take index, other ∈ carried stream.log
  drained : ∀ index chunk, stream.replay = .sending index chunk .draining →
    chunk ∈ carried stream.log
  ending : ∀ stage, stream.replay = .ending stage → stream.ended = true ∧
    ∀ chunk ∈ stream.unacked, chunk ∈ carried stream.log

namespace Carried

variable {stream next : ResponseStream}

theorem resting (stored : next.Stored) (sized : next.Sized) (detached : next.Detached)
    (covered : EndsCovered next.log)
    (replay : next.replay = .idle ∨ next.replay = .raised ∨ next.replay = .locking)
    (streamed : next.ready = true → next.streamer ≠ .done → ∀ chunk ∈ next.unacked,
      chunk ∈ carried next.log ∨ next.streamer.unsent = some chunk) : Carried next := by
  refine ⟨stored, sized, detached, covered, streamed, ?_, ?_, ?_⟩
  · intro index chunk waits
    rcases replay with rests | rests | rests <;> simp [rests, Replay.At] at waits
  · intro index chunk sending
    rcases replay with rests | rests | rests <;> simp [rests] at sending
  · intro stage ending
    rcases replay with rests | rests | rests <;> simp [rests] at ending

theorem moves (holds : Carried stream) (stored : next.Stored) (sized : next.Sized)
    (detached : next.Detached)
    (covered : EndsCovered next.log) (log : carried next.log = carried stream.log)
    (unacked : next.unacked = stream.unacked)
    (ended : stream.ended = true → next.ended = true) (ready : next.ready = stream.ready)
    (unsent : next.streamer ≠ .done → stream.streamer ≠ .done ∧
      ∀ chunk, stream.streamer.unsent = some chunk → next.streamer.unsent = some chunk)
    (replay : next.replay.interrupt = stream.replay.interrupt)
    (drained : ∀ index chunk, next.replay = .sending index chunk .draining →
      stream.replay = .sending index chunk .draining) : Carried next where
  stored := stored
  sized := sized
  detached := detached
  covered := covered
  streamed isReady live := by
    rw [ready] at isReady
    rw [unacked, log]
    intro chunk member
    rcases holds.streamed isReady (unsent live).1 chunk member with sent | inHand
    · exact .inl sent
    · exact .inr ((unsent live).2 chunk inHand)
  replayed index chunk reached := by
    rw [unacked, log]
    exact holds.replayed index chunk (reached.of_interrupt replay)
  drained index chunk draining := by
    rw [log]
    exact holds.drained index chunk (drained index chunk draining)
  ending stage isEnding := by
    rcases Replay.ending_of_interrupt isEnding replay with ⟨before, wasEnding⟩
    rw [unacked, log]
    exact ⟨ended (holds.ending before wasEnding).1, (holds.ending before wasEnding).2⟩

theorem streams (holds : Carried stream) (stored : next.Stored)
    (sized : next.Sized) (detached : next.Detached) (log : next.log = stream.log)
    (unacked : next.unacked = stream.unacked) (replay : next.replay = stream.replay)
    (ended : stream.ended = true → next.ended = true) (ready : next.ready = stream.ready)
    (unsent : next.streamer ≠ .done → stream.streamer ≠ .done ∧
      ∀ chunk, stream.streamer.unsent = some chunk →
        next.streamer.unsent = some chunk) : Carried next := by
  refine holds.moves stored sized detached ?_ (by rw [log]) unacked ended ready unsent
    (by rw [replay]) ?_
  · rw [log]
    exact holds.covered
  · rw [replay]
    exact fun _ _ => id

theorem replayDone (covered : EndsCovered stream.log) (stored : stream.replayDone.Stored)
    (sized : stream.replayDone.Sized) (detached : stream.replayDone.Detached)
    (all : ∀ chunk ∈ stream.unacked, chunk ∈ carried stream.log) :
    Carried stream.replayDone :=
  .resting stored sized detached covered (.inl rfl) fun _ _ chunk member =>
    .inl (all chunk member)

theorem replayChunk {index : Nat} {chunk : Chunk UInt8} (covered : EndsCovered stream.log)
    (cleared : stream.ready = false) (stored : (stream.replayChunk index chunk).Stored)
    (sized : (stream.replayChunk index chunk).Sized)
    (detached : (stream.replayChunk index chunk).Detached)
    (before : ∀ other ∈ stream.unacked.take index, other ∈ carried stream.log) :
    Carried (stream.replayChunk index chunk) := by
  have unready {property : Prop} (ready : stream.ready = true) : property := by
    rw [cleared] at ready
    cases ready
  rcases stream.replayChunk_cases index chunk with ⟨_, same⟩ | ⟨_, same | same⟩
  · rw [same] at stored sized detached ⊢
    refine ⟨stored, sized, detached, covered, unready, ?_, nofun, nofun⟩
    rintro other otherChunk (waiting | ⟨stage, sending⟩)
    · cases waiting
      exact before
    · cases sending
  · rw [same] at stored sized detached ⊢
    exact .resting stored sized detached covered (.inr (.inl rfl)) unready
  · rw [same] at stored sized detached ⊢
    refine ⟨stored, sized, detached, covered, unready, ?_, nofun, nofun⟩
    rintro other otherChunk (waiting | ⟨stage, sending⟩)
    · cases waiting
    · cases sending
      exact before

theorem replayFrom {index : Nat} (covered : EndsCovered stream.log)
    (cleared : stream.ready = false) (stored : (stream.replayFrom index).Stored)
    (sized : (stream.replayFrom index).Sized)
    (detached : (stream.replayFrom index).Detached)
    (before : ∀ other ∈ stream.unacked.take index, other ∈ carried stream.log) :
    Carried (stream.replayFrom index) := by
  rcases stream.replayFrom_cases index with ⟨chunk, _, same⟩ | ⟨beyond, ended, same⟩ |
    ⟨beyond, _, same⟩
  · rw [same] at stored sized detached ⊢
    exact replayChunk covered cleared stored sized detached before
  · rw [List.take_of_length_le beyond] at before
    rw [same] at stored sized detached ⊢
    refine ⟨stored, sized, detached, covered, ?_, ?_, nofun, fun _ _ => ⟨ended, before⟩⟩
    · intro ready
      rw [cleared] at ready
      cases ready
    · rintro other otherChunk (waiting | ⟨stage, sending⟩)
      · cases waiting
      · cases sending
  · rw [List.take_of_length_le beyond] at before
    rw [same] at stored sized detached ⊢
    exact replayDone covered stored sized detached before

theorem endCovered (holds : Carried stream)
    (whole : stream.nextOffset = stream.responseSize)
    (all : ∀ chunk ∈ stream.unacked, chunk ∈ carried stream.log) :
    EndsCovered (stream.log ++ [.ended stream.acked stream.responseSize]) := by
  refine EachAfter.concat holds.covered fun acked size same => ?_
  cases same
  rw [← whole]
  rcases holds.stored.contiguous with ⟨start, within, contiguous⟩
  exact .of_contiguous contiguous within all

theorem takeCredit {piece : Bytes} {pieces : List Bytes} (holds : Carried stream)
    (waiting : stream.streamer = .credit piece pieces)
    (stored : (stream.takeCredit piece pieces).Stored)
    (sized : (stream.takeCredit piece pieces).Sized)
    (detached : (stream.takeCredit piece pieces).Detached) :
    Carried (stream.takeCredit piece pieces) where
  stored := stored
  sized := sized
  detached := detached
  covered := holds.covered
  streamed ready _ chunk member := by
    rcases List.mem_append.mp member with earlier | last
    · have sent := holds.streamed ready (by simp [waiting]) chunk earlier
      simp only [waiting, Streamer.unsent, reduceCtorEq, or_false] at sent
      exact .inl sent
    · rw [List.mem_singleton.mp last]
      refine .inr ?_
      simp only [ResponseStream.takeCredit]
      split <;> rfl
  replayed index chunk waits other member := by
    have found := holds.stored.held index chunk waits
    have inside := (List.getElem?_eq_some_iff.mp found).1
    have same : (stream.takeCredit piece pieces).unacked.take index =
        stream.unacked.take index :=
      List.take_append_of_le_length (Nat.le_of_lt inside)
    rw [same] at member
    exact holds.replayed index chunk waits other member
  drained := holds.drained
  ending stage ending := by
    have past := holds.stored.past (holds.ending stage ending).1
    rw [waiting] at past
    exact past.elim

theorem sendData {chunk : Chunk UInt8} {pieces : List Bytes} (holds : Carried stream)
    (sending : stream.streamer = .sending chunk pieces .waiting)
    (stored :
      { stream.sendData chunk with
        streamer := .sending chunk pieces .draining }.Stored)
    (sized :
      { stream.sendData chunk with
        streamer := .sending chunk pieces .draining }.Sized)
    (detached :
      { stream.sendData chunk with
        streamer := .sending chunk pieces .draining }.Detached) :
    Carried
      { stream.sendData chunk with streamer := .sending chunk pieces .draining } where
  stored := stored
  sized := sized
  detached := detached
  covered := EachAfter.concat holds.covered nofun
  streamed ready _ other member := by
    refine .inl ?_
    simp only [ResponseStream.sendData, carried_concat, Signal.carry]
    rcases holds.streamed ready (by simp [sending]) other member with sent | inHand
    · exact List.mem_append_left _ sent
    · rw [sending] at inHand
      cases inHand
      simp
  replayed index replayed waits other member := by
    simp only [ResponseStream.sendData, carried_concat, Signal.carry]
    exact List.mem_append_left _ (holds.replayed index replayed waits other member)
  drained index replayed draining := by
    simp only [ResponseStream.sendData, carried_concat, Signal.carry]
    exact List.mem_append_left _ (holds.drained index replayed draining)
  ending stage isEnding := by
    refine ⟨(holds.ending stage isEnding).1, fun other member => ?_⟩
    simp only [ResponseStream.sendData, carried_concat, Signal.carry]
    exact List.mem_append_left _ ((holds.ending stage isEnding).2 other member)

theorem replaySendData {index : Nat} {chunk : Chunk UInt8} (holds : Carried stream)
    (sending : stream.replay = .sending index chunk .waiting)
    (stored :
      { stream.sendData chunk with replay := .sending index chunk .draining }.Stored)
    (sized :
      { stream.sendData chunk with replay := .sending index chunk .draining }.Sized)
    (detached :
      { stream.sendData chunk with replay := .sending index chunk .draining }.Detached) :
    Carried { stream.sendData chunk with replay := .sending index chunk .draining } where
  stored := stored
  sized := sized
  detached := detached
  covered := EachAfter.concat holds.covered nofun
  streamed ready live other member := by
    simp only [ResponseStream.sendData, carried_concat, Signal.carry]
    rcases holds.streamed ready live other member with sent | inHand
    · exact .inl (List.mem_append_left _ sent)
    · exact .inr inHand
  replayed otherIndex other waits earlier member := by
    simp only [ResponseStream.sendData, carried_concat, Signal.carry]
    refine List.mem_append_left _
      (holds.replayed index chunk (.inr ⟨_, sending⟩) earlier ?_)
    rcases waits with waiting | ⟨stage, draining⟩
    · cases waiting
    · cases draining
      exact member
  drained otherIndex other draining := by
    cases draining
    simp [ResponseStream.sendData, Signal.carry]
  ending _ := nofun

theorem acknowledged_subset (frame : WindowFrame) :
    ∀ chunk ∈ (stream.acknowledge frame).unacked, chunk ∈ stream.unacked := by
  unfold acknowledge
  split
  · exact fun _ => id
  · exact fun _ member => (List.mem_filter.mp member).1

theorem granted_streamed (holds : Carried stream) (frame : WindowFrame)
    (ready : stream.ready = true) (live : stream.streamer ≠ .done) :
    ∀ chunk ∈ (stream.granted frame).unacked,
      chunk ∈ carried (stream.granted frame).log ∨
        stream.streamer.unsent = some chunk := by
  intro chunk member
  have same : carried (stream.granted frame).log = carried stream.log := by
    simp [granted, noteWindow, topUp, Signal.carry]
  rw [same]
  exact holds.streamed ready live chunk (acknowledged_subset frame chunk member)

theorem granted_covered (holds : Carried stream) (frame : WindowFrame) :
    EndsCovered (stream.granted frame).log := by
  have log : (stream.granted frame).log =
      stream.log ++ [.window ((stream.acknowledge frame).topUp frame).resume] := by
    simp [granted, noteWindow, topUp]
  rw [log]
  exact EachAfter.concat holds.covered fun _ _ isEnd => by cases isEnd

end Carried

end ResponseStream

theorem Streamer.unsent_interrupt {streamer : Streamer} {chunk : Chunk UInt8}
    (inHand : streamer.unsent = some chunk) : streamer.interrupt.unsent = some chunk := by
  cases streamer with
  | sending other pieces stage =>
      cases stage with
      | waiting => exact inHand
      | draining => cases inHand
  | locking other pieces => exact inHand
  | opening _ | reading | gate _ _ | credit _ _ | ending _ | done => cases inHand

theorem Streamer.interrupt_live {streamer : Streamer} (live : streamer.interrupt ≠ .done) :
    streamer ≠ .done := by
  intro done
  rw [done] at live
  exact live rfl

theorem ResponseTurn.carried {stream next : ResponseStream} {event : ResponseStream.Event}
    (turn : ResponseTurn stream event next) (holds : stream.Carried)
    (leaves : stream.LeavesRegistered event) (ends : stream.EndsWhenReady event) :
    next.Carried := by
  have stored := turn.stored holds.stored
  have sized := turn.sized holds.stored holds.sized
  have detached := turn.detached holds.detached leaves
  cases turn with
  | advanced streamer responseSize before sent after _ =>
      refine holds.streams stored sized detached rfl rfl rfl id rfl fun live => ⟨?_, ?_⟩
      · intro done
        rw [done] at before
        exact before trivial
      · intro chunk inHand
        rw [sent] at inHand
        cases inHand
  | exhausted reading =>
      exact holds.streams stored sized detached rfl rfl rfl (fun _ => rfl) rfl
        fun _ => ⟨by simp [reading], by simp [reading, Streamer.unsent]⟩
  | finished ending =>
      exact holds.streams stored sized detached rfl rfl rfl id rfl fun live =>
        absurd rfl live
  | took waiting held => exact holds.takeCredit waiting stored sized detached
  | locked locking free =>
      exact holds.streams stored sized detached rfl rfl rfl id rfl
        fun _ => ⟨by simp [locking], by simp [locking, Streamer.unsent]⟩
  | sentData wsReady sending => exact holds.sendData sending stored sized detached
  | sentEnd wsReady ending =>
      have ready := ends ending
      have all : ∀ chunk ∈ stream.unacked,
        chunk ∈ YrSandbox.Tunnel.carried stream.log := by
        intro chunk member
        have sent := holds.streamed ready (by simp [ending]) chunk member
        simpa [ending, Streamer.unsent] using sent
      have whole : stream.nextOffset = stream.responseSize := by
        have held :=
          holds.sized.resolve_left fun oversized => by simp [ending] at oversized
        rw [ending] at held
        exact held
      exact holds.moves stored sized detached (holds.endCovered whole all)
        (by simp [ResponseStream.sendEnd, Signal.carry]) rfl id rfl
        (fun _ => ⟨by simp [ending], by simp [ending, Streamer.unsent]⟩) rfl
        (fun _ _ => id)
  | raised connected idle =>
      exact .resting stored sized detached holds.covered (.inr (.inl rfl)) holds.streamed
  | ignored => exact holds
  | completed frame idle =>
      refine .resting stored sized detached ?_ (.inl (by simpa using idle))
        fun ready live => ?_
      · simpa using holds.covered
      · intro chunk member
        have sent := holds.streamed (by simpa using ready) (by simpa using live) chunk
          (ResponseStream.Carried.acknowledged_subset frame chunk member)
        simpa using sent
  | granted idle ready =>
      rename_i frame
      refine .resting stored sized detached (holds.granted_covered _)
        (.inl (by simpa using idle))
        fun isReady live => ?_
      have sent :=
        holds.granted_streamed frame (by simpa using isReady) (by simpa using live)
      simpa using sent
  | blocked connected idle resumes held =>
      refine .resting stored sized detached (holds.granted_covered _) (.inr (.inr rfl))
        fun ready => ?_
      simp [resumes.cleared] at ready
  | replays connected idle resumes free =>
      refine .replayFrom (holds.granted_covered _) ?_ stored sized detached ?_
      · simpa using resumes.cleared
      · simp
  | cancelled idle cancels =>
      refine .resting stored sized detached holds.covered (.inl idle) fun ready live => ?_
      cases cancels with
      | false => exact holds.streamed ready live
      | true => exact absurd rfl live
  | negotiated limits =>
      exact holds.streams stored sized detached rfl rfl rfl id rfl
        fun live => ⟨live, fun _ => id⟩
  | replayLocked locking free =>
      refine .replayFrom holds.covered ?_ stored sized detached ?_
      · exact holds.stored.cleared (by simp [ResponseStream.Replaying, locking])
      · simp
  | replayCredited waiting held =>
      refine .replayChunk holds.covered ?_ stored sized detached
        (holds.replayed _ _ (.inl waiting))
      exact holds.stored.cleared (by simp [ResponseStream.Replaying, waiting])
  | replaySentData wsReady sending =>
      exact holds.replaySendData sending stored sized detached
  | replaySentEnd wsReady ending =>
      have whole := holds.sized.whole holds.stored (holds.ending _ ending).1
      exact holds.moves stored sized detached
        (holds.endCovered whole (holds.ending _ ending).2)
        (by simp [ResponseStream.sendEnd, Signal.carry]) rfl id rfl
        (fun live => ⟨live, fun _ => id⟩) (by rw [ending]; rfl)
        fun _ _ sending => by cases sending
  | replayedChunk sending =>
      refine .replayFrom holds.covered ?_ stored sized detached ?_
      · exact holds.stored.cleared (by simp [ResponseStream.Replaying, sending])
      · intro other member
        have found := holds.stored.held _ _ (.inr ⟨_, sending⟩)
        rw [List.take_add_one, found] at member
        rcases List.mem_append.mp member with earlier | last
        · exact holds.replayed _ _ (.inr ⟨_, sending⟩) other earlier
        · rw [List.mem_singleton.mp last]
          exact holds.drained _ _ sending
  | replayedEnd ending =>
      exact .replayDone holds.covered stored sized detached (holds.ending _ ending).2
  | lost connected =>
      refine holds.moves stored sized detached holds.covered rfl rfl id rfl
        (fun live => ⟨Streamer.interrupt_live live, fun _ => Streamer.unsent_interrupt⟩)
        (Replay.interrupt_interrupt _) ?_
      intro index chunk draining
      revert draining
      simp only [ResponseStream.lose]
      cases stream.replay <;> simp [Replay.interrupt]
  | disconnected between =>
      refine .resting stored sized detached holds.covered (.inl rfl) fun ready live => ?_
      rcases leaves with registered | done
      · simp [registered] at ready
      · exact absurd done (Streamer.interrupt_live live)
  | reconnected limits apart =>
      refine .resting stored sized detached
        (EachAfter.concat holds.covered fun _ _ isEnd => by cases isEnd)
        (.inl (holds.detached.idle apart)) fun ready live => ?_
      exact absurd (holds.detached.cleared apart ready) live
  | delivered accepted =>
      exact holds.streams stored sized detached rfl rfl rfl id rfl
        fun live => ⟨live, fun _ => id⟩

namespace ResponseStream

theorem initial_detached (head : ResponseHead) (limits : Limits) :
    (initial head limits).Detached :=
  .of_connected rfl

theorem initial_carried (head : ResponseHead) (limits : Limits) :
    (initial head limits).Carried :=
  .resting (.initial head limits) (.inr rfl) (initial_detached head limits)
    EachAfter.nil (.inl rfl)
    fun _ _ _ => nofun

/-- While the streaming task ends only with `ready` set, and is not left to stream
unregistered, every end finds the body acknowledged or sent on its connection. -/
theorem run_endsCovered {head : ResponseHead} {limits : Limits} {events : List Event}
    {final : ResponseStream} (ran : run step (initial head limits) events = some final)
    (leaves : Meets step LeavesRegistered (initial head limits) events)
    (ends : Meets step EndsWhenReady (initial head limits) events) :
    EndsCovered final.log :=
  (invariant_under Carried
    (fun _ _ _ holds meets stepped => (step_turn stepped).carried holds meets.1 meets.2)
    (initial_carried head limits) (leaves.and ends) ran).covered

/-- The connection is lost with a chunk after the end was sent; the replay sends
both again. -/
theorem run_endsCovered_replayed :
    EndsCovered
      (after step (initial ⟨none, true⟩ (.withWindow 2 (by decide)))
        [.transmit, .drained, .windowFrame (.of 2 0), .read [7], .takeCredit, .transmit,
          .drained, .exhausted, .transmit, .drained, .disconnect,
          .reconnect (.withWindow 2 (by decide)), .windowFrame (.of 2 0), .replayTransmit,
          .replayDrained, .replayTransmit, .replayDrained]).log :=
  run_endsCovered (run_eq_after (by decide)) (by decide) (by decide)

/-- The connection is lost with a chunk, and the body ends before the next one. The
end waits in `send_frame` and goes out before any window frame: the peer takes a
body for complete that lacks its only byte. -/
theorem suspended_end_truncates_body :
    ¬∀ (head : ResponseHead) (limits : Limits) (events : List Event)
      (final : ResponseStream),
      run step (initial head limits) events = some final → EndsCovered final.log := by
  intro claim
  have covered := claim ⟨none, true⟩ (.withWindow 2 (by decide))
    [.transmit, .drained, .windowFrame (.of 2 0), .read [7], .takeCredit, .transmit,
      .drained, .lost, .exhausted, .disconnect, .reconnect (.withWindow 2 (by decide)),
      .transmit] _ rfl
    [.window 0, .data ⟨0, [7]⟩, .reconnected] (.ended 0 1) [] rfl 0 1 rfl
  rcases covered 0 (by decide) with acknowledged | ⟨chunk, member, _⟩
  · exact absurd acknowledged (by decide)
  · cases member

end ResponseStream

end YrSandbox.Tunnel
