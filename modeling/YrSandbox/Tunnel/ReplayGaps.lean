import YrSandbox.Tunnel.ReplayOrder

/-! # What the peer sees

A peer that accepts chunks where it stands, and acknowledges no more than it has
received, sees no gap in a response whose data goes out in order. -/

namespace YrSandbox.Tunnel

open Transition

def Streamer.inHand : Streamer → Option (Chunk UInt8)
  | locking chunk _ | sending chunk _ _ => some chunk
  | _ => none

theorem Streamer.inHand_interrupt (streamer : Streamer) :
    streamer.interrupt.inHand = streamer.inHand := by
  cases streamer <;> rfl

theorem Streamer.inHand_wake (streamer : Streamer) :
    streamer.wake.inHand = streamer.inHand := by
  cases streamer <;> rfl

theorem Streamer.Between.inHand {ready : Bool} {streamer : Streamer}
    (between : streamer.Between ready) : streamer.inHand = none := by
  cases streamer <;> first | rfl | exact between.elim

namespace ResponseStream

def AcksReceived (stream : ResponseStream) : Event → Prop
  | .windowFrame frame => frame.ack.getD 0 ≤ stream.peer.received
  | _ => True

instance (stream : ResponseStream) : ∀ event, Decidable (stream.AcksReceived event)
  | .windowFrame _ => inferInstanceAs (Decidable (_ ≤ _))
  | .read _ | .exhausted | .fails | .takeCredit | .lock | .transmit | .drained
  | .errorFrame _ | .protocolError | .negotiated _ | .replayLock | .replayCredit
  | .replayTransmit | .replayDrained | .lost | .disconnect | .reconnect _ | .deliver =>
      .isTrue trivial

/-- What is on its way to the peer follows what it has received, up to a repetition
of chunks that it has received entirely. -/
structure Gapless (stream : ResponseStream) : Prop where
  produced : Contiguous 0 stream.produced stream.nextOffset
  unacked : ∀ chunk ∈ stream.unacked, chunk ∈ stream.produced
  inHand : ∀ chunk ∈ stream.streamer.inHand, chunk ∈ stream.produced
  acked : stream.acked ≤ stream.peer.received
  received : stream.peer.received ≤ stream.nextOffset
  apart : ∀ chunk ∈ stream.produced,
    chunk.finish ≤ stream.peer.received ∨ stream.peer.received ≤ chunk.offset
  sent : ∀ chunk ∈ stream.peer.inFlight, chunk ∈ stream.produced
  quiet : position stream.log = none → stream.peer.inFlight = []
  follows : ∀ reached, position stream.log = some reached →
    ∃ start ≤ stream.peer.received, Contiguous start stream.peer.inFlight reached
  noGap : stream.peer.sawGap = false

namespace Gapless

variable {stream next : ResponseStream}

theorem initial (head : ResponseHead) (limits : Limits) :
    Gapless (initial head limits) where
  produced := rfl
  unacked _ := nofun
  inHand _ := nofun
  acked := Nat.le_refl 0
  received := Nat.le_refl 0
  apart _ := nofun
  sent _ := nofun
  quiet _ := rfl
  follows reached stands := by
    cases stands
    exact ⟨0, Nat.le_refl 0, rfl⟩
  noGap := rfl

theorem moves (holds : Gapless stream) (produced : next.produced = stream.produced)
    (unacked : next.unacked = stream.unacked)
    (nextOffset : next.nextOffset = stream.nextOffset) (acked : next.acked = stream.acked)
    (peer : next.peer = stream.peer) (log : position next.log = position stream.log)
    (inHand : ∀ chunk ∈ next.streamer.inHand, chunk ∈ stream.streamer.inHand) :
    Gapless next where
  produced := by
    rw [produced, nextOffset]
    exact holds.produced
  unacked := by
    rw [unacked, produced]
    exact holds.unacked
  inHand chunk member := by
    rw [produced]
    exact holds.inHand chunk (inHand chunk member)
  acked := by
    rw [acked, peer]
    exact holds.acked
  received := by
    rw [peer, nextOffset]
    exact holds.received
  apart := by
    rw [produced, peer]
    exact holds.apart
  sent := by
    rw [peer, produced]
    exact holds.sent
  quiet := by
    rw [log, peer]
    exact holds.quiet
  follows := by
    rw [log, peer]
    exact holds.follows
  noGap := by
    rw [peer]
    exact holds.noGap

theorem replayDone (holds : Gapless stream) : Gapless stream.replayDone :=
  holds.moves rfl rfl rfl rfl rfl rfl fun chunk member => by
    simp only [ResponseStream.replayDone, Streamer.inHand_wake] at member
    exact member

theorem replayChunk (holds : Gapless stream) (index : Nat) (chunk : Chunk UInt8) :
    Gapless (stream.replayChunk index chunk) := by
  rcases stream.replayChunk_cases index chunk with ⟨_, same⟩ | ⟨_, same | same⟩ <;>
    rw [same] <;> exact holds.moves rfl rfl rfl rfl rfl rfl fun _ => id

theorem replayFrom (holds : Gapless stream) (index : Nat) :
    Gapless (stream.replayFrom index) := by
  rcases stream.replayFrom_cases index with ⟨chunk, _, same⟩ | ⟨_, _, same⟩ |
    ⟨_, _, same⟩
  · rw [same]
    exact holds.replayChunk index chunk
  · rw [same]
    exact holds.moves rfl rfl rfl rfl rfl rfl fun _ => id
  · rw [same]
    exact holds.replayDone

theorem acknowledge (holds : Gapless stream) {frame : WindowFrame}
    (acks : frame.ack.getD 0 ≤ stream.peer.received) :
    Gapless (stream.acknowledge frame) := by
  unfold ResponseStream.acknowledge
  cases given : frame.ack with
  | none => exact holds
  | some ackOffset =>
      rw [given] at acks
      exact { holds with
        unacked := fun chunk member => holds.unacked chunk (List.mem_filter.mp member).1
        acked := Nat.max_le.mpr ⟨holds.acked, acks⟩ }

theorem granted (holds : Gapless stream) (stored : stream.Stored) {frame : WindowFrame}
    (idle : stream.replay = .idle) (acks : frame.ack.getD 0 ≤ stream.peer.received) :
    Gapless (stream.granted frame) := by
  have acknowledged := holds.acknowledge acks
  have log : (stream.acknowledge frame).log = stream.log := acknowledge_log frame stream
  have peer : (stream.acknowledge frame).peer = stream.peer := by
    unfold ResponseStream.acknowledge
    split <;> rfl
  refine { acknowledged with quiet := ?_, follows := ?_ }
  · intro unknown
    rw [Ordered.granted_position] at unknown
    cases unknown
  · intro reached stands
    rw [Ordered.granted_position] at stands
    cases before : position stream.log with
    | some place =>
        rw [before] at stands
        cases stands
        exact acknowledged.follows place (by rw [log, before])
    | none =>
        rw [before] at stands
        cases stands
        have empty : (stream.acknowledge frame).peer.inFlight = [] :=
          acknowledged.quiet (by rw [log, before])
        have resumed := stored.acknowledge idle frame
        rcases resumed.contiguous with ⟨start, within, contiguous⟩
        have resumes : ((stream.acknowledge frame).topUp frame).resume = start :=
          resume_eq contiguous
        refine ⟨start, Nat.le_trans within acknowledged.acked, ?_⟩
        simp only [Option.getD_none]
        rw [resumes]
        show Contiguous start (stream.acknowledge frame).peer.inFlight start
        rw [empty]
        rfl

theorem takeCredit (holds : Gapless stream) (piece : Bytes) (pieces : List Bytes) :
    Gapless (stream.takeCredit piece pieces) where
  produced := holds.produced.concat rfl
  unacked chunk member := by
    rcases List.mem_append.mp member with earlier | last
    · exact List.mem_append_left _ (holds.unacked chunk earlier)
    · exact List.mem_append_right _ last
  inHand chunk member := by
    have taken : (stream.takeCredit piece pieces).streamer.inHand =
        some ⟨stream.nextOffset, piece⟩ := by
      simp only [ResponseStream.takeCredit]
      split <;> rfl
    rw [taken] at member
    cases member
    exact List.mem_append_right _ List.mem_cons_self
  acked := holds.acked
  received := Nat.le_trans holds.received (Nat.le_add_right _ _)
  apart chunk member := by
    rcases List.mem_append.mp member with earlier | last
    · exact holds.apart chunk earlier
    · rw [List.mem_singleton.mp last]
      exact .inr holds.received
  sent chunk member := List.mem_append_left _ (holds.sent chunk member)
  quiet := holds.quiet
  follows := holds.follows
  noGap := holds.noGap

theorem sendData (holds : Gapless stream) {chunk : Chunk UInt8}
    (fits : position stream.log = some chunk.offset) (member : chunk ∈ stream.produced) :
    Gapless (stream.sendData chunk) := by
  refine { holds with sent := ?_, quiet := ?_, follows := ?_ }
  · intro other otherMember
    rcases List.mem_append.mp otherMember with earlier | last
    · exact holds.sent other earlier
    · rw [List.mem_singleton.mp last]
      exact member
  · intro unknown
    simp [ResponseStream.sendData, Signal.advance] at unknown
  · intro reached stands
    simp only [ResponseStream.sendData, position_concat, Signal.advance] at stands
    cases stands
    rcases holds.follows chunk.offset fits with ⟨start, within, contiguous⟩
    exact ⟨start, within, contiguous.concat rfl⟩

theorem deliver (holds : Gapless stream) {peer : ResponsePeer}
    (accepted : stream.peer.accept = some peer) : Gapless { stream with peer } := by
  unfold ResponsePeer.accept at accepted
  split at accepted
  · cases accepted
  · rename_i chunk others flight
    cases accepted
    have member : chunk ∈ stream.produced := holds.sent chunk (by simp [flight])
    have sent : ∀ other ∈ others, other ∈ stream.produced :=
      fun other later => holds.sent other (by simp [flight, later])
    cases stands : position stream.log with
    | none =>
        have empty := holds.quiet stands
        rw [flight] at empty
        cases empty
    | some reached =>
        rcases holds.follows reached stands with ⟨start, within, contiguous⟩
        rw [flight] at contiguous
        rcases contiguous with ⟨rfl, rest⟩
        generalize moved : (if chunk.offset = stream.peer.received then chunk.finish
          else stream.peer.received) = received
        have further : stream.peer.received ≤ received ∧ received ≤ stream.nextOffset ∧
            chunk.finish ≤ received ∧
            ∀ other ∈ stream.produced,
              other.finish ≤ received ∨ received ≤ other.offset := by
          by_cases awaited : chunk.offset = stream.peer.received
          · rw [if_pos awaited] at moved
            subst moved
            refine ⟨?_, (holds.produced.finish_le member).2, Nat.le_refl _,
              fun other otherMember => holds.produced.separated member otherMember⟩
            rw [← awaited]
            exact Nat.le_add_right _ _
          · rw [if_neg awaited] at moved
            subst moved
            have known := (holds.apart chunk member).resolve_right (by omega)
            exact ⟨Nat.le_refl _, holds.received, known, holds.apart⟩
        rcases further with ⟨onward, bounded, known, apart⟩
        refine { holds with
          acked := Nat.le_trans holds.acked onward, received := bounded, apart := apart
          sent := sent, quiet := ?_, follows := ?_, noGap := ?_ }
        · intro unknown
          simp [stands] at unknown
        · intro place standsHere
          simp only [stands, Option.some.injEq] at standsHere
          subst standsHere
          exact ⟨chunk.finish, known, rest⟩
        · simp [holds.noGap, within]

end Gapless

end ResponseStream

theorem ResponseTurn.gapless {stream next : ResponseStream} {event : ResponseStream.Event}
    (turn : ResponseTurn stream event next) (stored : stream.Stored)
    (inOrder : InOrder next.log) (holds : stream.Gapless)
    (acks : stream.AcksReceived event) : next.Gapless := by
  cases turn with
  | advanced streamer responseSize before sent after _ =>
      refine holds.moves rfl rfl rfl rfl rfl rfl fun chunk member => ?_
      rcases after with rfl | rfl | between
      · cases member
      · cases member
      · simp only [between.inHand] at member
        cases member
  | exhausted reading =>
      exact holds.moves rfl rfl rfl rfl rfl rfl fun _ held => by cases held
  | finished ending =>
      exact holds.moves rfl rfl rfl rfl rfl rfl fun _ held => by cases held
  | took waiting held => exact holds.takeCredit _ _
  | locked locking free =>
      refine holds.moves rfl rfl rfl rfl rfl rfl fun chunk member => ?_
      rw [locking]
      exact member
  | sentData wsReady sending =>
      have member := holds.inHand _ (by rw [sending]; rfl)
      have sent := holds.sendData inOrder.last member
      refine sent.moves rfl rfl rfl rfl rfl rfl fun chunk inHand => ?_
      simp only [ResponseStream.sendData, sending]
      exact inHand
  | sentEnd wsReady ending =>
      exact holds.moves rfl rfl rfl rfl rfl
        (by simp [ResponseStream.sendEnd, Signal.advance]) fun _ held => by cases held
  | raised connected idle => exact holds.moves rfl rfl rfl rfl rfl rfl fun _ => id
  | ignored => exact holds
  | completed frame idle =>
      exact (holds.acknowledge acks).moves rfl rfl rfl rfl rfl rfl fun _ => id
  | granted idle ready => exact holds.granted stored idle acks
  | blocked connected idle resumes held =>
      exact (holds.granted stored idle acks).moves rfl rfl rfl rfl rfl rfl fun _ => id
  | replays connected idle resumes free =>
      exact (holds.granted stored idle acks).replayFrom 0
  | cancelled idle cancels =>
      refine holds.moves rfl rfl rfl rfl rfl rfl fun chunk member => ?_
      cases cancels with
      | false => exact member
      | true => cases member
  | negotiated limits => exact holds.moves rfl rfl rfl rfl rfl rfl fun _ => id
  | replayLocked locking free => exact holds.replayFrom 0
  | replayCredited waiting held => exact holds.replayChunk _ _
  | replaySentData wsReady sending =>
      have found := stored.held _ _ (.inr ⟨_, sending⟩)
      have member := holds.unacked _ (List.mem_of_getElem? found)
      have sent := holds.sendData inOrder.last member
      exact sent.moves rfl rfl rfl rfl rfl rfl fun _ => id
  | replaySentEnd wsReady ending =>
      exact holds.moves rfl rfl rfl rfl rfl
        (by simp [ResponseStream.sendEnd, Signal.advance]) fun _ => id
  | replayedChunk sending => exact holds.replayFrom _
  | replayedEnd ending => exact holds.replayDone
  | lost connected =>
      refine holds.moves rfl rfl rfl rfl rfl rfl fun chunk member => ?_
      simp only [ResponseStream.lose, Streamer.inHand_interrupt] at member
      exact member
  | disconnected between =>
      refine holds.moves rfl rfl rfl rfl rfl rfl fun chunk member => ?_
      simp only [ResponseStream.lose, Streamer.inHand_interrupt] at member
      exact member
  | reconnected limits apart =>
      refine { holds with sent := by simp, quiet := fun _ => rfl, follows := ?_ }
      intro reached stands
      simp [Signal.advance] at stands
  | delivered accepted => exact holds.deliver accepted

namespace ResponseStream

theorem initial_ordered (head : ResponseHead) (limits : Limits) :
    (initial head limits).Ordered where
  stored := .initial head limits
  detached := .of_connected rfl
  inOrder := EachAfter.nil
  unlocking := nofun
  streaming _ _ _ := ⟨rfl, nofun⟩
  replaying := nofun

theorem run_ordered {head : ResponseHead} {limits : Limits} {events : List Event}
    {final : ResponseStream} (ran : run step (initial head limits) events = some final)
    (leaves : Meets step LeavesRegistered (initial head limits) events)
    (streams : Meets step StreamsWhenReady (initial head limits) events) : final.Ordered :=
  invariant_under Ordered
    (fun _ _ _ holds meets stepped => (step_turn stepped).ordered holds meets.1 meets.2)
    (initial_ordered head limits) (leaves.and streams) ran

/-- While the streaming task acts only with `ready` set, and is not left to stream
unregistered, every connection carries the chunks in order from where its window
frame resumes; and a peer that acknowledges what it has received sees no gap. -/
theorem run_inOrder {head : ResponseHead} {limits : Limits} {events : List Event}
    {final : ResponseStream} (ran : run step (initial head limits) events = some final)
    (leaves : Meets step LeavesRegistered (initial head limits) events)
    (streams : Meets step StreamsWhenReady (initial head limits) events) :
    InOrder final.log ∧
      (Meets step AcksReceived (initial head limits) events →
        final.peer.sawGap = false) := by
  refine ⟨(run_ordered ran leaves streams).inOrder, fun acks => ?_⟩
  have both : final.Ordered ∧ final.Gapless :=
    invariant_under (fun stream => stream.Ordered ∧ stream.Gapless)
      (fun _ _ _ ⟨ordered, gapless⟩ ⟨⟨leaves, streams⟩, acks⟩ stepped =>
        have turn := step_turn stepped
        have next := turn.ordered ordered leaves streams
        ⟨next, turn.gapless ordered.stored next.inOrder gapless acks⟩)
      ⟨initial_ordered head limits, .initial head limits⟩
        ((leaves.and streams).and acks) ran
  exact both.2.noGap

/-- The connection is lost with two chunks of which the peer has received one; the
task has read another in the meantime. -/
theorem run_inOrder_two_sent :
    let final :=
      after step (initial ⟨none, true⟩ (.withWindow 2 (by decide)))
        [.transmit, .drained, .windowFrame (.of 2 0), .read [7], .takeCredit, .transmit,
          .drained, .read [8], .takeCredit, .transmit, .drained, .deliver, .read [9],
          .disconnect, .reconnect (.withWindow 2 (by decide)), .windowFrame (.of 2 1),
          .replayTransmit, .replayDrained]
    InOrder final.log ∧ final.peer.sawGap = false :=
  have both := run_inOrder (run_eq_after (by decide)) (by decide) (by decide)
  ⟨both.1, both.2 (by decide)⟩

/-- The connection is lost with a chunk while the task sends the next one. That one
waits in `send_binary` and goes out first on the new connection, before any window
frame and a byte too far on. -/
theorem suspended_chunk_opens_gap :
    ¬∀ (head : ResponseHead) (limits : Limits) (events : List Event)
      (final : ResponseStream),
      run step (initial head limits) events = some final →
      InOrder final.log ∧
        (Meets step AcksReceived (initial head limits) events →
          final.peer.sawGap = false) := by
  intro claim
  have ordered := (claim ⟨none, true⟩ (.withWindow 2 (by decide))
    [.transmit, .drained, .windowFrame (.of 2 0), .read [7], .takeCredit, .transmit,
      .drained, .read [8], .takeCredit, .lost, .disconnect,
      .reconnect (.withWindow 2 (by decide)), .transmit] _ rfl).1
  have fits := ordered [.window 0, .data ⟨0, [7]⟩, .reconnected] (.data ⟨1, [8]⟩) [] rfl
  exact absurd fits (by simp [Signal.Fits, position, Signal.advance])

end ResponseStream

end YrSandbox.Tunnel
