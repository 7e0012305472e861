import YrSandbox.Tunnel.ResponseStream

/-! # What one turn does to a response stream

The case analyses of the compound turns, and what holds in every state: the list
of unacknowledged chunks is contiguous, the send lock has one holder, and the
receive loop replays only while `ready` is cleared. -/

namespace YrSandbox.Tunnel

open Transition

namespace Streamer

def unsent : Streamer → Option (Chunk UInt8)
  | locking chunk _ | sending chunk _ .waiting => some chunk
  | _ => none

def PastBody : Streamer → Prop
  | ending _ | done => True
  | _ => False

def remaining : Streamer → Nat
  | gate piece pieces | credit piece pieces => (piece :: pieces).flatten.length
  | locking _ pieces | sending _ pieces _ => pieces.flatten.length
  | opening _ | reading | ending _ | done => 0

def Between (ready : Bool) : Streamer → Prop
  | reading => True
  | gate _ _ => ready = false
  | credit _ _ => ready = true
  | _ => False

theorem Between.holdsLock {ready : Bool} {streamer : Streamer}
    (between : streamer.Between ready) : streamer.holdsLock = false := by
  cases streamer <;> first | rfl | exact between.elim

@[simp] theorem holdsLock_interrupt (streamer : Streamer) :
    streamer.interrupt.holdsLock = streamer.holdsLock := by
  cases streamer <;> rfl

@[simp] theorem pastBody_interrupt (streamer : Streamer) :
    streamer.interrupt.PastBody ↔ streamer.PastBody := by
  cases streamer <;> exact Iff.rfl

@[simp] theorem remaining_interrupt (streamer : Streamer) :
    streamer.interrupt.remaining = streamer.remaining := by
  cases streamer <;> rfl

@[simp] theorem remaining_wake (streamer : Streamer) :
    streamer.wake.remaining = streamer.remaining := by
  cases streamer <;> rfl

theorem PastBody.remaining {streamer : Streamer} (past : streamer.PastBody) :
    streamer.remaining = 0 := by
  cases streamer <;> first | rfl | exact past.elim

@[simp] theorem pastBody_wake (streamer : Streamer) :
    streamer.wake.PastBody ↔ streamer.PastBody := by
  cases streamer <;> exact Iff.rfl

end Streamer

namespace Replay

@[simp] theorem holdsLock_interrupt (replay : Replay) :
    replay.interrupt.holdsLock = replay.holdsLock := by
  cases replay <;> rfl

@[simp] theorem interrupt_interrupt (replay : Replay) :
    replay.interrupt.interrupt = replay.interrupt := by
  cases replay <;> rfl

def At (index : Nat) (chunk : Chunk UInt8) (replay : Replay) : Prop :=
  replay = .credit index chunk ∨ ∃ stage, replay = .sending index chunk stage

theorem At.of_interrupt {index : Nat} {chunk : Chunk UInt8} {old new : Replay}
    (reached : new.At index chunk) (same : new.interrupt = old.interrupt) :
    old.At index chunk := by
  rcases reached with rfl | ⟨stage, rfl⟩ <;> revert same <;> cases old <;>
    simp +contextual [At, interrupt]

theorem ending_of_interrupt {old new : Replay} {stage : Stage}
    (ending : new = .ending stage)
    (same : new.interrupt = old.interrupt) : ∃ stage, old = .ending stage := by
  subst ending
  revert same
  cases old <;> simp [interrupt]

theorem locking_of_interrupt {old new : Replay} (locking : new = .locking)
    (same : new.interrupt = old.interrupt) : old = .locking := by
  subst locking
  revert same
  cases old <;> simp [interrupt]

end Replay

namespace ResponseStream

/-! ## Compound turns -/

theorem nextPiece_cases (pieces : List Bytes) (stream : ResponseStream) :
    ∃ streamer, streamer.Between stream.ready ∧
      streamer.remaining = pieces.flatten.length ∧
      stream.nextPiece pieces = { stream with streamer } := by
  cases pieces with
  | nil => exact ⟨.reading, trivial, rfl, rfl⟩
  | cons piece pieces =>
      cases ready : stream.ready with
      | false => exact ⟨.gate piece pieces, rfl, rfl, by simp [nextPiece, ready]⟩
      | true => exact ⟨.credit piece pieces, rfl, rfl, by simp [nextPiece, ready]⟩

theorem read_cases (rawChunk : Bytes) (stream : ResponseStream) :
    ∃ streamer responseSize,
      (streamer = .done ∨ streamer.Between stream.ready ∧
        responseSize = stream.responseSize + streamer.remaining) ∧
      stream.read rawChunk = { stream with streamer, responseSize } := by
  unfold read
  simp only
  split
  · exact ⟨.done, _, .inl rfl, rfl⟩
  · rcases nextPiece_cases (cut stream.origin.negotiatedStreamChunk rawChunk)
      { stream with responseSize := stream.responseSize + rawChunk.length } with
      ⟨streamer, between, remaining, same⟩
    rw [flatten_cut stream.origin.chunkPositive] at remaining
    exact ⟨streamer, _, .inr ⟨between, by rw [remaining]⟩, same⟩

theorem exhaust_cases (stream : ResponseStream) :
    stream.exhaust = { stream with streamer := .done } ∨
      stream.exhaust = { stream with ended := true, streamer := .ending .waiting } := by
  unfold exhaust
  split
  · exact .inl rfl
  · exact .inr rfl

theorem replayChunk_cases (index : Nat) (chunk : Chunk UInt8) (stream : ResponseStream) :
    stream.credits = 0 ∧
      stream.replayChunk index chunk = { stream with replay := .credit index chunk } ∨
    stream.credits ≠ 0 ∧
      (stream.replayChunk index chunk =
          { stream with credits := stream.credits - 1, replay := .raised } ∨
        stream.replayChunk index chunk =
          { stream with
            credits := stream.credits - 1
            replay := .sending index chunk .waiting }) := by
  unfold replayChunk
  split
  · rename_i empty
    exact .inl ⟨empty, rfl⟩
  · rename_i held
    refine .inr ⟨held, ?_⟩
    split
    · exact .inl rfl
    · exact .inr rfl

theorem replayFrom_cases (index : Nat) (stream : ResponseStream) :
    (∃ chunk, stream.unacked[index]? = some chunk ∧
      stream.replayFrom index = stream.replayChunk index chunk) ∨
    stream.unacked.length ≤ index ∧ stream.ended = true ∧
      stream.replayFrom index = { stream with replay := .ending .waiting } ∨
    stream.unacked.length ≤ index ∧ stream.ended = false ∧
      stream.replayFrom index = stream.replayDone := by
  unfold replayFrom
  split
  · rename_i chunk found
    exact .inl ⟨chunk, found, rfl⟩
  · rename_i absent
    have beyond := List.getElem?_eq_none_iff.mp absent
    split
    · rename_i ended
      exact .inr (.inl ⟨beyond, ended, rfl⟩)
    · rename_i unended
      exact .inr (.inr ⟨beyond, by simpa using unended, rfl⟩)

structure Resumes (frame : WindowFrame) (stream : ResponseStream) : Prop where
  valid : frame.valid = true
  registered : stream.registered = true
  incomplete : frame.complete = false
  cleared : stream.ready = false

instance (frame : WindowFrame) (stream : ResponseStream) :
    Decidable (stream.Resumes frame) :=
  decidable_of_iff
    (frame.valid = true ∧ stream.registered = true ∧ frame.complete = false ∧
      stream.ready = false)
    ⟨fun ⟨valid, registered, incomplete, cleared⟩ =>
        ⟨valid, registered, incomplete, cleared⟩,
      fun ⟨valid, registered, incomplete, cleared⟩ =>
        ⟨valid, registered, incomplete, cleared⟩⟩

def granted (frame : WindowFrame) (stream : ResponseStream) : ResponseStream :=
  ((stream.acknowledge frame).topUp frame).noteWindow

@[simp] theorem acknowledge_streamer (frame : WindowFrame) (stream : ResponseStream) :
    (stream.acknowledge frame).streamer = stream.streamer := by
  unfold acknowledge
  split <;> rfl

@[simp] theorem acknowledge_replay (frame : WindowFrame) (stream : ResponseStream) :
    (stream.acknowledge frame).replay = stream.replay := by
  unfold acknowledge
  split <;> rfl

@[simp] theorem acknowledge_ready (frame : WindowFrame) (stream : ResponseStream) :
    (stream.acknowledge frame).ready = stream.ready := by
  unfold acknowledge
  split <;> rfl

@[simp] theorem acknowledge_wsReady (frame : WindowFrame) (stream : ResponseStream) :
    (stream.acknowledge frame).wsReady = stream.wsReady := by
  unfold acknowledge
  split <;> rfl

@[simp] theorem acknowledge_nextOffset (frame : WindowFrame) (stream : ResponseStream) :
    (stream.acknowledge frame).nextOffset = stream.nextOffset := by
  unfold acknowledge
  split <;> rfl

@[simp] theorem acknowledge_log (frame : WindowFrame) (stream : ResponseStream) :
    (stream.acknowledge frame).log = stream.log := by
  unfold acknowledge
  split <;> rfl

@[simp] theorem granted_streamer (frame : WindowFrame) (stream : ResponseStream) :
    (stream.granted frame).streamer = stream.streamer :=
  acknowledge_streamer frame stream

@[simp] theorem granted_replay (frame : WindowFrame) (stream : ResponseStream) :
    (stream.granted frame).replay = stream.replay :=
  acknowledge_replay frame stream

@[simp] theorem granted_ready (frame : WindowFrame) (stream : ResponseStream) :
    (stream.granted frame).ready = stream.ready :=
  acknowledge_ready frame stream

theorem windowFrame_cases (frame : WindowFrame) (stream : ResponseStream) :
    stream.windowFrame frame = { stream with replay := .raised } ∨
    stream.windowFrame frame = stream ∨
    stream.windowFrame frame = { stream.acknowledge frame with registered := false } ∨
    stream.ready = true ∧ stream.windowFrame frame = stream.granted frame ∨
    stream.Resumes frame ∧
      ((stream.streamer.holdsLock = true ∧
          stream.windowFrame frame = { stream.granted frame with replay := .locking }) ∨
        stream.streamer.holdsLock = false ∧
          stream.windowFrame frame = (stream.granted frame).replayFrom 0) := by
  have ready := granted_ready frame stream
  have streamer := granted_streamer frame stream
  unfold windowFrame
  split
  · exact .inl rfl
  · rename_i valid
    simp only [Bool.not_eq_true', Bool.not_eq_false] at valid
    split
    · exact .inr (.inl rfl)
    · rename_i registered
      simp only [Bool.not_eq_true', Bool.not_eq_false] at registered
      simp only
      split
      · exact .inr (.inr (.inl rfl))
      · rename_i incomplete
        simp only [Bool.not_eq_true] at incomplete
        split
        · rename_i isReady
          exact .inr (.inr (.inr (.inl ⟨ready ▸ isReady, rfl⟩)))
        · rename_i notReady
          have cleared : stream.ready = false := by
            rw [← ready]
            simpa [granted] using notReady
          refine .inr (.inr (.inr (.inr
            ⟨⟨valid, registered, incomplete, cleared⟩, ?_⟩)))
          unfold lockAndReplay
          split
          · rename_i held
            exact .inl ⟨streamer ▸ held, rfl⟩
          · rename_i free
            exact .inr ⟨by rw [← streamer]; simpa [granted] using free, rfl⟩

end ResponseStream

inductive ResponseTurn : ResponseStream → ResponseStream.Event → ResponseStream → Prop
  | advanced (streamer : Streamer) (responseSize : Nat)
      (before : ¬stream.streamer.PastBody) (sent : stream.streamer.unsent = none)
      (after : streamer = .done ∨ streamer = .opening .draining ∨
        streamer.Between stream.ready)
      (sized : streamer = .done ∨ stream.responseSize + streamer.remaining =
        responseSize + stream.streamer.remaining) :
      ResponseTurn stream event { stream with streamer, responseSize }
  | exhausted (reading : stream.streamer = .reading) :
      ResponseTurn stream .exhausted
        { stream with ended := true, streamer := .ending .waiting }
  | finished (ending : stream.streamer = .ending .draining) :
      ResponseTurn stream .drained { stream with streamer := .done }
  | took (waiting : stream.streamer = .credit piece pieces) (held : stream.credits ≠ 0) :
      ResponseTurn stream .takeCredit (stream.takeCredit piece pieces)
  | locked (locking : stream.streamer = .locking chunk pieces)
      (free : stream.replay.holdsLock = false) :
      ResponseTurn stream .lock { stream with streamer := .sending chunk pieces .waiting }
  | sentData (wsReady : stream.wsReady = true)
      (sending : stream.streamer = .sending chunk pieces .waiting) :
      ResponseTurn stream .transmit
        { stream.sendData chunk with streamer := .sending chunk pieces .draining }
  | sentEnd (wsReady : stream.wsReady = true)
      (ending : stream.streamer = .ending .waiting) :
      ResponseTurn stream .transmit
        { stream.sendEnd with streamer := .ending .draining }
  | raised (connected : stream.connected = true) (idle : stream.replay = .idle) :
      ResponseTurn stream event { stream with replay := .raised }
  | ignored : ResponseTurn stream event stream
  | completed (frame : WindowFrame) (idle : stream.replay = .idle) :
      ResponseTurn stream (.windowFrame frame)
        { stream.acknowledge frame with registered := false }
  | granted (idle : stream.replay = .idle) (ready : stream.ready = true) :
      ResponseTurn stream (.windowFrame frame) (stream.granted frame)
  | blocked (connected : stream.connected = true) (idle : stream.replay = .idle)
      (resumes : stream.Resumes frame) (held : stream.streamer.holdsLock = true) :
      ResponseTurn stream (.windowFrame frame)
        { stream.granted frame with replay := .locking }
  | replays (connected : stream.connected = true) (idle : stream.replay = .idle)
      (resumes : stream.Resumes frame) (free : stream.streamer.holdsLock = false) :
      ResponseTurn stream (.windowFrame frame) ((stream.granted frame).replayFrom 0)
  | cancelled (idle : stream.replay = .idle) (cancels : Bool) :
      ResponseTurn stream (.errorFrame cancels)
        { stream with
          registered := false
          streamer := if cancels then .done else stream.streamer }
  | negotiated (limits : Limits) :
      ResponseTurn stream (.negotiated limits) { stream with limits }
  | replayLocked (locking : stream.replay = .locking)
      (free : stream.streamer.holdsLock = false) :
      ResponseTurn stream .replayLock (stream.replayFrom 0)
  | replayCredited (waiting : stream.replay = .credit index chunk)
      (held : stream.credits ≠ 0) :
      ResponseTurn stream .replayCredit (stream.replayChunk index chunk)
  | replaySentData (wsReady : stream.wsReady = true)
      (sending : stream.replay = .sending index chunk .waiting) :
      ResponseTurn stream .replayTransmit
        { stream.sendData chunk with replay := .sending index chunk .draining }
  | replaySentEnd (wsReady : stream.wsReady = true)
      (ending : stream.replay = .ending .waiting) :
      ResponseTurn stream .replayTransmit
        { stream.sendEnd with replay := .ending .draining }
  | replayedChunk (sending : stream.replay = .sending index chunk .draining) :
      ResponseTurn stream .replayDrained (stream.replayFrom (index + 1))
  | replayedEnd (ending : stream.replay = .ending .draining) :
      ResponseTurn stream .replayDrained stream.replayDone
  | lost (connected : stream.connected = true) : ResponseTurn stream .lost stream.lose
  | disconnected (between : stream.replay = .idle ∨ stream.replay = .raised) :
      ResponseTurn stream .disconnect
        { stream.lose with
          connected := false
          replay := .idle
          ready := if stream.registered then false else stream.ready }
  | reconnected (limits : Limits) (apart : stream.connected = false) :
      ResponseTurn stream (.reconnect limits)
        { stream with
          connected := true
          wsReady := true
          limits
          log := stream.log ++ [.reconnected]
          peer := { stream.peer with inFlight := [] } }
  | delivered (accepted : stream.peer.accept = some peer) :
      ResponseTurn stream .deliver { stream with peer }

namespace ResponseStream

theorem windowFrame_turn {stream : ResponseStream} (listening : stream.listening = true)
    (frame : WindowFrame) :
    ResponseTurn stream (.windowFrame frame) (stream.windowFrame frame) := by
  rcases Bool.and_eq_true_iff.mp listening with ⟨connected, isIdle⟩
  have idle : stream.replay = .idle := by simpa using isIdle
  rcases stream.windowFrame_cases frame with same | same | same |
    ⟨ready, same⟩ | ⟨resumes, ⟨held, same⟩ | ⟨free, same⟩⟩
  · rw [same]
    exact .raised connected idle
  · rw [same]
    exact .ignored
  · rw [same]
    exact .completed frame idle
  · rw [same]
    exact .granted idle ready
  · rw [same]
    exact .blocked connected idle resumes held
  · rw [same]
    exact .replays connected idle resumes free

theorem step_turn {stream next : ResponseStream} {event : Event}
    (stepped : stream.step event = some next) : ResponseTurn stream event next := by
  have hears (heard : stream.listening = true) :
      stream.connected = true ∧ stream.replay = .idle := by
    unfold listening at heard
    simpa using heard
  cases event with
  | read rawChunk =>
      simp only [step, Option.ite_none_right_eq_some, Option.some.injEq] at stepped
      rcases stepped with ⟨reading, rfl⟩
      rcases stream.read_cases rawChunk with ⟨streamer, responseSize, after, same⟩
      rw [same]
      refine .advanced streamer responseSize (by simp [reading, Streamer.PastBody])
        (by simp [reading, Streamer.unsent]) ?_ ?_
      · rcases after with done | ⟨between, _⟩
        · exact .inl done
        · exact .inr (.inr between)
      · rcases after with done | ⟨_, sized⟩
        · exact .inl done
        · exact .inr (by simp [sized, reading, Streamer.remaining])
  | exhausted =>
      simp only [step, Option.ite_none_right_eq_some, Option.some.injEq] at stepped
      rcases stepped with ⟨reading, rfl⟩
      rcases stream.exhaust_cases with same | same
      · rw [same]
        exact .advanced .done _ (by simp [reading, Streamer.PastBody])
          (by simp [reading, Streamer.unsent]) (.inl rfl) (.inl rfl)
      · rw [same]
        exact .exhausted reading
  | fails =>
      simp only [step, Option.ite_none_right_eq_some, Option.some.injEq] at stepped
      rcases stepped with ⟨reading, rfl⟩
      exact .advanced .done _ (by simp [reading, Streamer.PastBody])
        (by simp [reading, Streamer.unsent]) (.inl rfl) (.inl rfl)
  | takeCredit =>
      simp only [step] at stepped
      split at stepped
      · rename_i piece pieces waiting
        simp only [Option.ite_none_left_eq_some, Option.some.injEq] at stepped
        rcases stepped with ⟨held, rfl⟩
        exact .took waiting held
      · cases stepped
  | lock =>
      simp only [step] at stepped
      split at stepped
      · rename_i chunk pieces locking
        simp only [Option.ite_none_left_eq_some, Option.some.injEq] at stepped
        rcases stepped with ⟨free, rfl⟩
        exact .locked locking (by simpa using free)
      · cases stepped
  | transmit =>
      simp only [step, Option.ite_none_right_eq_some] at stepped
      rcases stepped with ⟨wsReady, sends⟩
      split at sends
      · rename_i opening
        cases sends
        exact .advanced _ _ (by simp [opening, Streamer.PastBody])
          (by simp [opening, Streamer.unsent]) (.inr (.inl rfl))
          (.inr (by simp [opening, Streamer.remaining]))
      · rename_i chunk pieces sending
        cases sends
        exact .sentData wsReady sending
      · rename_i ending
        cases sends
        exact .sentEnd wsReady ending
      · cases sends
  | drained =>
      simp only [step] at stepped
      split at stepped
      · rename_i opening
        cases stepped
        exact .advanced _ _ (by simp [opening, Streamer.PastBody])
          (by simp [opening, Streamer.unsent]) (.inr (.inr trivial))
          (.inr (by simp [opening, Streamer.remaining]))
      · rename_i chunk pieces sending
        cases stepped
        rcases stream.nextPiece_cases pieces with ⟨streamer, between, remaining, same⟩
        rw [same]
        exact .advanced _ _ (by simp [sending, Streamer.PastBody])
          (by simp [sending, Streamer.unsent]) (.inr (.inr between))
          (.inr (by rw [sending, remaining]; rfl))
      · rename_i ending
        cases stepped
        exact .finished ending
      · cases stepped
  | windowFrame frame =>
      simp only [step, Option.ite_none_right_eq_some, Option.some.injEq] at stepped
      rcases stepped with ⟨heard, rfl⟩
      exact windowFrame_turn heard frame
  | errorFrame cancels =>
      simp only [step, Option.ite_none_right_eq_some, Option.some.injEq] at stepped
      rcases stepped with ⟨heard, rfl⟩
      exact .cancelled (hears heard).2 cancels
  | protocolError =>
      simp only [step, Option.ite_none_right_eq_some, Option.some.injEq] at stepped
      rcases stepped with ⟨heard, rfl⟩
      exact .raised (hears heard).1 (hears heard).2
  | negotiated limits =>
      simp only [step, Option.ite_none_right_eq_some, Option.some.injEq] at stepped
      rcases stepped with ⟨_, rfl⟩
      exact .negotiated limits
  | replayLock =>
      simp only [step, Option.ite_none_right_eq_some, Option.some.injEq] at stepped
      rcases stepped with ⟨⟨locking, free⟩, rfl⟩
      exact .replayLocked locking free
  | replayCredit =>
      simp only [step] at stepped
      split at stepped
      · rename_i index chunk waiting
        simp only [Option.ite_none_left_eq_some, Option.some.injEq] at stepped
        rcases stepped with ⟨held, rfl⟩
        exact .replayCredited waiting held
      · cases stepped
  | replayTransmit =>
      simp only [step, Option.ite_none_right_eq_some] at stepped
      rcases stepped with ⟨wsReady, sends⟩
      split at sends
      · rename_i index chunk sending
        cases sends
        exact .replaySentData wsReady sending
      · rename_i ending
        cases sends
        exact .replaySentEnd wsReady ending
      · cases sends
  | replayDrained =>
      simp only [step] at stepped
      split at stepped
      · rename_i index chunk sending
        cases stepped
        exact .replayedChunk sending
      · rename_i ending
        cases stepped
        exact .replayedEnd ending
      · cases stepped
  | lost =>
      simp only [step, Option.ite_none_right_eq_some, Option.some.injEq] at stepped
      rcases stepped with ⟨connected, rfl⟩
      exact .lost connected
  | disconnect =>
      simp only [step, Option.ite_none_right_eq_some, Option.some.injEq] at stepped
      rcases stepped with ⟨⟨_, between⟩, rfl⟩
      exact .disconnected between
  | reconnect limits =>
      simp only [step, Option.ite_none_left_eq_some, Option.some.injEq] at stepped
      rcases stepped with ⟨apart, rfl⟩
      exact .reconnected limits (by simpa using apart)
  | deliver =>
      rcases Option.map_eq_some_iff.mp stepped with ⟨peer, accepted, rfl⟩
      exact .delivered accepted

/-! ## What holds in every state -/

def Replaying (stream : ResponseStream) : Prop :=
  stream.replay ≠ .idle ∧ stream.replay ≠ .raised

structure Stored (stream : ResponseStream) : Prop where
  contiguous : ∃ start ≤ stream.acked, Contiguous start stream.unacked stream.nextOffset
  single : stream.streamer.holdsLock = true → stream.replay.holdsLock = false
  past : stream.ended = true → stream.streamer.PastBody
  cleared : stream.Replaying → stream.ready = false
  held : ∀ index chunk, stream.replay.At index chunk → stream.unacked[index]? = some chunk

namespace Stored

variable {stream : ResponseStream}

theorem initial (head : ResponseHead) (limits : Limits) :
    Stored (initial head limits) where
  contiguous := ⟨0, Nat.le_refl 0, rfl⟩
  single := nofun
  past := nofun
  cleared replaying := absurd rfl replaying.1
  held _ _ := by
    rintro (waiting | ⟨stage, sending⟩)
    · cases waiting
    · cases sending

theorem resting {next : ResponseStream} (stored : Stored stream)
    (acked : next.acked = stream.acked) (unacked : next.unacked = stream.unacked)
    (nextOffset : next.nextOffset = stream.nextOffset)
    (past : next.ended = true → next.streamer.PastBody)
    (replay : next.replay = .idle ∨ next.replay = .raised ∨ next.replay = .locking ∧
      next.ready = false) : Stored next where
  contiguous := by
    rw [acked, unacked, nextOffset]
    exact stored.contiguous
  single _ := by
    rcases replay with idle | raised | ⟨locking, _⟩
    · rw [idle]
      rfl
    · rw [raised]
      rfl
    · rw [locking]
      rfl
  past := past
  cleared replaying := by
    rcases replay with idle | raised | ⟨_, cleared⟩
    · exact absurd idle replaying.1
    · exact absurd raised replaying.2
    · exact cleared
  held index chunk reached := by
    rcases replay with rests | rests | ⟨rests, _⟩ <;> simp [rests, Replay.At] at reached

theorem streams {next : ResponseStream} (stored : Stored stream)
    (acked : next.acked = stream.acked) (unacked : next.unacked = stream.unacked)
    (nextOffset : next.nextOffset = stream.nextOffset)
    (replay : next.replay = stream.replay) (ready : next.ready = stream.ready)
    (past : next.ended = true → next.streamer.PastBody)
    (single : next.streamer.holdsLock = true → stream.replay.holdsLock = false) :
    Stored next where
  contiguous := by
    rw [acked, unacked, nextOffset]
    exact stored.contiguous
  single := by
    rw [replay]
    exact single
  past := past
  cleared := by
    rw [Replaying, replay, ready]
    exact stored.cleared
  held := by
    rw [replay, unacked]
    exact stored.held

theorem replays {next : ResponseStream} (stored : Stored stream)
    (acked : next.acked = stream.acked) (unacked : next.unacked = stream.unacked)
    (nextOffset : next.nextOffset = stream.nextOffset)
    (streamer : next.streamer.holdsLock = stream.streamer.holdsLock)
    (past : next.streamer.PastBody ↔ stream.streamer.PastBody)
    (ended : next.ended = stream.ended) (ready : next.ready = stream.ready)
    (replay : next.replay.interrupt = stream.replay.interrupt) : Stored next where
  contiguous := by
    rw [acked, unacked, nextOffset]
    exact stored.contiguous
  single := by
    rw [streamer, ← Replay.holdsLock_interrupt, replay, Replay.holdsLock_interrupt]
    exact stored.single
  past := by
    rw [ended, past]
    exact stored.past
  cleared replaying := by
    rw [ready]
    apply stored.cleared
    constructor
    · intro idle
      rw [idle] at replay
      apply replaying.1
      revert replay
      cases next.replay <;> simp [Replay.interrupt]
    · intro raised
      rw [raised] at replay
      apply replaying.2
      revert replay
      cases next.replay <;> simp [Replay.interrupt]
  held index chunk reached := by
    rw [unacked]
    exact stored.held index chunk (reached.of_interrupt replay)

theorem replayDone (stored : Stored stream) : Stored stream.replayDone := by
  refine stored.resting rfl rfl rfl ?_ (.inl rfl)
  intro ended
  exact (Streamer.pastBody_wake _).mpr (stored.past ended)

theorem takeCredit {piece : Bytes} {pieces : List Bytes} (stored : Stored stream)
    (waiting : stream.streamer = .credit piece pieces) :
    Stored (stream.takeCredit piece pieces) where
  contiguous := by
    rcases stored.contiguous with ⟨start, within, contiguous⟩
    exact ⟨start, within, contiguous.concat rfl⟩
  single := by
    unfold ResponseStream.takeCredit
    simp only
    split
    · exact nofun
    · rename_i free
      intro _
      simpa using free
  past ended := by
    have past := stored.past ended
    rw [waiting] at past
    exact past.elim
  cleared := stored.cleared
  held index chunk waits := by
    have found := stored.held index chunk waits
    exact List.getElem?_append_left (List.getElem?_eq_some_iff.mp found).1 ▸ found

theorem replayChunk {index : Nat} {chunk : Chunk UInt8} (stored : Stored stream)
    (free : stream.streamer.holdsLock = false) (cleared : stream.ready = false)
    (found : stream.unacked[index]? = some chunk) :
    Stored (stream.replayChunk index chunk) := by
  have exclusive (replay : Replay) : stream.streamer.holdsLock = true →
      replay.holdsLock = false := by
    intro held
    rw [free] at held
    cases held
  rcases stream.replayChunk_cases index chunk with ⟨_, same⟩ | ⟨_, same | same⟩
  · rw [same]
    refine ⟨stored.contiguous, exclusive _, stored.past, fun _ => cleared, ?_⟩
    rintro other otherChunk (waiting | ⟨stage, sending⟩)
    · cases waiting
      exact found
    · cases sending
  · rw [same]
    exact stored.resting rfl rfl rfl stored.past (.inr (.inl rfl))
  · rw [same]
    refine ⟨stored.contiguous, exclusive _, stored.past, fun _ => cleared, ?_⟩
    rintro other otherChunk (waiting | ⟨stage, sending⟩)
    · cases waiting
    · cases sending
      exact found

theorem replayFrom (stored : Stored stream) (free : stream.streamer.holdsLock = false)
    (cleared : stream.ready = false) (index : Nat) : Stored (stream.replayFrom index) := by
  rcases stream.replayFrom_cases index with ⟨chunk, found, same⟩ | ⟨_, _, same⟩ |
    ⟨_, _, same⟩
  · rw [same]
    exact stored.replayChunk free cleared found
  · rw [same]
    refine ⟨stored.contiguous, ?_, stored.past, fun _ => cleared, ?_⟩
    · intro held
      rw [free] at held
      cases held
    · rintro other otherChunk (waiting | ⟨stage, sending⟩)
      · cases waiting
      · cases sending
  · rw [same]
    exact stored.replayDone

theorem acknowledge (stored : Stored stream) (idle : stream.replay = .idle)
    (frame : WindowFrame) : Stored (stream.acknowledge frame) := by
  unfold ResponseStream.acknowledge
  split
  · exact stored
  · rename_i ackOffset _
    rcases stored.contiguous with ⟨start, within, contiguous⟩
    rcases contiguous.filter_beyond ackOffset with ⟨middle, lies, remaining⟩
    refine ⟨⟨middle, ?_, remaining⟩, stored.single, stored.past, ?_, ?_⟩
    · rcases lies with rfl | below
      · exact Nat.le_trans within (Nat.le_max_left _ _)
      · exact Nat.le_trans below (Nat.le_max_right _ _)
    · exact fun replaying => absurd idle replaying.1
    · rintro index chunk (waiting | ⟨stage, sending⟩)
      · rw [idle] at waiting
        cases waiting
      · rw [idle] at sending
        cases sending

theorem granted (stored : Stored stream) (idle : stream.replay = .idle)
    (frame : WindowFrame) : Stored (stream.granted frame) := by
  have acknowledged := stored.acknowledge idle frame
  refine acknowledged.resting rfl rfl rfl acknowledged.past (.inl ?_)
  rw [granted_replay]
  exact idle

theorem alone (stored : Stored stream) (holds : stream.replay.holdsLock = true) :
    stream.streamer.holdsLock = false := by
  cases held : stream.streamer.holdsLock with
  | false => rfl
  | true =>
      have free := stored.single held
      rw [holds] at free
      cases free

end Stored

end ResponseStream

theorem ResponseTurn.stored {stream next : ResponseStream} {event : ResponseStream.Event}
    (turn : ResponseTurn stream event next) (stored : stream.Stored) : next.Stored := by
  cases turn with
  | advanced streamer responseSize before sent after _ =>
      refine stored.streams rfl rfl rfl rfl rfl ?_ ?_
      · exact fun ended => absurd (stored.past ended) before
      · rcases after with rfl | rfl | between
        · exact nofun
        · exact nofun
        · simp [between.holdsLock]
  | exhausted reading => exact stored.streams rfl rfl rfl rfl rfl (fun _ => trivial) nofun
  | finished ending => exact stored.streams rfl rfl rfl rfl rfl (fun _ => trivial) nofun
  | took waiting held => exact stored.takeCredit waiting
  | locked locking free =>
      refine stored.streams rfl rfl rfl rfl rfl ?_ fun _ => free
      intro ended
      have past := stored.past ended
      rw [locking] at past
      exact past.elim
  | sentData wsReady sending =>
      refine stored.streams rfl rfl rfl rfl rfl ?_ ?_
      · intro ended
        have past := stored.past ended
        rw [sending] at past
        exact past.elim
      · exact fun _ => stored.single (by rw [sending]; rfl)
  | sentEnd wsReady ending =>
      exact stored.streams rfl rfl rfl rfl rfl (fun _ => trivial) nofun
  | raised connected idle => exact stored.resting rfl rfl rfl stored.past (.inr (.inl rfl))
  | ignored => exact stored
  | completed frame idle =>
      have acknowledged := stored.acknowledge idle frame
      exact acknowledged.streams rfl rfl rfl rfl rfl acknowledged.past acknowledged.single
  | granted idle ready => exact stored.granted idle _
  | blocked connected idle resumes held =>
      have granted := stored.granted idle
      refine (granted _).resting rfl rfl rfl (granted _).past (.inr (.inr ⟨rfl, ?_⟩))
      rw [ResponseStream.granted_ready]
      exact resumes.cleared
  | replays connected idle resumes free =>
      refine (stored.granted idle _).replayFrom ?_ ?_ 0
      · rw [ResponseStream.granted_streamer]
        exact free
      · rw [ResponseStream.granted_ready]
        exact resumes.cleared
  | cancelled idle cancels =>
      refine stored.resting rfl rfl rfl ?_ (.inl idle)
      intro ended
      cases cancels with
      | false => exact stored.past ended
      | true => trivial
  | negotiated limits =>
      exact stored.streams rfl rfl rfl rfl rfl stored.past stored.single
  | replayLocked locking free =>
      refine stored.replayFrom free (stored.cleared ?_) 0
      simp [ResponseStream.Replaying, locking]
  | replayCredited waiting held =>
      refine stored.replayChunk (stored.alone ?_) (stored.cleared ?_)
        (stored.held _ _ (.inl waiting))
      · rw [waiting]
        rfl
      · simp [ResponseStream.Replaying, waiting]
  | replaySentData wsReady sending =>
      refine stored.replays rfl rfl rfl rfl Iff.rfl rfl rfl ?_
      rw [sending]
      rfl
  | replaySentEnd wsReady ending =>
      refine stored.replays rfl rfl rfl rfl Iff.rfl rfl rfl ?_
      rw [ending]
      rfl
  | replayedChunk sending =>
      refine stored.replayFrom (stored.alone ?_) (stored.cleared ?_) _
      · rw [sending]
        rfl
      · simp [ResponseStream.Replaying, sending]
  | replayedEnd ending => exact stored.replayDone
  | lost connected =>
      refine stored.replays rfl rfl rfl ?_ ?_ rfl rfl ?_
      · exact Streamer.holdsLock_interrupt _
      · exact Streamer.pastBody_interrupt _
      · unfold ResponseStream.lose
        cases stream.replay <;> rfl
  | disconnected between =>
      refine stored.resting rfl rfl rfl ?_ (.inl rfl)
      exact fun ended => (Streamer.pastBody_interrupt _).mpr (stored.past ended)
  | reconnected limits apart =>
      exact stored.streams rfl rfl rfl rfl rfl stored.past stored.single
  | delivered accepted =>
      exact stored.streams rfl rfl rfl rfl rfl stored.past stored.single

/-! ## Streams that a disconnect finds registered -/

namespace ResponseStream

/-- A disconnect finds the stream registered or its task done, so that no task goes
on streaming with `ready` set. -/
def LeavesRegistered (stream : ResponseStream) : Event → Prop
  | .disconnect => stream.registered = true ∨ stream.streamer = .done
  | _ => True

instance (stream : ResponseStream) : ∀ event, Decidable (stream.LeavesRegistered event)
  | .disconnect => inferInstanceAs (Decidable (_ ∨ _))
  | .read _ | .exhausted | .fails | .takeCredit | .lock | .transmit | .drained
  | .windowFrame _ | .errorFrame _ | .protocolError | .negotiated _ | .replayLock
  | .replayCredit | .replayTransmit | .replayDrained | .lost | .reconnect _ | .deliver =>
      .isTrue trivial

/-- Without a connection nothing is replayed, and `ready` is cleared. -/
structure Detached (stream : ResponseStream) : Prop where
  idle : stream.connected = false → stream.replay = .idle
  cleared : stream.connected = false → stream.ready = true → stream.streamer = .done

namespace Detached

variable {stream next : ResponseStream}

theorem of_connected (connected : next.connected = true) : Detached next where
  idle apart := by
    rw [connected] at apart
    cases apart
  cleared apart := by
    rw [connected] at apart
    cases apart

theorem connected (detached : Detached stream) (busy : stream.replay ≠ .idle) :
    stream.connected = true := by
  cases apart : stream.connected with
  | true => rfl
  | false => exact absurd (detached.idle apart) busy

theorem streams (detached : Detached stream)
    (connected : next.connected = stream.connected)
    (replay : next.replay = stream.replay) (ready : next.ready = stream.ready)
    (done : stream.streamer = .done → next.streamer = .done) : Detached next where
  idle := by
    rw [connected, replay]
    exact detached.idle
  cleared := by
    rw [connected, ready]
    exact fun apart isReady => done (detached.cleared apart isReady)

end Detached

@[simp] theorem acknowledge_connected (frame : WindowFrame) (stream : ResponseStream) :
    (stream.acknowledge frame).connected = stream.connected := by
  unfold acknowledge
  split <;> rfl

@[simp] theorem replayChunk_connected (index : Nat) (chunk : Chunk UInt8)
    (stream : ResponseStream) :
    (stream.replayChunk index chunk).connected = stream.connected := by
  unfold replayChunk
  split <;> rfl

@[simp] theorem replayFrom_connected (index : Nat) (stream : ResponseStream) :
    (stream.replayFrom index).connected = stream.connected := by
  unfold replayFrom
  split
  · exact replayChunk_connected ..
  · split <;> rfl

end ResponseStream

theorem ResponseTurn.detached {stream next : ResponseStream} {event : ResponseStream.Event}
    (turn : ResponseTurn stream event next) (detached : stream.Detached)
    (leaves : stream.LeavesRegistered event) : next.Detached := by
  cases turn with
  | advanced streamer responseSize before sent after _ =>
      refine detached.streams rfl rfl rfl fun done => ?_
      rw [done] at before
      exact absurd trivial before
  | exhausted reading => exact detached.streams rfl rfl rfl (by simp [reading])
  | finished ending => exact detached.streams rfl rfl rfl (by simp [ending])
  | took waiting held => exact detached.streams rfl rfl rfl (by simp [waiting])
  | locked locking free => exact detached.streams rfl rfl rfl (by simp [locking])
  | sentData wsReady sending => exact detached.streams rfl rfl rfl (by simp [sending])
  | sentEnd wsReady ending => exact detached.streams rfl rfl rfl (by simp [ending])
  | raised connected idle => exact .of_connected connected
  | ignored => exact detached
  | completed frame idle =>
      exact detached.streams (by simp) (by simp) (by simp) (by simp)
  | granted idle ready =>
      exact detached.streams (ResponseStream.acknowledge_connected ..) (by simp) (by simp)
        (by simp)
  | blocked connected idle resumes held =>
      exact .of_connected ((ResponseStream.acknowledge_connected ..).trans connected)
  | replays connected idle resumes free =>
      refine .of_connected ?_
      rw [ResponseStream.replayFrom_connected]
      exact (ResponseStream.acknowledge_connected ..).trans connected
  | cancelled idle cancels =>
      refine detached.streams rfl rfl rfl fun done => ?_
      simp only [done]
      split <;> rfl
  | negotiated limits => exact detached.streams rfl rfl rfl id
  | replayLocked locking free =>
      refine .of_connected ?_
      rw [ResponseStream.replayFrom_connected]
      exact detached.connected (by simp [locking])
  | replayCredited waiting held =>
      refine .of_connected ?_
      rw [ResponseStream.replayChunk_connected]
      exact detached.connected (by simp [waiting])
  | replaySentData wsReady sending =>
      exact .of_connected (detached.connected (by simp [sending]))
  | replaySentEnd wsReady ending =>
      exact .of_connected (detached.connected (by simp [ending]))
  | replayedChunk sending =>
      refine .of_connected ?_
      rw [ResponseStream.replayFrom_connected]
      exact detached.connected (by simp [sending])
  | replayedEnd ending => exact .of_connected (detached.connected (by simp [ending]))
  | lost connected => exact .of_connected connected
  | disconnected between =>
      refine ⟨fun _ => rfl, fun _ ready => ?_⟩
      rcases leaves with registered | done
      · simp [registered] at ready
      · simp [ResponseStream.lose, done, Streamer.interrupt]
  | reconnected limits apart => exact .of_connected rfl
  | delivered accepted => exact detached.streams rfl rfl rfl id

end YrSandbox.Tunnel
