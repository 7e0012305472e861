import YrSandbox.Foundation.History
import YrSandbox.Tunnel.ResponseSteps

/-! # The order of response data

Every connection carries the chunks of a response in order: the first one after a
reconnect starts where the window frame resumes, each later one where the previous
one ended. So it is if the streaming task acts only while `ready` is set. -/

namespace YrSandbox.Tunnel

open Transition

/-! ## Where a connection stands -/

/-- The offset that the next chunk on the connection starts at, `none` before a
window frame has resumed the stream. -/
def Signal.advance (position : Option Nat) : Signal → Option Nat
  | .reconnected => none
  | .window resume => some (position.getD resume)
  | .data chunk => some chunk.finish
  | .ended _ _ => position

def position (log : List Signal) : Option Nat := log.foldl Signal.advance (some 0)

@[simp] theorem position_concat (log : List Signal) (signal : Signal) :
    position (log ++ [signal]) = signal.advance (position log) := by
  simp [position]

def Signal.Fits (position : Option Nat) : Signal → Prop
  | .data chunk => position = some chunk.offset
  | .reconnected | .window _ | .ended _ _ => True

def InOrder : List Signal → Prop :=
  EachAfter fun before signal => signal.Fits (position before)

theorem InOrder.last {log : List Signal} {signal : Signal}
    (inOrder : InOrder (log ++ [signal])) : signal.Fits (position log) :=
  inOrder log signal [] rfl

/-! ## The invariant -/

namespace Streamer

def upcoming (nextOffset : Nat) (streamer : Streamer) : Nat :=
  (streamer.unsent.map Chunk.offset).getD nextOffset

theorem upcoming_of_unsent {streamer : Streamer} (sent : streamer.unsent = none)
    (nextOffset : Nat) : streamer.upcoming nextOffset = nextOffset := by
  simp [upcoming, sent]

theorem Between.unsent {ready : Bool} {streamer : Streamer}
    (between : streamer.Between ready) : streamer.unsent = none := by
  cases streamer <;> first | rfl | exact between.elim

theorem unsent_of_free {streamer : Streamer} (free : streamer.holdsLock = false)
    (unlocking : ∀ chunk pieces, streamer ≠ .locking chunk pieces) :
    streamer.wake.unsent = none := by
  cases streamer with
  | locking chunk pieces => exact absurd rfl (unlocking chunk pieces)
  | sending chunk pieces stage => cases free
  | opening _ | reading | gate _ _ | credit _ _ | ending _ | done => rfl

theorem interrupt_locking {streamer : Streamer} {chunk : Chunk UInt8} {pieces : List Bytes}
    (locking : streamer.interrupt = .locking chunk pieces) :
    streamer = .locking chunk pieces := by
  revert locking
  cases streamer <;> simp [interrupt]

end Streamer

namespace ResponseStream

/-- The streaming task takes a credit and puts a chunk on the wire only while
`ready` is set. -/
def StreamsWhenReady (stream : ResponseStream) : Event → Prop
  | .takeCredit => stream.ready = true
  | .transmit => stream.streamer.holdsLock = true → stream.ready = true
  | _ => True

instance (stream : ResponseStream) : ∀ event, Decidable (stream.StreamsWhenReady event)
  | .takeCredit => inferInstanceAs (Decidable (_ = _))
  | .transmit => inferInstanceAs (Decidable (_ → _))
  | .read _ | .exhausted | .fails | .lock | .drained | .windowFrame _ | .errorFrame _
  | .protocolError | .negotiated _ | .replayLock | .replayCredit | .replayTransmit
  | .replayDrained | .lost | .disconnect | .reconnect _ | .deliver => .isTrue trivial

/-- The connection stands where the chunks from `index` on start. -/
def StandsAt (index : Nat) (stream : ResponseStream) : Prop :=
  ∃ start, Contiguous start (stream.unacked.drop index) stream.nextOffset ∧
    position stream.log = some start

/-- Where the connection stands at each point of the receive loop. A frame that
waits to be sent may have been on a connection that is gone. -/
def Stands (stream : ResponseStream) : Replay → Prop
  | .idle => stream.connected = true → stream.ready = false → position stream.log = none
  | .locking => stream.StandsAt 0
  | .credit _ chunk => position stream.log = some chunk.offset
  | .sending _ chunk .waiting =>
      stream.wsReady = true → position stream.log = some chunk.offset
  | .sending _ chunk .draining => position stream.log = some chunk.finish
  | .ending _ => position stream.log = some stream.nextOffset
  | .raised => True

structure Ordered (stream : ResponseStream) : Prop where
  stored : stream.Stored
  detached : stream.Detached
  inOrder : InOrder stream.log
  unlocking : ∀ chunk pieces, stream.streamer ≠ .locking chunk pieces
  streaming : stream.wsReady = true → stream.ready = true → stream.streamer ≠ .done →
    position stream.log = some (stream.streamer.upcoming stream.nextOffset) ∧
      ∀ chunk, stream.streamer.unsent = some chunk → chunk.finish = stream.nextOffset
  replaying : stream.Stands stream.replay

theorem Stands.congr {stream next : ResponseStream} {replay : Replay}
    (reached : stream.Stands replay) (log : position next.log = position stream.log)
    (unacked : next.unacked = stream.unacked)
    (nextOffset : next.nextOffset = stream.nextOffset)
    (connected : next.connected = stream.connected) (ready : next.ready = stream.ready)
    (wsReady : next.wsReady = stream.wsReady) : next.Stands replay := by
  unfold Stands StandsAt at *
  rw [log, unacked, nextOffset, connected, ready, wsReady]
  exact reached

theorem Stands.interrupt {stream : ResponseStream} {replay : Replay}
    (reached : stream.Stands replay) : stream.lose.Stands replay.interrupt := by
  cases replay with
  | sending index chunk stage => exact nofun
  | idle | locking | credit _ _ | ending _ | raised => exact reached

theorem Stored.stands {stream : ResponseStream} (stored : stream.Stored)
    (ready : stream.ready = true) : stream.Stands stream.replay := by
  by_cases idle : stream.replay = .idle
  · rw [idle]
    intro _ cleared
    rw [ready] at cleared
    cases cleared
  · by_cases raised : stream.replay = .raised
    · rw [raised]
      trivial
    · have cleared := stored.cleared ⟨idle, raised⟩
      rw [ready] at cleared
      cases cleared

theorem resume_eq {stream : ResponseStream} {start : Nat}
    (contiguous : Contiguous start stream.unacked stream.nextOffset) :
    stream.resume = start := by
  unfold resume
  cases given : stream.unacked with
  | nil =>
      rw [given] at contiguous
      exact contiguous.symm
  | cons chunk chunks =>
      rw [given] at contiguous
      exact contiguous.1

namespace Ordered

variable {stream next : ResponseStream}

theorem moves (holds : Ordered stream) (stored : next.Stored) (detached : next.Detached)
    (inOrder : InOrder next.log) (log : position next.log = position stream.log)
    (nextOffset : next.nextOffset = stream.nextOffset)
    (wsReady : next.wsReady = stream.wsReady) (ready : next.ready = stream.ready)
    (streamer : next.streamer ≠ .done → stream.streamer ≠ .done ∧
      next.streamer.unsent = stream.streamer.unsent)
    (unlocking : ∀ chunk pieces, next.streamer ≠ .locking chunk pieces)
    (replaying : next.Stands next.replay) : Ordered next where
  stored := stored
  detached := detached
  inOrder := inOrder
  unlocking := unlocking
  streaming opened isReady live := by
    rw [wsReady] at opened
    rw [ready] at isReady
    rcases streamer live with ⟨wasLive, unsent⟩
    rw [log, nextOffset, Streamer.upcoming, unsent]
    exact holds.streaming opened isReady wasLive
  replaying := replaying

theorem streams (holds : Ordered stream) (stored : next.Stored) (detached : next.Detached)
    (inOrder : InOrder next.log) (log : position next.log = position stream.log)
    (nextOffset : next.nextOffset = stream.nextOffset)
    (wsReady : next.wsReady = stream.wsReady) (ready : next.ready = stream.ready)
    (live : stream.streamer ≠ .done) (before : stream.streamer.unsent = none)
    (after : next.streamer.unsent = none) (replaying : next.Stands next.replay) :
    Ordered next := by
  refine holds.moves stored detached inOrder log nextOffset wsReady ready
    (fun _ => ⟨live, by rw [before, after]⟩) ?_ replaying
  intro chunk pieces locking
  rw [locking] at after
  cases after

theorem replayDone (inOrder : InOrder stream.log)
    (free : stream.streamer.holdsLock = false)
    (unlocking : ∀ chunk pieces, stream.streamer ≠ .locking chunk pieces)
    (reached : position stream.log = some stream.nextOffset)
    (stored : stream.replayDone.Stored) (detached : stream.replayDone.Detached) :
    Ordered stream.replayDone := by
  have unsent := Streamer.unsent_of_free free unlocking
  refine ⟨stored, detached, inOrder, ?_, ?_, ?_⟩
  · intro chunk pieces locking
    simp only [ResponseStream.replayDone] at locking
    rw [locking] at unsent
    cases unsent
  · intro _ _ _
    refine ⟨?_, ?_⟩
    · simp only [ResponseStream.replayDone]
      rw [Streamer.upcoming_of_unsent unsent]
      exact reached
    · intro chunk inHand
      simp only [ResponseStream.replayDone] at inHand
      rw [unsent] at inHand
      cases inHand
  · intro _ cleared
    cases cleared

theorem replays (stored : next.Stored) (detached : next.Detached)
    (inOrder : InOrder next.log)
    (unlocking : ∀ chunk pieces, next.streamer ≠ .locking chunk pieces)
    (cleared : next.ready = false) (replaying : next.Stands next.replay) :
    Ordered next where
  stored := stored
  detached := detached
  inOrder := inOrder
  unlocking := unlocking
  streaming _ ready := by
    rw [cleared] at ready
    cases ready
  replaying := replaying

theorem replayChunk {index : Nat} {chunk : Chunk UInt8} (inOrder : InOrder stream.log)
    (unlocking : ∀ chunk pieces, stream.streamer ≠ .locking chunk pieces)
    (cleared : stream.ready = false) (reached : position stream.log = some chunk.offset)
    (stored : (stream.replayChunk index chunk).Stored)
    (detached : (stream.replayChunk index chunk).Detached) :
    Ordered (stream.replayChunk index chunk) := by
  rcases stream.replayChunk_cases index chunk with ⟨_, same⟩ | ⟨_, same | same⟩
  · rw [same] at stored detached ⊢
    exact .replays stored detached inOrder unlocking cleared reached
  · rw [same] at stored detached ⊢
    exact .replays stored detached inOrder unlocking cleared trivial
  · rw [same] at stored detached ⊢
    exact .replays stored detached inOrder unlocking cleared fun _ => reached

theorem replayFrom {index : Nat} (inOrder : InOrder stream.log)
    (free : stream.streamer.holdsLock = false)
    (unlocking : ∀ chunk pieces, stream.streamer ≠ .locking chunk pieces)
    (cleared : stream.ready = false) (reached : stream.StandsAt index)
    (stored : (stream.replayFrom index).Stored)
    (detached : (stream.replayFrom index).Detached) :
    Ordered (stream.replayFrom index) := by
  rcases reached with ⟨start, contiguous, stands⟩
  rcases stream.replayFrom_cases index with ⟨chunk, found, same⟩ | ⟨beyond, _, same⟩ |
    ⟨beyond, _, same⟩
  · rcases List.getElem?_eq_some_iff.mp found with ⟨inside, here⟩
    rw [List.drop_eq_getElem_cons inside, here] at contiguous
    rw [← contiguous.1] at stands
    rw [same] at stored detached ⊢
    exact replayChunk inOrder unlocking cleared stands stored detached
  · rw [List.drop_of_length_le beyond] at contiguous
    rw [show start = _ from contiguous] at stands
    rw [same] at stored detached ⊢
    exact .replays stored detached inOrder unlocking cleared stands
  · rw [List.drop_of_length_le beyond] at contiguous
    rw [show start = _ from contiguous] at stands
    rw [same] at stored detached ⊢
    exact replayDone inOrder free unlocking stands stored detached

theorem takeCredit {piece : Bytes} {pieces : List Bytes} (holds : Ordered stream)
    (waiting : stream.streamer = .credit piece pieces) (ready : stream.ready = true)
    (stored : (stream.takeCredit piece pieces).Stored)
    (detached : (stream.takeCredit piece pieces).Detached) :
    Ordered (stream.takeCredit piece pieces) := by
  have free : stream.replay.holdsLock = false := by
    cases held : stream.replay.holdsLock with
    | false => rfl
    | true =>
        have cleared := holds.stored.cleared (by
          constructor <;> intro rests <;> rw [rests] at held <;> cases held)
        rw [ready] at cleared
        cases cleared
  have took : (stream.takeCredit piece pieces).streamer =
      .sending ⟨stream.nextOffset, piece⟩ pieces .waiting := by
    simp [ResponseStream.takeCredit, free]
  refine ⟨stored, detached, holds.inOrder, ?_, ?_, stored.stands ready⟩
  · rw [took]
    exact nofun
  · intro wsReady _ _
    have reached := (holds.streaming wsReady ready (by simp [waiting])).1
    rw [waiting, Streamer.upcoming_of_unsent rfl] at reached
    rw [took]
    refine ⟨reached, ?_⟩
    intro chunk inHand
    cases inHand
    rfl

theorem sendData {chunk : Chunk UInt8} {pieces : List Bytes} (holds : Ordered stream)
    (wsReady : stream.wsReady = true) (ready : stream.ready = true)
    (sending : stream.streamer = .sending chunk pieces .waiting)
    (stored :
      { stream.sendData chunk with
        streamer := .sending chunk pieces .draining }.Stored)
    (detached :
      { stream.sendData chunk with
        streamer := .sending chunk pieces .draining }.Detached) :
    Ordered
      { stream.sendData chunk with streamer := .sending chunk pieces .draining } := by
  rcases holds.streaming wsReady ready (by simp [sending]) with ⟨reached, ends⟩
  rw [sending] at reached ends
  refine ⟨stored, detached, EachAfter.concat holds.inOrder reached, nofun, ?_,
    stored.stands ready⟩
  intro _ _ _
  have last := ends chunk rfl
  simp only [ResponseStream.sendData, position_concat, Signal.advance]
  refine ⟨?_, nofun⟩
  rw [last, Streamer.upcoming_of_unsent rfl]

theorem granted_inOrder (holds : Ordered stream) (frame : WindowFrame) :
    InOrder (stream.granted frame).log := by
  refine EachAfter.concat ?_ trivial
  simp only [topUp, acknowledge_log]
  exact holds.inOrder

theorem granted_position (frame : WindowFrame) :
    position (stream.granted frame).log =
      some ((position stream.log).getD
        ((stream.acknowledge frame).topUp frame).resume) := by
  simp [granted, noteWindow, topUp, Signal.advance]

theorem granted (holds : Ordered stream) (ready : stream.ready = true)
    (frame : WindowFrame)
    (stored : (stream.granted frame).Stored) (detached : (stream.granted frame).Detached) :
    Ordered (stream.granted frame) := by
  have isReady : (stream.granted frame).ready = true := by simpa using ready
  refine ⟨stored, detached, holds.granted_inOrder frame,
    by simpa using holds.unlocking, ?_, stored.stands isReady⟩
  intro opened _ live
  rw [granted_streamer] at live ⊢
  have wsReady : stream.wsReady = true := by
    rw [← acknowledge_wsReady frame stream]
    exact opened
  have nextOffset : (stream.granted frame).nextOffset = stream.nextOffset :=
    acknowledge_nextOffset frame stream
  rcases holds.streaming wsReady ready live with ⟨reached, ends⟩
  rw [granted_position, reached, nextOffset]
  exact ⟨rfl, ends⟩

theorem granted_stands (holds : Ordered stream) {frame : WindowFrame}
    (connected : stream.connected = true) (idle : stream.replay = .idle)
    (cleared : stream.ready = false) : (stream.granted frame).StandsAt 0 := by
  have fresh := holds.replaying
  rw [idle] at fresh
  have noPosition := fresh connected cleared
  rcases (holds.stored.granted idle frame).contiguous with ⟨start, _, contiguous⟩
  refine ⟨start, contiguous, ?_⟩
  have resumes : ((stream.acknowledge frame).topUp frame).resume = start :=
    resume_eq contiguous
  rw [granted_position, noPosition, resumes]
  rfl

end Ordered

end ResponseStream

theorem ResponseTurn.ordered {stream next : ResponseStream} {event : ResponseStream.Event}
    (turn : ResponseTurn stream event next) (holds : stream.Ordered)
    (leaves : stream.LeavesRegistered event) (streams : stream.StreamsWhenReady event) :
    next.Ordered := by
  have stored := turn.stored holds.stored
  have detached := turn.detached holds.detached leaves
  have inOrder := holds.inOrder
  have replaying := holds.replaying
  cases turn with
  | advanced streamer responseSize before sent after _ =>
      refine holds.streams stored detached inOrder rfl rfl rfl rfl ?_ sent ?_ replaying
      · intro done
        rw [done] at before
        exact before trivial
      · rcases after with rfl | rfl | between
        · rfl
        · rfl
        · exact between.unsent
  | exhausted reading =>
      exact holds.streams stored detached inOrder rfl rfl rfl rfl (by simp [reading])
        (by simp [reading, Streamer.unsent]) rfl replaying
  | finished ending =>
      exact holds.streams stored detached inOrder rfl rfl rfl rfl (by simp [ending])
        (by simp [ending, Streamer.unsent]) rfl replaying
  | took waiting held => exact holds.takeCredit waiting streams stored detached
  | locked locking free => exact absurd locking (holds.unlocking _ _)
  | sentData wsReady sending =>
      have ready := streams (by simp [sending, Streamer.holdsLock])
      exact holds.sendData wsReady ready sending stored detached
  | sentEnd wsReady ending =>
      refine holds.streams stored detached (EachAfter.concat inOrder trivial)
        ?_ rfl rfl rfl
        (by simp [ending]) (by simp [ending, Streamer.unsent]) rfl ?_
      · simp [ResponseStream.sendEnd, Signal.advance]
      · refine replaying.congr ?_ rfl rfl rfl rfl rfl
        simp [ResponseStream.sendEnd, Signal.advance]
  | raised connected idle =>
      exact holds.moves stored detached inOrder rfl rfl rfl rfl (fun live => ⟨live, rfl⟩)
        holds.unlocking trivial
  | ignored => exact holds
  | completed frame idle =>
      refine holds.moves stored detached (by simpa using inOrder) (by simp)
        (by simp) (by simp)
        (by simp) (by simp) (by simpa using holds.unlocking) ?_
      rw [idle] at replaying
      simpa [idle, ResponseStream.Stands] using replaying
  | granted idle ready => exact holds.granted ready _ stored detached
  | blocked connected idle resumes held =>
      refine .replays stored detached (holds.granted_inOrder _) ?_ ?_
        (holds.granted_stands connected idle resumes.cleared)
      · simpa using holds.unlocking
      · simpa using resumes.cleared
  | replays connected idle resumes free =>
      refine .replayFrom (holds.granted_inOrder _) (by simpa using free)
        (by simpa using holds.unlocking) (by simpa using resumes.cleared)
        (holds.granted_stands connected idle resumes.cleared) stored detached
  | cancelled idle cancels =>
      refine holds.moves stored detached inOrder rfl rfl rfl rfl ?_ ?_ replaying
      · cases cancels with
        | false => exact fun live => ⟨live, rfl⟩
        | true => exact fun live => absurd rfl live
      · cases cancels with
        | false => exact holds.unlocking
        | true =>
            intro _ _ locking
            cases locking
  | negotiated limits =>
      exact holds.moves stored detached inOrder rfl rfl rfl rfl (fun live => ⟨live, rfl⟩)
        holds.unlocking replaying
  | replayLocked locking free =>
      have cleared := holds.stored.cleared (by simp [ResponseStream.Replaying, locking])
      rw [locking] at replaying
      exact .replayFrom inOrder free holds.unlocking cleared replaying stored detached
  | replayCredited waiting held =>
      have cleared := holds.stored.cleared (by simp [ResponseStream.Replaying, waiting])
      rw [waiting] at replaying
      exact .replayChunk inOrder holds.unlocking cleared replaying stored detached
  | replaySentData wsReady sending =>
      have cleared := holds.stored.cleared (by simp [ResponseStream.Replaying, sending])
      rw [sending] at replaying
      refine .replays stored detached (EachAfter.concat inOrder (replaying wsReady))
        holds.unlocking cleared ?_
      simp [ResponseStream.Stands, ResponseStream.sendData, Signal.advance]
  | replaySentEnd wsReady ending =>
      have cleared := holds.stored.cleared (by simp [ResponseStream.Replaying, ending])
      rw [ending] at replaying
      refine .replays stored detached (EachAfter.concat inOrder trivial) holds.unlocking
        cleared ?_
      simp only [ResponseStream.Stands, ResponseStream.sendEnd, position_concat,
        Signal.advance]
      exact replaying
  | replayedChunk sending =>
      have cleared := holds.stored.cleared (by simp [ResponseStream.Replaying, sending])
      have found := holds.stored.held _ _ (.inr ⟨_, sending⟩)
      have free := holds.stored.alone (by simp [sending, Replay.holdsLock])
      rcases holds.stored.contiguous with ⟨start, _, contiguous⟩
      rw [sending] at replaying
      exact .replayFrom inOrder free holds.unlocking cleared
        ⟨_, contiguous.drop_succ found, replaying⟩ stored detached
  | replayedEnd ending =>
      have free := holds.stored.alone (by simp [ending, Replay.holdsLock])
      rw [ending] at replaying
      exact .replayDone inOrder free holds.unlocking replaying stored detached
  | lost connected =>
      exact ⟨stored, detached, inOrder,
        fun _ _ locking => holds.unlocking _ _ (Streamer.interrupt_locking locking),
        fun wsReady => absurd wsReady Bool.false_ne_true, replaying.interrupt⟩
  | disconnected between =>
      exact ⟨stored, detached, inOrder,
        fun _ _ locking => holds.unlocking _ _ (Streamer.interrupt_locking locking),
        fun wsReady => absurd wsReady Bool.false_ne_true,
        fun connected => absurd connected Bool.false_ne_true⟩
  | reconnected limits apart =>
      refine ⟨stored, detached, EachAfter.concat inOrder trivial, holds.unlocking,
        fun _ ready live => absurd (holds.detached.cleared apart ready) live, ?_⟩
      simp [holds.detached.idle apart, ResponseStream.Stands, Signal.advance]
  | delivered accepted =>
      exact holds.moves stored detached inOrder rfl rfl rfl rfl (fun live => ⟨live, rfl⟩)
        holds.unlocking replaying

end YrSandbox.Tunnel
