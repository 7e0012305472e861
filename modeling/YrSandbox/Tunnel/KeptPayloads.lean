import YrSandbox.Tunnel.BinaryFrames

/-! # Payloads that a response keeps

What a response has read and not sent, or not seen acknowledged, can be sent on a later
connection. No turn adds to it but the one that reads; and a replay raises only for a
payload that is kept. -/

namespace YrSandbox.Tunnel

open Python Transition

/-! ## Parts of a response -/

namespace Streamer

/-- What the streaming task has still to send. A chunk on the wire is sent again if the
connection is lost. -/
def payloads : Streamer → List Bytes
  | gate piece pieces | credit piece pieces => piece :: pieces
  | locking chunk pieces | sending chunk pieces _ => chunk.payload :: pieces
  | opening _ | reading | ending _ | done => []

@[simp] theorem payloads_wake (streamer : Streamer) :
    streamer.wake.payloads = streamer.payloads := by
  cases streamer <;> rfl

@[simp] theorem holdsLock_wake (streamer : Streamer) :
    streamer.wake.holdsLock = streamer.holdsLock := by
  cases streamer <;> rfl

@[simp] theorem payloads_interrupt (streamer : Streamer) :
    streamer.interrupt.payloads = streamer.payloads := by
  cases streamer <;> rfl

end Streamer

namespace Replay

def payloads : Replay → List Bytes
  | credit _ chunk | sending _ chunk _ => [chunk.payload]
  | idle | locking | ending _ | raised => []

def active : Replay → Bool
  | locking | credit _ _ | sending _ _ _ | ending _ => true
  | idle | raised => false

@[simp] theorem payloads_interrupt (replay : Replay) :
    replay.interrupt.payloads = replay.payloads := by
  cases replay <;> rfl

@[simp] theorem active_interrupt (replay : Replay) :
    replay.interrupt.active = replay.active := by
  cases replay <;> rfl

end Replay

namespace ResponseStream

def retains (stream : ResponseStream) : Bool := stream.registered || stream.replay.active

def kept (stream : ResponseStream) : List Bytes :=
  (if stream.retains then stream.unacked.map Chunk.payload else []) ++
    stream.streamer.payloads ++ stream.replay.payloads

variable {stream next : ResponseStream}

theorem mem_kept {payload : Bytes} :
    payload ∈ stream.kept ↔
      (stream.retains = true ∧ ∃ chunk ∈ stream.unacked, chunk.payload = payload) ∨
        payload ∈ stream.streamer.payloads ∨ payload ∈ stream.replay.payloads := by
  rw [kept, List.mem_append, List.mem_append, or_assoc]
  split
  · rename_i retains
    simp [retains]
  · rename_i drops
    simp [drops]

theorem unacked_kept (retains : stream.retains = true) {chunk : Chunk UInt8}
    (isUnacked : chunk ∈ stream.unacked) : chunk.payload ∈ stream.kept :=
  mem_kept.mpr (.inl ⟨retains, chunk, isUnacked, rfl⟩)

theorem streamer_kept : stream.streamer.payloads ⊆ stream.kept :=
  fun _ isPayload => mem_kept.mpr (.inr (.inl isPayload))

theorem replay_kept : stream.replay.payloads ⊆ stream.kept :=
  fun _ isPayload => mem_kept.mpr (.inr (.inr isPayload))

theorem kept_subset {payloads : List Bytes}
    (unacked : next.retains = true → ∀ chunk ∈ next.unacked, chunk.payload ∈ payloads)
    (streamer : next.streamer.payloads ⊆ payloads)
    (replay : next.replay.payloads ⊆ payloads) : next.kept ⊆ payloads := by
  intro payload isKept
  rcases mem_kept.mp isKept with ⟨retains, chunk, isUnacked, rfl⟩ | isStreamed | isReplayed
  · exact unacked retains chunk isUnacked
  · exact streamer isStreamed
  · exact replay isReplayed

theorem kept_mono (retained : next.retains = true → stream.retains = true)
    (unacked : next.unacked ⊆ stream.unacked)
    (streamer : next.streamer.payloads ⊆ stream.kept)
    (replay : next.replay.payloads ⊆ stream.kept) : next.kept ⊆ stream.kept := by
  apply kept_subset
  · intro isRetained chunk isUnacked
    exact unacked_kept (retained isRetained) (unacked isUnacked)
  · exact streamer
  · exact replay

theorem streams_kept
    (same : next =
      { stream with
        streamer := next.streamer
        ended := next.ended
        responseSize := next.responseSize
        log := next.log
        peer := next.peer })
    (kept : next.streamer.payloads ⊆ stream.kept) : next.kept ⊆ stream.kept := by
  rw [same]
  apply kept_mono
  · exact id
  · exact List.Subset.refl _
  · exact kept
  · exact stream.replay_kept

def readPieces (stream : ResponseStream) : Event → List Bytes
  | .read rawChunk =>
      if stream.origin.negotiatedMaxBodySize <
        stream.responseSize + rawChunk.length then []
      else cut stream.origin.negotiatedStreamChunk rawChunk
  | _ => []

/-! ### The streaming task -/

theorem nextPiece_kept (pieces : List Bytes) (stream : ResponseStream) :
    (stream.nextPiece pieces).kept ⊆ stream.kept ++ pieces := by
  cases pieces with
  | nil =>
      rw [List.append_nil]
      exact streams_kept (by rfl) (List.nil_subset _)
  | cons piece pieces =>
      apply kept_subset
      · intro retained chunk isUnacked
        have isKept : chunk.payload ∈ stream.kept :=
          mem_kept.mpr (.inl ⟨retained, chunk, isUnacked, rfl⟩)
        exact List.mem_append_left _ isKept
      · simp only [nextPiece]
        split <;> exact List.subset_append_right _ _
      · exact List.subset_append_of_subset_left _ stream.replay_kept

theorem read_kept (rawChunk : Bytes) (stream : ResponseStream) :
    (stream.read rawChunk).kept ⊆ stream.kept ++ stream.readPieces (.read rawChunk) := by
  rw [read, readPieces]
  dsimp only
  split
  · rw [List.append_nil]
    exact streams_kept (by rfl) (List.nil_subset _)
  · exact nextPiece_kept _ _

theorem takeCredit_kept {piece : Bytes} {pieces : List Bytes}
    (waiting : stream.streamer = .credit piece pieces) :
    (stream.takeCredit piece pieces).kept ⊆ stream.kept := by
  have taken : piece :: pieces ⊆ stream.kept := by
    have streamed := stream.streamer_kept
    rwa [waiting] at streamed
  apply kept_subset
  · intro retained chunk isUnacked
    rcases List.mem_append.mp isUnacked with older | isNew
    · exact mem_kept.mpr (.inl ⟨retained, chunk, older, rfl⟩)
    · obtain rfl := List.mem_singleton.mp isNew
      exact taken List.mem_cons_self
  · simp only [takeCredit]
    split <;> exact taken
  · exact stream.replay_kept

/-! ### The receive loop -/

theorem retains_of_registered (registered : stream.registered = true) :
    stream.retains = true := by
  rw [retains, registered, Bool.true_or]

theorem replayDone_kept (stream : ResponseStream) :
    stream.replayDone.kept ⊆ stream.kept := by
  apply kept_mono
  · intro retained
    rw [replayDone, retains, Replay.active, Bool.or_false] at retained
    exact retains_of_registered retained
  · exact List.Subset.refl _
  · rw [replayDone]
    dsimp only
    rw [Streamer.payloads_wake]
    exact stream.streamer_kept
  · exact List.nil_subset _

theorem replays_kept (unacked : next.unacked = stream.unacked)
    (streamer : next.streamer = stream.streamer)
    (retained : next.retains = true → stream.retains = true)
    (kept : next.replay.payloads ⊆ stream.kept) : next.kept ⊆ stream.kept := by
  apply kept_mono retained
  · rw [unacked]
    exact List.Subset.refl _
  · rw [streamer]
    exact stream.streamer_kept
  · exact kept

theorem raised_kept (stream : ResponseStream) :
    ({ stream with replay := .raised } : ResponseStream).kept ⊆ stream.kept := by
  refine replays_kept rfl rfl (fun retained => ?_) (List.nil_subset _)
  rw [retains, Replay.active, Bool.or_false] at retained
  exact retains_of_registered retained

theorem replayChunk_kept (index : Nat) {chunk : Chunk UInt8}
    (retained : stream.retains = true)
    (isKept : chunk.payload ∈ stream.kept) :
    (stream.replayChunk index chunk).kept ⊆ stream.kept := by
  have single : [chunk.payload] ⊆ stream.kept :=
    List.cons_subset.mpr ⟨isKept, List.nil_subset _⟩
  rcases stream.replayChunk_cases index chunk with ⟨_, same⟩ | ⟨_, same | same⟩
  · rw [same]
    exact replays_kept rfl rfl (fun _ => retained) single
  · rw [same]
    exact replays_kept rfl rfl (fun _ => retained) (List.nil_subset _)
  · rw [same]
    exact replays_kept rfl rfl (fun _ => retained) single

theorem replayFrom_kept (index : Nat) (retained : stream.retains = true) :
    (stream.replayFrom index).kept ⊆ stream.kept := by
  rcases stream.replayFrom_cases index with
    ⟨chunk, found, same⟩ | ⟨_, _, same⟩ | ⟨_, _, same⟩
  · rw [same]
    exact replayChunk_kept index retained
      (unacked_kept retained (List.mem_of_getElem? found))
  · rw [same]
    exact replays_kept rfl rfl (fun _ => retained) (List.nil_subset _)
  · rw [same]
    exact stream.replayDone_kept

theorem acknowledge_unacked (frame : WindowFrame) (stream : ResponseStream) :
    (stream.acknowledge frame).unacked ⊆ stream.unacked := by
  unfold acknowledge
  split
  · exact List.Subset.refl _
  · exact List.filter_subset_self _

@[simp] theorem acknowledge_registered (frame : WindowFrame) (stream : ResponseStream) :
    (stream.acknowledge frame).registered = stream.registered := by
  unfold acknowledge
  split <;> rfl

@[simp] theorem granted_registered (frame : WindowFrame) (stream : ResponseStream) :
    (stream.granted frame).registered = stream.registered :=
  acknowledge_registered frame stream

theorem granted_kept (frame : WindowFrame) (stream : ResponseStream) :
    (stream.granted frame).kept ⊆ stream.kept := by
  apply kept_mono
  · rw [retains, granted_registered, granted_replay]
    exact id
  · exact acknowledge_unacked frame stream
  · rw [granted_streamer]
    exact stream.streamer_kept
  · rw [granted_replay]
    exact stream.replay_kept

theorem windowFrame_kept (frame : WindowFrame) (stream : ResponseStream)
    (idle : stream.replay = .idle) : (stream.windowFrame frame).kept ⊆ stream.kept := by
  rcases stream.windowFrame_cases frame with
    same | same | same | ⟨_, same⟩ | ⟨resumes, ⟨_, same⟩ | ⟨_, same⟩⟩
  · rw [same]
    exact stream.raised_kept
  · rw [same]
    exact List.Subset.refl _
  · rw [same]
    apply kept_mono
    · rw [retains, acknowledge_replay, idle]
      exact nofun
    · exact acknowledge_unacked frame stream
    · rw [acknowledge_streamer]
      exact stream.streamer_kept
    · rw [acknowledge_replay]
      exact stream.replay_kept
  · rw [same]
    exact stream.granted_kept frame
  · rw [same]
    apply kept_mono
    · exact fun _ => retains_of_registered resumes.registered
    · exact acknowledge_unacked frame stream
    · rw [granted_streamer]
      exact stream.streamer_kept
    · exact List.nil_subset _
  · rw [same]
    have registered : (stream.granted frame).registered = true := by
      rw [granted_registered]
      exact resumes.registered
    exact List.Subset.trans (replayFrom_kept 0 (retains_of_registered registered))
      (stream.granted_kept frame)

/-! ### Steps -/

theorem done_kept (stream : ResponseStream) :
    ({ stream with streamer := .done } : ResponseStream).kept ⊆ stream.kept :=
  streams_kept (by rfl) (List.nil_subset _)

theorem unregistered_kept (stream : ResponseStream) :
    ({ stream with registered := false } : ResponseStream).kept ⊆ stream.kept := by
  apply kept_mono
  · intro retained
    rw [retains, Bool.false_or] at retained
    rw [retains, retained, Bool.or_true]
  · exact List.Subset.refl _
  · exact stream.streamer_kept
  · exact stream.replay_kept

theorem lose_kept (stream : ResponseStream) : stream.lose.kept ⊆ stream.kept := by
  apply kept_mono
  · rw [lose, retains, Replay.active_interrupt]
    exact id
  · exact List.Subset.refl _
  · rw [lose, Streamer.payloads_interrupt]
    exact stream.streamer_kept
  · rw [lose, Replay.payloads_interrupt]
    exact stream.replay_kept

theorem step_kept {event : Event} (stepped : stream.step event = some next) :
    next.kept ⊆ stream.kept ++ stream.readPieces event := by
  have streamed := stream.streamer_kept
  have keeps : ∀ {next : ResponseStream}, next.kept ⊆ stream.kept →
      next.kept ⊆ stream.kept ++ [] := by
    intro next kept
    rwa [List.append_nil]
  cases event with
  | read rawChunk =>
      simp only [step, Option.ite_none_right_eq_some, Option.some.injEq] at stepped
      rcases stepped with ⟨_, rfl⟩
      exact stream.read_kept rawChunk
  | exhausted =>
      simp only [step, Option.ite_none_right_eq_some, Option.some.injEq] at stepped
      rcases stepped with ⟨_, rfl⟩
      apply keeps
      rcases stream.exhaust_cases with same | same
      · rw [same]
        exact streams_kept (by rfl) (List.nil_subset _)
      · rw [same]
        exact streams_kept (by rfl) (List.nil_subset _)
  | fails =>
      simp only [step, Option.ite_none_right_eq_some, Option.some.injEq] at stepped
      rcases stepped with ⟨_, rfl⟩
      exact keeps stream.done_kept
  | takeCredit =>
      simp only [step] at stepped
      split at stepped
      · rename_i piece pieces waiting
        simp only [Option.ite_none_left_eq_some, Option.some.injEq] at stepped
        rcases stepped with ⟨_, rfl⟩
        exact keeps (takeCredit_kept waiting)
      · cases stepped
  | lock =>
      simp only [step] at stepped
      split at stepped
      · rename_i chunk pieces locking
        simp only [Option.ite_none_left_eq_some, Option.some.injEq] at stepped
        rcases stepped with ⟨_, rfl⟩
        rw [locking] at streamed
        exact keeps (streams_kept (by rfl) streamed)
      · cases stepped
  | transmit =>
      simp only [step, Option.ite_none_right_eq_some] at stepped
      rcases stepped with ⟨_, sends⟩
      split at sends
      · cases sends
        exact keeps (streams_kept (by rfl) (List.nil_subset _))
      · rename_i chunk pieces sending
        cases sends
        rw [sending] at streamed
        exact keeps (streams_kept (by rfl) streamed)
      · cases sends
        exact keeps (streams_kept (by rfl) (List.nil_subset _))
      · cases sends
  | drained =>
      simp only [step] at stepped
      split at stepped
      · cases stepped
        exact keeps (streams_kept (by rfl) (List.nil_subset _))
      · rename_i chunk pieces sending
        cases stepped
        rw [sending] at streamed
        apply keeps
        apply List.Subset.trans (stream.nextPiece_kept pieces)
        exact List.append_subset.mpr
          ⟨List.Subset.refl _, (List.cons_subset.mp streamed).2⟩
      · cases stepped
        exact keeps (streams_kept (by rfl) (List.nil_subset _))
      · cases stepped
  | windowFrame frame =>
      simp only [step, listening, Option.ite_none_right_eq_some, Option.some.injEq,
        Bool.and_eq_true, decide_eq_true_eq] at stepped
      rcases stepped with ⟨⟨_, idle⟩, rfl⟩
      exact keeps (stream.windowFrame_kept frame idle)
  | errorFrame cancels =>
      simp only [step, listening, Option.ite_none_right_eq_some, Option.some.injEq,
        Bool.and_eq_true, decide_eq_true_eq] at stepped
      rcases stepped with ⟨⟨_, idle⟩, rfl⟩
      apply keeps
      apply kept_mono
      · rw [retains, idle]
        exact fun retained => by cases retained
      · exact List.Subset.refl _
      · cases cancels with
        | true => exact List.nil_subset _
        | false => exact streamed
      · exact stream.replay_kept
  | protocolError =>
      simp only [step, Option.ite_none_right_eq_some, Option.some.injEq] at stepped
      rcases stepped with ⟨_, rfl⟩
      exact keeps stream.raised_kept
  | replayLock =>
      simp only [step, Option.ite_none_right_eq_some, Option.some.injEq] at stepped
      rcases stepped with ⟨⟨locking, _⟩, rfl⟩
      apply keeps
      apply replayFrom_kept
      rw [retains, locking, Replay.active, Bool.or_true]
  | replayCredit =>
      simp only [step] at stepped
      split at stepped
      · rename_i index chunk waiting
        simp only [Option.ite_none_left_eq_some, Option.some.injEq] at stepped
        rcases stepped with ⟨_, rfl⟩
        have replayed := stream.replay_kept
        rw [waiting] at replayed
        apply keeps
        apply replayChunk_kept
        · rw [retains, waiting, Replay.active, Bool.or_true]
        · exact (List.cons_subset.mp replayed).1
      · cases stepped
  | replayTransmit =>
      simp only [step, Option.ite_none_right_eq_some] at stepped
      rcases stepped with ⟨_, sends⟩
      have replayed := stream.replay_kept
      split at sends
      · rename_i index chunk sending
        cases sends
        rw [sending] at replayed
        refine keeps (replays_kept rfl rfl ?_ replayed)
        rw [retains, retains, sending]
        exact id
      · rename_i ending
        cases sends
        refine keeps (replays_kept rfl rfl ?_ (List.nil_subset _))
        rw [retains, retains, ending]
        exact id
      · cases sends
  | replayDrained =>
      simp only [step] at stepped
      split at stepped
      · rename_i index chunk sending
        cases stepped
        apply keeps
        apply replayFrom_kept
        rw [retains, sending, Replay.active, Bool.or_true]
      · cases stepped
        exact keeps stream.replayDone_kept
      · cases stepped
  | lost =>
      simp only [step, Option.ite_none_right_eq_some, Option.some.injEq] at stepped
      rcases stepped with ⟨_, rfl⟩
      exact keeps stream.lose_kept
  | disconnect =>
      simp only [step, Option.ite_none_right_eq_some, Option.some.injEq] at stepped
      rcases stepped with ⟨_, rfl⟩
      apply keeps
      apply List.Subset.trans _ stream.lose_kept
      -- an idle receive loop keeps as little as one that has raised
      exact stream.lose.raised_kept
  | negotiated limits =>
      simp only [step, Option.ite_none_right_eq_some, Option.some.injEq] at stepped
      rcases stepped with ⟨_, rfl⟩
      exact keeps (List.Subset.refl _)
  | reconnect limits =>
      simp only [step, Option.ite_none_left_eq_some, Option.some.injEq] at stepped
      rcases stepped with ⟨_, rfl⟩
      exact keeps (List.Subset.refl _)
  | deliver =>
      rcases Option.map_eq_some_iff.mp stepped with ⟨peer, _, rfl⟩
      exact keeps (List.Subset.refl _)

/-! ## What an event leaves as it is -/

structure SameConnection (stream next : ResponseStream) : Prop where
  origin : next.origin = stream.origin
  limits : next.limits = stream.limits
  connected : next.connected = stream.connected
  wsReady : next.wsReady = stream.wsReady

theorem acknowledge_sameConnection (frame : WindowFrame) (stream : ResponseStream) :
    SameConnection stream (stream.acknowledge frame) := by
  unfold acknowledge
  split <;> exact ⟨rfl, rfl, rfl, rfl⟩

theorem granted_sameConnection (frame : WindowFrame) (stream : ResponseStream) :
    SameConnection stream (stream.granted frame) where
  origin := (acknowledge_sameConnection frame stream).origin
  limits := (acknowledge_sameConnection frame stream).limits
  connected := (acknowledge_sameConnection frame stream).connected
  wsReady := (acknowledge_sameConnection frame stream).wsReady

theorem replayChunk_sameConnection (index : Nat) (chunk : Chunk UInt8)
    (stream : ResponseStream) :
    SameConnection stream (stream.replayChunk index chunk) := by
  rcases stream.replayChunk_cases index chunk with ⟨_, same⟩ | ⟨_, same | same⟩
  all_goals
    rw [same]
    exact ⟨rfl, rfl, rfl, rfl⟩

theorem replayFrom_sameConnection (index : Nat) (stream : ResponseStream) :
    SameConnection stream (stream.replayFrom index) := by
  rcases stream.replayFrom_cases index with ⟨chunk, _, same⟩ | ⟨_, _, same⟩ | ⟨_, _, same⟩
  · rw [same]
    exact replayChunk_sameConnection index chunk stream
  · rw [same]
    exact ⟨rfl, rfl, rfl, rfl⟩
  · rw [same]
    exact ⟨rfl, rfl, rfl, rfl⟩

theorem step_sameConnection {event : Event} (concerns : Response.concerns event = true)
    (stepped : stream.step event = some next) : SameConnection stream next := by
  cases step_turn stepped with
  | completed frame _ =>
      have acknowledged := acknowledge_sameConnection frame stream
      exact ⟨acknowledged.origin, acknowledged.limits, acknowledged.connected,
        acknowledged.wsReady⟩
  | granted _ _ => exact granted_sameConnection _ stream
  | blocked _ _ resumes _ =>
      rename_i frame _ _ _
      have granted := granted_sameConnection frame stream
      exact ⟨granted.origin, granted.limits, granted.connected, granted.wsReady⟩
  | replays _ _ resumes _ =>
      rename_i frame _ _ _
      have granted := granted_sameConnection frame stream
      have replayed := replayFrom_sameConnection 0 (stream.granted frame)
      exact ⟨replayed.origin.trans granted.origin, replayed.limits.trans granted.limits,
        replayed.connected.trans granted.connected, replayed.wsReady.trans granted.wsReady⟩
  | replayLocked _ _ | replayedChunk _ => exact replayFrom_sameConnection _ stream
  | replayCredited _ _ => exact replayChunk_sameConnection _ _ stream
  | negotiated _ | lost _ | disconnected _ | reconnected _ _ => cases concerns
  | _ => exact ⟨rfl, rfl, rfl, rfl⟩

/-! ## What raises in a replay -/

theorem replayChunk_raised {index : Nat} {chunk : Chunk UInt8}
    (raised : (stream.replayChunk index chunk).replay = .raised) :
    stream.limits.negotiatedStreamChunk < chunk.payload.length := by
  unfold replayChunk at raised
  split at raised
  · cases raised
  · split at raised
    · assumption
    · cases raised

theorem replayFrom_raised {index : Nat}
    (raised : (stream.replayFrom index).replay = .raised) :
    ∃ chunk ∈ stream.unacked,
      stream.limits.negotiatedStreamChunk < chunk.payload.length := by
  unfold replayFrom at raised
  split at raised
  · rename_i chunk found
    exact ⟨chunk, List.mem_of_getElem? found, replayChunk_raised raised⟩
  · split at raised <;> cases raised

theorem windowFrame_raised {frame : WindowFrame} (valid : frame.valid = true)
    (idle : stream.replay = .idle) (raised : (stream.windowFrame frame).replay = .raised) :
    stream.Resumes frame ∧ ((stream.granted frame).replayFrom 0).replay = .raised := by
  have acknowledged : (stream.acknowledge frame).replay = .idle :=
    (stream.acknowledge_replay frame).trans idle
  rw [windowFrame, valid, Bool.not_true, if_neg Bool.false_ne_true] at raised
  split at raised
  · rw [idle] at raised
    cases raised
  · rename_i registered
    dsimp only at raised
    split at raised
    · rw [show (_ : ResponseStream).replay = (stream.acknowledge frame).replay from rfl,
        acknowledged] at raised
      cases raised
    · rename_i incomplete
      change (if (stream.granted frame).ready = true then stream.granted frame
        else (stream.granted frame).lockAndReplay).replay = .raised at raised
      rw [granted_ready] at raised
      split at raised
      · rw [granted_replay, idle] at raised
        cases raised
      · rename_i cleared
        rw [lockAndReplay, granted_streamer] at raised
        split at raised
        · cases raised
        · exact ⟨⟨valid, by simpa using registered, by simpa using incomplete,
            by simpa using cleared⟩, raised⟩

theorem step_raised {event : Event} (replays : Response.isReplay event = true)
    (stepped : stream.step event = some next) (raised : next.replay = .raised) :
    ∃ payload ∈ stream.kept, stream.limits.negotiatedStreamChunk < payload.length := by
  cases event with
  | windowFrame frame =>
      simp only [step, listening, Option.ite_none_right_eq_some, Option.some.injEq,
        Bool.and_eq_true, decide_eq_true_eq] at stepped
      rcases stepped with ⟨⟨_, idle⟩, rfl⟩
      rcases windowFrame_raised replays idle raised with ⟨resumes, again⟩
      rcases replayFrom_raised again with ⟨chunk, isUnacked, longer⟩
      rw [(granted_sameConnection frame stream).limits] at longer
      exact ⟨_, unacked_kept (retains_of_registered resumes.registered)
        (acknowledge_unacked frame stream isUnacked), longer⟩
  | replayLock =>
      simp only [step, Option.ite_none_right_eq_some, Option.some.injEq] at stepped
      rcases stepped with ⟨⟨locking, _⟩, rfl⟩
      rcases replayFrom_raised raised with ⟨chunk, isUnacked, longer⟩
      have retained : stream.retains = true := by
        rw [retains, locking, Replay.active, Bool.or_true]
      exact ⟨_, unacked_kept retained isUnacked, longer⟩
  | replayCredit =>
      simp only [step] at stepped
      split at stepped
      · rename_i index chunk waiting
        simp only [Option.ite_none_left_eq_some, Option.some.injEq] at stepped
        rcases stepped with ⟨_, rfl⟩
        have replayed := stream.replay_kept
        rw [waiting] at replayed
        exact ⟨_, (List.cons_subset.mp replayed).1, replayChunk_raised raised⟩
      · cases stepped
  | replayDrained =>
      simp only [step] at stepped
      split at stepped
      · rename_i index chunk sending
        cases stepped
        rcases replayFrom_raised raised with ⟨chunk, isUnacked, longer⟩
        have retained : stream.retains = true := by
          rw [retains, sending, Replay.active, Bool.or_true]
        exact ⟨_, unacked_kept retained isUnacked, longer⟩
      · cases stepped
        cases raised
      · cases stepped
  | _ => cases replays

/-! ## Streams without a credit -/

structure Offers (frame : WindowFrame) (stream : ResponseStream) : Prop where
  resumes : stream.Resumes frame
  unacked : (stream.granted frame).unacked ≠ []
  credits : (stream.granted frame).credits ≠ 0

instance (frame : WindowFrame) (stream : ResponseStream) :
    Decidable (stream.Offers frame) :=
  decidable_of_iff
    (stream.Resumes frame ∧ (stream.granted frame).unacked ≠ [] ∧
      (stream.granted frame).credits ≠ 0)
    ⟨fun ⟨resumes, unacked, credits⟩ => ⟨resumes, unacked, credits⟩,
      fun ⟨resumes, unacked, credits⟩ => ⟨resumes, unacked, credits⟩⟩

def Halted (stream : ResponseStream) : Prop :=
  match stream.replay with
  | .idle | .ending _ | .raised => True
  | .credit _ _ => stream.credits = 0
  | .locking | .sending _ _ _ => False

theorem replayChunk_streamer (index : Nat) (chunk : Chunk UInt8)
    (stream : ResponseStream) :
    (stream.replayChunk index chunk).streamer = stream.streamer := by
  unfold replayChunk
  split <;> rfl

theorem replayFrom_holdsLock (index : Nat) (stream : ResponseStream) :
    (stream.replayFrom index).streamer.holdsLock = stream.streamer.holdsLock := by
  unfold replayFrom
  split
  · rw [replayChunk_streamer]
  · split
    · rfl
    · rw [replayDone, Streamer.holdsLock_wake]

theorem step_halted {event : Event} (free : stream.streamer.holdsLock = false)
    (halted : stream.Halted) (stepped : stream.step event = some next)
    (unoffered : ∀ frame, event = .windowFrame frame → ¬stream.Offers frame) :
    next.Halted := by
  rw [Halted] at halted
  cases step_turn stepped with
  | took waiting held =>
      rw [Halted, takeCredit]
      revert halted
      cases stream.replay <;> simp
      omega
  | raised _ _ => trivial
  | completed frame idle =>
      rw [Halted, acknowledge_replay, idle]
      trivial
  | granted idle _ =>
      rw [Halted, granted_replay, idle]
      trivial
  | blocked _ _ _ held =>
      rw [free] at held
      cases held
  | replays _ _ resumes _ =>
      rename_i frame _ _ _
      have refused := unoffered frame rfl
      rcases (stream.granted frame).replayFrom_cases 0 with
        ⟨chunk, found, same⟩ | ⟨_, _, same⟩ | ⟨_, _, same⟩
      · rw [same]
        rcases (stream.granted frame).replayChunk_cases 0 chunk with
          ⟨empty, same⟩ | ⟨held, _⟩
        · rw [same]
          exact empty
        · have unacked := List.ne_nil_of_mem (List.mem_of_getElem? found)
          exact absurd ⟨resumes, unacked, held⟩ refused
      · rw [same]
        trivial
      · rw [same]
        trivial
  | replayLocked locking _ =>
      rw [locking] at halted
      cases halted
  | replayCredited waiting held =>
      rw [waiting] at halted
      exact absurd halted held
  | replaySentData _ sending =>
      rw [sending] at halted
      cases halted
  | replayedChunk sending =>
      rw [sending] at halted
      cases halted
  | lost _ =>
      rw [Halted, lose]
      revert halted
      cases stream.replay <;> exact id
  | replaySentEnd _ _ | replayedEnd _ | disconnected _ => trivial
  | _ => exact halted

theorem step_free {event : Event} (free : stream.streamer.holdsLock = false)
    (stepped : stream.step event = some next) (holds : next.streamer.holdsLock = true) :
    ∃ chunk pieces, next.streamer = .sending chunk pieces .waiting := by
  have unheld : ∀ {streamer : Streamer}, streamer.holdsLock = false →
      streamer.holdsLock = true →
        ∃ chunk pieces, streamer = .sending chunk pieces .waiting := by
    intro streamer isFree held
    rw [isFree] at held
    cases held
  cases step_turn stepped with
  | advanced streamer _ _ _ after _ =>
      rcases after with rfl | rfl | between
      · cases holds
      · cases holds
      · exact unheld between.holdsLock holds
  | took waiting held =>
      rename_i piece pieces
      revert holds
      simp only [takeCredit]
      split
      · exact nofun
      · exact fun _ => ⟨_, _, rfl⟩
  | locked _ _ => exact ⟨_, _, rfl⟩
  | sentData _ sending =>
      rw [sending] at free
      cases free
  | completed frame _ => exact unheld (by simpa using free) holds
  | granted _ _ => exact unheld (by simpa using free) holds
  | blocked _ _ _ _ => exact unheld (by simpa using free) holds
  | replays _ _ resumes _ =>
      rename_i frame _ _ _
      apply unheld _ holds
      rw [replayFrom_holdsLock, granted_streamer]
      exact free
  | cancelled _ cancels =>
      cases cancels with
      | true => cases holds
      | false => exact unheld free holds
  | replayLocked _ _ | replayedChunk _ =>
      apply unheld _ holds
      rw [replayFrom_holdsLock]
      exact free
  | replayCredited _ _ =>
      apply unheld _ holds
      rw [replayChunk_streamer]
      exact free
  | lost _ | disconnected _ =>
      apply unheld _ holds
      rw [lose, Streamer.holdsLock_interrupt]
      exact free
  | replayedEnd _ =>
      apply unheld _ holds
      rw [replayDone, Streamer.holdsLock_wake]
      exact free
  | exhausted _ | finished _ | sentEnd _ _ => cases holds
  | _ => exact unheld free holds

/-! ## Replays have a connection -/

def Attached (stream : ResponseStream) : Prop :=
  stream.connected = false → stream.replay = .idle

theorem Attached.connected (attached : stream.Attached) (busy : stream.replay ≠ .idle) :
    stream.connected = true := by
  cases apart : stream.connected with
  | true => rfl
  | false => exact absurd (attached apart) busy

theorem attached_of_connected (connected : stream.connected = true) : stream.Attached := by
  intro apart
  rw [connected] at apart
  cases apart

theorem step_attached {event : Event} (attached : stream.Attached)
    (stepped : stream.step event = some next) : next.Attached := by
  cases step_turn stepped with
  | raised connected _ => exact attached_of_connected connected
  | completed frame _ =>
      intro apart
      exact (acknowledge_replay frame stream).trans
        (attached ((acknowledge_connected frame stream).symm.trans apart))
  | granted idle _ =>
      intro _
      rw [granted_replay]
      exact idle
  | blocked connected _ _ _ =>
      exact attached_of_connected ((acknowledge_connected _ stream).trans connected)
  | replays connected _ _ _ =>
      apply attached_of_connected
      rw [replayFrom_connected]
      exact (acknowledge_connected _ stream).trans connected
  | cancelled idle _ => exact fun _ => idle
  | replayLocked locking _ =>
      apply attached_of_connected
      rw [replayFrom_connected]
      exact attached.connected (by simp [locking])
  | replayCredited waiting _ =>
      apply attached_of_connected
      rw [replayChunk_connected]
      exact attached.connected (by simp [waiting])
  | replaySentData _ sending =>
      exact attached_of_connected (attached.connected (by simp [sending]))
  | replaySentEnd _ ending =>
      exact attached_of_connected (attached.connected (by simp [ending]))
  | replayedChunk sending =>
      apply attached_of_connected
      rw [replayFrom_connected]
      exact attached.connected (by simp [sending])
  | replayedEnd _ => exact fun _ => rfl
  | lost connected => exact attached_of_connected connected
  | disconnected _ => exact fun _ => rfl
  | reconnected _ _ => exact attached_of_connected rfl
  | _ => exact attached

end ResponseStream

end YrSandbox.Tunnel
