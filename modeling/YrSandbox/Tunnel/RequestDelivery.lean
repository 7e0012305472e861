import YrSandbox.Tunnel.StreamTurns

/-! # Exactly-once, in-order delivery of request bodies

Along every run the queue of an accepted request holds precisely what has been
accepted and not yet handed to the HTTP client, and what has been handed over is
a prefix of the body. -/

namespace YrSandbox.Tunnel

open Transition

/-! ## The invariant of one incarnation -/

def queuedBytes (items : List (Option Bytes)) : Bytes := (items.filterMap id).flatten

/-- `return` takes the end marker off the queue and hands nothing over. -/
def RequestContent.taken : RequestContent → List (Option Bytes)
  | .returned => [none]
  | .waiting | .yielded | .crediting => []

/-- How the counters, the queue and the records of an incarnation fit together
while its peer sends `body`; `awaiting` says that the receive loop waits to put
the end marker. -/
structure Delivery (body : Bytes) (awaiting : Prop) (incarnation : Incarnation) :
    Prop where
  contiguous : Contiguous 0 incarnation.accepted incarnation.request.received
  cut : ∀ chunk ∈ incarnation.accepted, chunk.CutFrom body
  queued : incarnation.puts = incarnation.accepted.map (fun chunk => some chunk.payload) ∨
    incarnation.request.ended = true ∧ ¬awaiting ∧
      incarnation.puts =
        incarnation.accepted.map (fun chunk => some chunk.payload) ++ [none]
  awaited : awaiting → incarnation.request.ended = true
  conserved : incarnation.puts =
    incarnation.handed.map some ++ incarnation.content.taken ++
      incarnation.request.queue.items
  counted : incarnation.request.consumed = incarnation.handed.flatten.length

structure SameDelivery (old new : Incarnation) : Prop where
  accepted : new.accepted = old.accepted
  puts : new.puts = old.puts
  handed : new.handed = old.handed
  taken : new.content.taken = old.content.taken
  received : new.request.received = old.request.received
  ended : new.request.ended = old.request.ended
  items : new.request.queue.items = old.request.queue.items
  consumed : new.request.consumed = old.request.consumed

namespace Delivery

variable {body : Bytes} {awaiting : Prop} {incarnation : Incarnation}

theorem congr {new : Incarnation} (delivery : Delivery body awaiting incarnation)
    (same : SameDelivery incarnation new) : Delivery body awaiting new where
  contiguous := by
    rw [same.accepted, same.received]
    exact delivery.contiguous
  cut := by
    rw [same.accepted]
    exact delivery.cut
  queued := by
    rw [same.puts, same.accepted, same.ended]
    exact delivery.queued
  awaited := by
    rw [same.ended]
    exact delivery.awaited
  conserved := by
    rw [same.puts, same.handed, same.taken, same.items]
    exact delivery.conserved
  counted := by
    rw [same.consumed, same.handed]
    exact delivery.counted

theorem puts_eq_of_running (delivery : Delivery body awaiting incarnation)
    (running : incarnation.request.ended = false) :
    incarnation.puts = incarnation.accepted.map fun chunk => some chunk.payload := by
  rcases delivery.queued with unended | ⟨ended, _⟩
  · exact unended
  · rw [running] at ended
    cases ended

theorem opening (body : Bytes) (window : Nat) (contentLength : Option Nat) :
    Delivery body False (Incarnation.opening window contentLength) where
  contiguous := rfl
  cut := by simp [Incarnation.opening]
  queued := .inl rfl
  awaited := False.elim
  conserved := rfl
  counted := rfl

theorem accept {queue : BoundedQueue (Option Bytes)} {offset : Nat} {payload : Bytes}
    (delivery : Delivery body False incarnation)
    (follows : offset = incarnation.request.received)
    (running : incarnation.request.ended = false)
    (room : incarnation.request.queue.put? (some payload) = some queue)
    (cut : Chunk.CutFrom body ⟨offset, payload⟩) :
    Delivery body False (incarnation.spend.accept queue ⟨offset, payload⟩) where
  contiguous := delivery.contiguous.concat follows
  cut := by
    intro chunk member
    rcases List.mem_append.mp member with earlier | last
    · exact delivery.cut chunk earlier
    · rw [List.mem_singleton.mp last]
      exact cut
  queued := by
    refine .inl ?_
    simp [Incarnation.accept, Incarnation.spend, delivery.puts_eq_of_running running]
  awaited := False.elim
  conserved := by
    have items := (BoundedQueue.put?_eq_some room).2.1
    simp [Incarnation.accept, Incarnation.spend, delivery.conserved, items]
  counted := delivery.counted

theorem putEnd {queue : BoundedQueue (Option Bytes)}
    (delivery : Delivery body awaiting incarnation)
    (ended : incarnation.request.ended = true)
    (unmarked : incarnation.puts =
      incarnation.accepted.map fun chunk => some chunk.payload)
    (room : incarnation.request.queue.put? none = some queue) :
    Delivery body False (incarnation.putEnd queue) where
  contiguous := delivery.contiguous
  cut := delivery.cut
  queued := by
    refine .inr ⟨ended, id, ?_⟩
    simp [Incarnation.putEnd, unmarked]
  awaited := False.elim
  conserved := by
    have items := (BoundedQueue.put?_eq_some room).2.1
    simp [Incarnation.putEnd, delivery.conserved, items]
  counted := delivery.counted

theorem awaiting_unmarked (delivery : Delivery body True incarnation) :
    incarnation.puts = incarnation.accepted.map fun chunk => some chunk.payload := by
  rcases delivery.queued with unmarked | ⟨_, notAwaiting, _⟩
  · exact unmarked
  · exact absurd trivial notAwaiting

theorem markEnded (delivery : Delivery body False incarnation)
    (running : incarnation.request.ended = false) :
    Delivery body True incarnation.markEnded where
  contiguous := delivery.contiguous
  cut := delivery.cut
  queued := .inl (delivery.puts_eq_of_running running)
  awaited := fun _ => rfl
  conserved := delivery.conserved
  counted := delivery.counted

theorem take {taken : Incarnation} (delivery : Delivery body awaiting incarnation)
    (waiting : incarnation.content = .waiting)
    (took : incarnation.take = some taken) : Delivery body awaiting taken := by
  have conserved := delivery.conserved
  rw [waiting] at conserved
  rcases Incarnation.take_eq_some took with
    ⟨chunk, queue, items, -, rfl⟩ | ⟨queue, items, -, rfl⟩
  · exact
      { contiguous := delivery.contiguous
        cut := delivery.cut
        queued := delivery.queued
        awaited := delivery.awaited
        conserved := by simpa [RequestContent.taken, items] using conserved
        counted := by simp [delivery.counted] }
  · exact
      { contiguous := delivery.contiguous
        cut := delivery.cut
        queued := delivery.queued
        awaited := delivery.awaited
        conserved := by simpa [RequestContent.taken, items] using conserved
        counted := delivery.counted }

end Delivery

/-! ## Along a run -/

/-- Every incarnation is in order, the receive loop at most waiting to put its
end marker. -/
def Delivering (bodies : Nat → Bytes) (streams : Streams) : Prop :=
  ∀ stream, Delivery (bodies stream) (streams.receiver = .puttingEnd stream)
    (streams.incarnation stream)

/-- A data frame for a registered stream carries the bytes that its body has at
the offset. -/
def CutFromBody (bodies : Nat → Bytes) (streams : Streams) : Exchange.Event → Prop
  | .requestData (some offset) payload _ =>
      ∀ stream ∈ streams.streamRequest, Chunk.CutFrom (bodies stream) ⟨offset, payload⟩
  | _ => True

instance (bodies : Nat → Bytes) (streams : Streams) :
    ∀ event, Decidable (CutFromBody bodies streams event)
  | .requestData (some offset) payload _ =>
      match given : streams.streamRequest with
      | none => .isTrue (by simp [CutFromBody, given])
      | some stream =>
          decidable_of_iff (Chunk.CutFrom (bodies stream) ⟨offset, payload⟩)
            (by simp [CutFromBody, given])
  | .requestData none _ _ | .httpReq _ | .httpReqBegin _ _ | .httpReqEnd | .windowFrame _
  | .errorFrame | .negotiated _ | .refused | .endPut | .start _ | .take _
  | .resumeContent _ | .credited _ | .respond _ | .cleanup _ | .smallRespond _
  | .smallFinish _ _ | .smallCallback _ | .disconnect | .reconnect _ | .tick _
  | .evictCompleted | .evictTerminated => .isTrue trivial

namespace Delivering

variable {bodies : Nat → Bytes} {streams : Streams}

theorem of_not_putting
    (deliveries : ∀ stream, Delivery (bodies stream) False (streams.incarnation stream))
    (notPutting : ∀ stream, streams.receiver ≠ .puttingEnd stream) :
    Delivering bodies streams := by
  intro stream
  rw [eq_false (notPutting stream)]
  exact deliveries stream

theorem not_putting (delivering : Delivering bodies streams)
    (notPutting : ∀ stream, streams.receiver ≠ .puttingEnd stream) (stream : Nat) :
    Delivery (bodies stream) False (streams.incarnation stream) := by
  have delivery := delivering stream
  rw [eq_false (notPutting stream)] at delivery
  exact delivery

theorem listening (delivering : Delivering bodies streams)
    (idle : streams.receiver = .idle) (stream : Nat) :
    Delivery (bodies stream) False (streams.incarnation stream) := by
  apply delivering.not_putting
  intro other
  rw [idle]
  exact Receiver.noConfusion

theorem modify {stream : Nat} {change : Incarnation → Incarnation}
    (delivering : Delivering bodies streams)
    (changed : Delivery (bodies stream) (streams.receiver = .puttingEnd stream)
      (change (streams.incarnation stream))) :
    Delivering bodies (streams.modify stream change) :=
  Streams.forall_modify
    (fun other incarnation =>
      Delivery (bodies other) (streams.receiver = .puttingEnd other) incarnation)
    changed (fun other _ => delivering other)

theorem modify_not_putting {stream : Nat} {change : Incarnation → Incarnation}
    {next : Streams}
    (deliveries : ∀ other, Delivery (bodies other) False (streams.incarnation other))
    (changed : Delivery (bodies stream) False (change (streams.incarnation stream)))
    (modified : next.incarnation = (streams.modify stream change).incarnation)
    (notPutting : ∀ other, next.receiver ≠ .puttingEnd other) :
    Delivering bodies next := by
  apply Delivering.of_not_putting
  · rw [modified]
    exact Streams.forall_modify
      (fun other incarnation => Delivery (bodies other) False incarnation)
      changed (fun other _ => deliveries other)
  · exact notPutting

theorem bodyEnds {stream : Nat} {next : Streams} (delivering : Delivering bodies streams)
    (idle : streams.receiver = .idle)
    (running : (streams.incarnation stream).request.ended = false)
    (ends : streams.BodyEnds stream next) : Delivering bodies next := by
  have delivery := delivering.listening idle stream
  have marked := delivery.markEnded running
  rcases ends with ⟨queue, room, rfl⟩ | ⟨_, rfl⟩
  · refine .modify_not_putting (delivering.listening idle) ?_ rfl ?_
    · exact marked.putEnd rfl marked.awaiting_unmarked room
    · intro other
      simp [idle]
  · intro other
    by_cases same : other = stream
    · subst same
      simpa using marked
    · have elsewhere := Receiver.puttingEnd_ne same
      simp only [Streams.modify_other same, eq_false elsewhere]
      exact delivering.listening idle other

theorem extend {stream offset : Nat} {payload : Bytes}
    {queue : BoundedQueue (Option Bytes)} (delivering : Delivering bodies streams)
    (idle : streams.receiver = .idle)
    (follows : offset = (streams.incarnation stream).request.received)
    (running : (streams.incarnation stream).request.ended = false)
    (room : (streams.incarnation stream).request.queue.put? (some payload) = some queue)
    (cut : Chunk.CutFrom (bodies stream) ⟨offset, payload⟩) :
    Delivering bodies (streams.extend stream queue ⟨offset, payload⟩) := by
  refine .modify_not_putting (delivering.listening idle) ?_ rfl ?_
  · exact (delivering.listening idle stream).accept follows running room cut
  · intro other
    simp [Streams.extend, idle]

theorem endPut {stream : Nat} {queue : BoundedQueue (Option Bytes)}
    (delivering : Delivering bodies streams)
    (putting : streams.receiver = .puttingEnd stream)
    (room : (streams.incarnation stream).request.queue.put? none = some queue) :
    Delivering bodies
      { streams.modify stream (Incarnation.putEnd queue) with receiver := .idle } := by
  apply Delivering.of_not_putting
  · apply Streams.forall_modify
      (fun other incarnation => Delivery (bodies other) False incarnation)
    · have delivery := delivering stream
      rw [eq_true putting] at delivery
      exact delivery.putEnd (delivery.awaited trivial) delivery.awaiting_unmarked room
    · intro other different
      have delivery := delivering other
      have elsewhere : streams.receiver ≠ .puttingEnd other := by
        rw [putting]
        exact Receiver.puttingEnd_ne different
      rw [eq_false elsewhere] at delivery
      exact delivery
  · exact fun _ => Receiver.noConfusion

end Delivering

theorem StreamTurn.delivering {limits : Limits} {answered : Bool} {streams next : Streams}
    {event : Exchange.Event} {bodies : Nat → Bytes}
    (turn : StreamTurn limits answered streams event next)
    (delivering : Delivering bodies streams) (cut : CutFromBody bodies streams event) :
    Delivering bodies next := by
  cases turn with
  | idle => exact delivering
  | raised listening =>
      exact .of_not_putting (delivering.listening listening) fun _ => Receiver.noConfusion
  | opened contentLength listening _ _ =>
      apply Delivering.of_not_putting
      · intro stream
        simp only [Streams.register]
        split
        · exact .opening ..
        · exact delivering.listening listening stream
      · intro stream
        simp [Streams.register, listening]
  | resumed listening _ =>
      apply delivering.modify
      exact (delivering _).congr ⟨rfl, rfl, rfl, rfl, rfl, rfl, rfl, rfl⟩
  | rejected listening _ outcome =>
      refine .modify_not_putting (delivering.listening listening) ?_ rfl ?_
      · exact (delivering.listening listening _).congr
          ⟨rfl, rfl, rfl, rfl, rfl, rfl, rfl, rfl⟩
      · intro other
        rcases outcome with rfl | ⟨message, rfl⟩ | rfl <;> exact Receiver.noConfusion
  | extended listening registered follows running room =>
      exact delivering.extend listening follows running room (cut _ registered)
  | completed listening registered follows running room ends =>
      refine (delivering.extend listening follows running room (cut _ registered)).bodyEnds
        listening ?_ ends
      simpa [Streams.extend, Incarnation.accept, Incarnation.spend] using running
  | mismatched listening _ =>
      exact .of_not_putting (delivering.listening listening) fun _ => Receiver.noConfusion
  | ended listening _ running ends => exact delivering.bodyEnds listening running ends
  | cancelled listening _ =>
      apply delivering.modify
      exact (delivering _).congr ⟨rfl, rfl, rfl, rfl, rfl, rfl, rfl, rfl⟩
  | refused refusing =>
      have deliveries := delivering.not_putting (by simp [refusing])
      refine .modify_not_putting deliveries ?_ rfl fun _ => Receiver.noConfusion
      exact (deliveries _).congr ⟨rfl, rfl, rfl, rfl, rfl, rfl, rfl, rfl⟩
  | endPut putting room => exact delivering.endPut putting room
  | started created =>
      apply delivering.modify
      exact (delivering _).congr ⟨rfl, rfl, rfl, rfl, rfl, rfl, rfl, rfl⟩
  | taken running waiting took =>
      apply delivering.modify
      exact (delivering _).take waiting took
  | resumedContent running yielded =>
      apply delivering.modify
      exact (delivering _).congr ⟨rfl, rfl, rfl, by rw [yielded]; rfl, rfl, rfl, rfl, rfl⟩
  | credited running crediting =>
      apply delivering.modify
      exact (delivering _).congr
        ⟨rfl, rfl, rfl, by rw [crediting]; rfl, rfl, rfl, rfl, rfl⟩
  | cleaned unfinished =>
      apply delivering.modify
      exact (delivering _).congr ⟨rfl, rfl, rfl, rfl, rfl, rfl, rfl, rfl⟩
  | disconnected between =>
      have deliveries := delivering.not_putting (by
        rcases between with idle | ⟨message, raised⟩
        · simp [idle]
        · simp [raised])
      apply Delivering.of_not_putting
      · intro stream
        exact (deliveries stream).congr ⟨rfl, rfl, rfl, rfl, rfl, rfl, rfl, rfl⟩
      · exact fun _ => Receiver.noConfusion

/-! ## What the HTTP client is handed -/

/-- Exactly-once, in-order delivery of what has been accepted of `body`. -/
structure ExactDelivery (body : Bytes) (incarnation : Incarnation) : Prop where
  handed : incarnation.handed.flatten = body.take incarnation.request.consumed
  counted : incarnation.handed.flatten.length = incarnation.request.consumed
  conserved :
    incarnation.request.consumed + (queuedBytes incarnation.request.queue.items).length =
      incarnation.request.received
  contiguous : Contiguous 0 incarnation.accepted incarnation.request.received
  onlyAccepted :
    incarnation.puts.filterMap id = incarnation.accepted.map Chunk.payload
  markedLast : ∀ before after, incarnation.puts = before ++ none :: after → after = []

namespace Delivery

variable {body : Bytes} {awaiting : Prop} {incarnation : Incarnation}

theorem filterMap_puts (delivery : Delivery body awaiting incarnation) :
    incarnation.puts.filterMap id = incarnation.accepted.map Chunk.payload := by
  rcases delivery.queued with puts | ⟨_, _, puts⟩ <;>
    simp [puts, List.filterMap_map]

theorem handed_append_queued (delivery : Delivery body awaiting incarnation) :
    incarnation.handed.flatten ++ queuedBytes incarnation.request.queue.items =
      body.take incarnation.request.received := by
  have spelled := delivery.contiguous.payloads_eq_slice delivery.cut
  have puts := delivery.filterMap_puts
  have taken : incarnation.content.taken.filterMap id = [] := by
    cases incarnation.content <;> rfl
  rw [delivery.conserved, List.filterMap_append, List.filterMap_append, taken] at puts
  have handed : (incarnation.handed.map some).filterMap id = incarnation.handed := by
    rw [List.filterMap_map]
    exact List.filterMap_some
  have flattened := congrArg List.flatten puts
  simp only [handed, List.append_nil, List.flatten_append] at flattened
  simp only [payloads, List.flatMap_def, slice, List.drop_zero, Nat.sub_zero] at spelled
  rw [queuedBytes, flattened, spelled]

theorem markedLast (delivery : Delivery body awaiting incarnation)
    (before after : List (Option Bytes))
    (puts : incarnation.puts = before ++ none :: after) : after = [] := by
  rcases delivery.queued with unmarked | ⟨_, _, marked⟩
  · have member : none ∈ incarnation.puts := by simp [puts]
    rw [unmarked] at member
    simp at member
  · rcases List.eq_nil_or_concat after with empty | ⟨others, last, rfl⟩
    · exact empty
    · rw [marked, List.concat_eq_append, ← List.cons_append, ← List.append_assoc] at puts
      have earlier := (List.append_inj' puts rfl).1
      have member : none ∈ before ++ none :: others := by simp
      rw [← earlier] at member
      simp at member

theorem exact (delivery : Delivery body awaiting incarnation) :
    ExactDelivery body incarnation := by
  have spelled := delivery.handed_append_queued
  have conserved : incarnation.request.consumed +
      (queuedBytes incarnation.request.queue.items).length =
        incarnation.request.received := by
    have accepted := delivery.contiguous.length_payloads
    have lengths := congrArg List.length spelled
    have payloadLength := delivery.contiguous.payloads_eq_slice delivery.cut
    have same := congrArg List.length payloadLength
    simp only [List.length_append, List.length_take, length_slice] at lengths same
    rw [delivery.counted]
    omega
  exact
    { handed := by
        have shorter : incarnation.request.consumed ≤ incarnation.request.received := by
          omega
        have front := congrArg (List.take incarnation.request.consumed) spelled
        rw [List.take_take, Nat.min_eq_left shorter] at front
        rw [← front, delivery.counted, List.take_left]
      counted := delivery.counted.symm
      conserved := conserved
      contiguous := delivery.contiguous
      onlyAccepted := delivery.filterMap_puts
      markedLast := delivery.markedLast }

end Delivery

namespace Exchange

/-- In this state every stream has delivered exactly, a retransmitted chunk is
only acknowledged, and one that leaves a gap or overlaps queues nothing. -/
structure DeliversExactly (bodies : Nat → Bytes) (exchange : Exchange) : Prop where
  delivered : ∀ stream, ExactDelivery (bodies stream) (exchange.incarnation stream)
  acknowledged : ∀ {stream endOfBody next} {chunk : Chunk UInt8},
    exchange.streamRequest = some stream →
    exchange.step (.requestData (some chunk.offset) chunk.payload endOfBody) = some next →
    chunk.offset < (exchange.incarnation stream).request.received →
    chunk.finish ≤ (exchange.incarnation stream).request.received →
    next = (exchange.modify stream Incarnation.spend).reply
      (.window 0 (exchange.incarnation stream).request.received)
  unqueued : ∀ {stream endOfBody next} {chunk : Chunk UInt8},
    exchange.streamRequest = some stream →
    exchange.step (.requestData (some chunk.offset) chunk.payload endOfBody) = some next →
    chunk.offset ≠ (exchange.incarnation stream).request.received →
    (next.incarnation stream).puts = (exchange.incarnation stream).puts ∧
      (next.incarnation stream).request = (exchange.incarnation stream).request

theorem initial_delivering (rid : String) (limits : Limits) (bodies : Nat → Bytes) :
    Delivering bodies (initial rid limits).toStreams :=
  .of_not_putting
    (fun stream => (Delivery.opening (bodies stream) _ none).congr
      ⟨rfl, rfl, rfl, rfl, rfl, rfl, rfl, rfl⟩)
    (fun _ => Receiver.noConfusion)

theorem requestData_eq {exchange next : Exchange} {stream : Nat} {offset : Option Nat}
    {payload : Bytes} {endOfBody : Bool}
    (registered : exchange.streamRequest = some stream)
    (stepped : exchange.step (.requestData offset payload endOfBody) = some next) :
    next = exchange.streamData stream offset payload endOfBody := by
  simp only [step, Option.ite_none_right_eq_some, Option.some.injEq] at stepped
  rw [← stepped.2, requestData, registered]

/-- Along every run in which the peer of each stream sends the bytes of one
body, delivery is exact. -/
theorem run_deliversExactly {rid : String} {limits : Limits} {bodies : Nat → Bytes}
    {events : List Event} {final : Exchange}
    (ran : run step (initial rid limits) events = some final)
    (cut : Meets step (fun exchange => CutFromBody bodies exchange.toStreams)
      (initial rid limits) events) : final.DeliversExactly bodies := by
  have delivering : Delivering bodies final.toStreams :=
    invariant_under (fun exchange => Delivering bodies exchange.toStreams)
      (fun exchange event next holds sends stepped =>
        (step_turn stepped).delivering holds sends)
      (initial_delivering rid limits bodies) cut ran
  refine ⟨fun stream => (delivering stream).exact, ?_, ?_⟩
  · intro stream endOfBody next chunk registered stepped earlier inside
    rw [requestData_eq registered stepped]
    simp only [streamData]
    rw [if_pos earlier, if_pos inside]
  · intro stream endOfBody next chunk registered stepped elsewhere
    rw [requestData_eq registered stepped]
    simp only [streamData]
    split
    · split <;> simp [reply, raise, modify, Incarnation.spend]
    · rw [if_pos (by omega)]
      simp [raise, modify, Incarnation.spend]

def retransmission : List Event :=
  [.httpReqBegin none 0, .requestData (some 0) [1, 2] false, .start 0, .take 0,
    .disconnect, .reconnect (.withWindow 4 fourFrames), .httpReqBegin none 0,
    .requestData (some 0) [1, 2] false, .requestData (some 2) [3] true]

theorem retransmission_deliversExactly :
    (after step (initial "upload" (.withWindow 4 (by decide)))
      retransmission).DeliversExactly
      fun _ => [1, 2, 3] :=
  run_deliversExactly (run_eq_after (by decide)) (by decide)

end Exchange

end YrSandbox.Tunnel
