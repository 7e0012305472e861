import YrSandbox.Tunnel.Exchange

/-! # What one turn does to the streams of an exchange

Every step of an exchange is inverted here once, down to the streams and the
receive loop. The invariants of later modules take their cases from
`StreamTurn` and do not unfold the handlers again. -/

namespace YrSandbox.Tunnel

theorem Receiver.puttingEnd_ne {stream other : Nat} (different : other ≠ stream) :
    Receiver.puttingEnd stream ≠ .puttingEnd other := by
  intro equal
  cases equal
  exact different rfl

namespace Streams

@[simp] theorem modify_same (stream : Nat) (change : Incarnation → Incarnation)
    (streams : Streams) :
    (streams.modify stream change).incarnation stream =
      change (streams.incarnation stream) := by
  simp [modify]

theorem modify_other {stream other : Nat} (different : other ≠ stream)
    (change : Incarnation → Incarnation) (streams : Streams) :
    (streams.modify stream change).incarnation other = streams.incarnation other := by
  simp [modify, different]

@[simp] theorem modify_receiver (stream : Nat) (change : Incarnation → Incarnation)
    (streams : Streams) : (streams.modify stream change).receiver = streams.receiver := rfl

@[simp] theorem modify_streamRequest (stream : Nat) (change : Incarnation → Incarnation)
    (streams : Streams) :
    (streams.modify stream change).streamRequest = streams.streamRequest := rfl

@[simp] theorem modify_opened (stream : Nat) (change : Incarnation → Incarnation)
    (streams : Streams) : (streams.modify stream change).opened = streams.opened := rfl

theorem modify_modify (stream : Nat) (first second : Incarnation → Incarnation)
    (streams : Streams) :
    (streams.modify stream first).modify stream second =
      streams.modify stream fun incarnation => second (first incarnation) := by
  simp only [modify]
  congr 1
  funext other
  by_cases same : other = stream
  · simp only [same, if_true]
  · simp only [same, if_false]

theorem forall_modify (property : Nat → Incarnation → Prop) {stream : Nat}
    {change : Incarnation → Incarnation} {streams : Streams}
    (changed : property stream (change (streams.incarnation stream)))
    (others : ∀ other, other ≠ stream → property other (streams.incarnation other)) :
    ∀ other, property other ((streams.modify stream change).incarnation other) := by
  intro other
  by_cases same : other = stream
  · subst same
    rw [modify_same]
    exact changed
  · rw [modify_other same]
    exact others other same

def extend (stream : Nat) (queue : BoundedQueue (Option Bytes)) (chunk : Chunk UInt8)
    (streams : Streams) : Streams :=
  streams.modify stream fun incarnation => incarnation.spend.accept queue chunk

def BodyEnds (stream : Nat) (streams next : Streams) : Prop :=
  (∃ queue,
    (streams.incarnation stream).request.queue.put? none = some queue ∧
    next = streams.modify stream fun incarnation => incarnation.markEnded.putEnd queue) ∨
  ((streams.incarnation stream).request.queue.put? none = none ∧
    next =
      { streams.modify stream Incarnation.markEnded with receiver := .puttingEnd stream })

def register (window : Nat) (contentLength : Option Nat) (streams : Streams) : Streams :=
  { streams with
    incarnation := fun other =>
      if other = streams.opened then Incarnation.opening window contentLength
      else streams.incarnation other
    opened := streams.opened + 1
    streamRequest := some streams.opened }

end Streams

/-- The turns, by the limits of the connection and by whether a response has begun
under the id. -/
inductive StreamTurn (limits : Limits) (answered : Bool) :
    Streams → Exchange.Event → Streams → Prop
  | idle : StreamTurn limits answered streams event streams
  | raised (listening : streams.receiver = .idle) :
      StreamTurn limits answered streams event { streams with receiver := .raised message }
  | opened (contentLength : Option Nat) (listening : streams.receiver = .idle)
      (unregistered : streams.streamRequest = none) (unanswered : answered = false) :
      StreamTurn limits answered streams (.httpReqBegin declared httpTasks)
        (streams.register limits.negotiatedStreamWindow contentLength)
  | resumed (listening : streams.receiver = .idle)
      (registered : streams.streamRequest = some stream) :
      StreamTurn limits answered streams (.httpReqBegin declared httpTasks)
        (streams.modify stream
          (Incarnation.grant
            (Exchange.resumeCredits limits (streams.incarnation stream).request)))
  | rejected (listening : streams.receiver = .idle)
      (registered : streams.streamRequest = some stream)
      (outcome : receiver = .idle ∨ (∃ message, receiver = .raised message) ∨
        receiver = .refusing stream) :
      StreamTurn limits answered streams (.requestData offset payload endOfBody)
        { streams.modify stream Incarnation.spend with receiver }
  | extended (listening : streams.receiver = .idle)
      (registered : streams.streamRequest = some stream)
      (follows : offset = (streams.incarnation stream).request.received)
      (running : (streams.incarnation stream).request.ended = false)
      (room : (streams.incarnation stream).request.queue.put? (some payload) =
        some queue) :
      StreamTurn limits answered streams (.requestData (some offset) payload false)
        (streams.extend stream queue ⟨offset, payload⟩)
  | completed (listening : streams.receiver = .idle)
      (registered : streams.streamRequest = some stream)
      (follows : offset = (streams.incarnation stream).request.received)
      (running : (streams.incarnation stream).request.ended = false)
      (room : (streams.incarnation stream).request.queue.put? (some payload) = some queue)
      (ends : (streams.extend stream queue ⟨offset, payload⟩).BodyEnds stream next) :
      StreamTurn limits answered streams (.requestData (some offset) payload true) next
  | mismatched (listening : streams.receiver = .idle)
      (registered : streams.streamRequest = some stream) :
      StreamTurn limits answered streams .httpReqEnd
        { streams with receiver := .refusing stream }
  | ended (listening : streams.receiver = .idle)
      (registered : streams.streamRequest = some stream)
      (running : (streams.incarnation stream).request.ended = false)
      (ends : streams.BodyEnds stream next) :
      StreamTurn limits answered streams .httpReqEnd next
  | cancelled (listening : streams.receiver = .idle)
      (registered : streams.streamRequest = some stream) :
      StreamTurn limits answered streams .errorFrame
        { streams.modify stream Incarnation.cancel with streamRequest := none }
  | refused (refusing : streams.receiver = .refusing stream) :
      StreamTurn limits answered streams .refused
        { streams.modify stream Incarnation.cancel with
          receiver := .idle, streamRequest := none }
  | endPut (putting : streams.receiver = .puttingEnd stream)
      (room : (streams.incarnation stream).request.queue.put? none = some queue) :
      StreamTurn limits answered streams .endPut
        { streams.modify stream (Incarnation.putEnd queue) with receiver := .idle }
  | started (created : (streams.incarnation stream).task = .created) :
      StreamTurn limits answered streams (.start stream)
        (streams.modify stream fun incarnation => { incarnation with task := .running })
  | taken (running : (streams.incarnation stream).task = .running)
      (waiting : (streams.incarnation stream).content = .waiting)
      (took : (streams.incarnation stream).take = some incarnation) :
      StreamTurn limits answered streams (.take stream)
        (streams.modify stream fun _ => incarnation)
  | resumedContent (running : (streams.incarnation stream).task = .running)
      (yielded : (streams.incarnation stream).content = .yielded) :
      StreamTurn limits answered streams (.resumeContent stream)
        (streams.modify stream fun incarnation =>
          { incarnation with content := .crediting })
  | credited (running : (streams.incarnation stream).task = .running)
      (crediting : (streams.incarnation stream).content = .crediting) :
      StreamTurn limits answered streams (.credited stream)
        (streams.modify stream fun incarnation => incarnation.returnCredit.grant 1)
  | cleaned
      (unfinished : (streams.incarnation stream).task = .running ∨
        (streams.incarnation stream).task = .cancelling) :
      StreamTurn limits answered streams (.cleanup stream)
        { streams.modify stream Incarnation.finish with streamRequest := none }
  | disconnected
      (between : streams.receiver = .idle ∨
        ∃ message, streams.receiver = .raised message) :
      StreamTurn limits answered streams .disconnect
        { streams with
          receiver := .idle
          incarnation := fun stream => (streams.incarnation stream).voidCredits }

namespace Exchange

/-- The streams of an exchange may turn into `next` at an event. -/
abbrev Turns (exchange : Exchange) (event : Event) (next : Streams) : Prop :=
  StreamTurn exchange.limits exchange.responseCredits exchange.toStreams event next

/-! ### Handlers -/

theorem absorbOrRaise_streams (message : String) (exchange : Exchange) :
    (exchange.absorbOrRaise message).toStreams = exchange.toStreams ∨
      (exchange.absorbOrRaise message).toStreams =
        { exchange.toStreams with receiver := .raised message } := by
  unfold absorbOrRaise
  split
  · exact .inl rfl
  · exact .inr rfl

theorem endBody_streams (stream : Nat) (exchange : Exchange) :
    exchange.toStreams.BodyEnds stream (exchange.endBody stream).toStreams := by
  have before : ((exchange.modify stream Incarnation.markEnded).incarnation
      stream).request.queue = (exchange.incarnation stream).request.queue := by
    simp [modify, Incarnation.markEnded]
  unfold endBody
  simp only [before]
  cases room : (exchange.incarnation stream).request.queue.put? none with
  | none => exact .inr ⟨room, rfl⟩
  | some queue => exact .inl ⟨queue, room, Streams.modify_modify ..⟩

theorem streamData_turn {exchange : Exchange} (listening : exchange.receiver = .idle)
    (registered : exchange.streamRequest = some stream) (offset : Option Nat)
    (payload : Bytes) (endOfBody : Bool) :
    exchange.Turns (.requestData offset payload endOfBody)
      (exchange.streamData stream offset payload endOfBody).toStreams := by
  have rejected (receiver : Receiver) (outcome : receiver = .idle ∨
      (∃ message, receiver = .raised message) ∨ receiver = .refusing stream) :
      exchange.Turns (.requestData offset payload endOfBody)
        { exchange.toStreams.modify stream Incarnation.spend with receiver } :=
    .rejected listening registered outcome
  have spent :
      exchange.Turns (.requestData offset payload endOfBody)
        (exchange.toStreams.modify stream Incarnation.spend) := by
    have outcome := rejected .idle (.inl rfl)
    rw [← listening] at outcome
    exact outcome
  unfold streamData
  cases offset with
  | none => exact rejected _ (.inr (.inl ⟨_, rfl⟩))
  | some chunkOffset =>
      simp only
      split
      · split
        · exact spent
        · exact rejected _ (.inr (.inl ⟨_, rfl⟩))
      · split
        · exact rejected _ (.inr (.inl ⟨_, rfl⟩))
        · split
          · exact spent
          · split
            · exact rejected _ (.inr (.inr rfl))
            · rename_i early late running fits
              have follows : chunkOffset =
                (exchange.incarnation stream).request.received := by
                omega
              have unended : (exchange.incarnation stream).request.ended = false := by
                simpa using running
              split
              · exact rejected _ (.inr (.inr rfl))
              · rename_i queue room
                have extended :
                    ((exchange.modify stream Incarnation.spend).modify stream
                      (Incarnation.accept queue ⟨chunkOffset, payload⟩)).toStreams =
                    exchange.toStreams.extend stream queue ⟨chunkOffset, payload⟩ :=
                  Streams.modify_modify ..
                split
                · rename_i last
                  cases last
                  refine .completed listening registered follows unended room ?_
                  rw [← extended]
                  exact endBody_streams ..
                · rename_i more
                  simp only [Bool.not_eq_true] at more
                  subst more
                  rw [extended]
                  exact .extended listening registered follows unended room

theorem requestData_turn {exchange : Exchange} (listening : exchange.receiver = .idle)
    (offset : Option Nat) (payload : Bytes) (endOfBody : Bool) :
    exchange.Turns (.requestData offset payload endOfBody)
      (exchange.requestData offset payload endOfBody).toStreams := by
  unfold requestData
  split
  · rcases absorbOrRaise_streams s!"request data for unknown stream: {exchange.rid}"
      exchange with absorbed | raised
    · rw [absorbed]
      exact .idle
    · rw [raised]
      exact .raised listening
  · rename_i stream registered
    exact streamData_turn listening registered offset payload endOfBody

theorem httpReqEnd_turn {exchange : Exchange} (listening : exchange.receiver = .idle) :
    exchange.Turns .httpReqEnd
      exchange.httpReqEnd.toStreams := by
  unfold httpReqEnd
  split
  · rcases absorbOrRaise_streams s!"request end for unknown stream: {exchange.rid}"
      exchange with absorbed | raised
    · rw [absorbed]
      exact .idle
    · rw [raised]
      exact .raised listening
  · rename_i stream registered
    unfold streamEnd
    simp only
    split
    · exact .idle
    · rename_i running
      split
      · exact .mismatched listening registered
      · exact .ended listening registered (by simpa using running) (endBody_streams ..)

theorem httpReqBegin_turn {exchange : Exchange} (listening : exchange.receiver = .idle)
    (contentLength : Option Int) (httpTasks : Nat) :
    exchange.Turns (.httpReqBegin contentLength httpTasks)
      (exchange.httpReqBegin contentLength httpTasks).toStreams := by
  unfold httpReqBegin
  split
  · exact .raised listening
  · split
    · rename_i stream registered
      exact .resumed listening registered
    · rename_i unregistered
      split
      · exact .idle
      · rename_i unanswered
        split
        · exact .raised listening
        · split
          · exact .idle
          · split
            · exact .idle
            · exact .opened _ listening unregistered (by simpa using unanswered)

theorem httpReq_streams (httpTasks : Nat) (exchange : Exchange) :
    (exchange.httpReq httpTasks).toStreams = exchange.toStreams := by
  unfold httpReq handleHttpReq
  simp only
  repeat' split
  all_goals rfl

theorem windowFrame_streams (complete : Bool) (exchange : Exchange) :
    (exchange.windowFrame complete).toStreams = exchange.toStreams := by
  unfold windowFrame
  split <;> rfl

theorem cancelStream_streams (stream : Nat) (exchange : Exchange) :
    (exchange.cancelStream stream).toStreams =
      exchange.toStreams.modify stream Incarnation.cancel := by
  unfold cancelStream
  simp only
  split <;> rfl

theorem smallCallback_streams (task : Nat) (result : SmallResult) (exchange : Exchange) :
    (exchange.smallCallback task result).toStreams = exchange.toStreams := by
  cases result <;> rfl

theorem errorFrame_turn {exchange : Exchange} (listening : exchange.receiver = .idle) :
    exchange.Turns .errorFrame
      exchange.errorFrame.toStreams := by
  unfold errorFrame
  simp only
  split
  · rename_i stream registered
    have streams : ({ exchange with responseCredits := false }.cancelStream
        stream).toStreams = exchange.toStreams.modify stream Incarnation.cancel :=
      cancelStream_streams ..
    have cancelled : exchange.Turns .errorFrame
        { exchange.toStreams.modify stream Incarnation.cancel with
          streamRequest := none } :=
      .cancelled listening registered
    rw [← streams] at cancelled
    exact cancelled
  · split <;> exact .idle

theorem refused_turn {exchange : Exchange}
    (refusing : exchange.receiver = .refusing stream) :
    exchange.Turns .refused
      (exchange.refused stream).toStreams := by
  have refused : exchange.Turns .refused
      { exchange.toStreams.modify stream Incarnation.cancel with
        receiver := .idle, streamRequest := none } := .refused refusing
  rw [← cancelStream_streams stream exchange] at refused
  exact refused

theorem idle_of_listening {exchange : Exchange} (heard : exchange.listening = true) :
    exchange.receiver = .idle := by
  unfold listening at heard
  simpa using (Bool.and_eq_true_iff.mp heard).2

theorem step_turn {exchange next : Exchange} {event : Event}
    (stepped : exchange.step event = some next) :
    exchange.Turns event next.toStreams := by
  have idle (event : Event) :
      exchange.Turns event exchange.toStreams := .idle
  cases event with
  | httpReq httpTasks =>
      simp only [step, Option.ite_none_right_eq_some, Option.some.injEq] at stepped
      rcases stepped with ⟨_, rfl⟩
      rw [httpReq_streams]
      exact idle _
  | httpReqBegin contentLength httpTasks =>
      simp only [step, Option.ite_none_right_eq_some, Option.some.injEq] at stepped
      rcases stepped with ⟨listening, rfl⟩
      exact httpReqBegin_turn (idle_of_listening listening) contentLength httpTasks
  | requestData offset payload endOfBody =>
      simp only [step, Option.ite_none_right_eq_some, Option.some.injEq] at stepped
      rcases stepped with ⟨listening, rfl⟩
      exact requestData_turn (idle_of_listening listening) offset payload endOfBody
  | httpReqEnd =>
      simp only [step, Option.ite_none_right_eq_some, Option.some.injEq] at stepped
      rcases stepped with ⟨listening, rfl⟩
      exact httpReqEnd_turn (idle_of_listening listening)
  | windowFrame complete =>
      simp only [step, Option.ite_none_right_eq_some, Option.some.injEq] at stepped
      rcases stepped with ⟨_, rfl⟩
      rw [windowFrame_streams]
      exact idle _
  | errorFrame =>
      simp only [step, Option.ite_none_right_eq_some, Option.some.injEq] at stepped
      rcases stepped with ⟨listening, rfl⟩
      exact errorFrame_turn (idle_of_listening listening)
  | negotiated limits =>
      simp only [step, Option.ite_none_right_eq_some, Option.some.injEq] at stepped
      rcases stepped with ⟨_, rfl⟩
      exact idle _
  | refused =>
      simp only [step] at stepped
      split at stepped
      · rename_i stream refusing
        cases stepped
        exact refused_turn refusing
      · cases stepped
  | endPut =>
      simp only [step] at stepped
      split at stepped
      · rename_i stream putting
        rcases Option.map_eq_some_iff.mp stepped with ⟨queue, room, rfl⟩
        exact .endPut putting room
      · cases stepped
  | start stream =>
      simp only [step, Option.ite_none_right_eq_some, Option.some.injEq] at stepped
      rcases stepped with ⟨created, rfl⟩
      exact .started created
  | take stream =>
      simp only [step, Option.ite_none_right_eq_some] at stepped
      rcases stepped with ⟨⟨running, waiting⟩, moved⟩
      rcases Option.map_eq_some_iff.mp moved with ⟨incarnation, took, rfl⟩
      exact .taken running waiting took
  | resumeContent stream =>
      simp only [step, Option.ite_none_right_eq_some, Option.some.injEq] at stepped
      rcases stepped with ⟨⟨running, yielded⟩, rfl⟩
      exact .resumedContent running yielded
  | credited stream =>
      simp only [step, Option.ite_none_right_eq_some, Option.some.injEq] at stepped
      rcases stepped with ⟨⟨_, running, crediting⟩, rfl⟩
      exact .credited running crediting
  | respond stream =>
      simp only [step, Option.ite_none_right_eq_some, Option.some.injEq] at stepped
      rcases stepped with ⟨_, rfl⟩
      exact idle _
  | cleanup stream =>
      simp only [step, Option.ite_none_right_eq_some, Option.some.injEq] at stepped
      rcases stepped with ⟨unfinished, rfl⟩
      exact .cleaned unfinished
  | smallRespond task =>
      simp only [step, Option.ite_none_right_eq_some, Option.some.injEq] at stepped
      rcases stepped with ⟨_, rfl⟩
      exact idle _
  | smallFinish task result =>
      simp only [step, Option.ite_none_right_eq_some, Option.some.injEq] at stepped
      rcases stepped with ⟨_, rfl⟩
      exact idle _
  | smallCallback task =>
      simp only [step] at stepped
      split at stepped
      · cases stepped
        rw [smallCallback_streams]
        exact idle _
      · cases stepped
  | disconnect =>
      simp only [step] at stepped
      split at stepped
      · rename_i _ between
        cases stepped
        exact .disconnected (.inl between)
      · rename_i message _ between
        cases stepped
        exact .disconnected (.inr ⟨message, between⟩)
      · cases stepped
  | reconnect limits =>
      simp only [step, Option.ite_none_left_eq_some, Option.some.injEq] at stepped
      rcases stepped with ⟨_, rfl⟩
      exact idle _
  | tick elapsed =>
      cases stepped
      exact idle _
  | evictCompleted =>
      simp only [step, Option.ite_none_right_eq_some, Option.some.injEq] at stepped
      rcases stepped with ⟨_, rfl⟩
      exact idle _
  | evictTerminated =>
      simp only [step, Option.ite_none_right_eq_some, Option.some.injEq] at stepped
      rcases stepped with ⟨_, rfl⟩
      exact idle _

end Exchange

end YrSandbox.Tunnel
