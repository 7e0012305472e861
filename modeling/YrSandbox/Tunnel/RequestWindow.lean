import YrSandbox.Tunnel.EndMarkerSlot

/-! # The window of a request stream

What the peer may send is what it was granted on its connection: by the frame that
opens or resumes the stream, and by one credit for each chunk consumed. The queue
keeps the capacity that it was created with. -/

namespace YrSandbox.Tunnel

open Transition

/-- A resumed stream leaves the peer with no more credits than the queue can take:
those it holds already, and the window less what is queued or on its way back. -/
def ResumesWithin (limits : Limits) (streams : Streams) : Exchange.Event → Prop
  | .httpReqBegin _ _ =>
      ∀ stream ∈ streams.streamRequest,
        (streams.incarnation stream).request.ended = false →
        (streams.incarnation stream).allowance +
            max limits.negotiatedStreamWindow
              ((streams.incarnation stream).request.queue.qsize +
                (streams.incarnation stream).request.pendingCredit) ≤
          (streams.incarnation stream).request.queue.maxsize
  | _ => True

instance (limits : Limits) (streams : Streams) :
    ∀ event, Decidable (ResumesWithin limits streams event)
  | .httpReqBegin _ _ => inferInstanceAs (Decidable (∀ stream ∈ streams.streamRequest, _))
  | .requestData _ _ _ | .httpReqEnd | .httpReq _ | .windowFrame _ | .errorFrame
  | .negotiated _ | .refused | .endPut | .start _ | .take _
  | .resumeContent _ | .credited _
  | .respond _ | .cleanup _ | .smallRespond _ | .smallFinish _ _ | .smallCallback _
  | .disconnect | .reconnect _ | .tick _ | .evictCompleted | .evictTerminated =>
      .isTrue trivial

namespace Budget

variable {incarnation : Incarnation}

theorem resume_iff {limits : Limits} (budget : Budget incarnation) :
    Budget (incarnation.grant (Exchange.resumeCredits limits incarnation.request)) ↔
      (incarnation.request.ended = false →
        incarnation.allowance +
            max limits.negotiatedStreamWindow
              (incarnation.request.queue.qsize + incarnation.request.pendingCredit) ≤
          incarnation.request.queue.maxsize) := by
  constructor
  · intro resumed unended
    have within := resumed.within unended
    simp only [Incarnation.grant, Exchange.resumeCredits] at within
    omega
  · intro fits
    refine ⟨?_, budget.owed, budget.unstarted⟩
    intro unended
    have within := fits unended
    simp only [Incarnation.grant, Exchange.resumeCredits]
    omega

theorem room_for_credit (budget : Budget incarnation)
    (unended : incarnation.request.ended = false) (credited : 0 < incarnation.allowance)
    (item : Option Bytes) : incarnation.request.queue.put? item ≠ none := by
  intro full
  have within := budget.within unended
  have filled := BoundedQueue.put?_eq_none.mp full
  omega

end Budget

theorem Incarnation.take_ended {incarnation taken : Incarnation}
    (took : incarnation.take = some taken) :
    taken.request.ended = incarnation.request.ended := by
  rcases Incarnation.take_eq_some took with ⟨_, _, -, -, rfl⟩ | ⟨_, -, -, rfl⟩
  · rfl
  · rfl

/-- Every stream is within its budget, and the receive loop puts an end marker only
into the queue of a body that has ended. -/
structure Windowed (streams : Streams) : Prop where
  budget : ∀ stream, Budget (streams.incarnation stream)
  ending : ∀ stream, streams.receiver = .puttingEnd stream →
    (streams.incarnation stream).request.ended = true

namespace Windowed

variable {streams next : Streams} {stream : Nat}

theorem modify {change : Incarnation → Incarnation} (windowed : Windowed streams)
    (changed : Budget (change (streams.incarnation stream)))
    (ended : (change (streams.incarnation stream)).request.ended = true ∨
      (change (streams.incarnation stream)).request.ended =
        (streams.incarnation stream).request.ended) :
    Windowed (streams.modify stream change) where
  budget := Streams.forall_modify (fun _ incarnation => Budget incarnation) changed
    fun other _ => windowed.budget other
  ending other putting := by
    have before := windowed.ending other putting
    by_cases same : other = stream
    · subst same
      rw [Streams.modify_same]
      rcases ended with ended | kept
      · exact ended
      · rw [kept]
        exact before
    · rw [Streams.modify_other same]
      exact before

theorem turn (windowed : Windowed streams) (same : next.incarnation = streams.incarnation)
    (notPutting : ∀ other, next.receiver ≠ .puttingEnd other) : Windowed next where
  budget other := by
    rw [same]
    exact windowed.budget other
  ending other putting := absurd putting (notPutting other)

theorem extend {queue : BoundedQueue (Option Bytes)} {chunk : Chunk UInt8}
    (windowed : Windowed streams) (credited : 0 < (streams.incarnation stream).allowance)
    (room : (streams.incarnation stream).request.queue.put? (some chunk.payload) =
      some queue) : Windowed (streams.extend stream queue chunk) :=
  windowed.modify ((windowed.budget stream).accept credited room) (.inr rfl)

theorem bodyEnds (windowed : Windowed streams)
    (ends : streams.BodyEnds stream next) : Windowed next := by
  have marked : Windowed (streams.modify stream Incarnation.markEnded) :=
    windowed.modify ((windowed.budget stream).of_ended rfl rfl rfl rfl) (.inl rfl)
  rcases ends with ⟨queue, _, rfl⟩ | ⟨_, rfl⟩
  · exact windowed.modify ((windowed.budget stream).of_ended rfl rfl rfl rfl) (.inl rfl)
  · refine ⟨marked.budget, ?_⟩
    intro other putting
    cases putting
    simp [Incarnation.markEnded]

end Windowed

theorem StreamTurn.windowed {limits : Limits} {answered : Bool} {streams next : Streams}
    {event : Exchange.Event} (turn : StreamTurn limits answered streams event next)
    (windowed : Windowed streams) (respects : RespectsWindow streams event)
    (resumes : ResumesWithin limits streams event) : Windowed next := by
  cases turn with
  | idle => exact windowed
  | raised _ => exact windowed.turn rfl fun _ => Receiver.noConfusion
  | opened contentLength listening _ _ =>
      constructor
      · intro stream
        simp only [Streams.register]
        split
        · exact .opening ..
        · exact windowed.budget stream
      · intro stream putting
        simp only [Streams.register, listening] at putting
        cases putting
  | resumed _ registered =>
      exact windowed.modify ((windowed.budget _).resume_iff.mpr (resumes _ registered))
        (.inr rfl)
  | rejected listening _ outcome =>
      refine Windowed.turn (windowed.modify (windowed.budget _).spend (.inr rfl)) rfl ?_
      intro other
      rcases outcome with rfl | ⟨message, rfl⟩ | rfl <;> exact Receiver.noConfusion
  | extended _ registered _ _ room => exact windowed.extend (respects _ registered) room
  | completed _ registered _ _ room ends =>
      exact (windowed.extend (respects _ registered) room).bodyEnds ends
  | mismatched _ _ => exact windowed.turn rfl fun _ => Receiver.noConfusion
  | ended _ _ _ ends => exact windowed.bodyEnds ends
  | cancelled listening _ =>
      refine Windowed.turn (windowed.modify (windowed.budget _).cancel (.inr rfl)) rfl ?_
      intro other putting
      have idle := listening.symm.trans putting
      cases idle
  | refused _ =>
      exact Windowed.turn (windowed.modify (windowed.budget _).cancel (.inr rfl)) rfl
        fun _ => Receiver.noConfusion
  | endPut putting room =>
      rename_i queue stream
      have ended := windowed.ending _ putting
      have put : Windowed (streams.modify stream (Incarnation.putEnd queue)) :=
        windowed.modify ((windowed.budget _).of_ended ended rfl rfl rfl) (.inl ended)
      exact put.turn rfl fun _ => Receiver.noConfusion
  | started created =>
      exact windowed.modify ((windowed.budget _).start created) (.inr rfl)
  | taken running _ took =>
      exact windowed.modify ((windowed.budget _).take running took)
        (.inr (Incarnation.take_ended took))
  | resumedContent running yielded =>
      exact windowed.modify ((windowed.budget _).resumeContent running yielded)
        (.inr rfl)
  | credited running crediting =>
      exact windowed.modify ((windowed.budget _).credit running crediting) (.inr rfl)
  | cleaned unfinished =>
      rename_i stream
      have finished : Windowed (streams.modify stream Incarnation.finish) :=
        windowed.modify (windowed.budget stream).finish (.inr rfl)
      exact ⟨finished.budget, finished.ending⟩
  | disconnected _ =>
      exact ⟨fun stream => (windowed.budget stream).voidCredits,
        fun _ => Receiver.noConfusion⟩

/-! ## What is answered -/

def overflowReply : Reply := .error "request stream exceeded advertised window"

namespace Exchange

def Overflows (exchange : Exchange) (event : Event) : Prop :=
  ∃ offset payload endOfBody stream,
    event = .requestData (some offset) payload endOfBody ∧
      exchange.streamRequest = some stream ∧
      (exchange.incarnation stream).request.ended = false ∧
      (exchange.incarnation stream).request.queue.put? (some payload) = none

def AnswersPlainly (exchange next : Exchange) : Prop :=
  next.replies = exchange.replies ∨
    ∃ frame, frame ≠ overflowReply ∧ next.replies = exchange.replies ++ [frame]

theorem AnswersPlainly.of_reply {exchange next : Exchange} {frame : Reply}
    (plain : frame ≠ overflowReply) (same : next.replies = exchange.replies) :
    AnswersPlainly exchange (next.reply frame) :=
  .inr ⟨frame, plain, by rw [reply, same]⟩

theorem httpReq_answersPlainly (httpTasks : Nat) (exchange : Exchange) :
    AnswersPlainly exchange (exchange.httpReq httpTasks) := by
  unfold httpReq handleHttpReq
  dsimp only
  split
  · exact .of_reply (by decide) rfl
  · split
    · exact .of_reply (by decide) rfl
    · split
      · exact .of_reply (by decide) rfl
      · split
        · exact .inl rfl
        · exact .inl rfl

theorem httpReqBegin_answersPlainly (contentLength : Option Int) (httpTasks : Nat)
    (exchange : Exchange) :
    AnswersPlainly exchange (exchange.httpReqBegin contentLength httpTasks) := by
  unfold httpReqBegin
  split
  · exact .inl rfl
  · split
    · exact .of_reply nofun rfl
    · split
      · exact .of_reply nofun rfl
      · split
        · exact .inl rfl
        · split
          · exact .of_reply (by decide) rfl
          · split
            · exact .of_reply (by decide) rfl
            · exact .of_reply nofun rfl

theorem endBody_replies (stream : Nat) (exchange : Exchange) :
    (exchange.endBody stream).replies = exchange.replies := by
  unfold endBody
  dsimp only
  split <;> rfl

theorem httpReqEnd_answersPlainly (exchange : Exchange) :
    AnswersPlainly exchange exchange.httpReqEnd := by
  unfold httpReqEnd
  split
  · unfold absorbOrRaise
    split <;> exact .inl rfl
  · unfold streamEnd
    dsimp only
    split
    · exact .inl rfl
    · split
      · exact .of_reply (by decide) rfl
      · exact .inl (endBody_replies ..)

theorem requestData_answersPlainly (offset : Option Nat) (payload : Bytes)
    (endOfBody : Bool)
    (exchange : Exchange)
    (room : ¬exchange.Overflows (.requestData offset payload endOfBody)) :
    AnswersPlainly exchange (exchange.requestData offset payload endOfBody) := by
  unfold requestData
  split
  · unfold absorbOrRaise
    split <;> exact .inl rfl
  · rename_i stream registered
    unfold streamData
    dsimp only
    split
    · exact .inl rfl
    · split
      · split
        · exact .of_reply nofun rfl
        · exact .inl rfl
      · split
        · exact .inl rfl
        · split
          · exact .inl rfl
          · rename_i running
            split
            · exact .of_reply (by decide) rfl
            · split
              · rename_i full
                exact absurd ⟨_, payload, endOfBody, stream, rfl, registered,
                  by simpa using running, full⟩ room
              · split
                · exact .inl (endBody_replies ..)
                · exact .inl rfl

theorem cancelStream_replies (stream : Nat) (exchange : Exchange) :
    (exchange.cancelStream stream).replies = exchange.replies := by
  unfold cancelStream
  dsimp only
  split <;> rfl

theorem errorFrame_replies (exchange : Exchange) :
    exchange.errorFrame.replies = exchange.replies := by
  unfold errorFrame
  dsimp only
  split
  · exact cancelStream_replies ..
  · split <;> rfl

theorem windowFrame_replies (complete : Bool) (exchange : Exchange) :
    (exchange.windowFrame complete).replies = exchange.replies := by
  unfold windowFrame
  split <;> rfl

theorem smallCallback_replies (task : Nat) (result : SmallResult) (exchange : Exchange) :
    (exchange.smallCallback task result).replies = exchange.replies := by
  cases result <;> rfl

theorem step_silent {exchange next : Exchange} {event : Event}
    (stepped : exchange.step event = some next)
    (silent : ∀ httpTasks, event ≠ .httpReq httpTasks)
    (notBegin : ∀ contentLength httpTasks, event ≠ .httpReqBegin contentLength httpTasks)
    (notData : ∀ offset payload endOfBody, event ≠ .requestData offset payload endOfBody)
    (notEnd : event ≠ .httpReqEnd) : next.replies = exchange.replies := by
  cases event with
  | httpReq httpTasks => exact absurd rfl (silent httpTasks)
  | httpReqBegin contentLength httpTasks =>
      exact absurd rfl (notBegin contentLength httpTasks)
  | requestData offset payload endOfBody =>
      exact absurd rfl (notData offset payload endOfBody)
  | httpReqEnd => exact absurd rfl notEnd
  | windowFrame complete =>
      simp only [step, Option.ite_none_right_eq_some, Option.some.injEq] at stepped
      rw [← stepped.2, windowFrame_replies]
  | errorFrame =>
      simp only [step, Option.ite_none_right_eq_some, Option.some.injEq] at stepped
      rw [← stepped.2, errorFrame_replies]
  | refused =>
      simp only [step] at stepped
      split at stepped
      · cases stepped
        exact cancelStream_replies ..
      · cases stepped
  | endPut =>
      simp only [step] at stepped
      split at stepped
      · rcases Option.map_eq_some_iff.mp stepped with ⟨queue, _, rfl⟩
        rfl
      · cases stepped
  | take stream =>
      simp only [step, Option.ite_none_right_eq_some] at stepped
      rcases Option.map_eq_some_iff.mp stepped.2 with ⟨incarnation, _, rfl⟩
      rfl
  | smallCallback task =>
      simp only [step] at stepped
      split at stepped
      · cases stepped
        exact smallCallback_replies ..
      · cases stepped
  | disconnect =>
      simp only [step] at stepped
      split at stepped
      · cases stepped
        rfl
      · cases stepped
        rfl
      · cases stepped
  | reconnect limits =>
      simp only [step, Option.ite_none_left_eq_some, Option.some.injEq] at stepped
      rcases stepped with ⟨_, rfl⟩
      rfl
  | tick elapsed =>
      cases stepped
      rfl
  | negotiated _ | start _ | resumeContent _ | credited _ | respond _ | cleanup _
  | smallRespond _ | smallFinish _ _ | evictCompleted | evictTerminated =>
      simp only [step, Option.ite_none_right_eq_some, Option.some.injEq] at stepped
      rcases stepped with ⟨_, rfl⟩
      rfl

theorem step_answersPlainly {exchange next : Exchange} {event : Event}
    (stepped : exchange.step event = some next) (room : ¬exchange.Overflows event) :
    AnswersPlainly exchange next := by
  cases event with
  | httpReq httpTasks =>
      simp only [step, Option.ite_none_right_eq_some, Option.some.injEq] at stepped
      rcases stepped with ⟨_, rfl⟩
      exact httpReq_answersPlainly httpTasks exchange
  | httpReqBegin contentLength httpTasks =>
      simp only [step, Option.ite_none_right_eq_some, Option.some.injEq] at stepped
      rcases stepped with ⟨_, rfl⟩
      exact httpReqBegin_answersPlainly contentLength httpTasks exchange
  | requestData offset payload endOfBody =>
      simp only [step, Option.ite_none_right_eq_some, Option.some.injEq] at stepped
      rcases stepped with ⟨_, rfl⟩
      exact requestData_answersPlainly offset payload endOfBody exchange room
  | httpReqEnd =>
      simp only [step, Option.ite_none_right_eq_some, Option.some.injEq] at stepped
      rcases stepped with ⟨_, rfl⟩
      exact httpReqEnd_answersPlainly exchange
  | _ => exact .inl (step_silent stepped (by simp) (by simp) (by simp) (by simp))

/-! ## Along a run -/

theorem Windowed.not_overflows {exchange : Exchange} {event : Event}
    (windowed : Windowed exchange.toStreams)
    (respects : RespectsWindow exchange.toStreams event) :
    ¬exchange.Overflows event := by
  rintro ⟨offset, payload, endOfBody, stream, rfl, registered, unended, full⟩
  exact (windowed.budget stream).room_for_credit unended
    (respects stream registered) _ full

theorem initial_windowed (rid : String) (limits : Limits) :
    Windowed (initial rid limits).toStreams where
  budget _ := (Budget.opening _ none).finish
  ending _ := nofun

/-- While every peer respects its window and no stream is resumed with more credits
than its queue has slots, no queue is ever found full. -/
theorem run_neverOverflows {rid : String} {limits : Limits} {events : List Event}
    {final : Exchange} (ran : run step (initial rid limits) events = some final)
    (respects : Meets step (fun exchange => RespectsWindow exchange.toStreams)
      (initial rid limits) events)
    (resumes : Meets step
      (fun exchange => ResumesWithin exchange.limits exchange.toStreams)
      (initial rid limits) events) :
    overflowReply ∉ final.replies := by
  have holds : Windowed final.toStreams ∧ overflowReply ∉ final.replies := by
    refine invariant_under
      (fun exchange => Windowed exchange.toStreams ∧ overflowReply ∉ exchange.replies)
      ?_ ⟨initial_windowed rid limits, List.not_mem_nil⟩ (respects.and resumes) ran
    rintro exchange event next ⟨windowed, quiet⟩ ⟨respects, resumes⟩ stepped
    refine ⟨(step_turn stepped).windowed windowed respects resumes, ?_⟩
    rcases step_answersPlainly stepped (Windowed.not_overflows windowed respects) with
      same | ⟨frame, plain, grown⟩
    · rw [same]
      exact quiet
    · rw [grown, List.mem_append, List.mem_singleton]
      rintro (before | isFrame)
      · exact quiet before
      · exact plain isFrame.symm
  exact holds.2

/-- A stream of a window of two is resumed after its credit has come back. -/
theorem run_neverOverflows_resumed :
    overflowReply ∉
      (after step (initial "upload" (.withWindow 2 (by decide)))
        [.httpReqBegin none 0, .requestData (some 0) [7] false, .start 0, .take 0,
          .resumeContent 0, .credited 0, .disconnect,
            .reconnect (.withWindow 2 (by decide)),
          .httpReqBegin none 0, .requestData (some 1) [8] false,
          .requestData (some 2) [9] false]).replies :=
  run_neverOverflows (run_eq_after (by decide)) (by decide) (by decide)

/-- A credit that waited for the new connection reaches the peer before it resumes
the stream, and the window that it is granted then counts the same slot again. -/
theorem late_credit_overflows_queue :
    ¬∀ (rid : String) (limits : Limits) (events : List Event) (final : Exchange),
      run step (initial rid limits) events = some final →
      Meets step (fun exchange => RespectsWindow exchange.toStreams)
        (initial rid limits) events →
      overflowReply ∉ final.replies := by
  intro claim
  have quiet := claim "upload" (.withWindow 1 (by decide))
    [.httpReqBegin none 0, .requestData (some 0) [7] false, .start 0, .take 0,
      .resumeContent 0, .disconnect, .reconnect (.withWindow 1 (by decide)), .credited 0,
      .httpReqBegin none 0, .requestData (some 1) [8] false,
        .requestData (some 2) [9] false]
    _ rfl (by decide)
  exact quiet (by decide)

/-- A connection that negotiates a larger window grants more credits than the queue
of an older stream has slots. -/
example :
    overflowReply ∈
      (after step (initial "upload" (.withWindow 1 (by decide)))
        [.httpReqBegin none 0, .disconnect, .reconnect (.withWindow 2 (by decide)),
          .httpReqBegin none 0, .requestData (some 0) [7] false,
          .requestData (some 1) [8] false]).replies := by
  decide

end Exchange

end YrSandbox.Tunnel
