import YrSandbox.Tunnel.BodilessResponses
import YrSandbox.Tunnel.BodyEnd
import YrSandbox.Tunnel.RequestDelivery

/-! # The limit on bodies

A streamed request is held against the limit chunk by chunk, and both ways of answering
check the answer. The body of an `http_req` frame is checked nowhere. -/

namespace YrSandbox.Tunnel

open Python Transition

/-! ## Streamed requests -/

/-- What was received is within the bound, and is all that the HTTP client was handed and
will find in the queue. -/
structure Bounded (bound : Nat) (incarnation : Incarnation) : Prop where
  within : incarnation.request.received ≤ bound
  counted : incarnation.handed.flatten.length +
    (queuedBytes incarnation.request.queue.items).length = incarnation.request.received

structure SameBytes (old new : Incarnation) : Prop where
  received : new.request.received = old.request.received
  handed : new.handed = old.handed
  items : new.request.queue.items = old.request.queue.items

namespace Bounded

variable {bound : Nat} {incarnation : Incarnation}

theorem congr {new : Incarnation} (bounded : Bounded bound incarnation)
    (same : SameBytes incarnation new) : Bounded bound new where
  within := by
    rw [same.received]
    exact bounded.within
  counted := by
    rw [same.received, same.handed, same.items]
    exact bounded.counted

theorem opening (bound window : Nat) (contentLength : Option Nat) :
    Bounded bound (Incarnation.opening window contentLength) where
  within := Nat.zero_le _
  counted := rfl

theorem queuedBytes_cons (item : Option Bytes) (items : List (Option Bytes)) :
    queuedBytes (item :: items) = item.getD [] ++ queuedBytes items := by
  cases item <;> simp [queuedBytes]

theorem queuedBytes_append (items : List (Option Bytes)) (item : Option Bytes) :
    queuedBytes (items ++ [item]) = queuedBytes items ++ item.getD [] := by
  cases item <;> simp [queuedBytes]

theorem accept {queue : BoundedQueue (Option Bytes)} {payload : Bytes}
    (bounded : Bounded bound incarnation)
    (room : incarnation.request.queue.put? (some payload) = some queue)
    (fits : incarnation.request.received + payload.length ≤ bound) :
    Bounded bound
      (incarnation.spend.accept queue ⟨incarnation.request.received, payload⟩) where
  within := fits
  counted := by
    have items := (BoundedQueue.put?_eq_some room).2.1
    have counted := bounded.counted
    simp only [Incarnation.accept, Incarnation.spend, Chunk.finish, items,
      queuedBytes_append, Option.getD_some, List.length_append]
    omega

theorem putEnd {queue : BoundedQueue (Option Bytes)} (bounded : Bounded bound incarnation)
    (room : incarnation.request.queue.put? none = some queue) :
    Bounded bound (incarnation.putEnd queue) where
  within := bounded.within
  counted := by
    have items := (BoundedQueue.put?_eq_some room).2.1
    have counted := bounded.counted
    simpa only [Incarnation.putEnd, items, queuedBytes_append, Option.getD_none,
      List.append_nil] using counted

theorem take {taken : Incarnation} (bounded : Bounded bound incarnation)
    (took : incarnation.take = some taken) : Bounded bound taken := by
  have counted := bounded.counted
  rcases Incarnation.take_eq_some took with
    ⟨chunk, queue, items, -, rfl⟩ | ⟨queue, items, -, rfl⟩
  · refine ⟨bounded.within, ?_⟩
    rw [items, queuedBytes_cons, Option.getD_some, List.length_append] at counted
    simp only [List.flatten_append, List.length_append, List.flatten_cons,
      List.flatten_nil, List.append_nil]
    omega
  · refine ⟨bounded.within, ?_⟩
    rw [items, queuedBytes_cons, Option.getD_none, List.nil_append] at counted
    exact counted

end Bounded

def Streams.isData : Exchange.Event → Bool
  | .requestData _ _ _ => true
  | _ => false

def Streams.ReceivesWithin (bound : Nat) (streams next : Streams) : Prop :=
  ∀ stream ∈ streams.streamRequest,
    (streams.incarnation stream).request.received ≤ bound →
      (next.incarnation stream).request.received ≤ bound

theorem Streams.BodyEnds.bounded {bound stream : Nat} {streams next : Streams}
    (bounded : ∀ other, Bounded bound (streams.incarnation other))
    (ends : streams.BodyEnds stream next) :
    ∀ other, Bounded bound (next.incarnation other) := by
  have marked : Bounded bound (streams.incarnation stream).markEnded :=
    (bounded stream).congr ⟨rfl, rfl, rfl⟩
  rcases ends with ⟨queue, room, rfl⟩ | ⟨_, rfl⟩
  · exact forall_modify (fun _ incarnation => Bounded bound incarnation)
      (marked.putEnd room) fun other _ => bounded other
  · exact forall_modify (fun _ incarnation => Bounded bound incarnation) marked
      fun other _ => bounded other

theorem Streams.extend_bounded {bound stream : Nat} {payload : Bytes}
    {queue : BoundedQueue (Option Bytes)} {streams : Streams}
    (bounded : ∀ other, Bounded bound (streams.incarnation other))
    (room : (streams.incarnation stream).request.queue.put? (some payload) = some queue)
    (fits : ((streams.extend stream queue
      ⟨(streams.incarnation stream).request.received, payload⟩).incarnation
        stream).request.received ≤ bound) :
    ∀ other, Bounded bound ((streams.extend stream queue
      ⟨(streams.incarnation stream).request.received, payload⟩).incarnation other) := by
  rw [extend, modify_same] at fits
  exact forall_modify (fun _ incarnation => Bounded bound incarnation)
    ((bounded stream).accept room fits) fun other _ => bounded other

theorem StreamTurn.bounded {bound : Nat} {limits : Limits} {answered : Bool}
    {streams next : Streams} {event : Exchange.Event}
    (turn : StreamTurn limits answered streams event next)
    (bounded : ∀ stream, Bounded bound (streams.incarnation stream))
    (receives : Streams.isData event = true → streams.ReceivesWithin bound next) :
    ∀ stream, Bounded bound (next.incarnation stream) := by
  have modify {stream : Nat} {change : Incarnation → Incarnation}
      (changed : Bounded bound (change (streams.incarnation stream))) :
      ∀ other, Bounded bound ((streams.modify stream change).incarnation other) :=
    Streams.forall_modify (fun _ incarnation => Bounded bound incarnation) changed
      fun other _ => bounded other
  cases turn with
  | idle | raised _ | mismatched _ _ => exact bounded
  | opened contentLength _ _ _ =>
      intro stream
      simp only [Streams.register]
      split
      · exact .opening ..
      · exact bounded stream
  | rejected _ _ _ | resumed _ _ | cancelled _ _ | refused _ | started _
  | resumedContent _ _ | credited _ _ | cleaned _ =>
      exact modify ((bounded _).congr ⟨rfl, rfl, rfl⟩)
  | extended _ registered follows _ room =>
      subst follows
      exact Streams.extend_bounded bounded room
        (receives rfl _ registered (bounded _).within)
  | completed _ registered follows _ room ends =>
      subst follows
      apply ends.bounded
      apply Streams.extend_bounded bounded room
      rw [← ends.request.2.1]
      exact receives rfl _ registered (bounded _).within
  | ended _ _ _ ends => exact ends.bounded bounded
  | endPut _ room => exact modify ((bounded _).putEnd room)
  | taken _ _ took => exact modify ((bounded _).take took)
  | disconnected _ => exact fun stream => (bounded stream).congr ⟨rfl, rfl, rfl⟩

namespace Exchange

theorem requestData_receivesWithin {exchange : Exchange} {bound : Nat}
    (listening : exchange.receiver = .idle)
    (limited : exchange.limits.negotiatedMaxBodySize ≤ bound) (offset : Option Nat)
    (payload : Bytes) (endOfBody : Bool) :
    exchange.toStreams.ReceivesWithin bound
      (exchange.requestData offset payload endOfBody).toStreams := by
  intro stream registered before
  have handled : exchange.requestData offset payload endOfBody =
      exchange.streamData stream offset payload endOfBody := by
    rw [requestData, Option.mem_def.mp registered]
  have turn := requestData_turn listening offset payload endOfBody
  rw [handled] at turn ⊢
  generalize after : (exchange.streamData stream offset payload endOfBody).toStreams = next
    at turn ⊢
  have accepted (running : (exchange.incarnation stream).request.ended =
      false) (follows : offset = some (exchange.incarnation stream).request.received)
      (grows : (next.incarnation stream).request.received =
        (exchange.incarnation stream).request.received + payload.length) :
      (next.incarnation stream).request.received ≤ bound := by
    subst follows
    by_cases tooLong : exchange.limits.negotiatedMaxBodySize <
        (exchange.incarnation stream).request.received + payload.length
    · rw [streamData_over running tooLong] at after
      rw [← after]
      simpa [refuse, reply, modify, Incarnation.spend] using before
    · omega
  cases turn with
  | idle | raised _ => exact before
  | rejected _ entry _ =>
      cases (Option.mem_def.mp registered).symm.trans entry
      simpa [Incarnation.spend] using before
  | extended _ entry follows running _ =>
      cases (Option.mem_def.mp registered).symm.trans entry
      refine accepted running (congrArg some follows) ?_
      simp [Streams.extend, Incarnation.accept, Chunk.finish, follows]
  | completed _ entry follows running _ ends =>
      cases (Option.mem_def.mp registered).symm.trans entry
      refine accepted running (congrArg some follows) ?_
      rw [ends.request.2.1]
      simp [Streams.extend, Incarnation.accept, Chunk.finish, follows]

theorem run_bounded {bound : Nat} {rid : String} {limits : Limits} {events : List Event}
    {final : Exchange} (ran : run step (initial rid limits) events = some final)
    (limited : Meets step
      (fun exchange _ => exchange.limits.negotiatedMaxBodySize ≤ bound)
      (initial rid limits) events) (stream : Nat) :
    Bounded bound (final.incarnation stream) := by
  have start : ∀ stream, Bounded bound ((initial rid limits).incarnation stream) :=
    fun _ => (Bounded.opening bound _ none).congr ⟨rfl, rfl, rfl⟩
  refine invariant_under
    (fun exchange : Exchange => ∀ stream, Bounded bound (exchange.incarnation stream))
    (fun exchange event next bounded limited stepped => ?_) start limited ran stream
  apply (step_turn stepped).bounded bounded
  intro isData
  cases event with
  | requestData offset payload endOfBody =>
      simp only [step, Option.ite_none_right_eq_some, Option.some.injEq] at stepped
      rcases stepped with ⟨listening, rfl⟩
      exact requestData_receivesWithin (idle_of_listening listening) limited offset
        payload endOfBody
  | _ => cases isData

end Exchange

/-! ## Answers -/

namespace RelayFrame

def returned : RelayFrame → Bytes
  | data chunk => chunk.payload
  | resp _ _ body => (Base64.decode false body).toOption.getD []
  | respBegin _ _ _ | respEnd | error _ => []

end RelayFrame

structure Relayed.Within (limits : Limits) (relayed : Relayed) : Prop where
  request : ∀ request ∈ relayed.request,
    request.content.length ≤ limits.negotiatedMaxBodySize
  response : (relayed.frames.flatMap RelayFrame.returned).length ≤
    limits.negotiatedMaxBodySize

namespace Relay

variable {relay : Relay} {limits : Limits} {method : Text} {response : UpstreamResponse}

theorem returned_dataFrames (start : Nat) (rawChunk : Bytes) :
    (dataFrames limits start rawChunk).flatMap RelayFrame.returned = rawChunk := by
  have spelt := flatten_cut limits.chunkPositive rawChunk
  rw [← map_slice_offsets limits.chunkPositive, ← List.flatMap_def] at spelt
  rw [dataFrames, List.flatMap_map]
  exact spelt

theorem returned_streamBody (failure : Option String) (rawChunks : List Bytes) {size : Nat}
    (within : size ≤ limits.negotiatedMaxBodySize) :
    size + ((streamBody limits failure size rawChunks).1.flatMap
      RelayFrame.returned).length ≤ limits.negotiatedMaxBodySize := by
  induction rawChunks generalizing size with
  | nil =>
      cases failure <;> simpa [streamBody] using within
  | cons rawChunk rest induction =>
      rw [streamBody]
      dsimp only
      split
      · simpa using within
      · rename_i fits
        have others := induction (Nat.not_lt.mp fits)
        rw [List.flatMap_append, returned_dataFrames, List.length_append]
        omega

theorem returned_lastFrame (expected : Bool) (contentLength : Option Int)
    (ended : Except String Nat) :
    (lastFrame expected contentLength ended).returned = [] := by
  unfold lastFrame
  split
  · rfl
  · split <;> rfl

theorem returned_sendStreamingResponse (expected : Bool) :
    ((relay.sendStreamingResponse limits response expected).flatMap
      RelayFrame.returned).length ≤ limits.negotiatedMaxBodySize := by
  rw [sendStreamingResponse]
  split
  · exact Nat.zero_le _
  · have streamed : 0 + ((streamBody limits response.failure 0
        response.rawChunks).1.flatMap RelayFrame.returned).length ≤ _ :=
      returned_streamBody response.failure response.rawChunks (Nat.zero_le _)
    rw [Nat.zero_add] at streamed
    rw [List.flatMap_cons, List.flatMap_append, List.flatMap_singleton, returned_lastFrame,
      List.append_nil]
    exact streamed

theorem responseBodyLimit_le (limits : Limits) :
    responseBodyLimit limits ≤ limits.negotiatedMaxBodySize := by
  rw [responseBodyLimit]
  split
  · exact Nat.le_refl _
  · exact Nat.min_le_left _ _

theorem returned_sendWhole :
    ((sendWhole limits response).flatMap RelayFrame.returned).length ≤
      limits.negotiatedMaxBodySize := by
  rw [sendWhole]
  split
  · exact Nat.zero_le _
  · dsimp only
    split
    · exact Nat.zero_le _
    · rename_i fits
      rw [List.flatMap_singleton, RelayFrame.returned, Base64.decode_encode]
      exact Nat.le_trans (Nat.not_lt.mp fits) (responseBodyLimit_le limits)

theorem returned_relaySmall :
    ((relay.relaySmall limits method response).flatMap RelayFrame.returned).length ≤
      limits.negotiatedMaxBodySize := by
  unfold relaySmall
  dsimp only
  split
  · exact Nat.zero_le _
  · split
    · exact returned_sendStreamingResponse _
    · exact returned_sendWhole

theorem passOn_within_iff {request : Except String UpstreamRequest}
    {relayAnswer : UpstreamResponse → List RelayFrame}
    (returned : ∀ response, ((relayAnswer response).flatMap RelayFrame.returned).length ≤
      limits.negotiatedMaxBodySize) :
    (relay.passOn request relayAnswer).Within limits ↔
      ∀ built, request = .ok built →
        built.content.length ≤ limits.negotiatedMaxBodySize := by
  have passes {built : UpstreamRequest} {frames : List RelayFrame}
      (small :
        (frames.flatMap RelayFrame.returned).length ≤ limits.negotiatedMaxBodySize) :
      (Relayed.mk (some built) frames).Within limits ↔
        built.content.length ≤ limits.negotiatedMaxBodySize := by
    constructor
    · intro within
      exact within.request built rfl
    · intro fits
      refine ⟨?_, small⟩
      intro other isBuilt
      cases isBuilt
      exact fits
  unfold passOn
  split
  · rename_i message
    have refused : (Relayed.mk none [.error message]).Within limits :=
      ⟨by simp, Nat.zero_le _⟩
    exact iff_of_true refused (by simp)
  · rename_i built
    simp only [Except.ok.injEq, forall_eq']
    split
    · exact passes (Nat.zero_le _)
    · exact passes (returned _)

theorem smallRequest_eq_ok {frame : RequestFrame} {request : UpstreamRequest} :
    relay.smallRequest frame = .ok request ↔
      taken (headersForRebuiltRequest relay.lower frame.headers) = .ok request.headers ∧
        requestBody frame.body = .ok request.content ∧
        opened (httpTarget relay.checks relay.upstream frame.path) = .ok request.url ∧
        request.method = frame.method := by
  rw [smallRequest]
  cases taken (headersForRebuiltRequest relay.lower frame.headers) with
  | error message => simp [bind, Except.bind]
  | ok headers =>
      cases requestBody frame.body with
      | error message => simp [bind, Except.bind]
      | ok content =>
          cases opened (httpTarget relay.checks relay.upstream frame.path) with
          | error message => simp [bind, Except.bind]
          | ok url =>
              rcases request with ⟨method, requestUrl, requestHeaders, requestContent⟩
              simp only [bind, Except.bind, pure, Except.pure, Except.ok.injEq,
                UpstreamRequest.mk.injEq]
              constructor
              · rintro ⟨rfl, rfl, rfl, rfl⟩
                exact ⟨rfl, rfl, rfl, rfl⟩
              · rintro ⟨rfl, rfl, rfl, rfl⟩
                exact ⟨rfl, rfl, rfl, rfl⟩

def BodyFits (relay : Relay) (limits : Limits) (frame : RequestFrame) : Prop :=
  ∀ headers content url,
    taken (headersForRebuiltRequest relay.lower frame.headers) = .ok headers →
    requestBody frame.body = .ok content →
    opened (httpTarget relay.checks relay.upstream frame.path) = .ok url →
    content.length ≤ limits.negotiatedMaxBodySize

theorem bodyFits_iff {frame : RequestFrame} :
    relay.BodyFits limits frame ↔
      ∀ request, relay.smallRequest frame = .ok request →
        request.content.length ≤ limits.negotiatedMaxBodySize := by
  constructor
  · intro fits request built
    rcases smallRequest_eq_ok.mp built with ⟨headers, content, url, _⟩
    exact fits _ _ _ headers content url
  · intro fits headers content url isHeaders isContent isUrl
    exact fits ⟨frame.method, url, headers, content⟩
      (smallRequest_eq_ok.mpr ⟨isHeaders, isContent, isUrl, rfl⟩)

theorem streamRequest_content {frame : RequestFrame} {contentLength : Option Nat}
    {content : Bytes} {request : UpstreamRequest}
    (built : relay.streamRequest frame contentLength content = .ok request) :
    request.content = content := by
  rw [streamRequest] at built
  cases isHeaders : taken (streamRequestHeaders relay.lower contentLength
    frame.headers) with
  | error message =>
      rw [isHeaders] at built
      cases built
  | ok headers =>
      rw [isHeaders] at built
      cases isUrl : opened (httpTarget relay.checks relay.upstream frame.path) with
      | error message =>
          rw [isUrl] at built
          cases built
      | ok url =>
          rw [isUrl] at built
          cases built
          rfl

/-- Answers are within the limit on all paths, streamed requests too, and the request of an
`http_req` frame exactly if its body is. -/
theorem bodies_within_iff (relay : Relay) (limits : Limits) :
    (∀ frame, (relay.buildHttpRespFrame limits frame).Within limits ↔
      relay.BodyFits limits frame) ∧
    ∀ (rid : String) (start : Limits) (events : List Exchange.Event) (final : Exchange),
      run Exchange.step (.initial rid start) events = some final →
      Meets Exchange.step
        (fun exchange _ =>
          exchange.limits.negotiatedMaxBodySize ≤ limits.negotiatedMaxBodySize)
        (.initial rid start) events →
      ∀ stream frame contentLength,
        (relay.streamHttpResponse limits frame contentLength
          (final.incarnation stream).handed.flatten).Within limits := by
  constructor
  · intro frame
    rw [bodyFits_iff]
    exact passOn_within_iff fun _ => returned_relaySmall
  · intro rid start events final ran limited stream frame contentLength
    apply (passOn_within_iff fun _ => returned_sendStreamingResponse _).mpr
    intro request built
    have bounded := Exchange.run_bounded ran limited stream
    have within := bounded.within
    have counted := bounded.counted
    rw [streamRequest_content built]
    omega

/-- The counterpart of `headFrame` with a body of two bytes. -/
def postFrame : RequestFrame := ⟨"POST".toList, "/".toList, .array [], .str "AQI="⟩

/-- Both bytes are passed on where two are allowed. -/
theorem bodies_within_iff_two_bytes :
    (headRelay.buildHttpRespFrame (bodyLimits 2 Nat.two_pos) postFrame).Within
      (bodyLimits 2 Nat.two_pos) := by
  apply ((bodies_within_iff headRelay (bodyLimits 2 Nat.two_pos)).1 postFrame).mpr
  intro headers content url _ isContent _
  have decoded : requestBody postFrame.body = .ok [1, 2] := rfl
  rw [decoded] at isContent
  cases isContent
  exact Nat.le_refl _

/-- Where one byte is allowed, an `http_req` passes both on. -/
theorem small_request_unlimited :
    ¬∀ (relay : Relay) (limits : Limits) (frame : RequestFrame),
      (relay.buildHttpRespFrame limits frame).Within limits := by
  intro claim
  have within := (claim headRelay (bodyLimits 1 Nat.one_pos) postFrame).request _ rfl
  exact absurd within (by decide)

end Relay

end YrSandbox.Tunnel
