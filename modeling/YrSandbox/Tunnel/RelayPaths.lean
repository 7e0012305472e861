import YrSandbox.Tunnel.BodilessResponses

/-! # One frame or many

An answer of the upstream is sent in one `http_resp` frame or streamed in chunks. Read at
the other end, both ways give the same answer, but for what they make of a wrong
`Content-Length`. -/

namespace YrSandbox.Tunnel

open Python

structure RelayedAnswer where
  status : Nat
  headers : List Header
  body : Bytes
deriving DecidableEq, Repr

/-- The body in data frames that follow each other from `start` on, up to the last frame. -/
def collected : Nat → List RelayFrame → Option Bytes
  | _, [.respEnd] => some []
  | start, .data chunk :: frames =>
      if chunk.offset = start then (collected chunk.finish frames).map (chunk.payload ++ ·)
      else none
  | _, _ => none

def received : List RelayFrame → Option RelayedAnswer
  | [.resp status headers body] =>
      match Base64.decode false body with
      | .ok body => some ⟨status, headers, body⟩
      | .error _ => none
  | .respBegin status headers _ :: frames =>
      (collected 0 frames).map fun body => ⟨status, headers, body⟩
  | _ => none

def UpstreamResponse.answer (response : UpstreamResponse) : RelayedAnswer where
  status := response.statusCode
  headers := response.headers
  body := response.rawChunks.flatten

namespace Relay

variable {relay : Relay} {limits : Limits} {method : Text} {response : UpstreamResponse}

/-! ## Many frames -/

theorem collected_chunks {start finish : Nat} {chunks : List (Chunk UInt8)}
    (contiguous : Contiguous start chunks finish) (frames : List RelayFrame) :
    collected start (chunks.map RelayFrame.data ++ frames) =
      (collected finish frames).map (payloads chunks ++ ·) := by
  induction chunks generalizing start with
  | nil =>
      obtain rfl := contiguous
      simp
  | cons chunk chunks induction =>
      rcases contiguous with ⟨starts, rest⟩
      rw [List.map_cons, List.cons_append, collected, if_pos starts, induction rest,
        Option.map_map]
      apply congrArg (Option.map · _)
      funext body
      rw [Function.comp_apply, payloads_cons, List.append_assoc]

theorem collected_dataFrames (start : Nat) (rawChunk : Bytes) (frames : List RelayFrame) :
    collected start (dataFrames limits start rawChunk ++ frames) =
      (collected (start + rawChunk.length) frames).map (rawChunk ++ ·) := by
  have contiguous := Contiguous.map_offsets limits.chunkPositive rawChunk start
  have chunks := collected_chunks contiguous frames
  rw [List.map_map] at chunks
  rw [dataFrames]
  refine chunks.trans ?_
  have spelt := flatten_cut limits.chunkPositive rawChunk
  rw [← map_slice_offsets limits.chunkPositive, ← List.flatMap_def] at spelt
  rw [payloads, List.flatMap_map, spelt]

theorem collected_streamBody (rawChunks : List Bytes) {size : Nat}
    (fits : size + rawChunks.flatten.length ≤ limits.negotiatedMaxBodySize)
    (frames : List RelayFrame) :
    (streamBody limits none size rawChunks).2 = .ok (size + rawChunks.flatten.length) ∧
      collected size ((streamBody limits none size rawChunks).1 ++ frames) =
        (collected (size + rawChunks.flatten.length) frames).map
          (rawChunks.flatten ++ ·) := by
  induction rawChunks generalizing size with
  | nil => simp [streamBody]
  | cons rawChunk rest induction =>
      rw [List.flatten_cons, List.length_append, ← Nat.add_assoc] at fits
      rcases induction fits with ⟨ended, others⟩
      have within : ¬limits.negotiatedMaxBodySize < size + rawChunk.length := by omega
      rw [streamBody]
      dsimp only
      rw [if_neg within, List.flatten_cons, List.length_append, ← Nat.add_assoc]
      refine ⟨ended, ?_⟩
      rw [List.append_assoc, collected_dataFrames, others, Option.map_map]
      apply congrArg (Option.map · _)
      funext body
      rw [Function.comp_apply, List.append_assoc]

theorem streamBody_error (failure : Option String) (rawChunks : List Bytes) {size : Nat}
    (within : size ≤ limits.negotiatedMaxBodySize)
    (fails : failure ≠ none ∨
      limits.negotiatedMaxBodySize < size + rawChunks.flatten.length) :
    ∃ message, (streamBody limits failure size rawChunks).2 = .error message := by
  induction rawChunks generalizing size with
  | nil =>
      cases failure with
      | some message => exact ⟨message, rfl⟩
      | none =>
          rcases fails with fails | fails
          · exact absurd rfl fails
          · rw [List.flatten_nil, List.length_nil] at fails
            omega
  | cons rawChunk rest induction =>
      rw [List.flatten_cons, List.length_append, ← Nat.add_assoc] at fails
      rw [streamBody]
      dsimp only
      split
      · exact ⟨_, rfl⟩
      · rename_i fits
        exact induction (Nat.not_lt.mp fits) fails

theorem collected_error (failure : Option String) (rawChunks : List Bytes) (size start : Nat)
    (message : String) :
    collected start ((streamBody limits failure size rawChunks).1 ++ [.error message]) =
      none := by
  have isData : ∀ frame ∈ (streamBody limits failure size rawChunks).1,
      ∃ chunk, frame = .data chunk := by
    induction rawChunks generalizing size with
    | nil =>
        intro frame member
        cases failure <;> cases member
    | cons rawChunk rest induction =>
        rw [streamBody]
        dsimp only
        split
        · intro frame member
          cases member
        · intro frame member
          rcases List.mem_append.mp member with first | further
          · rw [dataFrames] at first
            rcases List.mem_map.mp first with ⟨offset, -, rfl⟩
            exact ⟨_, rfl⟩
          · exact induction _ frame further
  generalize (streamBody limits failure size rawChunks).1 = frames at isData
  induction frames generalizing start with
  | nil => rfl
  | cons frame frames induction =>
      rcases isData frame List.mem_cons_self with ⟨chunk, rfl⟩
      rw [List.cons_append, collected]
      split
      · rw [induction _ fun other member => isData other (List.mem_cons_of_mem _ member)]
        rfl
      · rfl

/-- A whole answer within the limit, of the length that it declares if it has a body. -/
def StreamDelivers (relay : Relay) (limits : Limits) (response : UpstreamResponse)
    (expected : Bool) : Prop :=
  response.failure = none ∧
    response.rawChunks.flatten.length ≤ limits.negotiatedMaxBodySize ∧
    (expected = true → ∀ length, relay.contentLength response = some length →
      length = response.rawChunks.flatten.length)

private theorem received_streaming (relay : Relay) (limits : Limits)
    (response : UpstreamResponse) (expected : Bool) :
    (StreamDelivers relay limits response expected →
      received (relay.sendStreamingResponse limits response expected) =
        some response.answer) ∧
    (¬StreamDelivers relay limits response expected →
      received (relay.sendStreamingResponse limits response expected) = none) := by
  constructor
  · rintro ⟨complete, within, declared⟩
    have short : (expected && (relay.contentLength response).any
        ((limits.negotiatedMaxBodySize : Int) < ·)) = false := by
      cases expected with
      | false => rfl
      | true =>
          cases declares : relay.contentLength response with
          | none => rfl
          | some length =>
              obtain rfl := declared rfl length declares
              exact decide_eq_false (Int.not_lt.mpr (Int.ofNat_le.mpr within))
    have last : lastFrame expected (relay.contentLength response)
        (.ok (0 + response.rawChunks.flatten.length)) = .respEnd := by
      rw [lastFrame, Nat.zero_add]
      apply if_neg
      cases expected with
      | false => simp
      | true =>
          cases declares : relay.contentLength response with
          | none => simp
          | some length =>
              obtain rfl := declared rfl length declares
              simp
    rw [← Nat.zero_add response.rawChunks.flatten.length] at within
    rcases collected_streamBody response.rawChunks within [.respEnd] with ⟨ended, body⟩
    rw [sendStreamingResponse]
    dsimp only
    rw [short, complete, ended, last]
    simp only [Bool.false_eq_true, if_false, received, body, collected, Option.map_some,
      List.append_nil]
    rfl
  · intro fails
    rw [sendStreamingResponse]
    dsimp only
    split
    · rfl
    · rename_i short
      simp only [received]
      by_cases whole : response.failure = none ∧
          response.rawChunks.flatten.length ≤ limits.negotiatedMaxBodySize
      · rcases whole with ⟨complete, within⟩
        have fits := within
        rw [← Nat.zero_add response.rawChunks.flatten.length] at fits
        rcases collected_streamBody response.rawChunks fits [] with ⟨ended, -⟩
        have mismatch : ∃ message, lastFrame expected (relay.contentLength response)
            (.ok (0 + response.rawChunks.flatten.length)) = .error message := by
          refine ⟨_, if_pos ?_⟩
          by_contra matching
          apply fails
          refine ⟨complete, within, ?_⟩
          intro isExpected length isLength
          simpa [isExpected, isLength] using matching
        rcases mismatch with ⟨message, isLast⟩
        rw [complete, ended, isLast, collected_error]
        rfl
      · have stops : response.failure ≠ none ∨
            limits.negotiatedMaxBodySize < 0 + response.rawChunks.flatten.length := by
          by_contra both
          apply whole
          constructor
          · by_contra failed
            exact both (.inl failed)
          · by_contra long
            exact both (.inr (by omega))
        rcases streamBody_error response.failure response.rawChunks (Nat.zero_le _) stops
          with ⟨message, ended⟩
        rw [ended, lastFrame, collected_error]
        rfl

theorem received_streaming_iff (relay : Relay) (limits : Limits)
    (response : UpstreamResponse) (expected : Bool) (answer : RelayedAnswer) :
    received (relay.sendStreamingResponse limits response expected) = some answer ↔
      StreamDelivers relay limits response expected ∧ answer = response.answer := by
  rcases received_streaming relay limits response expected with ⟨delivers, fails⟩
  by_cases streams : StreamDelivers relay limits response expected
  · rw [delivers streams, Option.some.injEq]
    exact ⟨fun same => ⟨streams, same.symm⟩, fun both => both.2.symm⟩
  · rw [fails streams]
    exact ⟨fun delivered => absurd delivered.symm (Option.some_ne_none _),
      fun both => absurd both.1 streams⟩

/-! ## One frame -/

theorem received_sendWhole_iff {answer : RelayedAnswer} :
    received (sendWhole limits response) = some answer ↔
      (response.failure = none ∧
        response.rawChunks.flatten.length ≤ responseBodyLimit limits) ∧
      answer = response.answer := by
  rw [sendWhole]
  cases failed : response.failure with
  | some message =>
      constructor
      · intro delivered
        cases delivered
      · intro both
        cases both.1.1
  | none =>
      dsimp only
      split
      · rename_i long
        constructor
        · intro delivered
          cases delivered
        · intro both
          exact absurd both.1.2 (Nat.not_le.mpr long)
      · rename_i fits
        rw [received, Base64.decode_encode, Option.some.injEq]
        exact ⟨fun same => ⟨⟨rfl, Nat.not_lt.mp fits⟩, same.symm⟩, fun both => both.2.symm⟩

/-! ## Both ways -/

/-- The answer is passed on by `build_http_resp_frame`. -/
def SmallDelivers (relay : Relay) (limits : Limits) (method : Text)
    (response : UpstreamResponse) : Prop :=
  response.failure = none ∧
    response.rawChunks.flatten.length ≤ limits.negotiatedMaxBodySize ∧
    ∀ length, relay.contentLength response = some length →
      length ≤ limits.negotiatedMaxBodySize ∧
      ((relay.fastPathBodyBytes : Int) < length →
        bodyExpected method response.statusCode = true →
          length = response.rawChunks.flatten.length)

theorem received_relaySmall_iff (relay : Relay)
    (versionTwo : protocolVersion ≤ limits.negotiatedProtocolVersion) (method : Text)
    (response : UpstreamResponse) (answer : RelayedAnswer) :
    received (relay.relaySmall limits method response) = some answer ↔
      SmallDelivers relay limits method response ∧ answer = response.answer := by
  have limit : responseBodyLimit limits = limits.negotiatedMaxBodySize := if_pos versionTwo
  rw [relaySmall, limit, SmallDelivers]
  cases declares : relay.contentLength response with
  | none =>
      rw [if_neg (by simp), if_pos ⟨versionTwo, rfl⟩, received_streaming_iff, StreamDelivers,
        declares]
      simp
  | some length =>
      by_cases long : (limits.negotiatedMaxBodySize : Int) < length
      · rw [if_pos (by simpa using long)]
        constructor
        · intro delivered
          cases delivered
        · intro both
          exact absurd (both.1.2.2 length rfl).1 (Int.not_le.mpr long)
      · rw [if_neg (by simpa using long)]
        have fits := Int.not_lt.mp long
        by_cases large : (relay.fastPathBodyBytes : Int) < length
        · rw [if_pos ⟨versionTwo, by simpa using large⟩, received_streaming_iff, StreamDelivers,
            declares]
          simp [fits, large]
        · rw [if_neg (fun both => large (by simpa using both.2)), received_sendWhole_iff,
            limit]
          simp [fits, large]

/-- What the two paths make of a `Content-Length` differs: one frame holds a body of any
other length, and the length of a body that is not expected is checked all the same. -/
def Misdeclared (relay : Relay) (limits : Limits) (method : Text)
    (response : UpstreamResponse) : Prop :=
  ∃ length, relay.contentLength response = some length ∧
    if bodyExpected method response.statusCode then
      length ≤ relay.fastPathBodyBytes ∧ length ≤ limits.negotiatedMaxBodySize ∧
        length ≠ response.rawChunks.flatten.length
    else (limits.negotiatedMaxBodySize : Int) < length

theorem streams_iff_small :
    (StreamDelivers relay limits response (bodyExpected method response.statusCode) ↔
        SmallDelivers relay limits method response) ↔
      ¬(response.failure = none ∧
        response.rawChunks.flatten.length ≤ limits.negotiatedMaxBodySize ∧
        Misdeclared relay limits method response) := by
  rw [StreamDelivers, SmallDelivers, Misdeclared]
  by_cases whole : response.failure = none ∧
      response.rawChunks.flatten.length ≤ limits.negotiatedMaxBodySize
  · rcases whole with ⟨complete, within⟩
    cases declares : relay.contentLength response with
    | none => simp
    | some length =>
        cases expected : bodyExpected method response.statusCode with
        | false => simp [complete]
        | true =>
            simp only [complete, within, true_and, Option.some.injEq, forall_eq',
              forall_const, if_true, exists_eq_left']
            have small : (response.rawChunks.flatten.length : Int) ≤
                limits.negotiatedMaxBodySize := Int.ofNat_le.mpr within
            constructor
            · rintro same ⟨fast, fits, different⟩
              exact different (same.mpr ⟨fits, fun large => absurd large (by omega)⟩)
            · intro declared
              constructor
              · rintro rfl
                exact ⟨small, fun _ => rfl⟩
              · rintro ⟨fits, large⟩
                by_contra different
                by_cases fast : length ≤ relay.fastPathBodyBytes
                · exact declared ⟨fast, fits, different⟩
                · exact different (large (by omega))
  · constructor
    · intro _ both
      exact whole ⟨both.1, both.2.1⟩
    · intro _
      exact ⟨fun left => absurd ⟨left.1, left.2.1⟩ whole,
        fun right => absurd ⟨right.1, right.2.1⟩ whole⟩

/-- An answer is passed on either way with its status, its headers and all of its body, or
not at all. Both ways pass on the same answers, unless the declared length misleads one of
them. -/
theorem received_paths {relay : Relay} {limits : Limits}
    (versionTwo : protocolVersion ≤ limits.negotiatedProtocolVersion) (method : Text)
    (response : UpstreamResponse) :
    (∀ answer, received (relay.relaySmall limits method response) = some answer →
      answer = response.answer) ∧
    (∀ answer, received (relay.relayStream limits method response) = some answer →
      answer = response.answer) ∧
    (received (relay.relaySmall limits method response) =
        received (relay.relayStream limits method response) ↔
      ¬(response.failure = none ∧
        response.rawChunks.flatten.length ≤ limits.negotiatedMaxBodySize ∧
        Misdeclared relay limits method response)) := by
  have small := received_relaySmall_iff relay versionTwo method response
  have stream := received_streaming_iff relay limits response
    (bodyExpected method response.statusCode)
  refine ⟨fun answer delivered => ((small answer).mp delivered).2,
    fun answer delivered => ((stream answer).mp delivered).2, ?_⟩
  rw [← streams_iff_small]
  constructor
  · intro same
    have agree := (stream response.answer).symm.trans
      (iff_of_eq (congrArg (· = some response.answer) same.symm)) |>.trans
        (small response.answer)
    simpa using agree
  · intro agree
    apply Option.ext
    intro answer
    exact (small answer).trans ((and_congr_left' agree).symm.trans (stream answer).symm)

/-- An answer of two chunks that declares both of their bytes. -/
theorem received_paths_two_chunks :
    received (headRelay.relaySmall (bodyLimits 2 Nat.two_pos) "GET".toList
        ⟨200, [("Content-Length".toList, ['2'])], [[1], [2]], none⟩) =
      received (headRelay.relayStream (bodyLimits 2 Nat.two_pos) "GET".toList
        ⟨200, [("Content-Length".toList, ['2'])], [[1], [2]], none⟩) := by
  apply (received_paths (by decide) "GET".toList _).2.2.mpr
  rintro ⟨-, -, length, declares, wrong⟩
  have isTwo : headRelay.contentLength
      ⟨200, [("Content-Length".toList, ['2'])], [[1], [2]], none⟩ = some 2 := by decide
  rw [isTwo] at declares
  cases declares
  exact wrong.2.2 rfl

end Relay

end YrSandbox.Tunnel
