import YrSandbox.Tunnel.Relay

/-! # Answers without a body

The answer to a `HEAD` request declares the length of a body that does not come. The
streamed path knows this; `build_http_resp_frame` holds the length against its limit before
it asks whether there is a body. -/

namespace YrSandbox.Tunnel

open Python

structure UpstreamResponse.Bodiless (response : UpstreamResponse) (method : Text) :
    Prop where
  unexpected : Relay.bodyExpected method response.statusCode = false
  empty : ∀ rawChunk ∈ response.rawChunks, rawChunk = []
  complete : response.failure = none

def UpstreamResponse.RelayedBy (response : UpstreamResponse) (frames : List RelayFrame) :
    Prop :=
  frames = [.resp response.statusCode response.headers []] ∨
    ∃ contentLength,
      frames = [.respBegin response.statusCode response.headers contentLength, .respEnd]

namespace Relay

variable {relay : Relay} {limits : Limits} {method : Text} {response : UpstreamResponse}

theorem streamBody_empty {rawChunks : List Bytes}
    (empty : ∀ rawChunk ∈ rawChunks, rawChunk = []) :
    streamBody limits none 0 rawChunks = ([], .ok 0) := by
  induction rawChunks with
  | nil => rfl
  | cons rawChunk rest induction =>
      obtain rfl := empty rawChunk List.mem_cons_self
      have others := induction fun other member =>
        empty other (List.mem_cons_of_mem _ member)
      rw [streamBody]
      simp only [List.length_nil, Nat.add_zero, Nat.not_lt_zero, if_false, others]
      rfl

theorem relayStream_bodiless (bodiless : response.Bodiless method) :
    relay.relayStream limits method response =
      [.respBegin response.statusCode response.headers (relay.contentLength response),
        .respEnd] := by
  rw [relayStream, sendStreamingResponse, bodiless.unexpected, bodiless.complete,
    streamBody_empty bodiless.empty]
  rfl

theorem sendWhole_bodiless (bodiless : response.Bodiless method) :
    sendWhole limits response = [.resp response.statusCode response.headers []] := by
  have none : response.rawChunks.flatten = [] := List.flatten_eq_nil_iff.mpr bodiless.empty
  rw [sendWhole, bodiless.complete]
  simp only [none, List.length_nil, Nat.not_lt_zero, if_false]
  rfl

theorem not_relayedBy_error (message : String) : ¬response.RelayedBy [.error message] := by
  rintro (whole | ⟨contentLength, streamed⟩)
  · cases whole
  · cases streamed

theorem relaySmall_bodiless_iff (bodiless : response.Bodiless method) :
    response.RelayedBy (relay.relaySmall limits method response) ↔
      ∀ length ∈ relay.contentLength response, length ≤ responseBodyLimit limits := by
  have exceeds : (relay.contentLength response).any
      ((responseBodyLimit limits : Int) < ·) = true ↔
        ¬∀ length ∈ relay.contentLength response, length ≤ responseBodyLimit limits := by
    cases relay.contentLength response <;> simp
  rw [relaySmall]
  by_cases within : ∀ length ∈ relay.contentLength response,
      length ≤ responseBodyLimit limits
  · rw [if_neg (fun tooLong => exceeds.mp tooLong within)]
    apply iff_of_true _ within
    split
    · exact .inr ⟨_, relayStream_bodiless bodiless⟩
    · exact .inl (sendWhole_bodiless bodiless)
  · rw [if_pos (exceeds.mpr within)]
    exact iff_of_false (not_relayedBy_error _) within

/-- Both handlers relay an answer without a body that the upstream gives, the one for
`http_req` exactly if its declared length is within the limit. -/
theorem relays_bodiless_iff {relay : Relay} {limits : Limits} {frame : RequestFrame}
    {response : UpstreamResponse} (bodiless : response.Bodiless frame.method) :
    (∀ request, relay.smallRequest frame = .ok request →
      relay.answer request = .ok response →
      (response.RelayedBy (relay.buildHttpRespFrame limits frame).frames ↔
        ∀ length ∈ relay.contentLength response, length ≤ responseBodyLimit limits)) ∧
    ∀ contentLength content request,
      relay.streamRequest frame contentLength content = .ok request →
      relay.answer request = .ok response →
      response.RelayedBy
        (relay.streamHttpResponse limits frame contentLength content).frames := by
  constructor
  · intro request built answered
    rw [buildHttpRespFrame, built, passOn]
    simp only [answered]
    exact relaySmall_bodiless_iff bodiless
  · intro contentLength content request built answered
    rw [streamHttpResponse, built, passOn]
    simp only [answered]
    exact .inr ⟨_, relayStream_bodiless bodiless⟩

/-! ### An answer to `HEAD` -/

/-- `int` of a decimal number without a sign -/
def decimal (text : String) : Option Int :=
  if text.toList.all Char.isDigit && !text.toList.isEmpty then
    some (text.toList.foldl (fun value char => 10 * value + (char.toNat - 48 : Nat)) 0)
  else none

def headAnswer : UpstreamResponse :=
  ⟨200, [("content-length".toList, "2".toList)], [], none⟩

def headFrame : RequestFrame := ⟨"HEAD".toList, "/".toList, .array [], .str ""⟩

def headRelay : Relay where
  lower := List.map Char.toLower
  checks := nameChecks
  builtins := ⟨decimal, fun _ => none, fun _ => ""⟩
  upstream := "127.0.0.1:8000".toList
  fastPathBodyBytes := 65536
  answer _ := .ok headAnswer

/-- The peer has negotiated a body of `length` bytes at most. -/
def bodyLimits (length : Nat) (positive : 0 < length) : Limits :=
  { Limits.withWindow 4 fourFrames with
    negotiatedMaxBodySize := length, bodyPositive := positive }

/-- It is relayed on both paths where two bytes are allowed. -/
theorem relays_bodiless_iff_two_bytes :
    headAnswer.RelayedBy (headRelay.buildHttpRespFrame (bodyLimits 2 Nat.two_pos)
        headFrame).frames ∧
      headAnswer.RelayedBy (headRelay.streamHttpResponse (bodyLimits 2 Nat.two_pos)
        headFrame none []).frames :=
  have bodiless : headAnswer.Bodiless headFrame.method := ⟨by decide, by decide, rfl⟩
  have both := @relays_bodiless_iff headRelay (bodyLimits 2 Nat.two_pos) headFrame
    headAnswer bodiless
  ⟨(both.1 _ rfl rfl).mpr (by decide), both.2 none [] _ rfl rfl⟩

/-- Where one byte is allowed, the head of two bytes is an error on the path of
`http_req`. -/
theorem head_answer_refused :
    ¬∀ (relay : Relay) (limits : Limits) (frame : RequestFrame)
        (response : UpstreamResponse) (request : UpstreamRequest),
      response.Bodiless frame.method → relay.smallRequest frame = .ok request →
      relay.answer request = .ok response →
      response.RelayedBy (relay.buildHttpRespFrame limits frame).frames := by
  intro claim
  have relayed := claim headRelay (bodyLimits 1 Nat.one_pos) headFrame headAnswer _
    ⟨by decide, by decide, rfl⟩ rfl rfl
  exact not_relayedBy_error _ relayed

end Relay

end YrSandbox.Tunnel
