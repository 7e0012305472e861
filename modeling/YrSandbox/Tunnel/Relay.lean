import YrSandbox.Python.Base64
import YrSandbox.Tunnel.RequestHeaders
import YrSandbox.Tunnel.UpstreamTarget

/-! # Relayed requests

What `build_http_resp_frame` and `stream_http_response` make of the upstream's answer.
Both end in `send_streaming_response` for answers that are not small; what may happen
between its frames is the subject of the model of one response stream. -/

namespace YrSandbox.Tunnel

open Python

/-! ## Requests and answers -/

structure UpstreamRequest where
  method : Text
  url : Text
  headers : List Header
  content : Bytes
deriving DecidableEq, Repr

/-- An answer of the upstream; `rawChunks` is what `aiter_raw` yields before it ends or
raises what has the text `failure`. -/
structure UpstreamResponse where
  statusCode : Nat
  headers : List Header
  rawChunks : List Bytes
  failure : Option String
deriving DecidableEq, Repr

inductive RelayFrame
  | respBegin (status : Nat) (headers : List Header) (contentLength : Option Int)
  | data (chunk : Chunk UInt8)
  | respEnd
  | resp (status : Nat) (headers : List Header) (body : Text)
  | error (message : String)
deriving DecidableEq, Repr

structure Relayed where
  request : Option UpstreamRequest
  frames : List RelayFrame
deriving DecidableEq, Repr

/-- The fields of an `http_req` or `http_req_begin` frame that its handler reads, the
first two of them text. -/
structure RequestFrame where
  method : Text
  path : Text
  headers : Json
  body : Json

/-- The client as its handlers see it: `lower` is `str.lower`, `upstream` its setting, and
`answer` opens a request there, or raises what has the text. -/
structure Relay where
  lower : Text → Text
  checks : HostChecks
  builtins : Builtins
  upstream : Text
  fastPathBodyBytes : Nat
  answer : UpstreamRequest → Except String UpstreamResponse

def HeaderError.message : HeaderError → String
  | valueError message | typeError message | attributeError message => message

def bodyTooLong : String := "response body exceeds tunnel limit"

namespace Relay

/-! ## The request -/

/-- `base64.b64decode(body_b64) if body_b64 else b""` -/
def requestBody (body : Json) : Except String Bytes :=
  if body.truthy then
    match body with
    | .str text => Base64.decode false text.toList
    | value =>
        .error ("argument should be a bytes-like object or ASCII string, not " ++
          s!"'{value.typeName}'")
  else .ok []

def opened (url : Except Text Text) : Except String Text :=
  match url with
  | .ok url => .ok url
  | .error message => .error (String.ofList message)

def taken (headers : Except HeaderError (List Header)) : Except String (List Header) :=
  match headers with
  | .ok headers => .ok headers
  | .error error => .error error.message

/-- The request of `build_http_resp_frame`. -/
def smallRequest (relay : Relay) (frame : RequestFrame) :
    Except String UpstreamRequest := do
  let headers ← taken (headersForRebuiltRequest relay.lower frame.headers)
  let content ← requestBody frame.body
  let url ← opened (httpTarget relay.checks relay.upstream frame.path)
  return ⟨frame.method, url, headers, content⟩

/-- The request of `stream_http_response`, for which `request_content` yields
`content`. -/
def streamRequest (relay : Relay) (frame : RequestFrame) (contentLength : Option Nat)
    (content : Bytes) : Except String UpstreamRequest := do
  let headers ← taken (streamRequestHeaders relay.lower contentLength frame.headers)
  let url ← opened (httpTarget relay.checks relay.upstream frame.path)
  return ⟨frame.method, url, headers, content⟩

/-! ## The answer -/

/-- The content length of `response_metadata`: that of the first such header, if it is an
integer. -/
def contentLength (relay : Relay) (response : UpstreamResponse) : Option Int :=
  (response.headers.find? fun header =>
    relay.lower header.1 = "content-length".toList).bind fun header =>
      relay.builtins.intOfStr (String.ofList header.2)

/-- `body_expected`. No letter but `h`, `e`, `a` and `d` has one of `HEAD` as its upper
case. -/
def bodyExpected (method : Text) (status : Nat) : Bool :=
  decide (method.map Char.toUpper ≠ "HEAD".toList) &&
    !(decide (100 ≤ status ∧ status < 200) || [204, 304].contains status)

/-- The data frames of one raw chunk, which goes on at `start`. -/
def dataFrames (limits : Limits) (start : Nat) (rawChunk : Bytes) : List RelayFrame :=
  (offsets limits.negotiatedStreamChunk rawChunk.length).map fun offset =>
    .data ⟨start + offset, slice rawChunk offset limits.negotiatedStreamChunk⟩

/-- The loop over `aiter_raw`: what it sends, and the size it ends with or the text of what
it raises. -/
def streamBody (limits : Limits) (failure : Option String) :
    Nat → List Bytes → List RelayFrame × Except String Nat
  | size, [] =>
      match failure with
      | none => ([], .ok size)
      | some message => ([], .error message)
  | size, rawChunk :: rest =>
      let responseSize := size + rawChunk.length
      if limits.negotiatedMaxBodySize < responseSize then ([], .error bodyTooLong)
      else
        let (frames, ended) := streamBody limits failure responseSize rest
        (dataFrames limits size rawChunk ++ frames, ended)

def lastFrame (expected : Bool) (contentLength : Option Int) :
    Except String Nat → RelayFrame
  | .error message => .error message
  | .ok responseSize =>
      if expected && contentLength.any (· ≠ (responseSize : Int)) then
        .error "response content length mismatch"
      else .respEnd

/-- `send_streaming_response`, and the error frame for what it raises. -/
def sendStreamingResponse (relay : Relay) (limits : Limits) (response : UpstreamResponse)
    (expected : Bool) : List RelayFrame :=
  let contentLength := relay.contentLength response
  if expected && contentLength.any ((limits.negotiatedMaxBodySize : Int) < ·) then
    [.error bodyTooLong]
  else
    let (frames, ended) := streamBody limits response.failure 0 response.rawChunks
    .respBegin response.statusCode response.headers contentLength ::
      (frames ++ [lastFrame expected contentLength ended])

def responseBodyLimit (limits : Limits) : Nat :=
  if protocolVersion ≤ limits.negotiatedProtocolVersion then limits.negotiatedMaxBodySize
  else min limits.negotiatedMaxBodySize maxV1BodyBytes

def sendWhole (limits : Limits) (response : UpstreamResponse) : List RelayFrame :=
  match response.failure with
  | some message => [.error message]
  | none =>
      let rawBody := response.rawChunks.flatten
      if responseBodyLimit limits < rawBody.length then [.error bodyTooLong]
      else [.resp response.statusCode response.headers (Base64.encode rawBody)]

/-- `build_http_resp_frame`, once the upstream has answered. -/
def relaySmall (relay : Relay) (limits : Limits) (method : Text)
    (response : UpstreamResponse) : List RelayFrame :=
  let contentLength := relay.contentLength response
  if contentLength.any ((responseBodyLimit limits : Int) < ·) then
    [.error "response body requires tunnel protocol V2"]
  else if protocolVersion ≤ limits.negotiatedProtocolVersion ∧
      contentLength.all ((relay.fastPathBodyBytes : Int) < ·) = true then
    relay.sendStreamingResponse limits response (bodyExpected method response.statusCode)
  else sendWhole limits response

/-- `stream_http_response`, once the upstream has answered. -/
def relayStream (relay : Relay) (limits : Limits) (method : Text)
    (response : UpstreamResponse) : List RelayFrame :=
  relay.sendStreamingResponse limits response (bodyExpected method response.statusCode)

/-! ## The handlers -/

def passOn (relay : Relay) (request : Except String UpstreamRequest)
    (relayAnswer : UpstreamResponse → List RelayFrame) : Relayed :=
  match request with
  | .error message => ⟨none, [.error message]⟩
  | .ok request =>
      match relay.answer request with
      | .error message => ⟨some request, [.error message]⟩
      | .ok response => ⟨some request, relayAnswer response⟩

def buildHttpRespFrame (relay : Relay) (limits : Limits) (frame : RequestFrame) :
    Relayed :=
  relay.passOn (relay.smallRequest frame) (relay.relaySmall limits frame.method)

/-- `stream_http_response`, which has yielded `content` to the upstream. -/
def streamHttpResponse (relay : Relay) (limits : Limits) (frame : RequestFrame)
    (contentLength : Option Nat) (content : Bytes) : Relayed :=
  relay.passOn (relay.streamRequest frame contentLength content)
    (relay.relayStream limits frame.method)

end Relay

end YrSandbox.Tunnel
