import YrSandbox.Python.Json
import YrSandbox.Python.Url
import YrSandbox.Transport.ResponseJson

/-! # The event stream of a create

One attempt of `create_info`: the answer is a stream of events, of which all but the one
with the result only keep the connection alive. -/

namespace YrSandbox.Transport

open Python

/-- What an attempt raises. The first two are `SandboxError`s. -/
inductive CreateError
  | sandbox (error : SandboxError)
  | retryableStatus (message : String)
  | request (kind : RequestErrorKind) (message : String)
  | valueError (message : String)
  | attributeError (message : String)
  | recursionError

namespace CreateError

def isSandboxError : CreateError → Bool
  | .sandbox _ | .retryableStatus _ => true
  | .request _ _ | .valueError _ | .attributeError _ | .recursionError => false

/-- What `_json` raises, the attempt raises. -/
def ofJson : JsonError → CreateError
  | .sandbox error => .sandbox error
  | .attributeError message => .attributeError message
  | .recursionError => .recursionError

end CreateError

namespace CreateStream

/-! ## The line loop -/

/-- The locals of the loop, `event` and `data_lines`. -/
structure Block where
  event : Text
  dataLines : List Text
deriving DecidableEq, Repr

/-- What one line does: the loop goes on, or is left with the data of a final event. -/
inductive Turn
  | goOn (block : Block)
  | final (dataLines : List Text)

namespace Block

def start : Block := ⟨[], []⟩

def isFinal (block : Block) : Bool :=
  block.event == "final".toList && !block.dataLines.isEmpty

def take (line : Text) (block : Block) : Block :=
  if ":".toList.isPrefixOf line then block
  else if "event:".toList.isPrefixOf line then { block with event := strip (line.drop 6) }
  else if "data:".toList.isPrefixOf line then
    { block with dataLines := block.dataLines ++ [lstrip isSpace (line.drop 5)] }
  else block

def turn (line : Text) (block : Block) : Turn :=
  if line = [] then if block.isFinal then .final block.dataLines else .goOn start
  else .goOn (block.take line)

end Block

/-- `for line in resp.iter_lines()` -/
def readLines : Block → List Text → Option (List Text)
  | _, [] => none
  | block, line :: rest =>
      match block.turn line with
      | .goOn next => readLines next rest
      | .final dataLines => some dataLines

/-! ## The result -/

/-- `json.loads`, the built-in conversions and the id of the request. -/
structure Reader where
  loads : Text → Except LoadsError Json
  builtins : Builtins
  requestId : String

def joined (dataLines : List Text) : Text := ['\n'].intercalate dataLines

def decodeFinal (reader : Reader) (dataLines : List Text) : Except CreateError Dict :=
  match reader.loads (joined dataLines) with
  | .ok (.object final) => .ok final
  | .ok _ =>
      .error (.sandbox (.plain "sandbox create final event must contain a JSON object"))
  | .error (.decodeError message) =>
      .error (.sandbox (.plain s!"invalid sandbox create final event: {message}"))
  | .error (.valueError message) => .error (.valueError message)
  | .error .recursionError => .error .recursionError

/-- `final.get(key) or default`, as it is formatted. -/
def orDefault (reader : Reader) (final : Dict) (key default : String) : String :=
  match final.get? key with
  | some value => if value.truthy then value.toStr reader.builtins else default
  | none => default

def notRunning (reader : Reader) (final : Dict) : String :=
  let status := orDefault reader final "status" "unknown"
  let code := ((final.get? "errorCode").getD .null).toStr reader.builtins
  let message := orDefault reader final "message" "sandbox did not reach running state"
  let responseRequestId := orDefault reader final "requestId" reader.requestId
  let sandboxId := orDefault reader final "sandboxId"
    (orDefault reader final "instanceId" "unknown")
  s!"sandbox create {status} (errorCode={code}, requestId={responseRequestId}, " ++
    s!"sandboxId={sandboxId}): {message}"

def isRunning (final : Dict) : Bool :=
  match final.get? "status" with
  | some (.str status) => status == "running"
  | _ => false

def finish (reader : Reader) : Option (List Text) → Except CreateError Dict
  | none => .error (.sandbox (.plain "sandbox create stream ended before final event"))
  | some dataLines => do
      let final ← decodeFinal reader dataLines
      if isRunning final then .ok final
      else .error (.sandbox (.plain (notRunning reader final)))

end CreateStream

/-- The answer to one attempt; `json` is what `_json` makes of it, where it is no
stream. -/
structure CreateResponse where
  statusCode : Nat
  contentType : Text
  text : String
  json : Except JsonError Dict
  lines : List Text

/-- `_create_info_attempt`, once there is an answer. -/
def createInfoAttempt (reader : CreateStream.Reader) (response : CreateResponse) :
    Except CreateError Dict :=
  if response.statusCode ∈ retryableGatewayStatusCodes then
    .error (.retryableStatus s!"HTTP {response.statusCode}: {response.text}")
  else if
      occursIn "text/event-stream".toList (asciiLower response.contentType) = false then
    response.json.mapError .ofJson
  else if 400 ≤ response.statusCode then
    .error (.sandbox (.plain s!"HTTP {response.statusCode}: {response.text}"))
  else CreateStream.finish reader (CreateStream.readLines .start response.lines)

structure EventStream extends CreateResponse where
  success : statusCode < 400
  isStream : occursIn "text/event-stream".toList (asciiLower contentType) = true

theorem createInfoAttempt_eventStream (reader : CreateStream.Reader)
    (stream : EventStream) :
    createInfoAttempt reader stream.toCreateResponse =
      CreateStream.finish reader (CreateStream.readLines .start stream.lines) := by
  have success := stream.success
  have notRetryable : stream.statusCode ∉ retryableGatewayStatusCodes := by
    simp only [retryableGatewayStatusCodes, List.mem_cons, List.not_mem_nil, or_false]
    omega
  rw [createInfoAttempt, if_neg notRetryable, stream.isStream, if_neg (by decide),
    if_neg (Nat.not_le.mpr success)]

end YrSandbox.Transport
