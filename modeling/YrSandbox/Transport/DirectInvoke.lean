import Mathlib.Algebra.Group.Int.Defs
import YrSandbox.Python.Clock
import YrSandbox.Python.Json

/-! # Direct invoke and its fallback

`SandboxClient.invoke` and `_invoke_direct`: up to three attempts on the
`/direct` route under one request id, then possibly the same action through the
frontend's `/invoke`. -/

namespace YrSandbox.Transport

open Python

/-! ## Outcomes of one HTTP attempt -/

/-- The subclasses of `httpx.RequestError`. -/
inductive RequestErrorKind
  | connectError
  | connectTimeout
  | poolTimeout
  | readError
  | readTimeout
  | remoteProtocolError
  | writeError
  | writeTimeout
  | closeError
  | localProtocolError
  | proxyError
  | unsupportedProtocol
  | decodingError
  | tooManyRedirects
deriving DecidableEq, Repr

def directSafeFallbackErrors : List RequestErrorKind :=
  [.connectError, .connectTimeout, .poolTimeout]

def directUnknownOutcomeErrors : List RequestErrorKind :=
  [.readError, .readTimeout, .remoteProtocolError, .writeError, .writeTimeout]

def directMaxAttempts : Nat := 3
def directRetryBackoff : Int := 100000000
def directPoolTimeout : Int := seconds 2
def directRouteMissBudget : Nat := 3
def retryableGatewayStatusCodes : List Nat := [502, 503, 504]
def yrGetDefaultTimeout : Int := seconds 300
def yrGetTimeoutBuffer : Int := seconds 30

/-- An HTTP response; `json` is what `resp.json()` returns, or the text of the
`ValueError` it raises. -/
structure Response where
  statusCode : Nat
  text : String
  json : Except String Json

/-- `self._http.post` raises a `RequestError`, whose text is `message`, or
returns a response. -/
inductive DirectOutcome
  | raised (kind : RequestErrorKind) (message : String)
  | responded (response : Response)

/-- `SandboxError`, and its subclass that retains status and body. -/
inductive SandboxError
  | plain (message : String)
  | http (message : String) (statusCode : Nat) (body : Dict)

namespace SandboxError

def message : SandboxError → String
  | .plain message => message
  | .http message _ _ => message

def terminal : SandboxError → Bool
  | .plain _ => false
  | .http _ _ body =>
      (match body.get? "code" with
        | some (.str code) => code == "SANDBOX_EXITED" || code == "SANDBOX_SCHEDULE_FAILED"
        | _ => false) &&
      (match body.get? "retryable" with
        | some (.bool false) => true
        | _ => false)

def fromResponse (response : Response) (message : String) : SandboxError :=
  let body :=
    match response.json with
    | .ok value => value.asDict?.getD []
    | .error _ => []
  .http message response.statusCode body

end SandboxError

/-! ## The direct attempts -/

/-- The fields of `SandboxClient` that `invoke` reads and writes. -/
structure DirectClient where
  directEnabled : Bool
  directDisabled : Bool
  directRouteMisses : Nat
deriving DecidableEq, Repr

def DirectClient.initial : DirectClient where
  directEnabled := true
  directDisabled := false
  directRouteMisses := 0

/-- The server, the network and the clock of one `invoke`. The call looks at the
clock through `_remaining_timeout`; `clock.reading n` is the time at its `n`-th
look, the zeroth being the start. `outcome n` is that of the `n`-th attempt. -/
structure InvokeWorld where
  clock : Clock
  outcome : Nat → DirectOutcome
  fallback : Except SandboxError Dict

structure DirectAttempt where
  timeout : Option Int
  poolTimeout : Int
  outcome : DirectOutcome

/-- The locals of `_invoke_direct`, the requests made so far and the number of
looks at the clock. -/
structure DirectLoop where
  client : DirectClient
  lastError : Option SandboxError
  lastFailureSafe : Bool
  attempts : List DirectAttempt
  looks : Nat

inductive DirectResult
  | returned (result : Dict)
  | fellBack
  | raised (error : SandboxError)

structure DirectRun where
  client : DirectClient
  attempts : List DirectAttempt
  looks : Nat
  result : DirectResult

def remainingTimeout (deadline : Option Int) (now : Int) :
    Option Int :=
  deadline.map fun deadline => max 0 (deadline - now)

/-- `remaining is not None and remaining <= 0` -/
def exhausted (remaining : Option Int) : Bool :=
  remaining.any (· ≤ 0)

inductive AttemptVerdict
  | retry (client : DirectClient) (error : SandboxError) (safe : Bool)
  | leave (client : DirectClient) (result : DirectResult)

/-- The `except` clauses and the `else` branch of one attempt. -/
def judgeAttempt (requestId : String) (client : DirectClient) :
    DirectOutcome → AttemptVerdict
  | .raised kind message =>
      let client := { client with directRouteMisses := 0 }
      if kind ∈ directSafeFallbackErrors then .retry client (.plain message) true
      else if kind ∈ directUnknownOutcomeErrors then .retry client (.plain message) false
      else .leave client (.raised (.plain
        s!"direct invoke outcome is unknown after transport failure (requestId={requestId}): {message}"))
  | .responded response =>
      let httpError := SandboxError.fromResponse response
        s!"direct invoke failed: HTTP {response.statusCode} (requestId={requestId}): {response.text}"
      if 400 ≤ response.statusCode ∧ httpError.terminal then
        .leave client (.raised httpError)
      else if response.statusCode = 404 then
        let misses := client.directRouteMisses + 1
        .leave
          { client with
            directRouteMisses := misses
            directDisabled :=
              client.directDisabled || decide (misses > directRouteMissBudget) }
          .fellBack
      else
        let client := { client with directRouteMisses := 0 }
        if response.statusCode ∈ retryableGatewayStatusCodes then
          .retry client httpError false
        else if 400 ≤ response.statusCode then .leave client (.raised httpError)
        else
          match response.json with
          | .error message =>
              .retry client
                (.plain s!"direct invoke returned invalid JSON: {message}") false
          | .ok value => .leave client (.returned value.asResult)

namespace DirectLoop

def finish (requestId : String) (loop : DirectLoop) : DirectRun :=
  let done (client : DirectClient) (result : DirectResult) : DirectRun :=
    ⟨client, loop.attempts, loop.looks, result⟩
  match loop.lastError with
  | some error =>
      -- No connection was established and no request bytes reached RRT.
      if loop.lastFailureSafe then
        done { loop.client with directDisabled := true } .fellBack
      else
        match error with
        | .http .. => done loop.client (.raised error)
        | .plain detail => done loop.client (.raised (.plain
            s!"direct invoke outcome is unknown after {loop.attempts.length} attempts (requestId={requestId}): {detail}"))
  | none => done loop.client (.raised (.plain
      s!"direct invoke outcome is unknown after {loop.attempts.length} attempts (requestId={requestId}): invoke deadline exhausted"))

/-- `for attempt in range(1, _DIRECT_MAX_ATTEMPTS + 1)` with `left` attempts
left. -/
def iterate (world : InvokeWorld) (requestId : String) (deadline : Option Int) :
    Nat → DirectLoop → DirectRun
  | 0, loop => loop.finish requestId
  | left + 1, loop =>
      let remaining := remainingTimeout deadline (world.clock.reading loop.looks)
      let loop := { loop with looks := loop.looks + 1 }
      if exhausted remaining then loop.finish requestId
      else
        let attempt := loop.attempts.length + 1
        let outcome := world.outcome attempt
        let attempts := loop.attempts ++ [{
          timeout := remaining
          poolTimeout := remaining.elim directPoolTimeout (min directPoolTimeout)
          outcome }]
        match judgeAttempt requestId loop.client outcome with
        | .leave client result => ⟨client, attempts, loop.looks, result⟩
        | .retry client error safe =>
            let loop : DirectLoop := ⟨client, some error, safe, attempts, loop.looks⟩
            if left = 0 then loop.finish requestId
            else
              let remaining := remainingTimeout deadline (world.clock.reading loop.looks)
              let loop := { loop with looks := loop.looks + 1 }
              let backoff := directRetryBackoff * 2 ^ (attempt - 1)
              let backoff := remaining.elim backoff fun remaining =>
                min backoff (max 0 remaining)
              if backoff ≤ 0 then loop.finish requestId
              else iterate world requestId deadline left loop

end DirectLoop

/-! ## One logical action -/

structure InvokeRun where
  client : DirectClient
  directAttempts : List DirectAttempt
  fallbackSent : Bool
  result : Except SandboxError Dict

def rpcTimeout : Option Int → Option Int
  | none => some yrGetDefaultTimeout
  | some timeout =>
      if timeout < 0 then none
      else some (max (seconds timeout + yrGetTimeoutBuffer) yrGetDefaultTimeout)

def invokeDeadline (world : InvokeWorld) (timeout : Option Int) : Option Int :=
  (rpcTimeout timeout).map (world.clock.reading 0 + ·)

def invokeDirect (world : InvokeWorld) (requestId : String)
    (deadline : Option Int) (client : DirectClient) : DirectRun :=
  DirectLoop.iterate world requestId deadline directMaxAttempts
    ⟨client, none, false, [], 1⟩

/-- The tail of `invoke`: the frontend's own route, if the deadline allows. -/
def invokeFallback (world : InvokeWorld) (requestId : String)
    (deadline : Option Int) (client : DirectClient)
    (attempts : List DirectAttempt) (looks : Nat) : InvokeRun :=
  if exhausted (remainingTimeout deadline (world.clock.reading looks)) then
    ⟨client, attempts, false, .error (.plain
      s!"invoke deadline exhausted before frontend fallback (requestId={requestId})")⟩
  else ⟨client, attempts, true, world.fallback⟩

/-- `if not fell_back: return result`, or on to the fallback. -/
def afterDirect (world : InvokeWorld) (requestId : String) (deadline : Option Int)
    (run : DirectRun) : InvokeRun :=
  match run.result with
  | .returned result => ⟨run.client, run.attempts, false, .ok result⟩
  | .raised error => ⟨run.client, run.attempts, false, .error error⟩
  | .fellBack => invokeFallback world requestId deadline run.client run.attempts run.looks

def invoke (world : InvokeWorld) (requestId : String) (timeout : Option Int)
    (client : DirectClient) : InvokeRun :=
  let deadline := invokeDeadline world timeout
  if client.directEnabled && !client.directDisabled then
    afterDirect world requestId deadline (invokeDirect world requestId deadline client)
  else invokeFallback world requestId deadline client [] 1

end YrSandbox.Transport
