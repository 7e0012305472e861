import YrSandbox.Python.Base64
import YrSandbox.Transport.DirectInvoke

/-! # The JSON of a response

`SandboxClient._json`: the body of a response is an envelope, whose data are JSON in
base64. -/

namespace YrSandbox.Transport

open Python

inductive JsonError
  | sandbox (error : SandboxError)
  | attributeError (message : String)
  | recursionError

/-- `json.loads` of bytes, and the built-in conversions. -/
structure JsonReader where
  loads : Bytes → Except LoadsError Json
  builtins : Builtins

structure ReceivedResponse where
  statusCode : Nat
  text : String
  content : Bytes

/-- `resp.json()`. A `ValueError` is caught by whoever calls it, a `RecursionError` is
not. -/
def ReceivedResponse.read (reader : JsonReader) (response : ReceivedResponse) :
    Except JsonError Response :=
  match reader.loads response.content with
  | .ok value => .ok ⟨response.statusCode, response.text, .ok value⟩
  | .error (.decodeError message) | .error (.valueError message) =>
      .ok ⟨response.statusCode, response.text, .error message⟩
  | .error .recursionError => .error .recursionError

namespace Envelope

def errorCodes : List String :=
  ["SANDBOX_EXITED", "SANDBOX_SCHEDULE_FAILED", "SANDBOX_RECOVERING"]

def codeError (reader : JsonReader) (statusCode : Nat) (envelope : Dict) :
    Option SandboxError :=
  let message := ((envelope.get? "message").getD (.str "")).toStr reader.builtins
  match (envelope.get? "code").getD (.int statusCode) with
  | .str code =>
      if code ∈ errorCodes then some (.http s!"{code}: {message}" statusCode envelope)
      else none
  | .int code =>
      if 400 ≤ code then some (.http s!"code {code}: {message}" code.toNat envelope)
      else none
  -- `True` is an integer, but a small one.
  | .null | .bool _ | .float _ | .array _ | .object _ => none

def isAbsent : Json → Bool
  | .null => true
  | .str data => data == ""
  | .bool _ | .int _ | .float _ | .array _ | .object _ => false

def undecodable (message : String) : JsonError :=
  .sandbox (.plain s!"failed to decode response data: {message}")

/-- What `data` are, where they are not absent. -/
def decodeData (reader : JsonReader) : Json → Except JsonError Json
  | .str data =>
      match Base64.decode false data.toList with
      | .error message => .error (undecodable message)
      | .ok decoded =>
          match reader.loads decoded with
          | .ok parsed => .ok parsed
          | .error (.decodeError message) | .error (.valueError message) =>
              .error (undecodable message)
          | .error .recursionError => .error .recursionError
  | raw => .ok raw

/-- `_json`, once there is an envelope. -/
def unwrap (reader : JsonReader) (statusCode : Nat) (envelope : Dict) :
    Except JsonError Dict :=
  match codeError reader statusCode envelope with
  | some error => .error (.sandbox error)
  | none =>
      let raw := (envelope.get? "data").getD .null
      if isAbsent raw then .ok [] else (decodeData reader raw).map Json.asResult

end Envelope

/-- `_json`, once `resp.json()` has returned or raised a `ValueError`. -/
def Response.unwrap (reader : JsonReader) (response : Response) : Except JsonError Dict :=
  if 400 ≤ response.statusCode then
    .error (.sandbox (.fromResponse response
      s!"HTTP {response.statusCode}: {response.text}"))
  else
    match response.json with
    | .error _ => .ok []
    | .ok (.object envelope) => Envelope.unwrap reader response.statusCode envelope
    | .ok value =>
        .error (.attributeError s!"'{value.typeName}' object has no attribute 'get'")

def ReceivedResponse.json (reader : JsonReader) (response : ReceivedResponse) :
    Except JsonError Dict := do
  let read ← response.read reader
  read.unwrap reader

def ReceivedResponse.judge (reader : JsonReader) (requestId : String)
    (client : DirectClient) (response : ReceivedResponse) :
    Except JsonError AttemptVerdict :=
  (response.read reader).map fun read => judgeAttempt requestId client (.responded read)

/-! ## What the callers catch -/

def Expected : Except JsonError α → Prop
  | .ok _ | .error (.sandbox _) => True
  | .error (.attributeError _) | .error .recursionError => False

@[simp] theorem expected_ok (result : α) : Expected (.ok result) := trivial

@[simp] theorem expected_sandbox (error : SandboxError) :
    Expected (.error (.sandbox error) : Except JsonError α) := trivial

@[simp] theorem expected_map {change : α → β} {result : Except JsonError α} :
    Expected (result.map change) ↔ Expected result := by
  cases result with
  | ok value => exact Iff.rfl
  | error error => cases error <;> exact Iff.rfl

def Envelope.Nests (reader : JsonReader) (envelope : Dict) : Prop :=
  ∀ data decoded, envelope.get? "data" = some (.str data) → data ≠ "" →
    Base64.decode false data.toList = .ok decoded →
      reader.loads decoded ≠ .error .recursionError

/-- The body is not nested too deeply. If it is JSON and the status no error, it is an
object, and so nest its data if they are looked at. -/
structure Unwrappable (reader : JsonReader) (response : ReceivedResponse) : Prop where
  nests : reader.loads response.content ≠ .error .recursionError
  isObject : response.statusCode < 400 → ∀ value,
    reader.loads response.content = .ok value → ∃ envelope, value = .object envelope
  dataNest : response.statusCode < 400 → ∀ envelope,
    reader.loads response.content = .ok (.object envelope) →
      Envelope.codeError reader response.statusCode envelope = none →
        Envelope.Nests reader envelope

variable {reader : JsonReader}

namespace Envelope

theorem decodeData_str_expected_iff (data : String) :
    Expected (decodeData reader (.str data)) ↔
      ∀ decoded, Base64.decode false data.toList = .ok decoded →
        reader.loads decoded ≠ .error .recursionError := by
  rw [decodeData]
  cases Base64.decode false data.toList with
  | error message => simp [undecodable]
  | ok decoded =>
      cases loaded : reader.loads decoded with
      | ok parsed => simp [loaded]
      | error error => cases error <;> simp [loaded, undecodable, Expected]

theorem nests_str {envelope : Dict} {data : String}
    (isData : envelope.get? "data" = some (.str data)) :
    Nests reader envelope ↔ (data ≠ "" →
      ∀ decoded, Base64.decode false data.toList = .ok decoded →
        reader.loads decoded ≠ .error .recursionError) := by
  constructor
  · intro nests notEmpty decoded
    exact nests data decoded isData notEmpty
  · intro nests other decoded isOther notEmpty
    cases isData.symm.trans isOther
    exact nests notEmpty decoded

theorem nests_of_other {envelope : Dict}
    (notStr : ∀ data, envelope.get? "data" ≠ some (.str data)) :
    Nests reader envelope := by
  intro data decoded isData
  exact absurd isData (notStr data)

theorem data_expected_iff (envelope : Dict) :
    Expected (if isAbsent ((envelope.get? "data").getD .null) then .ok []
      else (decodeData reader ((envelope.get? "data").getD .null)).map Json.asResult) ↔
        Nests reader envelope := by
  cases isData : envelope.get? "data" with
  | none => simpa [isAbsent] using nests_of_other (by simp [isData])
  | some raw =>
      cases raw with
      | str data =>
          rw [nests_str isData]
          by_cases empty : data = ""
          · simp [isAbsent, empty]
          · simp [isAbsent, empty, decodeData_str_expected_iff]
      | null | bool _ | int _ | float _ | array _ | object _ =>
          simpa [isAbsent, decodeData] using nests_of_other (by simp [isData])

theorem unwrap_expected_iff (statusCode : Nat) (envelope : Dict) :
    Expected (unwrap reader statusCode envelope) ↔
      (codeError reader statusCode envelope = none → Nests reader envelope) := by
  rw [unwrap]
  cases codeError reader statusCode envelope with
  | some error => simp
  | none =>
      rw [eq_self, true_imp_iff]
      exact data_expected_iff envelope

end Envelope

namespace ReceivedResponse

variable {response : ReceivedResponse}

theorem json_of_loads {value : Json}
    (loaded : reader.loads response.content = .ok value) :
    response.json reader =
      Response.unwrap reader ⟨response.statusCode, response.text, .ok value⟩ := by
  rw [json, read, loaded]
  rfl

theorem json_of_refused {error : LoadsError}
    (refused : reader.loads response.content = .error error)
    (caught : error ≠ .recursionError) :
    ∃ message, response.json reader =
      Response.unwrap reader ⟨response.statusCode, response.text, .error message⟩ := by
  rw [json, read, refused]
  cases error with
  | decodeError message | valueError message => exact ⟨message, rfl⟩
  | recursionError => exact absurd rfl caught

theorem unwrappable_object {envelope : Dict} (success : response.statusCode < 400)
    (loaded : reader.loads response.content = .ok (.object envelope)) :
    Unwrappable reader response ↔
      (Envelope.codeError reader response.statusCode envelope = none →
        Envelope.Nests reader envelope) := by
  constructor
  · intro unwrappable
    exact unwrappable.dataNest success envelope loaded
  · intro nests
    refine ⟨by simp [loaded], ?_, ?_⟩
    · intro _ value isValue
      cases loaded.symm.trans isValue
      exact ⟨envelope, rfl⟩
    · intro _ other isOther
      cases loaded.symm.trans isOther
      exact nests

theorem json_expected_iff (reader : JsonReader) (response : ReceivedResponse) :
    Expected (response.json reader) ↔ Unwrappable reader response := by
  cases loaded : reader.loads response.content with
  | error error =>
      by_cases caught : error = .recursionError
      · subst caught
        apply iff_of_false
        · rw [json, read, loaded]
          exact id
        · intro unwrappable
          exact unwrappable.nests loaded
      · apply iff_of_true
        · rcases json_of_refused loaded caught with ⟨message, isUnwrap⟩
          rw [isUnwrap, Response.unwrap]
          split
          · exact expected_sandbox _
          · exact expected_ok _
        · exact ⟨by simpa [loaded] using caught, by simp [loaded], by simp [loaded]⟩
  | ok value =>
      have nests : reader.loads response.content ≠ .error .recursionError := by
        simp [loaded]
      rw [json_of_loads loaded, Response.unwrap]
      by_cases failed : 400 ≤ response.statusCode
      · rw [if_pos failed]
        have notSuccess : ¬response.statusCode < 400 := Nat.not_lt.mpr failed
        exact iff_of_true (expected_sandbox _)
          ⟨nests, fun success => absurd success notSuccess,
            fun success => absurd success notSuccess⟩
      · rw [if_neg failed]
        have success : response.statusCode < 400 := Nat.not_le.mp failed
        cases value with
        | object envelope =>
            rw [unwrappable_object success loaded]
            exact Envelope.unwrap_expected_iff response.statusCode envelope
        | null | bool _ | int _ | float _ | str _ | array _ =>
            apply iff_of_false id
            intro unwrappable
            rcases unwrappable.isObject success _ loaded with ⟨envelope, same⟩
            cases same

end ReceivedResponse

/-! ## Values on both routes -/

/-- `written` is JSON of the value: `json.loads` returns no other. -/
structure WrittenAs (reader : JsonReader) (value : Json) (written : Bytes) : Prop where
  nonempty : written ≠ []
  onlyValue : ∀ other, reader.loads written = .ok other → other = value

/-- The body is an envelope without an error, whose data are base64 of what is written. -/
structure Envelops (reader : JsonReader) (response : ReceivedResponse) (envelope : Dict)
    (written : Bytes) : Prop where
  success : response.statusCode < 400
  loaded : reader.loads response.content = .ok (.object envelope)
  code : envelope.get? "code" = some (.int 200)
  data : envelope.get? "data" = some (.str (String.ofList (Base64.encode written)))

namespace Envelope

theorem isAbsent_encode {written : Bytes} (nonempty : written ≠ []) :
    isAbsent (.str (String.ofList (Base64.encode written))) = false := by
  rw [isAbsent, beq_eq_false_iff_ne]
  intro empty
  apply Base64.encode_ne_nil nonempty
  rw [← String.toList_ofList (l := Base64.encode written), empty]
  rfl

theorem decodeData_encode (written : Bytes) (value : Json) :
    decodeData reader (.str (String.ofList (Base64.encode written))) = .ok value ↔
      reader.loads written = .ok value := by
  rw [decodeData, String.toList_ofList, Base64.decode_encode]
  dsimp only
  cases reader.loads written with
  | ok parsed => simp
  | error error => cases error <;> simp

end Envelope

namespace ReceivedResponse

variable {response : ReceivedResponse} {envelope : Dict} {written : Bytes} {value : Json}

theorem json_envelops (envelops : Envelops reader response envelope written)
    (nonempty : written ≠ []) :
    response.json reader =
      (Envelope.decodeData reader (.str (String.ofList (Base64.encode written)))).map
        Json.asResult := by
  have noError : Envelope.codeError reader response.statusCode envelope = none := by
    simp [Envelope.codeError, envelops.code]
  rw [json_of_loads envelops.loaded, Response.unwrap,
    if_neg (Nat.not_le.mpr envelops.success)]
  dsimp only
  rw [Envelope.unwrap, noError, envelops.data]
  dsimp only [Option.getD_some]
  rw [Envelope.isAbsent_encode nonempty, if_neg Bool.false_ne_true]

theorem json_envelops_iff (envelops : Envelops reader response envelope written)
    (writtenAs : WrittenAs reader value written) :
    response.json reader = .ok value.asResult ↔ reader.loads written = .ok value := by
  rw [json_envelops envelops writtenAs.nonempty]
  constructor
  · intro returned
    cases decoded : Envelope.decodeData reader
        (.str (String.ofList (Base64.encode written))) with
    | error error =>
        rw [decoded] at returned
        cases returned
    | ok other =>
        have loaded := (Envelope.decodeData_encode written other).mp decoded
        rw [← writtenAs.onlyValue other loaded]
        exact loaded
  · intro loaded
    rw [(Envelope.decodeData_encode written value).mpr loaded]
    rfl

theorem judge_written (loaded : reader.loads written = .ok value) (text requestId : String)
    (client : DirectClient) :
    ReceivedResponse.judge reader requestId client ⟨200, text, written⟩ =
      .ok (.leave { client with directRouteMisses := 0 } (.returned value.asResult)) := by
  rw [judge, read, loaded]
  rfl

/-- `_json` returns or raises what its callers expect exactly if the body can be unwrapped,
and what it makes of an envelope is what the direct route makes of the data, exactly if
`json.loads` takes them. -/
theorem json_unwraps_iff (reader : JsonReader) :
    (∀ response : ReceivedResponse,
      Expected (response.json reader) ↔ Unwrappable reader response) ∧
    ∀ (value : Json) (written : Bytes), WrittenAs reader value written →
      ∀ (response : ReceivedResponse) (envelope : Dict),
        Envelops reader response envelope written →
          ∀ (text requestId : String) (client : DirectClient),
            (response.json reader = .ok value.asResult ∧
              ReceivedResponse.judge reader requestId client ⟨200, text, written⟩ =
                .ok (.leave { client with directRouteMisses := 0 }
                  (.returned value.asResult))) ↔
              reader.loads written = .ok value := by
  refine ⟨json_expected_iff reader, ?_⟩
  intro value written writtenAs response envelope envelops text requestId client
  rw [json_envelops_iff envelops writtenAs, and_iff_left_iff_imp]
  intro loaded
  exact judge_written loaded text requestId client

/-! ### Two bodies -/

def fiveBytes : Bytes := [53]

def fiveEnvelope : Dict := [("code", .int 200), ("data", .str "NQ==")]

def fiveResponse : ReceivedResponse where
  statusCode := 200
  text := "\x7b\"code\": 200, \"data\": \"NQ==\"\x7d"
  content := "\x7b\"code\": 200, \"data\": \"NQ==\"\x7d".toList.map fun char =>
    UInt8.ofNat char.toNat

def bodyReader : JsonReader where
  loads := fun content =>
    if content = fiveBytes then .ok (.int 5)
    else if content = fiveResponse.content then .ok (.object fiveEnvelope)
    else if content = [91, 93] then .ok (.array [])
    else .error (.decodeError "Expecting value: line 1 column 1 (char 0)")
  builtins := ⟨fun _ => none, fun _ => none, fun _ => ""⟩

theorem json_unwraps_iff_five :
    fiveResponse.json bodyReader = .ok [("value", .int 5)] ∧
      ReceivedResponse.judge bodyReader "request-1" .initial ⟨200, "5", fiveBytes⟩ =
        .ok (.leave .initial (.returned [("value", .int 5)])) := by
  have writtenAs : WrittenAs bodyReader (.int 5) fiveBytes := by
    refine ⟨by decide, ?_⟩
    intro other loaded
    cases loaded
    rfl
  have envelops : Envelops bodyReader fiveResponse fiveEnvelope fiveBytes :=
    ⟨by decide, rfl, rfl, rfl⟩
  exact ((json_unwraps_iff bodyReader).2 (.int 5) fiveBytes writtenAs fiveResponse
    fiveEnvelope envelops "5" "request-1" .initial).mpr rfl

/-- The body of a response is the JSON `[]`. -/
theorem list_body_raises :
    ¬∀ (reader : JsonReader) (response : ReceivedResponse),
      Expected (response.json reader) := by
  intro claim
  exact claim bodyReader ⟨200, "[]", [91, 93]⟩

end ReceivedResponse

end YrSandbox.Transport
