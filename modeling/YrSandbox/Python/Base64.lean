import YrSandbox.Foundation.Chunk
import YrSandbox.Python.Url

/-! # `base64.b64encode` and `base64.b64decode`

`binascii.a2b_base64` as CPython 3.11 has it. Without `validate` it passes over what is
not in the alphabet and over padding that comes too early. -/

namespace YrSandbox.Python.Base64

/-! ## The alphabet -/

def digit (value : Nat) : Char :=
  if value < 26 then Char.ofNat (65 + value)
  else if value < 52 then Char.ofNat (71 + value)
  else if value < 62 then Char.ofNat (value - 4)
  else if value = 62 then '+'
  else '/'

def sextet (char : Char) : Option Nat :=
  if 65 ≤ char.toNat ∧ char.toNat ≤ 90 then some (char.toNat - 65)
  else if 97 ≤ char.toNat ∧ char.toNat ≤ 122 then some (char.toNat - 71)
  else if 48 ≤ char.toNat ∧ char.toNat ≤ 57 then some (char.toNat + 4)
  else if char = '+' then some 62
  else if char = '/' then some 63
  else none

theorem digit_spec : ∀ value < 64,
    sextet (digit value) = some value ∧ digit value ≠ '=' ∧ (digit value).toNat < 128 := by
  decide

/-! ## Encoding -/

def encode : Bytes → Text
  | [] => []
  | [first] => [digit (first.toNat / 4), digit (first.toNat % 4 * 16), '=', '=']
  | [first, second] =>
      [digit (first.toNat / 4), digit (first.toNat % 4 * 16 + second.toNat / 16),
        digit (second.toNat % 16 * 4), '=']
  | first :: second :: third :: rest =>
      digit (first.toNat / 4) :: digit (first.toNat % 4 * 16 + second.toNat / 16) ::
        digit (second.toNat % 16 * 4 + third.toNat / 64) :: digit (third.toNat % 64) ::
        encode rest

theorem encode_ne_nil {data : Bytes} (nonempty : data ≠ []) : encode data ≠ [] := by
  cases data using encode.fun_cases with
  | case1 => exact absurd rfl nonempty
  | case2 | case3 | case4 => simp [encode]

/-! ## Decoding -/

structure Decoder where
  quadPos : Fin 4
  leftchar : Nat
  pads : Nat
  paddingStarted : Bool
  binData : Bytes
deriving DecidableEq, Repr

namespace Decoder

def push (value : Nat) (decoder : Decoder) : Decoder :=
  let append (bits : Nat) : Bytes := decoder.binData ++ [UInt8.ofNat bits]
  let left := decoder.leftchar
  match decoder.quadPos with
  | 0 => { decoder with pads := 0, quadPos := 1, leftchar := value }
  | 1 =>
      { decoder with
        pads := 0
        quadPos := 2
        leftchar := value % 16
        binData := append (left * 4 + value / 16) }
  | 2 =>
      { decoder with
        pads := 0
        quadPos := 3
        leftchar := value % 4
        binData := append (left * 16 + value / 4) }
  | 3 =>
      { decoder with
        pads := 0
        quadPos := 0
        leftchar := 0
        binData := append (left * 64 + value) }

def finish (decoder : Decoder) : Except String Bytes :=
  if decoder.quadPos = 0 then .ok decoder.binData
  else if decoder.quadPos = 1 then
    .error s!"Invalid base64-encoded string: number of data characters ({decoder.binData.length / 3 * 4 + 1}) cannot be 1 more than a multiple of 4"
  else .error "Incorrect padding"

def run (strict : Bool) : Decoder → Text → Except String Bytes
  | decoder, [] => decoder.finish
  | decoder, char :: rest =>
      if char = '=' then
        let decoder := { decoder with paddingStarted := true }
        if 2 ≤ decoder.quadPos then
          let decoder := { decoder with pads := decoder.pads + 1 }
          if 4 ≤ decoder.quadPos.val + decoder.pads then
            if strict && !rest.isEmpty then .error "Excess data after padding"
            else .ok decoder.binData
          else run strict decoder rest
        else run strict decoder rest
      else
        match sextet char with
        | none =>
            if strict then .error "Only base64 data is allowed"
            else run strict decoder rest
        | some value =>
            if strict && decoder.paddingStarted then
              .error "Discontinuous padding not allowed"
            else run strict (decoder.push value) rest

end Decoder

/-- `base64.b64decode(text, validate=strict)`; an error is the text of the `ValueError`. -/
def decode (strict : Bool) (text : Text) : Except String Bytes :=
  if text.any (128 ≤ ·.toNat) then
    .error "string argument should contain only ASCII characters"
  else if strict && text.head? == some '=' then .error "Leading padding not allowed"
  else Decoder.run strict ⟨0, 0, 0, false, []⟩ text

/-! ## The round trip -/

theorem run_digit {strict : Bool} {decoder : Decoder} {value : Nat} (bound : value < 64)
    (started : decoder.paddingStarted = false) (rest : Text) :
    decoder.run strict (digit value :: rest) =
      (decoder.push value).run strict rest := by
  have facts := digit_spec value bound
  rw [Decoder.run, if_neg facts.2.1, facts.1]
  simp [started]

section

variable {strict : Bool} {value left : Nat} {pads : Nat} {started : Bool} {binData : Bytes}

theorem push_first : Decoder.push value ⟨0, left, pads, started, binData⟩ =
    ⟨1, value, 0, started, binData⟩ := rfl

theorem push_second (byte : UInt8) (whole : left * 4 + value / 16 = byte.toNat) :
    Decoder.push value ⟨1, left, pads, started, binData⟩ =
      ⟨2, value % 16, 0, started, binData ++ [byte]⟩ := by
  rw [Decoder.push]
  simp only [whole, UInt8.ofNat_toNat]

theorem push_third (byte : UInt8) (whole : left * 16 + value / 4 = byte.toNat) :
    Decoder.push value ⟨2, left, pads, started, binData⟩ =
      ⟨3, value % 4, 0, started, binData ++ [byte]⟩ := by
  rw [Decoder.push]
  simp only [whole, UInt8.ofNat_toNat]

theorem push_fourth (byte : UInt8) (whole : left * 64 + value = byte.toNat) :
    Decoder.push value ⟨3, left, pads, started, binData⟩ =
      ⟨0, 0, 0, started, binData ++ [byte]⟩ := by
  rw [Decoder.push]
  simp only [whole, UInt8.ofNat_toNat]

theorem run_two_pads :
    Decoder.run strict ⟨2, left, 0, started, binData⟩ ['=', '='] = .ok binData := by
  simp [Decoder.run]

theorem run_one_pad :
    Decoder.run strict ⟨3, left, 0, started, binData⟩ ['='] = .ok binData := by
  cases strict <;> rfl

end

theorem run_encode (strict : Bool) (data binData : Bytes) :
    Decoder.run strict ⟨0, 0, 0, false, binData⟩ (encode data) =
      .ok (binData ++ data) := by
  induction data using encode.induct generalizing binData with
  | case1 =>
      rw [encode, List.append_nil]
      rfl
  | case2 first =>
      have bound := first.toNat_lt
      rw [encode, run_digit (by omega) rfl, run_digit (by omega) rfl, push_first,
        push_second first (by omega), run_two_pads]
  | case3 first second =>
      have firstBound := first.toNat_lt
      have secondBound := second.toNat_lt
      rw [encode, run_digit (by omega) rfl, run_digit (by omega) rfl,
        run_digit (by omega) rfl, push_first, push_second first (by omega),
        push_third second (by omega), run_one_pad, List.append_assoc]
      rfl
  | case4 first second third rest induction =>
      have firstBound := first.toNat_lt
      have secondBound := second.toNat_lt
      have thirdBound := third.toNat_lt
      rw [encode, run_digit (by omega) rfl, run_digit (by omega) rfl,
        run_digit (by omega) rfl, run_digit (by omega) rfl, push_first,
        push_second first (by omega), push_third second (by omega),
        push_fourth third (by omega), induction]
      simp only [List.append_assoc, List.cons_append, List.nil_append]

theorem encode_ascii (data : Bytes) : ∀ char ∈ encode data, char.toNat < 128 := by
  have digits : ∀ value < 64, (digit value).toNat < 128 :=
    fun value bound => (digit_spec value bound).2.2
  have padding : '='.toNat < 128 := by decide
  induction data using encode.induct with
  | case1 => simp [encode]
  | case2 first =>
      have bound := first.toNat_lt
      intro char member
      simp only [encode, List.mem_cons, List.not_mem_nil, or_false] at member
      rcases member with rfl | rfl | rfl | rfl
      all_goals first | exact padding | exact digits _ (by omega)
  | case3 first second =>
      have firstBound := first.toNat_lt
      have secondBound := second.toNat_lt
      intro char member
      simp only [encode, List.mem_cons, List.not_mem_nil, or_false] at member
      rcases member with rfl | rfl | rfl | rfl
      all_goals first | exact padding | exact digits _ (by omega)
  | case4 first second third rest induction =>
      have firstBound := first.toNat_lt
      have secondBound := second.toNat_lt
      have thirdBound := third.toNat_lt
      intro char member
      simp only [encode, List.mem_cons] at member
      rcases member with rfl | rfl | rfl | rfl | later
      case inr.inr.inr.inr => exact induction char later
      all_goals exact digits _ (by omega)

theorem encode_head (data : Bytes) : (encode data).head? ≠ some '=' := by
  cases data using encode.fun_cases with
  | case1 => simp [encode]
  | case2 first | case3 first _ | case4 first _ _ _ =>
      have bound := first.toNat_lt
      have facts := digit_spec (first.toNat / 4) (by omega)
      simpa [encode] using facts.2.1

@[simp] theorem decode_encode (strict : Bool) (data : Bytes) :
    decode strict (encode data) = .ok data := by
  have ascii : (encode data).any (128 ≤ ·.toNat) = false := by
    rw [List.any_eq_false]
    intro char member
    have below := encode_ascii data char member
    simp only [decide_eq_true_eq]
    omega
  have head : ((encode data).head? == some '=') = false := by
    simpa using encode_head data
  rw [decode, ascii, head]
  simpa using run_encode strict data []

end YrSandbox.Python.Base64
