import YrSandbox.Python.Uuid

/-! # `bytes.hex` and `bytes.fromhex` -/

namespace YrSandbox.Python

def hex (data : Bytes) : Text :=
  data.flatMap fun byte => [(byte.toNat / 16).digitChar, (byte.toNat % 16).digitChar]

/-- `bytes.fromhex(text)`, `none` where it raises `ValueError`. White space is
skipped between two bytes, not within one. -/
def fromHex : Text → Option Bytes
  | [] => some []
  | [last] => if isAsciiSpace last then some [] else none
  | first :: second :: rest =>
      if isAsciiSpace first then fromHex (second :: rest)
      else
        match digitValue first, digitValue second with
        | some high, some low =>
            (fromHex rest).map (UInt8.ofNat (16 * high + low) :: ·)
        | _, _ => none

@[simp] theorem fromHex_hex (data : Bytes) : fromHex (hex data) = some data := by
  induction data with
  | nil => rfl
  | cons byte data induction =>
      have bound : byte.toNat < 256 := byte.toNat_lt
      have high : byte.toNat / 16 < 16 := by omega
      have low : byte.toNat % 16 < 16 := Nat.mod_lt _ (by decide)
      have noSpace := (writtenDigit (digitChar_mem_hexDigits _ high)).noSpace
      have number : 16 * (byte.toNat / 16) + byte.toNat % 16 = byte.toNat :=
        Nat.div_add_mod byte.toNat 16
      show fromHex ((byte.toNat / 16).digitChar :: (byte.toNat % 16).digitChar ::
        hex data) = some (byte :: data)
      rw [fromHex, if_neg (Bool.eq_false_iff.mp noSpace), digitValue_digitChar _ high,
        digitValue_digitChar _ low]
      simp only [induction, number, Option.map_some, UInt8.ofNat_toNat]

end YrSandbox.Python
