import YrSandbox.Foundation.Chunk
import YrSandbox.Foundation.Positional

/-! # Integers as bytes

`int.to_bytes`, `int.from_bytes` and the unsigned fields of `struct`, big endian. -/

namespace YrSandbox.Python

open Positional

/-- `number.to_bytes(width, 'big')` of a number that fits. -/
def toBytes (width number : Nat) : Bytes := (places 256 width number).map UInt8.ofNat

def fromBytes (bytes : Bytes) : Nat := placeValue 256 (bytes.map UInt8.toNat)

/-- One unsigned field of `struct.pack`, refused with `struct.error` outside its range. -/
def packUnsigned (width : Nat) (number : Int) : Option Bytes :=
  if 0 ≤ number ∧ number < 256 ^ width then some (toBytes width number.toNat) else none

@[simp] theorem length_toBytes (width number : Nat) :
    (toBytes width number).length = width := by
  simp [toBytes]

theorem map_toNat_ofNat {digits : List Nat} (bounded : ∀ digit ∈ digits, digit < 256) :
    (digits.map UInt8.ofNat).map UInt8.toNat = digits := by
  rw [List.map_map]
  conv_rhs => rw [← List.map_id digits]
  apply List.map_congr_left
  intro digit member
  exact UInt8.toNat_ofNat_of_lt' (bounded digit member)

theorem fromBytes_toBytes {width number : Nat} (fits : number < 256 ^ width) :
    fromBytes (toBytes width number) = number := by
  have bounded : ∀ digit ∈ places 256 width number, digit < 256 :=
    fun digit member => lt_of_mem_places (by decide) member
  rw [fromBytes, toBytes, map_toNat_ofNat bounded, placeValue_places,
    Nat.mod_eq_of_lt fits]

theorem toNat_lt_of_mem (bytes : Bytes) :
    ∀ digit ∈ bytes.map UInt8.toNat, digit < 256 := by
  intro digit member
  rcases List.mem_map.mp member with ⟨byte, _, rfl⟩
  exact byte.toNat_lt

theorem fromBytes_lt (bytes : Bytes) : fromBytes bytes < 256 ^ bytes.length := by
  have below := placeValue_lt (by decide) (toNat_lt_of_mem bytes)
  rwa [List.length_map] at below

theorem toBytes_fromBytes (bytes : Bytes) :
    toBytes bytes.length (fromBytes bytes) = bytes := by
  have spelt := places_placeValue (by decide) (toNat_lt_of_mem bytes)
  rw [List.length_map] at spelt
  rw [toBytes, fromBytes, spelt, List.map_map]
  conv_rhs => rw [← List.map_id bytes]
  apply List.map_congr_left
  intro byte _
  exact UInt8.ofNat_toNat

theorem packUnsigned_eq_some {width : Nat} {number : Int} {packed : Bytes} :
    packUnsigned width number = some packed ↔
      (0 ≤ number ∧ number < 256 ^ width) ∧ packed = toBytes width number.toNat := by
  unfold packUnsigned
  split
  · rename_i inRange
    simp [inRange, eq_comm]
  · rename_i outside
    simp [outside]

end YrSandbox.Python
