import YrSandbox.Foundation.AlignedBlock
import YrSandbox.Foundation.PathSegments
import YrSandbox.Foundation.Positional
import YrSandbox.Python.Url

/-! # IPv4 networks

`ipaddress.ip_network(text, strict=False)` as far as it returns an `IPv4Network`, and the
`str` of one. -/

namespace YrSandbox.Python.Ipaddress

open Positional

abbrev Address := { number : Nat // number < 2 ^ 32 }

abbrev PrefixLength := { length : Nat // length ≤ 32 }

/-- `int(text)` if `text.isascii() and text.isdigit()` -/
def decimal? (text : Text) : Option Nat :=
  if text ≠ [] ∧ text.all Char.isDigit = true then
    some (placeValue 10 (text.map fun char => char.toNat - '0'.toNat))
  else none

def parseOctet (octet : Text) : Option (Fin 256) :=
  match decimal? octet with
  | none => none
  | some value =>
      if 3 < octet.length then none
      else if octet ≠ ['0'] ∧ octet.head? = some '0' then none
      else if bound : value < 256 then some ⟨value, bound⟩
      else none

def ipIntFromString (text : Text) : Option Address :=
  match (text.splitOn '.').mapM parseOctet with
  | some [first, second, third, fourth] =>
      some ⟨((first.val * 256 + second) * 256 + third) * 256 + fourth, by omega⟩
  | _ => none

def allOnes : Nat := 2 ^ 32 - 1

def ipIntFromPrefix (length : Nat) : Nat := allOnes ^^^ (allOnes >>> length)

def bitLength (number : Nat) : Nat := if number = 0 then 0 else number.log2 + 1

/-- `_count_righthand_zero_bits`; the bits of `~number & (number - 1)` are those of
`number - 1` that `number` does not have. -/
def countRighthandZeroBits (number bits : Nat) : Nat :=
  if number = 0 then bits
  else min bits (bitLength ((number - 1) ^^^ ((number - 1) &&& number)))

def prefixFromIpInt (number : Nat) : Option PrefixLength :=
  let zeros := countRighthandZeroBits number 32
  let length := 32 - zeros
  if number >>> zeros = 2 ^ length - 1 then some ⟨length, Nat.sub_le _ _⟩ else none

def prefixFromPrefixString (text : Text) : Option PrefixLength :=
  match decimal? text with
  | none => none
  | some length => if short : length ≤ 32 then some ⟨length, short⟩ else none

/-- `_prefix_from_ip_string`: a netmask, or else a hostmask. -/
def prefixFromIpString (text : Text) : Option PrefixLength :=
  match ipIntFromString text with
  | none => none
  | some mask =>
      match prefixFromIpInt mask with
      | some length => some length
      | none => prefixFromIpInt (mask ^^^ allOnes)

def makeNetmask (text : Text) : Option PrefixLength :=
  match prefixFromPrefixString text with
  | some length => some length
  | none => prefixFromIpString text

theorem and_ipIntFromPrefix (address : Address) (length : PrefixLength) :
    address.val &&& ipIntFromPrefix length =
      address.val / 2 ^ (32 - length.val) * 2 ^ (32 - length.val) :=
  and_mask length.property address.property

def network (address : Address) (length : PrefixLength) : AlignedBlock 32 where
  base := address.val &&& ipIntFromPrefix length
  length := length
  short := length.property
  below := Nat.lt_of_le_of_lt Nat.and_le_left address.property
  aligned := by
    rw [and_ipIntFromPrefix]
    exact Nat.dvd_mul_left _ _

/-- `ip_network`, where it returns an `IPv4Network` -/
def ipNetwork (text : Text) : Option (AlignedBlock 32) :=
  match text.splitOn '/' with
  | [address] => (ipIntFromString address).map (network · ⟨32, Nat.le_refl 32⟩)
  | [address, mask] =>
      match ipIntFromString address, makeNetmask mask with
      | some address, some length => some (network address length)
      | _, _ => none
  | _ => none

def addressText (number : Nat) : Text :=
  ['.'].intercalate ((places 256 4 number).map (Nat.toDigits 10))

def networkText (network : AlignedBlock 32) : Text :=
  addressText network.base ++ '/' :: Nat.toDigits 10 network.length

/-! ## Reading what was written -/

theorem parseOctet_toDigits : ∀ octet : Fin 256,
    parseOctet (Nat.toDigits 10 octet) = some octet := by
  decide +kernel

theorem isDigit_toDigits : ∀ octet : Fin 256,
    (Nat.toDigits 10 octet).all Char.isDigit = true := by
  decide +kernel

theorem prefixFromPrefixString_toDigits (length : PrefixLength) :
    prefixFromPrefixString (Nat.toDigits 10 length) = some length := by
  have all : ∀ number : Fin 33, (prefixFromPrefixString (Nat.toDigits 10 number)).map
      Subtype.val = some number.val := by
    decide +kernel
  have one := all ⟨length.val, Nat.lt_succ_of_le length.property⟩
  rcases Option.map_eq_some_iff.mp one with ⟨found, isFound, same⟩
  rw [isFound, Subtype.ext same]

theorem places_four (number : Nat) : places 256 4 number =
    [number / 256 / 256 / 256 % 256, number / 256 / 256 % 256, number / 256 % 256,
      number % 256] := rfl

theorem mem_addressText {number : Nat} {char : Char} (member : char ∈ addressText number) :
    char.isDigit = true ∨ char = '.' := by
  rcases PathSegments.mem_intercalate member with dot | ⟨piece, isPiece, inPiece⟩
  · exact .inr dot
  · rcases List.mem_map.mp isPiece with ⟨octet, isOctet, rfl⟩
    have bound := lt_of_mem_places (by decide) isOctet
    exact .inl (List.all_eq_true.mp (isDigit_toDigits ⟨octet, bound⟩) char inPiece)

theorem ipIntFromString_addressText (address : Address) :
    ipIntFromString (addressText address) = some address := by
  rcases address with ⟨number, below⟩
  have reads (octet : Nat) (bound : octet < 256) :
      parseOctet (Nat.toDigits 10 octet) = some ⟨octet, bound⟩ :=
    parseOctet_toDigits ⟨octet, bound⟩
  have split : (addressText number).splitOn '.' =
      (places 256 4 number).map (Nat.toDigits 10) := by
    apply List.splitOn_intercalate
    · intro piece isPiece inPiece
      rcases List.mem_map.mp isPiece with ⟨octet, isOctet, rfl⟩
      have bound := lt_of_mem_places (by decide) isOctet
      have digits := List.all_eq_true.mp (isDigit_toDigits ⟨octet, bound⟩) '.' inPiece
      exact absurd digits (by decide)
    · rw [places_four]
      simp
  rw [ipIntFromString, split, places_four]
  simp only [List.map_cons, List.map_nil, List.mapM_cons, List.mapM_nil,
    reads _ (Nat.mod_lt _ (show 0 < 256 by decide))]
  apply congrArg some
  apply Subtype.ext
  change ((number / 256 / 256 / 256 % 256 * 256 + number / 256 / 256 % 256) * 256 +
    number / 256 % 256) * 256 + number % 256 = number
  omega

theorem not_mem_addressText (number : Nat) : '/' ∉ addressText number := by
  intro member
  rcases mem_addressText member with digit | dot
  · exact absurd digit (by decide)
  · exact absurd dot (by decide)

theorem splitOn_slash {address mask : Text} (noSlash : '/' ∉ address)
    (plain : '/' ∉ mask) : (address ++ '/' :: mask).splitOn '/' = [address, mask] := by
  have split : (List.intercalate ['/'] [address, mask]).splitOn '/' = [address, mask] := by
    apply List.splitOn_intercalate '/' ?_ (by simp)
    intro piece isPiece
    rcases List.mem_pair.mp isPiece with rfl | rfl
    · exact noSlash
    · exact plain
  simpa using split

theorem not_mem_toDigits (length : PrefixLength) : '/' ∉ Nat.toDigits 10 length := by
  intro member
  have bound : length.val < 256 := Nat.lt_of_le_of_lt length.property (by decide)
  have digit := List.all_eq_true.mp (isDigit_toDigits ⟨length.val, bound⟩) '/' member
  exact absurd digit (by decide)

theorem network_eq_containing (address : Address) (length : PrefixLength) :
    network address length =
      .containing address.val length.val address.property length.property :=
  AlignedBlock.ext (and_ipIntFromPrefix address length) rfl

theorem ipNetwork_networkText (block : AlignedBlock 32) :
    ipNetwork (networkText block) = some block := by
  have address := ipIntFromString_addressText ⟨block.base, block.below⟩
  have length := prefixFromPrefixString_toDigits ⟨block.length, block.short⟩
  have split := splitOn_slash (not_mem_addressText block.base)
    (not_mem_toDigits ⟨block.length, block.short⟩)
  rw [ipNetwork, networkText, split]
  simp only [address, makeNetmask, length]
  rw [network_eq_containing]
  exact congrArg some block.containing_base

/-! ## Masks -/

theorem prefixFromIpInt_netmask (length : PrefixLength) :
    prefixFromIpInt (ipIntFromPrefix length) = some length := by
  have all : ∀ number : Fin 33,
      (prefixFromIpInt (ipIntFromPrefix number)).map Subtype.val = some number.val := by
    decide +kernel
  have one := all ⟨length.val, Nat.lt_succ_of_le length.property⟩
  rcases Option.map_eq_some_iff.mp one with ⟨found, isFound, same⟩
  rw [isFound, Subtype.ext same]

def hostmask (length : Nat) : Nat := ipIntFromPrefix length ^^^ allOnes

theorem prefixFromIpInt_hostmask (length : PrefixLength) (some_ : 0 < length.val)
    (hosts : length.val < 32) : prefixFromIpInt (hostmask length) = none := by
  have all : ∀ number : Fin 33, 0 < number.val → number.val < 32 →
      prefixFromIpInt (hostmask number) = none := by
    decide +kernel
  exact all ⟨length.val, Nat.lt_succ_of_le length.property⟩ some_ hosts

theorem ipIntFromPrefix_lt (length : Nat) : ipIntFromPrefix length < 2 ^ 32 := by
  apply Nat.xor_lt_two_pow
  · exact Nat.sub_one_lt (Nat.two_pow_pos 32).ne'
  · exact Nat.lt_of_le_of_lt (Nat.shiftRight_le _ _)
      (Nat.sub_one_lt (Nat.two_pow_pos 32).ne')

theorem hostmask_lt (length : Nat) : hostmask length < 2 ^ 32 :=
  Nat.xor_lt_two_pow (ipIntFromPrefix_lt length) (Nat.sub_one_lt (Nat.two_pow_pos 32).ne')

theorem prefixFromPrefixString_addressText (number : Nat) :
    prefixFromPrefixString (addressText number) = none := by
  have dotted : '.' ∈ addressText number := by
    rw [addressText, places_four]
    simp [List.intercalate]
  have noNumber : decimal? (addressText number) = none := by
    apply if_neg
    rintro ⟨-, digits⟩
    exact absurd (List.all_eq_true.mp digits '.' dotted) (by decide)
  rw [prefixFromPrefixString, noNumber]

theorem makeNetmask_netmask (length : PrefixLength) :
    makeNetmask (addressText (ipIntFromPrefix length)) = some length := by
  have address := ipIntFromString_addressText
    ⟨ipIntFromPrefix length, ipIntFromPrefix_lt length⟩
  rw [makeNetmask, prefixFromPrefixString_addressText, prefixFromIpString, address]
  simp only [prefixFromIpInt_netmask]

theorem makeNetmask_hostmask (length : PrefixLength) (some_ : 0 < length.val)
    (hosts : length.val < 32) :
    makeNetmask (addressText (hostmask length)) = some length := by
  have address := ipIntFromString_addressText ⟨hostmask length, hostmask_lt length⟩
  have back : hostmask length ^^^ allOnes = ipIntFromPrefix length := by
    rw [hostmask, Nat.xor_assoc, Nat.xor_self, Nat.xor_zero]
  rw [makeNetmask, prefixFromPrefixString_addressText, prefixFromIpString, address]
  simp only [prefixFromIpInt_hostmask length some_ hosts, back, prefixFromIpInt_netmask]

theorem ipNetwork_spelt (address : Address) (length : PrefixLength) {mask : Text}
    (spelt : mask = Nat.toDigits 10 length ∨ mask = addressText (ipIntFromPrefix length) ∨
      0 < length.val ∧ length.val < 32 ∧ mask = addressText (hostmask length)) :
    ipNetwork (addressText address ++ '/' :: mask) = some (network address length) := by
  have plain : '/' ∉ mask := by
    rcases spelt with rfl | rfl | ⟨-, -, rfl⟩
    · exact not_mem_toDigits length
    · exact not_mem_addressText _
    · exact not_mem_addressText _
  have reads : makeNetmask mask = some length := by
    rcases spelt with rfl | rfl | ⟨some_, hosts, rfl⟩
    · rw [makeNetmask, prefixFromPrefixString_toDigits]
    · exact makeNetmask_netmask length
    · exact makeNetmask_hostmask length some_ hosts
  rw [ipNetwork, splitOn_slash (not_mem_addressText _) plain]
  simp only [ipIntFromString_addressText, reads]

end YrSandbox.Python.Ipaddress
