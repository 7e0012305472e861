import Mathlib.Algebra.Group.Nat.Defs
import Mathlib.Order.Interval.Set.Basic

/-! # Aligned blocks of numbers

Of the numbers with `width` bits, those whose first bits are given. Such a block is fixed by
its least number and the count of the given bits, and by its members. -/

namespace YrSandbox

structure AlignedBlock (width : Nat) where
  base : Nat
  length : Nat -- how many bits are given
  short : length ≤ width
  below : base < 2 ^ width
  aligned : 2 ^ (width - length) ∣ base
deriving DecidableEq, Repr

namespace AlignedBlock

variable {width : Nat}

def size (block : AlignedBlock width) : Nat := 2 ^ (width - block.length)

def members (block : AlignedBlock width) : Set Nat :=
  Set.Ico block.base (block.base + block.size)

@[ext] theorem ext {left right : AlignedBlock width} (base : left.base = right.base)
    (length : left.length = right.length) : left = right := by
  cases left
  cases right
  cases base
  cases length
  rfl

theorem size_pos (block : AlignedBlock width) : 0 < block.size := Nat.two_pow_pos _

theorem base_mem (block : AlignedBlock width) : block.base ∈ block.members :=
  ⟨Nat.le_refl _, Nat.lt_add_of_pos_right block.size_pos⟩

theorem members_injective : Function.Injective (@members width) := by
  intro left right same
  have base : left.base = right.base := by
    apply Nat.le_antisymm
    · have member : right.base ∈ left.members := same ▸ right.base_mem
      exact member.1
    · have member : left.base ∈ right.members := same ▸ left.base_mem
      exact member.1
  have last (block : AlignedBlock width) :
      block.base + (block.size - 1) ∈ block.members := by
    have positive := block.size_pos
    constructor <;> omega
  have size : left.size = right.size := by
    have leftPositive := left.size_pos
    have rightPositive := right.size_pos
    have first : left.base + (left.size - 1) ∈ right.members := same ▸ last left
    have second : right.base + (right.size - 1) ∈ left.members := same ▸ last right
    have fits := first.2
    have fitsBack := second.2
    omega
  have exponents := Nat.pow_right_injective (Nat.le_refl 2) size
  have leftShort := left.short
  have rightShort := right.short
  apply ext base
  omega

/-- The block of the numbers that begin like `number`. -/
def containing (number length : Nat) (below : number < 2 ^ width) (short : length ≤ width) :
    AlignedBlock width where
  base := number / 2 ^ (width - length) * 2 ^ (width - length)
  length := length
  short := short
  below := Nat.lt_of_le_of_lt (Nat.div_mul_le_self _ _) below
  aligned := Nat.dvd_mul_left _ _

theorem mem_containing_iff {number length : Nat} (below : number < 2 ^ width)
    (short : length ≤ width) (other : Nat) :
    other ∈ (containing number length below short).members ↔
      other / 2 ^ (width - length) = number / 2 ^ (width - length) := by
  have positive := Nat.two_pow_pos (width - length)
  have division := Nat.div_add_mod other (2 ^ (width - length))
  have remainder := Nat.mod_lt other positive
  rw [Nat.div_eq_iff positive]
  constructor
  · rintro ⟨above, under⟩
    simp only [containing, size] at above under
    omega
  · rintro ⟨above, under⟩
    constructor
    · simp only [containing]
      omega
    · simp only [containing, size]
      omega

theorem containing_base (block : AlignedBlock width) :
    containing block.base block.length block.below block.short = block :=
  ext (Nat.div_mul_cancel block.aligned) rfl

end AlignedBlock

/-! ## Masks -/

theorem and_mask {width length number : Nat} (short : length ≤ width)
    (below : number < 2 ^ width) :
    number &&& ((2 ^ width - 1) ^^^ ((2 ^ width - 1) >>> length)) =
      number / 2 ^ (width - length) * 2 ^ (width - length) := by
  apply Nat.eq_of_testBit_eq
  intro index
  rw [← Nat.shiftLeft_eq, ← Nat.shiftRight_eq_div_pow, Nat.testBit_shiftLeft,
    Nat.testBit_shiftRight, Nat.testBit_and, Nat.testBit_xor, Nat.testBit_shiftRight,
    Nat.testBit_two_pow_sub_one, Nat.testBit_two_pow_sub_one]
  by_cases inside : index < width
  · by_cases low : index < width - length
    · have early : length + index < width := by omega
      have less : ¬width ≤ index + length := by omega
      simp [inside, early, less]
    · have late : ¬length + index < width := by omega
      have more : width ≤ index + length := by omega
      have position : width - length + (index - (width - length)) = index := by omega
      simp [inside, late, more, position]
  · have zero : number.testBit index = false := by
      apply Nat.testBit_lt_two_pow
      exact Nat.lt_of_lt_of_le below (Nat.pow_le_pow_right Nat.two_pos (by omega))
    have position : width - length + (index - (width - length)) = index := by omega
    simp [zero, position]

end YrSandbox
