import Mathlib.Data.Nat.Digits.Lemmas

/-! # Numerals of a fixed width

A number written with a fixed number of digits, the most significant first: what
a binary header does with base 256 and a hexadecimal spelling with base 16. -/

namespace YrSandbox.Positional

/-- The last `width` digits of a number. -/
def places (base : Nat) : Nat → Nat → List Nat
  | 0, _ => []
  | width + 1, number => places base width (number / base) ++ [number % base]

def placeValue (base : Nat) (digits : List Nat) : Nat := Nat.ofDigits base digits.reverse

@[simp] theorem length_places (base width number : Nat) :
    (places base width number).length = width := by
  induction width generalizing number with
  | zero => rfl
  | succ width induction => simp [places, induction]

theorem lt_of_mem_places {base : Nat} (positive : 0 < base) {width number digit : Nat}
    (member : digit ∈ places base width number) : digit < base := by
  induction width generalizing number with
  | zero => simp [places] at member
  | succ width induction =>
      rcases List.mem_append.mp member with front | last
      · exact induction front
      · rw [List.mem_singleton.mp last]
        exact Nat.mod_lt number positive

theorem placeValue_concat (base : Nat) (digits : List Nat) (last : Nat) :
    placeValue base (digits ++ [last]) = placeValue base digits * base + last := by
  simp only [placeValue, List.reverse_append, List.reverse_singleton,
    List.singleton_append,
    Nat.ofDigits_cons]
  rw [Nat.mul_comm, Nat.add_comm]

theorem placeValue_places (base width number : Nat) :
    placeValue base (places base width number) = number % base ^ width := by
  induction width generalizing number with
  | zero => simp [places, placeValue, Nat.mod_one]
  | succ width induction =>
      rw [places, placeValue_concat, induction, Nat.pow_succ, Nat.mul_comm (base ^ width),
        Nat.mod_mul]
      rw [Nat.mul_comm base, Nat.add_comm]

theorem placeValue_lt {base : Nat} (large : 1 < base) {digits : List Nat}
    (bounded : ∀ digit ∈ digits, digit < base) :
    placeValue base digits < base ^ digits.length := by
  have below := Nat.ofDigits_lt_base_pow_length large
    (l := digits.reverse) (fun digit member => bounded digit (List.mem_reverse.mp member))
  simpa [placeValue] using below

theorem places_placeValue {base : Nat} (large : 1 < base) {digits : List Nat}
    (bounded : ∀ digit ∈ digits, digit < base) :
    places base digits.length (placeValue base digits) = digits := by
  have sameLength : (places base digits.length (placeValue base digits)).reverse.length =
      digits.reverse.length := by simp
  have sameValue : placeValue base (places base digits.length (placeValue base digits)) =
      placeValue base digits := by
    rw [placeValue_places, Nat.mod_eq_of_lt (placeValue_lt large bounded)]
  have reversed := Nat.ofDigits_inj_of_len_eq large sameLength
    (fun digit member =>
      lt_of_mem_places (Nat.zero_lt_of_lt large) (List.mem_reverse.mp member))
    (fun digit member => bounded digit (List.mem_reverse.mp member)) sameValue
  exact List.reverse_inj.mp reversed

end YrSandbox.Positional
