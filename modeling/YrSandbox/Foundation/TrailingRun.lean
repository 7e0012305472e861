import Mathlib.Data.List.Chain

/-! # Runs at the end of a list

How many elements at the end of a list are of a kind, and a counter for them that passes
over some elements. -/

namespace YrSandbox

variable {Element : Type u} (kind passed : Element → Prop) [DecidablePred kind]
  [DecidablePred passed]

def trailingRun (elements : List Element) : Nat :=
  (elements.reverse.takeWhile fun element => decide (kind element)).length

/-- The counter goes on for the kind, stays where an element is passed over, and starts
again otherwise. -/
def countRun (count : Nat) (element : Element) : Nat :=
  if passed element then count else if kind element then count + 1 else 0

variable {kind passed}

@[simp] theorem trailingRun_nil : trailingRun kind [] = 0 := rfl

theorem trailingRun_concat (elements : List Element) (element : Element) :
    trailingRun kind (elements ++ [element]) =
      if kind element then trailingRun kind elements + 1 else 0 := by
  rw [trailingRun, List.reverse_append, List.reverse_singleton, List.singleton_append,
    List.takeWhile_cons]
  by_cases isKind : kind element
  · simp [isKind, trailingRun]
  · simp [isKind]

theorem trailingRun_pos {elements : List Element} {last : Element}
    (isLast : last ∈ elements.getLast?) (isKind : kind last) :
    0 < trailingRun kind elements := by
  rcases List.getLast?_eq_some_iff.mp isLast with ⟨before, rfl⟩
  rw [trailingRun_concat, if_pos isKind]
  exact Nat.succ_pos _

theorem trailingRun_eq_zero {elements : List Element}
    (other : ∀ last ∈ elements.getLast?, ¬kind last) : trailingRun kind elements = 0 := by
  rcases List.eq_nil_or_concat elements with rfl | ⟨before, last, rfl⟩
  · rfl
  · rw [List.concat_eq_append] at other ⊢
    rw [trailingRun_concat, if_neg (other last (by simp))]

theorem foldl_countRun (disjoint : ∀ element, passed element → ¬kind element)
    {elements : List Element}
    (chain : elements.IsChain fun earlier later => ¬(kind earlier ∧ passed later)) :
    elements.foldl (countRun kind passed) 0 = trailingRun kind elements := by
  induction elements using List.reverseRecOn with
  | nil => rfl
  | append_singleton elements element induction =>
      have parts := List.isChain_append.mp chain
      rw [List.foldl_concat, induction parts.1, trailingRun_concat, countRun]
      by_cases isPassed : passed element
      · rw [if_pos isPassed, if_neg (disjoint element isPassed)]
        apply trailingRun_eq_zero
        intro last isLast isKind
        exact parts.2.2 last isLast element rfl ⟨isKind, isPassed⟩
      · rw [if_neg isPassed]

theorem foldl_countRun_ne (disjoint : ∀ element, passed element → ¬kind element)
    {elements : List Element} {last element : Element}
    (right : elements.foldl (countRun kind passed) 0 = trailingRun kind elements)
    (isLast : last ∈ elements.getLast?) (isKind : kind last) (isPassed : passed element) :
    (elements ++ [element]).foldl (countRun kind passed) 0 ≠
      trailingRun kind (elements ++ [element]) := by
  rw [List.foldl_concat, right, trailingRun_concat, if_neg (disjoint element isPassed),
    countRun, if_pos isPassed]
  exact Nat.ne_of_gt (trailingRun_pos isLast isKind)

end YrSandbox
