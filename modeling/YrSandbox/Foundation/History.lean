import Mathlib.Data.List.Basic

/-! # Histories

A history lists what has happened, oldest first. What a monitor demands of each
entry depends on the entries before it. -/

namespace YrSandbox

/-- Every entry meets `demand` together with what came before it. -/
def EachAfter (demand : List α → α → Prop) (history : List α) : Prop :=
  ∀ before entry after, history = before ++ entry :: after → demand before entry

namespace EachAfter

variable {demand : List α → α → Prop}

theorem nil : EachAfter demand [] := by
  intro before entry after split
  simp at split

theorem concat {history : List α} {entry : α} (each : EachAfter demand history)
    (meets : demand history entry) : EachAfter demand (history ++ [entry]) := by
  intro before other after split
  rcases List.eq_nil_or_concat after with rfl | ⟨others, last, rfl⟩
  · rcases List.append_inj' split rfl with ⟨rfl, same⟩
    cases same
    exact meets
  · rw [List.concat_eq_append, ← List.cons_append, ← List.append_assoc] at split
    exact each before other others (List.append_inj' split rfl).1

end EachAfter

end YrSandbox
