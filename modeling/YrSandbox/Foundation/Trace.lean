import Mathlib.Order.WellFounded

/-! # Machines that are fed for ever

A machine that reacts to every input goes through one state for each number of
inputs. What one reaction keeps holds in all of them, and a machine whose
reactions use up a measure comes to an end. -/

namespace YrSandbox.Transition

variable {State : Type u} {Input : Type v}

/-- The state after the first `count` of infinitely many inputs. -/
def trace (react : State → Input → State) (start : State) (inputs : Nat → Input) :
    Nat → State
  | 0 => start
  | count + 1 => react (trace react start inputs count) (inputs count)

variable {react : State → Input → State} {start : State} {inputs : Nat → Input}

@[simp] theorem trace_zero : trace react start inputs 0 = start := rfl

theorem trace_succ (count : Nat) :
    trace react start inputs (count + 1) =
      react (trace react start inputs count) (inputs count) := rfl

/-- The rule for invariants of machines. -/
theorem trace_invariant (invariant : State → Prop) (initially : invariant start)
    (preserved : ∀ state count, invariant state → invariant (react state (inputs count)))
    (count : Nat) : invariant (trace react start inputs count) := by
  induction count with
  | zero => exact initially
  | succ count induction => exact preserved _ _ induction

theorem trace_persists (final : State → Prop)
    (kept : ∀ state input, final state → final (react state input)) {first later : Nat}
    (reached : final (trace react start inputs first)) (ordered : first ≤ later) :
    final (trace react start inputs later) := by
  induction later, ordered using Nat.le_induction with
  | base => exact reached
  | succ later _ induction => exact kept _ _ induction

/-- The rule for termination: from some point on every reaction that does not
find the machine at its end makes the measure smaller. -/
theorem trace_ends {final : State → Prop} (measure : State → Nat) (threshold : Nat)
    (decreases : ∀ count, threshold ≤ count → ¬final (trace react start inputs count) →
      measure (trace react start inputs (count + 1)) <
        measure (trace react start inputs count)) :
    ∃ count, final (trace react start inputs count) := by
  have stuck := WellFounded.not_rel_apply_succ (r := (· < ·))
    fun count => measure (trace react start inputs (threshold + count))
  rcases stuck with ⟨count, notLess⟩
  refine ⟨threshold + count, ?_⟩
  by_contra unfinished
  exact notLess (decreases (threshold + count) (Nat.le_add_right _ _) unfinished)

/-- The rule for machines that come to an end at the first input that decides. -/
theorem trace_decided {Decision : Type w} (decision : Nat → Option Decision)
    (ongoing : Nat → State → Prop) (ended : Nat → Decision → State → Prop)
    (initially : ongoing 0 start)
    (continues : ∀ count state, ongoing count state → decision count = none →
      ongoing (count + 1) (react state (inputs count)))
    (ends : ∀ count state decided, ongoing count state → decision count = some decided →
      ended count decided (react state (inputs count)))
    (stays : ∀ count decided state input, ended count decided state →
      react state input = state) (count : Nat) :
    (∀ before < count, decision before = none) ∧
        ongoing count (trace react start inputs count) ∨
      ∃ first < count, ∃ decided, (∀ before < first, decision before = none) ∧
        decision first = some decided ∧
        ended first decided (trace react start inputs count) := by
  induction count with
  | zero => exact .inl ⟨nofun, initially⟩
  | succ count induction =>
      rw [trace_succ]
      rcases induction with
        ⟨undecided, going⟩ | ⟨first, less, decided, before, decides, reached⟩
      · cases given : decision count with
        | none =>
            refine .inl ⟨fun before less => ?_, continues _ _ going given⟩
            rcases Nat.lt_succ_iff_lt_or_eq.mp less with less | rfl
            · exact undecided before less
            · exact given
        | some decided =>
            exact .inr ⟨count, count.lt_succ_self, decided, undecided, given,
              ends _ _ _ going given⟩
      · rw [stays _ _ _ _ reached]
        exact .inr ⟨first, Nat.lt_succ_of_lt less, decided, before, decides, reached⟩

/-! ## Streaks -/

/-- How many of the first `count` numbers, counted back from the last, meet a
condition in a row. -/
def streak (condition : Nat → Prop) [DecidablePred condition] : Nat → Nat
  | 0 => 0
  | count + 1 => if condition count then streak condition count + 1 else 0

theorem le_streak_iff (condition : Nat → Prop) [DecidablePred condition]
    {length count : Nat} :
    length ≤ streak condition count ↔
      length ≤ count ∧ ∀ back < length, condition (count - 1 - back) := by
  induction count generalizing length with
  | zero =>
      rw [streak, Nat.le_zero]
      constructor
      · rintro rfl
        exact ⟨rfl, nofun⟩
      · exact And.left
  | succ count induction =>
      rw [streak]
      cases length with
      | zero => simp
      | succ length =>
          rw [Nat.forall_lt_succ_left]
          by_cases met : condition count
          · have shift (back : Nat) : count - 1 - back = count - (back + 1) := by omega
            simp [met, induction, shift]
          · simp [met]

end YrSandbox.Transition
