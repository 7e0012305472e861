import Mathlib.Data.List.Basic

/-! # Partial transition systems

A system is given by a function that either refuses an event in the current
state or returns the next state. Programs enter as such functions, and so do
the schedulers and networks they run in: an event names which party moves and
what its environment answered. -/

namespace YrSandbox.Transition

variable {State : Type u} {Event : Type v}

/-- A partial step function: `none` refuses the event. -/
abbrev Step (State : Type u) (Event : Type v) := State → Event → Option State

def run (step : Step State Event) : State → List Event → Option State
  | state, [] => some state
  | state, event :: events =>
      (step state event).bind fun next => run step next events

/-- Every event of the run meets `condition` in the state in which it occurs. -/
def Meets (step : Step State Event) (condition : State → Event → Prop) :
    State → List Event → Prop
  | _, [] => True
  | state, event :: events =>
      condition state event ∧
        match step state event with
        | none => True
        | some next => Meets step condition next events

instance Meets.decidable (step : Step State Event)
    (condition : State → Event → Prop)
    [∀ state event, Decidable (condition state event)] :
    ∀ (state : State) (events : List Event),
      Decidable (Meets step condition state events)
  | _, [] => .isTrue trivial
  | state, event :: events =>
      match given : step state event with
      | none => decidable_of_iff (condition state event) (by simp [Meets, given])
      | some next =>
          have := Meets.decidable step condition next events
          decidable_of_iff (condition state event ∧ Meets step condition next events)
            (by simp [Meets, given])

def after (step : Step State Event) (state : State) (events : List Event) : State :=
  (run step state events).getD state

theorem run_eq_after {step : Step State Event} {state : State} {events : List Event}
    (accepted : (run step state events).isSome = true) :
    run step state events = some (after step state events) := by
  rcases Option.isSome_iff_exists.mp accepted with ⟨final, ran⟩
  rw [after, ran, Option.getD_some]

@[simp] theorem run_nil (step : Step State Event) (state : State) :
    run step state [] = some state := rfl

@[simp] theorem meets_nil (step : Step State Event)
    (condition : State → Event → Prop) (state : State) :
    Meets step condition state [] := trivial

theorem run_cons {step : Step State Event} {state final : State} {event : Event}
    {events : List Event} (ran : run step state (event :: events) = some final) :
    ∃ next, step state event = some next ∧ run step next events = some final :=
  Option.bind_eq_some_iff.mp ran

theorem Meets.head {step : Step State Event} {condition : State → Event → Prop}
    {state : State} {event : Event} {events : List Event}
    (meets : Meets step condition state (event :: events)) :
    condition state event := meets.1

theorem Meets.tail {step : Step State Event} {condition : State → Event → Prop}
    {state next : State} {event : Event} {events : List Event}
    (meets : Meets step condition state (event :: events))
    (stepped : step state event = some next) : Meets step condition next events := by
  have rest := meets.2
  simpa only [stepped] using rest

theorem Meets.congr {step : Step State Event} {left right : State → Event → Prop}
    (same : ∀ state event, left state event ↔ right state event) {state : State}
    {events : List Event} :
    Meets step left state events ↔ Meets step right state events := by
  have : left = right := by
    funext state event
    exact propext (same state event)
  rw [this]

theorem Meets.congr_under {step : Step State Event} {left right : State → Event → Prop}
    (invariant : State → Prop)
    (preserved : ∀ state event next, invariant state →
      step state event = some next → invariant next)
    (same : ∀ state event, invariant state → (left state event ↔ right state event))
    {state : State} {events : List Event} (holds : invariant state) :
    Meets step left state events ↔ Meets step right state events := by
  induction events generalizing state with
  | nil => exact Iff.rfl
  | cons event events induction =>
      rw [Meets, Meets, same state event holds]
      cases stepped : step state event with
      | none => exact Iff.rfl
      | some next =>
          have rest := induction (preserved state event next holds stepped)
          simp only [rest]

theorem Meets.and {step : Step State Event} {left right : State → Event → Prop}
    {state : State} {events : List Event} (meetsLeft : Meets step left state events)
    (meetsRight : Meets step right state events) :
    Meets step (fun state event => left state event ∧ right state event) state events := by
  induction events generalizing state with
  | nil => trivial
  | cons event events induction =>
      refine ⟨⟨meetsLeft.head, meetsRight.head⟩, ?_⟩
      cases stepped : step state event with
      | none => trivial
      | some next => exact induction (meetsLeft.tail stepped) (meetsRight.tail stepped)

theorem run_append {step : Step State Event} {state final : State}
    {before after : List Event}
    (ran : run step state (before ++ after) = some final) :
    ∃ middle, run step state before = some middle ∧
      run step middle after = some final := by
  induction before generalizing state with
  | nil => exact ⟨state, rfl, ran⟩
  | cons event events induction =>
      rcases run_cons ran with ⟨next, stepped, rest⟩
      rcases induction rest with ⟨middle, first, second⟩
      exact ⟨middle, by simpa [run, stepped] using first, second⟩

theorem Meets.append {step : Step State Event} {condition : State → Event → Prop}
    {state middle : State} {before after : List Event}
    (meets : Meets step condition state (before ++ after))
    (ran : run step state before = some middle) :
    Meets step condition state before ∧ Meets step condition middle after := by
  induction before generalizing state with
  | nil =>
      cases ran
      exact ⟨trivial, meets⟩
  | cons event events induction =>
      rcases run_cons ran with ⟨next, stepped, rest⟩
      rcases induction (meets.tail stepped) rest with ⟨first, second⟩
      refine ⟨⟨meets.head, ?_⟩, second⟩
      rw [stepped]
      exact first

/-- The rule for invariants of runs whose events all meet a condition: it is
enough that one such step preserves the invariant. -/
theorem invariant_under {step : Step State Event}
    {condition : State → Event → Prop} (invariant : State → Prop)
    (preserved : ∀ state event next, invariant state → condition state event →
      step state event = some next → invariant next) :
    ∀ {start final : State} {events : List Event}, invariant start →
      Meets step condition start events → run step start events = some final →
      invariant final := by
  intro start final events holds meets ran
  induction events generalizing start with
  | nil =>
      cases ran
      exact holds
  | cons event events induction =>
      rcases run_cons ran with ⟨next, stepped, rest⟩
      exact induction (preserved start event next holds meets.head stepped)
        (meets.tail stepped) rest

/-- The unconditional rule: a property that every step preserves holds after
every run that starts in it. -/
theorem invariant_of_run {step : Step State Event} (invariant : State → Prop)
    (preserved : ∀ state event next, invariant state →
      step state event = some next → invariant next)
    {start final : State} {events : List Event} (holds : invariant start)
    (ran : run step start events = some final) : invariant final := by
  have meets : ∀ (state : State) (events : List Event),
      Meets step (fun _ _ => True) state events := by
    intro state events
    induction events generalizing state with
    | nil => trivial
    | cons event events induction =>
        refine ⟨trivial, ?_⟩
        cases step state event with
        | none => trivial
        | some next => exact induction next
  exact invariant_under invariant
    (fun state event next holds _ stepped => preserved state event next holds stepped)
    holds (meets start events) ran

/-! ## What a run produces -/

def outputs {Output : Type w} (step : Step State Event)
    (output : State → Event → List Output) : State → List Event → List Output
  | _, [] => []
  | state, event :: events =>
      output state event ++
        match step state event with
        | none => []
        | some next => outputs step output next events

/-- The rule for logs: what every step appends is what the run appends. -/
theorem log_of_run {Output : Type w} {step : Step State Event}
    {output : State → Event → List Output} (invariant : State → Prop)
    (log : State → List Output)
    (preserved : ∀ state event next, invariant state →
      step state event = some next → invariant next)
    (appends : ∀ state event next, invariant state → step state event = some next →
      log next = log state ++ output state event)
    {start final : State} {events : List Event} (holds : invariant start)
    (ran : run step start events = some final) :
    log final = log start ++ outputs step output start events := by
  induction events generalizing start with
  | nil =>
      cases ran
      exact (List.append_nil _).symm
  | cons event events induction =>
      rcases run_cons ran with ⟨next, stepped, rest⟩
      rw [induction (preserved start event next holds stepped) rest,
        appends start event next holds stepped, outputs, stepped, List.append_assoc]

/-! ## How long a run can be -/

/-- The rule for variants: what every step decreases bounds the number of steps. -/
theorem length_le_of_run {step : Step State Event} (invariant : State → Prop)
    (variant : State → Nat)
    (preserved : ∀ state event next, invariant state →
      step state event = some next → invariant next)
    (decreases : ∀ state event next, invariant state →
      step state event = some next → variant next < variant state)
    {start final : State} {events : List Event} (holds : invariant start)
    (ran : run step start events = some final) :
    events.length + variant final ≤ variant start := by
  induction events generalizing start with
  | nil =>
      cases ran
      exact Nat.le_of_eq (Nat.zero_add _)
  | cons event events induction =>
      rcases run_cons ran with ⟨next, stepped, rest⟩
      have first := decreases start event next holds stepped
      have others := induction (preserved start event next holds stepped) rest
      rw [List.length_cons]
      omega

end YrSandbox.Transition
