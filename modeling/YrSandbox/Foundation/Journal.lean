import Mathlib.Data.List.Basic

/-! # Programs that ask an environment

A program asks for one action after the other, and an environment that may do anything
answers or refuses. The journal has all exchanges. What the rules prove of a journal holds
in every environment. -/

namespace YrSandbox

structure Exchange (Action Reply Error : Type) where
  action : Action
  reply : Except Error Reply

abbrev Asking (Action Reply Error State : Type) :=
  ExceptT Error (StateM (State × List (Exchange Action Reply Error)))

variable {Action Reply Error State α β ι : Type}

namespace Asking

def ask (environment : Action → State → Except Error Reply × State) (action : Action) :
    Asking Action Reply Error State Reply :=
  fun (state, journal) =>
    let (reply, next) := environment action state
    (reply, next, journal ++ [⟨action, reply⟩])

/-- `try` with an `except` that ignores whatever is raised. -/
def ignoring (program : Asking Action Reply Error State α) :
    Asking Action Reply Error State Unit :=
  fun start => (.ok (), (program start).2)

/-- `try` with `finally`; what the cleanup raises replaces what was raised. A program whose
value says that it has not ended is not cleaned up. -/
def ensuring (ended : α → Bool) (program : Asking Action Reply Error State α)
    (cleanup : Asking Action Reply Error State Unit) :
    Asking Action Reply Error State α :=
  fun start =>
    let (result, later) := program start
    if result.toOption.all ended then
      let (cleaned, last) := cleanup later
      (cleaned.bind fun _ => result, last)
    else (result, later)

/-- `returned` holds of what the program returns and of what it asked until then, and
`raised` if it raises. -/
def Journals (program : Asking Action Reply Error State α)
    (returned : α → List (Exchange Action Reply Error) → Prop)
    (raised : Error → List (Exchange Action Reply Error) → Prop) : Prop :=
  ∀ state journal, ∃ asked, (program (state, journal)).2.2 = journal ++ asked ∧
    match (program (state, journal)).1 with
    | .ok value => returned value asked
    | .error error => raised error asked

namespace Journals

variable {program : Asking Action Reply Error State α}
variable {next : α → Asking Action Reply Error State β}
variable {cleanup : Asking Action Reply Error State Unit}
variable {returned whole : α → List (Exchange Action Reply Error) → Prop}
variable {last : β → List (Exchange Action Reply Error) → Prop}
variable {raised failed : Error → List (Exchange Action Reply Error) → Prop}

theorem weaken (journals : Journals program returned raised)
    (returns : ∀ value asked, returned value asked → whole value asked)
    (raises : ∀ error asked, raised error asked → failed error asked) :
    Journals program whole failed := by
  intro state journal
  rcases journals state journal with ⟨asked, journaled, holds⟩
  refine ⟨asked, journaled, ?_⟩
  cases ran : (program (state, journal)).1 with
  | ok value =>
      rw [ran] at holds
      exact returns value asked holds
  | error error =>
      rw [ran] at holds
      exact raises error asked holds

theorem ask {environment : Action → State → Except Error Reply × State} {action : Action}
    {returned : Reply → List (Exchange Action Reply Error) → Prop}
    (answered : ∀ reply, returned reply [⟨action, .ok reply⟩])
    (refused : ∀ error, raised error [⟨action, .error error⟩]) :
    Journals (Asking.ask environment action) returned raised := by
  intro state journal
  refine ⟨[⟨action, (environment action state).1⟩], rfl, ?_⟩
  have same : (Asking.ask environment action (state, journal)).1 =
      (environment action state).1 := rfl
  rw [same]
  cases (environment action state).1 with
  | ok reply => exact answered reply
  | error error => exact refused error

theorem pure {value : α} (holds : returned value []) :
    Journals (Pure.pure value : Asking Action Reply Error State α) returned raised :=
  fun _ journal => ⟨[], (List.append_nil journal).symm, holds⟩

theorem throw {error : Error} (holds : raised error []) :
    Journals (MonadExcept.throw error : Asking Action Reply Error State α) returned
      raised :=
  fun _ journal => ⟨[], (List.append_nil journal).symm, holds⟩

theorem ofExcept {checked : Except Error α}
    (accepted : ∀ value, checked = .ok value → returned value [])
    (refused : ∀ error, checked = .error error → raised error []) :
    Journals (MonadExcept.ofExcept checked : Asking Action Reply Error State α) returned
      raised := by
  cases checked with
  | error error => exact throw (refused error rfl)
  | ok value => exact pure (accepted value rfl)

theorem bind (first : Journals program returned raised)
    (rest : ∀ value before, returned value before →
      Journals (next value) (fun result behind => last result (before ++ behind))
        fun error behind => raised error (before ++ behind)) :
    Journals (program >>= next) last raised := by
  intro state journal
  rcases first state journal with ⟨before, journaled, holds⟩
  have unfolded : (program >>= next) (state, journal) =
      match program (state, journal) with
      | (.ok value, later) => next value later
      | (.error error, later) => (.error error, later) := by
    simp only [Bind.bind, ExceptT.bind, ExceptT.mk, StateT.bind]
    rcases program (state, journal) with ⟨result, later⟩
    cases result <;> rfl
  rw [unfolded]
  generalize program (state, journal) = ran at journaled holds
  rcases ran with ⟨result, later, journalLater⟩
  dsimp only at journaled holds
  subst journaled
  cases result with
  | error error => exact ⟨before, rfl, holds⟩
  | ok value =>
      rcases rest value before holds later (journal ++ before) with ⟨behind, more, ends⟩
      exact ⟨before ++ behind, more.trans (List.append_assoc _ _ _), ends⟩

theorem ask_bind {environment : Action → State → Except Error Reply × State}
    {action : Action} {next : Reply → Asking Action Reply Error State β}
    (refused : ∀ error, raised error [⟨action, .error error⟩])
    (rest : ∀ reply, Journals (next reply)
      (fun result behind => last result (⟨action, .ok reply⟩ :: behind))
      fun error behind => raised error (⟨action, .ok reply⟩ :: behind)) :
    Journals (Asking.ask environment action >>= next) last raised := by
  have first : Journals (Asking.ask environment action)
      (fun reply asked => asked = [⟨action, .ok reply⟩]) raised :=
    ask (fun _ => rfl) refused
  apply bind first
  rintro reply _ rfl
  exact rest reply

theorem ofExcept_bind {checked : Except Error α}
    (refused : ∀ error, checked = .error error → raised error [])
    (rest : ∀ value, checked = .ok value → Journals (next value) last raised) :
    Journals ((MonadExcept.ofExcept checked : Asking Action Reply Error State α) >>= next)
      last raised := by
  have first : Journals (MonadExcept.ofExcept checked : Asking Action Reply Error State α)
      (fun value asked => checked = .ok value ∧ asked = []) raised :=
    ofExcept (fun _ accepted => ⟨accepted, rfl⟩) refused
  apply bind first
  rintro value _ ⟨accepted, rfl⟩
  exact rest value accepted

theorem ignoring {ignored : List (Exchange Action Reply Error) → Prop}
    (journals : Journals program (fun _ asked => ignored asked)
      fun _ asked => ignored asked) :
    Journals (Asking.ignoring program) (fun _ asked => ignored asked) raised := by
  intro state journal
  rcases journals state journal with ⟨asked, journaled, holds⟩
  refine ⟨asked, journaled, ?_⟩
  cases ran : (program (state, journal)).1 with
  | ok value =>
      rw [ran] at holds
      exact holds
  | error error =>
      rw [ran] at holds
      exact holds

theorem ensuring {ended : α → Bool} (first : Journals program returned raised)
    (goesOn : ∀ value asked, ended value = false → returned value asked →
      whole value asked)
    (cleans : ∀ value before, ended value = true → returned value before →
      Journals cleanup (fun _ behind => whole value (before ++ behind))
        fun error behind => failed error (before ++ behind))
    (raises : ∀ error before, raised error before →
      Journals cleanup (fun _ behind => failed error (before ++ behind))
        fun error behind => failed error (before ++ behind)) :
    Journals (Asking.ensuring ended program cleanup) whole failed := by
  intro state journal
  rcases first state journal with ⟨before, journaled, holds⟩
  rw [Asking.ensuring]
  generalize program (state, journal) = ran at journaled holds
  rcases ran with ⟨result, later, journalLater⟩
  dsimp only at journaled holds ⊢
  subst journaled
  cases result with
  | error error =>
      rcases raises error before holds later (journal ++ before) with ⟨behind, more, ends⟩
      refine ⟨before ++ behind, more.trans (List.append_assoc _ _ _), ?_⟩
      generalize cleanup (later, journal ++ before) = cleaned at ends
      rcases cleaned with ⟨_ | _, _⟩ <;> exact ends
  | ok value =>
      split
      · rename_i ended
        rcases cleans value before ended holds later (journal ++ before) with
          ⟨behind, more, ends⟩
        refine ⟨before ++ behind, more.trans (List.append_assoc _ _ _), ?_⟩
        generalize cleanup (later, journal ++ before) = cleaned at ends
        rcases cleaned with ⟨_ | _, _⟩ <;> exact ends
      · rename_i unended
        exact ⟨before, rfl, goesOn value before (Bool.eq_false_iff.mpr unended) holds⟩

theorem foldlM {step : β → ι → Asking Action Reply Error State β} {items : List ι}
    {start : β} (invariant : List ι → β → List (Exchange Action Reply Error) → Prop)
    (begins : invariant [] start [])
    (round : ∀ gone item value before, gone ++ [item] <+: items →
      invariant gone value before →
      Journals (step value item)
        (fun later behind => invariant (gone ++ [item]) later (before ++ behind))
        fun error behind => raised error (before ++ behind)) :
    Journals (items.foldlM step start) (invariant items) raised := by
  have loop : ∀ (rest gone : List ι) (value : β)
      (before : List (Exchange Action Reply Error)), gone ++ rest = items →
      invariant gone value before →
      Journals (rest.foldlM step value)
        (fun final behind => invariant items final (before ++ behind))
        fun error behind => raised error (before ++ behind) := by
    intro rest
    induction rest with
    | nil =>
        intro gone value before complete holds
        rw [List.append_nil] at complete
        apply pure
        simpa [← complete] using holds
    | cons item rest induction =>
        intro gone value before complete holds
        rw [List.append_cons] at complete
        rw [List.foldlM_cons]
        apply bind (round gone item value before ⟨rest, complete⟩ holds)
        intro later behind kept
        have further := induction (gone ++ [item]) later (before ++ behind) complete kept
        simpa only [List.append_assoc] using further
  exact loop items [] start [] rfl begins

end Journals

end Asking

end YrSandbox
