import Mathlib.Algebra.GroupWithZero.Nat
import Mathlib.Data.List.Nodup
import YrSandbox.Foundation.Association

/-! # Eviction of the oldest

A dictionary that is kept within two bounds: as long as its length or its size breaks one,
the entry with the least time is taken out. The size is kept beside the dictionary and is
not counted again. -/

namespace YrSandbox.Eviction

inductive LookupError
  | emptySequence -- the least of nothing
  | missingKey
deriving DecidableEq, Repr

structure Bounds (Value : Type u) (Time : Type v) where
  size : Value → Nat
  time : Value → Time
  length : Nat
  total : Nat

variable {Key : Type u} {Value : Type v} {Time : Type w}

def Distinct (entries : List (Key × Value)) : Prop := (entries.map Prod.fst).Nodup

structure State (Key : Type u) (Value : Type v) where
  entries : List (Key × Value)
  size : Int

namespace Bounds

variable (bounds : Bounds Value Time)

def sizeOf (entries : List (Key × Value)) : Nat :=
  (entries.map fun entry => bounds.size entry.2).sum

def Broken (entries : List (Key × Value)) : Prop :=
  bounds.length < entries.length ∨ bounds.total < bounds.sizeOf entries

def exceeded (state : State Key Value) : Bool :=
  decide (bounds.length < state.entries.length) ||
    decide ((bounds.total : Int) < state.size)

variable [DecidableEq Key] [LinearOrder Time]

def round (state : State Key Value) : Except LookupError (State Key Value) :=
  match state.entries.argmin fun entry => bounds.time entry.2 with
  | none => .error .emptySequence
  | some oldest =>
      match state.entries.lookup oldest.1 with
      | none => .error .missingKey
      | some evicted => .ok {
          entries := Association.pop oldest.1 state.entries
          size := state.size - bounds.size evicted }

/-- The loop, which does not end if it is not through in `rounds` rounds. -/
def evict : Nat → State Key Value → Option (Except LookupError (State Key Value))
  | 0, state => if bounds.exceeded state then none else some (.ok state)
  | rounds + 1, state =>
      if bounds.exceeded state then
        match bounds.round state with
        | .error error => some (.error error)
        | .ok next => evict rounds next
      else some (.ok state)

/-- What eviction leaves of entries: the newest, and of these as many as there may be. -/
structure Leaves (entries kept : List (Key × Value)) : Prop where
  sublist : kept.Sublist entries
  within : ¬bounds.Broken kept
  newer : ∀ evicted ∈ entries, evicted ∉ kept → ∀ entry ∈ kept,
    bounds.time evicted.2 ≤ bounds.time entry.2
  needed : ∀ evicted ∈ entries, evicted ∉ kept →
    bounds.Broken (entries.filter fun entry => bounds.time evicted.2 ≤ bounds.time entry.2)

end Bounds

/-! ## Sizes and bounds -/

theorem without_sublist (before : List (Key × Value)) (entry : Key × Value)
    (after : List (Key × Value)) :
    (before ++ after).Sublist (before ++ entry :: after) :=
  List.Sublist.append (List.Sublist.refl before) (List.sublist_cons_self entry after)

namespace Bounds

variable (bounds : Bounds Value Time)

theorem sizeOf_append (before after : List (Key × Value)) :
    bounds.sizeOf (before ++ after) = bounds.sizeOf before + bounds.sizeOf after := by
  rw [sizeOf, List.map_append, List.sum_append, ← sizeOf, ← sizeOf]

theorem sizeOf_cons (entry : Key × Value) (entries : List (Key × Value)) :
    bounds.sizeOf (entry :: entries) = bounds.size entry.2 + bounds.sizeOf entries := by
  rw [sizeOf, List.map_cons, List.sum_cons, ← sizeOf]

theorem sizeOf_le_of_sublist {part entries : List (Key × Value)}
    (sublist : part.Sublist entries) : bounds.sizeOf part ≤ bounds.sizeOf entries := by
  induction sublist with
  | slnil => exact Nat.le_refl _
  | cons entry sublist induction =>
      rw [sizeOf_cons]
      exact Nat.le_trans induction (Nat.le_add_left _ _)
  | cons_cons entry sublist induction =>
      rw [sizeOf_cons, sizeOf_cons]
      exact Nat.add_le_add_left induction _

theorem Broken.of_sublist {part entries : List (Key × Value)} (broken : bounds.Broken part)
    (sublist : part.Sublist entries) : bounds.Broken entries := by
  rcases broken with long | large
  · exact .inl (Nat.lt_of_lt_of_le long sublist.length_le)
  · exact .inr (Nat.lt_of_lt_of_le large (bounds.sizeOf_le_of_sublist sublist))

theorem not_broken_nil : ¬bounds.Broken ([] : List (Key × Value)) := by
  simp [Broken, sizeOf]

def Exact (state : State Key Value) : Prop := state.size = bounds.sizeOf state.entries

theorem exceeded_iff {state : State Key Value} (exact_ : bounds.Exact state) :
    bounds.exceeded state = true ↔ bounds.Broken state.entries := by
  rw [Exact] at exact_
  simp [exceeded, Broken, exact_]

variable [LinearOrder Time]

theorem exists_oldest {entries : List (Key × Value)} (broken : bounds.Broken entries) :
    ∃ oldest, (entries.argmin fun entry => bounds.time entry.2) = some oldest := by
  cases least : entries.argmin fun entry => bounds.time entry.2 with
  | none => exact absurd (List.argmin_eq_none.mp least ▸ broken) bounds.not_broken_nil
  | some oldest => exact ⟨oldest, rfl⟩

theorem leaves_refl {entries : List (Key × Value)} (within : ¬bounds.Broken entries) :
    bounds.Leaves entries entries where
  sublist := List.Sublist.refl entries
  within := within
  newer _ member evicted := absurd member evicted
  needed _ member evicted := absurd member evicted

theorem Leaves.round {before after kept : List (Key × Value)} {oldest : Key × Value}
    (broken : bounds.Broken (before ++ oldest :: after))
    (least : ∀ entry ∈ before ++ oldest :: after,
      bounds.time oldest.2 ≤ bounds.time entry.2)
    (leaves : bounds.Leaves (before ++ after) kept) :
    bounds.Leaves (before ++ oldest :: after) kept := by
  have fewer := without_sublist before oldest after
  have either {entry : Key × Value} (member : entry ∈ before ++ oldest :: after) :
      entry = oldest ∨ entry ∈ before ++ after := by
    simp only [List.mem_append, List.mem_cons] at member ⊢
    tauto
  constructor
  · exact leaves.sublist.trans fewer
  · exact leaves.within
  · intro evicted member gone entry isKept
    rcases either member with rfl | earlier
    · exact least entry (fewer.mem (leaves.sublist.mem isKept))
    · exact leaves.newer evicted earlier gone entry isKept
  · intro evicted member gone
    rcases either member with rfl | earlier
    · have all : ((before ++ evicted :: after).filter fun entry =>
          bounds.time evicted.2 ≤ bounds.time entry.2) = before ++ evicted :: after := by
        rw [List.filter_eq_self]
        exact fun entry isEntry => decide_eq_true (least entry isEntry)
      rwa [all]
    · exact (leaves.needed evicted earlier gone).of_sublist bounds (fewer.filter _)

end Bounds

/-! ## Dictionaries -/

theorem Distinct.sublist {entries part : List (Key × Value)} (distinct : Distinct entries)
    (sublist : part.Sublist entries) : Distinct part :=
  List.Nodup.sublist (sublist.map Prod.fst) distinct

theorem Distinct.eq_of_key {entries : List (Key × Value)} (distinct : Distinct entries)
    {entry other : Key × Value} (member : entry ∈ entries) (otherMember : other ∈ entries)
    (same : entry.1 = other.1) : entry = other :=
  List.inj_on_of_nodup_map distinct member otherMember same

variable [DecidableEq Key]

theorem Distinct.split {entries : List (Key × Value)} (distinct : Distinct entries)
    {entry : Key × Value} (member : entry ∈ entries) :
    ∃ before after, entries = before ++ entry :: after ∧
      entries.lookup entry.1 = some entry.2 ∧
      Association.pop entry.1 entries = before ++ after := by
  rcases List.append_of_mem member with ⟨before, after, rfl⟩
  have others : ∀ other ∈ before, other.1 ≠ entry.1 := by
    intro other isBefore same
    rw [Distinct, List.map_append, List.nodup_append] at distinct
    exact distinct.2.2 other.1 (List.mem_map_of_mem isBefore) entry.1
      (List.mem_map_of_mem List.mem_cons_self) same
  refine ⟨before, after, rfl, ?_, ?_⟩
  · have absent : before.lookup entry.1 = none := by
      rw [List.lookup_eq_none_iff]
      exact fun other isBefore => by simpa using (others other isBefore).symm
    rw [List.lookup_append, absent, Option.none_or, List.lookup_cons_self]
  · rw [Association.pop, List.eraseP_append_right _ (by simpa using others),
      List.eraseP_cons_of_pos (by simp)]

theorem Distinct.store [BEq Key] [LawfulBEq Key] {entries : List (Key × Value)}
    (distinct : Distinct entries) (key : Key) (value : Value) :
    Distinct (Association.store key value entries) := by
  rw [Association.store]
  split
  · have keys :
        (entries.map fun entry =>
          if entry.1 = key then (key, value) else entry).map Prod.fst =
            entries.map Prod.fst := by
      rw [List.map_map]
      apply List.map_congr_left
      intro entry _
      by_cases same : entry.1 = key <;> simp [same]
    rwa [Distinct, keys]
  · rename_i absent
    have new : key ∉ entries.map Prod.fst := by
      intro isKey
      rcases List.mem_map.mp isKey with ⟨entry, member, same⟩
      exact absent (Association.isSome_lookup.mpr ⟨entry, member, same⟩)
    rw [Distinct, List.map_append, List.map_cons, List.map_nil]
    apply List.nodup_append.mpr ⟨distinct, List.nodup_singleton key, ?_⟩
    intro earlier isKey other isOther equal
    rw [equal, List.mem_singleton.mp isOther] at isKey
    exact new isKey

def popAll (keys : List Key) (entries : List (Key × Value)) : List (Key × Value) :=
  keys.foldl (fun entries key => Association.pop key entries) entries

theorem Distinct.pop_eq_filter {entries : List (Key × Value)} (distinct : Distinct entries)
    (key : Key) :
    Association.pop key entries = entries.filter fun entry => entry.1 ≠ key := by
  rw [Association.pop]
  induction entries with
  | nil => rfl
  | cons entry entries induction =>
      rw [Distinct, List.map_cons, List.nodup_cons] at distinct
      by_cases same : entry.1 = key
      · have others : ∀ other ∈ entries, other.1 ≠ key := fun other member equal =>
          distinct.1 (List.mem_map.mpr ⟨other, member, equal.trans same.symm⟩)
        have all : (entries.filter fun other => other.1 ≠ key) = entries := by
          rw [List.filter_eq_self]
          exact fun other member => decide_eq_true (others other member)
        rw [List.eraseP_cons_of_pos (by simpa using same),
          List.filter_cons_of_neg (by simpa using same), all]
      · rw [List.eraseP_cons_of_neg (by simpa using same),
          List.filter_cons_of_pos (by simpa using same), induction distinct.2]

theorem Distinct.popAll_eq_filter {entries : List (Key × Value)}
    (distinct : Distinct entries) (keys : List Key) :
    popAll keys entries = entries.filter fun entry => entry.1 ∉ keys := by
  induction keys generalizing entries with
  | nil => simp [popAll]
  | cons key keys induction =>
      have rest := induction (distinct.sublist
        (List.filter_sublist (p := fun entry => decide (entry.1 ≠ key))))
      rw [popAll, List.foldl_cons, distinct.pop_eq_filter, ← popAll, rest,
        List.filter_filter]
      apply List.filter_congr
      intro entry _
      simp [Bool.and_comm]

theorem Distinct.lookup_eq_some_iff [BEq Key] [LawfulBEq Key]
    {entries : List (Key × Value)} (distinct : Distinct entries) {key : Key}
    {value : Value} : entries.lookup key = some value ↔ (key, value) ∈ entries := by
  have isEntry {found : Value} (looked : entries.lookup key = some found) :
      (key, found) ∈ entries := by
    rcases List.lookup_eq_some_iff.mp looked with ⟨before, after, rfl, _⟩
    exact List.mem_append_right _ List.mem_cons_self
  refine ⟨isEntry, fun member => ?_⟩
  have known := Association.isSome_lookup.mpr ⟨(key, value), member, rfl⟩
  rcases Option.isSome_iff_exists.mp known with ⟨found, looked⟩
  cases distinct.eq_of_key (isEntry looked) member rfl
  exact looked

theorem Distinct.mem_pop {entries : List (Key × Value)} (distinct : Distinct entries)
    {key : Key} {entry : Key × Value} :
    entry ∈ Association.pop key entries ↔ entry ∈ entries ∧ entry.1 ≠ key := by
  rw [distinct.pop_eq_filter, List.mem_filter, decide_eq_true_eq]

theorem Distinct.popAll_keys {entries : List (Key × Value)} (distinct : Distinct entries)
    (drop : Key × Value → Bool) :
    popAll ((entries.filter drop).map Prod.fst) entries = entries.filter (!drop ·) := by
  rw [distinct.popAll_eq_filter]
  apply List.filter_congr
  intro entry member
  have dropped : entry.1 ∈ (entries.filter drop).map Prod.fst ↔ drop entry = true := by
    constructor
    · intro isKey
      rcases List.mem_map.mp isKey with ⟨other, isDropped, same⟩
      rcases List.mem_filter.mp isDropped with ⟨otherMember, drops⟩
      rwa [distinct.eq_of_key member otherMember same.symm]
    · exact fun drops => List.mem_map_of_mem (List.mem_filter.mpr ⟨member, drops⟩)
  rw [decide_not, Bool.not_inj_iff, Bool.eq_iff_iff, decide_eq_true_eq]
  exact dropped

/-! ## Rounds -/

namespace Bounds

variable [LinearOrder Time] (bounds : Bounds Value Time)

theorem round_eq_ok {state : State Key Value} (distinct : Distinct state.entries)
    (exact_ : bounds.Exact state) {oldest : Key × Value}
    (least : (state.entries.argmin fun entry => bounds.time entry.2) = some oldest) :
    ∃ before after next, state.entries = before ++ oldest :: after ∧
      Association.pop oldest.1 state.entries = before ++ after ∧
      bounds.round state = .ok next ∧ next.entries = before ++ after ∧
      bounds.Exact next := by
  rcases distinct.split (List.argmin_mem least) with ⟨before, after, split, looked, erased⟩
  refine ⟨before, after, ⟨before ++ after, state.size - bounds.size oldest.2⟩, split,
    erased, ?_, rfl, ?_⟩
  · simp only [round, least, looked, erased]
  · have whole : bounds.sizeOf state.entries =
        bounds.size oldest.2 + bounds.sizeOf (before ++ after) := by
      rw [split, sizeOf_append, sizeOf_cons, sizeOf_append, Nat.add_left_comm]
    rw [Exact] at exact_ ⊢
    simp only [exact_, whole]
    omega

theorem evict_of_not_broken {state : State Key Value} (exact_ : bounds.Exact state)
    (within : ¬bounds.Broken state.entries) (rounds : Nat) :
    bounds.evict rounds state = some (.ok state) := by
  rw [← bounds.exceeded_iff exact_] at within
  cases rounds <;> rw [evict, if_neg within]

theorem evict_leaves {state : State Key Value} (distinct : Distinct state.entries)
    (exact_ : bounds.Exact state) :
    ∃ final, bounds.Leaves state.entries final.entries ∧
      ∀ rounds, state.entries.length ≤ rounds →
        bounds.evict rounds state = some (.ok final) := by
  induction length : state.entries.length generalizing state with
  | zero =>
      have within : ¬bounds.Broken state.entries := by
        rw [List.eq_nil_of_length_eq_zero length]
        exact bounds.not_broken_nil
      exact ⟨state, bounds.leaves_refl within,
        fun rounds _ => bounds.evict_of_not_broken exact_ within rounds⟩
  | succ length_ induction =>
      by_cases broken : bounds.Broken state.entries
      · rcases bounds.exists_oldest broken with ⟨oldest, isOldest⟩
        rcases bounds.round_eq_ok distinct exact_ isOldest with
          ⟨before, after, next, split, -, made, rest, exactNext⟩
        have least : ∀ entry ∈ state.entries, bounds.time oldest.2 ≤ bounds.time entry.2 :=
          fun entry member =>
            List.le_of_mem_argmin (f := fun entry => bounds.time entry.2) member isOldest
        rw [split] at broken least distinct
        have fewer := without_sublist before oldest after
        have shorter : next.entries.length = length_ := by
          rw [split, List.length_append, List.length_cons] at length
          rw [rest, List.length_append]
          omega
        rcases induction (rest ▸ distinct.sublist fewer) exactNext shorter with
          ⟨final, leaves, ends⟩
        rw [rest] at leaves
        refine ⟨final, split ▸ leaves.round bounds broken least, fun rounds enough => ?_⟩
        rw [← split, ← bounds.exceeded_iff exact_] at broken
        cases rounds with
        | zero => omega
        | succ rounds =>
            rw [evict, if_pos broken, made]
            exact ends rounds (Nat.le_of_succ_le_succ enough)
      · exact ⟨state, bounds.leaves_refl broken,
          fun rounds _ => bounds.evict_of_not_broken exact_ broken rounds⟩

end Bounds

end YrSandbox.Eviction
