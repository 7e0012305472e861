import Mathlib.Data.Int.ConditionallyCompleteOrder
import Mathlib.Data.List.MinMax

/-! # Dictionaries in the order of insertion

A dictionary is the list of its entries. A key that is stored again keeps its place,
and the entry with the least value is the first such. -/

namespace YrSandbox.Association

theorem argmin_cons {Element : Type u} {Time : Type v} [LinearOrder Time]
    (time : Element → Time) (element : Element) (elements : List Element) :
    (element :: elements).argmin time =
      match elements.argmin time with
      | none => some element
      | some other => if time element ≤ time other then some element else some other := by
  rw [List.argmin_cons]
  cases elements.argmin time with
  | none => rfl
  | some other =>
      by_cases less : time other < time element
      · exact (if_pos less).trans (if_neg less.not_ge).symm
      · exact (if_neg less).trans (if_pos (not_lt.mp less)).symm

/-- `min(elements, key=time)`, the first of the least -/
def oldest {Element : Type u} {Time : Type v} [LE Time] [DecidableLE Time]
    (time : Element → Time) : List Element → Option Element
  | [] => none
  | element :: elements =>
      match oldest time elements with
      | none => some element
      | some other => if time element ≤ time other then some element else some other

theorem oldest_eq_argmin {Element : Type u} {Time : Type v} [LinearOrder Time]
    [DecidableLE Time] (time : Element → Time) (elements : List Element) :
    oldest time elements = elements.argmin time := by
  induction elements with
  | nil => rfl
  | cons element elements induction =>
      rw [oldest, induction, argmin_cons]
      cases elements.argmin time with
      | none => rfl
      | some other => by_cases less : time element ≤ time other <;> simp [less]

variable {Key : Type u} {Value : Type v} {Time : Type w} [DecidableEq Key]
  {key other : Key} {value stored : Value} {entries : List (Key × Value)}

def pop (key : Key) (entries : List (Key × Value)) : List (Key × Value) :=
  entries.eraseP fun entry => entry.1 = key

theorem pop_sublist : (pop key entries).Sublist entries := List.eraseP_sublist

theorem length_pop_argmin [LinearOrder Time] {time : Key × Value → Time}
    {entry : Key × Value} (least : entries.argmin time = some entry) :
    (pop entry.1 entries).length = entries.length - 1 :=
  List.length_eraseP_of_mem (List.argmin_mem least) (by simp)

variable [BEq Key]

def store (key : Key) (value : Value) (entries : List (Key × Value)) :
    List (Key × Value) :=
  if (entries.lookup key).isSome then
    entries.map fun entry => if entry.1 = key then (key, value) else entry
  else entries ++ [(key, value)]

theorem mem_store {entry : Key × Value} (isEntry : entry ∈ store key value entries) :
    entry ∈ entries ∨ entry = (key, value) := by
  rw [store] at isEntry
  split at isEntry
  · rcases List.mem_map.mp isEntry with ⟨older, isOlder, rfl⟩
    split
    · exact .inr rfl
    · exact .inl isOlder
  · rcases List.mem_append.mp isEntry with isOlder | isNew
    · exact .inl isOlder
    · exact .inr (List.mem_singleton.mp isNew)

theorem length_store_le (key : Key) (value : Value) (entries : List (Key × Value)) :
    (store key value entries).length ≤ entries.length + 1 := by
  rw [store]
  split
  · rw [List.length_map]
    exact Nat.le_succ _
  · rw [List.length_append]
    exact Nat.le_refl _

/-! ## What is looked up -/

variable [LawfulBEq Key]

theorem isSome_lookup :
    (entries.lookup key).isSome = true ↔ ∃ entry ∈ entries, entry.1 = key := by
  induction entries with
  | nil => simp
  | cons entry entries induction =>
      rcases entry with ⟨first, value⟩
      by_cases same : key = first
      · simp [same]
      · simp [List.lookup_cons, beq_false_of_ne same, induction, Ne.symm same]

theorem lookup_pop (different : other ≠ key) :
    (pop other entries).lookup key = entries.lookup key := by
  rw [pop]
  induction entries with
  | nil => rfl
  | cons entry entries induction =>
      rcases entry with ⟨first, value⟩
      by_cases erased : first = other
      · subst erased
        simp [List.lookup_cons, beq_false_of_ne different.symm]
      · rw [List.eraseP_cons_of_neg (by simpa using erased)]
        simp only [List.lookup_cons, induction]

/-- The entry of a key is the first one, so that it stays if it is kept. -/
theorem lookup_filter {keep : Key × Value → Bool}
    (found : entries.lookup key = some value) (kept : keep (key, value) = true) :
    (entries.filter keep).lookup key = some value := by
  induction entries with
  | nil => cases found
  | cons entry entries induction =>
      rcases entry with ⟨first, head⟩
      by_cases same : key = first
      · subst same
        simp only [List.lookup_cons, beq_self_eq_true] at found
        cases found
        rw [List.filter_cons_of_pos kept]
        simp
      · simp only [List.lookup_cons, beq_false_of_ne same] at found
        have rest := induction found
        rw [List.filter_cons]
        split
        · simpa only [List.lookup_cons, beq_false_of_ne same] using rest
        · exact rest

theorem lookup_store_self (key : Key) (value : Value) (entries : List (Key × Value)) :
    (store key value entries).lookup key = some value := by
  rw [store]
  split
  · rename_i known
    induction entries with
    | nil => cases known
    | cons entry entries induction =>
        rcases entry with ⟨first, head⟩
        by_cases same : key = first
        · subst same
          simp
        · simp only [List.lookup_cons, beq_false_of_ne same] at known
          rw [List.map_cons, if_neg (Ne.symm same)]
          simp only [List.lookup_cons, beq_false_of_ne same]
          exact induction known
  · rename_i unknown
    rw [Bool.not_eq_true, Option.isSome_eq_false_iff, Option.isNone_iff_eq_none] at unknown
    rw [List.lookup_append, unknown]
    simp

theorem lookup_store_other (different : key ≠ other) :
    (store other stored entries).lookup key = entries.lookup key := by
  rw [store]
  split
  · rename_i known
    clear known
    induction entries with
    | nil => rfl
    | cons entry entries induction =>
        rcases entry with ⟨first, head⟩
        by_cases replaced : first = other
        · subst replaced
          simp only [List.map_cons, List.lookup_cons, beq_false_of_ne different, if_true,
            induction]
        · rw [List.map_cons, if_neg replaced]
          simp only [List.lookup_cons, induction]
  · rw [List.lookup_append]
    simp [List.lookup_cons, beq_false_of_ne different]

/-! ## Keys without values -/

section FromKeys

variable {Item : Type u} [DecidableEq Item]

/-- `dict.fromkeys(items)`, the keys of it. -/
def fromKeys (items : List Item) : List Item :=
  items.foldl (fun keys item => if item ∈ keys then keys else keys ++ [item]) []

theorem fromKeys_append_singleton (items : List Item) (item : Item) :
    fromKeys (items ++ [item]) =
      if item ∈ fromKeys items then fromKeys items else fromKeys items ++ [item] := by
  rw [fromKeys, List.foldl_append]
  rfl

theorem mem_fromKeys {items : List Item} {item : Item} :
    item ∈ fromKeys items ↔ item ∈ items := by
  induction items using List.reverseRecOn generalizing item with
  | nil => rfl
  | append_singleton items last induction =>
      rw [fromKeys_append_singleton]
      by_cases known : last ∈ fromKeys items
      · rw [if_pos known, List.mem_append, List.mem_singleton, induction,
          or_iff_left_of_imp]
        exact fun isLast => isLast ▸ induction.mp known
      · rw [if_neg known, List.mem_append, List.mem_append, induction]

theorem pairwise_fromKeys [BEq Item] [LawfulBEq Item] (items : List Item) :
    (fromKeys items).Pairwise fun earlier later =>
      items.idxOf earlier < items.idxOf later := by
  induction items using List.reverseRecOn with
  | nil => exact List.Pairwise.nil
  | append_singleton items last induction =>
      have place {item : Item} (isKey : item ∈ fromKeys items) :
          (items ++ [last]).idxOf item = items.idxOf item := by
        rw [List.idxOf_append, if_pos (mem_fromKeys.mp isKey)]
      have older : (fromKeys items).Pairwise fun earlier later =>
          (items ++ [last]).idxOf earlier < (items ++ [last]).idxOf later :=
        induction.imp_of_mem fun isEarlier isLater less => by
          rwa [place isEarlier, place isLater]
      rw [fromKeys_append_singleton]
      by_cases known : last ∈ fromKeys items
      · rwa [if_pos known]
      · rw [if_neg known, List.pairwise_append]
        refine ⟨older, List.pairwise_singleton _ _, ?_⟩
        intro earlier isEarlier item isItem
        have new : last ∉ items := fun member => known (mem_fromKeys.mpr member)
        rw [List.mem_singleton.mp isItem, place isEarlier, List.idxOf_append, if_neg new]
        exact Nat.lt_of_lt_of_le (List.idxOf_lt_length_of_mem (mem_fromKeys.mp isEarlier))
          (Nat.le_add_left _ _)

theorem nodup_fromKeys (items : List Item) : (fromKeys items).Nodup :=
  (pairwise_fromKeys items).imp fun less equal => (equal ▸ less).false

theorem fromKeys_of_nodup {items : List Item} (once : items.Nodup) :
    fromKeys items = items := by
  induction items using List.reverseRecOn with
  | nil => rfl
  | append_singleton items last induction =>
      rw [List.nodup_append] at once
      rcases once with ⟨front, -, apart⟩
      rw [fromKeys_append_singleton, induction front, if_neg]
      exact fun member => apart last member last (List.mem_singleton_self last) rfl

end FromKeys

end YrSandbox.Association
