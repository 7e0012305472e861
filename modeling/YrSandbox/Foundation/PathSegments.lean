import Mathlib.Algebra.GroupWithZero.Nat
import Mathlib.Data.List.Basic

/-! # Paths as lists of segments

A path is what its segments spell with a separator between them. The operations
here tidy a list of segments: one drops empty segments, one resolves the segments
that stand for the present and for the parent directory. Neither makes a path
longer, and a path that keeps its length was tidy before. -/

namespace YrSandbox.PathSegments

variable {α : Type u}

def weight (segments : List (List α)) : Nat :=
  (segments.map fun segment => segment.length + 1).sum

@[simp] theorem weight_nil : weight ([] : List (List α)) = 0 := rfl

@[simp] theorem weight_cons (segment : List α) (segments : List (List α)) :
    weight (segment :: segments) = segment.length + 1 + weight segments := by
  simp [weight]

@[simp] theorem weight_append (left right : List (List α)) :
    weight (left ++ right) = weight left + weight right := by
  simp [weight]

theorem weight_dropLast_le (segments : List (List α)) :
    weight segments.dropLast ≤ weight segments := by
  rcases List.eq_nil_or_concat segments with rfl | ⟨others, last, rfl⟩
  · exact Nat.le_refl 0
  · simp

theorem weight_le_of_mem {segment : List α} {segments : List (List α)}
    (member : segment ∈ segments) : segment.length + 1 ≤ weight segments := by
  induction segments with
  | nil => cases member
  | cons first rest induction =>
      rw [weight_cons]
      rcases List.mem_cons.mp member with rfl | later
      · omega
      · have inside := induction later
        omega

theorem length_intercalate (separator : α) {segments : List (List α)}
    (nonempty : segments ≠ []) :
    ([separator].intercalate segments).length + 1 = weight segments := by
  induction segments with
  | nil => exact absurd rfl nonempty
  | cons segment segments induction =>
      cases segments with
      | nil => simp
      | cons other others =>
          have rest := induction (by simp)
          simp only [List.intercalate_cons_cons, List.length_append, List.length_cons,
            List.length_nil, weight_cons] at rest ⊢
          omega

theorem mem_intercalate_of_mem (separator : α) {element : α} {segment : List α}
    {segments : List (List α)} (among : segment ∈ segments) (inside : element ∈ segment) :
    element ∈ [separator].intercalate segments := by
  induction segments with
  | nil => cases among
  | cons first segments induction =>
      cases segments with
      | nil =>
          rw [List.mem_singleton.mp among] at inside
          simpa using inside
      | cons other others =>
          rw [List.intercalate_cons_cons, List.append_assoc]
          rcases List.mem_cons.mp among with rfl | later
          · exact List.mem_append_left _ inside
          · exact List.mem_append_right _ (List.mem_append_right _ (induction later))

theorem mem_intercalate {separator element : α} {segments : List (List α)}
    (member : element ∈ [separator].intercalate segments) :
    element = separator ∨ ∃ segment ∈ segments, element ∈ segment := by
  induction segments with
  | nil => cases member
  | cons segment segments induction =>
      cases segments with
      | nil => exact .inr ⟨segment, by simp, by simpa using member⟩
      | cons other others =>
          rw [List.intercalate_cons_cons, List.append_assoc, List.mem_append] at member
          rcases member with here | later
          · exact .inr ⟨segment, by simp, here⟩
          · rcases List.mem_append.mp later with isSeparator | rest
            · exact .inl (List.mem_singleton.mp isSeparator)
            · rcases induction rest with isSeparator | ⟨found, among, inside⟩
              · exact .inl isSeparator
              · exact .inr ⟨found, List.mem_cons_of_mem _ among, inside⟩

/-! ## Empty segments -/

def squeeze : List (List α) → List (List α)
  | [] => []
  | first :: rest => first :: (rest.dropLast.filter (!·.isEmpty) ++ rest.getLast?.toList)

theorem squeeze_concat (first last : List α) (inner : List (List α)) :
    squeeze (first :: (inner ++ [last])) =
      first :: (inner.filter (!·.isEmpty) ++ [last]) := by
  simp [squeeze]

theorem mem_of_mem_squeeze {segment : List α} {segments : List (List α)}
    (member : segment ∈ squeeze segments) : segment ∈ segments := by
  cases segments with
  | nil => cases member
  | cons first rest =>
      rcases List.eq_nil_or_concat rest with rfl | ⟨inner, last, rfl⟩
      · exact member
      · rw [List.concat_eq_append, squeeze_concat] at member
        rw [List.concat_eq_append]
        simp only [List.mem_cons, List.mem_append, List.mem_filter, List.not_mem_nil,
          or_false] at member ⊢
        rcases member with isFirst | ⟨inside, _⟩ | isLast
        · exact .inl isFirst
        · exact .inr (.inl inside)
        · exact .inr (.inr isLast)

theorem squeeze_empty (first : List α) (inner : List (List α)) {others : List (List α)}
    (more : others ≠ []) :
    squeeze (first :: (inner ++ [] :: others)) = squeeze (first :: (inner ++ others)) := by
  rcases List.eq_nil_or_concat others with rfl | ⟨rest, last, rfl⟩
  · exact absurd rfl more
  · have left := squeeze_concat first last (inner ++ [] :: rest)
    have right := squeeze_concat first last (inner ++ rest)
    simp only [List.append_assoc, List.cons_append, List.filter_append] at left right
    rw [List.concat_eq_append, left, right, List.filter_cons_of_neg (by simp)]

theorem weight_filter (segments : List (List α)) :
    weight (segments.filter (!·.isEmpty)) + segments.countP (·.isEmpty) =
      weight segments := by
  induction segments with
  | nil => rfl
  | cons segment segments induction =>
      cases segment with
      | nil => simp; omega
      | cons element elements => simp; omega

/-! ## Segments that stand for directories -/

section Resolve

variable [DecidableEq α] (here parent : List α)

def push (stack : List (List α)) (segment : List α) : List (List α) :=
  if segment = parent then stack.dropLast
  else if segment = here then stack
  else stack ++ [segment]

/-- Resolve all segments. A path that ends in a directory keeps its last
separator. -/
def resolve (segments : List (List α)) : List (List α) :=
  let resolved := segments.foldl (push here parent) []
  if segments.getLast? = some here ∨ segments.getLast? = some parent then resolved ++ [[]]
  else resolved

def Normal (segments : List (List α)) : Prop :=
  (∀ segment ∈ segments, segment ≠ here ∧ segment ≠ parent) ∧
    ∀ segment ∈ segments.dropLast, segment ≠ []

instance (segments : List (List α)) : Decidable (Normal here parent segments) :=
  inferInstanceAs (Decidable (_ ∧ _))

variable {here parent}

theorem foldl_push {segments : List (List α)} (stack : List (List α))
    (plain : ∀ segment ∈ segments, segment ≠ here ∧ segment ≠ parent) :
    segments.foldl (push here parent) stack = stack ++ segments := by
  induction segments generalizing stack with
  | nil => simp
  | cons segment segments induction =>
      rcases plain segment (by simp) with ⟨notHere, notParent⟩
      rw [List.foldl_cons, push, if_neg notParent, if_neg notHere,
        induction _ fun other member => plain other (List.mem_cons_of_mem _ member)]
      simp

theorem resolve_eq {segments : List (List α)}
    (plain : ∀ segment ∈ segments, segment ≠ here ∧ segment ≠ parent) :
    resolve here parent segments = segments := by
  have lastPlain : ¬(segments.getLast? = some here ∨ segments.getLast? = some parent) := by
    intro directory
    rcases directory with last | last
    · exact (plain here (List.mem_of_getLast? last)).1 rfl
    · exact (plain parent (List.mem_of_getLast? last)).2 rfl
  rw [resolve, if_neg lastPlain, foldl_push [] plain, List.nil_append]

theorem mem_of_mem_foldl_push {segment : List α} {segments stack : List (List α)}
    (member : segment ∈ segments.foldl (push here parent) stack) :
    segment ∈ stack ∨ segment ∈ segments := by
  induction segments generalizing stack with
  | nil => exact .inl member
  | cons first rest induction =>
      rcases induction member with pushed | later
      · unfold push at pushed
        split at pushed
        · exact .inl (List.dropLast_subset _ pushed)
        · split at pushed
          · exact .inl pushed
          · rcases List.mem_append.mp pushed with before | isFirst
            · exact .inl before
            · exact .inr (by simp [List.mem_singleton.mp isFirst])
      · exact .inr (List.mem_cons_of_mem _ later)

theorem mem_of_mem_resolve {segment : List α} {segments : List (List α)}
    (member : segment ∈ resolve here parent segments) :
    segment = [] ∨ segment ∈ segments := by
  have pushed : segment ∈ segments.foldl (push here parent) [] → segment ∈ segments :=
    fun inside => (mem_of_mem_foldl_push inside).resolve_left (by simp)
  simp only [resolve] at member
  split at member
  · rcases List.mem_append.mp member with inside | last
    · exact .inr (pushed inside)
    · exact .inl (List.mem_singleton.mp last)
  · exact .inr (pushed member)

variable (here parent) in
theorem weight_foldl_push (segments stack : List (List α)) :
    weight (segments.foldl (push here parent) stack) +
        weight (segments.filter fun segment => segment = here ∨ segment = parent) ≤
      weight stack + weight segments := by
  induction segments generalizing stack with
  | nil => simp
  | cons segment segments induction =>
      have rest := induction (push here parent stack segment)
      have shorter := weight_dropLast_le stack
      rw [List.foldl_cons, weight_cons]
      by_cases isParent : segment = parent
      · have pushed : push here parent stack segment = stack.dropLast := if_pos isParent
        rw [List.filter_cons_of_pos (by simp [isParent]), weight_cons]
        rw [pushed] at rest ⊢
        omega
      · by_cases isHere : segment = here
        · have pushed : push here parent stack segment = stack := by
            rw [push, if_neg isParent, if_pos isHere]
          rw [List.filter_cons_of_pos (by simp [isHere]), weight_cons]
          rw [pushed] at rest ⊢
          omega
        · have pushed : push here parent stack segment = stack ++ [segment] := by
            rw [push, if_neg isParent, if_neg isHere]
          rw [List.filter_cons_of_neg (by simp [isParent, isHere])]
          rw [pushed] at rest ⊢
          rw [weight_append, weight_cons, weight_nil] at rest
          omega

variable (here parent) in
theorem prefix_foldl_push {segments : List (List α)} (stack : List (List α))
    (below : parent ∉ segments) : stack <+: segments.foldl (push here parent) stack := by
  induction segments generalizing stack with
  | nil => exact List.prefix_refl stack
  | cons segment segments induction =>
      rw [List.mem_cons, not_or] at below
      refine List.IsPrefix.trans ?_ (induction _ below.2)
      rw [push, if_neg (Ne.symm below.1)]
      split
      · exact List.prefix_refl stack
      · exact List.prefix_append stack _

/-! ## Tidy paths -/

def rooted (separator : α) (path : List α) : List α :=
  if path.head? = some separator then path else separator :: path

theorem length_rooted_le (separator : α) (path : List α) :
    (rooted separator path).length ≤ path.length + 1 := by
  unfold rooted
  split <;> simp

theorem rooted_intercalate (separator : α) (segments : List (List α))
    (more : segments ≠ []) :
    rooted separator ([separator].intercalate ([] :: segments)) =
      [separator].intercalate ([] :: segments) := by
  cases segments with
  | nil => exact absurd rfl more
  | cons segment segments => simp [rooted, List.intercalate_cons_cons]

variable (here parent) in
theorem plain_or_shorter (separator : α) (segments : List (List α))
    (hereLong : 1 ≤ here.length) (parentLong : 2 ≤ parent.length) :
    (∀ segment ∈ segments, segment ≠ here ∧ segment ≠ parent) ∨
      (rooted separator
          ([separator].intercalate (resolve here parent ([] :: segments)))).length + 1 <
        weight ([] :: segments) := by
  by_cases plain : ∀ segment ∈ segments, segment ≠ here ∧ segment ≠ parent
  · exact .inl plain
  · refine .inr ?_
    have fromRoot : push here parent [] [] = [[]] := by
      rw [push, if_neg, if_neg]
      · rfl
      · rintro rfl
        simp at hereLong
      · rintro rfl
        simp at parentLong
    have taken := weight_foldl_push here parent ([] :: segments) []
    rw [weight_nil, Nat.zero_add, List.foldl_cons, fromRoot] at taken
    rw [resolve, List.foldl_cons, fromRoot]
    generalize stacked : segments.foldl (push here parent) [[]] = stack at taken ⊢
    have ends (resolved : List (List α)) (found : resolved ≠ []) :
        (rooted separator ([separator].intercalate resolved)).length + 1 ≤
          weight resolved + 1 := by
      have lengths := length_intercalate separator found
      have root := length_rooted_le separator ([separator].intercalate resolved)
      omega
    by_cases below : parent ∈ segments
    · have heavy := weight_le_of_mem (List.mem_filter.mpr
        ⟨List.mem_cons_of_mem [] below, by simp⟩ : parent ∈
          ([] :: segments).filter fun segment => segment = here ∨ segment = parent)
      split
      · have bounded := ends (stack ++ [[]]) (by simp)
        rw [weight_append, weight_cons, weight_nil] at bounded
        simp only [List.length_nil] at bounded
        omega
      · by_cases empty : stack = []
        · subst empty
          have root := length_rooted_le separator ([separator].intercalate [])
          simp only [List.intercalate_nil, List.length_nil] at root ⊢
          omega
        · have bounded := ends stack empty
          omega
    · have resolves : here ∈ segments := by
        by_contra absent
        apply plain
        intro segment member
        constructor
        · rintro rfl
          exact absent member
        · rintro rfl
          exact below member
      have heavy := weight_le_of_mem (List.mem_filter.mpr
        ⟨List.mem_cons_of_mem [] resolves, by simp⟩ : here ∈
          ([] :: segments).filter fun segment => segment = here ∨ segment = parent)
      have kept := prefix_foldl_push here parent [[]] below
      rw [stacked] at kept
      rcases kept with ⟨more, rfl⟩
      simp only [List.cons_append, List.nil_append, weight_cons,
        List.length_nil] at taken ⊢
      split
      · rw [rooted_intercalate separator _ (by simp)]
        have lengths := length_intercalate separator
          (by simp : [] :: (more ++ [[]]) ≠ [])
        simp only [weight_cons, weight_append, weight_nil, List.length_nil] at lengths
        omega
      · cases more with
        | nil =>
            have root := length_rooted_le separator ([separator].intercalate [[]])
            simp only [List.intercalate_singleton, List.length_nil] at root ⊢
            omega
        | cons other others =>
            rw [rooted_intercalate separator _ (by simp)]
            have lengths := length_intercalate separator
              (by simp : [] :: other :: others ≠ [])
            simp only [weight_cons, List.length_nil] at lengths taken ⊢
            omega

variable (here parent) in
theorem length_resolve_le (separator : α) (segments : List (List α)) (more : segments ≠ [])
    (hereLong : 1 ≤ here.length) (parentLong : 2 ≤ parent.length) :
    (rooted separator
        ([separator].intercalate (resolve here parent ([] :: segments)))).length + 1 ≤
      weight ([] :: segments) := by
  rcases plain_or_shorter here parent separator segments hereLong parentLong with
    plain | shorter
  · have rootPlain : ∀ segment ∈ [] :: segments, segment ≠ here ∧ segment ≠ parent := by
      intro segment member
      rcases List.mem_cons.mp member with rfl | later
      · refine ⟨?_, ?_⟩ <;> rintro rfl
        · simp at hereLong
        · simp at parentLong
      · exact plain segment later
    apply Nat.le_of_eq
    rw [resolve_eq rootPlain, rooted_intercalate separator _ more,
      length_intercalate separator (by simp)]
  · exact Nat.le_of_lt shorter

theorem Normal.resolve_squeeze {segments : List (List α)}
    (normal : Normal here parent segments) (hereLong : 1 ≤ here.length)
    (parentLong : 1 ≤ parent.length) :
    resolve here parent (squeeze ([] :: segments)) = [] :: segments := by
  have squeezed : squeeze ([] :: segments) = [] :: segments := by
    rcases List.eq_nil_or_concat segments with rfl | ⟨inner, last, rfl⟩
    · rfl
    · rw [List.concat_eq_append] at normal ⊢
      have filled := normal.2
      rw [List.dropLast_concat] at filled
      rw [squeeze_concat, List.filter_eq_self.mpr]
      intro segment member
      simpa using filled segment member
  rw [squeezed]
  apply resolve_eq
  intro segment member
  rcases List.mem_cons.mp member with rfl | later
  · refine ⟨?_, ?_⟩ <;> rintro rfl
    · simp at hereLong
    · simp at parentLong
  · exact normal.1 segment later

variable (here parent) in
theorem normal_or_shorter (separator : α) {segments : List (List α)} (more : segments ≠ [])
    (hereLong : 1 ≤ here.length) (parentLong : 2 ≤ parent.length) :
    Normal here parent segments ∨
      (rooted separator ([separator].intercalate
          (resolve here parent (squeeze ([] :: segments))))).length + 1 <
        weight ([] :: segments) := by
  rcases List.eq_nil_or_concat segments with rfl | ⟨inner, last, rfl⟩
  · exact absurd rfl more
  · rw [List.concat_eq_append, squeeze_concat]
    have squeezed := weight_filter inner
    by_cases filled : ∀ segment ∈ inner, segment ≠ []
    · have same : inner.filter (!·.isEmpty) = inner :=
        List.filter_eq_self.mpr fun segment member => by simpa using filled segment member
      rw [same]
      rcases plain_or_shorter here parent separator (inner ++ [last]) hereLong parentLong
        with plain | shorter
      · exact .inl ⟨plain, by rwa [List.dropLast_concat]⟩
      · exact .inr shorter
    · refine .inr ?_
      have empty : 0 < inner.countP (·.isEmpty) := by
        rw [List.countP_pos_iff]
        simpa using filled
      have bounded := length_resolve_le here parent separator
        (inner.filter (!·.isEmpty) ++ [last]) (by simp) hereLong parentLong
      simp only [weight_cons, weight_append, weight_nil] at bounded ⊢
      omega

end Resolve

end YrSandbox.PathSegments
