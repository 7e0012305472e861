import Mathlib.Data.List.DropRight

/-! # Trimmed lists and trimmed texts

What is left of a list without its blank elements at both ends. A text that is made of
lines is trimmed by trimming the list of its lines. -/

namespace YrSandbox.Trimming

variable {α : Type u}

def trim (blank : α → Bool) (list : List α) : List α :=
  (list.dropWhile blank).rdropWhile blank

variable {blank : α → Bool}

theorem trim_eq_nil (list : List α) (blanks : ∀ element ∈ list, blank element = true) :
    trim blank list = [] := by
  rw [trim, List.dropWhile_eq_nil_iff.mpr blanks, List.rdropWhile_nil]

theorem dropWhile_append_of_exists {list : List α}
    (found : ∃ element ∈ list, blank element = false) (more : List α) :
    (list ++ more).dropWhile blank = list.dropWhile blank ++ more := by
  induction list with
  | nil => simp at found
  | cons element list induction =>
      cases isBlank : blank element with
      | true =>
          have rest : ∃ element ∈ list, blank element = false := by
            simpa [isBlank] using found
          simp [isBlank, induction rest]
      | false => simp [isBlank]

theorem dropWhile_append_of_forall {list : List α}
    (blanks : ∀ element ∈ list, blank element = true) (more : List α) :
    (list ++ more).dropWhile blank = more.dropWhile blank := by
  induction list with
  | nil => rfl
  | cons element list induction =>
      rw [List.forall_mem_cons] at blanks
      simp [blanks.1, induction blanks.2]

theorem rdropWhile_append_of_forall {more : List α}
    (blanks : ∀ element ∈ more, blank element = true) (list : List α) :
    (list ++ more).rdropWhile blank = list.rdropWhile blank := by
  rw [List.rdropWhile, List.reverse_append, dropWhile_append_of_forall
    (fun element member => blanks element (List.mem_reverse.mp member)), ← List.rdropWhile]

theorem trim_append_of_forall {more : List α}
    (blanks : ∀ element ∈ more, blank element = true) (list : List α) :
    trim blank (list ++ more) = trim blank list := by
  by_cases found : ∃ element ∈ list, blank element = false
  · rw [trim, trim, dropWhile_append_of_exists found, rdropWhile_append_of_forall blanks]
  · have all : ∀ element ∈ list, blank element = true := by simpa using found
    rw [trim_eq_nil list all, trim_eq_nil]
    exact fun element member =>
      (List.mem_append.mp member).elim (all element) (blanks element)

theorem trim_append_singleton (list : List α) {last : α} (kept : blank last = false) :
    trim blank (list ++ [last]) = list.dropWhile blank ++ [last] := by
  have rest : (list ++ [last]).dropWhile blank = list.dropWhile blank ++ [last] := by
    by_cases found : ∃ element ∈ list, blank element = false
    · exact dropWhile_append_of_exists found [last]
    · have all : ∀ element ∈ list, blank element = true := by simpa using found
      rw [dropWhile_append_of_forall all, List.dropWhile_eq_nil_iff.mpr all]
      simp [kept]
  rw [trim, rest, List.rdropWhile_concat_neg _ _ _ (by simp [kept])]

theorem filter_dropWhile (list : List α) :
    (list.dropWhile blank).filter (!blank ·) = list.filter (!blank ·) := by
  induction list with
  | nil => rfl
  | cons element list induction =>
      cases isBlank : blank element <;> simp [isBlank, induction]

theorem filter_trim (blank : α → Bool) (list : List α) :
    (trim blank list).filter (!blank ·) = list.filter (!blank ·) := by
  rw [trim, List.rdropWhile, List.filter_reverse, filter_dropWhile, List.filter_reverse,
    List.reverse_reverse, filter_dropWhile]

theorem trim_append_eq_of_blank_iff (front more : List α) {last : α}
    (isBlank : blank last = true) :
    trim blank (front ++ more) = trim blank (front ++ [last]) ↔
      ∀ element ∈ more, blank element = true := by
  have single : ∀ element ∈ [last], blank element = true := by simpa using isBlank
  rw [trim_append_of_forall single]
  constructor
  · intro equal
    have filtered := congrArg (List.filter (!blank ·)) equal
    rw [filter_trim, filter_trim, List.filter_append,
      List.append_right_eq_self] at filtered
    simpa using filtered
  · exact fun blanks => trim_append_of_forall blanks front

theorem trim_append_eq_iff (front more : List α) {last : α} (kept : blank last = false) :
    trim blank (front ++ more) = trim blank (front ++ [last]) ↔
      ∃ before after, more = before ++ last :: after ∧
        (∀ element ∈ before, blank element = true) ∧
        (∀ element ∈ after, blank element = true) ∧
        (before = [] ∨ ∀ element ∈ front, blank element = true) := by
  have shape (before after : List α) (blanks : ∀ element ∈ after, blank element = true) :
      trim blank (front ++ (before ++ last :: after)) =
        (front ++ before).dropWhile blank ++ [last] := by
    have split : front ++ (before ++ last :: after) =
        front ++ before ++ [last] ++ after := by
      simp
    rw [split, trim_append_of_forall blanks, trim_append_singleton _ kept]
  rw [trim_append_singleton front kept]
  constructor
  · intro equal
    have filtered := congrArg (List.filter (!blank ·)) equal
    rw [filter_trim, List.filter_append, List.filter_append, filter_dropWhile,
      List.append_cancel_left_eq] at filtered
    have onlyLast : [last].filter (!blank ·) = [last] := by simp [kept]
    rw [onlyLast, List.filter_eq_cons_iff] at filtered
    rcases filtered with ⟨before, after, rfl, blanksBefore, -, blanksAfter⟩
    have allBefore : ∀ element ∈ before, blank element = true := by
      simpa using blanksBefore
    have allAfter : ∀ element ∈ after, blank element = true := by simpa using blanksAfter
    refine ⟨before, after, rfl, allBefore, allAfter, ?_⟩
    rw [shape before after allAfter, List.append_cancel_right_eq] at equal
    by_cases found : ∃ element ∈ front, blank element = false
    · rw [dropWhile_append_of_exists found, List.append_right_eq_self] at equal
      exact .inl equal
    · exact .inr (by simpa using found)
  · rintro ⟨before, after, rfl, blanksBefore, blanksAfter, none | blanksFront⟩
    · rw [shape before after blanksAfter, none, List.append_nil]
    · rw [shape before after blanksAfter, dropWhile_append_of_forall blanksFront,
        List.dropWhile_eq_nil_iff.mpr blanksBefore,
        List.dropWhile_eq_nil_iff.mpr blanksFront]

/-! ## Texts -/

theorem infix_intercalate (separator : α) {lines : List (List α)} {line : List α}
    (member : line ∈ lines) : line <:+: [separator].intercalate lines := by
  induction lines with
  | nil => cases member
  | cons first lines induction =>
      by_cases none : lines = []
      · rw [none, List.mem_singleton] at member
        rw [none, List.intercalate_singleton]
        exact member ▸ List.infix_refl line
      · rw [List.intercalate_cons_of_ne_nil none]
        rcases List.mem_cons.mp member with rfl | rest
        · rw [List.append_assoc]
          exact (List.prefix_append _ _).isInfix
        · exact (induction rest).trans (List.suffix_append _ _).isInfix

theorem not_mem_of_mem_splitOn [DecidableEq α] {separator : α} {text line : List α}
    (member : line ∈ text.splitOn separator) : separator ∉ line := by
  induction text generalizing line with
  | nil =>
      rw [List.splitOn_nil, List.mem_singleton] at member
      simp [member]
  | cons char text induction =>
      rw [List.splitOn_cons_eq_if_modifyHead] at member
      cases lines : text.splitOn separator with
      | nil => exact absurd lines (List.splitOn_ne_nil separator text)
      | cons first rest =>
          rw [lines] at member induction
          by_cases ends : char = separator
          · simp only [ends, beq_self_eq_true, if_true] at member
            rcases List.mem_cons.mp member with rfl | inRest
            · exact List.not_mem_nil
            · exact induction inRest
          · simp only [beq_iff_eq, ends, if_false, List.modifyHead_cons] at member
            rcases List.mem_cons.mp member with rfl | inRest
            · intro inFirst
              rcases List.mem_cons.mp inFirst with equal | inFirst
              · exact ends equal.symm
              · exact induction List.mem_cons_self inFirst
            · exact induction (List.mem_cons_of_mem _ inRest)

theorem intercalate_concat (separator : α) {lines : List (List α)}
    (nonempty : lines ≠ []) (line : List α) :
    [separator].intercalate (lines ++ [line]) =
      [separator].intercalate lines ++ separator :: line := by
  induction lines with
  | nil => exact absurd rfl nonempty
  | cons first lines induction =>
      cases lines with
      | nil => simp
      | cons second lines =>
          have rest := induction nofun
          simp only [List.cons_append] at rest ⊢
          rw [List.intercalate_cons_cons, rest, List.intercalate_cons_cons]
          simp

theorem intercalate_concat_append (separator : α) (lines : List (List α))
    (line text : List α) :
    [separator].intercalate (lines ++ [line]) ++ text =
      [separator].intercalate (lines ++ [line ++ text]) := by
  by_cases none : lines = []
  · simp [none]
  · rw [intercalate_concat separator none, intercalate_concat separator none,
      List.append_assoc,
      List.cons_append]

theorem splitOn_append [DecidableEq α] {separator : α} {more : List α}
    (single : separator ∉ more) (text : List α) :
    ∃ last, (text ++ more).splitOn separator =
      (text.splitOn separator).dropLast ++ [last ++ more] := by
  have inLines {line : List α} : line ∈ text.splitOn separator → separator ∉ line :=
    not_mem_of_mem_splitOn
  have whole : [separator].intercalate (text.splitOn separator) = text :=
    List.intercalate_splitOn separator
  rcases List.eq_nil_or_concat (text.splitOn separator) with none | ⟨lines, last, lines_eq⟩
  · exact absurd none (List.splitOn_ne_nil separator text)
  · rw [List.concat_eq_append] at lines_eq
    rw [lines_eq] at whole inLines
    have separated : ∀ line ∈ lines ++ [last ++ more], separator ∉ line := by
      intro line member
      rcases List.mem_append.mp member with earlier | isLast
      · exact inLines (List.mem_append_left _ earlier)
      · have notLast := inLines (List.mem_append_right _ (List.mem_singleton_self last))
        rw [List.mem_singleton.mp isLast, List.mem_append]
        exact fun either => either.elim notLast single
    refine ⟨last, ?_⟩
    rw [lines_eq, List.dropLast_concat]
    conv_lhs => rw [← whole, intercalate_concat_append]
    rw [List.splitOn_intercalate separator separated (by simp)]

theorem trim_isEmpty_ne (lines : List (List α)) : trim List.isEmpty lines ≠ [[]] := by
  intro equal
  have filtered := filter_trim List.isEmpty lines
  rw [equal] at filtered
  have all : ∀ line ∈ lines, line.isEmpty = true := by simpa using filtered.symm
  rw [trim_eq_nil lines all] at equal
  cases equal

section

variable [DecidableEq α] (separator : α)

def strip (text : List α) : List α := trim (· = separator) text

theorem dropWhile_intercalate {lines : List (List α)}
    (whole : ∀ line ∈ lines, separator ∉ line) :
    ([separator].intercalate lines).dropWhile (· = separator) =
      [separator].intercalate (lines.dropWhile List.isEmpty) := by
  induction lines with
  | nil => rfl
  | cons line lines induction =>
      rw [List.forall_mem_cons] at whole
      cases line with
      | cons char line =>
          have other : char ≠ separator := fun equal =>
            whole.1 (equal ▸ List.mem_cons_self)
          cases lines <;> simp [other]
      | nil =>
          cases lines with
          | nil => simp
          | cons second lines =>
              rw [List.intercalate_cons_cons]
              simpa using induction whole.2

theorem rdropWhile_intercalate {lines : List (List α)}
    (whole : ∀ line ∈ lines, separator ∉ line) :
    ([separator].intercalate lines).rdropWhile (· = separator) =
      [separator].intercalate (lines.rdropWhile List.isEmpty) := by
  induction lines using List.reverseRecOn with
  | nil => rfl
  | append_singleton lines line induction =>
      have rest := induction fun line member => whole line (List.mem_append_left _ member)
      have other := whole line (List.mem_append_right _ (List.mem_singleton_self line))
      rcases List.eq_nil_or_concat line with rfl | ⟨front, char, rfl⟩
      · rw [List.rdropWhile_concat_pos _ _ _ rfl, ← rest]
        by_cases none : lines = []
        · simp [none]
        · rw [intercalate_concat separator none,
            List.rdropWhile_concat_pos _ _ _ (by simp)]
      · rw [List.concat_eq_append] at other ⊢
        have kept : char ≠ separator := fun equal => other (by simp [equal])
        rw [List.rdropWhile_concat_neg _ _ _ (by simp)]
        by_cases none : lines = []
        · rw [none, List.nil_append, List.intercalate_singleton,
            List.rdropWhile_concat_neg _ _ _ (by simpa using kept)]
        · rw [intercalate_concat separator none, ← List.cons_append, ← List.append_assoc,
            List.rdropWhile_concat_neg _ _ _ (by simpa using kept)]

theorem strip_intercalate {lines : List (List α)}
    (whole : ∀ line ∈ lines, separator ∉ line) :
    strip separator ([separator].intercalate lines) =
      [separator].intercalate (trim List.isEmpty lines) := by
  have fewer : ∀ line ∈ lines.dropWhile List.isEmpty, separator ∉ line :=
    fun line member => whole line ((List.dropWhile_sublist _).mem member)
  rw [strip, trim, dropWhile_intercalate separator whole,
    rdropWhile_intercalate separator fewer, trim]

theorem intercalate_trim_injective {lines others : List (List α)}
    (whole : ∀ line ∈ trim List.isEmpty lines, separator ∉ line)
    (otherWhole : ∀ line ∈ trim List.isEmpty others, separator ∉ line)
    (same : [separator].intercalate (trim List.isEmpty lines) =
      [separator].intercalate (trim List.isEmpty others)) :
    trim List.isEmpty lines = trim List.isEmpty others := by
  by_cases none : trim List.isEmpty lines = []
  · by_cases noOthers : trim List.isEmpty others = []
    · rw [none, noOthers]
    · have split := List.splitOn_intercalate separator otherWhole noOthers
      rw [← same, none] at split
      exact absurd split.symm (trim_isEmpty_ne others)
  · by_cases noOthers : trim List.isEmpty others = []
    · have split := List.splitOn_intercalate separator whole none
      rw [same, noOthers] at split
      exact absurd split.symm (trim_isEmpty_ne lines)
    · rw [← List.splitOn_intercalate separator whole none, same,
        List.splitOn_intercalate separator otherWhole noOthers]

theorem strip_eq_strip_iff {lines others : List (List α)}
    (whole : ∀ line ∈ lines, separator ∉ line)
    (otherWhole : ∀ line ∈ others, separator ∉ line) :
    strip separator ([separator].intercalate lines) =
        strip separator ([separator].intercalate others) ↔
      trim List.isEmpty lines = trim List.isEmpty others := by
  have fewer {list : List (List α)} : ∀ line ∈ trim List.isEmpty list, line ∈ list :=
    fun line member => (List.dropWhile_sublist _).mem
      ((List.rdropWhile_prefix _ _).sublist.mem member)
  rw [strip_intercalate separator whole, strip_intercalate separator otherWhole]
  constructor
  · exact intercalate_trim_injective separator
      (fun line member => whole line (fewer line member))
      (fun line member => otherWhole line (fewer line member))
  · exact congrArg _

end

end YrSandbox.Trimming
