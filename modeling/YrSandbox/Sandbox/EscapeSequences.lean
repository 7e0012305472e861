import YrSandbox.Python.Url

/-! # Escape sequences

What `Shell._ANSI_RE` matches, and the text that is left when all matches are removed. -/

namespace YrSandbox.Shell

open Python

def escape : Char := '\x1b'

def isEscapeChar (char : Char) : Bool :=
  ('@' ≤ char && char ≤ 'Z') || ('\\' ≤ char && char ≤ '_')

def isParameter (char : Char) : Bool := '0' ≤ char && char ≤ '?'

def isIntermediate (char : Char) : Bool := ' ' ≤ char && char ≤ '/'

def isFinal (char : Char) : Bool := '@' ≤ char && char ≤ '~'

/-- What parameters, intermediate characters and a final one leave of a text. The three
classes have no character in common, so that there is one way to match. -/
def afterControl (text : Text) : Option Text :=
  match (text.dropWhile isParameter).dropWhile isIntermediate with
  | char :: rest => if isFinal char then some rest else none
  | [] => none

/-- What `_ANSI_RE` leaves of a text behind a match at its front. -/
def afterAnsi : Text → Option Text
  | first :: char :: rest =>
      if first ≠ escape then none
      else if isEscapeChar char then some rest
      else if char = '[' then afterControl rest
      else none
  | _ => none

/-- `_ANSI_RE.sub("", text)`, where the first characters are passed over, the rest of a
match. -/
def removeAnsiFrom : Nat → Text → Text
  | _, [] => []
  | skipped + 1, _ :: text => removeAnsiFrom skipped text
  | 0, char :: text =>
      match afterAnsi (char :: text) with
      | some rest => removeAnsiFrom (text.length - rest.length) text
      | none => char :: removeAnsiFrom 0 text

def removeAnsi (text : Text) : Text := removeAnsiFrom 0 text

def oneLine (text : Text) : Bool := !text.contains '\r' && !text.contains '\n'

/-! ## A text in two parts -/

theorem dropWhile_append_cons {inClass : Char → Bool} {char : Char}
    (other : inClass char = false) (front text : Text) :
    (front ++ char :: text).dropWhile inClass =
      front.dropWhile inClass ++ char :: text := by
  induction front with
  | nil => simp [other]
  | cons first front induction =>
      cases isFirst : inClass first <;> simp [isFirst, induction]

/-- What the parameters and the intermediate characters of a control sequence leave. -/
def afterParameters (text : Text) : Text :=
  (text.dropWhile isParameter).dropWhile isIntermediate

theorem afterParameters_append {char : Char} (parameter : isParameter char = false)
    (intermediate : isIntermediate char = false) (front text : Text) :
    afterParameters (front ++ char :: text) = afterParameters front ++ char :: text := by
  rw [afterParameters, dropWhile_append_cons parameter, dropWhile_append_cons intermediate,
    ← afterParameters]

theorem afterControl_append_of_ne_nil {front : Text} (whole : afterParameters front ≠ [])
    {char : Char} (parameter : isParameter char = false)
    (intermediate : isIntermediate char = false) (text : Text) :
    afterControl (front ++ char :: text) =
      (afterControl front).map (· ++ char :: text) := by
  rw [afterControl, ← afterParameters, afterParameters_append parameter intermediate,
    afterControl, ← afterParameters]
  cases rest : afterParameters front with
  | nil => exact absurd rest whole
  | cons first rest => cases final : isFinal first <;> simp [final]

theorem afterControl_append_of_eq_nil {front : Text}
    (incomplete : afterParameters front = [])
    {char : Char} (parameter : isParameter char = false)
    (intermediate : isIntermediate char = false) (text : Text) :
    afterControl (front ++ char :: text) = if isFinal char then some text else none := by
  rw [afterControl, ← afterParameters, afterParameters_append parameter intermediate,
    incomplete, List.nil_append]

theorem afterControl_of_eq_nil {front : Text} (incomplete : afterParameters front = []) :
    afterControl front = none := by
  rw [afterControl, ← afterParameters, incomplete]

theorem removeAnsiFrom_of_some {char : Char} {text rest : Text}
    (found : afterAnsi (char :: text) = some rest) :
    removeAnsiFrom 0 (char :: text) = removeAnsiFrom (text.length - rest.length) text := by
  rw [removeAnsiFrom, found]

theorem removeAnsiFrom_of_none {char : Char} {text : Text}
    (absent : afterAnsi (char :: text) = none) :
    removeAnsiFrom 0 (char :: text) = char :: removeAnsiFrom 0 text := by
  rw [removeAnsiFrom, absent]

theorem afterAnsi_of_ne {char : Char} (other : char ≠ escape) (text : Text) :
    afterAnsi (char :: text) = none := by
  cases text <;> simp [afterAnsi, other]

theorem removeAnsiFrom_sublist (skipped : Nat) (text : Text) :
    (removeAnsiFrom skipped text).Sublist text := by
  induction text generalizing skipped with
  | nil => simp [removeAnsiFrom]
  | cons char text induction =>
      cases skipped with
      | succ skipped => exact (induction skipped).cons char
      | zero =>
          cases found : afterAnsi (char :: text) with
          | none => simpa [removeAnsiFrom_of_none found] using induction 0
          | some rest =>
              rw [removeAnsiFrom_of_some found]
              exact (induction _).cons char

theorem removeAnsiFrom_length (front text : Text) :
    removeAnsiFrom front.length (front ++ text) = removeAnsi text := by
  induction front with
  | nil => rfl
  | cons first front induction => exact induction

theorem afterAnsi_append_break {char : Char} (ends : char = '\r' ∨ char = '\n')
    (first : Char) (front text : Text) :
    afterAnsi (first :: front ++ char :: text) =
      (afterAnsi (first :: front)).map (· ++ char :: text) := by
  have notBracket : char ≠ '[' := by rcases ends with rfl | rfl <;> decide
  have notEscapeChar : isEscapeChar char = false := by
    rcases ends with rfl | rfl <;> decide
  have notParameter : isParameter char = false := by rcases ends with rfl | rfl <;> decide
  have notIntermediate : isIntermediate char = false := by
    rcases ends with rfl | rfl <;> decide
  have notFinal : isFinal char = false := by rcases ends with rfl | rfl <;> decide
  cases front with
  | nil => simp [afterAnsi, notBracket, notEscapeChar]
  | cons second front =>
      have control : afterControl (front ++ char :: text) =
          (afterControl front).map (· ++ char :: text) := by
        by_cases whole : afterParameters front = []
        · rw [afterControl_append_of_eq_nil whole notParameter notIntermediate,
            afterControl_of_eq_nil whole]
          simp [notFinal]
        · exact afterControl_append_of_ne_nil whole notParameter notIntermediate text
      simp only [List.cons_append, afterAnsi, control]
      split_ifs <;> rfl

theorem removeAnsiFrom_append_break {char : Char} (ends : char = '\r' ∨ char = '\n')
    {skipped : Nat} {front : Text} (inFront : skipped ≤ front.length) (text : Text) :
    removeAnsiFrom skipped (front ++ char :: text) =
      removeAnsiFrom skipped front ++ char :: removeAnsi text := by
  induction front generalizing skipped with
  | nil =>
      have notEscape : char ≠ escape := by rcases ends with rfl | rfl <;> decide
      have start : skipped = 0 := Nat.le_zero.mp inFront
      rw [start, List.nil_append, removeAnsiFrom_of_none (afterAnsi_of_ne notEscape text)]
      rfl
  | cons first front induction =>
      cases skipped with
      | succ skipped => exact induction (Nat.le_of_succ_le_succ inFront)
      | zero =>
          have append := afterAnsi_append_break ends first front text
          cases found : afterAnsi (first :: front) with
          | none =>
              rw [found, Option.map_none] at append
              rw [List.cons_append] at append ⊢
              rw [removeAnsiFrom_of_none append, removeAnsiFrom_of_none found,
                induction (Nat.zero_le _), List.cons_append]
          | some rest =>
              rw [found, Option.map_some] at append
              rw [List.cons_append] at append ⊢
              have same : (front ++ char :: text).length - (rest ++ char :: text).length =
                  front.length - rest.length := by
                simp only [List.length_append]
                omega
              rw [removeAnsiFrom_of_some append, removeAnsiFrom_of_some found, same,
                induction (Nat.sub_le _ _)]

theorem oneLine_iff {text : Text} : oneLine text = true ↔ '\r' ∉ text ∧ '\n' ∉ text := by
  simp [oneLine]

theorem oneLine_of_sublist {text more : Text} (part : text.Sublist more)
    (line : oneLine more = true) : oneLine text = true := by
  rw [oneLine_iff] at line ⊢
  exact ⟨fun member => line.1 (part.mem member), fun member => line.2 (part.mem member)⟩

theorem oneLine_append {text more : Text} (line : oneLine text = true)
    (moreLine : oneLine more = true) : oneLine (text ++ more) = true := by
  rw [oneLine_iff] at line moreLine ⊢
  simp [line.1, line.2, moreLine.1, moreLine.2]

theorem oneLine_of_afterParameters {front : Text}
    (incomplete : afterParameters front = []) :
    oneLine front = true := by
  have absent {char : Char} (ends : char = '\r' ∨ char = '\n') : char ∉ front := by
    have notParameter : isParameter char = false := by
      rcases ends with rfl | rfl <;> decide
    have notIntermediate : isIntermediate char = false := by
      rcases ends with rfl | rfl <;> decide
    intro member
    rcases List.append_of_mem member with ⟨before, after, rfl⟩
    rw [afterParameters_append notParameter notIntermediate] at incomplete
    simp at incomplete
  exact oneLine_iff.mpr ⟨absent (.inl rfl), absent (.inr rfl)⟩

theorem afterAnsi_append_echo (first : Char) (front text : Text) :
    afterAnsi (first :: front ++ 'e' :: text) =
        (afterAnsi (first :: front)).map (· ++ 'e' :: text) ∨
      afterAnsi (first :: front) = none ∧
        afterAnsi (first :: front ++ 'e' :: text) = some text ∧
        oneLine (first :: front) = true := by
  have notEscapeChar : isEscapeChar 'e' = false := by decide
  have notParameter : isParameter 'e' = false := by decide
  have notIntermediate : isIntermediate 'e' = false := by decide
  cases front with
  | nil => exact .inl (by simp [afterAnsi, notEscapeChar])
  | cons second front =>
      by_cases incomplete : afterParameters front = []
      · have control : afterControl (front ++ 'e' :: text) = some text :=
          afterControl_append_of_eq_nil incomplete notParameter notIntermediate text
        simp only [List.cons_append, afterAnsi, control, afterControl_of_eq_nil incomplete]
        by_cases escaped : first = escape
        · cases short : isEscapeChar second with
          | true => simp [escaped]
          | false =>
              by_cases bracket : second = '['
              · have line := oneLine_iff.mp (oneLine_of_afterParameters incomplete)
                have whole : oneLine (escape :: '[' :: front) = true := by
                  simp [oneLine_iff, line, escape]
                simp [escaped, bracket, whole]
              · simp [escaped, bracket]
        · simp [escaped]
      · left
        simp only [List.cons_append, afterAnsi,
          afterControl_append_of_ne_nil incomplete notParameter notIntermediate text]
        split_ifs <;> rfl

theorem removeAnsiFrom_append_echo {skipped : Nat} {front : Text}
    (inFront : skipped ≤ front.length) (text : Text) :
    ∃ kept incomplete ending, removeAnsiFrom skipped front = kept ++ incomplete ∧
      removeAnsiFrom skipped (front ++ 'e' :: text) = kept ++ (ending ++ removeAnsi text) ∧
      oneLine incomplete = true ∧ oneLine ending = true := by
  induction front generalizing skipped with
  | nil =>
      have notEscape : 'e' ≠ escape := by decide
      have start : skipped = 0 := Nat.le_zero.mp inFront
      refine ⟨[], [], ['e'], ?_, ?_, rfl, rfl⟩
      · rw [removeAnsiFrom, List.append_nil]
      · rw [start, List.nil_append,
          removeAnsiFrom_of_none (afterAnsi_of_ne notEscape text)]
        rfl
  | cons first front induction =>
      cases skipped with
      | succ skipped => exact induction (Nat.le_of_succ_le_succ inFront)
      | zero =>
          rcases afterAnsi_append_echo first front text with
            append | ⟨found, completed, line⟩
          · cases found : afterAnsi (first :: front) with
            | none =>
                rw [found, Option.map_none, List.cons_append] at append
                rw [List.cons_append, removeAnsiFrom_of_none append,
                  removeAnsiFrom_of_none found]
                rcases induction (Nat.zero_le _) with
                  ⟨kept, incomplete, ending, shown, same, rest⟩
                exact ⟨first :: kept, incomplete, ending, by rw [shown, List.cons_append],
                  by rw [same, List.cons_append], rest⟩
            | some rest =>
                rw [found, Option.map_some, List.cons_append] at append
                have same : (front ++ 'e' :: text).length - (rest ++ 'e' :: text).length =
                    front.length - rest.length := by
                  simp only [List.length_append]
                  omega
                rw [List.cons_append, removeAnsiFrom_of_some append,
                  removeAnsiFrom_of_some found, same]
                exact induction (Nat.sub_le _ _)
          · rw [List.cons_append] at completed ⊢
            have skips : (front ++ 'e' :: text).length - text.length =
                (front ++ ['e']).length := by
              simp only [List.length_append, List.length_cons, List.length_nil]
              omega
            have split : front ++ 'e' :: text = front ++ ['e'] ++ text := by simp
            refine ⟨[], removeAnsiFrom 0 (first :: front), [], rfl, ?_,
              oneLine_of_sublist (removeAnsiFrom_sublist 0 _) line, rfl⟩
            rw [removeAnsiFrom_of_some completed, skips, split, removeAnsiFrom_length]
            rfl

end YrSandbox.Shell
