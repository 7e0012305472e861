import Mathlib.Data.List.Infix
import YrSandbox.Foundation.Trimming
import YrSandbox.Sandbox.EscapeSequences

/-! # The output of a persistent shell

`Shell._clean_output` takes the output of a command out of what the terminal shows. -/

namespace YrSandbox.Shell

open Python Trimming

/-! ## Lines -/

def replaceCrlf : Text → Text
  | [] => []
  | char :: text =>
      if char = '\r' ∧ text.head? = some '\n' then replaceCrlf text
      else char :: replaceCrlf text

/-- `text.replace("\r\n", "\n").replace("\r", "\n")` -/
def unifyNewlines (text : Text) : Text :=
  (replaceCrlf text).map fun char => if char = '\r' then '\n' else char

def doneMarker : Text := "__RRT_DONE_".toList

def cleanLines (raw : Text) : List Text :=
  (unifyNewlines (removeAnsi raw)).splitOn '\n'

def cleanOutput (raw : Text) : Text :=
  strip '\n' (['\n'].intercalate
    ((cleanLines raw).tail.filter fun line => !occursIn doneMarker line))

/-! ## What the terminal shows -/

def crlf : Text := ['\r', '\n']

def onTerminal (text : Text) : Text :=
  text.flatMap fun char => if char = '\n' then crlf else [char]

def sentinelEcho (more : Text) : Text := "echo ".toList ++ doneMarker ++ more

/-- The raw text: the echo of the command, its output, the prompt, the echo of the command
that brings the sentinel, and the sentinel. -/
def terminalText (echo output prompt more code : Text) : Text :=
  echo ++ crlf ++ (onTerminal output ++ prompt ++ sentinelEcho more ++ crlf ++
    (doneMarker ++ code))

def endedLines (output : Text) : List Text := (output.splitOn '\n').dropLast

def lastLine (output : Text) : Text := (output.splitOn '\n').getLastD []

/-- The lines that the terminal shows between the ended lines of the output and the line of
the sentinel's command. -/
def linesBetween (output prompt : Text) : List Text :=
  (cleanLines (lastLine output ++ prompt)).dropLast.filter
    fun line => !occursIn doneMarker line

/-- Between the output's ended lines and the sentinel's command there is the output's last
line, and nothing else. -/
def StandsAlone (output prompt : Text) : Prop :=
  if lastLine output = [] then ∀ line ∈ linesBetween output prompt, line.isEmpty
  else ∃ before after,
    linesBetween output prompt = before ++ lastLine output :: after ∧
      (∀ line ∈ before, line.isEmpty) ∧ (∀ line ∈ after, line.isEmpty) ∧
      (before = [] ∨ ∀ line ∈ endedLines output, line.isEmpty)

/-! ## Lines of a text in two parts -/

theorem replaceCrlf_append (front : Text) {text : Text} (start : text.head? ≠ some '\n') :
    replaceCrlf (front ++ text) = replaceCrlf front ++ replaceCrlf text := by
  induction front with
  | nil => rfl
  | cons char front induction =>
      have next : (front ++ text).head? = some '\n' ↔ front.head? = some '\n' := by
        cases front <;> simp [start]
      simp only [List.cons_append, replaceCrlf, next, induction]
      split_ifs <;> rfl

theorem unifyNewlines_append (front : Text) {text : Text}
    (start : text.head? ≠ some '\n') :
    unifyNewlines (front ++ text) = unifyNewlines front ++ unifyNewlines text := by
  rw [unifyNewlines, replaceCrlf_append front start, List.map_append]
  rfl

theorem unifyNewlines_crlf (text : Text) :
    unifyNewlines ('\r' :: '\n' :: text) = '\n' :: unifyNewlines text := by
  simp [unifyNewlines, replaceCrlf]

theorem unifyNewlines_eq_self {text : Text} (noReturn : '\r' ∉ text) :
    unifyNewlines text = text := by
  induction text with
  | nil => rfl
  | cons char text induction =>
      have other : char ≠ '\r' := fun equal => noReturn (equal ▸ List.mem_cons_self)
      have rest := induction fun member => noReturn (List.mem_cons_of_mem _ member)
      have split : char :: text = [char] ++ text := rfl
      simp only [unifyNewlines, replaceCrlf, other, false_and, if_false, List.map_cons]
      rw [← unifyNewlines, rest]

theorem cleanLines_append_crlf (front text : Text) :
    cleanLines (front ++ (crlf ++ text)) = cleanLines front ++ cleanLines text := by
  have lineFeed : removeAnsi ('\n' :: text) = '\n' :: removeAnsi text :=
    removeAnsiFrom_of_none (afterAnsi_of_ne (by decide) text)
  have removed : removeAnsi (front ++ '\r' :: '\n' :: text) =
      removeAnsi front ++ '\r' :: '\n' :: removeAnsi text := by
    rw [← lineFeed]
    exact removeAnsiFrom_append_break (.inl rfl) (Nat.zero_le _) ('\n' :: text)
  have start : ('\r' :: '\n' :: removeAnsi text).head? ≠ some '\n' := by simp
  rw [cleanLines, crlf, List.cons_append, List.cons_append, List.nil_append, removed,
    unifyNewlines_append _ start, unifyNewlines_crlf, List.splitOn_append_cons_self]
  rfl

theorem cleanLines_of_oneLine {text : Text} (line : oneLine text = true) :
    cleanLines text = [removeAnsi text] := by
  have kept := oneLine_iff.mp (oneLine_of_sublist (removeAnsiFrom_sublist 0 text) line)
  have unified : unifyNewlines (removeAnsi text) = removeAnsi text :=
    unifyNewlines_eq_self kept.1
  rw [cleanLines, unified]
  exact List.splitOn_eq_singleton kept.2

/-! ## Marked lines -/

theorem occursIn_iff {part text : Text} : occursIn part text = true ↔ part <:+: text := by
  simp [occursIn, List.infix_iff_prefix_suffix, List.mem_tails, and_comm]

theorem removeAnsi_append_of_not_mem {front : Text} (plain : escape ∉ front)
    (text : Text) :
    removeAnsi (front ++ text) = front ++ removeAnsi text := by
  induction front with
  | nil => rfl
  | cons char front induction =>
      have other : char ≠ escape := fun equal => plain (equal ▸ List.mem_cons_self)
      rw [List.cons_append, removeAnsi, removeAnsiFrom_of_none (afterAnsi_of_ne other _),
        ← removeAnsi, induction fun member => plain (List.mem_cons_of_mem _ member),
        List.cons_append]

theorem occursIn_removeAnsi_marked (front text : Text) :
    occursIn doneMarker (front ++ removeAnsi (doneMarker ++ text)) = true := by
  have plain : escape ∉ doneMarker := by decide
  rw [occursIn_iff, removeAnsi_append_of_not_mem plain, ← List.append_assoc]
  exact List.infix_append front doneMarker _

theorem oneLine_doneMarker : oneLine doneMarker = true := by decide

theorem cleaned_append {text : Text} (line : oneLine text = true) (front : Text) :
    ∃ last, (unifyNewlines (front ++ text)).splitOn '\n' =
      ((unifyNewlines front).splitOn '\n').dropLast ++ [last ++ text] := by
  have breaks := oneLine_iff.mp line
  have start : text.head? ≠ some '\n' := fun first =>
    breaks.2 (List.mem_of_mem_head? first)
  rw [unifyNewlines_append front start, unifyNewlines_eq_self breaks.1]
  exact splitOn_append breaks.2 _

theorem cleanLines_append_marked (text : Text) {between more : Text}
    (plain : escape ∉ between) (betweenLine : oneLine between = true)
    (line : oneLine more = true) :
    ∃ marked, cleanLines (text ++ 'e' :: (between ++ (doneMarker ++ more))) =
        (cleanLines text).dropLast ++ [marked] ∧
      occursIn doneMarker marked = true := by
  rcases removeAnsiFrom_append_echo (Nat.zero_le text.length)
    (between ++ (doneMarker ++ more)) with
    ⟨kept, incomplete, ending, shown, removed, incompleteLine, endingLine⟩
  rw [← removeAnsi] at shown removed
  rw [removeAnsi_append_of_not_mem plain] at removed
  have tailLine : oneLine (removeAnsi (doneMarker ++ more)) = true :=
    oneLine_of_sublist (removeAnsiFrom_sublist 0 _)
      (oneLine_append oneLine_doneMarker line)
  have restLine :
      oneLine (ending ++ (between ++ removeAnsi (doneMarker ++ more))) = true :=
    oneLine_append endingLine (oneLine_append betweenLine tailLine)
  rcases cleaned_append incompleteLine kept with ⟨last, linesShown⟩
  rcases cleaned_append restLine kept with ⟨start, linesMarked⟩
  refine ⟨start ++ (ending ++ (between ++ removeAnsi (doneMarker ++ more))), ?_, ?_⟩
  · rw [cleanLines, removed, linesMarked, cleanLines, shown, linesShown,
      List.dropLast_concat]
  · rw [← List.append_assoc, ← List.append_assoc]
    exact occursIn_removeAnsi_marked _ more

theorem cleanLines_append_sentinelEcho (text : Text) {more : Text}
    (line : oneLine more = true) :
    ∃ marked, cleanLines (text ++ sentinelEcho more) =
        (cleanLines text).dropLast ++ [marked] ∧
      occursIn doneMarker marked = true := by
  have word : "echo ".toList = 'e' :: "cho ".toList := by decide
  have split : sentinelEcho more = 'e' :: ("cho ".toList ++ (doneMarker ++ more)) :=
    (List.append_assoc _ _ _).trans (congrArg (· ++ (doneMarker ++ more)) word)
  rw [split]
  exact cleanLines_append_marked text (by decide) (by decide) line

/-! ## The output -/

theorem onTerminal_append (front text : Text) :
    onTerminal (front ++ text) = onTerminal front ++ onTerminal text :=
  List.flatMap_append

theorem onTerminal_of_not_mem {text : Text} (line : '\n' ∉ text) :
    onTerminal text = text := by
  induction text with
  | nil => rfl
  | cons char text induction =>
      have other : char ≠ '\n' := fun equal => line (equal ▸ List.mem_cons_self)
      have rest := induction fun member => line (List.mem_cons_of_mem _ member)
      rw [← List.singleton_append, onTerminal_append, rest]
      simp [onTerminal, other]

theorem removeAnsi_line {line text : Text}
    (plain : removeAnsi (line ++ '\n' :: text) = line ++ '\n' :: text) :
    removeAnsi line = line ∧ removeAnsi text = text := by
  have fewer := removeAnsiFrom_sublist 0 line
  have fewerRest := removeAnsiFrom_sublist 0 text
  rw [removeAnsi, removeAnsiFrom_append_break (.inr rfl) (Nat.zero_le _)] at plain
  have lengths := congrArg List.length plain
  simp only [List.length_append, List.length_cons] at lengths
  have bound := fewer.length_le
  have boundRest := fewerRest.length_le
  rw [← removeAnsi] at bound boundRest lengths
  exact ⟨fewer.eq_of_length (by rw [← removeAnsi]; omega),
    fewerRest.eq_of_length (by rw [← removeAnsi]; omega)⟩

theorem cleanLines_onTerminal {whole : List Text} {last : Text}
    (lines : ∀ line ∈ whole, oneLine line = true) (lastLine : oneLine last = true)
    (plain : removeAnsi (['\n'].intercalate (whole ++ [last])) =
      ['\n'].intercalate (whole ++ [last])) (text : Text) :
    cleanLines (onTerminal (['\n'].intercalate (whole ++ [last])) ++ text) =
      whole ++ cleanLines (last ++ text) := by
  induction whole with
  | nil =>
      rw [List.nil_append, List.intercalate_singleton,
        onTerminal_of_not_mem (oneLine_iff.mp lastLine).2, List.nil_append]
  | cons line whole induction =>
      rw [List.forall_mem_cons] at lines
      have nonempty : whole ++ [last] ≠ [] := List.append_ne_nil_of_right_ne_nil _ nofun
      rw [List.cons_append, List.intercalate_cons_of_ne_nil nonempty, List.append_assoc,
        List.singleton_append] at plain ⊢
      rcases removeAnsi_line plain with ⟨plainLine, plainRest⟩
      have break_ : onTerminal ('\n' :: ['\n'].intercalate (whole ++ [last])) =
          crlf ++ onTerminal (['\n'].intercalate (whole ++ [last])) := rfl
      rw [onTerminal_append, onTerminal_of_not_mem (oneLine_iff.mp lines.1).2, break_,
        List.append_assoc, List.append_assoc, cleanLines_append_crlf,
        cleanLines_of_oneLine lines.1, plainLine, induction lines.2 plainRest,
        List.singleton_append, List.cons_append]

theorem splitOn_eq_ended_lastLine (output : Text) :
    output.splitOn '\n' = endedLines output ++ [lastLine output] := by
  have nonempty := List.splitOn_ne_nil '\n' output
  rw [endedLines, lastLine, List.getLastD_eq_getLast?,
    List.getLast?_eq_getLast_of_ne_nil nonempty,
    Option.getD_some, List.dropLast_append_getLast]

theorem intercalate_ended_lastLine (output : Text) :
    ['\n'].intercalate (endedLines output ++ [lastLine output]) = output := by
  rw [← splitOn_eq_ended_lastLine, List.intercalate_splitOn]

theorem infix_of_mem_lines {output line : Text}
    (member : line ∈ endedLines output ++ [lastLine output]) : line <:+: output := by
  have part := infix_intercalate '\n' member
  rwa [intercalate_ended_lastLine] at part

theorem oneLine_of_mem_lines {output line : Text} (noReturn : '\r' ∉ output)
    (member : line ∈ endedLines output ++ [lastLine output]) : oneLine line = true := by
  have noBreak : '\n' ∉ line := by
    rw [← splitOn_eq_ended_lastLine] at member
    exact not_mem_of_mem_splitOn member
  have noReturnInLine : '\r' ∉ line := fun inLine =>
    noReturn ((infix_of_mem_lines member).subset inLine)
  exact oneLine_iff.mpr ⟨noReturnInLine, noBreak⟩

theorem endedLines_unmarked {output : Text}
    (unmarked : occursIn doneMarker output = false) :
    ((endedLines output).filter fun line => !occursIn doneMarker line) =
      endedLines output := by
  rw [List.filter_eq_self]
  intro line member
  have part := infix_of_mem_lines (List.mem_append_left [lastLine output] member)
  rw [Bool.not_eq_true', ← Bool.not_eq_true, occursIn_iff]
  intro marked
  rw [← Bool.not_eq_true, occursIn_iff] at unmarked
  exact unmarked (marked.trans part)

theorem cleanOutput_terminalText {echo output more code : Text} (prompt : Text)
    (oneLineEcho : oneLine echo = true) (plain : removeAnsi output = output)
    (noReturn : '\r' ∉ output) (unmarked : occursIn doneMarker output = false)
    (oneLineMore : oneLine more = true) (oneLineCode : oneLine code = true) :
    cleanOutput (terminalText echo output prompt more code) =
      strip '\n'
        (['\n'].intercalate (endedLines output ++ linesBetween output prompt)) := by
  have ended : ∀ line ∈ endedLines output, oneLine line = true := fun line member =>
    oneLine_of_mem_lines noReturn (List.mem_append_left _ member)
  have last : oneLine (lastLine output) = true := oneLine_of_mem_lines noReturn
    (List.mem_append_right _ (List.mem_singleton_self _))
  have shown := cleanLines_onTerminal ended last
    (by rwa [intercalate_ended_lastLine]) (prompt ++ sentinelEcho more)
  rw [intercalate_ended_lastLine, ← List.append_assoc (lastLine output)] at shown
  rcases cleanLines_append_sentinelEcho (lastLine output ++ prompt) oneLineMore with
    ⟨marked, between, isMarked⟩
  have sentinelLine :=
    cleanLines_of_oneLine (oneLine_append oneLine_doneMarker oneLineCode)
  have sentinelMarked := occursIn_removeAnsi_marked [] code
  rw [List.nil_append] at sentinelMarked
  have body : (cleanLines (terminalText echo output prompt more code)).tail =
      endedLines output ++ ((cleanLines (lastLine output ++ prompt)).dropLast ++
        [marked, removeAnsi (doneMarker ++ code)]) := by
    have split : terminalText echo output prompt more code = echo ++ (crlf ++
        (onTerminal output ++ (prompt ++ sentinelEcho more) ++ (crlf ++
          (doneMarker ++ code)))) := by
      simp only [terminalText, List.append_assoc]
    rw [split, cleanLines_append_crlf, cleanLines_of_oneLine oneLineEcho,
      cleanLines_append_crlf, shown, between, sentinelLine]
    simp
  rw [cleanOutput, body, List.filter_append, List.filter_append,
    endedLines_unmarked unmarked, ← linesBetween]
  simp [isMarked, sentinelMarked]

/-- The cleaned text is the output, but for line breaks at its ends, just if the output's
last line stands alone. -/
theorem cleanOutput_eq_strip_iff (echo output prompt more code : Text)
    (oneLineEcho : oneLine echo = true) (plain : removeAnsi output = output)
    (noReturn : '\r' ∉ output) (unmarked : occursIn doneMarker output = false)
    (oneLineMore : oneLine more = true) (oneLineCode : oneLine code = true) :
    cleanOutput (terminalText echo output prompt more code) = strip '\n' output ↔
      StandsAlone output prompt := by
  have inLines : ∀ line ∈ endedLines output ++ [lastLine output], '\n' ∉ line :=
    fun line member => (oneLine_iff.mp (oneLine_of_mem_lines noReturn member)).2
  have inBetween : ∀ line ∈ endedLines output ++ linesBetween output prompt,
      '\n' ∉ line := by
    intro line member
    rcases List.mem_append.mp member with ended | between
    · exact inLines line (List.mem_append_left _ ended)
    · exact not_mem_of_mem_splitOn
        ((List.dropLast_sublist _).mem (List.mem_of_mem_filter between))
  rw [cleanOutput_terminalText prompt oneLineEcho plain noReturn unmarked oneLineMore
    oneLineCode]
  have stripped : strip '\n' output =
      strip '\n' (['\n'].intercalate (endedLines output ++ [lastLine output])) := by
    rw [intercalate_ended_lastLine]
  rw [stripped, strip_eq_strip_iff '\n' inBetween inLines, StandsAlone]
  by_cases empty : lastLine output = []
  · rw [if_pos empty, trim_append_eq_of_blank_iff _ _ (by rw [empty]; rfl)]
  · rw [if_neg empty, trim_append_eq_iff _ _ (by simpa using empty)]

theorem cleanOutput_eq_strip_iff_abc :
    cleanOutput (terminalText "cat abc".toList "abc\n".toList "$ ".toList "$?__".toList
        "0__".toList) = strip '\n' "abc\n".toList ↔
      StandsAlone "abc\n".toList "$ ".toList :=
  cleanOutput_eq_strip_iff _ _ _ _ _ (by decide) (by decide) (by decide) (by decide)
    (by decide) (by decide)

/-- An output without a newline at its end shares its last line with the prompt. -/
theorem last_line_is_lost :
    (oneLine "printf abc".toList && oneLine "$?__".toList && oneLine "0__".toList) = true ∧
      removeAnsi "abc".toList = "abc".toList ∧ '\r' ∉ "abc".toList ∧
      occursIn doneMarker "abc".toList = false ∧
      cleanOutput (terminalText "printf abc".toList "abc".toList "$ ".toList "$?__".toList
        "0__".toList) = [] ∧
      cleanOutput (terminalText "printf abc".toList "abc".toList "$ ".toList "$?__".toList
        "0__".toList) ≠ strip '\n' "abc".toList := by
  decide

theorem standsAlone_iff_of_oneLine {output prompt : Text} (noReturn : '\r' ∉ output)
    (oneLinePrompt : oneLine prompt = true) :
    StandsAlone output prompt ↔ lastLine output = [] := by
  have last : oneLine (lastLine output) = true := oneLine_of_mem_lines noReturn
    (List.mem_append_right _ (List.mem_singleton_self _))
  have none : linesBetween output prompt = [] := by
    rw [linesBetween, cleanLines_of_oneLine (oneLine_append last oneLinePrompt)]
    rfl
  rw [StandsAlone, none]
  by_cases empty : lastLine output = []
  · simp [empty]
  · simp [empty]

end YrSandbox.Shell
