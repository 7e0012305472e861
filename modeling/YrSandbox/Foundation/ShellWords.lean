import Mathlib.Data.List.Basic
import Mathlib.Tactic.Tauto

/-! # Shell words

Token recognition and quoting of the POSIX shell command language. Expansions are not
carried out: a word with one is no word here, so that a word has one value, the text that
quote removal leaves. -/

namespace YrSandbox.Posix

inductive Token
  | word (value : List Char)
  | operator (text : List Char)
deriving DecidableEq, Repr

inductive Quoting
  | unquoted
  | escaped
  | single
  | double
  | doubleEscaped
deriving DecidableEq, Repr

abbrev Piece := Char × Bool

def isBlank (char : Char) : Bool := char = ' ' || char = '\t'

def delimits (char : Char) : Bool :=
  isBlank char || char = '\n' || "|&;<>()".toList.contains char

def expands (char : Char) : Bool := char = '$' || char = '\x60'

def advance : Quoting → Char → Option (List Piece × Quoting)
  | .unquoted, char =>
      if char = '\'' then some ([], .single)
      else if char = '"' then some ([], .double)
      else if char = '\\' then some ([], .escaped)
      else if expands char then none
      else some ([(char, false)], .unquoted)
  | .escaped, char => some (if char = '\n' then [] else [(char, true)], .unquoted)
  | .single, char =>
      some (if char = '\'' then ([], .unquoted) else ([(char, true)], .single))
  | .double, char =>
      if char = '"' then some ([], .unquoted)
      else if char = '\\' then some ([], .doubleEscaped)
      else if expands char then none
      else some ([(char, true)], .double)
  | .doubleEscaped, char =>
      some (if char = '\n' then []
        else if expands char || char = '"' || char = '\\' then [(char, true)]
        else [('\\', true), (char, true)], .double)

def prepend (front : List Piece) (word : Option (List Piece × List Char)) :
    Option (List Piece × List Char) :=
  word.map fun (pieces, rest) => (front ++ pieces, rest)

def readWord : Quoting → List Char → Option (List Piece × List Char)
  | quoting, [] => if quoting = .unquoted then some ([], []) else none
  | quoting, char :: text =>
      if quoting = .unquoted && delimits char then some ([], char :: text)
      else (advance quoting char).bind fun (pieces, next) =>
        prepend pieces (readWord next text)

/-- A bracket expression goes on behind `[`. -/
def closesBracket (pieces : List Piece) : Bool :=
  match if pieces.head? = some ('!', false) then pieces.tail else pieces with
  | [] => false
  | first :: others =>
      first.1 ≠ '/' && (others.takeWhile fun piece => piece.1 ≠ '/').contains (']', false)

def isPattern : List Piece → Bool
  | [] => false
  | piece :: pieces =>
      piece = ('*', false) || piece = ('?', false) ||
        (piece = ('[', false) && closesBracket pieces) || isPattern pieces

/-- What quote removal leaves of a word that is no pattern and has no tilde in front. -/
def value? (pieces : List Piece) : Option (List Char) :=
  if pieces.head? = some ('~', false) || isPattern pieces then none
  else some (pieces.map Prod.fst)

def operators : List (List Char) :=
  ["<<-", "&&", "||", ";;", "<<", ">>", "<&", ">&", "<>", ">|", "|", "&", ";", "<", ">",
    "(", ")", "\n"].map String.toList

def skipBlanks : List Char → List Char
  | ' ' :: text | '\t' :: text | '\\' :: '\n' :: text => skipBlanks text
  | text => text

def skipComment (text : List Char) : List Char :=
  if text.head? = some '#' then text.dropWhile (· ≠ '\n') else text

def tokenAt (text : List Char) : Option (Token × List Char) :=
  if text = [] then none
  else match operators.find? (·.isPrefixOf text) with
    | some operator => some (.operator operator, text.drop operator.length)
    | none => (readWord .unquoted text).bind fun (pieces, rest) =>
        (value? pieces).map fun value => (.word value, rest)

def nextToken (text : List Char) : Option (Token × List Char) :=
  tokenAt (skipComment (skipBlanks text))

def afterTokens : List Token → List Char → Option (List Char)
  | [], text => some text
  | token :: tokens, text =>
      (nextToken text).bind fun (first, rest) =>
        if first = token then afterTokens tokens rest else none

example : afterTokens [.word "cd".toList, .word "a b".toList, .operator "&&".toList]
    "cd 'a 'b&& x".toList = some " x".toList := by decide

/-! ## What a word takes from a text -/

def ordinary (char : Char) : Bool :=
  !delimits char && char ≠ '\'' && char ≠ '"' && char ≠ '\\' && !expands char

def kept (char : Char) : Bool :=
  char ≠ '\'' && char ≠ '"' && char ≠ '\\' && char ≠ '\n'

def pending (quoting : Quoting) : Nat := if quoting = .doubleEscaped then 1 else 0

theorem special_of_not_ordinary {char : Char} (special : ordinary char = false) :
    char ∈ " \t\n|&;<>()'\"\\$\x60".toList := by
  simp [ordinary, delimits, isBlank, expands] at special ⊢
  tauto

theorem advance_of_ordinary {char : Char} (isOrdinary : ordinary char = true) :
    advance .unquoted char = some ([(char, false)], .unquoted) := by
  simp only [ordinary, Bool.and_eq_true, decide_eq_true_eq, Bool.not_eq_true',
    ne_eq] at isOrdinary
  simp [advance, isOrdinary]

theorem length_advance {quoting next : Quoting} {char : Char} {pieces : List Piece}
    (advanced : advance quoting char = some (pieces, next)) :
    pieces.length + pending next ≤ 1 + pending quoting := by
  unfold advance at advanced
  grind [pending]

theorem count_advance {quoting next : Quoting} {char other : Char} {pieces : List Piece}
    (advanced : advance quoting char = some (pieces, next)) (isKept : kept other = true) :
    (pieces.map Prod.fst).count other = [char].count other := by
  unfold advance at advanced
  grind [kept]

theorem ordinary_of_advance {next : Quoting} {char : Char} {pieces : List Piece}
    (advanced : advance .unquoted char = some (pieces, next))
    (goesOn : delimits char = false) :
    pieces.length + pending next = 0 ∨
      ordinary char = true ∧ pieces = [(char, false)] ∧ next = .unquoted := by
  unfold advance at advanced
  grind [pending, ordinary]

structure Consumes (quoting : Quoting) (consumed : List Char) (pieces : List Piece) :
    Prop where
  length : pieces.length ≤ consumed.length + pending quoting
  count : ∀ char, kept char = true →
    (pieces.map Prod.fst).count char = consumed.count char
  ordinary : quoting = .unquoted → pieces.length = consumed.length →
    consumed.all ordinary = true ∧ pieces = consumed.map fun char => (char, false)

theorem Consumes.cons {quoting next : Quoting} {char : Char} {consumed : List Char}
    {first others : List Piece} (consumes : Consumes next consumed others)
    (advanced : advance quoting char = some (first, next))
    (goesOn : quoting = .unquoted → delimits char = false) :
    Consumes quoting (char :: consumed) (first ++ others) := by
  have lengthFirst := length_advance advanced
  constructor
  · have lengthOthers := consumes.length
    simp only [List.length_append, List.length_cons]
    omega
  · intro other isKept
    rw [List.map_append, List.count_append, count_advance advanced isKept,
      consumes.count other isKept, ← List.count_append, List.singleton_append]
  · rintro rfl same
    have lengthOthers := consumes.length
    simp only [List.length_append, List.length_cons] at same
    rcases ordinary_of_advance advanced (goesOn rfl) with silent | ⟨isOrdinary, rfl, rfl⟩
    · omega
    · have rest := consumes.ordinary rfl (by simpa [Nat.add_comm] using same)
      simp [isOrdinary, rest.1, rest.2]

theorem exists_consumed {quoting : Quoting} {text rest : List Char} {pieces : List Piece}
    (read : readWord quoting text = some (pieces, rest)) :
    ∃ consumed, text = consumed ++ rest ∧ Consumes quoting consumed pieces := by
  induction text generalizing quoting pieces with
  | nil =>
      simp only [readWord, Option.ite_none_right_eq_some] at read
      rcases read with ⟨rfl, read⟩
      cases read
      exact ⟨[], rfl, by simp, by simp, by simp⟩
  | cons char text induction =>
      rw [readWord] at read
      split at read
      · cases read
        exact ⟨[], rfl, by simp, by simp, by simp⟩
      · rename_i goesOn
        rcases Option.bind_eq_some_iff.mp read with ⟨⟨first, next⟩, advanced, read⟩
        rcases Option.map_eq_some_iff.mp read with ⟨⟨others, left⟩, read, equal⟩
        cases equal
        rcases induction read with ⟨consumed, rfl, consumes⟩
        refine ⟨char :: consumed, rfl, consumes.cons advanced ?_⟩
        rintro rfl
        simpa using goesOn

/-! ## Words that are read as they stand -/

@[simp] theorem prepend_nil (word : Option (List Piece × List Char)) :
    prepend [] word = word := by
  simp [prepend]

@[simp] theorem prepend_prepend (front middle : List Piece)
    (word : Option (List Piece × List Char)) :
    prepend front (prepend middle word) = prepend (front ++ middle) word := by
  simp [prepend, Function.comp_def]

theorem readWord_cons {quoting next : Quoting} {char : Char} {pieces : List Piece}
    (advanced : advance quoting char = some (pieces, next))
    (goesOn : quoting = .unquoted → delimits char = false) (text : List Char) :
    readWord quoting (char :: text) = prepend pieces (readWord next text) := by
  rw [readWord, advanced, Option.bind_some, if_neg]
  intro stops
  rw [Bool.and_eq_true, decide_eq_true_eq] at stops
  rw [goesOn stops.1] at stops
  cases stops.2

theorem delimits_of_ordinary {char : Char} (isOrdinary : ordinary char = true) :
    delimits char = false := by
  grind [ordinary]

theorem readWord_append {front : List Char} (isOrdinary : front.all ordinary = true)
    (text : List Char) :
    readWord .unquoted (front ++ text) =
      prepend (front.map fun char => (char, false)) (readWord .unquoted text) := by
  induction front with
  | nil => simp
  | cons char front induction =>
      rw [List.all_cons, Bool.and_eq_true] at isOrdinary
      rw [List.cons_append, readWord_cons (advance_of_ordinary isOrdinary.1)
        (fun _ => delimits_of_ordinary isOrdinary.1), induction isOrdinary.2]
      simp

theorem readWord_single {value : List Char} (unquoted : '\'' ∉ value) (text : List Char) :
    readWord .single (value ++ '\'' :: text) =
      prepend (value.map fun char => (char, true)) (readWord .unquoted text) := by
  induction value with
  | nil =>
      have advanced : advance .single '\'' = some ([], .unquoted) := rfl
      rw [List.nil_append, readWord_cons advanced nofun]
      rfl
  | cons char value induction =>
      rw [List.mem_cons, not_or] at unquoted
      have advanced : advance .single char = some ([(char, true)], .single) := by
        simp [advance, Ne.symm unquoted.1]
      rw [List.cons_append, readWord_cons advanced nofun, induction unquoted.2]
      simp

theorem readWord_of_ends {rest : List Char}
    (ends : ∀ char ∈ rest.head?, delimits char = true) :
    readWord .unquoted rest = some ([], rest) := by
  cases rest with
  | nil => rfl
  | cons char rest => simp [readWord, ends char rfl]

/-! ## Tokens -/

def plainWord (word : List Char) : Bool :=
  word.all ordinary && word.head? ≠ some '#' && word.head? ≠ some '~' &&
    !isPattern (word.map fun char => (char, false))

theorem isPattern_of_forall {pieces : List Piece}
    (others : ∀ piece ∈ pieces, piece ∉ [('*', false), ('?', false), ('[', false)]) :
    isPattern pieces = false := by
  induction pieces with
  | nil => rfl
  | cons piece pieces induction =>
      have first := others piece List.mem_cons_self
      have rest := induction fun piece member =>
        others piece (List.mem_cons_of_mem _ member)
      simp only [List.mem_cons, List.not_mem_nil, or_false, not_or] at first
      simp [isPattern, first, rest]

theorem find?_operators {char : Char} (goesOn : delimits char = false)
    (text : List Char) : operators.find? (·.isPrefixOf (char :: text)) = none := by
  have heads : ∀ operator ∈ operators, ∃ first others,
      operator = first :: others ∧ delimits first = true := by
    simp [operators]
    decide
  rw [List.find?_eq_none]
  intro operator member isPrefix
  rcases heads operator member with ⟨first, others, rfl, isDelimiter⟩
  rw [List.isPrefixOf_cons_cons, Bool.and_eq_true, beq_iff_eq] at isPrefix
  rw [isPrefix.1, goesOn] at isDelimiter
  cases isDelimiter

theorem exists_skipped (text : List Char) :
    ∃ skipped, text = skipped ++ skipBlanks text ∧
      (∀ char ∈ skipped, char ∈ [' ', '\t', '\\', '\n']) ∧
      (skipped = [] ∨ ∀ char ∈ text.head?, ordinary char = false) := by
  have blanks : ∀ char ∈ [' ', '\t', '\\'], ordinary char = false := by
    simp [ordinary, delimits, isBlank]
  fun_induction skipBlanks text with
  | case1 text induction | case2 text induction =>
      rcases induction with ⟨skipped, equal, member, -⟩
      refine ⟨_ :: skipped, congrArg (_ :: ·) equal, ?_, .inr ?_⟩
      · simpa using member
      · rintro char ⟨⟩
        exact blanks _ (by simp)
  | case3 text induction =>
      rcases induction with ⟨skipped, equal, member, -⟩
      refine ⟨_ :: _ :: skipped, congrArg (_ :: _ :: ·) equal, ?_, .inr ?_⟩
      · simpa using member
      · rintro char ⟨⟩
        exact blanks _ (by simp)
  | case4 text => exact ⟨[], rfl, nofun, .inl rfl⟩

theorem skipBlanks_of_ordinary {char : Char} (isOrdinary : ordinary char = true)
    (text : List Char) : skipBlanks (char :: text) = char :: text := by
  rcases exists_skipped (char :: text) with ⟨skipped, equal, -, nothing | something⟩
  · rw [nothing] at equal
    exact equal.symm
  · rw [something char rfl] at isOrdinary
    cases isOrdinary

theorem nextToken_blank (text : List Char) : nextToken (' ' :: text) = nextToken text := by
  rw [nextToken, skipBlanks]
  rfl

theorem nextToken_of_ordinary {char : Char} (isOrdinary : ordinary char = true)
    (noComment : char ≠ '#') (text : List Char) :
    nextToken (char :: text) = (readWord .unquoted (char :: text)).bind
      fun (pieces, rest) => (value? pieces).map fun value => (.word value, rest) := by
  have skipped : skipComment (char :: text) = char :: text := by
    simp [skipComment, noComment]
  rw [nextToken, skipBlanks_of_ordinary isOrdinary, skipped, tokenAt,
    find?_operators (delimits_of_ordinary isOrdinary)]
  rfl

theorem tokenAt_eq_word {text word rest : List Char}
    (read : tokenAt text = some (.word word, rest)) :
    ∃ pieces, readWord .unquoted text = some (pieces, rest) ∧
      value? pieces = some word := by
  unfold tokenAt at read
  split at read
  · cases read
  · split at read
    · cases read
    · rcases Option.bind_eq_some_iff.mp read with ⟨⟨pieces, left⟩, readWord, read⟩
      rcases Option.map_eq_some_iff.mp read with ⟨value, isValue, equal⟩
      cases equal
      exact ⟨pieces, readWord, isValue⟩

theorem tokenAt_dropWhile (text word rest : List Char) :
    tokenAt (text.dropWhile (· ≠ '\n')) ≠ some (.word word, rest) := by
  cases given : text.dropWhile (· ≠ '\n') with
  | nil => simp [tokenAt]
  | cons char left =>
      have newline : char = '\n' := by
        have stops := List.head?_dropWhile_not (· ≠ '\n') text
        rw [given] at stops
        simpa using stops
      have found : operators.find? (·.isPrefixOf (char :: left)) = some ['\n'] := by
        rw [newline]
        rfl
      simp [tokenAt, found]

theorem exists_of_nextToken {text rest word : List Char}
    (read : nextToken text = some (.word word, rest)) :
    ∃ skipped consumed pieces, text = skipped ++ (consumed ++ rest) ∧
      (∀ char ∈ skipped, char ∈ [' ', '\t', '\\', '\n']) ∧
      (skipped = [] ∨ ∀ char ∈ text.head?, ordinary char = false) ∧
      (consumed ++ rest).head? ≠ some '#' ∧
      Consumes .unquoted consumed pieces ∧ value? pieces = some word := by
  rcases exists_skipped text with ⟨skipped, equal, member, nothing⟩
  unfold nextToken skipComment at read
  split at read
  · exact absurd read (tokenAt_dropWhile _ _ _)
  · rename_i noComment
    rcases tokenAt_eq_word read with ⟨pieces, readWord, isValue⟩
    rcases exists_consumed readWord with ⟨consumed, split, consumes⟩
    rw [split] at equal noComment
    exact ⟨skipped, consumed, pieces, equal, member, nothing, noComment, consumes, isValue⟩

theorem value?_eq_some {pieces : List Piece} {value : List Char}
    (isValue : value? pieces = some value) :
    pieces.map Prod.fst = value ∧ pieces.head? ≠ some ('~', false) ∧
      isPattern pieces = false := by
  unfold value? at isValue
  split at isValue
  · cases isValue
  · rename_i plain
    rw [Bool.not_eq_true, Bool.or_eq_false_iff, decide_eq_false_iff_not] at plain
    exact ⟨Option.some.inj isValue, plain⟩

theorem value?_of_plainWord {word : List Char} (plain : plainWord word = true) :
    value? (word.map fun char => (char, false)) = some word := by
  simp only [plainWord, Bool.and_eq_true, decide_eq_true_eq, Bool.not_eq_true', ne_eq]
    at plain
  rcases plain with ⟨⟨-, noTilde⟩, noPattern⟩
  rw [value?, if_neg, List.map_map]
  · exact congrArg some (List.map_id word)
  · rw [noPattern, Bool.or_false, decide_eq_true_eq, List.head?_map,
      Option.map_eq_some_iff]
    rintro ⟨char, head, equal⟩
    cases equal
    exact noTilde head

theorem nextToken_of_plainWord {word rest : List Char} (nonempty : word ≠ [])
    (plain : plainWord word = true) (ends : ∀ char ∈ rest.head?, delimits char = true) :
    nextToken (word ++ rest) = some (.word word, rest) := by
  have value := value?_of_plainWord plain
  simp only [plainWord, Bool.and_eq_true, decide_eq_true_eq, ne_eq] at plain
  rcases plain with ⟨⟨⟨isOrdinary, noComment⟩, -⟩, -⟩
  cases word with
  | nil => exact absurd rfl nonempty
  | cons char word =>
      have first : ordinary char = true := (List.all_eq_true.mp isOrdinary) char (by simp)
      have notHash : char ≠ '#' := by
        rintro rfl
        exact noComment rfl
      rw [List.cons_append, nextToken_of_ordinary first notHash, ← List.cons_append,
        readWord_append isOrdinary, readWord_of_ends ends, prepend, Option.map_some,
        Option.bind_some]
      simp only [List.append_nil, value, Option.map_some]

theorem afterTokens_blank {tokens : List Token} (nonempty : tokens ≠ [])
    (text : List Char) : afterTokens tokens (' ' :: text) = afterTokens tokens text := by
  cases tokens with
  | nil => exact absurd rfl nonempty
  | cons token tokens => rw [afterTokens, afterTokens, nextToken_blank]

theorem afterTokens_cons {token : Token} {text rest : List Char}
    (read : nextToken text = some (token, rest)) (tokens : List Token) :
    afterTokens (token :: tokens) text = afterTokens tokens rest := by
  simp [afterTokens, read]

theorem afterTokens_eq_none {token : Token} {text : List Char}
    (unread : ∀ rest, nextToken text ≠ some (token, rest)) (tokens : List Token) :
    afterTokens (token :: tokens) text = none := by
  rw [afterTokens, Option.bind_eq_none_iff]
  rintro ⟨first, rest⟩ read
  apply if_neg
  rintro rfl
  exact unread rest read

end YrSandbox.Posix
