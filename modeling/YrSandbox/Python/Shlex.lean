import YrSandbox.Foundation.ShellWords
import YrSandbox.Python.Url

/-! # `shlex`

`quote` and `join` write words for a POSIX shell, which reads exactly these words. -/

namespace YrSandbox.Python.Shlex

/-! ## Quoting -/

def isSafe (char : Char) : Bool := char.isAlphanum || "_@%+=:,./-".toList.contains char

def escapeQuote (char : Char) : Text := if char = '\'' then "'\"'\"'".toList else [char]

def quote (text : Text) : Text :=
  if text = [] then "''".toList
  else if text.all isSafe then text
  else '\'' :: text.flatMap escapeQuote ++ ['\'']

def join (words : List Text) : Text := [' '].intercalate (words.map quote)

theorem join_singleton (word : Text) : join [word] = quote word := by
  simp [join, List.intercalate]

theorem join_cons_cons (word next : Text) (words : List Text) :
    join (word :: next :: words) = quote word ++ ' ' :: join (next :: words) := by
  simp [join, List.intercalate_cons_cons]

theorem join_append_of_isSafe {front words : List Text}
    (safe : ∀ word ∈ front, word ≠ [] ∧ word.all isSafe = true) (nonempty : words ≠ []) :
    join (front ++ words) = front.flatMap (· ++ [' ']) ++ join words := by
  induction front with
  | nil => rfl
  | cons word front induction =>
      have rest := induction fun other member => safe other (List.mem_cons_of_mem _ member)
      rcases safe word List.mem_cons_self with ⟨given, isPlain⟩
      have plain : quote word = word := by rw [quote, if_neg given, if_pos isPlain]
      rcases List.exists_cons_of_ne_nil (List.append_ne_nil_of_right_ne_nil front nonempty)
        with ⟨next, others, same⟩
      rw [List.cons_append, same, join_cons_cons, ← same, rest, plain]
      simp

/-! ## What a shell makes of it -/

section

open Posix

theorem ordinary_of_isSafe {char : Char} (safe : isSafe char = true) :
    ordinary char = true := by
  have special : " \t\n'\"\\$\x60|&;<>()".toList.any isSafe = false := by decide
  have different : char ∉ " \t\n'\"\\$\x60|&;<>()".toList :=
    fun member => List.any_eq_false.mp special char member safe
  simp only [ordinary, delimits, isBlank, expands]
  grind

theorem plainWord_of_isSafe {word : Text} (safe : word.all isSafe = true) :
    plainWord word = true := by
  have isOrdinary : word.all ordinary = true :=
    List.all_eq_true.mpr fun char member =>
      ordinary_of_isSafe (List.all_eq_true.mp safe char member)
  have others {other : Char} (unsafeChar : isSafe other = false) : other ∉ word := by
    intro member
    rw [List.all_eq_true.mp safe other member] at unsafeChar
    cases unsafeChar
  have heads {other : Char} (unsafeChar : isSafe other = false) : word.head? ≠ some other :=
    fun head => others unsafeChar (List.mem_of_mem_head? head)
  have noPattern : isPattern (word.map fun char => (char, false)) = false := by
    apply isPattern_of_forall
    intro piece member
    rcases List.mem_map.mp member with ⟨char, inWord, rfl⟩
    have plain := List.all_eq_true.mp safe char inWord
    intro special
    have star : ∀ other ∈ [('*', false), ('?', false), ('[', false)],
        isSafe other.1 = false := by decide
    rw [star _ special] at plain
    cases plain
  simp only [plainWord, isOrdinary, noPattern, heads (show isSafe '#' = false by decide),
    heads (show isSafe '~' = false by decide), decide_true, Bool.not_false, ne_eq,
    not_false_eq_true, Bool.and_true]

theorem readWord_escaped (text : Text) :
    readWord .single (escapeQuote '\'' ++ text) =
      prepend [('\'', true)] (readWord .single text) := by
  have closes : advance .single '\'' = some ([], .unquoted) := rfl
  have opensDouble : advance .unquoted '"' = some ([], .double) := rfl
  have inDouble : advance .double '\'' = some ([('\'', true)], .double) := rfl
  have closesDouble : advance .double '"' = some ([], .unquoted) := rfl
  have opens : advance .unquoted '\'' = some ([], .single) := rfl
  have spelt : escapeQuote '\'' ++ text = '\'' :: '"' :: '\'' :: '"' :: '\'' :: text := rfl
  rw [spelt, readWord_cons closes (by simp), readWord_cons opensDouble (fun _ => by decide),
    readWord_cons inDouble (by simp), readWord_cons closesDouble (by simp),
    readWord_cons opens (fun _ => by decide)]
  simp only [prepend_nil]

theorem readWord_escapeQuote (value text : Text) :
    readWord .single (value.flatMap escapeQuote ++ '\'' :: text) =
      prepend (value.map fun char => (char, true)) (readWord .unquoted text) := by
  induction value with
  | nil => exact readWord_single List.not_mem_nil text
  | cons char value induction =>
      rw [List.flatMap_cons, List.append_assoc, List.map_cons]
      by_cases closes : char = '\''
      · subst closes
        rw [readWord_escaped, induction, prepend_prepend]
        rfl
      · have advanced : advance .single char = some ([(char, true)], .single) := by
          simp [advance, closes]
        rw [escapeQuote, if_neg closes, List.singleton_append,
          readWord_cons advanced (by simp), induction, prepend_prepend]
        rfl

theorem value?_quoted (value : Text) :
    value? (value.map fun char => (char, true)) = some value := by
  have noPattern : isPattern (value.map fun char => (char, true)) = false := by
    apply isPattern_of_forall
    intro piece member
    rcases List.mem_map.mp member with ⟨char, -, rfl⟩
    simp
  rw [value?, if_neg, List.map_map]
  · exact congrArg some (List.map_id value)
  · rw [noPattern, Bool.or_false, decide_eq_true_eq, List.head?_map,
      Option.map_eq_some_iff]
    rintro ⟨char, -, equal⟩
    cases equal

theorem nextToken_of_quote (text : Text) :
    nextToken ('\'' :: text) = (readWord .single text).bind
      fun (pieces, rest) => (value? pieces).map fun value => (.word value, rest) := by
  have skipped : skipComment ('\'' :: text) = '\'' :: text := by simp [skipComment]
  have opens : advance .unquoted '\'' = some ([], .single) := rfl
  rw [nextToken, show skipBlanks ('\'' :: text) = '\'' :: text from rfl, skipped, tokenAt,
    find?_operators (by decide), readWord_cons opens (fun _ => by decide), prepend_nil]
  rfl

theorem nextToken_quote (word : Text) {rest : Text}
    (ends : ∀ char ∈ rest.head?, delimits char = true) :
    nextToken (quote word ++ rest) = some (.word word, rest) := by
  have inside : readWord .single (word.flatMap escapeQuote ++ '\'' :: rest) =
      some (word.map fun char => (char, true), rest) := by
    rw [readWord_escapeQuote, readWord_of_ends ends]
    simp [prepend]
  have quoted : nextToken ('\'' :: (word.flatMap escapeQuote ++ '\'' :: rest)) =
      some (.word word, rest) := by
    simp only [nextToken_of_quote, inside, Option.bind_some, value?_quoted, Option.map_some]
  rw [quote]
  split
  · rename_i empty
    subst empty
    exact quoted
  · rename_i nonempty
    split
    · rename_i safe
      exact nextToken_of_plainWord nonempty (plainWord_of_isSafe safe) ends
    · rw [List.append_cons] at quoted
      exact quoted

theorem afterTokens_join (words : List Text) (rest : Text)
    (ends : ∀ char ∈ rest.head?, delimits char = true) (tokens : List Token) :
    afterTokens (words.map Token.word ++ tokens) (join words ++ rest) =
      afterTokens tokens rest := by
  induction words with
  | nil => rfl
  | cons word words induction =>
      cases words with
      | nil =>
          rw [join_singleton]
          exact afterTokens_cons (nextToken_quote word ends) tokens
      | cons next words =>
          have blank : ∀ char ∈ (' ' :: (join (next :: words) ++ rest)).head?,
              delimits char = true := by
            rintro char ⟨⟩
            rfl
          rw [join_cons_cons, List.append_assoc, List.map_cons, List.cons_append]
          refine (afterTokens_cons (nextToken_quote word blank) _).trans ?_
          rw [afterTokens_blank (by simp), induction]

end

end YrSandbox.Python.Shlex
