import YrSandbox.Foundation.ShellWords
import YrSandbox.Python.Url

/-! # The text that a persistent shell is sent

`Shell._build_cmd` and `Shells.create` put a change of directory and exports of variables
in front of a command. The shell's grammar says what becomes of them. -/

namespace YrSandbox.Shell

open Python Posix

/-- The `envs` of a command: names and values in their order. -/
abbrev Environ := List (Text × Text)

/-! ## The commands that the client builds -/

/-- What `join` puts between the parts. -/
def separator : Text := " && ".toList

def cdName : Text := "cd".toList

def exportName : Text := "export".toList

def cdPart (cwd : Text) : Text := cdName ++ ' ' :: cwd

def exportPart (name value : Text) : Text :=
  exportName ++ ' ' :: (name ++ '=' :: '\'' :: (value ++ ['\'']))

def initParts (cwd : Text) (envs : Environ) : List Text :=
  (if cwd = [] then [] else [cdPart cwd]) ++
    envs.map fun (name, value) => exportPart name value

/-- `_build_cmd`, where `None` and an empty value are one. -/
def buildCmd (cmd : Text) (envs : Option Environ) (cwd : Option Text) : Text :=
  if cwd.getD [] = [] ∧ envs.getD [] = [] then cmd
  else "( ".toList ++
    separator.intercalate (initParts (cwd.getD []) (envs.getD []) ++ [cmd]) ++
    " )".toList

/-- The command that `create` runs in the new shell, if it runs one. -/
def createCmd (defaultCwd cwd : Option Text) (envs : Option Environ) : Option Text :=
  let effectiveCwd := (cwd.or defaultCwd).getD []
  if effectiveCwd = [] ∧ envs.getD [] = [] then none
  else some (buildCmd
    (separator.intercalate (initParts effectiveCwd (envs.getD []))) none none)

/-! ## What the shell is to read -/

/-- The simple commands by their words: one changes to exactly this directory, and one for
each variable exports it with exactly its value. -/
def setup (cwd : Text) (envs : Environ) : List (List Text) :=
  (if cwd = [] then [] else [[cdName, cwd]]) ++
    envs.map fun (name, value) => [exportName, name ++ '=' :: value]

def andIf : Token := .operator "&&".toList

/-- What `_build_cmd` returns is read as a group in which the setup comes before the
command. -/
def BuildsSetup (cmd : Text) (envs : Option Environ) (cwd : Option Text) : Prop :=
  let commands := setup (cwd.getD []) (envs.getD [])
  if commands = [] then buildCmd cmd envs cwd = cmd
  else afterTokens (.operator "(".toList ::
    commands.flatMap fun words => words.map Token.word ++ [andIf])
    (buildCmd cmd envs cwd) = some (' ' :: cmd ++ " )".toList)

/-- What `create` runs is read as the setup. -/
def CreatesSetup (defaultCwd cwd : Option Text) (envs : Option Environ) : Prop :=
  ∀ text ∈ createCmd defaultCwd cwd envs,
    afterTokens ([andIf].intercalate ((setup ((cwd.or defaultCwd).getD [])
      (envs.getD [])).map fun words => words.map Token.word)) text = some []

def isNameChar (char : Char) : Bool := char.isAlphanum || char = '_'

def isName (name : Text) : Bool :=
  name ≠ [] && name.all isNameChar && !(name.head?.any Char.isDigit)

def Plain (cwd : Text) (envs : Environ) : Prop :=
  (cwd = [] ∨ plainWord cwd = true) ∧ ∀ env ∈ envs, '\'' ∉ env.2

/-! ## One command -/

/-- What stands behind a part: nothing, or `&&`. -/
def Ends (rest : Text) : Prop := rest = [] ∨ ∃ more, rest = ' ' :: '&' :: more

theorem Ends.delimits {rest : Text} (ends : Ends rest) :
    ∀ char ∈ rest.head?, Posix.delimits char = true := by
  rcases ends with rfl | ⟨more, rfl⟩
  · exact nofun
  · rintro char ⟨⟩
    rfl

/-- What a word takes ends with the part: it does not take the blank behind it, because
that would stay in the word, and if it takes more for what was skipped, then the `&`
would. -/
theorem consumed_eq {cwd rest others skipped consumed : Text} {pieces : List Piece}
    (ends : Ends rest) (split : cwd ++ rest = skipped ++ (consumed ++ others))
    (blanks : ∀ char ∈ skipped, char ∈ [' ', '\t', '\\', '\n'])
    (short : skipped = [] ∨ cwd.length < consumed.length)
    (value : pieces.map Prod.fst = cwd)
    (consumes : Consumes .unquoted consumed pieces) : skipped = [] ∧ consumed = cwd := by
  have longEnough : cwd.length ≤ consumed.length := by
    have length := consumes.length
    rw [← value, List.length_map]
    simpa [pending] using length
  have countOf (char : Char) (isKept : kept char = true) :
      cwd.count char = consumed.count char := by
    rw [← value]
    exact consumes.count char isKept
  have takesAll (extra left : Text) (taken : cwd ++ extra = skipped ++ consumed ++ left)
      (noMore : skipped.length + consumed.length ≤ cwd.length) :
      skipped = [] ∧ consumed = cwd := by
    have nothing : skipped = [] := List.length_eq_zero_iff.mp (by omega)
    rw [nothing, List.nil_append] at taken
    have sameLength : cwd.length = consumed.length := by omega
    exact ⟨nothing, (List.append_inj_left taken sameLength).symm⟩
  rw [← List.append_assoc] at split
  rcases List.append_eq_append_iff.mp split with ⟨extra, taken, left⟩ | ⟨left, taken, -⟩
  · have lengths := congrArg List.length taken
    have blankCount := congrArg (List.count ' ') taken
    have andCount := congrArg (List.count '&') taken
    simp only [List.length_append, List.count_append] at lengths blankCount andCount
    rw [countOf ' ' rfl] at blankCount
    rw [countOf '&' rfl] at andCount
    have noAnd : skipped.count '&' = 0 := by
      rw [List.count_eq_zero]
      intro member
      simpa using blanks '&' member
    rcases ends with rfl | ⟨more, rfl⟩
    · obtain rfl : extra = [] := (List.append_eq_nil_iff.mp left.symm).1
      exact takesAll [] [] (by simpa using taken.symm) (by simpa using lengths.le)
    · rcases extra with _ | ⟨first, _ | ⟨second, extra⟩⟩
      · exact takesAll [] [] (by simpa using taken.symm) (by simpa using lengths.le)
      · cases left
        rcases short with rfl | less
        · simp at blankCount
        · have nothing : skipped = [] := List.length_eq_zero_iff.mp (by
            simp only [List.length_singleton] at lengths
            omega)
          rw [nothing] at blankCount
          simp at blankCount
      · cases left
        rw [noAnd, List.count_cons_of_ne (by decide), List.count_cons_self] at andCount
        omega
  · apply takesAll [] left (by simpa using taken)
    have lengths := congrArg List.length taken
    simp only [List.length_append] at lengths
    omega

theorem plainWord_of_nextToken {cwd rest others : Text} (nonempty : cwd ≠ [])
    (ends : Ends rest) (read : nextToken (cwd ++ rest) = some (.word cwd, others)) :
    plainWord cwd = true := by
  rcases exists_of_nextToken read with
    ⟨skipped, consumed, pieces, split, blanks, nothing, noComment, consumes, isValue⟩
  rcases value?_eq_some isValue with ⟨value, noTilde, noPattern⟩
  have ordinaryWord (same : pieces.length = consumed.length) :
      cwd.all ordinary = true ∧ pieces = cwd.map fun char => (char, false) := by
    rcases consumes.ordinary rfl same with ⟨isOrdinary, rfl⟩
    have isWord : consumed = cwd := by simpa [Function.comp_def] using value
    rw [← isWord]
    exact ⟨isOrdinary, rfl⟩
  have longEnough : cwd.length ≤ consumed.length := by
    have length := consumes.length
    rw [← value, List.length_map]
    simpa [pending] using length
  have lengthPieces : pieces.length = cwd.length := by rw [← value, List.length_map]
  have short : skipped = [] ∨ cwd.length < consumed.length := by
    rcases nothing with nothing | something
    · exact .inl nothing
    · right
      rcases Nat.lt_or_eq_of_le longEnough with less | equal
      · exact less
      · cases cwd with
        | nil => exact absurd rfl nonempty
        | cons char cwd =>
            have first := (ordinaryWord (lengthPieces.trans equal)).1
            rw [List.all_cons, Bool.and_eq_true, something char rfl] at first
            cases first.1
  rcases consumed_eq ends split blanks short value consumes with ⟨rfl, rfl⟩
  rcases ordinaryWord lengthPieces with ⟨isOrdinary, rfl⟩
  simp only [plainWord, Bool.and_eq_true, decide_eq_true_eq, Bool.not_eq_true']
  refine ⟨⟨⟨isOrdinary, ?_⟩, ?_⟩, noPattern⟩
  · rintro head
    exact noComment (by simp [List.head?_append, head])
  · rintro head
    exact noTilde (by simp [head])

theorem ordinary_of_isNameChar {char : Char} (named : isNameChar char = true) :
    ordinary char = true ∧ char ∉ "*?[#~".toList := by
  have noNames : (" \t\n|&;<>()'\"\\$\x60".toList ++ "*?[#~".toList).all
      (!isNameChar ·) = true := by
    decide
  have specials : ∀ char ∈ " \t\n|&;<>()'\"\\$\x60".toList ++ "*?[#~".toList,
      isNameChar char = false := fun char member => by
    simpa using List.all_eq_true.mp noNames char member
  constructor
  · by_contra special
    have member := special_of_not_ordinary (Bool.not_eq_true _ ▸ special)
    rw [specials char (List.mem_append_left _ member)] at named
    cases named
  · intro member
    rw [specials char (List.mem_append_right _ member)] at named
    cases named

theorem isName_iff {name : Text} (named : isName name = true) :
    name ≠ [] ∧ ∀ char ∈ name, isNameChar char = true := by
  simp only [isName, Bool.and_eq_true, decide_eq_true_eq, List.all_eq_true] at named
  exact named.1

theorem ordinary_name {name : Text} (named : isName name = true) :
    (name ++ ['=']).all ordinary = true := by
  rw [List.all_append, Bool.and_eq_true, List.all_eq_true]
  exact ⟨fun char member => (ordinary_of_isNameChar ((isName_iff named).2 char member)).1,
    rfl⟩

theorem nextToken_export {name : Text} (named : isName name = true) (text : Text) :
    nextToken (name ++ '=' :: '\'' :: text) =
      (prepend ((name ++ ['=']).map fun char => (char, false))
        (readWord .single text)).bind
        fun (pieces, rest) => (value? pieces).map fun value => (.word value, rest) := by
  have quoted : readWord .unquoted ('\'' :: text) = readWord .single text := by
    have advanced : advance .unquoted '\'' = some ([], .single) := rfl
    rw [readWord_cons advanced (fun _ => rfl), prepend_nil]
  rw [← quoted, ← readWord_append (ordinary_name named), List.append_assoc,
    List.singleton_append]
  rcases isName_iff named with ⟨nonempty, chars⟩
  cases name with
  | nil => exact absurd rfl nonempty
  | cons char name =>
      rcases ordinary_of_isNameChar (chars char (by simp)) with ⟨isOrdinary, noSpecial⟩
      have noComment : char ≠ '#' := by
        rintro rfl
        simp at noSpecial
      exact nextToken_of_ordinary isOrdinary noComment _

theorem nextToken_export_of_plain {name value rest : Text} (named : isName name = true)
    (unquoted : '\'' ∉ value) (ends : Ends rest) :
    nextToken (name ++ '=' :: '\'' :: (value ++ '\'' :: rest)) =
      some (.word (name ++ '=' :: value), rest) := by
  have value? : value? (((name ++ ['=']).map fun char => (char, false)) ++
      value.map fun char => (char, true)) = some (name ++ '=' :: value) := by
    rcases isName_iff named with ⟨nonempty, chars⟩
    have notSpecial : ∀ char ∈ name ++ ['='], char ∉ "*?[#~".toList := by
      intro char member
      rcases List.mem_append.mp member with member | member
      · exact (ordinary_of_isNameChar (chars char member)).2
      · rw [List.mem_singleton.mp member]
        decide
    have noPattern : isPattern (((name ++ ['=']).map fun char => (char, false)) ++
        value.map fun char => (char, true)) = false := by
      apply isPattern_of_forall
      intro piece member
      rcases List.mem_append.mp member with member | member
      · rcases List.mem_map.mp member with ⟨char, inFront, rfl⟩
        have := notSpecial char inFront
        simp at this ⊢
        tauto
      · rcases List.mem_map.mp member with ⟨char, -, rfl⟩
        simp
    cases name with
    | nil => exact absurd rfl nonempty
    | cons char name =>
        have noTilde : char ≠ '~' := by
          rintro rfl
          simpa using notSpecial '~' (by simp)
        rw [value?, noPattern]
        simp [noTilde, Function.comp_def]
  rw [nextToken_export named, readWord_single unquoted, readWord_of_ends ends.delimits]
  simp only [prepend, Option.map_some, Option.bind_some, List.append_nil, value?]

theorem unquoted_of_nextToken {name value rest others : Text} (named : isName name = true)
    (ends : Ends rest)
    (read : nextToken (name ++ '=' :: '\'' :: (value ++ '\'' :: rest)) =
      some (.word (name ++ '=' :: value), others)) : '\'' ∉ value := by
  intro member
  rcases List.eq_append_cons_of_mem member with ⟨front, back, rfl, unquoted⟩
  rw [nextToken_export named, List.append_assoc, List.cons_append,
    readWord_single unquoted, prepend_prepend] at read
  rcases Option.bind_eq_some_iff.mp read with ⟨⟨pieces, left⟩, readWord, read⟩
  rcases Option.map_eq_some_iff.mp readWord with ⟨⟨more, left'⟩, readWord, equal⟩
  cases equal
  rcases Option.map_eq_some_iff.mp read with ⟨word, isValue, equal⟩
  cases equal
  have value : more.map Prod.fst = '\'' :: back := by
    have := (value?_eq_some isValue).1
    simpa [Function.comp_def] using this
  rcases exists_consumed readWord with ⟨consumed, split, consumes⟩
  have lengthMore : more.length = back.length + 1 := by
    rw [← List.length_map Prod.fst, value, List.length_cons]
  have longEnough : back.length + 1 ≤ consumed.length := by
    have length := consumes.length
    simpa [lengthMore, pending] using length
  have blanks : ('\'' :: back).count ' ' = consumed.count ' ' := by
    rw [← value]
    exact consumes.count ' ' rfl
  have takesQuote (isAll : consumed = back ++ ['\'']) : False := by
    have same : more.length = consumed.length := by simp [lengthMore, isAll]
    have allOrdinary := (consumes.ordinary rfl same).1
    rw [isAll, List.all_append, Bool.and_eq_true] at allOrdinary
    cases allOrdinary.2
  rw [← List.singleton_append, ← List.append_assoc] at split
  rcases List.append_eq_append_iff.mp split with ⟨extra, taken, rfl⟩ | ⟨left, taken, -⟩
  · cases extra with
    | nil => exact takesQuote (by simpa using taken)
    | cons first extra =>
        rcases ends with ends | ⟨rest, ends⟩
        · cases ends
        · rw [(List.cons.inj ends).1] at taken
          rw [taken] at blanks
          simp only [List.count_append, List.count_cons_self] at blanks
          simp at blanks
  · have lengths := congrArg List.length taken
    simp only [List.length_append, List.length_singleton] at lengths
    obtain rfl : left = [] := List.length_eq_zero_iff.mp (by omega)
    exact takesQuote (by simpa using taken.symm)

/-! ## All commands -/

inductive Part
  | directory (cwd : Text)
  | exported (name value : Text)

namespace Part

def text : Part → Text
  | directory cwd => cdPart cwd
  | exported name value => exportPart name value

def words : Part → List Text
  | directory cwd => [cdName, cwd]
  | exported name value => [exportName, name ++ '=' :: value]

def Valid : Part → Prop
  | directory cwd => cwd ≠ []
  | exported name _ => isName name = true

def Plain : Part → Prop
  | directory cwd => plainWord cwd = true
  | exported _ value => '\'' ∉ value

instance (part : Part) : Decidable part.Plain :=
  match part with
  | directory cwd => inferInstanceAs (Decidable (plainWord cwd = true))
  | exported _ value => inferInstanceAs (Decidable ('\'' ∉ value))

end Part

def parts (cwd : Text) (envs : Environ) : List Part :=
  (if cwd = [] then [] else [.directory cwd]) ++
    envs.map fun (name, value) => .exported name value

theorem initParts_eq (cwd : Text) (envs : Environ) :
    initParts cwd envs = (parts cwd envs).map Part.text := by
  rw [initParts, parts, List.map_append, List.map_map]
  apply congrArg₂ _ _ rfl
  split <;> rfl

theorem setup_eq (cwd : Text) (envs : Environ) :
    setup cwd envs = (parts cwd envs).map Part.words := by
  rw [setup, parts, List.map_append, List.map_map]
  apply congrArg₂ _ _ rfl
  split <;> rfl

theorem nextToken_name (name : Text) (nonempty : name ≠ []) (plain : plainWord name = true)
    (text : Text) : nextToken (name ++ ' ' :: text) = some (.word name, ' ' :: text) :=
  nextToken_of_plainWord nonempty plain (by simp [Posix.delimits, isBlank])

theorem afterTokens_part {part : Part} (valid : part.Valid) {rest : Text}
    (ends : Ends rest)
    (tokens : List Token) :
    afterTokens (part.words.map Token.word ++ tokens) (part.text ++ rest) =
      if part.Plain then afterTokens tokens rest else none := by
  cases part with
  | directory cwd =>
      rw [Part.text, cdPart, List.append_assoc, List.cons_append, Part.words,
        List.map_cons, List.cons_append,
        afterTokens_cons (nextToken_name cdName (by decide) (by decide) _),
        afterTokens_blank (by simp)]
      by_cases plain : (Part.directory cwd).Plain
      · rw [if_pos plain]
        exact afterTokens_cons (nextToken_of_plainWord valid plain ends.delimits) tokens
      · rw [if_neg plain]
        exact afterTokens_eq_none
          (fun _ read => plain (plainWord_of_nextToken valid ends read)) tokens
  | exported name value =>
      have assignment : name ++ '=' :: '\'' :: (value ++ ['\'']) ++ rest =
          name ++ '=' :: '\'' :: (value ++ '\'' :: rest) := by simp
      rw [Part.text, exportPart, List.append_assoc, List.cons_append, assignment,
        Part.words, List.map_cons, List.cons_append,
        afterTokens_cons (nextToken_name exportName (by decide) (by decide) _),
        afterTokens_blank (by simp)]
      by_cases plain : (Part.exported name value).Plain
      · rw [if_pos plain]
        exact afterTokens_cons (nextToken_export_of_plain valid plain ends) tokens
      · rw [if_neg plain]
        exact afterTokens_eq_none
          (fun _ read => plain (unquoted_of_nextToken valid ends read)) tokens

theorem intercalate_ne_nil {separator first : List α} (nonempty : first ≠ [])
    (others : List (List α)) : separator.intercalate (first :: others) ≠ [] := by
  cases others with
  | nil => simpa [List.intercalate] using nonempty
  | cons second others => simp [nonempty]

theorem ends_separator (text : Text) : Ends (separator ++ text) := .inr ⟨_, rfl⟩

theorem afterTokens_andIf (tokens : List Token) (text : Text) :
    afterTokens (andIf :: tokens) (separator ++ text) =
      afterTokens tokens (' ' :: text) := by
  apply afterTokens_cons
  rfl

theorem afterTokens_group {parts : List Part} (valid : ∀ part ∈ parts, part.Valid)
    (cmd tail : Text) :
    afterTokens (parts.flatMap fun part => part.words.map Token.word ++ [andIf])
        (' ' :: (separator.intercalate (parts.map Part.text ++ [cmd]) ++ tail)) =
      if ∀ part ∈ parts, part.Plain then some (' ' :: (cmd ++ tail)) else none := by
  induction parts with
  | nil => simp [afterTokens, List.intercalate]
  | cons part parts induction =>
      have rest := induction fun part member => valid part (List.mem_cons_of_mem _ member)
      rcases List.exists_cons_of_ne_nil (l := parts.map Part.text ++ [cmd]) (by simp)
        with ⟨next, others, given⟩
      rw [given] at rest
      rw [List.map_cons, List.cons_append, given, List.intercalate_cons_cons,
        List.flatMap_cons,
        afterTokens_blank (by cases part <;> simp [Part.words]), List.append_assoc,
        List.append_assoc, List.append_assoc,
        afterTokens_part (valid part List.mem_cons_self) (ends_separator _),
        List.singleton_append, afterTokens_andIf, rest]
      simp only [List.forall_mem_cons]
      by_cases plain : part.Plain <;> simp [plain]

theorem afterTokens_joined (part : Part) {parts : List Part}
    (valid : ∀ other ∈ part :: parts, other.Valid) :
    afterTokens ([andIf].intercalate
        ((part :: parts).map fun part => part.words.map Token.word))
        (separator.intercalate ((part :: parts).map Part.text)) =
      if ∀ other ∈ part :: parts, other.Plain then some [] else none := by
  induction parts generalizing part with
  | nil =>
      have read := afterTokens_part (valid part List.mem_cons_self) (.inl rfl) []
      simpa [List.intercalate, afterTokens] using read
  | cons next parts induction =>
      have rest := induction next fun other member =>
        valid other (List.mem_cons_of_mem _ member)
      simp only [List.map_cons] at rest
      rw [List.map_cons, List.map_cons, List.intercalate_cons_cons, List.map_cons,
        List.map_cons, List.intercalate_cons_cons, List.append_assoc, List.append_assoc,
        afterTokens_part (valid part List.mem_cons_self) (ends_separator _),
        List.singleton_append, afterTokens_andIf, afterTokens_blank, rest]
      · simp only [List.forall_mem_cons]
        by_cases plain : part.Plain <;> simp [plain]
      · apply intercalate_ne_nil
        cases next <;> simp [Part.words]

theorem valid_of_mem_parts (cwd : Text) {envs : Environ}
    (names : ∀ env ∈ envs, isName env.1 = true) : ∀ part ∈ parts cwd envs, part.Valid := by
  intro part member
  rcases List.mem_append.mp member with member | member
  · split at member
    · cases member
    · rename_i nonempty
      rw [List.mem_singleton.mp member]
      exact nonempty
  · rcases List.mem_map.mp member with ⟨env, isEnv, rfl⟩
    exact names env isEnv

theorem plain_iff (cwd : Text) (envs : Environ) :
    (∀ part ∈ parts cwd envs, part.Plain) ↔ Plain cwd envs := by
  unfold parts Plain
  rw [List.forall_mem_append, List.forall_mem_map]
  apply and_congr_left'
  by_cases none : cwd = []
  · simp [none]
  · simp [none, Part.Plain]

theorem parts_eq_nil {cwd : Text} {envs : Environ} :
    parts cwd envs = [] ↔ cwd = [] ∧ envs = [] := by
  unfold parts
  by_cases none : cwd = [] <;> simp [none]

theorem buildsSetup_iff (cmd : Text) {envs : Option Environ} (cwd : Option Text)
    (names : ∀ env ∈ envs.getD [], isName env.1 = true) :
    BuildsSetup cmd envs cwd ↔ Plain (cwd.getD []) (envs.getD []) := by
  have valid := valid_of_mem_parts (cwd.getD []) names
  have group := afterTokens_group valid cmd " )".toList
  rw [← plain_iff, BuildsSetup, buildCmd, setup_eq, initParts_eq]
  cases given : parts (cwd.getD []) (envs.getD []) with
  | nil => simp [parts_eq_nil.mp given]
  | cons part others =>
      have wanted : ¬(cwd.getD [] = [] ∧ envs.getD [] = []) := by
        rw [← parts_eq_nil, given]
        exact nofun
      have opens (text : Text) :
          nextToken ("( ".toList ++ text) = some (.operator "(".toList, ' ' :: text) := rfl
      rw [given] at group
      rw [if_neg wanted, List.append_assoc]
      simp only [List.map_cons, List.flatMap_cons, List.flatMap_map, List.cons_append,
        reduceCtorEq, if_false] at group ⊢
      rw [afterTokens_cons (opens _), group]
      simp

theorem createsSetup_iff {defaultCwd cwd : Option Text} {envs : Option Environ}
    (names : ∀ env ∈ envs.getD [], isName env.1 = true) :
    CreatesSetup defaultCwd cwd envs ↔
      Plain ((cwd.or defaultCwd).getD []) (envs.getD []) := by
  have valid := valid_of_mem_parts ((cwd.or defaultCwd).getD []) names
  rw [← plain_iff, CreatesSetup, setup_eq]
  cases given : parts ((cwd.or defaultCwd).getD []) (envs.getD []) with
  | nil => simp [createCmd, parts_eq_nil.mp given]
  | cons part others =>
      have wanted : ¬((cwd.or defaultCwd).getD [] = [] ∧ envs.getD [] = []) := by
        rw [← parts_eq_nil, given]
        exact nofun
      have joined := afterTokens_joined part (given ▸ valid)
      have created : createCmd defaultCwd cwd envs =
          some (separator.intercalate ((part :: others).map Part.text)) := by
        simp only [createCmd, if_neg wanted, initParts_eq, given]
        rfl
      rw [created, List.map_map]
      simp only [Option.mem_some_iff, forall_eq', Function.comp_def, joined]
      simp

/-- Both texts are read as the directory, the variables and the command just if nothing in
the directory and no quote in a value means anything to the shell. -/
theorem reads_setup_iff (cmd : Text) (defaultCwd cwd : Option Text)
    (envs : Option Environ) (names : ∀ env ∈ envs.getD [], isName env.1 = true) :
    (BuildsSetup cmd envs cwd ↔ Plain (cwd.getD []) (envs.getD [])) ∧
      (CreatesSetup defaultCwd cwd envs ↔
        Plain ((cwd.or defaultCwd).getD []) (envs.getD [])) :=
  ⟨buildsSetup_iff cmd cwd names, createsSetup_iff names⟩

theorem reads_setup_iff_workspace :
    BuildsSetup "ls".toList (some [("A".toList, "b $c".toList)])
      (some "/workspace".toList) ∧
      CreatesSetup (some "/workspace".toList) none
        (some [("A".toList, "b $c".toList)]) := by
  have names : ∀ env ∈ (some [("A".toList, "b $c".toList)]).getD [],
      isName env.1 = true := by
    decide
  have both := reads_setup_iff "ls".toList (some "/workspace".toList)
    (some "/workspace".toList) (some [("A".toList, "b $c".toList)]) names
  have plain : Plain "/workspace".toList [("A".toList, "b $c".toList)] := by
    unfold Plain
    decide
  have none := reads_setup_iff "ls".toList (some "/workspace".toList) none
    (some [("A".toList, "b $c".toList)]) names
  exact ⟨both.1.mpr plain, none.2.mpr plain⟩

/-- A blank ends the directory, and a quote ends the quoted value. -/
theorem unquoted_setup_is_misread :
    ¬BuildsSetup "ls".toList none (some "a b".toList) ∧
      ¬BuildsSetup "ls".toList (some [("A".toList, "it's".toList)]) none ∧
      ¬CreatesSetup none (some "a b".toList) none := by
  unfold BuildsSetup
  refine ⟨by decide, by decide, fun creates => ?_⟩
  have read := creates _ rfl
  revert read
  decide

end YrSandbox.Shell
