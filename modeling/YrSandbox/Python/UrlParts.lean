import YrSandbox.Python.Url

/-! # The parts of a URL

What `urlsplit` finds in a text: the parts that a text was put together from, and in
any text no more than what it spells. -/

namespace YrSandbox.Python

/-! ## Separators -/

private theorem differs_of_absent {separator : Char} {text : Text}
    (absent : separator ∉ text) : ∀ char ∈ text, decide (char ≠ separator) = true := by
  intro char member
  refine decide_eq_true ?_
  rintro rfl
  exact absent member

theorem splitOnce_absent {separator : Char} {text : Text} (absent : separator ∉ text) :
    splitOnce separator text = (text, []) := by
  have all := differs_of_absent absent
  rw [splitOnce, List.takeWhile_eq_self_iff.mpr all, List.dropWhile_eq_nil_iff.mpr all]
  rfl

theorem splitOnce_append {separator : Char} (lead text : Text)
    (absent : separator ∉ lead) :
    splitOnce separator (lead ++ text) =
      (lead ++ (splitOnce separator text).1, (splitOnce separator text).2) := by
  have all := differs_of_absent absent
  rw [splitOnce, List.takeWhile_append_of_pos all, List.dropWhile_append_of_pos all]
  rfl

theorem splitOnce_cons (separator : Char) (text : Text) :
    splitOnce separator (separator :: text) = ([], text) := by
  simp [splitOnce]

theorem splitOnce_between {separator : Char} (lead text : Text)
    (absent : separator ∉ lead) :
    splitOnce separator (lead ++ separator :: text) = (lead, text) := by
  rw [splitOnce_append lead _ absent, splitOnce_cons, List.append_nil]

theorem splitOnce_cases (separator : Char) (text : Text) :
    separator ∉ text ∧ splitOnce separator text = (text, []) ∨
      ∃ lead rest, separator ∉ lead ∧ text = lead ++ separator :: rest ∧
        splitOnce separator text = (lead, rest) := by
  by_cases member : separator ∈ text
  · rcases List.eq_append_cons_of_mem member with ⟨lead, rest, rfl, absent⟩
    exact .inr ⟨lead, rest, absent, rfl, splitOnce_between lead rest absent⟩
  · exact .inl ⟨member, splitOnce_absent member⟩

theorem splitOnce_filter {separator : Char} {keeps : Char → Bool}
    (kept : keeps separator = true) (text : Text) :
    splitOnce separator (text.filter keeps) =
      ((splitOnce separator text).1.filter keeps,
        (splitOnce separator text).2.filter keeps) := by
  rcases splitOnce_cases separator text with ⟨absent, same⟩ |
    ⟨lead, rest, absent, rfl, same⟩
  · rw [same, splitOnce_absent fun member => absent (List.mem_of_mem_filter member)]
    rfl
  · rw [same, List.filter_append, List.filter_cons_of_pos kept]
    exact splitOnce_between _ _ fun member => absent (List.mem_of_mem_filter member)

theorem mem_splitOnce {separator char : Char} {text : Text}
    (member : char ∈ (splitOnce separator text).1 ∨ char ∈ (splitOnce separator text).2) :
    char ∈ text := by
  rcases splitOnce_cases separator text with ⟨_, same⟩ | ⟨lead, rest, _, rfl, same⟩
  · rw [same] at member
    rcases member with member | member
    · exact member
    · cases member
  · rw [same] at member
    rcases member with member | member
    · exact List.mem_append_left _ member
    · exact List.mem_append_right _ (List.mem_cons_of_mem _ member)

theorem not_mem_splitOnce (separator : Char) (text : Text) :
    separator ∉ (splitOnce separator text).1 := by
  rcases splitOnce_cases separator text with ⟨absent, same⟩ | ⟨lead, rest, absent, _, same⟩
  · rw [same]
    exact absent
  · rw [same]
    exact absent

/-! ## Path, query and fragment -/

/-- Query and fragment as `urlunsplit` writes them. -/
def tailOf (query fragment : Text) : Text :=
  (if query ≠ [] then '?' :: query else []) ++
    if fragment ≠ [] then '#' :: fragment else []

theorem tailOf_head {query fragment : Text} {char : Char}
    (starts : char ∈ (tailOf query fragment).head?) : char = '?' ∨ char = '#' := by
  unfold tailOf at starts
  split at starts
  · cases starts
    exact .inl rfl
  · split at starts
    · cases starts
      exact .inr rfl
    · cases starts

theorem mem_tailOf {query fragment : Text} {char : Char}
    (member : char ∈ tailOf query fragment) :
    char = '?' ∨ char = '#' ∨ char ∈ query ∨ char ∈ fragment := by
  unfold tailOf at member
  rcases List.mem_append.mp member with inQuery | inFragment
  · split at inQuery
    · rcases List.mem_cons.mp inQuery with isMark | inside
      · exact .inl isMark
      · exact .inr (.inr (.inl inside))
    · cases inQuery
  · split at inFragment
    · rcases List.mem_cons.mp inFragment with isHash | inside
      · exact .inr (.inl isHash)
      · exact .inr (.inr (.inr inside))
    · cases inFragment

def PathText (path : Text) : Prop := ∀ char ∈ path, char ≠ '?' ∧ char ≠ '#'

theorem PathText.hash {path : Text} (plain : PathText path) : '#' ∉ path :=
  fun member => (plain '#' member).2 rfl

theorem PathText.mark {path : Text} (plain : PathText path) : '?' ∉ path :=
  fun member => (plain '?' member).1 rfl

theorem splitTail_append (lead text : Text) (plain : PathText lead) :
    splitTail (lead ++ text) = (lead ++ (splitTail text).1, (splitTail text).2) := by
  simp only [splitTail]
  rw [splitOnce_append lead text plain.hash]
  simp only
  rw [splitOnce_append lead _ plain.mark]

theorem splitTail_filter {keeps : Char → Bool} (hash : keeps '#' = true)
    (mark : keeps '?' = true) (text : Text) :
    splitTail (text.filter keeps) =
      ((splitTail text).1.filter keeps, (splitTail text).2.1.filter keeps,
        (splitTail text).2.2.filter keeps) := by
  simp only [splitTail]
  rw [splitOnce_filter hash]
  simp only
  rw [splitOnce_filter mark]

theorem splitTail_path (text : Text) : PathText (splitTail text).1 := by
  intro char member
  constructor
  · rintro rfl
    exact not_mem_splitOnce _ _ member
  · rintro rfl
    exact not_mem_splitOnce _ _ (mem_splitOnce (.inl member))

theorem splitTail_query (text : Text) : '#' ∉ (splitTail text).2.1 := by
  intro member
  exact not_mem_splitOnce _ _ (mem_splitOnce (.inr member))

theorem mem_splitTail {char : Char} {text : Text}
    (member : char ∈ (splitTail text).1 ∨ char ∈ (splitTail text).2.1 ∨
      char ∈ (splitTail text).2.2) : char ∈ text := by
  rcases member with path | query | fragment
  · exact mem_splitOnce (.inl (mem_splitOnce (.inl path)))
  · exact mem_splitOnce (.inl (mem_splitOnce (.inr query)))
  · exact mem_splitOnce (.inr fragment)

theorem splitTail_of_parts {path query fragment : Text} (plain : PathText path)
    (unmarked : '#' ∉ query) :
    splitTail (path ++ tailOf query fragment) = (path, query, fragment) := by
  rw [splitTail_append path _ plain]
  by_cases noQuery : query = []
  · subst noQuery
    by_cases noFragment : fragment = []
    · subst noFragment
      simp [tailOf, splitTail, splitOnce]
    · simp [tailOf, noFragment, splitTail, splitOnce]
  · have marked : '#' ∉ '?' :: query := by simpa using unmarked
    by_cases noFragment : fragment = []
    · subst noFragment
      have whole : tailOf query [] = '?' :: query := by simp [tailOf, noQuery]
      simp [whole, splitTail, splitOnce_absent marked, splitOnce_cons]
    · have whole : tailOf query fragment = ('?' :: query) ++ '#' :: fragment := by
        simp [tailOf, noQuery, noFragment]
      simp only [whole, splitTail, splitOnce_between _ fragment marked, splitOnce_cons,
        List.append_nil]

theorem splitTail_rest (text : Text) :
    ∃ rest, text = (splitTail text).1 ++ rest ∧
      (rest = [] ∨ rest.head? = some '?' ∨ rest.head? = some '#') := by
  simp only [splitTail]
  rcases splitOnce_cases '#' text with ⟨_, same⟩ | ⟨lead, rest, _, rfl, same⟩ <;>
    rw [same] <;> simp only
  · rcases splitOnce_cases '?' text with ⟨_, marked⟩ |
      ⟨front, others, _, spelt, marked⟩ <;>
      rw [marked]
    · exact ⟨[], by simp, .inl rfl⟩
    · exact ⟨'?' :: others, spelt, .inr (.inl rfl)⟩
  · rcases splitOnce_cases '?' lead with ⟨_, marked⟩ | ⟨front, others, _, rfl, marked⟩ <;>
      rw [marked]
    · exact ⟨'#' :: rest, rfl, .inr (.inr rfl)⟩
    · exact ⟨'?' :: (others ++ '#' :: rest), by simp, .inr (.inl rfl)⟩

/-! ## Scheme and host -/

theorem forall_mem_of_all {fact : Char → Prop} [DecidablePred fact] {text : Text}
    (all : text.all (fun char => decide (fact char)) = true) :
    ∀ char ∈ text, fact char := by
  intro char member
  exact of_decide_eq_true (List.all_eq_true.mp all char member)

structure SchemeText (scheme : Text) : Prop where
  letter : scheme.head?.any Char.isAlpha = true
  chars : ∀ char ∈ scheme, isSchemeChar char = true

namespace SchemeText

variable {scheme : Text}

theorem of_all (letter : scheme.head?.any Char.isAlpha = true)
    (chars : scheme.all (fun char => decide (isSchemeChar char = true)) = true) :
    SchemeText scheme :=
  ⟨letter, forall_mem_of_all chars⟩

theorem excludes (text : SchemeText scheme) {char : Char}
    (other : isSchemeChar char = false) :
    char ∉ scheme := by
  intro member
  have isChar := text.chars char member
  rw [other] at isChar
  cases isChar

theorem nonempty (text : SchemeText scheme) : scheme ≠ [] := by
  rintro rfl
  have letter := text.letter
  cases letter

theorem pathText (text : SchemeText scheme) : PathText scheme := by
  intro char member
  constructor
  · rintro rfl
    exact text.excludes (by decide) member
  · rintro rfl
    exact text.excludes (by decide) member

end SchemeText

theorem schemeOf_eq_some {scheme : Text} (text : SchemeText scheme) (rest : Text) :
    schemeOf (scheme ++ ':' :: rest) = some scheme := by
  have colon : ':' ∉ scheme := text.excludes (by decide)
  have lead : (scheme ++ ':' :: rest).takeWhile (· ≠ ':') = scheme := by
    have before := splitOnce_between scheme rest colon
    exact congrArg Prod.fst before
  rw [schemeOf, lead, if_pos]
  exact ⟨by simp, text.letter, by simpa using text.chars⟩

theorem splitScheme_cases (default url : Text) :
    schemeOf url = none ∧ splitScheme default url = (default, url) ∨
      ∃ scheme rest, SchemeText scheme ∧ url = scheme ++ ':' :: rest ∧
        splitScheme default url = (scheme.map Char.toLower, rest) := by
  cases found : schemeOf url with
  | none => exact .inl ⟨rfl, by simp [splitScheme, found]⟩
  | some scheme =>
      refine .inr ?_
      have given := found
      simp only [schemeOf, Option.ite_none_right_eq_some, Option.some.injEq] at given
      rcases given with ⟨⟨hasColon, letter, chars⟩, lead⟩
      rcases splitOnce_cases ':' url with ⟨absent, _⟩ | ⟨front, rest, _, spelt, same⟩
      · exact absurd (List.takeWhile_eq_self_iff.mpr (differs_of_absent absent)) hasColon
      · have isFront : scheme = front := lead.symm.trans (congrArg Prod.fst same)
        subst isFront
        rw [lead] at letter chars
        refine ⟨scheme, rest, ⟨letter, by simpa using chars⟩, spelt, ?_⟩
        rw [splitScheme, found, spelt]
        simp

theorem schemeOf_append {path rest : Text} (marked : rest = [] ∨ rest.head? = some '?' ∨
    rest.head? = some '#') (schemeless : schemeOf path = none) :
    schemeOf (path ++ rest) = none := by
  rcases splitScheme_cases [] (path ++ rest) with ⟨none, _⟩ |
    ⟨scheme, others, text, spelt, _⟩
  · exact none
  · have colonless : rest.head? ≠ some ':' := by
      rcases marked with rfl | mark | mark
      · exact nofun
      · simp [mark]
      · simp [mark]
    rcases List.append_eq_append_iff.mp spelt with ⟨more, isScheme, isRest⟩ |
      ⟨more, isPath, isOthers⟩
    · cases more with
      | nil =>
          rw [List.nil_append] at isRest
          rw [isRest] at colonless
          exact absurd rfl colonless
      | cons char more =>
          rw [isRest] at marked
          have member : char ∈ scheme := by simp [isScheme]
          have plain := text.pathText char member
          rcases marked with empty | mark | mark
          · cases empty
          · exact absurd (Option.some.inj mark) plain.1
          · exact absurd (Option.some.inj mark) plain.2
    · cases more with
      | nil =>
          rw [List.nil_append] at isOthers
          rw [← isOthers] at colonless
          exact absurd rfl colonless
      | cons char more =>
          rw [List.cons_append, List.cons.injEq] at isOthers
          rw [isPath, ← isOthers.1, schemeOf_eq_some text] at schemeless
          cases schemeless

theorem splitNetloc_host {netloc rest : Text}
    (host : ∀ char ∈ netloc, isDelimiter char = false)
    (ends : ∀ char ∈ rest.head?, isDelimiter char = true) :
    splitNetloc ('/' :: '/' :: (netloc ++ rest)) = (netloc, rest) := by
  have inside : ∀ char ∈ netloc, (!isDelimiter char) = true := by
    intro char member
    rw [host char member]
    rfl
  simp only [splitNetloc]
  rw [List.takeWhile_append_of_pos inside, List.dropWhile_append_of_pos inside]
  cases rest with
  | nil => simp
  | cons char others =>
      have delimiter := ends char rfl
      simp [delimiter]

theorem splitNetloc_cases (url : Text) :
    splitNetloc url = ([], url) ∨
      ∃ netloc rest, (∀ char ∈ netloc, isDelimiter char = false) ∧
        (∀ char ∈ rest.head?, isDelimiter char = true) ∧
        url = '/' :: '/' :: (netloc ++ rest) ∧ splitNetloc url = (netloc, rest) := by
  unfold splitNetloc
  split
  · rename_i rest
    refine .inr ⟨_, _, ?_, ?_, ?_, rfl⟩
    · intro char member
      simpa using List.mem_takeWhile_imp member
    · intro char first
      have outside := List.head?_dropWhile_not (!isDelimiter ·) rest
      rw [Option.mem_def.mp first] at outside
      simpa using outside
    · rw [List.takeWhile_append_dropWhile]
  · exact .inl rfl

/-! ## Whole URLs -/

structure SplitResult.Sound (checks : HostChecks) (parts : SplitResult) : Prop where
  host : ∀ char ∈ parts.netloc, isDelimiter char = false
  brackets : checkBrackets checks parts.netloc = .ok ()
  checked : checkNetloc checks parts.netloc = .ok ()
  rooted : parts.netloc ≠ [] → ∀ char ∈ parts.path.head?, char = '/'
  path : PathText parts.path
  query : '#' ∉ parts.query
  clean : ∀ char, char ∈ parts.netloc ∨ char ∈ parts.path ∨ char ∈ parts.query ∨
    char ∈ parts.fragment → isUnsafe char = false

theorem SplitResult.Sound.shorten {checks : HostChecks} {parts : SplitResult} {path : Text}
    (sound : parts.Sound checks) (shorter : path <+: parts.path) :
    { parts with path := path }.Sound checks where
  host := sound.host
  brackets := sound.brackets
  checked := sound.checked
  rooted present char first := by
    rcases shorter with ⟨more, whole⟩
    apply sound.rooted present char
    rw [← whole, List.head?_append, Option.mem_def.mp first]
    rfl
  path char member := sound.path char (shorter.subset member)
  query := sound.query
  clean char member := by
    rcases member with inHost | inPath | inTail
    · exact sound.clean char (.inl inHost)
    · exact sound.clean char (.inr (.inl (shorter.subset inPath)))
    · exact sound.clean char (.inr (.inr inTail))

section

variable {checks : HostChecks}

theorem urlsplit_eq_ok {url default : Text} {parts : SplitResult} :
    urlsplit checks url default = .ok parts ↔
      ∃ scheme rest netloc tail,
        splitScheme (cleanedScheme default) (cleaned url) = (scheme, rest) ∧
        splitNetloc rest = (netloc, tail) ∧
        checkBrackets checks netloc = .ok () ∧ checkNetloc checks netloc = .ok () ∧
        parts = ⟨scheme, netloc, (splitTail tail).1, (splitTail tail).2.1,
          (splitTail tail).2.2⟩ := by
  unfold urlsplit
  rcases splitScheme (cleanedScheme default) (cleaned url) with ⟨scheme, rest⟩
  simp only
  rcases hosted : splitNetloc rest with ⟨netloc, tail⟩
  simp only [bind, Except.bind, pure, Except.pure, Prod.mk.injEq]
  constructor
  · intro split
    cases bracketed : checkBrackets checks netloc with
    | error message =>
        rw [bracketed] at split
        cases split
    | ok _ =>
        cases checked : checkNetloc checks netloc with
        | error message =>
            rw [bracketed, checked] at split
            cases split
        | ok _ =>
            rw [bracketed, checked] at split
            cases split
            exact ⟨scheme, rest, netloc, tail, ⟨rfl, rfl⟩, hosted, bracketed, checked, rfl⟩
  · rintro ⟨_, _, _, _, ⟨rfl, rfl⟩, again, bracketed, checked, rfl⟩
    rw [hosted] at again
    cases again
    rw [bracketed, checked]

theorem isUnsafe_of_mem_cleaned (url : Text) {char : Char} (member : char ∈ cleaned url) :
    isUnsafe char = false := by
  have kept := List.of_mem_filter member
  simpa using kept

theorem urlsplit_sound {url default : Text} {parts : SplitResult}
    (split : urlsplit checks url default = .ok parts) : parts.Sound checks := by
  rcases urlsplit_eq_ok.mp split with
    ⟨scheme, rest, netloc, tail, schemes, hosts, bracketed, checked, rfl⟩
  have restClean : ∀ char ∈ rest, isUnsafe char = false := by
    intro char member
    apply isUnsafe_of_mem_cleaned url
    rcases splitScheme_cases (cleanedScheme default) (cleaned url) with
      ⟨_, same⟩ | ⟨found, others, _, spelt, same⟩
    · rw [same] at schemes
      cases schemes
      exact member
    · rw [same] at schemes
      cases schemes
      rw [spelt]
      simp [member]
  have hostParts : (∀ char ∈ netloc, isDelimiter char = false) ∧
      (netloc ≠ [] → ∀ char ∈ tail.head?, isDelimiter char = true) ∧
      ∀ char, char ∈ netloc ∨ char ∈ tail → char ∈ rest := by
    rcases splitNetloc_cases rest with same | ⟨found, others, host, ends, spelt, same⟩
    · rw [same] at hosts
      cases hosts
      exact ⟨nofun, fun absent => absurd rfl absent, fun char member =>
        member.resolve_left (by simp)⟩
    · rw [same] at hosts
      cases hosts
      refine ⟨host, fun _ => ends, ?_⟩
      intro char member
      rw [spelt]
      rcases member with member | member <;> simp [member]
  rcases hostParts with ⟨host, ends, among⟩
  refine ⟨host, bracketed, checked, ?_, splitTail_path tail, splitTail_query tail, ?_⟩
  · intro present char first
    rcases splitTail_rest tail with ⟨others, spelt, _⟩
    have starts : char ∈ tail.head? := by
      rw [spelt, List.head?_append, Option.mem_def.mp first]
      rfl
    have plain := splitTail_path tail char (List.mem_of_mem_head? first)
    have delimiter := ends present char starts
    simpa [isDelimiter, plain.1, plain.2] using delimiter
  · intro char member
    apply restClean char
    apply among char
    rcases member with inHost | inTail
    · exact .inl inHost
    · exact .inr (mem_splitTail inTail)

theorem splitScheme_front {default url scheme rest : Text}
    (split : splitScheme default url = (scheme, rest)) :
    ∃ front, PathText front ∧ url = front ++ rest ∧
      (front = [] → scheme = default ∧ schemeOf url = none) := by
  rcases splitScheme_cases default url with ⟨schemeless, same⟩ |
    ⟨found, others, text, rfl, same⟩
  · rw [same] at split
    cases split
    exact ⟨[], nofun, rfl, fun _ => ⟨rfl, schemeless⟩⟩
  · rw [same] at split
    cases split
    refine ⟨found ++ [':'], ?_, by simp, by simp⟩
    intro char member
    rcases List.mem_append.mp member with inside | colon
    · exact text.pathText char inside
    · rw [List.mem_singleton.mp colon]
      decide

theorem splitNetloc_front {url netloc tail : Text}
    (split : splitNetloc url = (netloc, tail)) :
    ∃ front, PathText front ∧ url = front ++ tail ∧ (front = [] → netloc = []) := by
  rcases splitNetloc_cases url with same | ⟨found, others, host, _, rfl, same⟩
  · rw [same] at split
    cases split
    exact ⟨[], nofun, rfl, fun _ => rfl⟩
  · rw [same] at split
    cases split
    refine ⟨'/' :: '/' :: netloc, ?_, rfl, nofun⟩
    intro char member
    simp only [List.mem_cons] at member
    rcases member with rfl | rfl | inside
    · decide
    · decide
    · have plain := host char inside
      constructor <;> rintro rfl <;> revert plain <;> decide

theorem lstrip_eq {strips : Char → Bool} {text : Text}
    (kept : ∀ char ∈ text.head?, strips char = false) : lstrip strips text = text := by
  cases text with
  | nil => rfl
  | cons char text =>
      have stays := kept char rfl
      rw [lstrip, List.dropWhile_cons_of_neg (by simp [stays])]

theorem urlsplit_spells {url default : Text} {parts : SplitResult}
    (split : urlsplit checks url default = .ok parts) :
    ∃ lead kept consumed,
      (splitTail url).1 = lead ++ kept ∧
      kept.filter (!isUnsafe ·) = consumed ++ parts.path ∧
      parts.query = (splitTail url).2.1.filter (!isUnsafe ·) ∧
      (lead = [] → ∀ char ∈ url.head?, isC0ControlOrSpace char = false) ∧
      (consumed = [] → parts.scheme = cleanedScheme default ∧ parts.netloc = [] ∧
        schemeOf (cleaned url) = none) := by
  rcases urlsplit_eq_ok.mp split with
    ⟨scheme, rest, netloc, tail, schemes, hosts, _, _, rfl⟩
  have whole : url = url.takeWhile isC0ControlOrSpace ++ lstrip isC0ControlOrSpace url :=
    List.takeWhile_append_dropWhile.symm
  have leadPlain : PathText (url.takeWhile isC0ControlOrSpace) := by
    intro char member
    have control := List.mem_takeWhile_imp member
    constructor <;> rintro rfl <;> revert control <;> decide
  have front := splitTail_append _ (lstrip isC0ControlOrSpace url) leadPlain
  rw [← whole] at front
  have filtered : splitTail (cleaned url) = _ :=
    splitTail_filter (by decide) (by decide) (lstrip isC0ControlOrSpace url)
  rcases splitScheme_front schemes with ⟨first, firstPlain, spelt, defaulted⟩
  rcases splitNetloc_front hosts with ⟨second, secondPlain, others, hostless⟩
  rw [spelt, others, splitTail_append first _ firstPlain,
    splitTail_append second _ secondPlain] at filtered
  simp only [Prod.mk.injEq] at filtered
  rcases filtered with ⟨paths, rests⟩
  refine ⟨_, _, first ++ second, congrArg Prod.fst front, ?_, ?_, ?_, ?_⟩
  · rw [List.append_assoc]
    exact paths.symm
  · rw [front]
    exact congrArg Prod.fst rests
  · intro unled char starts
    rw [unled, List.nil_append] at whole
    have outside := List.head?_dropWhile_not isC0ControlOrSpace url
    rw [← lstrip, ← whole, Option.mem_def.mp starts] at outside
    exact outside
  · intro untouched
    rcases List.append_eq_nil_iff.mp untouched with ⟨noFirst, noSecond⟩
    exact ⟨(defaulted noFirst).1, hostless noSecond, (defaulted noFirst).2⟩

/-- A path that `urlsplit` leaves as it is. -/
structure Untouched (path : Text) : Prop where
  clean : ∀ char ∈ path, isUnsafe char = false
  lead : ∀ char ∈ path.head?, isC0ControlOrSpace char = false
  schemeless : schemeOf path = none

instance (path : Text) : Decidable (Untouched path) :=
  decidable_of_iff
    (path.all (!isUnsafe ·) = true ∧ path.head?.all (!isC0ControlOrSpace ·) = true ∧
      schemeOf path = none)
    ⟨fun ⟨clean, lead, schemeless⟩ =>
        ⟨by simpa using clean, by simpa [Option.all_eq_true] using lead, schemeless⟩,
      fun ⟨clean, lead, schemeless⟩ =>
        ⟨by simpa using clean, by simpa [Option.all_eq_true] using lead, schemeless⟩⟩

theorem filter_of_clean {text : Text} (clean : ∀ char ∈ text, isUnsafe char = false) :
    text.filter (!isUnsafe ·) = text := by
  rw [List.filter_eq_self]
  intro char member
  rw [clean char member]
  rfl

theorem clean_of_length {text : Text}
    (length : text.length ≤ (text.filter (!isUnsafe ·)).length) :
    ∀ char ∈ text, isUnsafe char = false := by
  intro char member
  have same : text.filter (!isUnsafe ·) = text :=
    List.filter_sublist.eq_of_length_le length
  rw [← same] at member
  simpa using List.of_mem_filter member

theorem urlsplit_path_le {url default : Text} {parts : SplitResult}
    (split : urlsplit checks url default = .ok parts) :
    parts.path.length ≤ (splitTail url).1.length := by
  rcases urlsplit_spells split with ⟨lead, kept, consumed, paths, spelt, _, _, _⟩
  have lengths := congrArg List.length spelt
  have filtered := List.length_filter_le (!isUnsafe ·) kept
  rw [paths]
  simp only [List.length_append] at lengths ⊢
  omega

theorem untouched_of_length {url default : Text} {parts : SplitResult}
    (split : urlsplit checks url default = .ok parts)
    (length : (splitTail url).1.length ≤ parts.path.length) :
    Untouched (splitTail url).1 ∧ parts.path = (splitTail url).1 ∧
      parts.scheme = cleanedScheme default ∧ parts.netloc = [] := by
  rcases urlsplit_spells split with
    ⟨lead, kept, consumed, paths, spelt, _, controls, unconsumed⟩
  have lengths := congrArg List.length spelt
  have filtered := List.length_filter_le (!isUnsafe ·) kept
  rw [paths] at length
  simp only [List.length_append] at lengths length
  have noLead : lead = [] := List.eq_nil_of_length_eq_zero (by omega)
  have noConsumed : consumed = [] := List.eq_nil_of_length_eq_zero (by omega)
  have clean : ∀ char ∈ kept, isUnsafe char = false := clean_of_length (by omega)
  rcases unconsumed noConsumed with ⟨scheme, netloc, schemeless⟩
  have whole : (splitTail url).1 = kept := by rw [paths, noLead, List.nil_append]
  rw [noConsumed, filter_of_clean clean, List.nil_append] at spelt
  rw [whole]
  refine ⟨⟨clean, ?_, ?_⟩, spelt.symm, scheme, netloc⟩
  · intro char first
    rcases splitTail_rest url with ⟨rest, isWhole, _⟩
    apply controls noLead char
    rw [isWhole, whole, List.head?_append, Option.mem_def.mp first]
    rfl
  · rcases splitScheme_cases [] kept with ⟨none, _⟩ | ⟨found, others, text, given, _⟩
    · exact none
    · rcases splitTail_rest url with ⟨rest, isWhole, _⟩
      have read : cleaned url = found ++ ':' :: (others ++ rest.filter (!isUnsafe ·)) := by
        rw [cleaned, lstrip_eq (controls noLead)]
        rw [whole] at isWhole
        rw [isWhole, List.filter_append, filter_of_clean clean, given]
        simp
      rw [read, schemeOf_eq_some text] at schemeless
      cases schemeless

theorem lstrip_of_untouched {url : Text} (untouched : Untouched (splitTail url).1) :
    lstrip isC0ControlOrSpace url = url := by
  rcases splitTail_rest url with ⟨rest, whole, marked⟩
  apply lstrip_eq
  intro char first
  rw [whole, List.head?_append] at first
  cases path : (splitTail url).1.head? with
  | some other =>
      rw [path] at first
      cases first
      exact untouched.lead char path
  | none =>
      rw [path, Option.none_or] at first
      rcases marked with rfl | mark | mark
      · cases first
      · rw [mark] at first
        cases first
        decide
      · rw [mark] at first
        cases first
        decide

theorem cleaned_of_untouched {url : Text} (untouched : Untouched (splitTail url).1) :
    ∃ rest, cleaned url = (splitTail url).1 ++ rest ∧
      (rest = [] ∨ rest.head? = some '?' ∨ rest.head? = some '#') := by
  rcases splitTail_rest url with ⟨rest, whole, marked⟩
  refine ⟨rest.filter (!isUnsafe ·), ?_, ?_⟩
  · rw [cleaned, lstrip_of_untouched untouched]
    conv_lhs => rw [whole]
    rw [List.filter_append, filter_of_clean untouched.clean]
  · cases rest with
    | nil => exact .inl rfl
    | cons char rest =>
        rcases marked with empty | mark | mark
        · cases empty
        · cases mark
          exact .inr (.inl rfl)
        · cases mark
          exact .inr (.inr rfl)

theorem urlsplit_untouched {url : Text} (default : Text)
    (untouched : Untouched (splitTail url).1)
    (rootless : (splitTail url).1.head? ≠ some '/') :
    urlsplit checks url default =
      .ok ⟨cleanedScheme default, [], (splitTail url).1,
        (splitTail url).2.1.filter (!isUnsafe ·),
        (splitTail url).2.2.filter (!isUnsafe ·)⟩ := by
  rcases cleaned_of_untouched untouched with ⟨rest, read, marked⟩
  have schemeless : schemeOf (cleaned url) = none := by
    rw [read]
    exact schemeOf_append marked untouched.schemeless
  have scheme : splitScheme (cleanedScheme default) (cleaned url) =
      (cleanedScheme default, cleaned url) := by
    rw [splitScheme, schemeless]
  have host : splitNetloc (cleaned url) = ([], cleaned url) := by
    rcases splitNetloc_cases (cleaned url) with same | ⟨netloc, others, _, _, spelt, _⟩
    · exact same
    · have first : (cleaned url).head? = some '/' := by rw [spelt]; rfl
      rw [read, List.head?_append] at first
      cases path : (splitTail url).1.head? with
      | some other =>
          rw [path, Option.some_or] at first
          exact absurd (path.trans first) rootless
      | none =>
          rw [path, Option.none_or] at first
          rcases marked with rfl | mark | mark
          · cases first
          · rw [mark] at first
            cases first
          · rw [mark] at first
            cases first
  refine urlsplit_eq_ok.mpr ⟨_, _, _, _, scheme, host, rfl, rfl, ?_⟩
  have filtered : splitTail (cleaned url) = _ :=
    splitTail_filter (by decide) (by decide) (lstrip isC0ControlOrSpace url)
  rw [filtered, lstrip_of_untouched untouched, filter_of_clean untouched.clean]

/-! ## URLs put together from their parts -/

theorem isC0ControlOrSpace_of_schemeChar {char : Char}
    (scheme : isSchemeChar char = true) :
    isC0ControlOrSpace char = false := by
  simp only [isC0ControlOrSpace, decide_eq_false_iff_not, Nat.not_le]
  simp only [isSchemeChar, Bool.or_eq_true] at scheme
  rcases scheme with alphanum | mark
  · replace alphanum :
        (decide (char.val ≥ 'A'.val ∧ char.val ≤ 'Z'.val) ||
          (decide (char.val ≥ 'a'.val) && decide (char.val ≤ 'z'.val)) ||
          (decide (char.val ≥ '0'.val) && decide (char.val ≤ '9'.val))) = true := alphanum
    simp only [Bool.or_eq_true, Bool.and_eq_true, decide_eq_true_eq,
      UInt32.le_iff_toNat_le, ge_iff_le] at alphanum
    have value : char.toNat = char.val.toNat := rfl
    have upper : 'A'.val.toNat = 65 := rfl
    have lower : 'a'.val.toNat = 97 := rfl
    have digit : '0'.val.toNat = 48 := rfl
    omega
  · have known : char = '+' ∨ char = '-' ∨ char = '.' := by simpa using mark
    rcases known with rfl | rfl | rfl <;> decide

theorem isUnsafe_of_schemeChar {char : Char} (scheme : isSchemeChar char = true) :
    isUnsafe char = false := by
  have visible := isC0ControlOrSpace_of_schemeChar scheme
  cases given : isUnsafe char with
  | false => rfl
  | true =>
      have known : char = '\t' ∨ char = '\r' ∨
        char = '\n' := by simpa [isUnsafe] using given
      rcases known with rfl | rfl | rfl <;> revert visible <;> decide

theorem urlsplit_of_parts {parts : SplitResult} (sound : parts.Sound checks)
    (rooted : ∀ char ∈ parts.path.head?, char = '/') (lead : Text) {scheme : Text}
    (controls : ∀ char ∈ lead, isC0ControlOrSpace char = true) (text : SchemeText scheme)
    (lower : scheme.map Char.toLower = parts.scheme) (default : Text) :
    urlsplit checks
        (lead ++ scheme ++ ':' :: '/' :: '/' ::
          (parts.netloc ++ parts.path ++ tailOf parts.query parts.fragment)) default =
      .ok parts := by
  have nonempty := text.nonempty
  have first : ∀ char ∈ scheme.head?, isC0ControlOrSpace char = false := by
    intro char starts
    exact isC0ControlOrSpace_of_schemeChar (text.chars char (List.mem_of_mem_head? starts))
  have read : cleaned (lead ++ scheme ++ ':' :: '/' :: '/' ::
      (parts.netloc ++ parts.path ++ tailOf parts.query parts.fragment)) =
      scheme ++ ':' :: '/' :: '/' ::
        (parts.netloc ++ (parts.path ++ tailOf parts.query parts.fragment)) := by
    have stripped : lstrip isC0ControlOrSpace (lead ++ (scheme ++ ':' :: '/' :: '/' ::
        (parts.netloc ++ (parts.path ++ tailOf parts.query parts.fragment)))) =
        scheme ++ ':' :: '/' :: '/' ::
          (parts.netloc ++ (parts.path ++ tailOf parts.query parts.fragment)) := by
      rw [lstrip, List.dropWhile_append_of_pos controls, ← lstrip]
      apply lstrip_eq
      intro char starts
      rw [List.head?_append, List.head?_eq_some_head nonempty] at starts
      exact first char (by rw [List.head?_eq_some_head nonempty]; exact starts)
    rw [cleaned, List.append_assoc lead, List.append_assoc parts.netloc, stripped]
    apply filter_of_clean
    intro char member
    simp only [List.mem_append, List.mem_cons] at member
    rcases member with inScheme | rfl | rfl | rfl | inHost | inPath | inTail
    · exact isUnsafe_of_schemeChar (text.chars char inScheme)
    · decide
    · decide
    · decide
    · exact sound.clean char (.inl inHost)
    · exact sound.clean char (.inr (.inl inPath))
    · rcases mem_tailOf inTail with rfl | rfl | inside
      · decide
      · decide
      · exact sound.clean char (.inr (.inr inside))
  have schemes : splitScheme (cleanedScheme default) (scheme ++ ':' :: '/' :: '/' ::
      (parts.netloc ++ (parts.path ++ tailOf parts.query parts.fragment))) =
      (parts.scheme, '/' :: '/' ::
        (parts.netloc ++ (parts.path ++ tailOf parts.query parts.fragment))) := by
    rw [splitScheme, schemeOf_eq_some text]
    simp [lower]
  have ends : ∀ char ∈ (parts.path ++ tailOf parts.query parts.fragment).head?,
      isDelimiter char = true := by
    intro char starts
    cases given : parts.path with
    | nil =>
        rw [given, List.nil_append] at starts
        rcases tailOf_head starts with rfl | rfl <;> decide
    | cons other others =>
        rw [given] at starts rooted
        cases starts
        rw [rooted char rfl]
        decide
  refine urlsplit_eq_ok.mpr ⟨_, _, _, _, by rw [read]; exact schemes,
    splitNetloc_host sound.host ends, sound.brackets, sound.checked, ?_⟩
  rw [splitTail_of_parts sound.path sound.query]

end

end YrSandbox.Python
