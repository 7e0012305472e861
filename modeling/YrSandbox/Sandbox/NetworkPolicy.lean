import YrSandbox.Foundation.Association
import YrSandbox.Foundation.Trimming
import YrSandbox.Python.Url

/-! # Network policies

`NetworkPolicy.__post_init__` and the domain patterns of its blacklist. -/

namespace YrSandbox.Network

open Python

/-! ## Domain patterns -/

/-- What is used of Unicode, of `idna` and of `repr`. -/
structure DomainLibrary where
  /-- `text.lower()` -/
  lower : Text → Text
  /-- `idna.encode(text, uts46=True).decode("ascii")`, or none for an `IDNAError`. -/
  encode : Text → Option Text
  repr : Text → Text

def isAscii (char : Char) : Bool := char.toNat ≤ 127

structure DomainLibrary.Documented (library : DomainLibrary) : Prop where
  lower_ascii (text : Text) (ascii : text.all isAscii) :
    library.lower text = asciiLower text
  encode_ascii (text : Text) (ascii : text.all isAscii)
      (lower : ∀ char ∈ text, char.toLower = char) :
    library.encode text = none ∨ library.encode text = some text

inductive PolicyError
  | typeError (message : Text)
  | valueError (message : Text)
deriving DecidableEq, Repr

inductive Argument (Value : Type u)
  | given (value : Value)
  | other
deriving DecidableEq, Repr

def notStrings (description : Text) : PolicyError :=
  .typeError (description ++ " patterns must be strings".toList)

def invalidPattern (library : DomainLibrary) (description pattern : Text) : PolicyError :=
  .valueError
    ("invalid ".toList ++ description ++ " pattern: ".toList ++ library.repr pattern)

/-- `value[:-1] if value.endswith(".") else value` -/
def withoutFinalDot (value : Text) : Text :=
  if ['.'].isSuffixOf value then value.dropLast else value

def wildcardPrefix : Text := ['*', '.']

def isLabelChar (char : Char) : Bool :=
  ('a' ≤ char && char ≤ 'z') || ('0' ≤ char && char ≤ '9') || char = '_' || char = '-'

/-- The test of a label, with `_DNS_LABEL_PATTERN.fullmatch`. -/
def rejectsLabel (label : Text) : Bool :=
  label.isEmpty || 63 < label.length || ['-'].isPrefixOf label || ['-'].isSuffixOf label ||
    !(!label.isEmpty && label.all isLabelChar)

/-- The name that the rest of the checks reads, or none where `IDNAError` is not passed
over. -/
def encoded (library : DomainLibrary) (value : Text) : Option Text :=
  match library.encode value with
  | some name => some name
  | none => if value.any (!isAscii ·) then none else some value

/-- `_normalize_domain_pattern` of a string -/
def normalizeText (library : DomainLibrary) (pattern description : Text) :
    Except PolicyError Text :=
  let value := withoutFinalDot (library.lower (strip pattern))
  let wildcard := wildcardPrefix.isPrefixOf value
  let value := if wildcard then value.drop 2 else value
  if value.isEmpty || value.contains '*' || value.contains '?' then
    .error (invalidPattern library description pattern)
  else
    match encoded library value with
    | none => .error (invalidPattern library description pattern)
    | some value =>
        if 253 < value.length then .error (invalidPattern library description pattern)
        else if (value.splitOn '.').any rejectsLabel then
          .error (invalidPattern library description pattern)
        else .ok (if wildcard then wildcardPrefix ++ value else value)

def normalizeDomainPattern (library : DomainLibrary) (pattern : Argument Text)
    (description : Text) : Except PolicyError Text :=
  match pattern with
  | .given pattern => normalizeText library pattern description
  | .other => .error (notStrings description)

def normalizeDnsPattern (library : DomainLibrary) (pattern : Argument Text) :
    Except PolicyError Text :=
  normalizeDomainPattern library pattern "DNS blacklist".toList

/-! ## Policies -/

inductive Blacklist
  | text
  | bytes
  | sequence (items : List (Argument Text))
  | scalar (typeName : Text)
deriving DecidableEq, Repr

structure PolicyArguments (Traffic : Type u) (Dns : Type v) where
  blockNetwork : Argument Bool := .given false
  dnsBlacklist : Blacklist := .sequence []
  traffic : Option (Argument Traffic) := none
  dns : Option (Argument Dns) := none

structure NetworkPolicy (Traffic : Type u) (Dns : Type v) where
  blockNetwork : Bool
  dnsBlacklist : List Text
  traffic : Option Traffic
  dns : Option Dns
  once : dnsBlacklist.Nodup
  separate : (blockNetwork && !dnsBlacklist.isEmpty) = false
  oneSchema :
    ((blockNetwork || !dnsBlacklist.isEmpty) && (traffic.isSome || dns.isSome)) = false

def typed {Value : Type u} (message : Text) :
    (argument : Option (Argument Value)) →
      Except PolicyError { value : Option Value // value.isSome = argument.isSome }
  | none => .ok ⟨none, rfl⟩
  | some (.given value) => .ok ⟨some value, rfl⟩
  | some .other => .error (.typeError message)

namespace NetworkPolicy

variable {Traffic : Type u} {Dns : Type v}

def notBoolean : Text := "block_network must be a boolean".toList

def notSequence : Text := "dns_blacklist must be a sequence of patterns".toList

def notIterable (typeName : Text) : Text :=
  '\'' :: typeName ++ "' object is not iterable".toList

def blockAndBlacklist : Text := "block_network and dns_blacklist cannot be combined".toList

def legacyAndV2 : Text :=
  "legacy and schema v2 network policies cannot be combined".toList

def notTraffic : Text := "traffic must be a TrafficPolicy or None".toList

def notDns : Text := "dns must be a DNSPolicy or None".toList

/-- `__post_init__` behind the normalization of the blacklist. -/
def ofNormalized (blockNetwork : Bool) (normalized : List Text)
    (traffic : Option (Argument Traffic)) (dns : Option (Argument Dns)) :
    Except PolicyError (NetworkPolicy Traffic Dns) :=
  let keys := Association.fromKeys normalized
  if both : (blockNetwork && !keys.isEmpty) = true then
    .error (.valueError blockAndBlacklist)
  else if mixed :
      ((blockNetwork || !keys.isEmpty) && (traffic.isSome || dns.isSome)) = true then
    .error (.valueError legacyAndV2)
  else
    match typed notTraffic traffic with
    | .error error => .error error
    | .ok ⟨trafficValue, sameTraffic⟩ =>
        match typed notDns dns with
        | .error error => .error error
        | .ok ⟨dnsValue, sameDns⟩ => .ok {
            blockNetwork, dnsBlacklist := keys, traffic := trafficValue, dns := dnsValue
            once := Association.nodup_fromKeys normalized
            separate := Bool.eq_false_of_not_eq_true both
            oneSchema := sameTraffic ▸ sameDns ▸ Bool.eq_false_of_not_eq_true mixed }

/-- `NetworkPolicy(...)`, with `__post_init__` -/
def create (library : DomainLibrary) (arguments : PolicyArguments Traffic Dns) :
    Except PolicyError (NetworkPolicy Traffic Dns) :=
  match arguments.blockNetwork with
  | .other => .error (.typeError notBoolean)
  | .given blockNetwork =>
      match arguments.dnsBlacklist with
      | .text | .bytes => .error (.typeError notSequence)
      | .scalar typeName => .error (.typeError (notIterable typeName))
      | .sequence items =>
          match items.mapM (normalizeDnsPattern library) with
          | .error error => .error error
          | .ok normalized =>
              ofNormalized blockNetwork normalized arguments.traffic arguments.dns

end NetworkPolicy

/-! ## Names -/

structure IsLabel (label : Text) : Prop where
  length : 1 ≤ label.length ∧ label.length ≤ 63
  chars : ∀ char ∈ label, isLabelChar char = true
  start : label.head? ≠ some '-'
  finish : label.getLast? ≠ some '-'

structure IsName (name : Text) : Prop where
  length : 1 ≤ name.length ∧ name.length ≤ 253
  labels : ∃ labels, name = ['.'].intercalate labels ∧ ∀ label ∈ labels, IsLabel label

def folded (pattern : Text) : Text := withoutFinalDot (asciiLower (strip pattern))

theorem isPrefixOf_singleton (char : Char) (text : Text) :
    [char].isPrefixOf text = decide (text.head? = some char) := by
  cases text with
  | nil => rfl
  | cons first text =>
      have same : (char == first) = decide (first = char) := by
        rw [Bool.beq_eq_decide_eq, decide_eq_decide]
        exact eq_comm
      simp [List.isPrefixOf, same]

theorem isSuffixOf_singleton (char : Char) (text : Text) :
    [char].isSuffixOf text = decide (text.getLast? = some char) := by
  rw [List.isSuffixOf, List.reverse_singleton, isPrefixOf_singleton, List.head?_reverse]

theorem rejectsLabel_iff {label : Text} : rejectsLabel label = false ↔ IsLabel label := by
  simp only [rejectsLabel, isPrefixOf_singleton, isSuffixOf_singleton,
    Bool.or_eq_false_iff, Bool.not_eq_false', Bool.and_eq_true, decide_eq_false_iff_not,
    List.all_eq_true,
    Nat.not_lt, Bool.not_eq_true']
  constructor
  · rintro ⟨⟨⟨⟨nonempty, bounded⟩, noStart⟩, noFinish⟩, -, chars⟩
    have some_ : label ≠ [] := by simpa using nonempty
    exact ⟨⟨List.length_pos_of_ne_nil some_, bounded⟩, chars, noStart, noFinish⟩
  · intro isLabel
    have some_ : label ≠ [] := List.ne_nil_of_length_pos isLabel.length.1
    have nonempty : label.isEmpty = false := by simpa using some_
    exact ⟨⟨⟨⟨nonempty, isLabel.length.2⟩, isLabel.start⟩, isLabel.finish⟩, nonempty,
      isLabel.chars⟩

/-! ## Characters -/

theorem forall_ascii (claim : Char → Prop) (table : ∀ code < 128, claim (Char.ofNat code))
    {char : Char} (ascii : isAscii char = true) : claim char := by
  have code : char.toNat < 128 := Nat.lt_succ_of_le (by simpa [isAscii] using ascii)
  have known := table char.toNat code
  rwa [Char.ofNat_toNat] at known

theorem isAscii_of_isLabelChar {char : Char} (isChar : isLabelChar char = true) :
    isAscii char = true := by
  simp only [isLabelChar, Bool.or_eq_true, Bool.and_eq_true, decide_eq_true_eq] at isChar
  have below {last : Char} (atMost : char ≤ last) (ascii : last.toNat ≤ 127) :
      isAscii char = true := decide_eq_true (Nat.le_trans (Char.le_def.mp atMost) ascii)
  rcases isChar with ((⟨_, atMost⟩ | ⟨_, atMost⟩) | rfl) | rfl
  · exact below atMost (by decide)
  · exact below atMost (by decide)
  · decide
  · decide

def isPatternChar (char : Char) : Bool := isLabelChar char || char = '.' || char = '*'

structure Settled (char : Char) : Prop where
  noSpace : isSpace char = false
  lower : char.toLower = char
  ascii : isAscii char = true

theorem settled_of_isPatternChar {char : Char} (isChar : isPatternChar char = true) :
    Settled char := by
  have ascii : isAscii char = true := by
    simp only [isPatternChar, Bool.or_eq_true, decide_eq_true_eq] at isChar
    rcases isChar with (isLabel | rfl) | rfl
    · exact isAscii_of_isLabelChar isLabel
    · decide
    · decide
  have table : ∀ code < 128, isPatternChar (Char.ofNat code) = true →
      isSpace (Char.ofNat code) = false ∧ (Char.ofNat code).toLower = Char.ofNat code := by
    decide
  have facts := forall_ascii (fun char => isPatternChar char = true →
    isSpace char = false ∧ char.toLower = char) table ascii isChar
  exact ⟨facts.1, facts.2, ascii⟩

theorem settled_toLower {char : Char} (ascii : isAscii char = true) :
    isAscii char.toLower = true ∧ char.toLower.toLower = char.toLower :=
  forall_ascii (fun char => isAscii char.toLower = true ∧
    char.toLower.toLower = char.toLower) (by decide) ascii

/-! ## Patterns in ASCII -/

theorem strip_sublist (text : Text) : (strip text).Sublist text :=
  (List.rdropWhile_prefix _ _).sublist.trans (List.dropWhile_sublist _)

theorem withoutFinalDot_sublist (value : Text) :
    (withoutFinalDot value).Sublist value := by
  rw [withoutFinalDot]
  split
  · exact List.dropLast_sublist value
  · exact List.Sublist.refl value

theorem ascii_of_sublist {part text : Text} (sublist : part.Sublist text)
    (ascii : text.all isAscii = true) : part.all isAscii = true := by
  rw [List.all_eq_true] at ascii ⊢
  exact fun char member => ascii char (sublist.mem member)

theorem settled_folded {pattern : Text} (ascii : pattern.all isAscii = true) :
    ∀ char ∈ folded pattern, isAscii char = true ∧ char.toLower = char := by
  have stripped := ascii_of_sublist (strip_sublist pattern) ascii
  rw [List.all_eq_true] at stripped
  intro char member
  rcases List.mem_map.mp ((withoutFinalDot_sublist _).mem member) with
    ⟨original, isOriginal, rfl⟩
  exact settled_toLower (stripped original isOriginal)

theorem ascii_folded {pattern : Text} (ascii : pattern.all isAscii = true) :
    (folded pattern).all isAscii = true := by
  rw [List.all_eq_true]
  exact fun char member => (settled_folded ascii char member).1

theorem encoded_ascii {library : DomainLibrary} (documented : library.Documented)
    {value : Text} (ascii : value.all isAscii = true)
    (lower : ∀ char ∈ value, char.toLower = char) :
    encoded library value = some value := by
  rcases documented.encode_ascii value ascii lower with none | same
  · have noOthers : value.any (!isAscii ·) = false := by
      rw [List.any_eq_false]
      rw [List.all_eq_true] at ascii
      exact fun char member => by simp [ascii char member]
    rw [encoded, none]
    simp [noOthers]
  · rw [encoded, same]

def passes (name : Text) : Bool :=
  !(name.isEmpty || name.contains '*' || name.contains '?') &&
    !decide (253 < name.length) &&
    !(name.splitOn '.').any rejectsLabel

theorem isPatternChar_of_isName {name : Text} (isName : IsName name) {char : Char}
    (member : char ∈ name) : isLabelChar char = true ∨ char = '.' := by
  rcases isName.labels with ⟨labels, rfl, areLabels⟩
  rcases PathSegments.mem_intercalate member with dot | ⟨label, among, inside⟩
  · exact .inr dot
  · exact .inl ((areLabels label among).chars char inside)

theorem passes_iff {name : Text} : passes name = true ↔ IsName name := by
  simp only [passes, Bool.and_eq_true, Bool.not_eq_true', Bool.or_eq_false_iff,
    decide_eq_false_iff_not, Nat.not_lt]
  constructor
  · rintro ⟨⟨⟨⟨nonempty, -⟩, -⟩, bounded⟩, accepted⟩
    have some_ : name ≠ [] := by simpa using nonempty
    refine ⟨⟨List.length_pos_of_ne_nil some_, bounded⟩, name.splitOn '.',
      (List.intercalate_splitOn '.').symm, ?_⟩
    rw [List.any_eq_false] at accepted
    exact fun label member => rejectsLabel_iff.mp (by simpa using accepted label member)
  · intro isName
    have some_ : name ≠ [] := List.ne_nil_of_length_pos isName.length.1
    have absent {char : Char} (other : isLabelChar char = false) (noDot : char ≠ '.') :
        name.contains char = false := by
      rw [← Bool.not_eq_true, List.contains_iff_mem]
      intro member
      rcases isPatternChar_of_isName isName member with isChar | dot
      · rw [other] at isChar
        cases isChar
      · exact noDot dot
    refine ⟨⟨⟨⟨by simpa using some_, absent (by decide) (by decide)⟩,
      absent (by decide) (by decide)⟩, isName.length.2⟩, ?_⟩
    rcases isName.labels with ⟨labels, rfl, areLabels⟩
    have noDots : ∀ label ∈ labels, '.' ∉ label := fun label among inside =>
      absurd ((areLabels label among).chars '.' inside) (by decide)
    have nonempty : labels ≠ [] := fun empty => some_ (by rw [empty, List.intercalate_nil])
    rw [List.splitOn_intercalate '.' noDots nonempty, List.any_eq_false]
    exact fun label among => by simp [rejectsLabel_iff.mpr (areLabels label among)]

theorem removePrefix_back (value : Text) :
    (if wildcardPrefix.isPrefixOf value then
      wildcardPrefix ++ removePrefix wildcardPrefix value
    else removePrefix wildcardPrefix value) = value := by
  rw [removePrefix]
  cases wildcard : wildcardPrefix.isPrefixOf value with
  | false => rfl
  | true =>
      rcases List.isPrefixOf_iff_prefix.mp wildcard with ⟨rest, rfl⟩
      simp

theorem normalizeText_ascii {library : DomainLibrary} (documented : library.Documented)
    {pattern : Text} (ascii : pattern.all isAscii = true) (description : Text) :
    normalizeText library pattern description =
      if passes (removePrefix wildcardPrefix (folded pattern)) then .ok (folded pattern)
      else .error (invalidPattern library description pattern) := by
  have lowered := documented.lower_ascii (strip pattern)
    (ascii_of_sublist (strip_sublist pattern) ascii)
  have rest : (if wildcardPrefix.isPrefixOf (folded pattern) then (folded pattern).drop 2
      else folded pattern) = removePrefix wildcardPrefix (folded pattern) := rfl
  have isPart :
      (removePrefix wildcardPrefix (folded pattern)).Sublist (folded pattern) := by
    rw [removePrefix]
    split
    · exact List.drop_sublist _ _
    · exact List.Sublist.refl _
  have restAscii := ascii_of_sublist isPart (ascii_folded ascii)
  have restLower : ∀ char ∈ removePrefix wildcardPrefix (folded pattern),
      char.toLower = char :=
    fun char member => (settled_folded ascii char (isPart.mem member)).2
  have back := removePrefix_back (folded pattern)
  simp only [normalizeText, lowered]
  rw [← folded, rest, encoded_ascii documented restAscii restLower]
  simp only [back]
  generalize removePrefix wildcardPrefix (folded pattern) = name
  by_cases special : (name.isEmpty || name.contains '*' || name.contains '?') = true
  · have fails : passes name = false := by rw [passes, special]; rfl
    rw [if_pos special, fails]
    rfl
  · rw [if_neg special]
    rw [Bool.not_eq_true] at special
    by_cases long : 253 < name.length
    · have fails : passes name = false := by rw [passes, special, decide_eq_true long]; rfl
      rw [if_pos long, fails]
      rfl
    · have checked : passes name = !(name.splitOn '.').any rejectsLabel := by
        rw [passes, special, decide_eq_false long]
        rfl
      rw [if_neg long, checked]
      cases (name.splitOn '.').any rejectsLabel <;> rfl

theorem normalizeText_eq_ok_iff {library : DomainLibrary} (documented : library.Documented)
    {pattern : Text} (ascii : pattern.all isAscii = true) (description value : Text) :
    normalizeText library pattern description = .ok value ↔
      IsName (removePrefix wildcardPrefix (folded pattern)) ∧ value = folded pattern := by
  rw [normalizeText_ascii documented ascii, ← passes_iff]
  cases passes (removePrefix wildcardPrefix (folded pattern)) with
  | false => simp
  | true => simp [eq_comm]

/-! ## Fixed points -/

theorem strip_eq_self {text : Text} (noSpace : ∀ char ∈ text, isSpace char = false) :
    strip text = text := by
  have front : text.dropWhile isSpace = text := by
    cases text with
    | nil => rfl
    | cons char text => rw [List.dropWhile_cons_of_neg (by simp [noSpace])]
  rw [strip, lstrip, rstrip, front, List.rdropWhile_eq_self_iff]
  intro nonempty
  simp [noSpace _ (List.getLast_mem nonempty)]

theorem asciiLower_eq_self {text : Text} (lower : ∀ char ∈ text, char.toLower = char) :
    asciiLower text = text :=
  (List.map_congr_left lower).trans (List.map_id text)

theorem withoutFinalDot_eq_self {value : Text} (other : value.getLast? ≠ some '.') :
    withoutFinalDot value = value := by
  rw [withoutFinalDot, isSuffixOf_singleton, decide_eq_false other]
  rfl

theorem getLast?_of_isName {name : Text} (isName : IsName name) :
    ∃ char, name.getLast? = some char ∧ isLabelChar char = true := by
  rcases isName.labels with ⟨labels, spelt, areLabels⟩
  rcases List.eq_nil_or_concat labels with rfl | ⟨front, last, rfl⟩
  · rw [List.intercalate_nil] at spelt
    have positive := isName.length.1
    rw [spelt] at positive
    cases positive
  · rw [List.concat_eq_append] at spelt areLabels
    have isLabel := areLabels last (List.mem_append_right _ (List.mem_singleton_self last))
    have nonempty : last ≠ [] := List.ne_nil_of_length_pos isLabel.length.1
    have same : name.getLast? = last.getLast? := by
      by_cases none : front = []
      · rw [spelt, none, List.nil_append, List.intercalate_singleton]
      · rw [spelt, Trimming.intercalate_concat '.' none]
        exact (List.getLast?_append_of_ne_nil _ (List.cons_ne_nil '.' last)).trans
          (List.getLast?_append_of_ne_nil ['.'] nonempty)
    rw [same, List.getLast?_eq_getLast_of_ne_nil nonempty]
    exact ⟨_, rfl, isLabel.chars _ (List.getLast_mem nonempty)⟩

theorem isPatternChar_of_mem {value : Text}
    (isName : IsName (removePrefix wildcardPrefix value)) {char : Char}
    (member : char ∈ value) : isPatternChar char = true := by
  have inName : char ∈ removePrefix wildcardPrefix value → isPatternChar char = true := by
    intro inside
    rcases isPatternChar_of_isName isName inside with isLabel | rfl
    · simp [isPatternChar, isLabel]
    · decide
  rw [← removePrefix_back value] at member
  split at member
  · rcases List.mem_append.mp member with inPrefix | inside
    · have table : wildcardPrefix.all isPatternChar = true := by decide
      exact List.all_eq_true.mp table char inPrefix
    · exact inName inside
  · exact inName member

theorem folded_eq_self {value : Text}
    (isName : IsName (removePrefix wildcardPrefix value)) : folded value = value := by
  have settled : ∀ char ∈ value, Settled char := fun char member =>
    settled_of_isPatternChar (isPatternChar_of_mem isName member)
  have ending : value.getLast? ≠ some '.' := by
    rcases getLast?_of_isName isName with ⟨char, last, isLabel⟩
    have nonempty : removePrefix wildcardPrefix value ≠ [] :=
      List.ne_nil_of_length_pos isName.length.1
    have same : value.getLast? = some char := by
      rw [← last]
      conv_lhs => rw [← removePrefix_back value]
      split
      · exact List.getLast?_append_of_ne_nil _ nonempty
      · rfl
    intro dot
    rw [same, Option.some.injEq] at dot
    rw [dot] at isLabel
    exact absurd isLabel (by decide)
  rw [folded, strip_eq_self fun char member => (settled char member).noSpace,
    asciiLower_eq_self fun char member => (settled char member).lower,
    withoutFinalDot_eq_self ending]

/-! ## What is folded -/

theorem toLower_ne_dot {char : Char} (ascii : isAscii char = true) (other : char ≠ '.') :
    char.toLower ≠ '.' :=
  forall_ascii (fun char => char ≠ '.' → char.toLower ≠ '.') (by decide) ascii other

theorem withoutFinalDot_dot (value : Text) : withoutFinalDot (value ++ ['.']) = value := by
  rw [withoutFinalDot, isSuffixOf_singleton, List.getLast?_concat, List.dropLast_concat]
  simp

theorem folded_spelt {before core dot after : Text}
    (spaceBefore : ∀ char ∈ before, isSpace char = true)
    (spaceAfter : ∀ char ∈ after, isSpace char = true)
    (start : ∃ char, core.head? = some char ∧ isSpace char = false)
    (finish : ∃ char, core.getLast? = some char ∧ isSpace char = false ∧ char ≠ '.')
    (ascii : core.all isAscii = true) (isDot : dot = [] ∨ dot = ['.']) :
    folded (before ++ (core ++ dot) ++ after) = asciiLower core := by
  rcases start with ⟨first, isFirst, firstKept⟩
  rcases finish with ⟨last, isLast, lastKept, notDot⟩
  have front : (core ++ dot).dropWhile isSpace = core ++ dot := by
    cases core with
    | nil => cases isFirst
    | cons char core =>
        rw [List.head?_cons, Option.some.injEq] at isFirst
        rw [List.cons_append, List.dropWhile_cons_of_neg (by simp [isFirst, firstKept])]
  have back : (core ++ dot).rdropWhile isSpace = core ++ dot := by
    rcases isDot with rfl | rfl
    · rw [List.append_nil, List.rdropWhile_eq_self_iff]
      intro nonempty
      rw [List.getLast?_eq_getLast_of_ne_nil nonempty, Option.some.injEq] at isLast
      simp [isLast, lastKept]
    · rw [List.rdropWhile_concat_neg _ _ _ (by decide)]
  have stripped : strip (before ++ (core ++ dot) ++ after) = core ++ dot := by
    have outer := Trimming.trim_append_of_forall spaceAfter (before ++ (core ++ dot))
    rw [Trimming.trim, Trimming.trim, Trimming.dropWhile_append_of_forall spaceBefore,
      front, back] at outer
    exact outer
  rw [folded, stripped, asciiLower, List.map_append]
  rcases isDot with rfl | rfl
  · have kept : (core.map Char.toLower).getLast? ≠ some '.' := by
      rw [List.getLast?_map, isLast, Option.map_some, ne_eq, Option.some.injEq]
      have among : last ∈ core := List.mem_of_mem_getLast? isLast
      exact toLower_ne_dot (List.all_eq_true.mp ascii last among) notDot
    rw [List.map_nil, List.append_nil, withoutFinalDot_eq_self kept, asciiLower]
  · exact withoutFinalDot_dot _

/-! ## Blacklists -/

theorem forall₂_of_mapM {normalize : Argument Text → Except PolicyError Text}
    {items : List (Argument Text)} {normalized : List Text}
    (mapped : items.mapM normalize = .ok normalized) :
    List.Forall₂ (fun item value => normalize item = .ok value) items normalized := by
  induction items generalizing normalized with
  | nil =>
      rw [List.mapM_nil] at mapped
      cases mapped
      exact .nil
  | cons item items induction =>
      rw [List.mapM_cons] at mapped
      cases first : normalize item with
      | error error => rw [first] at mapped; cases mapped
      | ok value =>
          cases rest : items.mapM normalize with
          | error error => rw [first, rest] at mapped; cases mapped
          | ok values =>
              rw [first, rest] at mapped
              cases mapped
              exact .cons first (induction rest)

namespace NetworkPolicy

variable {Traffic : Type u} {Dns : Type v}

theorem dnsBlacklist_ofNormalized {blockNetwork : Bool} {normalized : List Text}
    {traffic : Option (Argument Traffic)} {dns : Option (Argument Dns)}
    {policy : NetworkPolicy Traffic Dns}
    (built : ofNormalized blockNetwork normalized traffic dns = .ok policy) :
    policy.dnsBlacklist = Association.fromKeys normalized := by
  rw [ofNormalized] at built
  split_ifs at built
  split at built
  · cases built
  · split at built
    · cases built
    · cases built
      rfl

theorem dnsBlacklist_create {library : DomainLibrary}
    {arguments : PolicyArguments Traffic Dns} {policy : NetworkPolicy Traffic Dns}
    (created : create library arguments = .ok policy) :
    ∃ items normalized, arguments.dnsBlacklist = .sequence items ∧
      List.Forall₂ (fun item value => normalizeDnsPattern library item = .ok value) items
        normalized ∧
      policy.dnsBlacklist = Association.fromKeys normalized := by
  rw [create] at created
  cases given : arguments.blockNetwork with
  | other => rw [given] at created; cases created
  | given blockNetwork =>
      rw [given] at created
      cases list : arguments.dnsBlacklist with
      | text => rw [list] at created; cases created
      | bytes => rw [list] at created; cases created
      | scalar typeName => rw [list] at created; cases created
      | sequence items =>
          rw [list] at created
          cases mapped : items.mapM (normalizeDnsPattern library) with
          | error error => simp only [mapped] at created; cases created
          | ok normalized =>
              simp only [mapped] at created
              exact ⟨items, normalized, rfl, forall₂_of_mapM mapped,
                dnsBlacklist_ofNormalized created⟩

end NetworkPolicy

/-- What the blacklist's patterns are normalized to. -/
theorem patterns_normalized {Traffic : Type u} {Dns : Type v} (library : DomainLibrary)
    (documented : library.Documented) :
    (∀ description pattern : Text, pattern.all isAscii = true →
      ((∃ value, normalizeDomainPattern library (.given pattern) description = .ok value) ↔
        IsName (removePrefix wildcardPrefix (folded pattern)))) ∧
    (∀ description pattern value : Text, pattern.all isAscii = true →
      normalizeDomainPattern library (.given pattern) description = .ok value →
      normalizeDomainPattern library (.given value) description = .ok value) ∧
    (∀ description pattern other : Text, pattern.all isAscii = true →
      other.all isAscii = true → folded pattern = folded other →
      (normalizeDomainPattern library (.given pattern) description).toOption =
        (normalizeDomainPattern library (.given other) description).toOption) ∧
    ∀ (arguments : PolicyArguments Traffic Dns) (policy : NetworkPolicy Traffic Dns),
      NetworkPolicy.create library arguments = .ok policy →
      ∃ items normalized, arguments.dnsBlacklist = .sequence items ∧
        List.Forall₂ (fun item value => normalizeDnsPattern library item = .ok value) items
          normalized ∧
        policy.dnsBlacklist.Nodup ∧
        (∀ value, value ∈ policy.dnsBlacklist ↔ value ∈ normalized) ∧
        policy.dnsBlacklist.Pairwise fun earlier later =>
          normalized.idxOf earlier < normalized.idxOf later := by
  refine ⟨?_, ?_, ?_, ?_⟩
  · intro description pattern ascii
    simp only [normalizeDomainPattern, normalizeText_eq_ok_iff documented ascii]
    exact ⟨fun accepted => accepted.choose_spec.1, fun isName => ⟨_, isName, rfl⟩⟩
  · intro description pattern value ascii accepted
    rw [normalizeDomainPattern, normalizeText_eq_ok_iff documented ascii] at accepted
    rcases accepted with ⟨isName, rfl⟩
    rw [normalizeDomainPattern, normalizeText_eq_ok_iff documented (ascii_folded ascii),
      folded_eq_self isName]
    exact ⟨isName, rfl⟩
  · intro description pattern other ascii otherAscii same
    rw [normalizeDomainPattern, normalizeDomainPattern,
      normalizeText_ascii documented ascii, normalizeText_ascii documented otherAscii,
      same]
    cases passes (removePrefix wildcardPrefix (folded other)) <;> rfl
  · intro arguments policy created
    rcases NetworkPolicy.dnsBlacklist_create created with
      ⟨items, normalized, given, each, same⟩
    refine ⟨items, normalized, given, each, policy.once, ?_, ?_⟩
    · intro value
      rw [same, Association.mem_fromKeys]
    · rw [same]
      exact Association.pairwise_fromKeys normalized

def asciiLibrary : DomainLibrary where
  lower := asciiLower
  encode text := if text.all isAscii then some text else none
  repr text := '\'' :: text ++ ['\'']

theorem asciiLibrary_documented : asciiLibrary.Documented where
  lower_ascii _ _ := rfl
  encode_ascii _ ascii _ := .inr (if_pos ascii)

theorem patterns_normalized_github :
    ((∃ value, normalizeDomainPattern asciiLibrary (.given "GitHub.COM.".toList)
        "DNS blacklist".toList = .ok value) ↔
      IsName (removePrefix wildcardPrefix (folded "GitHub.COM.".toList))) ∧
    (normalizeDomainPattern asciiLibrary (.given "GitHub.COM.".toList)
        "DNS blacklist".toList).toOption =
      (normalizeDomainPattern asciiLibrary (.given "github.com".toList)
        "DNS blacklist".toList).toOption :=
  have facts := @patterns_normalized Unit Unit asciiLibrary asciiLibrary_documented
  ⟨facts.1 _ _ (by decide), facts.2.2.1 _ _ _ (by decide) (by decide) (by decide)⟩

example :
    (NetworkPolicy.create asciiLibrary ({
        dnsBlacklist :=
          .sequence [.given "GitHub.COM.".toList, .given "*.GitHub.com".toList,
          .given "github.com".toList] } : PolicyArguments Unit Unit)).map
        NetworkPolicy.dnsBlacklist =
      .ok ["github.com".toList, "*.github.com".toList] := by
  decide

end YrSandbox.Network
