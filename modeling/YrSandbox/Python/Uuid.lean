import YrSandbox.Python.Struct
import YrSandbox.Python.UrlParts

/-! # `uuid.UUID`

Built from text in any spelling it accepts, from sixteen bytes, and printed in
its canonical spelling. What `int` asks of the Unicode database is a parameter. -/

namespace YrSandbox.Python

open Positional

/-! ## `int(text, 16)` -/

/-- `Py_UNICODE_TODECIMAL`, which depends on the version of Unicode. -/
structure UnicodeData where
  decimal : Char → Option (Fin 10)

def isAsciiSpace (char : Char) : Bool :=
  char = ' ' || decide (9 ≤ char.toNat ∧ char.toNat ≤ 13)

/-- The loop of `_PyUnicode_TransformDecimalAndSpaceToASCII`. A character that is
neither ends the text. -/
def toAscii (unicode : UnicodeData) : Text → Text
  | [] => []
  | char :: rest =>
      if char.toNat < 127 then char :: toAscii unicode rest
      else if isSpace char then ' ' :: toAscii unicode rest
      else
        match unicode.decimal char with
        | some digit => digit.val.digitChar :: toAscii unicode rest
        | none => ['?']

def transformDecimalAndSpaceToAscii (unicode : UnicodeData) (text : Text) : Text :=
  if text.all (·.toNat < 128) then text else toAscii unicode text

/-- `_PyLong_DigitValue`, where it is below sixteen. -/
def digitValue (char : Char) : Option Nat :=
  if char.isDigit then some (char.toNat - 48)
  else if decide ('a'.toNat ≤ char.toNat ∧ char.toNat ≤ 'f'.toNat) then
    some (char.toNat - 87)
  else if decide ('A'.toNat ≤ char.toNat ∧ char.toNat ≤ 'F'.toNat) then
    some (char.toNat - 55)
  else none

def isDigitOrUnderscore (char : Char) : Bool := (digitValue char).isSome || char = '_'

def splitSign : Text → Bool × Text
  | '+' :: rest => (false, rest)
  | '-' :: rest => (true, rest)
  | text => (false, text)

def dropBase : Text → Text
  | '0' :: 'x' :: '_' :: rest | '0' :: 'X' :: '_' :: rest => rest
  | '0' :: 'x' :: rest | '0' :: 'X' :: rest => rest
  | text => text

/-- `int(text, 16)`, `none` where it raises. -/
def intBase16 (unicode : UnicodeData) (text : Text) : Option Int :=
  let signed :=
    splitSign (lstrip isAsciiSpace (transformDecimalAndSpaceToAscii unicode text))
  let unsigned := dropBase signed.2
  let digits := unsigned.takeWhile isDigitOrUnderscore
  let rest := unsigned.dropWhile isDigitOrUnderscore
  if digits = [] || digits.head? = some '_' || digits.getLast? = some '_' ||
      occursIn ['_', '_'] digits || !rest.all isAsciiSpace then
    none
  else
    let magnitude : Int := placeValue 16 (digits.filterMap digitValue)
    some (if signed.1 then -magnitude else magnitude)

/-! ## `UUID` -/

structure Uuid where
  int : Nat
  bounded : int < 2 ^ 128
deriving DecidableEq, Repr

/-- `text.replace(part, '')`, where `skip` characters of an occurrence are left. -/
def removeFrom (part : Text) : Nat → Text → Text
  | _, [] => []
  | 0, char :: rest =>
      if part.isPrefixOf (char :: rest) then removeFrom part (part.length - 1) rest
      else char :: removeFrom part 0 rest
  | skip + 1, _ :: rest => removeFrom part skip rest

def remove (part text : Text) : Text := removeFrom part 0 text

def isBrace (char : Char) : Bool := char = '{' || char = '}'

/-- The hexadecimal digits that `UUID(text)` hands to `int`. -/
def uuidDigits (text : Text) : Text :=
  let bare := remove "uuid:".toList (remove "urn:".toList text)
  remove ['-'] (rstrip isBrace (lstrip isBrace bare))

namespace Uuid

/-- `UUID(text)`, `none` where it raises `ValueError`. -/
def ofText (unicode : UnicodeData) (text : Text) : Option Uuid :=
  let hex := uuidDigits text
  if hex.length ≠ 32 then none
  else
    (intBase16 unicode hex).bind fun int =>
      if bounded : 0 ≤ int ∧ int.toNat < 2 ^ 128 then some ⟨int.toNat, bounded.2⟩ else none

def ofBytes (bytes : Bytes) : Option Uuid :=
  if length : bytes.length = 16 then
    some ⟨fromBytes bytes, by
      have below := fromBytes_lt bytes
      rw [length] at below
      exact below⟩
  else none

def bytes (uuid : Uuid) : Bytes := toBytes 16 uuid.int

def hex (uuid : Uuid) : Text := (places 16 32 uuid.int).map Nat.digitChar

def str (uuid : Uuid) : Text :=
  uuid.hex.take 8 ++
    '-' :: ((uuid.hex.drop 8).take 4 ++ '-' :: ((uuid.hex.drop 12).take 4 ++
    '-' :: ((uuid.hex.drop 16).take 4 ++ '-' :: uuid.hex.drop 20)))

end Uuid

/-! ## The canonical spelling is read back -/

def hexDigits : Text := "0123456789abcdef".toList

structure WrittenDigit (char : Char) : Prop where
  ascii : char.toNat < 128
  digit : (digitValue char).isSome = true
  noSpace : isAsciiSpace char = false
  noBrace : isBrace char = false
  ordinary : char ∉ "u+-x_X".toList

theorem writtenDigit {char : Char} (member : char ∈ hexDigits) : WrittenDigit char := by
  have checked : ∀ char ∈ hexDigits, char.toNat < 128 ∧ (digitValue char).isSome = true ∧
      isAsciiSpace char = false ∧ isBrace char = false ∧ char ∉ "u+-x_X".toList :=
    forall_mem_of_all (by decide)
  rcases checked char member with ⟨ascii, digit, noSpace, noBrace, ordinary⟩
  exact ⟨ascii, digit, noSpace, noBrace, ordinary⟩

theorem removeFrom_zero_of_absent {part text : Text} {first : Char}
    (starts : part.head? = some first) (absent : first ∉ text) :
    removeFrom part 0 text = text := by
  induction text with
  | nil => rfl
  | cons char rest induction =>
      have different : part.isPrefixOf (char :: rest) = false := by
        cases part with
        | nil => cases starts
        | cons lead others =>
            cases starts
            simp only [List.isPrefixOf, Bool.and_eq_false_iff, beq_eq_false_iff_ne]
            exact .inl (List.ne_of_not_mem_cons absent)
      rw [removeFrom, if_neg (by simp [different]),
        induction (List.not_mem_of_not_mem_cons absent)]

theorem remove_of_absent {part text : Text} {first : Char}
    (starts : part.head? = some first) (absent : first ∉ text) : remove part text = text :=
  removeFrom_zero_of_absent starts absent

theorem remove_char (char : Char) (text : Text) :
    remove [char] text = text.filter (· ≠ char) := by
  unfold remove
  induction text with
  | nil => rfl
  | cons first rest induction =>
      by_cases same : first = char
      · simpa [removeFrom, List.isPrefixOf, same] using induction
      · simpa [removeFrom, List.isPrefixOf, same, Ne.symm same] using induction

theorem intBase16_hexDigits (unicode : UnicodeData) {text : Text}
    (written : ∀ char ∈ text, char ∈ hexDigits) (nonempty : text ≠ []) :
    intBase16 unicode text =
      some ((placeValue 16 (text.filterMap digitValue) : Nat) : Int) := by
  have plain := fun char member => writtenDigit (written char member)
  have ascii : transformDecimalAndSpaceToAscii unicode text = text := by
    rw [transformDecimalAndSpaceToAscii, if_pos]
    exact List.all_eq_true.mpr fun char member => decide_eq_true (plain char member).ascii
  have trimmed : lstrip isAsciiSpace text = text :=
    lstrip_eq fun char first => (plain char (List.mem_of_mem_head? first)).noSpace
  have counted : ∀ char ∈ text, isDigitOrUnderscore char = true := by
    intro char member
    simp [isDigitOrUnderscore, (plain char member).digit]
  have noUnderscore : '_' ∉ text := by
    intro member
    exact (plain '_' member).ordinary (by decide)
  have unsigned : splitSign text = (false, text) := by
    unfold splitSign
    split
    · exact absurd (by decide) (plain '+' List.mem_cons_self).ordinary
    · exact absurd (by decide) (plain '-' List.mem_cons_self).ordinary
    · rfl
  have baseless : dropBase text = text := by
    unfold dropBase
    split
    · exact absurd (by decide) (plain 'x' (by simp)).ordinary
    · exact absurd (by decide) (plain 'X' (by simp)).ordinary
    · exact absurd (by decide) (plain 'x' (by simp)).ordinary
    · exact absurd (by decide) (plain 'X' (by simp)).ordinary
    · rfl
  have noPair : occursIn ['_', '_'] text = false := by
    rw [occursIn, List.any_eq_false]
    intro tail isTail starts
    rcases List.isPrefixOf_iff_prefix.mp starts with ⟨rest, spelt⟩
    have inTail : '_' ∈ tail := by simp [← spelt]
    exact noUnderscore (((List.mem_tails _ _).mp isTail).subset inTail)
  have noFirst : text.head? ≠ some '_' := fun first =>
    noUnderscore (List.mem_of_mem_head? first)
  have noLast : text.getLast? ≠ some '_' := fun last =>
    noUnderscore (List.mem_of_mem_getLast? last)
  simp only [intBase16, ascii, trimmed, unsigned, baseless,
    List.takeWhile_eq_self_iff.mpr counted, List.dropWhile_eq_nil_iff.mpr counted]
  simp [nonempty, noFirst, noLast, noPair]

theorem digitChar_mem_hexDigits : ∀ digit < 16, digit.digitChar ∈ hexDigits := by decide

theorem digitValue_digitChar : ∀ digit < 16, digitValue digit.digitChar = some digit := by
  decide

namespace Uuid

theorem mem_hex {uuid : Uuid} {char : Char} (member : char ∈ uuid.hex) :
    char ∈ hexDigits := by
  rcases List.mem_map.mp member with ⟨digit, inPlace, rfl⟩
  exact digitChar_mem_hexDigits digit (lt_of_mem_places (by decide) inPlace)

@[simp] theorem length_hex (uuid : Uuid) : uuid.hex.length = 32 := by simp [hex]

theorem placeValue_hex (uuid : Uuid) :
    placeValue 16 (uuid.hex.filterMap digitValue) = uuid.int := by
  have digits : uuid.hex.filterMap digitValue = places 16 32 uuid.int := by
    rw [hex, List.filterMap_map]
    conv_rhs => rw [← List.filterMap_some (l := places 16 32 uuid.int)]
    apply List.filterMap_congr
    intro digit member
    exact digitValue_digitChar digit (lt_of_mem_places (by decide) member)
  have bounded := uuid.bounded
  rw [digits, placeValue_places, Nat.mod_eq_of_lt (by omega)]

theorem filter_str (uuid : Uuid) : uuid.str.filter (· ≠ '-') = uuid.hex := by
  have kept : ∀ text : Text, (∀ char ∈ text, char ∈ hexDigits) →
      text.filter (· ≠ '-') = text := by
    intro text written
    apply List.filter_eq_self.mpr
    intro char member
    apply decide_eq_true
    rintro rfl
    exact (writtenDigit (written '-' member)).ordinary (by decide)
  have part : ∀ front length, ∀ char ∈ (uuid.hex.drop front).take length,
      char ∈ hexDigits :=
    fun front length char member =>
      mem_hex (List.mem_of_mem_drop (List.mem_of_mem_take member))
  have groups : ∀ front length, (uuid.hex.drop front).take length ++
      uuid.hex.drop (front + length) = uuid.hex.drop front := by
    intro front length
    rw [← List.drop_drop, List.take_append_drop]
  have dash : ∀ text : Text, ('-' :: text).filter (· ≠ '-') = text.filter (· ≠ '-') :=
    fun text => List.filter_cons_of_neg (by simp)
  have first := kept _ (part 0 8)
  rw [List.drop_zero] at first
  simp only [str, List.filter_append, dash]
  rw [first, kept _ (part 8 4), kept _ (part 12 4), kept _ (part 16 4),
    kept _ fun char member => mem_hex (List.mem_of_mem_drop member)]
  rw [groups 16 4, groups 12 4, groups 8 4]
  exact groups 0 8

theorem mem_str {uuid : Uuid} {char : Char} (member : char ∈ uuid.str) :
    char = '-' ∨ char ∈ hexDigits := by
  by_cases dash : char = '-'
  · exact .inl dash
  · have kept : char ∈ uuid.str.filter (· ≠ '-') :=
      List.mem_filter.mpr ⟨member, decide_eq_true dash⟩
    rw [filter_str] at kept
    exact .inr (mem_hex kept)

theorem uuidDigits_str (uuid : Uuid) : uuidDigits uuid.str = uuid.hex := by
  have noU : 'u' ∉ uuid.str := by
    intro member
    rcases mem_str member with dash | written
    · cases dash
    · exact (writtenDigit written).ordinary (by decide)
  have noBrace : ∀ char ∈ uuid.str, isBrace char = false := by
    intro char member
    rcases mem_str member with rfl | written
    · rfl
    · exact (writtenDigit written).noBrace
  have left : lstrip isBrace uuid.str = uuid.str :=
    lstrip_eq fun char first => noBrace char (List.mem_of_mem_head? first)
  have right : rstrip isBrace uuid.str = uuid.str := by
    rw [rstrip, List.rdropWhile_eq_self_iff]
    intro nonempty
    simp [noBrace _ (List.getLast_mem nonempty)]
  rw [uuidDigits, remove_of_absent rfl noU, remove_of_absent rfl noU]
  simp only [left, right, remove_char]
  exact filter_str uuid

theorem ofText_str (unicode : UnicodeData) (uuid : Uuid) :
    ofText unicode uuid.str = some uuid := by
  have nonempty : uuid.hex ≠ [] := by
    intro none
    have length := uuid.length_hex
    simp [none] at length
  have read := intBase16_hexDigits unicode (fun char member => mem_hex member) nonempty
  rw [placeValue_hex] at read
  have inRange : (0 : Int) ≤ uuid.int ∧ uuid.int < 2 ^ 128 :=
    ⟨Int.natCast_nonneg _, uuid.bounded⟩
  simp only [ofText, uuidDigits_str, length_hex, read, Option.bind_some, ne_eq,
    not_true_eq_false, if_false, Int.toNat_natCast]
  exact dif_pos inRange

@[simp] theorem length_bytes (uuid : Uuid) : uuid.bytes.length = 16 :=
    length_toBytes 16 uuid.int

theorem ofBytes_bytes (uuid : Uuid) : ofBytes uuid.bytes = some uuid := by
  have fits : uuid.int < 256 ^ 16 := by
    have bounded := uuid.bounded
    omega
  simp only [ofBytes, bytes, length_toBytes, dif_pos, fromBytes_toBytes fits]

theorem bytes_ofBytes {raw : Bytes} {uuid : Uuid} (read : ofBytes raw = some uuid) :
    uuid.bytes = raw := by
  unfold ofBytes at read
  split at read
  · rename_i length
    cases read
    simp only [bytes]
    rw [← length]
    exact toBytes_fromBytes raw
  · cases read

end Uuid

end YrSandbox.Python
