import Mathlib.Data.List.Basic
import YrSandbox.Transport.CreateStream

/-! # Blocks of the event stream

A block is what stands before a blank line. The loop is left at the first block whose event
is final and which has data, and what it returns depends on that block alone. -/

namespace YrSandbox.Transport

open Python

namespace CreateStream

/-! ## Blocks -/

def eventOf (line : Text) : Option Text :=
  if "event:".toList.isPrefixOf line then some (strip (line.drop 6)) else none

def dataOf (line : Text) : Option Text :=
  if "data:".toList.isPrefixOf line then some (lstrip isSpace (line.drop 5)) else none

structure Ignored (line : Text) : Prop where
  notBlank : line ≠ []
  noEvent : eventOf line = none
  noData : dataOf line = none

def blockOf (lines : List Text) : Block where
  event := (lines.filterMap eventOf).getLast?.getD []
  dataLines := lines.filterMap dataOf

/-- The blocks that end with a blank line, where `lines` have been read of the first. -/
def blocksFrom (lines : List Text) : List Text → List (List Text)
  | [] => []
  | line :: rest =>
      if line = [] then lines :: blocksFrom [] rest else blocksFrom (lines ++ [line]) rest

def blocks : List Text → List (List Text) := blocksFrom []

def finalBlock (lines : List Text) : Option Block :=
  ((blocks lines).map blockOf).find? Block.isFinal

/-! ## The loop -/

theorem other_prefix {first other : Char} {front back line : Text}
    (different : other ≠ first) (isPrefix : (first :: front).isPrefixOf line = true) :
    (other :: back).isPrefixOf line = false := by
  cases line with
  | nil => rfl
  | cons char rest =>
      rw [List.isPrefixOf, Bool.and_eq_true, beq_iff_eq] at isPrefix
      rw [List.isPrefixOf, ← isPrefix.1, beq_false_of_ne different, Bool.false_and]

theorem Block.take_eq (line : Text) (block : Block) :
    block.take line =
      { event := (eventOf line).getD block.event
        dataLines := block.dataLines ++ (dataOf line).toList } := by
  rw [take, eventOf, dataOf]
  by_cases comment : ":".toList.isPrefixOf line = true
  · have noEvent : "event:".toList.isPrefixOf line = false :=
      other_prefix (by decide) comment
    have noData : "data:".toList.isPrefixOf line = false :=
      other_prefix (by decide) comment
    rw [if_pos comment, noEvent, noData]
    simp
  · rw [if_neg comment]
    by_cases isEvent : "event:".toList.isPrefixOf line = true
    · have noData : "data:".toList.isPrefixOf line = false :=
        other_prefix (by decide) isEvent
      rw [if_pos isEvent, isEvent, noData]
      simp
    · rw [if_neg isEvent, if_neg isEvent]
      by_cases isData : "data:".toList.isPrefixOf line = true
      · rw [if_pos isData, if_pos isData]
        rfl
      · rw [if_neg isData, if_neg isData]
        simp

theorem take_ignored {line : Text} (ignored : Ignored line) (block : Block) :
    block.take line = block := by
  rw [Block.take_eq, ignored.noEvent, ignored.noData]
  simp

theorem blockOf_concat (lines : List Text) (line : Text) :
    blockOf (lines ++ [line]) = (blockOf lines).take line := by
  rw [Block.take_eq, blockOf, blockOf]
  simp only [List.filterMap_append, List.getLast?_append, Block.mk.injEq]
  constructor
  · cases isEvent : eventOf line <;> simp [isEvent]
  · cases isData : dataOf line <;> simp [isData]

theorem turn_blank (block : Block) :
    block.turn [] = if block.isFinal then .final block.dataLines else .goOn .start :=
  if_pos rfl

theorem turn_notBlank {line : Text} (notBlank : line ≠ []) (block : Block) :
    block.turn line = .goOn (block.take line) := if_neg notBlank

theorem readLines_eq_find (read lines : List Text) :
    readLines (blockOf read) lines =
      (((blocksFrom read lines).map blockOf).find? Block.isFinal).map Block.dataLines := by
  induction lines generalizing read with
  | nil => rfl
  | cons line rest induction =>
      rw [readLines, blocksFrom]
      by_cases blank : line = []
      · subst blank
        rw [turn_blank, if_pos rfl, List.map_cons, List.find?_cons]
        cases isFinal : (blockOf read).isFinal with
        | true => rfl
        | false => exact induction []
      · rw [turn_notBlank blank, if_neg blank, ← blockOf_concat]
        exact induction (read ++ [line])

theorem readLines_start (lines : List Text) :
    readLines .start lines = (finalBlock lines).map Block.dataLines :=
  readLines_eq_find [] lines

/-! ## What is inserted -/

theorem readLines_congr {left right : List Text}
    (same : ∀ block, readLines block left = readLines block right) (before : List Text)
    (block : Block) :
    readLines block (before ++ left) = readLines block (before ++ right) := by
  induction before generalizing block with
  | nil => exact same block
  | cons line rest induction =>
      rw [List.cons_append, List.cons_append, readLines, readLines]
      cases block.turn line with
      | goOn next => exact induction next
      | final dataLines => rfl

theorem readLines_ignored {line : Text} (ignored : Ignored line) (before after : List Text)
    (block : Block) : readLines block (before ++ line :: after) =
      readLines block (before ++ after) := by
  apply readLines_congr
  intro other
  rw [readLines, turn_notBlank ignored.notBlank, take_ignored ignored]

def AtBoundary (before : List Text) : Prop :=
  before = [] ∨ ∃ lines, before = lines ++ [[]]

structure OtherBlock (lines : List Text) : Prop where
  notBlank : ∀ line ∈ lines, line ≠ []
  other : (blockOf lines).isFinal = false

theorem blocksFrom_block {lines : List Text} (notBlank : ∀ line ∈ lines, line ≠ [])
    (read after : List Text) :
    blocksFrom read (lines ++ [] :: after) = (read ++ lines) :: blocksFrom [] after := by
  induction lines generalizing read with
  | nil => rw [List.nil_append, blocksFrom, if_pos rfl, List.append_nil]
  | cons line rest induction =>
      rw [List.cons_append, blocksFrom, if_neg (notBlank line List.mem_cons_self),
        induction (fun other isOther => notBlank other (List.mem_cons_of_mem _ isOther)),
        List.append_assoc, List.singleton_append]

theorem readLines_otherBlock {lines : List Text} (other : OtherBlock lines)
    (after : List Text) :
    readLines .start (lines ++ [] :: after) = readLines .start after := by
  rw [readLines_start, readLines_start, finalBlock, blocks,
    blocksFrom_block other.notBlank [] after, List.nil_append, List.map_cons,
    List.find?_cons, other.other]
  rfl

theorem readLines_inserted {before lines : List Text} (boundary : AtBoundary before)
    (other : OtherBlock lines) (after : List Text) :
    readLines .start (before ++ lines ++ [] :: after) =
      readLines .start (before ++ after) := by
  rw [List.append_assoc]
  rcases boundary with rfl | ⟨lines, rfl⟩
  · exact readLines_otherBlock other after
  · rw [List.append_assoc, List.append_assoc]
    apply readLines_congr
    intro block
    rw [List.singleton_append, List.singleton_append, readLines, readLines, turn_blank]
    split
    · rename_i next isNext
      split at isNext
      · cases isNext
      · cases isNext
        exact readLines_otherBlock other after
    · rfl

end CreateStream

/-! ## The result -/

def CreateStream.FinalObject (reader : Reader) (block : Block) (final : Dict) : Prop :=
  reader.loads (joined block.dataLines) = .ok (.object final)

/-- `json.loads` returns a value for the data of the block, or raises `JSONDecodeError`. -/
def CreateStream.Decodes (reader : Reader) (block : Block) : Prop :=
  ∀ error, reader.loads (joined block.dataLines) = .error error →
    ∃ message, error = .decodeError message

/-- The result is the object of the block if the sandbox is running, and a `SandboxError`
if it is not or there is no such object. -/
structure CreateStream.DeterminedBy (reader : Reader) (block : Option Block)
    (result : Except CreateError Dict) : Prop where
  running : ∀ first ∈ block, ∀ final, FinalObject reader first final →
    isRunning final = true → result = .ok final
  otherwise : (∀ first ∈ block, ∀ final, FinalObject reader first final →
    isRunning final = false) → ∃ error, result = .error error ∧ error.isSandboxError = true

namespace CreateStream

variable {reader : Reader}

theorem finish_determinedBy_none : DeterminedBy reader none (finish reader none) where
  running := by simp
  otherwise := fun _ => ⟨_, rfl, rfl⟩

theorem finish_object {block : Block} {final : Dict}
    (object : FinalObject reader block final) :
    finish reader (some block.dataLines) =
      if isRunning final then .ok final
      else .error (.sandbox (.plain (notRunning reader final))) := by
  have decoded : decodeFinal reader block.dataLines = .ok final := by
    rw [decodeFinal, object]
  rw [finish, decoded]
  rfl

theorem determinedBy_error_iff {block : Block} {error : CreateError}
    (noObject : ∀ final, ¬FinalObject reader block final)
    (raised : decodeFinal reader block.dataLines = .error error) :
    DeterminedBy reader (some block) (finish reader (some block.dataLines)) ↔
      error.isSandboxError = true := by
  have finished : finish reader (some block.dataLines) = .error error := by
    rw [finish, raised]
    rfl
  rw [finished]
  constructor
  · intro determined
    rcases determined.otherwise (by
      intro first isFirst final object
      cases isFirst
      exact absurd object (noObject final)) with ⟨other, isOther, sandbox⟩
    cases isOther
    exact sandbox
  · intro sandbox
    refine ⟨?_, fun _ => ⟨error, rfl, sandbox⟩⟩
    intro first isFirst final object
    cases isFirst
    exact absurd object (noObject final)

theorem determinedBy_object {block : Block} {final : Dict}
    (object : FinalObject reader block final) :
    DeterminedBy reader (some block) (finish reader (some block.dataLines)) := by
  rw [finish_object object]
  have only {other : Dict} (isOther : FinalObject reader block other) : other = final := by
    cases isOther.symm.trans object
    rfl
  constructor
  · intro first isFirst other isObject running
    cases isFirst
    rw [only isObject] at running ⊢
    rw [if_pos running]
  · intro notRunning
    rw [notRunning block rfl final object]
    exact ⟨_, rfl, rfl⟩

theorem determinedBy_iff (block : Block) :
    DeterminedBy reader (some block) (finish reader (some block.dataLines)) ↔
      Decodes reader block := by
  cases loaded : reader.loads (joined block.dataLines) with
  | ok value =>
      have decodes : Decodes reader block := by
        intro error raised
        cases loaded.symm.trans raised
      apply iff_of_true _ decodes
      cases value with
      | object final => exact determinedBy_object loaded
      | null | bool _ | int _ | float _ | str _ | array _ =>
          have noObject (final : Dict) : ¬FinalObject reader block final := by
            intro object
            cases loaded.symm.trans object
          have raised : decodeFinal reader block.dataLines = .error (.sandbox
              (.plain "sandbox create final event must contain a JSON object")) := by
            rw [decodeFinal, loaded]
          exact (determinedBy_error_iff noObject raised).mpr rfl
  | error error =>
      have noObject (final : Dict) : ¬FinalObject reader block final := by
        intro object
        cases loaded.symm.trans object
      have decodes_iff :
          Decodes reader block ↔ ∃ message, error = .decodeError message := by
        constructor
        · intro decodes
          exact decodes error loaded
        · intro isDecodeError other raised
          cases loaded.symm.trans raised
          exact isDecodeError
      rw [decodes_iff]
      cases error with
      | decodeError message =>
          have raised : decodeFinal reader block.dataLines = .error (.sandbox
              (.plain s!"invalid sandbox create final event: {message}")) := by
            rw [decodeFinal, loaded]
          rw [determinedBy_error_iff noObject raised]
          exact iff_of_true rfl ⟨message, rfl⟩
      | valueError message =>
          have raised :
              decodeFinal reader block.dataLines = .error (.valueError message) := by
            rw [decodeFinal, loaded]
          rw [determinedBy_error_iff noObject raised]
          exact iff_of_false Bool.false_ne_true (by simp)
      | recursionError =>
          have raised : decodeFinal reader block.dataLines = .error .recursionError := by
            rw [decodeFinal, loaded]
          rw [determinedBy_error_iff noObject raised]
          exact iff_of_false Bool.false_ne_true (by simp)

end CreateStream

/-! ## An attempt -/

namespace EventStream

open CreateStream

def withLines (stream : EventStream) (lines : List Text) : EventStream :=
  { stream with lines }

theorem attempt_withLines (reader : Reader) (stream : EventStream) (lines : List Text) :
    createInfoAttempt reader (stream.withLines lines).toCreateResponse =
      finish reader (readLines .start lines) :=
  createInfoAttempt_eventStream reader (stream.withLines lines)

/-- The first final block determines the result, which is an object or a `SandboxError`
exactly if `json.loads` takes or refuses its data. What is inserted does not matter. -/
theorem createInfoAttempt_determined (reader : Reader) (stream : EventStream)
    (lines : List Text) :
    (DeterminedBy reader (finalBlock lines)
        (createInfoAttempt reader (stream.withLines lines).toCreateResponse) ↔
      ∀ block ∈ finalBlock lines, Decodes reader block) ∧
    (∀ others, finalBlock others = finalBlock lines →
      createInfoAttempt reader (stream.withLines others).toCreateResponse =
        createInfoAttempt reader (stream.withLines lines).toCreateResponse) ∧
    (∀ before line after, Ignored line → lines = before ++ after →
      createInfoAttempt reader
          (stream.withLines (before ++ line :: after)).toCreateResponse =
        createInfoAttempt reader (stream.withLines lines).toCreateResponse) ∧
    ∀ before block after, AtBoundary before → OtherBlock block → lines = before ++ after →
      createInfoAttempt reader
          (stream.withLines (before ++ block ++ [] :: after)).toCreateResponse =
        createInfoAttempt reader (stream.withLines lines).toCreateResponse := by
  refine ⟨?_, ?_, ?_, ?_⟩
  · rw [attempt_withLines, readLines_start]
    cases finalBlock lines with
    | none => exact iff_of_true finish_determinedBy_none (by simp)
    | some block =>
        rw [Option.map_some, determinedBy_iff]
        simp
  · intro others same
    rw [attempt_withLines, attempt_withLines, readLines_start, readLines_start, same]
  · intro before line after ignored split
    rw [attempt_withLines, attempt_withLines, split, readLines_ignored ignored]
  · intro before block after boundary other split
    rw [attempt_withLines, attempt_withLines, split, readLines_inserted boundary other]

/-! ### Two streams -/

def accepted : EventStream where
  statusCode := 200
  contentType := "text/event-stream".toList
  text := ""
  json := .ok []
  lines := []
  success := by decide
  isStream := rfl

def runningLines : List Text :=
  ["event: final".toList, "data: \x7b\"status\":\"running\"\x7d".toList, []]

def runningReader : Reader where
  loads := fun _ => .ok (.object [("status", .str "running")])
  builtins := ⟨fun _ => none, fun _ => none, fun _ => ""⟩
  requestId := "create-1"

/-- A heartbeat in the final block, or a block before it, changes nothing. -/
theorem createInfoAttempt_determined_heartbeat :
    createInfoAttempt runningReader (accepted.withLines
        (": heartbeat".toList :: runningLines)).toCreateResponse =
      createInfoAttempt runningReader (accepted.withLines runningLines).toCreateResponse ∧
    createInfoAttempt runningReader (accepted.withLines
        ("event: accepted".toList :: [] :: runningLines)).toCreateResponse =
      createInfoAttempt runningReader
        (accepted.withLines runningLines).toCreateResponse := by
  have determined := createInfoAttempt_determined runningReader accepted runningLines
  constructor
  · refine determined.2.2.1 [] _ runningLines ⟨?_, rfl, rfl⟩ rfl
    decide
  · refine determined.2.2.2 [] ["event: accepted".toList] runningLines (.inl rfl)
      ⟨?_, rfl⟩ rfl
    intro line isLine
    cases List.mem_singleton.mp isLine
    decide

def longInteger : List Text :=
  ["event: final".toList,
    "data: \x7b\"status\":\"running\",\"n\":".toList ++ List.replicate 4301 '1' ++
      "\x7d".toList,
    []]

def refusingReader : Reader where
  loads := fun _ =>
    .error (.valueError "Exceeds the limit (4300 digits) for integer string conversion")
  builtins := runningReader.builtins
  requestId := "create-1"

theorem long_integer_raises :
    ¬∀ (reader : Reader) (stream : EventStream) (lines : List Text),
      DeterminedBy reader (finalBlock lines)
        (createInfoAttempt reader (stream.withLines lines).toCreateResponse) := by
  intro claim
  have determined := claim refusingReader accepted longInteger
  have noObject : ∀ first ∈ finalBlock longInteger, ∀ final,
      FinalObject refusingReader first final → isRunning final = false := by
    intro first _ final object
    cases object
  rcases determined.otherwise noObject with ⟨error, raised, sandbox⟩
  have isValueError : createInfoAttempt refusingReader
      (accepted.withLines longInteger).toCreateResponse = .error (.valueError _) := rfl
  cases isValueError.symm.trans raised
  cases sandbox

end EventStream

end YrSandbox.Transport
