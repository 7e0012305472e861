import YrSandbox.Sandbox.RpcChunks
import YrSandbox.Transport.ResumableDownload

/-! # `copy_to_local` for one file

Both routes write a `.part` file beside the destination and move it there at the
end. A call is a machine that waits for the next reply or for the end of the next
local operation, each of which may fail. -/

namespace YrSandbox

open Python Transition Transport

structure CopyCall where
  sandboxId : Text
  remotePath : Text
  localPath : Text
  directEnabled : Bool
  resumeMaxRetries : Int
deriving DecidableEq, Repr

def CopyCall.partPath (call : CopyCall) : Text := call.localPath ++ ".part".toList

/-- Where an exception comes from: before the RuntimeRPC route enters its `try`, from
`os.unlink` in its `finally`, or else. -/
inductive Cause
  | early (error : FilesystemError)
  | late (error : FilesystemError)
  | unlink
deriving DecidableEq, Repr

inductive StreamEnd
  | exhausted
  | requestError (text : Text)
  | error (error : FilesystemError)
deriving DecidableEq, Repr

inductive CopyPhase
  | stat
  | makeParents
  -- the RuntimeRPC route
  | openPart
  | reading (offset : Nat)
  | writing (offset : Nat) (chunk : Bytes) (eof : Bool)
  | closing (failed : Option FilesystemError)
  | replacing
  | unlinking (error : FilesystemError)
  -- the direct route
  | requesting (failures : Nat)
  | opening (failures : Nat) (append : Bool)
  | streaming (failures : Nat)
  | storing (failures : Nat) (piece : Bytes)
  | closingStream (failures : Nat) (reason : StreamEnd)
  | moving
  -- the outcomes
  | directory -- `remote_path` is no file
  | returned
  | raised (cause : Cause)
deriving DecidableEq, Repr

/-- What happens next: `_invoke` ends, a local operation ends well or raises `OSError`
and leaves `part` as the `.part` file, or something comes from the direct route. -/
inductive CopyEvent
  | invoked (reply : Except FilesystemError Dict)
  | done
  | failed (part : Option Bytes)
  | responded (statusCode : Nat) (text : Text)
  | requestError (text : Text)
  | otherError (text : Text) -- another exception of the transport
  | received (piece : Bytes)
  | exhausted
deriving Repr

/-- `received` are the bytes that came for the file during the call. -/
structure Copying where
  phase : CopyPhase
  files : Files
  received : Bytes

namespace Copying

def start (files : Files) : Copying where
  phase := .stat
  files := files
  received := []

def goTo (copying : Copying) (phase : CopyPhase) : Copying := { copying with phase }

def raise (copying : Copying) (cause : Cause) : Copying := copying.goTo (.raised cause)

def part (call : CopyCall) (copying : Copying) : Option Bytes :=
  copying.files call.partPath

def setPart (call : CopyCall) (copying : Copying) (part : Option Bytes) : Copying :=
  { copying with files := copying.files.set call.partPath part }

def appendPart (call : CopyCall) (copying : Copying) (chunk : Bytes) : Copying :=
  copying.setPart call (some ((copying.part call).getD [] ++ chunk))

def receive (copying : Copying) (chunk : Bytes) : Copying :=
  { copying with received := copying.received ++ chunk }

def replace (call : CopyCall) (copying : Copying) : Option Copying :=
  (copying.part call).map fun content =>
    { copying with
      phase := .returned
      files := (copying.files.set call.partPath none).set call.localPath (some content) }

/-- `finally`, after an exception in the `try` block. -/
def cleanUp (call : CopyCall) (copying : Copying) (error : FilesystemError) : Copying :=
  if (copying.part call).isSome then copying.goTo (.unlinking error)
  else copying.raise (.late error)

/-- `except httpx.RequestError` -/
def retry (call : CopyCall) (copying : Copying) (failures : Nat) (text : Text) : Copying :=
  if (failures + 1 : Int) > call.resumeMaxRetries then
    copying.raise (.late (.transport
      ("direct download ".toList ++ call.sandboxId ++ " failed: ".toList ++ text)))
  else copying.goTo (.requesting (failures + 1))

/-- `os.path.getsize(part_path) if os.path.exists(part_path) else 0` -/
def offset (call : CopyCall) (copying : Copying) : Nat :=
  ((copying.part call).map List.length).getD 0

/-- The status of a response to a request that asked for the bytes from `offset` on. -/
def respond (call : CopyCall) (copying : Copying) (failures statusCode : Nat)
    (text : Text) : Copying :=
  if 400 ≤ statusCode then
    copying.raise (.late (.transport
      ("direct download ".toList ++ call.sandboxId ++ " failed: HTTP ".toList ++
        (toString statusCode).toList ++ " ".toList ++ text)))
  else
    let append := decide (0 < copying.offset call) && decide (statusCode = 206)
    copying.goTo (.opening failures append)

def leaveStream (call : CopyCall) (copying : Copying) (failures : Nat) :
    StreamEnd → Copying
  | .exhausted => copying.goTo .moving
  | .requestError text => copying.retry call failures text
  | .error error => copying.raise (.late error)

variable (builtins : Builtins)

/-- `get_info`, and the branch on its type. -/
def inform (call : CopyCall) (copying : Copying) (reply : Except FilesystemError Dict) :
    Copying :=
  match reply.bind (acceptInfo builtins call.remotePath) with
  | .error error => copying.raise (.early error)
  | .ok info => copying.goTo (if info.isDir then .directory else .makeParents)

/-- A round of `_read_rpc_chunks` up to its `yield`, or to its end. -/
def read (call : CopyCall) (copying : Copying) (offset : Nat)
    (reply : Except FilesystemError Dict) : Copying :=
  match reply.bind (acceptRead builtins call.remotePath) with
  | .error error => copying.goTo (.closing (some error))
  | .ok (chunk, eof) =>
      if chunk = [] then copying.goTo (.closing none)
      else (copying.receive chunk).goTo (.writing offset chunk eof)

def step (call : CopyCall) (copying : Copying) (event : CopyEvent) : Option Copying :=
  match copying.phase, event with
  | .stat, .invoked reply => some (copying.inform builtins call reply)
  | .makeParents, .done =>
      some (copying.goTo (if call.directEnabled then .requesting 0 else .openPart))
  | .makeParents, .failed _ => some (copying.raise (.early .osError))
  | .openPart, .done => some ((copying.setPart call (some [])).goTo (.reading 0))
  | .openPart, .failed part => some ((copying.setPart call part).cleanUp call .osError)
  | .reading offset, .invoked reply => some (copying.read builtins call offset reply)
  | .writing offset chunk eof, .done =>
      some ((copying.appendPart call chunk).goTo
        (if eof then .closing none else .reading (offset + chunk.length)))
  | .writing _ _ _, .failed part =>
      some ((copying.setPart call part).goTo (.closing (some .osError)))
  | .closing none, .done => some (copying.goTo .replacing)
  | .closing (some error), .done => some (copying.cleanUp call error)
  | .closing _, .failed part => some ((copying.setPart call part).cleanUp call .osError)
  | .replacing, .done => copying.replace call
  | .replacing, .failed _ => some (copying.cleanUp call .osError)
  | .unlinking error, .done => some ((copying.setPart call none).raise (.late error))
  | .unlinking _, .failed _ => some (copying.raise .unlink)
  | .requesting failures, .responded statusCode text =>
      some (copying.respond call failures statusCode text)
  | .requesting failures, .requestError text => some (copying.retry call failures text)
  | .requesting _, .otherError text => some (copying.raise (.late (.transport text)))
  | .opening failures append, .done =>
      some ((copying.setPart call
        (some (if append then (copying.part call).getD [] else []))).goTo
          (.streaming failures))
  | .opening _ _, .failed part =>
      some ((copying.setPart call part).raise (.late .osError))
  | .streaming failures, .received piece =>
      some (if piece = [] then copying
        else (copying.receive piece).goTo (.storing failures piece))
  | .streaming failures, .exhausted =>
      some (copying.goTo (.closingStream failures .exhausted))
  | .streaming failures, .requestError text =>
      some (copying.goTo (.closingStream failures (.requestError text)))
  | .streaming failures, .otherError text =>
      some (copying.goTo (.closingStream failures (.error (.transport text))))
  | .storing failures piece, .done =>
      some ((copying.appendPart call piece).goTo (.streaming failures))
  | .storing failures _, .failed part =>
      some ((copying.setPart call part).goTo (.closingStream failures (.error .osError)))
  | .closingStream failures reason, .done =>
      some (copying.leaveStream call failures reason)
  | .closingStream _ _, .failed part =>
      some ((copying.setPart call part).raise (.late .osError))
  | .moving, .done => copying.replace call
  | .moving, .failed _ => some (copying.raise (.late .osError))
  | _, _ => none

/-! ## What is known in each phase -/

/-- `part` is what the call found in the `.part` file, or nothing, and the end of what
it received, but for `rest`. -/
def Resumes (call : CopyCall) (before : Files) (part : Option Bytes)
    (received rest : Bytes) : Prop :=
  ∃ found kept, part.getD [] = found ++ kept ∧ kept ++ rest <:+ received ∧
    (found = [] ∨ before call.partPath = some found)

/-- Files other than the `.part` file are as they were. -/
def Untouched (call : CopyCall) (before : Files) (copying : Copying) : Prop :=
  ∀ path, path ≠ call.partPath → copying.files path = before path

/-- What holds of the `.part` file while the call is in a phase. -/
def Knows (call : CopyCall) (before : Files) (part : Option Bytes) (received : Bytes) :
    CopyPhase → Prop
  | .stat | .makeParents => part = before call.partPath ∧ received = []
  | .openPart => call.directEnabled = false ∧ received = []
  | .reading _ | .closing none | .replacing =>
      call.directEnabled = false ∧ part = some received
  | .writing _ chunk _ =>
      call.directEnabled = false ∧
        ∃ stored, part = some stored ∧ received = stored ++ chunk
  | .closing (some _) | .unlinking _ => call.directEnabled = false
  | .requesting _ | .opening _ _ | .streaming _ | .moving =>
      call.directEnabled = true ∧ Resumes call before part received []
  | .storing _ piece => call.directEnabled = true ∧ Resumes call before part received piece
  | .closingStream _ (.error _) => call.directEnabled = true
  | .closingStream _ _ => call.directEnabled = true ∧ Resumes call before part received []
  | .raised (.early _) => part = before call.partPath
  | .raised (.late _) => call.directEnabled = false → part = none
  | .raised .unlink | .directory | .returned => True

/-- The file at `local_path` was replaced by what the call received, which on the
direct route may continue what was found in the `.part` file. -/
structure Completed (call : CopyCall) (before : Files) (copying : Copying) : Prop where
  elsewhere : ∀ path, path ≠ call.localPath → path ≠ call.partPath →
    copying.files path = before path
  noPart : copying.part call = none
  content : ∃ found kept, copying.files call.localPath = some (found ++ kept) ∧
    kept <:+ copying.received ∧ (found = [] ∨ before call.partPath = some found)
  whole : call.directEnabled = false →
    copying.files call.localPath = some copying.received

structure Sound (call : CopyCall) (before : Files) (copying : Copying) : Prop where
  untouched : copying.phase ≠ .returned → Untouched call before copying
  knows : Knows call before (copying.part call) copying.received copying.phase
  completed : copying.phase = .returned → Completed call before copying

variable {builtins : Builtins} {call : CopyCall} {before : Files} {copying next : Copying}
  {event : CopyEvent} {part : Option Bytes} {error : FilesystemError} {phase : CopyPhase}

theorem partPath_ne (call : CopyCall) : call.partPath ≠ call.localPath := by
  intro same
  have lengths := congrArg List.length same
  simp [CopyCall.partPath] at lengths

@[simp] theorem part_setPart : (copying.setPart call part).part call = part := by
  simp [Copying.part, setPart, Files.set]

theorem part_appendPart (chunk : Bytes) :
    (copying.appendPart call chunk).part call =
      some ((copying.part call).getD [] ++ chunk) := part_setPart

@[simp] theorem part_receive (chunk : Bytes) :
    (copying.receive chunk).part call = copying.part call := rfl

theorem Untouched.setPart (untouched : Untouched call before copying) :
    Untouched call before (copying.setPart call part) := by
  intro path different
  simpa [Copying.setPart, Files.set, different] using untouched path different

theorem absurd_rpc {property : Prop} (direct : call.directEnabled = true)
    (rpc : call.directEnabled = false) : property :=
  nomatch rpc.symm.trans direct

/-- The rule for a step that goes on, or raises. -/
theorem Sound.of_goTo (untouched : Untouched call before copying)
    (different : phase ≠ .returned)
    (knows : Knows call before (copying.part call) copying.received phase) :
    Sound call before (copying.goTo phase) where
  untouched _ := untouched
  knows := knows
  completed returned := absurd returned different

theorem cleanUp_sound (untouched : Untouched call before copying)
    (rpc : call.directEnabled = false) :
    Sound call before (copying.cleanUp call error) := by
  unfold cleanUp
  split
  · exact .of_goTo untouched nofun rpc
  · next absent =>
      exact .of_goTo untouched nofun fun _ => Option.not_isSome_iff_eq_none.mp absent

theorem retry_sound (untouched : Untouched call before copying) {failures : Nat}
    {text : Text} (direct : call.directEnabled = true)
    (resumes : Resumes call before (copying.part call) copying.received []) :
    Sound call before (copying.retry call failures text) := by
  unfold retry
  split
  · exact .of_goTo untouched nofun (absurd_rpc direct)
  · exact .of_goTo untouched nofun ⟨direct, resumes⟩

theorem replace_sound (untouched : Untouched call before copying)
    (resumes : Resumes call before (copying.part call) copying.received [])
    (whole : call.directEnabled = false → copying.part call = some copying.received)
    (replaced : copying.replace call = some next) : Sound call before next := by
  rcases Option.map_eq_some_iff.mp replaced with ⟨content, present, rfl⟩
  constructor
  · exact fun different => absurd rfl different
  · trivial
  · intro _
    constructor
    · intro path notTarget notPart
      simpa [Files.set, notTarget, notPart] using untouched path notPart
    · simp [Copying.part, Files.set, partPath_ne call]
    · rcases resumes with ⟨found, kept, same, suffix, source⟩
      rw [present, Option.getD_some] at same
      rw [List.append_nil] at suffix
      exact ⟨found, kept, by simp [Files.set, same], suffix, source⟩
    · intro rpc
      rw [← present.symm.trans (whole rpc)]
      simp [Files.set]

theorem inform_sound (untouched : Untouched call before copying)
    (knows : copying.part call = before call.partPath ∧ copying.received = [])
    {reply : Except FilesystemError Dict} :
    Sound call before (copying.inform builtins call reply) := by
  unfold inform
  split
  · exact .of_goTo untouched nofun knows.1
  · split
    · exact .of_goTo untouched nofun trivial
    · exact .of_goTo untouched nofun knows

theorem read_sound (untouched : Untouched call before copying)
    (rpc : call.directEnabled = false) (stored : copying.part call = some copying.received)
    {offset : Nat} {reply : Except FilesystemError Dict} :
    Sound call before (copying.read builtins call offset reply) := by
  unfold read
  split
  · exact .of_goTo untouched nofun rpc
  · next chunk eof _ =>
      split
      · exact .of_goTo untouched nofun ⟨rpc, stored⟩
      · exact .of_goTo untouched nofun ⟨rpc, copying.received, stored, rfl⟩

theorem respond_sound (untouched : Untouched call before copying)
    (direct : call.directEnabled = true)
    (resumes : Resumes call before (copying.part call) copying.received [])
    {failures statusCode : Nat} {text : Text} :
    Sound call before (copying.respond call failures statusCode text) := by
  unfold respond
  split
  · exact .of_goTo untouched nofun (absurd_rpc direct)
  · exact .of_goTo untouched nofun ⟨direct, resumes⟩

theorem Resumes.opened {received : Bytes} (resumes : Resumes call before part received [])
    (append : Bool) :
    Resumes call before (some (if append then part.getD [] else [])) received [] := by
  cases append with
  | true => exact resumes
  | false => exact ⟨[], [], rfl, List.nil_suffix, .inl rfl⟩

theorem Resumes.of_found {received : Bytes} (found : part = before call.partPath) :
    Resumes call before part received [] := by
  cases part with
  | none => exact ⟨[], [], rfl, List.nil_suffix, .inl rfl⟩
  | some bytes =>
      exact ⟨bytes, [], (List.append_nil bytes).symm, List.nil_suffix, .inr found.symm⟩

theorem Resumes.of_received {received : Bytes} :
    Resumes call before (some received) received [] :=
  ⟨[], received, rfl, by rw [List.append_nil], .inl rfl⟩

theorem Resumes.received {received : Bytes}
    (resumes : Resumes call before part received []) (piece : Bytes) :
    Resumes call before part (received ++ piece) piece := by
  rcases resumes with ⟨found, kept, same, suffix, source⟩
  rw [List.append_nil] at suffix
  rcases suffix with ⟨earlier, split⟩
  refine ⟨found, kept, same, ⟨earlier, ?_⟩, source⟩
  rw [← List.append_assoc, split]

theorem Resumes.stored {received piece : Bytes}
    (resumes : Resumes call before part received piece) :
    Resumes call before (some (part.getD [] ++ piece)) received [] := by
  rcases resumes with ⟨found, kept, same, suffix, source⟩
  refine ⟨found, kept ++ piece, ?_, ?_, source⟩
  · rw [same, Option.getD_some, List.append_assoc]
  · rwa [List.append_nil]

theorem step_sound (sound : Sound call before copying)
    (stepped : step builtins call copying event = some next) : Sound call before next := by
  rcases copying with ⟨phase, files, received⟩
  have knows := sound.knows
  cases phase with
  | stat =>
      have untouched := sound.untouched nofun
      cases event with
      | invoked reply =>
          cases stepped
          exact inform_sound untouched knows
      | _ => cases stepped
  | makeParents =>
      have untouched := sound.untouched nofun
      cases event with
      | done =>
          cases stepped
          cases route : call.directEnabled with
          | true =>
              exact .of_goTo untouched nofun ⟨route, Resumes.of_found knows.1⟩
          | false => exact .of_goTo untouched nofun ⟨route, knows.2⟩
      | failed =>
          cases stepped
          exact .of_goTo untouched nofun knows.1
      | _ => cases stepped
  | openPart =>
      have untouched := sound.untouched nofun
      cases event with
      | done =>
          cases stepped
          refine .of_goTo untouched.setPart nofun ⟨knows.1, ?_⟩
          rw [part_setPart]
          exact congrArg some knows.2.symm
      | failed part =>
          cases stepped
          exact cleanUp_sound untouched.setPart knows.1
      | _ => cases stepped
  | reading offset =>
      have untouched := sound.untouched nofun
      cases event with
      | invoked reply =>
          cases stepped
          exact read_sound untouched knows.1 knows.2
      | _ => cases stepped
  | writing offset chunk eof =>
      have untouched := sound.untouched nofun
      rcases knows with ⟨rpc, stored, present, whole⟩
      cases event with
      | done =>
          cases stepped
          have written : ((⟨.writing offset chunk eof, files, received⟩ :
              Copying).appendPart call chunk).part call = some received := by
            rw [part_appendPart, present]
            exact congrArg some whole.symm
          cases eof with
          | true => exact .of_goTo untouched.setPart nofun ⟨rpc, written⟩
          | false => exact .of_goTo untouched.setPart nofun ⟨rpc, written⟩
      | failed part =>
          cases stepped
          exact .of_goTo untouched.setPart nofun rpc
      | _ => cases stepped
  | closing failed =>
      have untouched := sound.untouched nofun
      cases event with
      | done =>
          cases failed with
          | none =>
              cases stepped
              exact .of_goTo untouched nofun knows
          | some error =>
              cases stepped
              exact cleanUp_sound untouched knows
      | failed part =>
          have rpc : call.directEnabled = false := by
            cases failed with
            | none => exact knows.1
            | some error => exact knows
          cases failed with
          | none =>
              cases stepped
              exact cleanUp_sound untouched.setPart rpc
          | some error =>
              cases stepped
              exact cleanUp_sound untouched.setPart rpc
      | _ => cases failed <;> cases stepped
  | replacing =>
      have untouched := sound.untouched nofun
      cases event with
      | done =>
          refine replace_sound untouched ?_ (fun _ => knows.2) stepped
          rw [knows.2]
          exact .of_received
      | failed =>
          cases stepped
          exact cleanUp_sound untouched knows.1
      | _ => cases stepped
  | unlinking error =>
      have untouched := sound.untouched nofun
      cases event with
      | done =>
          cases stepped
          exact .of_goTo untouched.setPart nofun fun _ => part_setPart
      | failed =>
          cases stepped
          exact .of_goTo untouched nofun trivial
      | _ => cases stepped
  | requesting failures =>
      have untouched := sound.untouched nofun
      cases event with
      | responded statusCode text =>
          cases stepped
          exact respond_sound untouched knows.1 knows.2
      | requestError text =>
          cases stepped
          exact retry_sound untouched knows.1 knows.2
      | otherError text =>
          cases stepped
          exact .of_goTo untouched nofun (absurd_rpc knows.1)
      | _ => cases stepped
  | opening failures append =>
      have untouched := sound.untouched nofun
      cases event with
      | done =>
          cases stepped
          refine .of_goTo untouched.setPart nofun ⟨knows.1, ?_⟩
          rw [part_setPart]
          exact knows.2.opened append
      | failed part =>
          cases stepped
          exact .of_goTo untouched.setPart nofun (absurd_rpc knows.1)
      | _ => cases stepped
  | streaming failures =>
      have untouched := sound.untouched nofun
      cases event with
      | received piece =>
          cases stepped
          split
          · exact sound
          · exact .of_goTo untouched nofun ⟨knows.1, knows.2.received piece⟩
      | exhausted =>
          cases stepped
          exact .of_goTo untouched nofun knows
      | requestError text =>
          cases stepped
          exact .of_goTo untouched nofun knows
      | otherError text =>
          cases stepped
          exact .of_goTo untouched nofun knows.1
      | _ => cases stepped
  | storing failures piece =>
      have untouched := sound.untouched nofun
      cases event with
      | done =>
          cases stepped
          refine .of_goTo untouched.setPart nofun ⟨knows.1, ?_⟩
          rw [part_appendPart]
          exact knows.2.stored
      | failed part =>
          cases stepped
          exact .of_goTo untouched.setPart nofun knows.1
      | _ => cases stepped
  | closingStream failures reason =>
      have untouched := sound.untouched nofun
      have direct : call.directEnabled = true := by
        cases reason with
        | exhausted => exact knows.1
        | requestError text => exact knows.1
        | error error => exact knows
      cases event with
      | done =>
          cases stepped
          cases reason with
          | exhausted => exact .of_goTo untouched nofun knows
          | requestError text => exact retry_sound untouched knows.1 knows.2
          | error error =>
              exact .of_goTo untouched nofun (absurd_rpc direct)
      | failed part =>
          cases stepped
          exact .of_goTo untouched.setPart nofun (absurd_rpc direct)
      | _ => cases stepped
  | moving =>
      have untouched := sound.untouched nofun
      cases event with
      | done =>
          exact replace_sound untouched knows.2
            (absurd_rpc knows.1) stepped
      | failed =>
          cases stepped
          exact .of_goTo untouched nofun (absurd_rpc knows.1)
      | _ => cases stepped
  | directory => cases event <;> cases stepped
  | returned => cases event <;> cases stepped
  | raised cause => cases event <;> cases stepped

/-! ## What a call leaves -/

theorem start_sound (call : CopyCall) (files : Files) :
    Sound call files (start files) where
  untouched _ _ _ := rfl
  knows := ⟨rfl, rfl⟩
  completed returned := nomatch returned

/-- A call that has not returned leaves its destination alone, and one that has
returned replaced it. On the RuntimeRPC route an exception of the `try` block leaves no
`.part` file, and an earlier one leaves that file as it was. -/
structure Atomic (call : CopyCall) (before : Files) (copying : Copying) : Prop where
  unchanged : copying.phase ≠ .returned →
    ∀ path, path ≠ call.partPath → copying.files path = before path
  replaced : copying.phase = .returned → Completed call before copying
  removed : call.directEnabled = false → ∀ error, copying.phase = .raised (.late error) →
    copying.part call = none
  early : ∀ error, copying.phase = .raised (.early error) →
    copying.part call = before call.partPath

theorem run_atomic {events : List CopyEvent}
    (ran : run (step builtins call) (start before) events = some copying) :
    Atomic call before copying := by
  have sound : Sound call before copying :=
    invariant_of_run (Sound call before)
      (fun _ _ _ sound stepped => step_sound sound stepped) (start_sound call before) ran
  have knows := sound.knows
  constructor
  · exact sound.untouched
  · exact sound.completed
  · intro rpc error raised
    rw [raised] at knows
    exact knows rpc
  · intro error raised
    rw [raised] at knows
    exact knows

def plainBuiltins : Builtins := ⟨fun _ => none, fun _ => none, fun _ => ""⟩

/-- The reply for a file to `file.stat`. -/
def fileInfo : Dict :=
  [("name", .str "a"), ("path", .str "/a"), ("type", .str "file"), ("size", .int 2),
    ("permissions", .str "600"), ("modified_time", .int 0)]

/-- The destination is there before, and a file of the name of its `.part` file. -/
def leftBehind : Files
  | ['o'] => some [7]
  | ['o', '.', 'p', 'a', 'r', 't'] => some [9]
  | _ => none

def overRpc : CopyCall := ⟨"box".toList, "/a".toList, ['o'], false, 3⟩
def overDirect : CopyCall := ⟨"box".toList, "/a".toList, ['o'], true, 3⟩

def diskFull : List CopyEvent :=
  [.invoked (.ok fileInfo), .done, .done,
    .invoked (.ok [("data", .str "0102"), ("bytes_read", .int 2), ("eof", .bool true)]),
    .failed (some [1]), .done, .done]

theorem run_atomic_diskFull :
    Atomic overRpc leftBehind
      (after (step plainBuiltins overRpc) (start leftBehind) diskFull) :=
  run_atomic (run_eq_after (by decide +kernel))

def continued : List CopyEvent :=
  [.invoked (.ok fileInfo), .done, .responded 206 [], .done, .received [2], .done,
    .exhausted, .done, .done]

/-- `get_info` fails, and so does the removal of the `.part` file in another call. -/
def unanswered : List CopyEvent := [.invoked (.error (.transport []))]
def notRemoved : List CopyEvent :=
  [.invoked (.ok fileInfo), .done, .done, .invoked (.error (.transport [])), .done,
    .failed none]

theorem part_file_outlives_call :
    (¬∀ (builtins : Builtins) (call : CopyCall) (before : Files) (events : List CopyEvent)
        (final : Copying),
      run (step builtins call) (start before) events = some final →
      final.phase = .returned →
      ∃ kept, final.files call.localPath = some kept ∧ kept <:+ final.received) ∧
    (¬∀ (builtins : Builtins) (call : CopyCall) (before : Files) (events : List CopyEvent)
        (final : Copying) (cause : Cause),
      run (step builtins call) (start before) events = some final →
      call.directEnabled = false → final.phase = .raised cause → cause ≠ .unlink →
      final.part call = none) ∧
    ¬∀ (builtins : Builtins) (call : CopyCall) (before : Files) (events : List CopyEvent)
        (final : Copying),
      run (step builtins call) (start before) events = some final →
      call.directEnabled = false → final.phase = .raised .unlink →
      final.part call = none := by
  refine ⟨fun claim => ?_, fun claim => ?_, fun claim => ?_⟩
  · rcases claim plainBuiltins overDirect leftBehind continued _
      (run_eq_after (by decide +kernel)) (by decide +kernel) with ⟨kept, present, suffix⟩
    have two : (after (step plainBuiltins overDirect) (start leftBehind) continued).files
        overDirect.localPath = some [9, 2] := by decide +kernel
    have received : (after (step plainBuiltins overDirect) (start leftBehind)
        continued).received = [2] := by decide +kernel
    cases two.symm.trans present
    rw [received] at suffix
    exact absurd suffix.length_le (by decide)
  · have left := claim plainBuiltins overRpc leftBehind unanswered _
      (.early (.transport [])) (run_eq_after (by decide +kernel)) rfl (by decide +kernel)
      (by decide)
    revert left
    decide +kernel
  · have left := claim plainBuiltins overRpc leftBehind notRemoved _
      (run_eq_after (by decide +kernel)) rfl (by decide +kernel)
    revert left
    decide +kernel

end Copying

end YrSandbox
