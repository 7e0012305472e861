import YrSandbox.Foundation.Chunk
import YrSandbox.Foundation.Journal
import YrSandbox.Python.Shlex
import YrSandbox.Sandbox.RpcChunks
import YrSandbox.Sandbox.ShellCommands
import YrSandbox.Sandbox.TarPipe

/-! # Copies of directories over RuntimeRPC

`copy_from_local` and `copy_to_local` of a directory where the direct route is disabled: the
directory goes through an archive in the sandbox that a command of its shell unpacks or
packs. -/

namespace YrSandbox.DirectoryCopy

open Python Asking Posix

inductive Action
  -- in the sandbox
  | rpc (request : RpcRequest)
  | exec (command : Text) -- `process.exec`
  | remove (path : Text)
  -- on the local machine
  | makeDirs
  | makeTar -- `mkstemp`, and `close` of what it has opened
  | openTar
  | appendTar (chunk : Bytes)
  | closeTar
  | extractTar
  | unlinkTar
deriving DecidableEq, Repr

/-- Everything but the client itself: the sandbox, the way to it and the local files. -/
abbrev Environment (State : Type) := Action → State → Except FilesystemError Dict × State

abbrev CopyM (State : Type) := Asking Action Dict FilesystemError State

abbrev Exchanged := Exchange Action Dict FilesystemError

/-! ## Commands -/

def tempPath (stem token : Text) : Text :=
  "/tmp/.yr-".toList ++ stem ++ '-' :: token ++ ".tar".toList

def extractCommand (remotePath temp : Text) : Text :=
  ("mkdir -p -- ".toList ++ Shlex.quote remotePath) ++ (" && ".toList ++
    ("tar -xf ".toList ++ (Shlex.quote temp ++ (" -C ".toList ++ Shlex.quote remotePath))))

def archiveCommand (remotePath temp : Text) : Text :=
  "tar -cf ".toList ++ (Shlex.quote temp ++ (" -C ".toList ++
    (Shlex.quote remotePath ++ " .".toList)))

section

variable {State : Type} (builtins : Builtins) (environment : Environment State)

def invoke : Invoke (State × List Exchanged) := fun request => ask environment (.rpc request)

/-- `result.get("stderr") or result.get("error") or "unknown error"` -/
def detail (result : Dict) : Text :=
  let stderr := (result.get? "stderr").getD .null
  let error := (result.get? "error").getD .null
  if stderr.truthy then (stderr.toStr builtins).toList
  else if error.truthy then (error.toStr builtins).toList
  else "unknown error".toList

/-- What `_run_control_command` makes of the reply. -/
def checkControl (operation : Text) (result : Dict) : Except FilesystemError Unit := do
  let exitCode ← countOf builtins result "exit_code"
  if exitCode ≠ 0 then
    .error (.runtimeError (operation ++ ": ".toList ++ detail builtins result))

def runControlCommand (command operation : Text) : CopyM State Unit := do
  let result ← ask environment (.exec command)
  MonadExcept.ofExcept (checkControl builtins operation result)

def removeControlTemp (path : Text) : CopyM State Unit :=
  ignoring (ask environment (.remove path))

/-! ## Into the sandbox -/

structure Source where
  chunks : List Bytes
  failure : Option FilesystemError

/-- The chunks of `_tar_directory_chunks`. -/
def ofArchive (archive : TarPipe.Archive) : Source where
  chunks := cut rpcFileChunkSize archive.content
  failure := archive.failure.map fun _ => .osError

/-- `_write_rpc_chunks` of a generator that may raise. -/
def writeRpcSource (path : Text) (source : Source) : CopyM State EntryInfo := do
  let progress ← source.chunks.foldlM
    (writeSourceChunk builtins (invoke environment) path) ⟨0, false⟩
  if let some error := source.failure then
    throw error
  if !progress.wroteChunk then
    let result ← invoke environment (.writeChunk path 0 [])
    let _ ← MonadExcept.ofExcept
      (check builtins result ("Failed to write ".toList ++ path))
  getInfo builtins (invoke environment) path

def copyFromLocal (localPath remotePath token : Text) (source : Source) :
    CopyM State Unit :=
  let temp := tempPath "upload".toList token
  ensuring (fun _ => true)
    (do
      let _ ← writeRpcSource builtins environment temp source
      runControlCommand builtins environment (extractCommand remotePath temp)
        ("Failed to copy ".toList ++ localPath ++ " to ".toList ++ remotePath))
    (removeControlTemp environment temp)

/-! ## Out of the sandbox -/

/-- The chunks of `_read_rpc_chunks` are written one by one, `none` if the last of the
`rounds` requests does not bring the end. -/
def readInto (path : Text) : (rounds offset : Nat) → CopyM State (Option Unit)
  | 0, _ => return none
  | rounds + 1, offset => do
      let result ← invoke environment (.readChunk path offset rpcFileChunkSize)
      let (chunk, eof) ← MonadExcept.ofExcept (acceptRead builtins path result)
      if chunk ≠ [] then
        let _ ← ask environment (.appendTar chunk)
      if eof then return some ()
      else readInto path rounds (offset + chunk.length)

/-- The archive is fetched, `with open(tar_path, "wb")`. -/
def fetchTar (temp : Text) (rounds : Nat) : CopyM State (Option Unit) := do
  let _ ← ask environment .openTar
  ensuring Option.isSome (readInto builtins environment temp rounds 0)
    (do let _ ← ask environment .closeTar)

def fetchArchive (remotePath temp : Text) (rounds : Nat) : CopyM State (Option Unit) :=
  ensuring Option.isSome
    (do
      runControlCommand builtins environment (archiveCommand remotePath temp)
        ("Failed to archive ".toList ++ remotePath)
      fetchTar builtins environment temp rounds)
    (removeControlTemp environment temp)

/-- `copy_to_local`, behind the `get_info` that has found a directory. -/
def copyToLocal (remotePath token : Text) (rounds : Nat) : CopyM State (Option Unit) := do
  let _ ← ask environment .makeDirs
  let _ ← ask environment .makeTar
  ensuring Option.isSome
    (do
      match ← fetchArchive builtins environment remotePath (tempPath "download".toList token)
          rounds with
      | none => return none
      | some () =>
          let _ ← ask environment .extractTar
          return some ())
    (do let _ ← ask environment .unlinkTar)

end

/-! ## What the shell reads -/

def extractWords (remotePath temp : Text) : List Token :=
  (["mkdir", "-p", "--"].map String.toList ++ [remotePath]).map Token.word ++
    Shell.andIf :: (["tar", "-xf"].map String.toList ++ [temp, "-C".toList, remotePath]).map
      Token.word

def archiveWords (remotePath temp : Text) : List Token :=
  (["tar", "-cf"].map String.toList ++
    [temp, "-C".toList, remotePath, ['.']]).map Token.word

theorem join_directory (temp remotePath : Text) (rest : List Text) :
    Shlex.join (temp :: "-C".toList :: remotePath :: rest) =
      Shlex.quote temp ++ (" -C ".toList ++ Shlex.join (remotePath :: rest)) := by
  have plain : ∀ word ∈ ["-C".toList], word ≠ [] ∧ word.all Shlex.isSafe = true := by
    decide
  rw [Shlex.join_cons_cons]
  exact congrArg (Shlex.quote temp ++ ' ' :: ·)
    (Shlex.join_append_of_isSafe plain (List.cons_ne_nil remotePath rest))

theorem extractCommand_eq (remotePath temp : Text) :
    extractCommand remotePath temp =
      Shlex.join (["mkdir", "-p", "--"].map String.toList ++ [remotePath]) ++
        (Shell.separator ++ Shlex.join
          (["tar", "-xf"].map String.toList ++ [temp, "-C".toList, remotePath])) := by
  have makes : ∀ word ∈ ["mkdir", "-p", "--"].map String.toList,
      word ≠ [] ∧ word.all Shlex.isSafe = true := by decide
  have extracts : ∀ word ∈ ["tar", "-xf"].map String.toList,
      word ≠ [] ∧ word.all Shlex.isSafe = true := by decide
  have front : (["mkdir", "-p", "--"].map String.toList).flatMap (· ++ [' ']) =
      "mkdir -p -- ".toList := rfl
  have back : (["tar", "-xf"].map String.toList).flatMap (· ++ [' ']) =
      "tar -xf ".toList := rfl
  rw [Shlex.join_append_of_isSafe makes (List.cons_ne_nil _ _), front,
    Shlex.join_append_of_isSafe extracts (List.cons_ne_nil _ _), back, join_directory,
    Shlex.join_singleton]
  rfl

theorem archiveCommand_eq (remotePath temp : Text) :
    archiveCommand remotePath temp = Shlex.join
      (["tar", "-cf"].map String.toList ++ [temp, "-C".toList, remotePath, ['.']]) := by
  have packs : ∀ word ∈ ["tar", "-cf"].map String.toList,
      word ≠ [] ∧ word.all Shlex.isSafe = true := by decide
  have front : (["tar", "-cf"].map String.toList).flatMap (· ++ [' ']) =
      "tar -cf ".toList := rfl
  have here : Shlex.quote ['.'] = ['.'] := by decide
  rw [Shlex.join_append_of_isSafe packs (List.cons_ne_nil _ _), front, join_directory,
    Shlex.join_cons_cons, Shlex.join_singleton, here]
  rfl

theorem afterTokens_extractCommand (remotePath temp : Text) :
    afterTokens (extractWords remotePath temp) (extractCommand remotePath temp) =
      some [] := by
  have ends (text : Text) :
      ∀ char ∈ (Shell.separator ++ text).head?, delimits char = true := by
    rintro char ⟨⟩
    rfl
  have second := Shlex.afterTokens_join (["tar", "-xf"].map String.toList ++
    [temp, "-C".toList, remotePath]) [] nofun []
  rw [List.append_nil, List.append_nil] at second
  rw [extractCommand_eq, extractWords, Shlex.afterTokens_join _ _ (ends _),
    Shell.afterTokens_andIf, afterTokens_blank (by simp), second]
  rfl

theorem afterTokens_archiveCommand (remotePath temp : Text) :
    afterTokens (archiveWords remotePath temp) (archiveCommand remotePath temp) =
      some [] := by
  have whole := Shlex.afterTokens_join (["tar", "-cf"].map String.toList ++
    [temp, "-C".toList, remotePath, ['.']]) [] nofun []
  rw [List.append_nil, List.append_nil] at whole
  rw [archiveCommand_eq, archiveWords, whole]
  rfl

/-! ## What is asked on the way in -/

def actions (asked : List Exchanged) : List Action := asked.map Exchange.action

def writes (path : Text) (sent : List (Chunk UInt8)) : List Action :=
  sent.map fun chunk => .rpc (.writeChunk path chunk.offset (hex chunk.payload))

section

variable {State : Type} {builtins : Builtins} {environment : Environment State}

theorem writeChunk_journals (path : Text) (progress : WriteProgress) (chunk : Bytes) :
    Journals (writeChunk builtins (invoke environment) path progress chunk)
      (fun next asked => next = ⟨progress.offset + chunk.length, true⟩ ∧
        actions asked = writes path [⟨progress.offset, chunk⟩])
      fun _ asked => actions asked = writes path [⟨progress.offset, chunk⟩] := by
  apply Journals.ask_bind
  · exact fun error => rfl
  · intro reply
    apply Journals.ofExcept_bind
    · exact fun error _ => rfl
    · exact fun _ _ => Journals.pure ⟨rfl, rfl⟩

theorem foldlM_writeSourceChunk (path : Text) (chunks : List Bytes)
    (progress : WriteProgress) :
    chunks.foldlM (writeSourceChunk builtins (invoke environment) path) progress =
      (chunks.flatMap (cut rpcFileChunkSize)).foldlM
        (writeChunk builtins (invoke environment) path) progress := by
  induction chunks generalizing progress with
  | nil => rw [List.flatMap_nil, List.foldlM_nil, List.foldlM_nil]
  | cons chunk chunks induction =>
      rw [List.foldlM_cons, List.flatMap_cons, List.foldlM_append]
      exact bind_congr fun later => induction later

structure Wrote (path : Text) (gone : List Bytes) (progress : WriteProgress)
    (sent : List (Chunk UInt8)) (asked : List Exchanged) : Prop where
  asked : actions asked = writes path sent
  contiguous : Contiguous 0 sent progress.offset
  pieces : sent.map Chunk.payload = gone
  wroteChunk : progress.wroteChunk = !sent.isEmpty

theorem writes_append (path : Text) (sent further : List (Chunk UInt8)) :
    writes path (sent ++ further) = writes path sent ++ writes path further :=
  List.map_append

theorem actions_append (before behind : List Exchanged) :
    actions (before ++ behind) = actions before ++ actions behind :=
  List.map_append

theorem writeChunks_journals (path : Text) (pieces : List Bytes) :
    Journals (pieces.foldlM (writeChunk builtins (invoke environment) path) ⟨0, false⟩)
      (fun progress asked => ∃ sent, Wrote path pieces progress sent asked)
      fun _ asked => ∃ sent finish, actions asked = writes path sent ∧
        Contiguous 0 sent finish ∧ sent.map Chunk.payload <+: pieces := by
  apply Journals.foldlM fun gone progress asked => ∃ sent, Wrote path gone progress sent asked
  · exact ⟨[], rfl, rfl, rfl, rfl⟩
  · rintro gone piece progress before part ⟨sent, wrote⟩
    have contiguous : Contiguous 0 (sent ++ [(⟨progress.offset, piece⟩ : Chunk UInt8)]) _ :=
      wrote.contiguous.concat rfl
    have payloads : (sent ++ [(⟨progress.offset, piece⟩ : Chunk UInt8)]).map Chunk.payload =
        gone ++ [piece] := by
      rw [List.map_append, wrote.pieces]
      rfl
    apply (writeChunk_journals path progress piece).weaken
    · rintro _ asked ⟨rfl, isAsked⟩
      refine ⟨sent ++ [⟨progress.offset, piece⟩], ?_, contiguous, payloads, by simp⟩
      rw [actions_append, wrote.asked, isAsked, writes_append]
    · intro error asked isAsked
      refine ⟨sent ++ [⟨progress.offset, piece⟩], _, ?_, contiguous, payloads ▸ part⟩
      rw [actions_append, wrote.asked, isAsked, writes_append]

/-- Exactly `content` was sent, piece by piece and each behind the one before. -/
def Sends (path : Text) (content : Bytes) (asked : List Action) : Prop :=
  ∃ sent finish, asked = writes path sent ∧ Contiguous 0 sent finish ∧
    payloads sent = content

theorem payloads_eq_flatten (sent : List (Chunk UInt8)) :
    payloads sent = (sent.map Chunk.payload).flatten :=
  List.flatMap_def

theorem flatten_pieces (chunks : List Bytes) :
    (chunks.flatMap (cut rpcFileChunkSize)).flatten = chunks.flatten := by
  induction chunks with
  | nil => rfl
  | cons chunk chunks induction =>
      rw [List.flatMap_cons, List.flatten_append, induction,
        flatten_cut (by decide : 0 < rpcFileChunkSize), List.flatten_cons]

theorem ofArchive_of_run {archive : TarPipe.Archive} {sizes : TarPipe.Sizes}
    {final : TarPipe.State sizes} {events : List TarPipe.Event} {result : TarPipe.Outcome}
    (chunkSize : sizes.chunkSize = rpcFileChunkSize)
    (ran : Transition.run (TarPipe.step archive) (TarPipe.start archive) events = some final)
    (isDone : final.consumer = .done result) (ended : result ≠ .closed) :
    (ofArchive archive).chunks = final.yielded ∧
      ((ofArchive archive).failure = none ↔ result = .returned) := by
  have invariant : TarPipe.Invariant archive final :=
    Transition.invariant_of_run (TarPipe.Invariant archive)
      (fun _ _ _ holds => holds.step) .start ran
  rcases invariant.finished result isDone with ⟨finished, closed | ⟨complete, rfl⟩⟩
  · exact absurd closed ended
  · have raised := complete.error
    rw [TarPipe.State.error?, finished] at raised
    refine ⟨by rw [complete.yielded, chunkSize, ofArchive], ?_⟩
    rw [ofArchive, Option.map_eq_none_iff]
    cases recorded : final.errors <;> cases failed : archive.failure <;>
      simp_all [TarPipe.outcome]

theorem getInfo_journals (path : Text) :
    Journals (getInfo builtins (invoke environment) path)
      (fun _ asked => actions asked = [.rpc (.stat path)])
      fun _ asked => actions asked = [.rpc (.stat path)] := by
  apply Journals.ask_bind
  · exact fun error => rfl
  · intro reply
    exact Journals.ofExcept (fun _ _ => rfl) fun _ _ => rfl

def Stored (path : Text) (source : Source) (asked : List Exchanged) : Prop :=
  source.failure = none ∧ ∃ front, Sends path source.chunks.flatten front ∧
    actions asked = front ++ [.rpc (.stat path)]

def Stopped (path : Text) (source : Source) (asked : List Exchanged) : Prop :=
  ∃ content front, content <+: source.chunks.flatten ∧ Sends path content front ∧
    (actions asked = front ∨ actions asked = front ++ [.rpc (.stat path)])

theorem getInfo_stored {path : Text} {source : Source} {before : List Exchanged}
    (complete : source.failure = none)
    (sends : Sends path source.chunks.flatten (actions before)) :
    Journals (getInfo builtins (invoke environment) path)
      (fun _ behind => Stored path source (before ++ behind))
      fun _ behind => Stopped path source (before ++ behind) := by
  have stat (behind : List Exchanged) (last : actions behind = [.rpc (.stat path)]) :
      actions (before ++ behind) = actions before ++ [.rpc (.stat path)] := by
    rw [actions_append, last]
  apply (getInfo_journals path).weaken
  · exact fun _ behind last => ⟨complete, _, sends, stat behind last⟩
  · exact fun _ behind last => ⟨_, _, List.prefix_rfl, sends, .inr (stat behind last)⟩

theorem sends_empty {path : Text} {content : Bytes} {before : List Exchanged}
    (nothing : actions before = []) (empty : content = [])
    (reply : Except FilesystemError Dict) :
    Sends path content (actions (before ++ [⟨.rpc (.writeChunk path 0 []), reply⟩])) := by
  refine ⟨[⟨0, []⟩], 0, ?_, ⟨rfl, rfl⟩, empty.symm⟩
  rw [actions_append, nothing]
  rfl

theorem writeRpcSource_journals (path : Text) (source : Source) :
    Journals (writeRpcSource builtins environment path source)
      (fun _ asked => Stored path source asked) fun _ asked => Stopped path source asked := by
  rw [writeRpcSource, foldlM_writeSourceChunk]
  apply Journals.bind
  · apply (writeChunks_journals path (source.chunks.flatMap (cut rpcFileChunkSize))).weaken
    · exact fun _ _ wrote => wrote
    · rintro error asked ⟨sent, finish, isAsked, contiguous, part⟩
      refine ⟨payloads sent, _, ?_, ⟨sent, finish, rfl, contiguous, rfl⟩, .inl isAsked⟩
      have content := part.flatten
      rwa [flatten_pieces, ← payloads_eq_flatten] at content
  · rintro progress before ⟨sent, wrote⟩
    have content : payloads sent = source.chunks.flatten := by
      rw [payloads_eq_flatten, wrote.pieces, flatten_pieces]
    have sends : Sends path source.chunks.flatten (actions before) :=
      ⟨sent, _, wrote.asked, wrote.contiguous, content⟩
    cases failed : source.failure with
    | some error =>
        apply Journals.throw
        rw [List.append_nil]
        exact ⟨_, _, List.prefix_rfl, sends, .inl rfl⟩
    | none =>
        cases written : progress.wroteChunk with
        | true => exact getInfo_stored failed sends
        | false =>
            have nothing : sent = [] := by simpa [written] using wrote.wroteChunk
            subst nothing
            have empty (reply : Except FilesystemError Dict) :
                Sends path source.chunks.flatten
                  (actions (before ++ [⟨.rpc (.writeChunk path 0 []), reply⟩])) :=
              sends_empty wrote.asked content.symm reply
            -- an empty file is made by an empty chunk
            apply Journals.ask_bind
            · exact fun error => ⟨_, _, List.prefix_rfl, empty _, .inl rfl⟩
            · intro reply
              apply Journals.ofExcept_bind
              · exact fun error _ => ⟨_, _, List.prefix_rfl, empty _, .inl rfl⟩
              · intro _ _
                simpa using getInfo_stored failed (empty (.ok reply))

def Succeeds (builtins : Builtins) (reply : Except FilesystemError Dict) : Prop :=
  ∃ result, reply = .ok result ∧ countOf builtins result "exit_code" = .ok 0

theorem succeeds_of_checkControl {operation : Text} {result : Dict}
    (accepted : checkControl builtins operation result = .ok ()) :
    Succeeds builtins (.ok result) := by
  refine ⟨result, rfl, ?_⟩
  rw [checkControl] at accepted
  cases counted : countOf builtins result "exit_code" with
  | error error => simp [counted, bind, Except.bind] at accepted
  | ok exitCode =>
      by_cases zero : exitCode = 0
      · rw [zero]
      · simp [counted, bind, Except.bind, zero] at accepted

theorem not_succeeds_of_checkControl {operation : Text} {result : Dict}
    {error : FilesystemError}
    (refused : checkControl builtins operation result = .error error) :
    ¬Succeeds builtins (.ok result) := by
  rintro ⟨_, ⟨⟩, zero⟩
  rw [checkControl, zero] at refused
  cases refused

theorem runControlCommand_journals (command operation : Text) :
    Journals (runControlCommand builtins environment command operation)
      (fun _ asked => ∃ reply, Succeeds builtins reply ∧ asked = [⟨.exec command, reply⟩])
      fun _ asked => ∃ reply, ¬Succeeds builtins reply ∧
        asked = [⟨.exec command, reply⟩] := by
  apply Journals.ask_bind
  · intro error
    refine ⟨_, ?_, rfl⟩
    rintro ⟨_, ⟨⟩, _⟩
  · intro reply
    apply Journals.ofExcept
    · exact fun _ accepted => ⟨_, succeeds_of_checkControl accepted, rfl⟩
    · exact fun _ refused => ⟨_, not_succeeds_of_checkControl refused, rfl⟩

theorem removeControlTemp_journals (path : Text) :
    Journals (removeControlTemp environment path)
      (fun _ asked => ∃ reply, asked = [⟨.remove path, reply⟩]) fun _ _ => False := by
  apply Journals.ignoring
  apply Journals.ask
  · exact fun reply => ⟨_, rfl⟩
  · exact fun error => ⟨_, rfl⟩

/-! ## Copies into the sandbox -/

def Uploaded (builtins : Builtins) (remotePath temp : Text) (source : Source)
    (asked : List Exchanged) : Prop :=
  ∃ stored command reply, Stored temp source stored ∧
    afterTokens (extractWords remotePath temp) command = some [] ∧
    Succeeds builtins reply ∧ asked = stored ++ [⟨.exec command, reply⟩]

def NotUploaded (builtins : Builtins) (remotePath temp : Text) (source : Source)
    (asked : List Exchanged) : Prop :=
  Stopped temp source asked ∨
    ∃ stored command reply, Stored temp source stored ∧
      afterTokens (extractWords remotePath temp) command = some [] ∧
      ¬Succeeds builtins reply ∧ asked = stored ++ [⟨.exec command, reply⟩]

/-- Whatever the sandbox and the local machine answer, a copy returns exactly if all of the
archive was sent to a file of the sandbox and a command that unpacks this file has then
ended with 0, and the file is removed once, after everything else. -/
theorem copyFromLocal_journals (localPath remotePath token : Text) (source : Source) :
    Journals (copyFromLocal builtins environment localPath remotePath token source)
      (fun _ asked => ∃ before removed,
        asked = before ++ [⟨.remove (tempPath "upload".toList token), removed⟩] ∧
        Uploaded builtins remotePath (tempPath "upload".toList token) source before)
      fun _ asked => ∃ before removed,
        asked = before ++ [⟨.remove (tempPath "upload".toList token), removed⟩] ∧
        NotUploaded builtins remotePath (tempPath "upload".toList token) source before := by
  rw [copyFromLocal]
  generalize tempPath "upload".toList token = temp
  have reads := afterTokens_extractCommand remotePath temp
  have uploads : Journals (writeRpcSource builtins environment temp source >>= fun _ =>
      runControlCommand builtins environment (extractCommand remotePath temp)
        ("Failed to copy ".toList ++ localPath ++ " to ".toList ++ remotePath))
      (fun _ asked => Uploaded builtins remotePath temp source asked)
      fun _ asked => NotUploaded builtins remotePath temp source asked := by
    apply Journals.bind
    · apply (writeRpcSource_journals temp source).weaken
      · exact fun _ _ stored => stored
      · exact fun _ _ stopped => .inl stopped
    · intro _ stored isStored
      apply (runControlCommand_journals _ _).weaken
      · rintro _ _ ⟨reply, succeeds, rfl⟩
        exact ⟨stored, _, reply, isStored, reads, succeeds, rfl⟩
      · rintro _ _ ⟨reply, fails, rfl⟩
        exact .inr ⟨stored, _, reply, isStored, reads, fails, rfl⟩
  apply Journals.ensuring uploads
  · rintro _ _ ⟨⟩
  · intro _ before _ uploaded
    apply (removeControlTemp_journals temp).weaken
    · rintro _ _ ⟨removed, rfl⟩
      exact ⟨before, removed, rfl, uploaded⟩
    · exact fun _ _ never => never.elim
  · intro _ before stopped
    apply (removeControlTemp_journals temp).weaken
    · rintro _ _ ⟨removed, rfl⟩
      exact ⟨before, removed, rfl, stopped⟩
    · exact fun _ _ never => never.elim

/-! ## Copies out of the sandbox -/

/-- What was asked until the file goes on behind `content`. -/
inductive Pulled (builtins : Builtins) (path : Text) : Bytes → List Exchanged → Prop
  | begin : Pulled builtins path [] []
  | more {content chunk : Bytes} {asked : List Exchanged} {reply appended : Dict}
      (pulled : Pulled builtins path content asked)
      (accepted : acceptRead builtins path reply = .ok (chunk, false)) :
      Pulled builtins path (content ++ chunk) (asked ++
        [⟨.rpc (.readChunk path content.length rpcFileChunkSize), .ok reply⟩,
          ⟨.appendTar chunk, .ok appended⟩])

/-- All of the file was read, each chunk from the end of the one before, and appended. -/
def Fetched (builtins : Builtins) (path : Text) (asked : List Exchanged) : Prop :=
  ∃ content chunk before reply appended, Pulled builtins path content before ∧
    acceptRead builtins path reply = .ok (chunk, true) ∧
    asked = before ++
      ⟨.rpc (.readChunk path content.length rpcFileChunkSize), .ok reply⟩ :: appended ∧
    (chunk = [] ∧ appended = [] ∨
      ∃ written, appended = [⟨.appendTar chunk, .ok written⟩])

def Broken (builtins : Builtins) (path : Text) (asked : List Exchanged) : Prop :=
  ∃ content before reply appended, Pulled builtins path content before ∧
    asked = before ++
      ⟨.rpc (.readChunk path content.length rpcFileChunkSize), reply⟩ :: appended ∧
    ((∀ result chunk eof, reply = .ok result →
        acceptRead builtins path result ≠ .ok (chunk, eof)) ∧ appended = [] ∨
      ∃ chunk error, appended = [⟨.appendTar chunk, .error error⟩])

theorem eof_of_acceptRead {path : Text} {reply : Dict} {eof : Bool}
    (accepted : acceptRead builtins path reply = .ok ([], eof)) : eof = true := by
  revert accepted
  rw [acceptRead]
  cases check builtins reply ("Failed to read ".toList ++ path) with
  | error error => rintro ⟨⟩
  | ok result =>
      simp only [bind, Except.bind]
      cases fromHex (((result.get? "data").getD (.str "")).toStr builtins).toList with
      | none => rintro ⟨⟩
      | some chunk =>
          cases countOf builtins result "bytes_read" with
          | error error => rintro ⟨⟩
          | ok count =>
              dsimp only
              split
              · rintro ⟨⟩
              · split
                · rintro ⟨⟩
                · rename_i progress
                  intro accepted
                  injection accepted with pair
                  rw [Prod.mk.injEq] at pair
                  rw [← pair.2]
                  simpa [pair.1] using progress

theorem readInto_journals (path : Text) (rounds : Nat) {content : Bytes}
    {before : List Exchanged} (pulled : Pulled builtins path content before) :
    Journals (readInto builtins environment path rounds content.length)
      (fun value behind => match value with
        | some () => Fetched builtins path (before ++ behind)
        | none => ∃ gone, Pulled builtins path gone (before ++ behind))
      fun _ behind => Broken builtins path (before ++ behind) := by
  induction rounds generalizing content before with
  | zero =>
      apply Journals.pure
      exact ⟨content, (List.append_nil before).symm ▸ pulled⟩
  | succ rounds induction =>
      rw [readInto]
      apply Journals.ask_bind
      · intro error
        exact ⟨content, before, _, [], pulled, rfl, .inl ⟨nofun, rfl⟩⟩
      · intro reply
        apply Journals.ofExcept_bind
        · intro error refused
          refine ⟨content, before, _, [], pulled, rfl, .inl ⟨?_, rfl⟩⟩
          rintro _ chunk eof ⟨⟩ accepted
          rw [refused] at accepted
          cases accepted
        · rintro ⟨chunk, eof⟩ accepted
          dsimp only
          by_cases nothing : chunk = []
          · subst nothing
            obtain rfl := eof_of_acceptRead accepted
            apply Journals.pure
            exact ⟨content, [], before, reply, [], pulled, accepted, rfl, .inl ⟨rfl, rfl⟩⟩
          · rw [if_pos nothing]
            apply Journals.ask_bind
            · intro error
              exact ⟨content, before, _, _, pulled, rfl, .inr ⟨chunk, error, rfl⟩⟩
            · intro written
              cases eof with
              | true =>
                  apply Journals.pure
                  exact ⟨content, chunk, before, reply, _, pulled, accepted, rfl,
                    .inr ⟨written, rfl⟩⟩
              | false =>
                  have more : Pulled builtins path (content ++ chunk) (before ++
                      [⟨.rpc (.readChunk path content.length rpcFileChunkSize), .ok reply⟩,
                        ⟨.appendTar chunk, .ok written⟩]) := pulled.more accepted
                  simpa using induction more

def Written (builtins : Builtins) (temp : Text) (asked : List Exchanged) : Prop :=
  ∃ opened fetched closed, Fetched builtins temp fetched ∧
    asked = ⟨.openTar, .ok opened⟩ :: (fetched ++ [⟨.closeTar, .ok closed⟩])

/-- There is no file for the archive, or it was closed before all of the archive was in it,
or not without an error. -/
def NotWritten (builtins : Builtins) (temp : Text) (asked : List Exchanged) : Prop :=
  (∃ error, asked = [⟨.openTar, .error error⟩]) ∨
    ∃ opened middle closed,
      asked = ⟨.openTar, .ok opened⟩ :: (middle ++ [⟨.closeTar, closed⟩]) ∧
        (Broken builtins temp middle ∨
          Fetched builtins temp middle ∧ ∃ error, closed = .error error)

theorem cleanup_journals (action : Action) :
    Journals (do let _ ← ask environment action)
      (fun _ asked => ∃ reply, asked = [⟨action, .ok reply⟩])
      fun _ asked => ∃ error, asked = [⟨action, .error error⟩] := by
  apply Journals.ask_bind
  · exact fun error => ⟨error, rfl⟩
  · exact fun reply => Journals.pure ⟨reply, rfl⟩

theorem fetchTar_journals (temp : Text) (rounds : Nat) :
    Journals (fetchTar builtins environment temp rounds)
      (fun value asked => match value with
        | some () => Written builtins temp asked
        | none => ∃ opened content pulled, Pulled builtins temp content pulled ∧
            asked = ⟨.openTar, .ok opened⟩ :: pulled)
      fun _ asked => NotWritten builtins temp asked := by
  apply Journals.ask_bind
  · exact fun error => .inl ⟨error, rfl⟩
  · intro opened
    apply Journals.ensuring (readInto_journals temp rounds .begin)
    · rintro (_ | _) asked unended holds
      · rcases holds with ⟨content, pulled⟩
        exact ⟨opened, content, asked, pulled, rfl⟩
      · cases unended
    · rintro (_ | _) fetched ended holds
      · cases ended
      · apply (cleanup_journals .closeTar).weaken
        · rintro _ _ ⟨closed, rfl⟩
          exact ⟨opened, fetched, closed, holds, rfl⟩
        · rintro _ _ ⟨error, rfl⟩
          exact .inr ⟨opened, fetched, _, rfl, .inr ⟨holds, error, rfl⟩⟩
    · intro _ broken breaks
      apply (cleanup_journals .closeTar).weaken
      · rintro _ _ ⟨closed, rfl⟩
        exact .inr ⟨opened, broken, _, rfl, .inl breaks⟩
      · rintro _ _ ⟨error, rfl⟩
        exact .inr ⟨opened, broken, _, rfl, .inl breaks⟩

def Packed (builtins : Builtins) (remotePath temp : Text) (exchange : Exchanged) : Prop :=
  ∃ command, afterTokens (archiveWords remotePath temp) command = some [] ∧
    exchange.action = .exec command ∧ Succeeds builtins exchange.reply

def Arrived (builtins : Builtins) (remotePath temp : Text) (asked : List Exchanged) : Prop :=
  ∃ packed written, Packed builtins remotePath temp packed ∧
    Written builtins temp written ∧ asked = packed :: written

def Arriving (builtins : Builtins) (remotePath temp : Text) (asked : List Exchanged) : Prop :=
  ∃ packed opened content pulled, Packed builtins remotePath temp packed ∧
    Pulled builtins temp content pulled ∧ asked = packed :: ⟨.openTar, .ok opened⟩ :: pulled

def Lost (builtins : Builtins) (remotePath temp : Text) (asked : List Exchanged) : Prop :=
  (∃ command reply, ¬Succeeds builtins reply ∧ asked = [⟨.exec command, reply⟩]) ∨
    ∃ packed unwritten, Packed builtins remotePath temp packed ∧
      NotWritten builtins temp unwritten ∧ asked = packed :: unwritten

def Discards (builtins : Builtins) (remotePath temp : Text) (asked : List Exchanged) : Prop :=
  ∃ before removed, Lost builtins remotePath temp before ∧
    asked = before ++ [⟨.remove temp, removed⟩]

theorem fetchArchive_journals (remotePath temp : Text) (rounds : Nat) :
    Journals (fetchArchive builtins environment remotePath temp rounds)
      (fun value asked => match value with
        | some () => ∃ before removed, Arrived builtins remotePath temp before ∧
            asked = before ++ [⟨.remove temp, removed⟩]
        | none => Arriving builtins remotePath temp asked)
      fun _ asked => Discards builtins remotePath temp asked := by
  have reads := afterTokens_archiveCommand remotePath temp
  have fetches : Journals (runControlCommand builtins environment
      (archiveCommand remotePath temp) ("Failed to archive ".toList ++ remotePath) >>=
        fun _ => fetchTar builtins environment temp rounds)
      (fun value asked => match value with
        | some () => Arrived builtins remotePath temp asked
        | none => Arriving builtins remotePath temp asked)
      fun _ asked => Lost builtins remotePath temp asked := by
    apply Journals.bind
    · apply (runControlCommand_journals (archiveCommand remotePath temp) _).weaken
      · exact fun _ _ packs => packs
      · rintro _ _ ⟨reply, fails, rfl⟩
        exact .inl ⟨_, reply, fails, rfl⟩
    · rintro _ _ ⟨reply, succeeds, rfl⟩
      have packed : Packed builtins remotePath temp
          ⟨.exec (archiveCommand remotePath temp), reply⟩ := ⟨_, reads, rfl, succeeds⟩
      apply (fetchTar_journals temp rounds).weaken
      · rintro (_ | _) asked holds
        · rcases holds with ⟨opened, content, pulled, pulls, rfl⟩
          exact ⟨_, opened, content, pulled, packed, pulls, rfl⟩
        · exact ⟨_, asked, packed, holds, rfl⟩
      · exact fun _ unwritten fails => .inr ⟨_, unwritten, packed, fails, rfl⟩
  apply Journals.ensuring fetches
  · rintro (_ | _) asked unended holds
    · exact holds
    · cases unended
  · rintro (_ | _) before ended holds
    · cases ended
    · apply (removeControlTemp_journals temp).weaken
      · rintro _ _ ⟨removed, rfl⟩
        exact ⟨before, removed, holds, rfl⟩
      · exact fun _ _ never => never.elim
  · intro _ before lost
    apply (removeControlTemp_journals temp).weaken
    · rintro _ _ ⟨removed, rfl⟩
      exact ⟨before, removed, lost, rfl⟩
    · exact fun _ _ never => never.elim

def Extracts (builtins : Builtins) (remotePath temp : Text)
    (extracted : Except FilesystemError Dict) (asked : List Exchanged) : Prop :=
  ∃ before removed, Arrived builtins remotePath temp before ∧
    asked = before ++ [⟨.remove temp, removed⟩, ⟨.extractTar, extracted⟩]

/-- The directory was made and a file for the archive, which was unlinked after everything
else. -/
def Surrounds (middle : List Exchanged) (unlinked : Except FilesystemError Dict)
    (asked : List Exchanged) : Prop :=
  ∃ made tar, asked = ⟨.makeDirs, .ok made⟩ :: ⟨.makeTar, .ok tar⟩ ::
    (middle ++ [⟨.unlinkTar, unlinked⟩])

def Downloaded (builtins : Builtins) (remotePath temp : Text) (asked : List Exchanged) :
    Prop :=
  ∃ middle extracted unlinked, Extracts builtins remotePath temp (.ok extracted) middle ∧
    Surrounds middle (.ok unlinked) asked

def Downloading (builtins : Builtins) (remotePath temp : Text) (asked : List Exchanged) :
    Prop :=
  ∃ made tar front, Arriving builtins remotePath temp front ∧
    asked = ⟨.makeDirs, .ok made⟩ :: ⟨.makeTar, .ok tar⟩ :: front

/-- What a copy has asked that raises: nothing could be made here, or the archive did not
come, or it could not be extracted, or not unlinked. -/
def NotDownloaded (builtins : Builtins) (remotePath temp : Text) (asked : List Exchanged) :
    Prop :=
  (∃ error, asked = [⟨.makeDirs, .error error⟩]) ∨
  (∃ made error, asked = [⟨.makeDirs, .ok made⟩, ⟨.makeTar, .error error⟩]) ∨
  ∃ middle unlinked, Surrounds middle unlinked asked ∧
    (Discards builtins remotePath temp middle ∨
      ∃ extracted, Extracts builtins remotePath temp extracted middle ∧
        ∃ error, extracted = .error error ∨ unlinked = .error error)

/-- Whatever the sandbox and the local machine answer, a copy extracts its archive only
after a command that packs the directory has ended with 0, all of the archive was read and
written and its file was closed. Its last requests remove what it made for the archive, in
the sandbox and here. -/
theorem copyToLocal_journals (remotePath token : Text) (rounds : Nat) :
    Journals (copyToLocal builtins environment remotePath token rounds)
      (fun value asked => match value with
        | some () => Downloaded builtins remotePath (tempPath "download".toList token) asked
        | none => Downloading builtins remotePath (tempPath "download".toList token) asked)
      fun _ asked =>
        NotDownloaded builtins remotePath (tempPath "download".toList token) asked := by
  rw [copyToLocal]
  generalize tempPath "download".toList token = temp
  apply Journals.ask_bind
  · exact fun error => .inl ⟨error, rfl⟩
  · intro made
    apply Journals.ask_bind
    · exact fun error => .inr (.inl ⟨made, error, rfl⟩)
    · intro tar
      have middle : Journals (fetchArchive builtins environment remotePath temp rounds >>=
          fun fetched => match fetched with
            | none => pure none
            | some () => ask environment .extractTar >>= fun _ => pure (some ()))
          (fun value asked => match value with
            | some () => ∃ extracted, Extracts builtins remotePath temp (.ok extracted) asked
            | none => Arriving builtins remotePath temp asked)
          fun _ asked => Discards builtins remotePath temp asked ∨
            ∃ error, Extracts builtins remotePath temp (.error error) asked := by
        apply Journals.bind
        · apply (fetchArchive_journals remotePath temp rounds).weaken
          · exact fun _ _ fetched => fetched
          · exact fun _ _ discards => .inl discards
        · rintro (_ | _) asked holds
          · apply Journals.pure
            exact (List.append_nil asked).symm ▸ holds
          · rcases holds with ⟨before, removed, arrived, rfl⟩
            apply Journals.ask_bind
            · intro error
              exact .inr ⟨error, before, removed, arrived, List.append_assoc _ _ _⟩
            · intro extracted
              apply Journals.pure
              exact ⟨extracted, before, removed, arrived, List.append_assoc _ _ _⟩
      apply Journals.ensuring middle
      · rintro (_ | _) asked unended holds
        · exact ⟨made, tar, asked, holds, rfl⟩
        · cases unended
      · rintro (_ | _) before ended holds
        · cases ended
        · rcases holds with ⟨extracted, extracts⟩
          apply (cleanup_journals .unlinkTar).weaken
          · rintro _ _ ⟨unlinked, rfl⟩
            exact ⟨before, extracted, unlinked, extracts, made, tar, rfl⟩
          · rintro _ _ ⟨error, rfl⟩
            exact .inr (.inr ⟨before, _, ⟨made, tar, rfl⟩,
              .inr ⟨_, extracts, error, .inr rfl⟩⟩)
      · intro _ before failed
        have raises (unlinked : Except FilesystemError Dict) :
            NotDownloaded builtins remotePath temp (⟨.makeDirs, .ok made⟩ ::
              ⟨.makeTar, .ok tar⟩ :: (before ++ [⟨.unlinkTar, unlinked⟩])) := by
          refine .inr (.inr ⟨before, unlinked, ⟨made, tar, rfl⟩, ?_⟩)
          cases failed with
          | inl discards => exact .inl discards
          | inr extracts =>
              rcases extracts with ⟨error, extracts⟩
              exact .inr ⟨_, extracts, error, .inl rfl⟩
        apply (cleanup_journals .unlinkTar).weaken
        · rintro _ _ ⟨unlinked, rfl⟩
          exact raises _
        · rintro _ _ ⟨error, rfl⟩
          exact raises _

end

end YrSandbox.DirectoryCopy
