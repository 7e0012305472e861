import YrSandbox.Sandbox.CopyToLocal

/-! # The round trip of RuntimeRPC chunks

A server that keeps files as the client assumes it: what is written in chunks is
what is read in chunks, and each request begins where the one before ended. -/

namespace YrSandbox

open Python Transport

/-! ## The server -/

/-- A chunk that was moved by a request, and the number of bytes that the request
carried or asked for. -/
structure Transfer where
  chunk : Chunk UInt8
  size : Nat
deriving DecidableEq, Repr

structure RpcServer where
  files : Text → Option Bytes
  transfers : List Transfer

namespace RpcServer

def failure (message : String) : Dict := [("error", .str message)]

/-- The content of `path` becomes `content`, because of one transfer. -/
def store (server : RpcServer) (path : Text) (content : Bytes) (transfer : Transfer) :
    RpcServer where
  files other := if other = path then some content else server.files other
  transfers := server.transfers ++ [transfer]

def answerWrite (server : RpcServer) (path : Text) (offset : Nat) (chunk : Bytes) :
    Dict × RpcServer :=
  let content := (server.files path).getD []
  let transfer : Transfer := ⟨⟨offset, chunk⟩, chunk.length⟩
  let written : Dict := [("bytes_written", .int chunk.length), ("error", .null)]
  if offset = 0 then (written, server.store path chunk transfer)
  else if offset = content.length then
    (written, server.store path (content ++ chunk) transfer)
  else (failure "the offset is not the end of the file", server)

def answerRead (server : RpcServer) (content : Bytes) (offset limit : Nat) :
    Dict × RpcServer :=
  let chunk := slice content offset limit
  ([("data", .str (String.ofList (hex chunk))), ("bytes_read", .int chunk.length),
      ("eof", .bool (decide (content.length ≤ offset + chunk.length))), ("error", .null)],
    { server with transfers := server.transfers ++ [⟨⟨offset, chunk⟩, limit⟩] })

def answer (server : RpcServer) : RpcRequest → Dict × RpcServer
  | .writeChunk path offset data =>
      match fromHex data with
      | some chunk => server.answerWrite path offset chunk
      | none => (failure "the data is not hexadecimal", server)
  | .readChunk path offset limit =>
      match server.files path with
      | some content => server.answerRead content offset limit
      | none => (failure "no such file", server)
  | .stat path =>
      match server.files path with
      | some content =>
          ([("name", .str (String.ofList path)), ("path", .str (String.ofList path)),
              ("type", .str "file"), ("size", .int content.length),
              ("permissions", .str "600"), ("modified_time", .int 0), ("error", .null)],
            server)
      | none => (failure "no such file", server)

def invoke : Invoke RpcServer :=
  fun request server => ((Except.ok (server.answer request).1), (server.answer request).2)

end RpcServer

/-- Between two states of the server, requests move the bytes of one file from
`start` to `finish` without gap or overlap, each at most one chunk. -/
structure Moves (path : Text) (before : RpcServer) (start : Nat) (after : RpcServer)
    (finish : Nat) : Prop where
  others : ∀ other, other ≠ path → after.files other = before.files other
  inTurn : ∃ sent, after.transfers = before.transfers ++ sent ∧
    Contiguous start (sent.map Transfer.chunk) finish ∧
    ∀ transfer ∈ sent, transfer.chunk.payload.length ≤ transfer.size ∧
      transfer.size ≤ rpcFileChunkSize

namespace Moves

variable {path : Text} {before middle after : RpcServer} {start halfway finish : Nat}

theorem refl (path : Text) (server : RpcServer) (start : Nat) :
    Moves path server start server start where
  others _ _ := rfl
  inTurn := ⟨[], (List.append_nil _).symm, rfl, fun _ member => nomatch member⟩

theorem trans (first : Moves path before start middle halfway)
    (second : Moves path middle halfway after finish) :
    Moves path before start after finish where
  others other different :=
    (second.others other different).trans (first.others other different)
  inTurn := by
    rcases first.inTurn with ⟨sent, logged, contiguous, bounded⟩
    rcases second.inTurn with ⟨further, loggedFurther, contiguousFurther, boundedFurther⟩
    refine ⟨sent ++ further, ?_, ?_, ?_⟩
    · rw [loggedFurther, logged, List.append_assoc]
    · rw [List.map_append]
      exact Contiguous.append_iff.mpr ⟨halfway, contiguous, contiguousFurther⟩
    · intro transfer member
      rcases List.mem_append.mp member with member | member
      · exact bounded transfer member
      · exact boundedFurther transfer member

end Moves

/-! ## Actions that do not raise -/

section

variable {Peer : Type} {α β : Type} {peer later : Peer}

theorem RpcM.bind_ok {action : RpcM Peer α} {next : α → RpcM Peer β} {value : α}
    (returned : action peer = (.ok value, later)) :
    (action >>= next) peer = next value later := by
  simp only [bind, ExceptT.bind, ExceptT.mk, StateT.bind, returned]
  rfl

theorem RpcM.ofExcept_ok {checked : Except FilesystemError α} {value : α}
    (accepted : checked = .ok value) :
    (MonadExcept.ofExcept checked : RpcM Peer α) peer = (.ok value, peer) := by
  rw [accepted]
  rfl

theorem RpcServer.invoke_ok {server next : RpcServer} {request : RpcRequest}
    {result : Dict} (answered : server.answer request = (result, next)) :
    RpcServer.invoke request server = (.ok result, next) := by
  rw [RpcServer.invoke, answered]

end

/-! ## Writing -/

section

variable {builtins : Builtins} {path : Text}

/-- So far `written` was stored; nothing was sent as long as no chunk was written. -/
structure Progressed (server : RpcServer) (path : Text) (progress : WriteProgress)
    (written : Bytes) : Prop where
  offset : progress.offset = written.length
  stored : progress.wroteChunk = true → server.files path = some written
  fresh : progress.wroteChunk = false → written = []

/-- A step of the writing client stores `content` after what was written. -/
def Appends (path : Text) (step : WriteProgress → RpcM RpcServer WriteProgress)
    (content : Bytes) : Prop :=
  ∀ (server : RpcServer) (progress : WriteProgress) (written : Bytes),
    Progressed server path progress written →
    ∃ next later, step progress server = (.ok next, later) ∧
      Progressed later path next (written ++ content) ∧
      Moves path server written.length later (written ++ content).length

theorem Appends.foldlM {step : WriteProgress → Bytes → RpcM RpcServer WriteProgress}
    {chunks : List Bytes}
    (each : ∀ chunk ∈ chunks, Appends path (fun progress => step progress chunk) chunk) :
    Appends path (fun progress => chunks.foldlM step progress) chunks.flatten := by
  induction chunks with
  | nil =>
      intro server progress written progressed
      refine ⟨progress, server, rfl, ?_, ?_⟩
      · simpa using progressed
      · simpa using Moves.refl path server written.length
  | cons chunk chunks induction =>
      intro server progress written progressed
      rcases each chunk List.mem_cons_self server progress written progressed with
        ⟨next, later, stepped, further, moved⟩
      rcases induction (fun chunk member => each chunk (List.mem_cons_of_mem _ member))
        later next (written ++ chunk) further with ⟨last, final, ran, done, movedOn⟩
      rw [List.append_assoc, ← List.flatten_cons] at done movedOn
      refine ⟨last, final, ?_, done, moved.trans movedOn⟩
      simp only [List.foldlM_cons]
      rw [RpcM.bind_ok stepped]
      exact ran

theorem store_moves (server : RpcServer) (path : Text) (written chunk : Bytes)
    (small : chunk.length ≤ rpcFileChunkSize) :
    Moves path server written.length
      (server.store path (written ++ chunk) ⟨⟨written.length, chunk⟩, chunk.length⟩)
      (written ++ chunk).length where
  others other different := if_neg different
  inTurn := by
    refine ⟨[_], rfl, ?_, ?_⟩
    · simp [Chunk.finish]
    · intro transfer member
      cases List.mem_singleton.mp member
      exact ⟨le_refl _, small⟩

theorem writeChunk_appends {chunk : Bytes} (small : chunk.length ≤ rpcFileChunkSize) :
    Appends path (fun progress => writeChunk builtins RpcServer.invoke path progress chunk)
      chunk := by
  intro server progress written progressed
  have answered : server.answer (.writeChunk path progress.offset (hex chunk)) =
      ([("bytes_written", .int chunk.length), ("error", .null)],
        server.store path (written ++ chunk)
          ⟨⟨written.length, chunk⟩, chunk.length⟩) := by
    simp only [RpcServer.answer, fromHex_hex, RpcServer.answerWrite, progressed.offset]
    by_cases empty : written = []
    · subst empty
      rfl
    · have present : server.files path = some written := by
        cases wrote : progress.wroteChunk with
        | true => exact progressed.stored wrote
        | false => exact absurd (progressed.fresh wrote) empty
      have positive : written.length ≠ 0 :=
        fun zero => empty (List.length_eq_zero_iff.mp zero)
      simp only [present, Option.getD_some, positive, if_false, if_true]
  have accepted : acceptWritten builtins path chunk
      [("bytes_written", .int chunk.length), ("error", .null)] = .ok () := by
    simp [acceptWritten, check, countOf, Dict.get?, List.lookup_cons, Json.truthy, Json.toInt,
      bind, Except.bind, pure, Except.pure]
  refine ⟨⟨(written ++ chunk).length, true⟩, _, ?_, ?_,
    store_moves server path written chunk small⟩
  · show writeChunk builtins RpcServer.invoke path progress chunk server = _
    unfold writeChunk
    rw [RpcM.bind_ok (RpcServer.invoke_ok answered),
      RpcM.bind_ok (RpcM.ofExcept_ok accepted), progressed.offset, List.length_append]
    rfl
  · exact ⟨rfl, fun _ => if_pos rfl, fun wrote => by cases wrote⟩

theorem writeSourceChunk_appends (sourceChunk : Bytes) :
    Appends path
      (fun progress =>
        writeSourceChunk builtins RpcServer.invoke path progress sourceChunk)
      sourceChunk := by
  have pieces : Appends path
      (fun progress =>
        writeSourceChunk builtins RpcServer.invoke path progress sourceChunk)
      (cut rpcFileChunkSize sourceChunk).flatten :=
    Appends.foldlM fun piece member =>
      writeChunk_appends ((length_le_of_mem_cut member).trans (min_le_left _ _))
  rwa [flatten_cut (by decide : 0 < rpcFileChunkSize)] at pieces

def RpcServer.info (path : Text) (content : Bytes) : EntryInfo where
  name := .str (String.ofList path)
  path := .str (String.ofList path)
  type := .str "file"
  size := .int content.length
  permissions := .str "600"
  modifiedTime := .int 0

theorem getInfo_invoke {server : RpcServer} {content : Bytes}
    (present : server.files path = some content) :
    getInfo builtins RpcServer.invoke path server =
      (.ok (RpcServer.info path content), server) := by
  have answered : server.answer (.stat path) =
      ([("name", .str (String.ofList path)), ("path", .str (String.ofList path)),
          ("type", .str "file"), ("size", .int content.length),
          ("permissions", .str "600"), ("modified_time", .int 0), ("error", .null)],
        server) := by
    simp only [RpcServer.answer, present]
  unfold getInfo
  rw [RpcM.bind_ok (RpcServer.invoke_ok answered)]
  rfl

variable (builtins) (path) in
theorem writeRpcChunks_invoke (server : RpcServer) (chunks : List Bytes) :
    ∃ stored, writeRpcChunks builtins RpcServer.invoke path chunks server =
        (.ok (RpcServer.info path chunks.flatten), stored) ∧
      stored.files path = some chunks.flatten ∧
      Moves path server 0 stored chunks.flatten.length := by
  have start : Progressed server path ⟨0, false⟩ [] :=
    ⟨rfl, nofun, fun _ => rfl⟩
  have loop : Appends path (fun progress =>
      chunks.foldlM (writeSourceChunk builtins RpcServer.invoke path) progress)
      chunks.flatten :=
    Appends.foldlM fun chunk _ => writeSourceChunk_appends chunk
  rcases loop server ⟨0, false⟩ [] start with ⟨progress, later, ran, progressed, moved⟩
  rw [List.nil_append] at progressed moved
  unfold writeRpcChunks
  cases wrote : progress.wroteChunk with
  | true =>
      have present := progressed.stored wrote
      refine ⟨later, ?_, present, moved⟩
      rw [RpcM.bind_ok ran]
      simp only [wrote, Bool.not_true, Bool.false_eq_true, if_false]
      exact getInfo_invoke present
  | false =>
      have empty := progressed.fresh wrote
      rw [empty] at moved ⊢
      have answered : later.answer (.writeChunk path 0 []) =
          ([("bytes_written", .int 0), ("error", .null)],
            later.store path [] ⟨⟨0, []⟩, 0⟩) := rfl
      have present : (later.store path [] ⟨⟨0, []⟩, 0⟩).files path = some [] := if_pos rfl
      have truncated := store_moves later path [] [] (Nat.zero_le _)
      refine ⟨_, ?_, present, moved.trans truncated⟩
      rw [RpcM.bind_ok ran]
      simp only [wrote, Bool.not_false, if_true]
      rw [RpcM.bind_ok (RpcServer.invoke_ok answered)]
      exact getInfo_invoke present

/-! ## Reading -/

/-- The reply that carries `chunk`, which goes up to the end of the file if `eof`. -/
def readReply (chunk : Bytes) (eof : Bool) : Dict :=
  [("data", .str (String.ofList (hex chunk))), ("bytes_read", .int chunk.length),
    ("eof", .bool eof), ("error", .null)]

theorem acceptRead_readReply {chunk : Bytes} {eof : Bool}
    (progress : ¬(chunk = [] ∧ eof = false)) :
    acceptRead builtins path (readReply chunk eof) = .ok (chunk, eof) := by
  have accepted : check builtins (readReply chunk eof) ("Failed to read ".toList ++ path) =
      .ok (readReply chunk eof) := rfl
  have data : (((readReply chunk eof).get? "data").getD (.str "")).toStr builtins =
      String.ofList (hex chunk) := rfl
  have count : countOf builtins (readReply chunk eof) "bytes_read" =
      .ok chunk.length := rfl
  have last : (((readReply chunk eof).get? "eof").getD .null).truthy = eof := rfl
  unfold acceptRead
  rw [accepted]
  simp only [bind, Except.bind, data, String.toList_ofList, fromHex_hex, count, last,
    ne_eq, not_true_eq_false, if_false, if_neg progress]

theorem answer_readChunk {server : RpcServer} {content : Bytes}
    (present : server.files path = some content) {offset : Nat}
    (inside : offset ≤ content.length) :
    ∃ chunk later, server.answer (.readChunk path offset rpcFileChunkSize) =
        (readReply chunk (decide (content.length ≤ offset + chunk.length)), later) ∧
      later.files = server.files ∧
      content.take offset ++ chunk = content.take (offset + chunk.length) ∧
      chunk ++ content.drop (offset + chunk.length) = content.drop offset ∧
      (offset + chunk.length < content.length → chunk ≠ []) ∧
      offset + chunk.length ≤ content.length ∧
      Moves path server offset later (offset + chunk.length) := by
  have length := length_slice content offset rpcFileChunkSize
  have size : 0 < rpcFileChunkSize := by decide
  refine ⟨slice content offset rpcFileChunkSize,
    (server.answerRead content offset rpcFileChunkSize).2, ?_, rfl, ?_, ?_, ?_, ?_, ?_⟩
  · simp only [RpcServer.answer, present]
    rfl
  · rw [length, List.take_add]
    apply congrArg
    exact List.take_eq_take_min.trans (by rw [List.length_drop])
  · rcases List.take_prefix rpcFileChunkSize (content.drop offset) with ⟨rest, split⟩
    have sameSplit : slice content offset rpcFileChunkSize ++ rest = content.drop offset :=
      split
    rw [← List.drop_drop, ← sameSplit, List.drop_left]
  · intro unfinished
    exact slice_ne_nil size (by omega)
  · omega
  · constructor
    · exact fun other _ => rfl
    · refine ⟨[_], rfl, ⟨rfl, rfl⟩, ?_⟩
      intro transfer member
      cases List.mem_singleton.mp member
      exact ⟨by rw [length]; exact min_le_left _ _, le_refl _⟩

variable (builtins) in
theorem readRpcChunks_invoke {server : RpcServer} {content : Bytes} {rounds offset : Nat}
    (present : server.files path = some content) (inside : offset ≤ content.length)
    (enough : content.length < offset + rounds) :
    ∃ chunks later, readRpcChunks builtins RpcServer.invoke path rounds offset server =
        (.ok (some chunks), later) ∧
      chunks.flatten = content.drop offset ∧ later.files = server.files ∧
      Moves path server offset later content.length := by
  induction rounds generalizing server offset with
  | zero => omega
  | succ rounds induction =>
      rcases answer_readChunk present inside with
        ⟨chunk, later, answered, files, _, split, progress, within, moved⟩
      have yields : (if chunk = [] then [] else [chunk]).flatten = chunk := by
        split
        · next empty => exact empty.symm
        · exact List.append_nil chunk
      by_cases last : content.length ≤ offset + chunk.length
      · have whole : offset + chunk.length = content.length := Nat.le_antisymm within last
        have accepted : acceptRead builtins path (readReply chunk true) =
            .ok (chunk, true) := acceptRead_readReply fun both => nomatch both.2
        rw [decide_eq_true last] at answered
        rw [whole, List.drop_length, List.append_nil] at split
        refine ⟨_, later, ?_, yields.trans split, files, whole ▸ moved⟩
        unfold readRpcChunks
        rw [RpcM.bind_ok (RpcServer.invoke_ok answered),
          RpcM.bind_ok (RpcM.ofExcept_ok accepted)]
        rfl
      · have nonempty := progress (not_le.mp last)
        have accepted : acceptRead builtins path (readReply chunk false) =
            .ok (chunk, false) := acceptRead_readReply fun both => nonempty both.1
        have positive : 0 < chunk.length := List.length_pos_iff.mpr nonempty
        rw [decide_eq_false last] at answered
        rcases induction (files ▸ present) within (by omega) with
          ⟨chunks, final, ran, rest, filesFinal, movedOn⟩
        refine ⟨(if chunk = [] then [] else [chunk]) ++ chunks, final, ?_, ?_,
          filesFinal.trans files, moved.trans movedOn⟩
        · unfold readRpcChunks
          rw [RpcM.bind_ok (RpcServer.invoke_ok answered),
            RpcM.bind_ok (RpcM.ofExcept_ok accepted)]
          simp only [Bool.false_eq_true, if_false]
          rw [RpcM.bind_ok ran]
          rfl
        · rw [List.flatten_append, yields, rest, split]

/-! ## Copying out -/

/-- What this server and a healthy disk let a call of `copy_to_local` go on with. -/
def RpcServer.serve (server : RpcServer) (call : CopyCall) :
    CopyPhase → Option (CopyEvent × RpcServer)
  | .stat =>
      let (result, later) := server.answer (.stat call.remotePath)
      some (.invoked (.ok result), later)
  | .reading offset =>
      let (result, later) :=
        server.answer (.readChunk call.remotePath offset rpcFileChunkSize)
      some (.invoked (.ok result), later)
  | .returned | .raised _ | .directory => none
  | _ => some (.done, server)

/-- A call of `copy_to_local` and this server, for at most `rounds` steps. -/
def copyWith (builtins : Builtins) (call : CopyCall) :
    (rounds : Nat) → RpcServer → Copying → RpcServer × Copying
  | 0, server, copying => (server, copying)
  | rounds + 1, server, copying =>
      match server.serve call copying.phase with
      | none => (server, copying)
      | some (event, later) =>
          match copying.step builtins call event with
          | none => (server, copying)
          | some next => copyWith builtins call rounds later next

variable {call : CopyCall} {rounds : Nat} {server later : RpcServer}
  {copying next : Copying} {event : CopyEvent}

theorem copyWith_succ (served : server.serve call copying.phase = some (event, later))
    (stepped : copying.step builtins call event = some next) :
    copyWith builtins call (rounds + 1) server copying =
      copyWith builtins call rounds later next := by
  rw [copyWith, served]
  simp only [stepped]

theorem copyWith_returned (returned : copying.phase = .returned) :
    copyWith builtins call rounds server copying = (server, copying) := by
  cases rounds with
  | zero => rfl
  | succ rounds =>
      rw [copyWith, returned]
      rfl

variable (builtins) (rounds) (server) in
theorem copyWith_closing {before files : Files} {received : Bytes}
    (sound : Copying.Sound call before ⟨.closing none, files, received⟩) :
    ∃ final, copyWith builtins call (rounds + 2) server ⟨.closing none, files, received⟩ =
        (server, final) ∧
      final.phase = .returned ∧ Copying.Sound call before final ∧
      final.received = received := by
  have moves : Copying.step builtins call ⟨.closing none, files, received⟩ .done =
      some ⟨.replacing, files, received⟩ := rfl
  have sameSound := Copying.step_sound sound moves
  have stored : Copying.part call ⟨.replacing, files, received⟩ = some received :=
    sound.knows.2
  have replaces : Copying.step builtins call ⟨.replacing, files, received⟩ .done =
      some ⟨.returned, (files.set call.partPath none).set call.localPath (some received),
        received⟩ := by
    show Copying.replace call _ = _
    rw [Copying.replace, stored]
    rfl
  rw [copyWith_succ rfl moves, copyWith_succ rfl replaces]
  exact ⟨_, copyWith_returned rfl, rfl, Copying.step_sound sameSound replaces, rfl⟩

theorem copyWith_chunk {before files : Files} {received chunk : Bytes} {offset : Nat}
    {result : Dict} {eof : Bool}
    (served : server.serve call (.reading offset) = some (.invoked (.ok result), later))
    (accepted : acceptRead builtins call.remotePath result = .ok (chunk, eof))
    (nonempty : chunk ≠ [])
    (sound : Copying.Sound call before ⟨.reading offset, files, received⟩) :
    ∃ stored, Copying.Sound call before
        ⟨if eof then .closing none else .reading (offset + chunk.length), stored,
          received ++ chunk⟩ ∧
      copyWith builtins call (rounds + 2) server ⟨.reading offset, files, received⟩ =
        copyWith builtins call rounds later
          ⟨if eof then .closing none else .reading (offset + chunk.length), stored,
            received ++ chunk⟩ := by
  have reads : Copying.step builtins call ⟨.reading offset, files, received⟩
      (.invoked (.ok result)) =
        some ⟨.writing offset chunk eof, files, received ++ chunk⟩ := by
    show some (Copying.read builtins call _ offset (.ok result)) = _
    simp only [Copying.read, Except.bind, accepted, if_neg nonempty]
    rfl
  have writes : Copying.step builtins call
      ⟨.writing offset chunk eof, files, received ++ chunk⟩ .done = some _ := rfl
  refine ⟨_, Copying.step_sound (Copying.step_sound sound reads) writes, ?_⟩
  rw [copyWith_succ served reads, copyWith_succ rfl writes]
  rfl

theorem copyWith_reading {before files : Files} {content : Bytes} {offset : Nat}
    (present : server.files call.remotePath = some content)
    (inside : offset ≤ content.length)
    (sound : Copying.Sound call before ⟨.reading offset, files, content.take offset⟩)
    (enough : 2 * (content.length - offset) + 4 ≤ rounds) :
    ∃ later final, copyWith builtins call rounds server
        ⟨.reading offset, files, content.take offset⟩ = (later, final) ∧
      final.phase = .returned ∧ Copying.Sound call before final ∧
      final.received = content ∧
      Moves call.remotePath server offset later content.length := by
  induction rounds using Nat.strong_induction_on generalizing server offset files with
  | _ rounds induction =>
      rcases answer_readChunk present inside with
        ⟨chunk, later, answered, filesKept, taken, split, progress, within, moved⟩
      have served : server.serve call (.reading offset) =
          some (.invoked (.ok (readReply chunk
            (decide (content.length ≤ offset + chunk.length)))), later) := by
        rw [RpcServer.serve, answered]
      by_cases last : content.length ≤ offset + chunk.length
      · have whole : offset + chunk.length = content.length := Nat.le_antisymm within last
        have accepted : acceptRead builtins call.remotePath (readReply chunk true) =
            .ok (chunk, true) := acceptRead_readReply fun both => nomatch both.2
        rw [decide_eq_true last] at served
        rw [whole] at moved
        rw [whole, List.take_length] at taken
        by_cases empty : chunk = []
        · subst empty
          have ends : Copying.step builtins call
              ⟨.reading offset, files, content.take offset⟩
              (.invoked (.ok (readReply [] true))) =
                some ⟨.closing none, files, content.take offset⟩ := by
            show some (Copying.read builtins call _ offset (.ok _)) = _
            simp only [Copying.read, Except.bind, accepted, if_true]
            rfl
          obtain ⟨fewer, rfl⟩ : ∃ fewer, rounds = fewer + 2 + 1 := ⟨rounds - 3, by omega⟩
          rcases copyWith_closing builtins fewer later (Copying.step_sound sound ends) with
            ⟨final, ran, returned, finalSound, received⟩
          refine ⟨later, final, ?_, returned, finalSound, ?_, moved⟩
          · rw [copyWith_succ served ends, ran]
          · simpa [received] using taken
        · obtain ⟨fewer, rfl⟩ : ∃ fewer, rounds = fewer + 2 + 2 := ⟨rounds - 4, by omega⟩
          rcases copyWith_chunk served accepted empty sound with ⟨stored, kept, goesOn⟩
          rcases copyWith_closing builtins fewer later kept with
            ⟨final, ran, returned, finalSound, received⟩
          exact ⟨later, final, goesOn.trans ran, returned, finalSound,
            received.trans taken, moved⟩
      · have nonempty := progress (not_le.mp last)
        have positive := List.length_pos_iff.mpr nonempty
        have accepted : acceptRead builtins call.remotePath (readReply chunk false) =
            .ok (chunk, false) := acceptRead_readReply fun both => nonempty both.1
        rw [decide_eq_false last] at served
        obtain ⟨fewer, rfl⟩ : ∃ fewer, rounds = fewer + 2 := ⟨rounds - 2, by omega⟩
        rcases copyWith_chunk served accepted nonempty sound with ⟨stored, kept, goesOn⟩
        rw [taken] at kept goesOn
        rcases induction fewer (by omega) (filesKept ▸ present) within kept (by omega) with
          ⟨last, final, ran, returned, finalSound, received, movedOn⟩
        exact ⟨last, final, goesOn.trans ran, returned, finalSound, received,
          moved.trans movedOn⟩

theorem copyWith_start {content : Bytes}
    (present : server.files call.remotePath = some content)
    (rpc : call.directEnabled = false) (files : Files)
    (enough : 2 * content.length + 7 ≤ rounds) :
    ∃ later final, copyWith builtins call rounds server (.start files) = (later, final) ∧
      final.phase = .returned ∧ final.files call.localPath = some content ∧
      Moves call.remotePath server 0 later content.length := by
  obtain ⟨fewer, rfl⟩ : ∃ fewer, rounds = fewer + 3 := ⟨rounds - 3, by omega⟩
  have informs : Copying.step builtins call (.start files)
      (.invoked (.ok (server.answer (.stat call.remotePath)).1)) =
        some ⟨.makeParents, files, []⟩ := by
    simp only [RpcServer.answer, present]
    rfl
  have makes : Copying.step builtins call ⟨.makeParents, files, []⟩ .done =
      some ⟨.openPart, files, []⟩ := by
    show some (Copying.goTo _ (if call.directEnabled then _ else _)) = _
    rw [rpc]
    rfl
  have opens : Copying.step builtins call ⟨.openPart, files, []⟩ .done =
      some ⟨.reading 0, files.set call.partPath (some []), []⟩ := rfl
  have same : (server.answer (.stat call.remotePath)).2 = server := by
    simp only [RpcServer.answer, present]
  have sound := Copying.step_sound (Copying.step_sound
    (Copying.step_sound (Copying.start_sound call files) informs) makes) opens
  have left : 2 * (content.length - 0) + 4 ≤ fewer := by omega
  rcases copyWith_reading present (Nat.zero_le _) sound left with
    ⟨later, final, ran, returned, finalSound, received, moved⟩
  have served : server.serve call .stat =
      some (.invoked (.ok (server.answer (.stat call.remotePath)).1), server) := by
    exact congrArg (fun later => some (_, later)) same
  refine ⟨later, final, ?_, returned, ?_, moved⟩
  · rw [copyWith_succ served informs, copyWith_succ rfl makes, copyWith_succ rfl opens]
    exact ran
  · rw [(finalSound.completed returned).whole rpc, received]

end

/-! ## The round trip -/

inductive RpcUpload
  | write (data : Bytes)
  | copyFromLocal (source : Bytes)
  | chunks (sourceChunks : List Bytes)

namespace RpcUpload

def content : RpcUpload → Bytes
  | .write data => data
  | .copyFromLocal source => source
  | .chunks sourceChunks => sourceChunks.flatten

def run (builtins : Builtins) (path : Text) : RpcUpload → RpcM RpcServer Unit
  | .write data => do let _ ← YrSandbox.write builtins RpcServer.invoke path data
  | .copyFromLocal source => YrSandbox.copyFromLocal builtins RpcServer.invoke source path
  | .chunks sourceChunks => do
      let _ ← writeRpcChunks builtins RpcServer.invoke path sourceChunks

def sourceChunks : RpcUpload → List Bytes
  | .write data => [data]
  | .copyFromLocal source => cut rpcFileChunkSize source
  | .chunks sourceChunks => sourceChunks

theorem flatten_sourceChunks (upload : RpcUpload) :
    upload.sourceChunks.flatten = upload.content := by
  cases upload with
  | write data => exact List.append_nil data
  | copyFromLocal source => exact flatten_cut (by decide) source
  | chunks sourceChunks => rfl

theorem run_ok (builtins : Builtins) (path : Text) (upload : RpcUpload)
    (server : RpcServer) :
    ∃ stored, upload.run builtins path server = (.ok (), stored) ∧
      stored.files path = some upload.content ∧
      Moves path server 0 stored upload.content.length := by
  rcases writeRpcChunks_invoke builtins path server upload.sourceChunks with
    ⟨stored, ran, present, moved⟩
  rw [flatten_sourceChunks] at present moved
  refine ⟨stored, ?_, present, moved⟩
  cases upload with
  | write data => exact (RpcM.bind_ok ran).trans rfl
  | copyFromLocal source => exact (RpcM.bind_ok ran).trans rfl
  | chunks sourceChunks => exact (RpcM.bind_ok ran).trans rfl

/-- What is written over RuntimeRPC, in whatever chunks, is what `read` returns and what
`copy_to_local` brings, and every request goes on where the one before ended. -/
theorem roundTrip (builtins : Builtins) (path : Text) (upload : RpcUpload)
    (server : RpcServer) :
    ∃ stored, upload.run builtins path server = (.ok (), stored) ∧
      Moves path server 0 stored upload.content.length ∧
      (∀ rounds, upload.content.length < rounds →
        ∃ later, read builtins RpcServer.invoke path rounds stored =
            (.ok (some upload.content), later) ∧
          Moves path stored 0 later upload.content.length) ∧
      ∀ (call : CopyCall) (files : Files) (rounds : Nat), call.remotePath = path →
        call.directEnabled = false → 2 * upload.content.length + 7 ≤ rounds →
        ∃ later final, copyWith builtins call rounds stored (.start files) =
            (later, final) ∧
          final.phase = .returned ∧ final.files call.localPath = some upload.content ∧
          Moves path stored 0 later upload.content.length := by
  rcases run_ok builtins path upload server with ⟨stored, ran, present, moved⟩
  refine ⟨stored, ran, moved, ?_, ?_⟩
  · intro rounds enough
    have rest : upload.content.length < 0 + rounds := by omega
    rcases readRpcChunks_invoke builtins present (Nat.zero_le _) rest with
      ⟨chunks, later, read, content, _, movedBack⟩
    rw [List.drop_zero] at content
    refine ⟨later, ?_, movedBack⟩
    rw [← content]
    exact (RpcM.bind_ok read).trans rfl
  · rintro call files rounds rfl rpc enough
    exact copyWith_start present rpc files enough

end RpcUpload

end YrSandbox
