import YrSandbox.Python.Hex
import YrSandbox.Python.Json

/-! # Files in RuntimeRPC chunks

`Filesystem._write_rpc_chunks`, `_read_rpc_chunks` and what `write`, `read` and
`copy_from_local` make of them where the direct route is disabled. -/

namespace YrSandbox

open Python

def rpcFileChunkSize : Nat := 1024 * 1024

inductive RpcRequest
  | writeChunk (path : Text) (offset : Nat) (data : Text)
  | readChunk (path : Text) (offset limit : Nat)
  | stat (path : Text)
deriving DecidableEq, Repr

inductive FilesystemError
  | transport (message : Text) -- what `SandboxClient` or `httpx` raises
  | runtimeError (message : Text)
  | keyError (key : String)
  | conversion -- what `int` raises
  | osError
deriving DecidableEq, Repr

abbrev RpcM (Peer : Type) := ExceptT FilesystemError (StateM Peer)

abbrev Invoke (Peer : Type) := RpcRequest → RpcM Peer Dict

structure EntryInfo where
  name : Json
  path : Json
  type : Json
  size : Json
  permissions : Json
  modifiedTime : Json
deriving Repr

def EntryInfo.isDir (info : EntryInfo) : Bool :=
  match info.type with
  | .str type => type = "dir"
  | _ => false

/-! ## Replies -/

def getItem (result : Dict) (key : String) : Except FilesystemError Json :=
  match result.get? key with
  | some value => .ok value
  | none => .error (.keyError key)

def entry (result : Dict) : Except FilesystemError EntryInfo := do
  let name ← getItem result "name"
  let path ← getItem result "path"
  let type ← getItem result "type"
  let size ← getItem result "size"
  let permissions ← getItem result "permissions"
  let modifiedTime ← getItem result "modified_time"
  return { name, path, type, size, permissions, modifiedTime }

section

variable (builtins : Builtins)

def check (result : Dict) (message : Text) : Except FilesystemError Dict :=
  let error := (result.get? "error").getD .null
  if error.truthy then
    .error (.runtimeError (message ++ ": ".toList ++ (error.toStr builtins).toList))
  else .ok result

/-- `int(result.get(key, -1))` -/
def countOf (result : Dict) (key : String) : Except FilesystemError Int :=
  match ((result.get? key).getD (.int (-1))).toInt builtins with
  | some count => .ok count
  | none => .error .conversion

/-- What one round of `_write_rpc_chunks` asks of its reply. -/
def acceptWritten (path : Text) (chunk : Bytes) (result : Dict) :
    Except FilesystemError Unit := do
  let result ← check builtins result ("Failed to write ".toList ++ path)
  let written ← countOf builtins result "bytes_written"
  if written ≠ chunk.length then
    .error (.runtimeError ("Short RuntimeRPC write for ".toList ++ path))

/-- What one round of `_read_rpc_chunks` makes of its reply: the chunk that it yields,
unless it is empty, and whether it is the last. -/
def acceptRead (path : Text) (result : Dict) : Except FilesystemError (Bytes × Bool) := do
  let result ← check builtins result ("Failed to read ".toList ++ path)
  let data := ((result.get? "data").getD (.str "")).toStr builtins
  match fromHex data.toList with
  | none =>
      .error (.runtimeError ("Invalid RuntimeRPC file data for ".toList ++ path))
  | some chunk =>
      let count ← countOf builtins result "bytes_read"
      if count ≠ chunk.length then
        .error (.runtimeError ("Invalid RuntimeRPC byte count for ".toList ++ path))
      else
        let eof := ((result.get? "eof").getD .null).truthy
        if chunk = [] ∧ eof = false then
          .error (.runtimeError ("RuntimeRPC read made no progress for ".toList ++ path))
        else .ok (chunk, eof)

/-- What `get_info` makes of its reply. -/
def acceptInfo (path : Text) (result : Dict) : Except FilesystemError EntryInfo := do
  let result ← check builtins result ("Failed to get info for ".toList ++ path)
  entry result

/-! ## The client -/

variable {Peer : Type} (invoke : Invoke Peer)

def getInfo (path : Text) : RpcM Peer EntryInfo := do
  let result ← invoke (.stat path)
  MonadExcept.ofExcept (acceptInfo builtins path result)

/-- The variables of `_write_rpc_chunks`. -/
structure WriteProgress where
  offset : Nat
  wroteChunk : Bool
deriving DecidableEq, Repr

/-- One round of the inner loop of `_write_rpc_chunks`. -/
def writeChunk (path : Text) (progress : WriteProgress) (chunk : Bytes) :
    RpcM Peer WriteProgress := do
  let result ← invoke (.writeChunk path progress.offset (hex chunk))
  MonadExcept.ofExcept (acceptWritten builtins path chunk result)
  return ⟨progress.offset + chunk.length, true⟩

def writeSourceChunk (path : Text) (progress : WriteProgress) (sourceChunk : Bytes) :
    RpcM Peer WriteProgress :=
  (cut rpcFileChunkSize sourceChunk).foldlM (writeChunk builtins invoke path) progress

def writeRpcChunks (path : Text) (chunks : List Bytes) : RpcM Peer EntryInfo := do
  let progress ← chunks.foldlM (writeSourceChunk builtins invoke path) ⟨0, false⟩
  if !progress.wroteChunk then
    let result ← invoke (.writeChunk path 0 [])
    let _ ← MonadExcept.ofExcept
      (check builtins result ("Failed to write ".toList ++ path))
  getInfo builtins invoke path

/-- The chunks that `_read_rpc_chunks` yields from `offset` on, `none` if the reply
to its last request out of `rounds` is not the last. -/
def readRpcChunks (path : Text) : (rounds offset : Nat) → RpcM Peer (Option (List Bytes))
  | 0, _ => return none
  | rounds + 1, offset => do
      let result ← invoke (.readChunk path offset rpcFileChunkSize)
      let (chunk, eof) ← MonadExcept.ofExcept (acceptRead builtins path result)
      let yielded := if chunk = [] then [] else [chunk]
      if eof then return some yielded
      else
        let rest ← readRpcChunks path rounds (offset + chunk.length)
        return rest.map (yielded ++ ·)

def write (path : Text) (data : Bytes) : RpcM Peer EntryInfo :=
  writeRpcChunks builtins invoke path [data]

/-- `copy_from_local` of a file with the content `source`, which it reads in chunks. -/
def copyFromLocal (source : Bytes) (remotePath : Text) : RpcM Peer Unit := do
  let _ ← writeRpcChunks builtins invoke remotePath (cut rpcFileChunkSize source)

def read (path : Text) (rounds : Nat) : RpcM Peer (Option Bytes) := do
  let chunks ← readRpcChunks builtins invoke path rounds 0
  return chunks.map List.flatten

end

end YrSandbox
