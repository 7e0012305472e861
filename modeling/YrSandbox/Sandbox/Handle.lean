import YrSandbox.Python.Json
import YrSandbox.Sandbox.Gateway

/-! # The handle of a sandbox

`Sandbox` with its constructor, its synchronous methods and what closes it. A handle keeps
the list of what it has asked of its client, its tunnel, its shells and its terminals; each
answer may depend on that whole list. -/

namespace YrSandbox.Lifecycle

open Python

inductive ApiError
  | sandboxError (message : Text)
  | runtimeError (message : Text)
  | valueError (message : Text)
  | typeError (message : Text)
  | other (message : Text)
deriving DecidableEq, Repr

inductive Operation
  | delete
  | instanceInfo
  | pollEntrypoint
  | createSnapshot (name : Option Text) (timeoutSeconds : Int)
  | pause (ttlSeconds timeoutSeconds : Int)
  | resume
  | reload
  | network (policy : Dict)
deriving Repr

inductive Action
  | create
  | request (operation : Operation) (sandboxId : Text)
  | newTunnel (upstream : Text) (token : Option Text)
  | startTunnel (url : Text)
  | stopTunnel
  | closeShells
  | closePty
  | closeClient
deriving Repr

/-- The answer to an action, after the actions that were performed before it. What returns
`None` is answered by any dictionary. -/
structure World where
  answer : List Action → Action → Except ApiError Dict
  connects : List Action → Bool -- what `TunnelClient.start` returns

structure Options where
  connection : Option ConnectionConfig
  client : ConnectionConfig -- the connection of `SandboxClient`
  upstream : Option Text
  name : Text
  connectTimeout : Except ApiError Text -- `_get_tunnel_connect_timeout`, as it is printed
  detached : Bool
  inheritEntrypoint : Bool
  cpu : Json
  memory : Json
  image : Json

/-- The fields of a `Sandbox`, and the actions that were performed for it. -/
structure Handle where
  sandboxId : Text
  hasTunnel : Bool
  checkpointDepth : Nat -- `_checkpoint_scope_depth` of its tunnel
  closed : Bool
  entrypointExitInfo : Option Dict
  log : List Action

def fresh : Handle where
  sandboxId := []
  hasTunnel := false
  checkpointDepth := 0
  closed := false
  entrypointExitInfo := none
  log := []

abbrev Method (α : Type) := Handle → Except ApiError α × Handle

variable (world : World)

def perform (action : Action) : Method Dict := fun handle =>
  (world.answer handle.log action, { handle with log := handle.log ++ [action] })

def attempt (action : Action) (handle : Handle) : Handle := (perform world action handle).2

def request (operation : Operation) : Method Dict := fun handle =>
  perform world (.request operation handle.sandboxId) handle

/-! ## The constructor -/

section

variable (lower : Text → Text) (checks : HostChecks) (environ : Environ)
  (builtins : Builtins)

/-- `info.get(key) or info.get(other)` -/
def either (info : Dict) (key other : String) : Json :=
  let value := (info.get? key).getD .null
  if value.truthy then value else (info.get? other).getD .null

def missingId (info : Dict) : ApiError :=
  .runtimeError ("create response missing sandbox id: " ++
    builtins.strOfOther (.object info)).toList

def createdId (info : Dict) : Except ApiError Text :=
  match either info "sandboxId" "instanceId" with
  | .str value =>
      if value = "" then .error (missingId builtins info) else .ok value.toList
  | _ => .error (missingId builtins info)

/-- `tunnel_info.get("url") or tunnel_info.get("path")` -/
def tunnelPath (info : Dict) : Except ApiError (Option Text) :=
  let tunnelInfo :=
    match info.get? "tunnel" with
    | some (.object fields) => fields
    | _ => []
  match either tunnelInfo "url" "path" with
  | .str path => .ok (some path.toList)
  | value => if value.truthy then .error (.other "urlparse".toList) else .ok none

def ofConnection : ConnectionError → ApiError
  | .valueError message => .valueError message
  | .runtimeError message => .runtimeError message

def tunnelTarget (options : Options) (info : Dict) (sandboxId : Text) :
    Except ApiError (Text × Option Text) := do
  let _ ← (gatewayAddress environ options.connection).mapError ofConnection
  let path ← tunnelPath info
  let target ← (Sandbox.tunnel lower checks environ path
    ⟨options.connection, options.client, sandboxId, []⟩).mapError ofConnection
  let _ ← options.connectTimeout
  return target

def notConnected (options : Options) (url sandboxId : Text) : ApiError :=
  let timeout := match options.connectTimeout with
    | .ok timeout => timeout
    | .error _ => []
  .runtimeError ("TunnelClient connection timeout after ".toList ++ timeout ++
    "s: sandbox_id=".toList ++ safeId sandboxId ++ " name=".toList ++ options.name ++
    " url=".toList ++ url ++ ". The tunnel route may be missing or not ready.".toList)

/-- `TunnelClient.start`, and `stop` unless it has connected. -/
def startTunnel (options : Options) (url : Text) : Method Unit := fun handle =>
  match perform world (.startTunnel url) handle with
  | (.error error, handle) => (.error error, handle)
  | (.ok _, handle) =>
      if world.connects handle.log then (.ok (), handle)
      else
        match perform world .stopTunnel handle with
        | (.error error, handle) => (.error error, handle)
        | (.ok _, handle) =>
            (.error (notConnected options url handle.sandboxId),
              { handle with hasTunnel := false })

def openTunnel (options : Options) (upstream : Text) (info : Dict) : Method Unit :=
  fun handle =>
    match tunnelTarget lower checks environ options info handle.sandboxId with
    | .error error => (.error error, handle)
    | .ok (url, token) =>
        match perform world (.newTunnel upstream token) handle with
        | (.error error, handle) => (.error error, handle)
        | (.ok _, handle) =>
            startTunnel world options url { handle with hasTunnel := true }

def construct (options : Options) : Method Unit := fun handle =>
  match perform world .create handle with
  | (.error error, handle) => (.error error, handle)
  | (.ok info, handle) =>
      match createdId builtins info with
      | .error error => (.error error, handle)
      | .ok sandboxId =>
          let handle := { handle with sandboxId }
          match options.upstream with
          | none => (.ok (), handle)
          | some upstream =>
              openTunnel world lower checks environ options upstream info handle

/-- `self._tunnel_client.stop()`, if there is one, and `self._tunnel_client = None` -/
def releaseTunnel (handle : Handle) : Handle :=
  if handle.hasTunnel then { attempt world .stopTunnel handle with hasTunnel := false }
  else handle

/-- The `except Exception` of the constructor. -/
def rollback (handle : Handle) : Handle :=
  let handle := releaseTunnel world handle
  let handle :=
    if handle.sandboxId = [] then handle
    else attempt world (.request .delete handle.sandboxId) handle
  { attempt world .closeClient handle with closed := true }

/-- `__init__`, from where it has a client on. -/
def init (options : Options) : Except ApiError Unit × Handle :=
  match construct world lower checks environ builtins options fresh with
  | (.error error, handle) => (.error error, rollback world handle)
  | (.ok (), handle) => (.ok (), handle)

end

/-! ## Closing -/

def close (detached deleteRemote : Bool) : Method Unit := fun handle =>
  if handle.closed then (.ok (), handle)
  else
    let handle := releaseTunnel world { handle with closed := true }
    let handle := attempt world .closeShells handle
    let handle := attempt world .closePty handle
    let (deleted, handle) :=
      if deleteRemote && !detached then request world .delete handle else (.ok [], handle)
    -- the `finally`
    match perform world .closeClient handle with
    | (.error error, handle) => (.error error, handle)
    | (.ok _, handle) => (deleted.map fun _ => (), handle)

/-! ## The other methods -/

section

variable (builtins : Builtins)

def closedError : ApiError := .runtimeError "sandbox is closed".toList

/-- `str(result.get(key) or "")` -/
def textOf (result : Dict) (key : String) : Text :=
  let value := (result.get? key).getD .null
  if value.truthy then (value.toStr builtins).toList else []

def intOf (result : Dict) (key : String) : Except ApiError Int :=
  let value := (result.get? key).getD .null
  if value.truthy then
    match value.toInt builtins with
    | some number => .ok number
    | none => .error (.valueError "int".toList)
  else .ok 0

structure PauseResult where
  sandboxId : Text
  snapshotId : Text
  size : Int
  state : Text
  expiresAt : Int
deriving DecidableEq, Repr

structure ResumeResult where
  sandboxId : Text
  state : Text
  routeAddress : Text
  functionProxyId : Text
  nodeId : Text
  portMappings : List (String × Int)
deriving DecidableEq, Repr

structure SnapshotInfo where
  snapshotId : Text
  names : List String
deriving DecidableEq, Repr

structure SandboxInfo where
  id : Text
  state : Text
  cpu : Json
  memory : Json
  image : Json
deriving Repr

inductive Value
  | none
  | bool (value : Bool)
  | exitCode (code : Int)
  | pause (result : PauseResult)
  | resume (result : ResumeResult)
  | snapshot (info : SnapshotInfo)
  | info (info : SandboxInfo)
deriving Repr

def pauseResult (sandboxId : Text) (result : Dict) : Except ApiError Value := do
  let size ← intOf builtins result "size"
  let expiresAt ← intOf builtins result "expiresAt"
  let pause : PauseResult := {
    sandboxId := textOf builtins result "sandboxId"
    snapshotId := textOf builtins result "snapshotId"
    size
    state := textOf builtins result "state"
    expiresAt }
  if pause.sandboxId ≠ sandboxId ∨ pause.state ≠ "paused".toList ∨ pause.snapshotId = [] ∨
      pause.size ≤ 0 ∨ pause.expiresAt ≤ 0 then
    throw (.sandboxError "pause response is not an authoritative PAUSED result".toList)
  return .pause pause

/-- `{str(key): int(value) for key, value in mappings.items()}` -/
def portMappings (mappings : Dict) : Except ApiError (List (String × Int)) :=
  mappings.mapM fun (key, value) =>
    match value.toInt builtins with
    | some port => .ok (key, port)
    | none => .error (.valueError "int".toList)

def resumeResult (sandboxId : Text) (result : Dict) : Except ApiError Value := do
  let mappings ←
    match (result.get? "portMappings").getD .null with
    | .object mappings => .ok mappings
    | value =>
        if value.truthy then
          .error (.runtimeError "resume response portMappings must be an object".toList)
        else .ok []
  let ports ← portMappings builtins mappings
  let resume : ResumeResult := {
    sandboxId := textOf builtins result "sandboxId"
    state := textOf builtins result "state"
    routeAddress := textOf builtins result "routeAddress"
    functionProxyId := textOf builtins result "functionProxyId"
    nodeId := textOf builtins result "nodeId"
    portMappings := ports }
  if resume.sandboxId ≠ sandboxId ∨ resume.state ≠ "running".toList ∨
      resume.routeAddress = [] ∨ resume.functionProxyId = [] then
    throw (.sandboxError "resume response is not an authoritative RUNNING result".toList)
  return .resume resume

def strings? : List Json → Option (List String)
  | [] => some []
  | .str value :: values => (strings? values).map (value :: ·)
  | _ :: _ => none

def snapshotInfo (payload : Dict) : Except ApiError Value :=
  let snapshotId := textOf builtins payload "snapshotId"
  let names :=
    match (payload.get? "names").getD .null with
    | .array names => strings? names
    | value => if value.truthy then none else some []
  match names with
  | some names =>
      if snapshotId = [] then
        .error (.sandboxError "invalid reusable Snapshot response".toList)
      else .ok (.snapshot ⟨snapshotId, names⟩)
  | none => .error (.sandboxError "invalid reusable Snapshot response".toList)

/-- `timeout_seconds` of `create_snapshot` and `pause`. -/
def checkTimeout (timeoutSeconds : Int) : Except ApiError Unit :=
  if timeoutSeconds ≤ 0 ∨ 3600 < timeoutSeconds then
    .error (.valueError "timeout_seconds must be between 1 and 3600".toList)
  else .ok ()

def checkOpen (handle : Handle) : Except ApiError Unit :=
  if handle.closed then .error closedError else .ok ()

def exchange (checked : Except ApiError Unit) (operation : Operation)
    (read : Dict → Except ApiError Value) : Method Value := fun handle =>
  match checked with
  | .error error => (.error error, handle)
  | .ok () =>
      let (reply, handle) := request world operation handle
      (reply.bind read, handle)

def isRunning : Method Value := fun handle =>
  if handle.closed then (.ok (.bool false), handle)
  else
    match request world .instanceInfo handle with
    | (.error _, handle) => (.ok (.bool false), handle)
    | (.ok info, handle) =>
        let running := match info.get? "status" with
          | some (.str status) => status == "running"
          | _ => false
        (.ok (.bool running), handle)

def getInfo (options : Options) : Method Value := fun handle =>
  exchange world (.ok ()) .instanceInfo (fun info =>
    let id := textOf builtins info "id"
    let state := textOf builtins info "status"
    .ok (.info {
      id := if id = [] then handle.sandboxId else id
      state := if state = [] then "stopped".toList else state
      cpu := (info.get? "required_cpu").getD options.cpu
      memory := (info.get? "required_mem").getD options.memory
      image := (info.get? "image").getD options.image })) handle

def createSnapshot (name : Option Text) (timeoutSeconds : Int) : Method Value :=
  fun handle =>
    let checked : Except ApiError Unit := do
      checkOpen handle
      if name.any fun name => strip name = [] then
        throw (.valueError "name must be a non-empty string or None".toList)
      checkTimeout timeoutSeconds
    let send := exchange world checked (.createSnapshot (name.map strip) timeoutSeconds)
      (snapshotInfo builtins)
    if handle.hasTunnel then
      -- `with tunnel.checkpoint_inflight()`
      let (result, handle) :=
        send { handle with checkpointDepth := handle.checkpointDepth + 1 }
      (result, { handle with checkpointDepth := handle.checkpointDepth - 1 })
    else send handle

def pause (ttlSeconds timeoutSeconds : Int) : Method Value := fun handle =>
  let checked : Except ApiError Unit := do
    if ttlSeconds ≤ 0 then
      throw (.valueError "ttl_seconds must be a positive integer".toList)
    checkTimeout timeoutSeconds
    checkOpen handle
  exchange world checked (.pause ttlSeconds timeoutSeconds)
    (pauseResult builtins handle.sandboxId) handle

def resume : Method Value := fun handle =>
  exchange world (checkOpen handle) .resume (resumeResult builtins handle.sandboxId) handle

def reload : Method Value := fun handle =>
  if handle.closed then (.ok (.bool false), handle)
  else
    match request world .reload handle with
    | (.error (.sandboxError _), handle) => (.ok (.bool false), handle)
    | (.error error, handle) => (.error error, handle)
    | (.ok result, handle) =>
        (.ok (.bool ((result.get? "success").getD (.bool false)).truthy), handle)

/-- `policy` is the encoded policy, `{}` where there is none. -/
def updateNetworkPolicy (policy : Dict) : Method Value := fun handle =>
  exchange world (checkOpen handle) (.network policy) (fun result =>
    if ((result.get? "success").getD (.bool false)).truthy then .ok .none
    else
      .error (.sandboxError "network policy update was not acknowledged".toList)) handle

/-- The exit code of a terminal reply, which `True` is not. -/
def entrypointExitCode (result : Dict) : Except ApiError Value :=
  let code := match result.get? "shell_exit_code" with
    | some code => some code
    | none => result.get? "exit_code"
  match code with
  | some (.int code) => .ok (.exitCode code)
  | _ =>
      .error (.sandboxError ("entrypoint exit response missing exit code: " ++
        builtins.strOfOther (.object result)).toList)

/-- The loop of `wait_entrypoint`. It has no bound of its own: `rounds` polls are looked at,
and `none` says that the last of them still finds the entrypoint running. -/
def pollEntrypoint : (rounds : Nat) → Handle → Option (Except ApiError Value) × Handle
  | 0, handle => (none, handle)
  | rounds + 1, handle =>
      match request world .pollEntrypoint handle with
      | (.error error, handle) => (some (.error error), handle)
      | (.ok result, handle) =>
          match result.get? "status" with
          | some (.str "running") => pollEntrypoint rounds handle
          | some (.str "exited") =>
              (some (entrypointExitCode builtins result),
                { handle with entrypointExitInfo := some result })
          | some (.str "error") =>
              let message := textOf builtins result "message"
              (some (.error (.sandboxError
                (if message = [] then "entrypoint polling failed".toList else message))),
                handle)
          | _ =>
              (some (.error (.sandboxError ("invalid entrypoint poll response: " ++
                builtins.strOfOther (.object result)).toList)), handle)

def waitEntrypoint (options : Options) (rounds : Nat) :
    Handle → Option (Except ApiError Value) × Handle := fun handle =>
  if !options.inheritEntrypoint then
    (some (.error (.runtimeError
      "inherit_entrypoint was not enabled for this sandbox".toList)), handle)
  else if handle.closed then (some (.error closedError), handle)
  else pollEntrypoint world builtins rounds handle

end

/-! ## Calls -/

/-- A call of a method. `__exit__` and `__del__` are `kill`. -/
inductive Call
  | close
  | kill
  | isRunning
  | getInfo
  | createSnapshot (name : Option Text) (timeoutSeconds : Int)
  | pause (ttlSeconds timeoutSeconds : Int)
  | resume
  | reload
  | updateNetworkPolicy (policy : Dict)
  | waitEntrypoint (rounds : Nat)
deriving Repr

def Call.closes : Call → Bool
  | .close | .kill => true
  | _ => false

def call (builtins : Builtins) (options : Options) (handle : Handle) :
    Call → Option (Except ApiError Value) × Handle
  | .close =>
      let (result, handle) := close world options.detached false handle
      (some (result.map fun _ => .none), handle)
  | .kill =>
      let (result, handle) := close world options.detached true handle
      (some (result.map fun _ => .none), handle)
  | .isRunning => (isRunning world handle).map some id
  | .getInfo => (getInfo world builtins options handle).map some id
  | .createSnapshot name timeoutSeconds =>
      (createSnapshot world builtins name timeoutSeconds handle).map some id
  | .pause ttlSeconds timeoutSeconds =>
      (pause world builtins ttlSeconds timeoutSeconds handle).map some id
  | .resume => (resume world builtins handle).map some id
  | .reload => (reload world handle).map some id
  | .updateNetworkPolicy policy => (updateNetworkPolicy world policy handle).map some id
  | .waitEntrypoint rounds => waitEntrypoint world builtins options rounds handle

def calls (builtins : Builtins) (options : Options) (handle : Handle)
    (calls : List Call) : Handle :=
  calls.foldl (fun handle next => (call world builtins options handle next).2) handle

end YrSandbox.Lifecycle
