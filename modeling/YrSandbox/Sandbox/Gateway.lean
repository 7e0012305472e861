import YrSandbox.Python.UrlParts

/-! # Addresses of a sandbox

Where a sandbox takes its addresses, its token and the choice of TLS from: a
`ConnectionConfig`, or the environment at each use. `lower` is `str.lower`. -/

namespace YrSandbox

open Python

inductive ConnectionError
  | valueError (message : Text)
  | runtimeError (message : Text)
deriving DecidableEq, Repr

abbrev Environ := String → Option Text

/-- The environment as `os.environ.get(name, "").strip()` sees it. -/
def Environ.text (environ : Environ) (name : String) : Text :=
  strip ((environ name).getD [])

def trimSlashes (text : Text) : Text := rstrip (· = '/') text

/-! ## `ConnectionConfig` -/

structure ConnectionConfig where
  serverAddress : Text
  token : Text
  useTls : Bool
  gatewayAddress : Option Text
  gatewayUseTls : Bool
  verifyTls : Bool
  serverNonempty : serverAddress ≠ []
  tokenNonempty : token ≠ []
  gatewayNonempty : ∀ gateway ∈ gatewayAddress, gateway ≠ []

namespace ConnectionConfig

def nonempty (field : String) : ConnectionError :=
  .valueError (field ++ " must be a non-empty string").toList

/-- The optional gateway, as `__post_init__` stores it. -/
def storedGateway : Option Text → Except ConnectionError { gateway : Option Text //
    ∀ address ∈ gateway, address ≠ [] }
  | none => .ok ⟨none, nofun⟩
  | some address =>
      if strip address = [] then .error (nonempty "gateway_address")
      else if given : trimSlashes (strip address) = [] then
        .error (nonempty "gateway_address")
      else .ok ⟨some (trimSlashes (strip address)), by rintro _ ⟨⟩; exact given⟩

def postInit (serverAddress token : Text) (useTls : Bool) (gatewayAddress : Option Text)
    (gatewayUseTls verifyTls : Bool) : Except ConnectionError ConnectionConfig :=
  if strip serverAddress = [] then .error (nonempty "server_address")
  else if givenToken : strip token = [] then .error (nonempty "token")
  else if givenServer : trimSlashes (strip serverAddress) = [] then
    .error (nonempty "server_address")
  else
    (storedGateway gatewayAddress).map fun gateway =>
      { serverAddress := trimSlashes (strip serverAddress)
        token := strip token
        useTls
        gatewayAddress := gateway.val
        gatewayUseTls
        verifyTls
        serverNonempty := givenServer
        tokenNonempty := givenToken
        gatewayNonempty := gateway.property }

end ConnectionConfig

def connectionEnv (environ : Environ) (name : String) : Except ConnectionError Text :=
  if environ.text name = [] then .error (.runtimeError (name ++ " is not set").toList)
  else .ok (environ.text name)

variable (lower : Text → Text)

def truthyWords : List Text := ["1", "true", "yes"].map String.toList

def falsyWords : List Text := ["0", "false", "no"].map String.toList

/-- `os.environ.get(name, default).strip().lower()` -/
def flagWord (environ : Environ) (name default : String) : Text :=
  lower (strip ((environ name).getD default.toList))

def connectionEnvFlag (environ : Environ) (name : String) (default : Bool) : Bool :=
  !falsyWords.contains (flagWord lower environ name (if default then "1" else "0"))

def ConnectionConfig.fromEnv (environ : Environ) (serverAddress token : Option Text)
    (verifyTls : Bool) : Except ConnectionError ConnectionConfig := do
  let gateway := environ.text "YR_GATEWAY_ADDRESS"
  let server ← match serverAddress.filter (· ≠ []) with
    | some address => .ok address
    | none => connectionEnv environ "YR_SERVER_ADDRESS"
  let token ← match token.filter (· ≠ []) with
    | some token => .ok token
    | none => connectionEnv environ "YR_TOKEN"
  postInit server token (connectionEnvFlag lower environ "YR_TLS" true)
    (if gateway = [] then none else some gateway)
    (connectionEnvFlag lower environ "YR_GATEWAY_TLS" false) verifyTls

/-! ## Gateway URLs -/

def unsetGateway : Text := "YR_GATEWAY_ADDRESS or YR_SERVER_ADDRESS must be set".toList

def gatewayRoute (checks : HostChecks) (path : Text) : Except ConnectionError Text :=
  match urlparse checks path [] with
  | .error message => .error (.valueError message)
  | .ok parsed =>
      let route := if parsed.path ≠ [] then parsed.path else path
      let route := if parsed.query ≠ [] then route ++ '?' :: parsed.query else route
      .ok (if route.head? = some '/' then route else '/' :: route)

def composeGatewayUrl (checks : HostChecks) (gateway scheme path : Text) :
    Except ConnectionError Text :=
  if gateway = [] then .error (.valueError unsetGateway)
  else
    (gatewayRoute checks path).map fun route => scheme ++ "://".toList ++ gateway ++ route

def gatewayAddress (environ : Environ) :
    Option ConnectionConfig → Except ConnectionError Text
  | some connection =>
      .ok ((connection.gatewayAddress.filter (· ≠ [])).getD connection.serverAddress)
  | none =>
      let gateway := environ.text "YR_GATEWAY_ADDRESS"
      let gateway := if gateway = [] then environ.text "YR_SERVER_ADDRESS" else gateway
      if gateway = [] then .error (.valueError unsetGateway) else .ok gateway

def gatewayUsesTls (environ : Environ) : Option ConnectionConfig → Bool
  | some connection => connection.gatewayUseTls
  | none => truthyWords.contains (flagWord lower environ "YR_GATEWAY_TLS" "0")

def safeId (sandboxId : Text) : Text :=
  (sandboxId.flatMap fun char => if char = '@' then "-at-".toList else [char]).map
    fun char => if "/._".toList.contains char then '-' else char

/-- The path of the tunnel is the default one unless the create response gives one. -/
def tunnelPath (sandboxId : Text) (path : Option Text) : Text :=
  (path.filter (· ≠ [])).getD ("/tunnel/".toList ++ safeId sandboxId)

/-- A sandbox as far as its addresses go. `client` is the connection of its client, and the
set of ports stands in the order in which it is iterated. -/
structure Sandbox where
  connection : Option ConnectionConfig
  client : ConnectionConfig
  sandboxId : Text
  forwardedPorts : List Int

namespace Sandbox

def create (environ : Environ) (connection : Option ConnectionConfig) (sandboxId : Text)
    (forwardedPorts : List Int) : Except ConnectionError Sandbox :=
  match connection with
  | some config => .ok ⟨connection, config, sandboxId, forwardedPorts⟩
  | none =>
      (ConnectionConfig.fromEnv lower environ none none false).map fun client =>
        ⟨none, client, sandboxId, forwardedPorts⟩

def tunnel (checks : HostChecks) (environ : Environ) (path : Option Text)
    (sandbox : Sandbox) : Except ConnectionError (Text × Option Text) := do
  let gateway ← gatewayAddress environ sandbox.connection
  let tls := gatewayUsesTls lower environ sandbox.connection
  let scheme := if tls then "wss".toList else "ws".toList
  let url ← composeGatewayUrl checks gateway scheme (tunnelPath sandbox.sandboxId path)
  return (url, if tls then some sandbox.client.token else none)

def portsText : List Int → String
  | [] => "set()"
  | ports => "\x7b" ++ ", ".intercalate (ports.map toString) ++ "\x7d"

def getPortUrl (environ : Environ) (port : Int) (sandbox : Sandbox) :
    Except ConnectionError Text := do
  if port ∉ sandbox.forwardedPorts then
    throw (.valueError (s!"Port {port} is not in forwarded ports: " ++
      portsText sandbox.forwardedPorts).toList)
  let gateway ← gatewayAddress environ sandbox.connection
  let tls :=
    if sandbox.connection.isSome then gatewayUsesTls lower environ sandbox.connection
    else if environ.text "YR_GATEWAY_ADDRESS" ≠ [] then
      !falsyWords.contains (flagWord lower environ "YR_GATEWAY_TLS" "0")
    else !falsyWords.contains (flagWord lower environ "YR_TLS" "1")
  let scheme := if tls then "https".toList else "http".toList
  return scheme ++ "://".toList ++ gateway ++ '/' :: safeId sandbox.sandboxId ++
    '/' :: (toString port).toList

end Sandbox

/-! ## PTY -/

def ptyUsesTls (environ : Environ) : Option ConnectionConfig → Bool
  | some connection =>
      if connection.gatewayAddress.isSome then connection.gatewayUseTls
      else connection.useTls
  | none =>
      !falsyWords.contains
        (if environ.text "YR_GATEWAY_ADDRESS" ≠ [] then
          flagWord lower environ "YR_GATEWAY_TLS" "0"
        else flagWord lower environ "YR_TLS" "1")

def unschemed (server : Text) : Text :=
  removePrefix "http://".toList (removePrefix "https://".toList server)

def ptyProtocol : Text := "sandbox.pty.v1".toList

def buildPtyUri (server : Text) (useTls : Bool) (instanceId token : Text)
    (command : List Text) (rows cols : Nat) : Text :=
  let parameters : List (Text × Text) :=
    [("instance".toList, instanceId), ("tenant_id".toList, "default".toList),
      ("token".toList, token), ("tty".toList, "true".toList),
      ("rows".toList, (toString rows).toList), ("cols".toList, (toString cols).toList),
      ("protocol".toList, ptyProtocol)] ++
    command.map fun argument => ("command".toList, argument)
  let scheme := if useTls then "wss".toList else "ws".toList
  scheme ++ "://".toList ++ trimSlashes (unschemed server) ++
    "/terminal/ws?".toList ++ urlencode parameters

/-- The URI that `Pty.create` connects to, for arguments that it accepts. -/
def Sandbox.ptyUri (environ : Environ) (arguments : List Text) (rows cols : Nat)
    (sandbox : Sandbox) : Except ConnectionError Text := do
  let (token, server) ← match sandbox.connection with
    | some connection =>
        .ok (connection.token,
          (connection.gatewayAddress.filter (· ≠ [])).getD connection.serverAddress)
    | none =>
        let token := environ.text "YR_TOKEN"
        if token = [] then throw (.runtimeError "YR_TOKEN is not set".toList)
        let server := environ.text "YR_GATEWAY_ADDRESS"
        let server := if server = [] then environ.text "YR_SERVER_ADDRESS" else server
        if server = [] then
          throw (.runtimeError
            "YR_GATEWAY_ADDRESS or YR_SERVER_ADDRESS is not set".toList)
        .ok (token, server)
  return buildPtyUri server (ptyUsesTls lower environ sandbox.connection)
    sandbox.sandboxId token arguments rows cols

/-! ## What both kinds of sandbox agree on -/

def Environ.gateway (environ : Environ) : Text :=
  if environ.text "YR_GATEWAY_ADDRESS" = [] then environ.text "YR_SERVER_ADDRESS"
  else environ.text "YR_GATEWAY_ADDRESS"

/-! ### The snapshot of an environment -/

theorem strip_strip (text : Text) : strip (strip text) = strip text := by
  have leading : lstrip isSpace (strip text) = strip text := by
    apply lstrip_eq
    intro char first
    rcases List.rdropWhile_prefix (p := isSpace) (lstrip isSpace text) with ⟨rest, whole⟩
    have front : (lstrip isSpace text).head? = some char := by
      rw [← whole, List.head?_append_of_ne_nil]
      · exact first
      · rintro none
        rw [strip, rstrip, none] at first
        cases first
    have unspaced := List.head?_dropWhile_not isSpace text
    rw [← lstrip, front] at unspaced
    exact unspaced
  rw [strip, leading, rstrip, strip, rstrip, List.rdropWhile_idempotent]

namespace ConnectionConfig

theorem storedGateway_eq_ok {gateway : Option Text}
    {stored : { gateway : Option Text // ∀ address ∈ gateway, address ≠ [] }}
    (kept : storedGateway gateway = .ok stored) :
    stored.val = gateway.map fun address => trimSlashes (strip address) := by
  cases gateway with
  | none =>
      cases kept
      rfl
  | some address =>
      rw [storedGateway] at kept
      split at kept
      · cases kept
      · split at kept
        · cases kept
        · cases kept
          rfl

structure Stores (serverAddress token : Text) (useTls : Bool)
    (gatewayAddress : Option Text) (gatewayUseTls : Bool) (config : ConnectionConfig) :
    Prop where
  serverAddress : config.serverAddress = trimSlashes (strip serverAddress)
  token : config.token = strip token
  useTls : config.useTls = useTls
  gatewayAddress :
    config.gatewayAddress = gatewayAddress.map fun address => trimSlashes (strip address)
  gatewayUseTls : config.gatewayUseTls = gatewayUseTls

theorem postInit_eq_ok {serverAddress token : Text} {useTls : Bool}
    {gatewayAddress : Option Text} {gatewayUseTls verifyTls : Bool}
    {config : ConnectionConfig}
    (built : postInit serverAddress token useTls gatewayAddress gatewayUseTls verifyTls =
      .ok config) :
    Stores serverAddress token useTls gatewayAddress gatewayUseTls config := by
  rw [postInit] at built
  split at built
  · cases built
  · split at built
    · cases built
    · split at built
      · cases built
      · cases stored : storedGateway gatewayAddress with
        | error error =>
            rw [stored] at built
            cases built
        | ok gateway =>
            rw [stored] at built
            cases built
            exact ⟨rfl, rfl, rfl, storedGateway_eq_ok stored, rfl⟩

structure Snapshots (lower : Text → Text) (environ : Environ) (config : ConnectionConfig) :
    Prop where
  server : environ.text "YR_SERVER_ADDRESS" ≠ []
  token : environ.text "YR_TOKEN" ≠ [] ∧ config.token = environ.text "YR_TOKEN"
  useTls : config.useTls = connectionEnvFlag lower environ "YR_TLS" true
  gatewayUseTls :
    config.gatewayUseTls = connectionEnvFlag lower environ "YR_GATEWAY_TLS" false
  hasGateway :
    config.gatewayAddress.isSome = decide (environ.text "YR_GATEWAY_ADDRESS" ≠ [])
  address : (config.gatewayAddress.filter (· ≠ [])).getD config.serverAddress =
    trimSlashes environ.gateway

theorem connectionEnv_eq_ok {environ : Environ} {name : String} {value : Text}
    (given : connectionEnv environ name = .ok value) :
    environ.text name ≠ [] ∧ value = environ.text name := by
  rw [connectionEnv] at given
  split at given
  · cases given
  · rename_i isSet
    cases given
    exact ⟨isSet, rfl⟩

theorem fromEnv_snapshots {lower : Text → Text} {environ : Environ}
    {config : ConnectionConfig} {verifyTls : Bool}
    (built : fromEnv lower environ none none verifyTls = .ok config) :
    Snapshots lower environ config := by
  rw [fromEnv] at built
  simp only [Option.filter_none, bind, Except.bind] at built
  cases server : connectionEnv environ "YR_SERVER_ADDRESS" with
  | error error =>
      rw [server] at built
      cases built
  | ok serverAddress =>
      cases token : connectionEnv environ "YR_TOKEN" with
      | error error =>
          rw [server, token] at built
          cases built
      | ok tokenText =>
          rw [server, token] at built
          rcases connectionEnv_eq_ok server with ⟨serverSet, rfl⟩
          rcases connectionEnv_eq_ok token with ⟨tokenSet, rfl⟩
          have stores := postInit_eq_ok built
          have trimmed : ∀ name, strip (environ.text name) = environ.text name :=
            fun name => strip_strip _
          have nonempty := config.gatewayNonempty
          rw [stores.gatewayAddress] at nonempty
          refine ⟨serverSet, ⟨tokenSet, ?_⟩, stores.useTls, stores.gatewayUseTls, ?_, ?_⟩
          · rw [stores.token, trimmed]
          · rw [stores.gatewayAddress]
            by_cases unset : environ.text "YR_GATEWAY_ADDRESS" = [] <;> simp [unset]
          · rw [stores.gatewayAddress, stores.serverAddress, trimmed, Environ.gateway]
            by_cases unset : environ.text "YR_GATEWAY_ADDRESS" = []
            · simp [unset]
            · have kept := nonempty (trimSlashes (environ.text "YR_GATEWAY_ADDRESS"))
              simp only [unset, if_false, Option.map_some, trimmed] at kept ⊢
              simp [Option.filter, kept rfl]

theorem Snapshots.gateway_ne_nil {lower : Text → Text} {environ : Environ}
    {config : ConnectionConfig} (snapshots : Snapshots lower environ config) :
    environ.gateway ≠ [] := by
  rw [Environ.gateway]
  split
  · exact snapshots.server
  · assumption

theorem address_ne_nil (config : ConnectionConfig) :
    (config.gatewayAddress.filter (· ≠ [])).getD config.serverAddress ≠ [] := by
  cases given : config.gatewayAddress.filter (· ≠ []) with
  | none => exact config.serverNonempty
  | some gateway =>
      have kept := Option.filter_eq_some_iff.mp given
      simpa using kept.2

end ConnectionConfig

/-! ### Slashes and schemes -/

theorem trimSlashes_append_slashes (text : Text) {slashes : Text}
    (all : ∀ char ∈ slashes, char = '/') :
    trimSlashes (text ++ slashes) = trimSlashes text := by
  rw [trimSlashes, rstrip, trimSlashes, rstrip, List.rdropWhile, List.rdropWhile,
    List.reverse_append, List.dropWhile_append_of_pos]
  intro char member
  simpa using all char (List.mem_reverse.mp member)

theorem trimSlashes_eq_self_iff {text : Text} :
    trimSlashes text = text ↔ text.getLast? ≠ some '/' := by
  rw [trimSlashes, rstrip, List.rdropWhile_eq_self_iff]
  cases text with
  | nil => simp
  | cons char text => simp [List.getLast?_eq_some_getLast]

theorem trimSlashes_eq_nil_iff {text : Text} :
    trimSlashes text = [] ↔ ∀ char ∈ text, char = '/' := by
  rw [trimSlashes, rstrip, List.rdropWhile_eq_nil_iff]
  simp

theorem getLast?_trimSlashes (text : Text) : (trimSlashes text).getLast? ≠ some '/' := by
  rw [← trimSlashes_eq_self_iff, trimSlashes, rstrip, trimSlashes, rstrip]
  exact List.rdropWhile_idempotent _ _

theorem trimSlashes_append (text : Text) :
    ∃ slashes, text = trimSlashes text ++ slashes ∧ ∀ char ∈ slashes, char = '/' := by
  refine ⟨text.rtakeWhile (· = '/'), List.rdropWhile_append_rtakeWhile.symm, ?_⟩
  intro char member
  simpa using List.mem_rtakeWhile_imp member

theorem removePrefix_append_slashes (front text : Text) {slashes : Text}
    (all : ∀ char ∈ slashes, char = '/') :
    removePrefix front (text ++ slashes) = removePrefix front text ++ slashes ∨
      ∀ char ∈ removePrefix front (text ++ slashes), char = '/' := by
  rw [removePrefix, removePrefix]
  by_cases short : front.length ≤ text.length
  · left
    have same : front.isPrefixOf (text ++ slashes) = front.isPrefixOf text := by
      rw [Bool.eq_iff_iff, List.isPrefixOf_iff_prefix, List.isPrefixOf_iff_prefix]
      constructor
      · intro isPrefix
        exact List.prefix_of_prefix_length_le isPrefix (List.prefix_append _ _) short
      · intro isPrefix
        exact isPrefix.trans (List.prefix_append _ _)
    rw [same]
    split
    · exact List.drop_append_of_le_length short
    · rfl
  · split
    · right
      rw [List.drop_append, List.drop_eq_nil_of_le (Nat.le_of_not_le short),
        List.nil_append]
      intro char member
      exact all char (List.mem_of_mem_drop member)
    · left
      rw [if_neg]
      intro isPrefix
      exact short (List.isPrefixOf_iff_prefix.mp isPrefix).length_le

theorem getLast?_removePrefix {front text : Text} (ends : front.getLast? = some '/')
    (keeps : text.getLast? ≠ some '/') :
    (removePrefix front text).getLast? = text.getLast? := by
  rw [removePrefix]
  split
  · rename_i isPrefix
    rcases List.isPrefixOf_iff_prefix.mp isPrefix with ⟨rest, rfl⟩
    rw [List.drop_left]
    cases rest with
    | nil =>
        rw [List.append_nil] at keeps
        exact absurd ends keeps
    | cons char rest => simp [List.getLast?_append, List.getLast?_cons]
  · rfl

theorem unschemed_append_slashes (text : Text) {slashes : Text}
    (all : ∀ char ∈ slashes, char = '/') :
    unschemed (text ++ slashes) = unschemed text ++ slashes ∨
      ∀ char ∈ unschemed (text ++ slashes), char = '/' := by
  rw [unschemed, unschemed]
  rcases removePrefix_append_slashes "https://".toList text all with same | lost
  · rw [same]
    exact removePrefix_append_slashes _ _ all
  · right
    intro char member
    apply lost char
    rw [removePrefix] at member
    split at member
    · exact List.mem_of_mem_drop member
    · exact member

theorem trimmed_unschemed_iff {address : Text} (given : trimSlashes address ≠ []) :
    trimSlashes (unschemed address) = trimSlashes (unschemed (trimSlashes address)) ↔
      trimSlashes (unschemed address) ≠ [] := by
  have last : (unschemed (trimSlashes address)).getLast? =
      (trimSlashes address).getLast? := by
    have keeps := getLast?_trimSlashes address
    have first : (removePrefix "https://".toList (trimSlashes address)).getLast? =
        (trimSlashes address).getLast? := getLast?_removePrefix rfl keeps
    rw [unschemed, getLast?_removePrefix rfl (first ▸ keeps), first]
  have kept : trimSlashes (unschemed (trimSlashes address)) ≠ [] := by
    rw [trimSlashes_eq_self_iff.mpr (last ▸ getLast?_trimSlashes address)]
    intro none
    rw [none] at last
    exact given (List.getLast?_eq_none_iff.mp last.symm)
  constructor
  · intro same
    rw [same]
    exact kept
  · intro remains
    rcases trimSlashes_append address with ⟨slashes, whole, all⟩
    rcases unschemed_append_slashes (trimSlashes address) all with same | lost
    · rw [← whole] at same
      rw [same, trimSlashes_append_slashes _ all]
    · rw [← whole] at lost
      exact absurd (trimSlashes_eq_nil_iff.mpr lost) remains

/-! ### The three URLs -/

inductive UrlKind
  | tunnel (path : Option Text)
  | port (port : Int)
  | pty (arguments : List Text) (rows cols : Nat)
deriving DecidableEq, Repr

section

variable (lower : Text → Text) (checks : HostChecks) (environ : Environ)

def Agree (left right : Sandbox) : UrlKind → Prop
  | .tunnel path =>
      left.tunnel lower checks environ path = right.tunnel lower checks environ path
  | .port port => left.getPortUrl lower environ port = right.getPortUrl lower environ port
  | .pty arguments rows cols =>
      left.ptyUri lower environ arguments rows cols =
        right.ptyUri lower environ arguments rows cols

/-- The address of the gateway has no slash at its end; a tunnel needs a setting of
`YR_GATEWAY_TLS` that is one of the six words, the URL of a port a gateway of its own or
the same TLS for gateway and frontend. For a PTY it is enough that there is a host. -/
def Settled (sandboxId : Text) (forwardedPorts : List Int) : UrlKind → Prop
  | .tunnel path =>
      (gatewayRoute checks (tunnelPath sandboxId path)).isOk = true →
        environ.gateway.getLast? ≠ some '/' ∧
          flagWord lower environ "YR_GATEWAY_TLS" "0" ∈ truthyWords ++ falsyWords
  | .port port =>
      port ∈ forwardedPorts →
        environ.gateway.getLast? ≠ some '/' ∧
          (environ.text "YR_GATEWAY_ADDRESS" ≠ [] ∨
            connectionEnvFlag lower environ "YR_TLS" true =
              connectionEnvFlag lower environ "YR_GATEWAY_TLS" false)
  | .pty _ _ _ => trimSlashes (unschemed environ.gateway) ≠ []

end

section

variable {lower : Text → Text} {checks : HostChecks} {environ : Environ}
    {config : ConnectionConfig} {sandboxId : Text} {forwardedPorts : List Int}

theorem gatewayAddress_none
    (snapshots : ConnectionConfig.Snapshots lower environ config) :
    gatewayAddress environ none = .ok environ.gateway := by
  have given := snapshots.gateway_ne_nil
  rw [Environ.gateway] at given ⊢
  rw [gatewayAddress]
  exact if_neg given

theorem gatewayAddress_some
    (snapshots : ConnectionConfig.Snapshots lower environ config) :
    gatewayAddress environ (some config) = .ok (trimSlashes environ.gateway) := by
  rw [gatewayAddress, snapshots.address]

theorem gatewayUsesTls_eq_iff
    (snapshots : ConnectionConfig.Snapshots lower environ config) :
    gatewayUsesTls lower environ none = gatewayUsesTls lower environ (some config) ↔
      flagWord lower environ "YR_GATEWAY_TLS" "0" ∈ truthyWords ++ falsyWords := by
  have disjoint : ∀ word ∈ truthyWords, word ∉ falsyWords := by decide
  rw [gatewayUsesTls, gatewayUsesTls, snapshots.gatewayUseTls, connectionEnvFlag,
    if_neg Bool.false_ne_true, Bool.eq_iff_iff, Bool.not_eq_true', ← Bool.not_eq_true,
    List.contains_iff_mem, List.contains_iff_mem, List.mem_append]
  constructor
  · intro same
    by_cases falsy : flagWord lower environ "YR_GATEWAY_TLS" "0" ∈ falsyWords
    · exact .inr falsy
    · exact .inl (same.mpr falsy)
  · rintro (truthy | falsy)
    · exact ⟨fun _ => disjoint _ truthy, fun _ => truthy⟩
    · exact ⟨fun truthy => absurd falsy (disjoint _ truthy), absurd falsy⟩

theorem agree_tunnel_iff (snapshots : ConnectionConfig.Snapshots lower environ config)
    (path : Option Text) :
    Agree lower checks environ ⟨none, config, sandboxId, forwardedPorts⟩
        ⟨some config, config, sandboxId, forwardedPorts⟩ (.tunnel path) ↔
      Settled lower checks environ sandboxId forwardedPorts (.tunnel path) := by
  have trimmed : trimSlashes environ.gateway ≠ [] :=
    snapshots.address ▸ config.address_ne_nil
  rw [Agree, Sandbox.tunnel, Sandbox.tunnel]
  simp only [gatewayAddress_none snapshots, gatewayAddress_some snapshots,
    composeGatewayUrl, bind, Except.bind, if_neg snapshots.gateway_ne_nil, if_neg trimmed]
  cases route : gatewayRoute checks (tunnelPath sandboxId path) with
  | error error =>
      apply iff_of_true rfl
      rw [Settled, route]
      exact nofun
  | ok route =>
      have settled :
          Settled lower checks environ sandboxId forwardedPorts (.tunnel path) ↔
          environ.gateway.getLast? ≠ some '/' ∧
            flagWord lower environ "YR_GATEWAY_TLS" "0" ∈ truthyWords ++ falsyWords := by
        rw [Settled, route]
        exact forall_prop_of_true rfl
      rw [settled, ← trimSlashes_eq_self_iff, ← gatewayUsesTls_eq_iff snapshots]
      simp only [Except.map, pure, Except.pure, Except.ok.injEq, Prod.mk.injEq]
      constructor
      · rintro ⟨sameUrl, sameToken⟩
        have sameTls : gatewayUsesTls lower environ none =
            gatewayUsesTls lower environ (some config) := by
          cases bare : gatewayUsesTls lower environ none <;>
            cases configured : gatewayUsesTls lower environ (some config) <;>
            simp [bare, configured] at sameToken ⊢
        rw [sameTls] at sameUrl
        have sameAddress := List.append_cancel_right sameUrl
        exact ⟨(List.append_cancel_left sameAddress).symm, sameTls⟩
      · rintro ⟨sameAddress, sameTls⟩
        rw [sameAddress, sameTls]
        exact ⟨rfl, rfl⟩

theorem httpUrl_inj {tls other : Bool} {left right : Text} :
    (if tls then "https".toList else "http".toList) ++ "://".toList ++ left =
        (if other then "https".toList else "http".toList) ++ "://".toList ++ right ↔
      left = right ∧ tls = other := by
  cases tls <;> cases other <;> simp

theorem agree_port_iff (snapshots : ConnectionConfig.Snapshots lower environ config)
    (port : Int) :
    Agree lower checks environ ⟨none, config, sandboxId, forwardedPorts⟩
        ⟨some config, config, sandboxId, forwardedPorts⟩ (.port port) ↔
      Settled lower checks environ sandboxId forwardedPorts (.port port) := by
  rw [Agree, Sandbox.getPortUrl, Sandbox.getPortUrl, Settled]
  by_cases forwarded : port ∈ forwardedPorts
  · simp only [gatewayAddress_none snapshots, gatewayAddress_some snapshots, forwarded,
      bind, Except.bind, pure, Except.pure, not_true_eq_false, if_false,
      Option.isSome_none, Option.isSome_some, Bool.false_eq_true, if_true, forall_const,
      Except.ok.injEq]
    have cancelled : ∀ left right rest : Text,
        left ++ rest = right ++ rest ↔ left = right :=
      fun left right rest => List.append_left_inj rest
    rw [cancelled, cancelled, httpUrl_inj, eq_comm, trimSlashes_eq_self_iff,
      gatewayUsesTls, snapshots.gatewayUseTls]
    apply and_congr_right'
    by_cases unset : environ.text "YR_GATEWAY_ADDRESS" = []
    · simp only [unset, ne_eq, not_true_eq_false, if_false, false_or]
      exact Iff.rfl
    · simp only [unset, ne_eq, not_false_eq_true, if_true, true_or, iff_true]
      rfl
  · apply iff_of_true
    · simp only [forwarded, not_false_eq_true, if_true]
      rfl
    · exact fun given => absurd given forwarded

theorem ptyUsesTls_eq (snapshots : ConnectionConfig.Snapshots lower environ config) :
    ptyUsesTls lower environ none = ptyUsesTls lower environ (some config) := by
  rw [ptyUsesTls, ptyUsesTls, snapshots.hasGateway, snapshots.gatewayUseTls,
    snapshots.useTls, connectionEnvFlag, connectionEnvFlag]
  by_cases unset : environ.text "YR_GATEWAY_ADDRESS" = [] <;> simp [unset]

theorem agree_pty_iff (snapshots : ConnectionConfig.Snapshots lower environ config)
    (arguments : List Text) (rows cols : Nat) :
    Agree lower checks environ ⟨none, config, sandboxId, forwardedPorts⟩
        ⟨some config, config, sandboxId, forwardedPorts⟩ (.pty arguments rows cols) ↔
      Settled lower checks environ sandboxId forwardedPorts
        (.pty arguments rows cols) := by
  have trimmed : trimSlashes environ.gateway ≠ [] :=
    snapshots.address ▸ config.address_ne_nil
  have given := snapshots.gateway_ne_nil
  rw [Environ.gateway] at given
  rw [Agree, Sandbox.ptyUri, Sandbox.ptyUri, Settled]
  simp only [bind, Except.bind, pure, Except.pure, if_neg snapshots.token.1, if_neg given,
    snapshots.address, snapshots.token.2, Except.ok.injEq, ptyUsesTls_eq snapshots]
  rw [← Environ.gateway, ← trimmed_unschemed_iff trimmed]
  constructor
  · intro same
    have sameHost := List.append_cancel_right (List.append_cancel_right same)
    exact List.append_cancel_left sameHost
  · intro same
    rw [buildPtyUri, buildPtyUri, same]

/-- In an environment that makes a connection, a sandbox without a connection and one with
that of the environment agree on a URL if and only if the settings for it are. -/
theorem agree_iff {left right : Sandbox}
    (made : ConnectionConfig.fromEnv lower environ none none false = .ok config)
    (bare : Sandbox.create lower environ none sandboxId forwardedPorts = .ok left)
    (configured :
      Sandbox.create lower environ (some config) sandboxId forwardedPorts = .ok right)
    (kind : UrlKind) :
    Agree lower checks environ left right kind ↔
      Settled lower checks environ sandboxId forwardedPorts kind := by
  have snapshots := ConnectionConfig.fromEnv_snapshots made
  rw [Sandbox.create, made] at bare
  cases bare
  cases configured
  cases kind with
  | tunnel path => exact agree_tunnel_iff snapshots path
  | port port => exact agree_port_iff snapshots port
  | pty arguments rows cols => exact agree_pty_iff snapshots arguments rows cols

end

def noChecks : HostChecks := ⟨id, fun _ => .ok ()⟩

def frontendOnly : Environ
  | "YR_SERVER_ADDRESS" => some "frontend:8888".toList
  | "YR_TOKEN" => some "secret".toList
  | _ => none

def frontendConfig : ConnectionConfig where
  serverAddress := "frontend:8888".toList
  token := "secret".toList
  useTls := true
  gatewayAddress := none
  gatewayUseTls := false
  verifyTls := false
  serverNonempty := by decide
  tokenNonempty := by decide
  gatewayNonempty := nofun

theorem agree_iff_frontendOnly :
    Agree asciiLower noChecks frontendOnly
      ⟨none, frontendConfig, "sandbox-1".toList, [8080]⟩
      ⟨some frontendConfig, frontendConfig, "sandbox-1".toList, [8080]⟩
      (.pty ["/bin/bash".toList] 24 80) := by
  have settled : Settled asciiLower noChecks frontendOnly "sandbox-1".toList [8080]
      (.pty ["/bin/bash".toList] 24 80) := by
    rw [Settled]
    decide
  exact (agree_iff (by rfl) (by rfl) (by rfl) _).mpr settled

/-- Without a gateway, the URL of a port takes its scheme from `YR_TLS` for a sandbox
without a connection, and from `YR_GATEWAY_TLS` for one with a connection. -/
theorem port_scheme_disagrees :
    ¬∀ (lower : Text → Text) (checks : HostChecks) (environ : Environ)
        (config : ConnectionConfig) (sandboxId : Text) (forwardedPorts : List Int)
        (left right : Sandbox),
      ConnectionConfig.fromEnv lower environ none none false = .ok config →
      Sandbox.create lower environ none sandboxId forwardedPorts = .ok left →
      Sandbox.create lower environ (some config) sandboxId forwardedPorts = .ok right →
      ∀ kind, Agree lower checks environ left right kind := by
  intro claim
  have agrees := claim asciiLower noChecks frontendOnly frontendConfig "sandbox-1".toList
    [8080] _ _ (by rfl) (by rfl) (by rfl) (.port 8080)
  have made : ConnectionConfig.fromEnv asciiLower frontendOnly none none false =
    .ok frontendConfig := by rfl
  have settled := (agree_port_iff (ConnectionConfig.fromEnv_snapshots made) 8080).mp agrees
    (by decide)
  revert settled
  decide

end YrSandbox
