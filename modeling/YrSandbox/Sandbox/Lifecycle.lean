import YrSandbox.Sandbox.Handle

/-! # The life of a handle

However the parties answer and whatever is called in which order: the sandbox is deleted at
most once, the client is closed once, and nothing but `get_info` asks for anything behind
that. -/

namespace YrSandbox.Lifecycle

open Python

variable (world : World) (builtins : Builtins) (options : Options) {handle next : Handle}

/-- From one handle to the other, `asked` was asked and nothing else has changed. -/
structure Asked (handle next : Handle) (asked : List Action) : Prop where
  log : next.log = handle.log ++ asked
  sandboxId : next.sandboxId = handle.sandboxId
  hasTunnel : next.hasTunnel = handle.hasTunnel
  checkpointDepth : next.checkpointDepth = handle.checkpointDepth
  closed : next.closed = handle.closed

theorem Asked.refl (handle : Handle) : Asked handle handle [] :=
  ⟨(List.append_nil _).symm, rfl, rfl, rfl, rfl⟩

theorem Asked.trans {last : Handle} {first second : List Action}
    (before : Asked handle next first) (behind : Asked next last second) :
    Asked handle last (first ++ second) where
  log := by rw [behind.log, before.log, List.append_assoc]
  sandboxId := behind.sandboxId.trans before.sandboxId
  hasTunnel := behind.hasTunnel.trans before.hasTunnel
  checkpointDepth := behind.checkpointDepth.trans before.checkpointDepth
  closed := behind.closed.trans before.closed

theorem perform_asked (world : World) (action : Action) (handle : Handle) :
    Asked handle (perform world action handle).2 [action] :=
  ⟨rfl, rfl, rfl, rfl, rfl⟩

def Requested (handle next : Handle) (operations : List Operation) : Prop :=
  Asked handle next (operations.map (Action.request · handle.sandboxId))

theorem request_requested (world : World) (operation : Operation) (handle : Handle) :
    Requested handle (request world operation handle).2 [operation] :=
  perform_asked world _ handle

theorem checkOpen_ok (accepted : checkOpen handle = .ok ()) : handle.closed = false := by
  rw [checkOpen] at accepted
  split at accepted
  · cases accepted
  · rename_i opens
    exact Bool.eq_false_iff.mpr opens

/-! ## Methods that do not close -/

theorem exchange_requested (world : World) (checked : Except ApiError Unit)
    (operation : Operation) (read : Dict → Except ApiError Value) (handle : Handle) :
    ∃ operations, Requested handle (exchange world checked operation read handle).2
        operations ∧
      ∀ other ∈ operations, other = operation ∧ checked = .ok () := by
  cases checked with
  | error error => exact ⟨[], .refl _, nofun⟩
  | ok _ =>
      refine ⟨[operation], request_requested world operation handle, ?_⟩
      intro other member
      exact ⟨List.mem_singleton.mp member, rfl⟩

theorem pollEntrypoint_requested (rounds : Nat) (handle : Handle) :
    ∃ operations, Requested handle (pollEntrypoint world builtins rounds handle).2
        operations ∧ ∀ operation ∈ operations, operation = .pollEntrypoint := by
  induction rounds generalizing handle with
  | zero => exact ⟨[], .refl _, nofun⟩
  | succ rounds induction =>
      have polled := request_requested world .pollEntrypoint handle
      rw [pollEntrypoint]
      split
      · rename_i error later answered
        rw [answered] at polled
        exact ⟨[.pollEntrypoint], polled, by simp⟩
      · rename_i result later answered
        rw [answered] at polled
        split
        · rcases induction later with ⟨operations, rest, polls⟩
          rw [Requested, polled.sandboxId] at rest
          refine ⟨.pollEntrypoint :: operations, polled.trans rest, ?_⟩
          intro operation member
          rcases List.mem_cons.mp member with first | further
          · exact first
          · exact polls operation further
        · exact ⟨[.pollEntrypoint], ⟨polled.1, polled.2, polled.3, polled.4, polled.5⟩,
            by simp⟩
        · exact ⟨[.pollEntrypoint], polled, by simp⟩
        · exact ⟨[.pollEntrypoint], polled, by simp⟩

theorem createSnapshot_requested (name : Option Text) (timeoutSeconds : Int)
    (handle : Handle) :
    ∃ operations, Requested handle
        (createSnapshot world builtins name timeoutSeconds handle).2 operations ∧
      ∀ operation ∈ operations,
        operation = .createSnapshot (name.map strip) timeoutSeconds ∧
          handle.closed = false := by
  have opens {checked : Except ApiError Unit} (accepted :
      (do checkOpen handle; checked) = Except.ok ()) : handle.closed = false := by
    cases isClosed : handle.closed with
    | false => rfl
    | true => simp [checkOpen, isClosed, bind, Except.bind] at accepted
  rw [createSnapshot]
  split
  · rcases exchange_requested world _ _ _
      { handle with checkpointDepth := handle.checkpointDepth + 1 } with
      ⟨operations, requested, only⟩
    refine ⟨operations, ⟨requested.1, requested.2, requested.3, ?_, requested.5⟩, ?_⟩
    · exact congrArg (· - 1) requested.checkpointDepth
    · intro operation member
      rcases only operation member with ⟨same, accepted⟩
      exact ⟨same, opens accepted⟩
  · rcases exchange_requested world _ _ _ handle with ⟨operations, requested, only⟩
    refine ⟨operations, requested, ?_⟩
    intro operation member
    rcases only operation member with ⟨same, accepted⟩
    exact ⟨same, opens accepted⟩

theorem pause_opens {ttlSeconds timeoutSeconds : Int}
    (accepted : (do
      if ttlSeconds ≤ 0 then
        throw (.valueError "ttl_seconds must be a positive integer".toList)
      checkTimeout timeoutSeconds
      checkOpen handle : Except ApiError Unit) = .ok ()) : handle.closed = false := by
  cases isClosed : handle.closed with
  | false => rfl
  | true =>
      by_cases positive : ttlSeconds ≤ 0
      · simp [positive, bind, Except.bind, throw, throwThe, MonadExceptOf.throw] at accepted
      · cases checked : checkTimeout timeoutSeconds <;>
          simp [positive, checked, checkOpen, isClosed, bind, Except.bind] at accepted

def Operation.Allowed (closed : Bool) : Operation → Prop
  | .delete => False
  | .instanceInfo => True
  | _ => closed = false

theorem call_requested {next : Call} (stays : next.closes = false) (handle : Handle) :
    ∃ operations, Requested handle (call world builtins options handle next).2 operations ∧
      ∀ operation ∈ operations, operation.Allowed handle.closed := by
  cases next with
  | close => cases stays
  | kill => cases stays
  | isRunning =>
      rw [call, Prod.map_snd, isRunning]
      split
      · exact ⟨[], .refl _, nofun⟩
      · have requested := request_requested world .instanceInfo handle
        refine ⟨[.instanceInfo], ?_, by simp [Operation.Allowed]⟩
        split <;> rename_i answered <;> rw [answered] at requested <;> exact requested
  | getInfo =>
      refine ⟨[.instanceInfo], request_requested world .instanceInfo handle, ?_⟩
      simp [Operation.Allowed]
  | createSnapshot name timeoutSeconds =>
      rcases createSnapshot_requested world builtins name
        timeoutSeconds handle with ⟨operations, requested, only⟩
      refine ⟨operations, requested, ?_⟩
      intro operation member
      rcases only operation member with ⟨rfl, opens⟩
      exact opens
  | pause ttlSeconds timeoutSeconds =>
      rcases exchange_requested world _ (.pause ttlSeconds timeoutSeconds)
        (pauseResult builtins handle.sandboxId) handle with ⟨operations, requested, only⟩
      refine ⟨operations, requested, ?_⟩
      intro operation member
      rcases only operation member with ⟨rfl, accepted⟩
      exact pause_opens accepted
  | resume =>
      rcases exchange_requested world (checkOpen handle) .resume
        (resumeResult builtins handle.sandboxId) handle with ⟨operations, requested, only⟩
      refine ⟨operations, requested, ?_⟩
      intro operation member
      rcases only operation member with ⟨rfl, accepted⟩
      exact checkOpen_ok accepted
  | reload =>
      rw [call, Prod.map_snd, reload]
      split
      · exact ⟨[], .refl _, nofun⟩
      · rename_i opens
        have requested := request_requested world .reload handle
        refine ⟨[.reload], ?_, by simp [Operation.Allowed, opens]⟩
        split <;> rename_i answered <;> rw [answered] at requested <;> exact requested
  | updateNetworkPolicy policy =>
      rcases exchange_requested world (checkOpen handle) (.network policy) _ handle with
        ⟨operations, requested, only⟩
      refine ⟨operations, requested, ?_⟩
      intro operation member
      rcases only operation member with ⟨rfl, accepted⟩
      exact checkOpen_ok accepted
  | waitEntrypoint rounds =>
      rw [call, waitEntrypoint]
      split
      · exact ⟨[], .refl _, nofun⟩
      · split
        · exact ⟨[], .refl _, nofun⟩
        · rename_i opens
          rcases pollEntrypoint_requested world builtins rounds
            handle with ⟨operations, requested, only⟩
          refine ⟨operations, requested, ?_⟩
          intro operation member
          rw [only operation member]
          exact Bool.eq_false_iff.mpr opens

/-! ## Closing -/

def teardown (options : Options) (handle : Handle) (deletes : Bool) : List Action :=
  (if handle.hasTunnel then [.stopTunnel] else []) ++ [.closeShells, .closePty] ++
    (if deletes && !options.detached then [.request .delete handle.sandboxId] else []) ++
    [.closeClient]

structure Closed (handle next : Handle) (asked : List Action) : Prop where
  log : next.log = handle.log ++ asked
  sandboxId : next.sandboxId = handle.sandboxId
  hasTunnel : next.hasTunnel = false
  checkpointDepth : next.checkpointDepth = handle.checkpointDepth
  closed : next.closed = true

theorem Closed.later {last : Handle} {first second : List Action}
    (before : Closed handle next first) (behind : Asked next last second) :
    Closed handle last (first ++ second) where
  log := by rw [behind.log, before.log, List.append_assoc]
  sandboxId := behind.sandboxId.trans before.sandboxId
  hasTunnel := behind.hasTunnel.trans before.hasTunnel
  checkpointDepth := behind.checkpointDepth.trans before.checkpointDepth
  closed := behind.closed.trans before.closed

theorem releaseTunnel_closed (isClosed : handle.closed = true) :
    Closed handle (releaseTunnel world handle)
      (if handle.hasTunnel then [.stopTunnel] else []) := by
  rw [releaseTunnel]
  split
  · exact ⟨rfl, rfl, rfl, rfl, isClosed⟩
  · rename_i without
    exact ⟨(List.append_nil _).symm, rfl, Bool.eq_false_iff.mpr without, rfl, isClosed⟩

def quiet (world : World) (handle : Handle) : Handle :=
  attempt world .closePty
    (attempt world .closeShells (releaseTunnel world { handle with closed := true }))

theorem quiet_closed (world : World) (handle : Handle) :
    Closed handle (quiet world handle)
      ((if handle.hasTunnel then [.stopTunnel] else []) ++ [.closeShells] ++ [.closePty]) := by
  have released : Closed { handle with closed := true } _ _ := releaseTunnel_closed world rfl
  have shells := released.later (perform_asked world .closeShells _)
  have terminals := shells.later (perform_asked world .closePty _)
  exact ⟨terminals.1, terminals.2, terminals.3, terminals.4, terminals.5⟩

theorem close_snd (opens : handle.closed = false) (detached deletes : Bool) :
    (close world detached deletes handle).2 =
      attempt world .closeClient
        (if deletes && !detached then
          attempt world (.request .delete (quiet world handle).sandboxId) (quiet world handle)
        else quiet world handle) := by
  rw [close, if_neg (by simp [opens])]
  by_cases remote : (deletes && !detached) = true
  · simp only [remote, if_true]
    split <;> rename_i answered <;> exact (congrArg Prod.snd answered).symm
  · simp only [remote]
    split <;> rename_i answered <;> exact (congrArg Prod.snd answered).symm

theorem close_closed (opens : handle.closed = false) (deletes : Bool) :
    Closed handle (close world options.detached deletes handle).2
      (teardown options handle deletes) := by
  have whole := quiet_closed world handle
  rw [close_snd world opens, teardown]
  split
  · have deleted := whole.later
      (perform_asked world (.request .delete (quiet world handle).sandboxId) _)
    have released := deleted.later (perform_asked world .closeClient _)
    rw [whole.sandboxId] at released
    simpa [attempt, whole.sandboxId] using released
  · have released := whole.later (perform_asked world .closeClient _)
    simpa [attempt] using released

/-! ## Any calls -/

def Call.deletes : Call → Bool
  | .kill => true
  | _ => false

theorem call_closed {next : Call} (closes : next.closes = true)
    (opens : handle.closed = false) :
    Closed handle (call world builtins options handle next).2
      (teardown options handle next.deletes) := by
  cases next with
  | close => exact close_closed world options opens false
  | kill => exact close_closed world options opens true
  | isRunning => cases closes
  | getInfo => cases closes
  | createSnapshot name timeoutSeconds => cases closes
  | pause ttlSeconds timeoutSeconds => cases closes
  | resume => cases closes
  | reload => cases closes
  | updateNetworkPolicy policy => cases closes
  | waitEntrypoint rounds => cases closes

theorem call_of_closed (isClosed : handle.closed = true) (next : Call) :
    ∃ operations, Requested handle (call world builtins options handle next).2 operations ∧
      ∀ operation ∈ operations, operation = .instanceInfo := by
  cases closes : next.closes with
  | true =>
      have same : (call world builtins options handle next).2 = handle := by
        cases next with
        | close => simp [call, close, isClosed]
        | kill => simp [call, close, isClosed]
        | _ => cases closes
      rw [same]
      exact ⟨[], .refl _, nofun⟩
  | false =>
      rcases call_requested world builtins options
        closes handle with ⟨operations, requested, allowed⟩
      refine ⟨operations, requested, ?_⟩
      intro operation member
      have isAllowed := allowed operation member
      rw [isClosed] at isAllowed
      cases operation with
      | instanceInfo => rfl
      | delete => exact isAllowed.elim
      | _ => cases isAllowed

theorem calls_of_closed (isClosed : handle.closed = true) (later : List Call) :
    ∃ operations, Requested handle (calls world builtins options handle later) operations ∧
      ∀ operation ∈ operations, operation = .instanceInfo := by
  induction later generalizing handle with
  | nil => exact ⟨[], .refl _, nofun⟩
  | cons next later induction =>
      rcases call_of_closed world builtins options
        isClosed next with ⟨first, requested, onlyFirst⟩
      rcases induction (requested.closed.trans isClosed) with ⟨second, rest, onlyRest⟩
      rw [Requested, requested.sandboxId] at rest
      refine ⟨first ++ second, ?_, ?_⟩
      · rw [Requested, List.map_append]
        exact requested.trans rest
      · intro operation member
        rcases List.mem_append.mp member with isFirst | isRest
        · exact onlyFirst operation isFirst
        · exact onlyRest operation isRest

/-- What an open handle asks for in any calls: requests, what closes it if a call does, and
`get_info` behind that. -/
structure Lived (options : Options) (handle final : Handle) (closing : Option Call)
    (operations late : List Operation) : Prop where
  log : final.log = handle.log ++
    (operations.map (Action.request · handle.sandboxId) ++
      ((closing.map fun call => teardown options handle call.deletes).getD [] ++
        late.map (Action.request · handle.sandboxId)))
  sandboxId : final.sandboxId = handle.sandboxId
  checkpointDepth : final.checkpointDepth = handle.checkpointDepth
  closed : final.closed = closing.isSome
  kept : ∀ operation ∈ operations, operation ≠ .delete
  late : ∀ operation ∈ late, closing.isSome = true ∧ operation = .instanceInfo

theorem calls_lived (opens : handle.closed = false) (list : List Call) :
    ∃ operations late, Lived options handle (calls world builtins options handle list)
      (list.find? Call.closes) operations late := by
  induction list generalizing handle with
  | nil =>
      exact ⟨[], [], (List.append_nil _).symm, rfl, rfl, opens, nofun, nofun⟩
  | cons next list induction =>
      rw [List.find?_cons]
      cases closes : next.closes with
      | true =>
          have torn := call_closed world builtins
            options closes opens
          rcases calls_of_closed world builtins
            options torn.closed list with ⟨late, requested, only⟩
          rw [Requested, torn.sandboxId] at requested
          have whole := torn.later requested
          exact ⟨[], late, whole.log, whole.sandboxId, whole.checkpointDepth, whole.closed,
            nofun, fun operation member => ⟨rfl, only operation member⟩⟩
      | false =>
          rcases call_requested world builtins
            options closes handle with ⟨first, requested, allowed⟩
          rcases induction (requested.closed.trans opens) with ⟨operations, late, rest⟩
          refine ⟨first ++ operations, late, ?_, ?_, ?_, rest.closed, ?_, rest.late⟩
          · have same (closing : Call) :
                teardown options (call world builtins options handle next).2
                  closing.deletes = teardown options handle closing.deletes := by
              rw [teardown, teardown, requested.hasTunnel, requested.sandboxId]
            refine rest.log.trans ?_
            rw [requested.log, requested.sandboxId, List.map_append]
            simp only [same, List.append_assoc]
          · exact rest.sandboxId.trans requested.sandboxId
          · exact rest.checkpointDepth.trans requested.checkpointDepth
          · intro operation member
            rcases List.mem_append.mp member with isFirst | isRest
            · rintro rfl
              exact allowed _ isFirst
            · exact rest.kept operation isRest

/-! ## The constructor -/

/-- What the constructor can have done about its tunnel, and whether it has one then. -/
inductive Opened : List Action → Bool → Prop
  | untouched : Opened [] false
  | refused (upstream : Text) (token : Option Text) :
      Opened [.newTunnel upstream token] false
  | started (upstream : Text) (token : Option Text) (url : Text) :
      Opened [.newTunnel upstream token, .startTunnel url] true
  | stopped (upstream : Text) (token : Option Text) (url : Text) (hasTunnel : Bool) :
      Opened [.newTunnel upstream token, .startTunnel url, .stopTunnel] hasTunnel

/-- The id in the answer to `create`, if that has one. -/
def namedId (world : World) (builtins : Builtins) : Text :=
  match world.answer [] .create with
  | .error _ => []
  | .ok info =>
      match createdId builtins info with
      | .error _ => []
      | .ok sandboxId => sandboxId

/-- The handle behind the `try` of the constructor. -/
structure Tried (sandboxId : Text) (handle : Handle) (opened : List Action) : Prop where
  log : handle.log = .create :: opened
  sandboxId : handle.sandboxId = sandboxId
  opened : Opened opened handle.hasTunnel
  checkpointDepth : handle.checkpointDepth = 0
  closed : handle.closed = false

section

variable (lower : Text → Text) (checks : HostChecks) (environ : Environ)

theorem startTunnel_tried {sandboxId : Text} (upstream : Text) (token : Option Text)
    (url : Text)
    (made : handle.log = .create :: [.newTunnel upstream token] ∧
      handle.sandboxId = sandboxId ∧ handle.checkpointDepth = 0 ∧ handle.closed = false) :
    ∃ opened, Tried sandboxId
      (startTunnel world options url { handle with hasTunnel := true }).2 opened := by
  rcases handle with ⟨own, hasTunnel, depth, closed, exitInfo, log⟩
  rcases made with ⟨rfl, rfl, rfl, rfl⟩
  rw [startTunnel, perform]
  cases world.answer _ (.startTunnel url) with
  | error error => exact ⟨_, rfl, rfl, .started upstream token url, rfl, rfl⟩
  | ok started =>
      dsimp only
      split
      · exact ⟨_, rfl, rfl, .started upstream token url, rfl, rfl⟩
      · rw [perform]
        cases world.answer _ .stopTunnel with
        | error error => exact ⟨_, rfl, rfl, .stopped upstream token url true, rfl, rfl⟩
        | ok stopped => exact ⟨_, rfl, rfl, .stopped upstream token url false, rfl, rfl⟩

theorem openTunnel_tried {sandboxId upstream : Text} {info : Dict}
    (tried : Tried sandboxId handle []) (without : handle.hasTunnel = false) :
    ∃ opened, Tried sandboxId
      (openTunnel world lower checks environ options upstream info handle).2 opened := by
  rw [openTunnel]
  split
  · exact ⟨[], tried⟩
  · rename_i url token _
    have made : (perform world (.newTunnel upstream token) handle).2.log =
        .create :: [.newTunnel upstream token] := by
      rw [(perform_asked world _ handle).log, tried.log]
      rfl
    split <;> rename_i later answered <;> rw [answered] at made
    · have same := perform_asked world (.newTunnel upstream token) handle
      rw [answered] at same
      refine ⟨_, made, same.sandboxId.trans tried.sandboxId, ?_,
        same.checkpointDepth.trans tried.checkpointDepth, same.closed.trans tried.closed⟩
      rw [same.hasTunnel, without]
      exact .refused upstream token
    · have same := perform_asked world (.newTunnel upstream token) handle
      rw [answered] at same
      exact startTunnel_tried world options upstream token url ⟨made,
        same.sandboxId.trans tried.sandboxId,
        same.checkpointDepth.trans tried.checkpointDepth, same.closed.trans tried.closed⟩

theorem construct_tried :
    ∃ opened, Tried (namedId world builtins)
      (construct world lower checks environ builtins options fresh).2 opened := by
  rw [construct, perform]
  cases answered : world.answer fresh.log .create with
  | error error =>
      have unnamed : namedId world builtins = [] := by
        rw [namedId, show world.answer [] .create = .error error from answered]
      rw [unnamed]
      exact ⟨[], rfl, rfl, .untouched, rfl, rfl⟩
  | ok info =>
      have named : namedId world builtins =
          match createdId builtins info with
          | .error _ => []
          | .ok sandboxId => sandboxId := by
        rw [namedId, show world.answer [] .create = .ok info from answered]
      rw [named]
      dsimp only
      cases createdId builtins info with
      | error error => exact ⟨[], rfl, rfl, .untouched, rfl, rfl⟩
      | ok sandboxId =>
          dsimp only
          cases options.upstream with
          | none => exact ⟨[], rfl, rfl, .untouched, rfl, rfl⟩
          | some upstream =>
              apply openTunnel_tried
              · exact ⟨rfl, rfl, .untouched, rfl, rfl⟩
              · rfl

end

/-! ## Everything that is asked -/

def Action.deletes : Action → Bool
  | .request .delete _ => true
  | _ => false

def Action.ofTunnel : Action → Bool
  | .newTunnel _ _ | .startTunnel _ | .stopTunnel => true
  | _ => false

/-- What was asked for a handle from its constructor on: one sandbox is created, every
request is about it, and it is deleted at most once. A handle is closed with its client,
a tunnel that was started is stopped then, and only `get_info` asks for more. -/
structure Ledger (sandboxId : Text) (closed deleted : Bool) (log : List Action) : Prop where
  created : ∃ rest, log = .create :: rest ∧ ∀ action ∈ rest, action ≠ .create
  own : ∀ operation other, .request operation other ∈ log → other = sandboxId
  deletes : log.filter Action.deletes =
    if deleted then [.request .delete sandboxId] else []
  tunnel : closed = true → ∀ url, .startTunnel url ∈ log → .stopTunnel ∈ log
  opens : closed = false → ∀ action ∈ log, action ≠ .closeClient
  closes : closed = true → ∃ before late, log = before ++ .closeClient :: late ∧
    (∀ action ∈ before, action ≠ .closeClient) ∧
    ∀ action ∈ late, action = .request .instanceInfo sandboxId

theorem Opened.ofTunnel {opened : List Action} {hasTunnel : Bool}
    (isOpened : Opened opened hasTunnel) : ∀ action ∈ opened, action.ofTunnel = true := by
  cases isOpened <;> simp [Action.ofTunnel]

theorem Opened.stop_mem {opened : List Action} {hasTunnel : Bool}
    (isOpened : Opened opened hasTunnel) (without : hasTunnel = false) {url : Text}
    (started : .startTunnel url ∈ opened) : .stopTunnel ∈ opened := by
  cases isOpened with
  | untouched => cases started
  | refused upstream token => simp at started
  | started upstream token url => cases without
  | stopped upstream token url hasTunnel => simp

/-- What is neither asked of the tunnel nor a request, apart from closing the client. -/
def Action.closesRest : Action → Bool
  | .closeShells | .closePty => true
  | _ => false

structure Before (sandboxId : Text) (deleted : Bool) (before : List Action) : Prop where
  created : ∃ rest, before = .create :: rest ∧ ∀ action ∈ rest, action ≠ .create
  own : ∀ operation other, .request operation other ∈ before → other = sandboxId
  deletes : before.filter Action.deletes =
    if deleted then [.request .delete sandboxId] else []
  opens : ∀ action ∈ before, action ≠ .closeClient

namespace Before

variable {sandboxId : Text} {before : List Action}

theorem tried {opened : List Action} (isTried : Tried sandboxId handle opened) :
    Before sandboxId false handle.log := by
  have ofTunnel := isTried.opened.ofTunnel
  rw [isTried.log]
  constructor
  · refine ⟨opened, rfl, ?_⟩
    rintro action member rfl
    cases ofTunnel _ member
  · intro operation other member
    rcases List.mem_cons.mp member with first | rest
    · cases first
    · cases ofTunnel _ rest
  · rw [List.filter_cons_of_neg Bool.false_ne_true, List.filter_eq_nil_iff.mpr]
    · rfl
    · intro action member
      have isTunnel := ofTunnel action member
      cases action <;> first | exact Bool.false_ne_true | cases isTunnel
  · rintro action member rfl
    rcases List.mem_cons.mp member with first | rest
    · cases first
    · cases ofTunnel _ rest

theorem others {deleted : Bool} (holds : Before sandboxId deleted before)
    {asked : List Action}
    (others : ∀ action ∈ asked, action.ofTunnel = true ∨ action.closesRest = true) :
    Before sandboxId deleted (before ++ asked) := by
  rcases holds.created with ⟨rest, rfl, once⟩
  constructor
  · refine ⟨rest ++ asked, rfl, ?_⟩
    intro action member
    rcases List.mem_append.mp member with older | newer
    · exact once action older
    · rintro rfl
      rcases others _ newer with isTunnel | isRest
      · cases isTunnel
      · cases isRest
  · intro operation other member
    rcases List.mem_append.mp member with older | newer
    · exact holds.own operation other older
    · rcases others _ newer with isTunnel | isRest
      · cases isTunnel
      · cases isRest
  · rw [List.filter_append, holds.deletes, List.filter_eq_nil_iff.mpr, List.append_nil]
    intro action member
    rcases others action member with isOther | isOther <;>
      cases action <;> first | exact Bool.false_ne_true | cases isOther
  · intro action member
    rcases List.mem_append.mp member with older | newer
    · exact holds.opens action older
    · rintro rfl
      rcases others _ newer with isTunnel | isRest
      · cases isTunnel
      · cases isRest

theorem requests (holds : Before sandboxId false before) (operations : List Operation)
    (deleted : Bool) (deletes : operations.filter (fun operation =>
      (Action.request operation sandboxId).deletes) = if deleted then [.delete] else []) :
    Before sandboxId deleted (before ++ operations.map (Action.request · sandboxId)) := by
  rcases holds.created with ⟨rest, rfl, once⟩
  constructor
  · refine ⟨_, rfl, ?_⟩
    intro action member
    rcases List.mem_append.mp member with older | newer
    · exact once action older
    · rcases List.mem_map.mp newer with ⟨operation, -, rfl⟩
      nofun
  · intro operation other member
    rcases List.mem_append.mp member with older | newer
    · exact holds.own operation other older
    · rcases List.mem_map.mp newer with ⟨_, -, same⟩
      cases same
      rfl
  · rw [List.filter_append, holds.deletes, List.filter_map]
    have same : (Action.deletes ∘ (Action.request · sandboxId)) =
        fun operation => (Action.request operation sandboxId).deletes := rfl
    rw [same, deletes]
    cases deleted <;> rfl
  · intro action member
    rcases List.mem_append.mp member with older | newer
    · exact holds.opens action older
    · rcases List.mem_map.mp newer with ⟨operation, -, rfl⟩
      nofun

theorem ledger_of_open {deleted : Bool} (holds : Before sandboxId deleted before) :
    Ledger sandboxId false deleted before where
  created := holds.created
  own := holds.own
  deletes := holds.deletes
  tunnel := nofun
  opens _ := holds.opens
  closes := nofun

theorem ledger_of_closed {deleted : Bool} (holds : Before sandboxId deleted before)
    (stops : ∀ url, .startTunnel url ∈ before → .stopTunnel ∈ before)
    {operations : List Operation}
    (late : ∀ operation ∈ operations, operation = .instanceInfo) :
    Ledger sandboxId true deleted
      (before ++ .closeClient :: operations.map (Action.request · sandboxId)) := by
  have only : ∀ action ∈ operations.map (Action.request · sandboxId),
      action = .request .instanceInfo sandboxId := by
    intro action member
    rcases List.mem_map.mp member with ⟨operation, isOperation, rfl⟩
    rw [late operation isOperation]
  rcases holds.created with ⟨rest, isBefore, once⟩
  constructor
  · refine ⟨rest ++ .closeClient :: operations.map (Action.request · sandboxId), ?_, ?_⟩
    · rw [isBefore]
      rfl
    · intro action member
      rcases List.mem_append.mp member with older | newer
      · exact once action older
      · rcases List.mem_cons.mp newer with rfl | later
        · nofun
        · rw [only action later]
          nofun
  · intro operation other member
    rcases List.mem_append.mp member with older | newer
    · exact holds.own operation other older
    · rcases List.mem_cons.mp newer with same | later
      · cases same
      · cases only _ later
        rfl
  · rw [List.filter_append, holds.deletes, List.filter_cons_of_neg Bool.false_ne_true,
      List.filter_eq_nil_iff.mpr, List.append_nil]
    intro action member
    rw [only action member]
    exact Bool.false_ne_true
  · intro _ url started
    apply List.mem_append_left
    apply stops url
    rcases List.mem_append.mp started with older | newer
    · exact older
    · rcases List.mem_cons.mp newer with same | later
      · cases same
      · cases only _ later
  · nofun
  · exact fun _ => ⟨before, _, rfl, holds.opens, only⟩

end Before

section

variable (lower : Text → Text) (checks : HostChecks) (environ : Environ)

def deletesBy (options : Options) (closing : Option Call) : Bool :=
  match closing with
  | none => false
  | some call => call.deletes && !options.detached

theorem lived_ledger {sandboxId : Text} {opened : List Action} {final : Handle}
    {closing : Option Call} {operations late : List Operation}
    (tried : Tried sandboxId handle opened)
    (lived : Lived options handle final closing operations late) :
    Ledger sandboxId closing.isSome (deletesBy options closing) final.log := by
  have own := tried.sandboxId
  subst own
  have kept : Before handle.sandboxId false
      (handle.log ++ operations.map (Action.request · handle.sandboxId)) := by
    apply (Before.tried tried).requests
    rw [List.filter_eq_nil_iff.mpr]
    · rfl
    · intro operation member deletes
      have different := lived.kept operation member
      cases operation <;> first | exact different rfl | cases deletes
  rw [lived.log]
  cases closing with
  | none =>
      have nothing : late = [] := by
        cases late with
        | nil => rfl
        | cons operation _ => cases (lived.late operation List.mem_cons_self).1
      rw [nothing]
      simpa [deletesBy] using kept.ledger_of_open
  | some closing =>
      have others : Before handle.sandboxId false
          (handle.log ++ operations.map (Action.request · handle.sandboxId) ++
            ((if handle.hasTunnel then [.stopTunnel] else []) ++
              [.closeShells, .closePty])) := by
        apply kept.others
        intro action member
        cases hasTunnel : handle.hasTunnel <;> simp [hasTunnel] at member <;>
          rcases member with rfl | rfl | rfl <;> simp [Action.ofTunnel, Action.closesRest]
      have deleted := others.requests
        (if closing.deletes && !options.detached then [.delete] else [])
        (closing.deletes && !options.detached)
        (by cases closing.deletes && !options.detached <;> rfl)
      have whole := deleted.ledger_of_closed ?_ (fun operation member =>
        (lived.late operation member).2)
      · rw [Option.map_some, Option.getD_some, teardown]
        cases remote : (closing.deletes && !options.detached) <;>
          simpa [remote, deletesBy] using whole
      · intro url started
        have isOpened : .startTunnel url ∈ opened := by
          cases hasTunnel : handle.hasTunnel <;>
            cases remote : (closing.deletes && !options.detached) <;>
            simpa [hasTunnel, remote, tried.log] using started
        cases hasTunnel : handle.hasTunnel with
        | true => simp
        | false =>
            have stops := tried.opened.stop_mem hasTunnel isOpened
            simp [tried.log, stops]

theorem rollback_log (handle : Handle) :
    (rollback world handle).log = handle.log ++
        (if handle.hasTunnel then [.stopTunnel] else []) ++
        (if handle.sandboxId = [] then [] else [.request .delete handle.sandboxId]) ++
        [.closeClient] ∧
      (rollback world handle).sandboxId = handle.sandboxId ∧
      (rollback world handle).checkpointDepth = handle.checkpointDepth ∧
      (rollback world handle).closed = true := by
  rcases handle with ⟨sandboxId, hasTunnel, depth, closed, exitInfo, log⟩
  cases hasTunnel <;> by_cases unnamed : sandboxId = [] <;>
    simp [rollback, releaseTunnel, attempt, perform, unnamed]

theorem rollback_ledger {sandboxId : Text} {opened : List Action} {final : Handle}
    {operations : List Operation} (tried : Tried sandboxId handle opened)
    (requested : Requested (rollback world handle) final operations)
    (late : ∀ operation ∈ operations, operation = .instanceInfo) :
    Ledger sandboxId true (decide (sandboxId ≠ [])) final.log := by
  have own := tried.sandboxId
  subst own
  rcases rollback_log world handle with ⟨log, same, -, -⟩
  have others : Before handle.sandboxId false
      (handle.log ++ (if handle.hasTunnel then [.stopTunnel] else [])) := by
    apply (Before.tried tried).others
    intro action member
    cases hasTunnel : handle.hasTunnel <;> simp [hasTunnel] at member
    exact .inl (member ▸ rfl)
  have deleted := others.requests
    (if handle.sandboxId = [] then [] else [.delete])
    (decide (handle.sandboxId ≠ []))
    (by by_cases unnamed : handle.sandboxId = [] <;> simp [unnamed, Action.deletes])
  have whole := deleted.ledger_of_closed ?_ late
  · rw [requested.log, log, same]
    by_cases unnamed : handle.sandboxId = [] <;> simpa [unnamed] using whole
  · intro url started
    have isOpened : .startTunnel url ∈ opened := by
      cases hasTunnel : handle.hasTunnel <;>
        by_cases unnamed : handle.sandboxId = [] <;>
        simpa [hasTunnel, unnamed, tried.log] using started
    cases hasTunnel : handle.hasTunnel with
    | true => simp
    | false =>
        have stops := tried.opened.stop_mem hasTunnel isOpened
        simp [tried.log, stops]

/-- From the constructor on, whatever the parties answer and whatever is called: if the
constructor fails, it raises what failed, its sandbox is deleted if there is one, and the
handle is closed. Otherwise the first call of `close` or `kill` closes the handle, and it
deletes the sandbox if it is `kill` and the sandbox is not detached. -/
theorem ledger_of_calls (world : World) (builtins : Builtins) (options : Options)
    (list : List Call) :
    let made := init world lower checks environ builtins options
    let final := calls world builtins options made.2 list
    made.1 = (construct world lower checks environ builtins options fresh).1 ∧
      final.checkpointDepth = 0 ∧
      match made.1 with
      | .error _ => final.closed = true ∧
          Ledger (namedId world builtins) true
            (decide (namedId world builtins ≠ [])) final.log
      | .ok _ =>
          final.closed = (list.find? Call.closes).isSome ∧
          Ledger (namedId world builtins) (list.find? Call.closes).isSome
            (deletesBy options (list.find? Call.closes)) final.log := by
  intro made final
  rcases construct_tried world builtins options lower checks environ with ⟨opened, tried⟩
  cases constructed : construct world lower checks environ builtins options fresh with
  | mk result handle =>
      rw [constructed] at tried
      cases result with
      | error error =>
          have isMade : made = (.error error, rollback world handle) := by
            simp only [made, init, constructed]
          rcases rollback_log world handle with ⟨-, -, depth, closed⟩
          rcases calls_of_closed world builtins
            options closed list with ⟨operations, requested, late⟩
          rw [show calls world builtins options (rollback world handle) list = final by
            simp only [final, isMade]] at requested
          rw [isMade]
          refine ⟨rfl, ?_, requested.closed.trans closed, rollback_ledger world tried requested late⟩
          exact requested.checkpointDepth.trans (depth.trans tried.checkpointDepth)
      | ok _ =>
          have isMade : made = (.ok (), handle) := by
            simp only [made, init, constructed]
          rcases calls_lived world builtins options
            tried.closed list with ⟨operations, late, lived⟩
          rw [show calls world builtins options handle list = final by
            simp only [final, isMade]] at lived
          rw [isMade]
          exact ⟨rfl, lived.checkpointDepth.trans tried.checkpointDepth, lived.closed,
            lived_ledger options tried lived⟩

end

end YrSandbox.Lifecycle
