import Mathlib.Data.List.Basic
import YrSandbox.Foundation.Transition

/-! # Shared HTTP clients

`_http_pool`: each process has one registry of HTTPX clients, keyed by target,
and leases through which its sandboxes use them. A fork copies the registry and
the leases, and both find out about it from the process id they have recorded. -/

namespace YrSandbox.Transport.HttpPool

open Transition

/-! ## The registry -/

structure Target where
  scheme : String
  server : String
  verifyTls : Bool
deriving DecidableEq, Repr

/-- An `httpx.Client`: the process that created it, and a number for its identity. -/
structure Client where
  creator : Nat
  number : Nat
  verify : Bool
deriving DecidableEq, Repr

structure PoolEntry where
  client : Client
  references : Int
deriving DecidableEq, Repr

/-- `_SharedHTTPClientRegistry`; `entries` is its dictionary. -/
structure Registry where
  pid : Nat
  entries : Target → Option PoolEntry

namespace Registry

def empty (pid : Nat) : Registry where
  pid := pid
  entries _ := none

/-- `self._entries[target] = entry` -/
def put (registry : Registry) (target : Target) (entry : PoolEntry) : Registry :=
  { registry with
    entries := fun other => if other = target then some entry else registry.entries other }

/-- `_reset_after_fork_locked`, where `os.getpid()` is `pid`. -/
def resetAfterFork (registry : Registry) (pid : Nat) : Registry :=
  if pid = registry.pid then registry else empty pid

def afterForkInChild (_registry : Registry) (pid : Nat) : Registry :=
  empty pid

/-- `_acquire_target`. `created` is what `_new_http_client` returns, or `none`
where it raises on the settings in the environment. -/
def acquireTarget (registry : Registry) (pid : Nat) (created : Option Client)
    (target : Target) : Registry × Option Client :=
  let registry := registry.resetAfterFork pid
  match registry.entries target with
  | some entry =>
      (registry.put target { entry with references := entry.references + 1 },
        some entry.client)
  | none =>
      match created with
      | some client => (registry.put target { client, references := 0 + 1 }, some client)
      | none => (registry, none)

def release (registry : Registry) (pid : Nat) (target : Target) (leasePid : Nat) :
    Registry :=
  let registry := registry.resetAfterFork pid
  if leasePid ≠ registry.pid then registry
  else
    match registry.entries target with
    | some entry =>
        if entry.references > 0 then
          registry.put target { entry with references := entry.references - 1 }
        else registry
    | none => registry

def closeAll (registry : Registry) (pid : Nat) : Registry :=
  { registry.resetAfterFork pid with entries := fun _ => none }

/-- `snapshot`, whose keys all begin with `pid` -/
def snapshot (registry : Registry) (pid : Nat) : Target → Option PoolEntry :=
  (registry.resetAfterFork pid).entries

def client (registry : Registry) (pid : Nat) (target : Target) : Option Client :=
  (registry.snapshot pid target).map PoolEntry.client

def references (registry : Registry) (pid : Nat) (target : Target) : Int :=
  ((registry.snapshot pid target).map PoolEntry.references).getD 0

end Registry

/-! ## Leases -/

/-- `_SharedHTTPClientLease`. `acquirer` is no field of the program: it is the
process in which the lease acquired its target last. -/
structure Lease where
  target : Target
  pid : Nat
  client : Client
  token : String
  closed : Bool
  acquirer : Nat
deriving DecidableEq, Repr

/-- `SandboxClientClosedError`, and the `ValueError` of `_new_http_client`. -/
inductive RequestError
  | clientClosed (message : String)
  | valueError
deriving DecidableEq, Repr

namespace Lease

/-- `_current_client`, called in the process `index`. -/
def currentClient (lease : Lease) (registry : Registry) (index pid : Nat)
    (created : Option Client) : Lease × Registry × Except RequestError Client :=
  if lease.closed then
    (lease, registry,
      .error (.clientClosed "Cannot send a request after SandboxClient.close()"))
  else if pid ≠ lease.pid then
    match registry.acquireTarget pid created lease.target with
    | (registry, some client) =>
        ({ lease with pid := registry.pid, client, acquirer := index }, registry,
          .ok client)
    | (registry, none) => (lease, registry, .error .valueError)
  else (lease, registry, .ok lease.client)

def close (lease : Lease) (registry : Registry) (pid : Nat) : Lease × Registry :=
  if lease.closed then (lease, registry)
  else ({ lease with closed := true }, registry.release pid lease.target lease.pid)

/-- The lease is not closed, and the process `index` is where it acquired `target`. -/
def holds (lease : Lease) (index : Nat) (target : Target) : Bool :=
  !lease.closed && lease.acquirer == index && lease.target == target

end Lease

/-! ## Processes -/

structure Process where
  pid : Nat
  alive : Bool
  registry : Registry
  leases : List Lease

/-- A request that left the process `process`. -/
structure Sending where
  process : Nat
  target : Target
  token : String
  client : Client
deriving DecidableEq, Repr

structure System where
  processes : List Process
  created : Nat
  sent : List Sending

/-- `configured` says whether `_new_http_client` accepts the environment's
settings, and `hooked` whether a fork runs the functions that are registered
with `os.register_at_fork`. -/
inductive Event
  | acquire (index : Nat) (target : Target) (token : String) (configured : Bool)
  | request (index position : Nat) (configured : Bool)
  | close (index position : Nat)
  | fork (index pid : Nat) (hooked : Bool)
  | exit (index : Nat)
deriving DecidableEq, Repr

namespace System

def initial (pid : Nat) : System where
  processes := [{ pid, alive := true, registry := .empty pid, leases := [] }]
  created := 0
  sent := []

def running (system : System) (index : Nat) : Option Process :=
  system.processes[index]?.filter Process.alive

def update (system : System) (index : Nat) (process : Process) : System :=
  { system with processes := system.processes.set index process }

def newHttpClient (system : System) (index : Nat) (verifyTls configured : Bool) :
    Option Client :=
  if configured then
    some { creator := index, number := system.created, verify := verifyTls }
  else none

def create (system : System) : System :=
  { system with created := system.created + 1 }

/-- `acquire`; where it raises, there is no new lease. -/
def acquire (system : System) (index : Nat) (process : Process) (target : Target)
    (token : String) (configured : Bool) : System :=
  let created := system.newHttpClient index target.verifyTls configured
  match process.registry.acquireTarget process.pid created target with
  | (registry, some client) =>
      let lease : Lease :=
        { target, pid := registry.pid, client, token, closed := false, acquirer := index }
      system.create.update index
        { process with registry, leases := process.leases ++ [lease] }
  | (registry, none) => system.create.update index { process with registry }

def send (system : System) (index : Nat) (lease : Lease) (client : Client) : System :=
  { system with
    sent := system.sent ++
      [{ process := index, target := lease.target, token := lease.token, client }] }

/-- `request`, and likewise `stream`; where it raises, nothing is sent. -/
def request (system : System) (index : Nat) (process : Process) (position : Nat)
    (lease : Lease) (configured : Bool) : System :=
  let created := system.newHttpClient index lease.target.verifyTls configured
  let (current, registry, outcome) :=
    lease.currentClient process.registry index process.pid created
  let next := system.create.update index
    { process with registry, leases := process.leases.set position current }
  match outcome with
  | .ok client => next.send index lease client
  | .error _ => next

def close (system : System) (index : Nat) (process : Process) (position : Nat)
    (lease : Lease) : System :=
  let (current, registry) := lease.close process.registry process.pid
  system.update index
    { process with registry, leases := process.leases.set position current }

def fork (system : System) (process : Process) (pid : Nat) (hooked : Bool) : System :=
  let registry :=
    if hooked then process.registry.afterForkInChild pid else process.registry
  { system with processes := system.processes ++ [{ process with pid, registry }] }

/-- The process exits, where `atexit` runs `close_all`. -/
def exit (system : System) (index : Nat) (process : Process) : System :=
  system.update index
    { process with alive := false, registry := process.registry.closeAll process.pid }

end System

/-- One event. The operating system gives a new process an id that no process
alive has. -/
def step (system : System) : Event → Option System
  | .acquire index target token configured =>
      (system.running index).map fun process =>
        system.acquire index process target token configured
  | .request index position configured =>
      (system.running index).bind fun process =>
        process.leases[position]?.map fun lease =>
          system.request index process position lease configured
  | .close index position =>
      (system.running index).bind fun process =>
        process.leases[position]?.map fun lease =>
          system.close index process position lease
  | .fork index pid hooked =>
      (system.running index).bind fun process =>
        if ∀ other ∈ system.processes, other.alive → other.pid ≠ pid then
          some (system.fork process pid hooked)
        else none
  | .exit index => (system.running index).map (system.exit index)

/-! ## What the registry's operations do -/

namespace Registry

@[simp] theorem resetAfterFork_pid (registry : Registry) (pid : Nat) :
    (registry.resetAfterFork pid).pid = pid := by
  rw [resetAfterFork]
  split
  · next same => exact same.symm
  · rfl

theorem resetAfterFork_eq {registry : Registry} {pid : Nat} (same : registry.pid = pid) :
    registry.resetAfterFork pid = registry :=
  if_pos same.symm

@[simp] theorem resetAfterFork_idem (registry : Registry) (pid : Nat) :
    (registry.resetAfterFork pid).resetAfterFork pid = registry.resetAfterFork pid :=
  resetAfterFork_eq (registry.resetAfterFork_pid pid)

@[simp] theorem put_pid (registry : Registry) (target : Target) (entry : PoolEntry) :
    (registry.put target entry).pid = registry.pid := rfl

theorem snapshot_resetAfterFork (registry : Registry) (pid : Nat) :
    (registry.resetAfterFork pid).snapshot pid = registry.snapshot pid := by
  rw [snapshot, resetAfterFork_idem, snapshot]

@[simp] theorem client_resetAfterFork (registry : Registry) (pid : Nat)
    (target : Target) :
    (registry.resetAfterFork pid).client pid target = registry.client pid target := by
  rw [client, snapshot_resetAfterFork, client]

@[simp] theorem references_resetAfterFork (registry : Registry) (pid : Nat)
    (target : Target) :
    (registry.resetAfterFork pid).references pid target =
      registry.references pid target := by
  rw [references, snapshot_resetAfterFork, references]

theorem snapshot_put (registry : Registry) (pid : Nat) (target other : Target)
    (entry : PoolEntry) :
    ((registry.resetAfterFork pid).put target entry).snapshot pid other =
      if other = target then some entry else registry.snapshot pid other := by
  rw [snapshot, resetAfterFork_eq (by simp)]
  rfl

theorem snapshot_empty {registry : Registry} {pid : Nat} (other : registry.pid ≠ pid)
    (target : Target) : registry.snapshot pid target = none := by
  rw [snapshot, resetAfterFork, if_neg (Ne.symm other)]
  rfl

@[simp] theorem empty_snapshot (pid : Nat) (target : Target) :
    (empty pid).snapshot pid target = none := by
  rw [snapshot, resetAfterFork_eq (show (empty pid).pid = pid from rfl)]
  rfl

/-- A registry in which `target` has one more reference and the client `client`. -/
structure Acquired (registry : Registry) (pid : Nat) (created : Option Client)
    (target : Target) (next : Registry) (client : Client) : Prop where
  recorded : next.pid = pid
  source : registry.client pid target = some client ∨
    registry.client pid target = none ∧ created = some client
  clients : ∀ other, next.client pid other =
    if other = target then some client else registry.client pid other
  counts : ∀ other, next.references pid other =
    registry.references pid other + if other = target then 1 else 0

theorem Acquired.kept {registry next : Registry} {pid : Nat} {created : Option Client}
    {target other : Target} {client found : Client}
    (acquired : registry.Acquired pid created target next client)
    (present : registry.client pid other = some found) :
    next.client pid other = some found := by
  rw [acquired.clients]
  split
  · next same =>
      rcases acquired.source with known | ⟨absent, _⟩
      · rw [← present, same, known]
      · rw [same, absent] at present
        cases present
  · exact present

theorem acquired_of_acquireTarget {registry next : Registry} {pid : Nat}
    {created : Option Client} {target : Target} {client : Client}
    (given : registry.acquireTarget pid created target = (next, some client)) :
    registry.Acquired pid created target next client := by
  unfold acquireTarget at given
  cases found : (registry.resetAfterFork pid).entries target with
  | some entry =>
      have present : registry.snapshot pid target = some entry := found
      simp only [found, Prod.mk.injEq, Option.some.injEq] at given
      rcases given with ⟨rfl, rfl⟩
      refine ⟨by simp, .inl (by simp [Registry.client, present]), ?_, ?_⟩
      · intro other
        simp only [Registry.client, snapshot_put]
        split <;> rfl
      · intro other
        simp only [references, snapshot_put]
        split
        · next same => simp [same, present]
        · simp
  | none =>
      have absent : registry.snapshot pid target = none := found
      cases created with
      | none => simp [found] at given
      | some fresh =>
          simp only [found, Prod.mk.injEq, Option.some.injEq] at given
          rcases given with ⟨rfl, rfl⟩
          refine ⟨by simp, .inr ⟨by simp [Registry.client, absent], rfl⟩, ?_, ?_⟩
          · intro other
            simp only [Registry.client, snapshot_put]
            split <;> rfl
          · intro other
            simp only [references, snapshot_put]
            split
            · next same => simp [same, absent]
            · simp

theorem acquireTarget_raised {registry next : Registry} {pid : Nat}
    {created : Option Client} {target : Target}
    (given : registry.acquireTarget pid created target = (next, none)) :
    next = registry.resetAfterFork pid := by
  unfold acquireTarget at given
  cases found : (registry.resetAfterFork pid).entries target with
  | some entry => simp [found] at given
  | none =>
      cases created with
      | none => simpa [found] using given.symm
      | some fresh => simp [found] at given

theorem release_client (registry : Registry) (pid leasePid : Nat) (target : Target) :
    (registry.release pid target leasePid).client pid = registry.client pid := by
  funext other
  rw [release]
  split
  · exact registry.client_resetAfterFork pid _
  split
  · next entry found =>
      have present : registry.snapshot pid target = some entry := found
      split
      · simp only [client, snapshot_put]
        split
        · next same => simp [same, present]
        · rfl
      · exact registry.client_resetAfterFork pid _
  · exact registry.client_resetAfterFork pid _

theorem release_foreign (registry : Registry) {pid leasePid : Nat} (target : Target)
    (foreign : leasePid ≠ pid) :
    registry.release pid target leasePid = registry.resetAfterFork pid := by
  rw [release, if_pos]
  simpa using foreign

theorem release_own (registry : Registry) (pid : Nat) (target other : Target)
    (positive : 0 < registry.references pid target) :
    (registry.release pid target pid).references pid other =
      registry.references pid other - if other = target then 1 else 0 := by
  cases found : registry.snapshot pid target with
  | none => simp [references, found] at positive
  | some entry =>
      have present : (registry.resetAfterFork pid).entries target = some entry := found
      have counted : entry.references > 0 := by simpa [references, found] using positive
      have released : registry.release pid target pid =
          (registry.resetAfterFork pid).put target
            { entry with references := entry.references - 1 } := by
        simp [release, present, counted]
      rw [released, references, snapshot_put]
      split
      · next same => simp [references, same, found]
      · simp [references]

end Registry

/-- The ways in which `_current_client` ends. -/
inductive Lease.CurrentClient (lease : Lease) (registry : Registry) (index pid : Nat)
    (created : Option Client) : Prop
  | closed (isClosed : lease.closed = true)
      (given : lease.currentClient registry index pid created = (lease, registry,
        .error (.clientClosed "Cannot send a request after SandboxClient.close()")))
  | here (isOpen : lease.closed = false) (same : lease.pid = pid)
      (given : lease.currentClient registry index pid created =
        (lease, registry, .ok lease.client))
  | raised (given : lease.currentClient registry index pid created =
      (lease, registry.resetAfterFork pid, .error .valueError))
  | acquired {next : Registry} {client : Client} (isOpen : lease.closed = false)
      (foreign : lease.pid ≠ pid)
      (acquired : registry.Acquired pid created lease.target next client)
      (given : lease.currentClient registry index pid created =
        ({ lease with pid := next.pid, client, acquirer := index }, next, .ok client))

theorem Lease.currentClient_cases (lease : Lease) (registry : Registry) (index pid : Nat)
    (created : Option Client) : lease.CurrentClient registry index pid created := by
  cases isClosed : lease.closed with
  | true => exact .closed isClosed (by simp [currentClient, isClosed])
  | false =>
      by_cases same : lease.pid = pid
      · exact .here isClosed same (by simp [currentClient, isClosed, same])
      · have foreign : pid ≠ lease.pid := Ne.symm same
        rcases given : registry.acquireTarget pid created lease.target
          with ⟨next, _ | client⟩
        · cases Registry.acquireTarget_raised given
          exact .raised (by simp [currentClient, isClosed, foreign, given])
        · apply CurrentClient.acquired isClosed same
            (Registry.acquired_of_acquireTarget given)
          simp [currentClient, isClosed, foreign, given]

theorem Lease.close_closed {lease : Lease} {registry : Registry} {pid : Nat}
    (isClosed : lease.closed = true) : lease.close registry pid = (lease, registry) :=
  if_pos isClosed

/-! ## One process -/

namespace Process

def client (process : Process) (target : Target) : Option Client :=
  process.registry.client process.pid target

def references (process : Process) (target : Target) : Int :=
  process.registry.references process.pid target

/-- The leases that are not closed and acquired `target` in the process `index`. -/
def holders (process : Process) (index : Nat) (target : Target) : Nat :=
  process.leases.countP fun lease => lease.holds index target

/-- What the registry of the process `index` counts and shares. -/
structure Accounted (index : Nat) (process : Process) : Prop where
  counted : ∀ target, process.references target = process.holders index target
  nonnegative : ∀ target, 0 ≤ process.references target
  shared : ∀ lease ∈ process.leases, ∀ target, lease.holds index target = true →
    process.client target = some lease.client
  own : ∀ target client, process.client target = some client → client.creator = index

/-- A lease that is not closed has recorded the id of the process exactly where
it acquired its target in it. -/
structure Consistent (index : Nat) (process : Process) : Prop extends
    Accounted index process where
  recorded : ∀ lease ∈ process.leases, lease.closed = false →
    (lease.pid = process.pid ↔ lease.acquirer = index)

end Process

theorem Lease.holds_iff {lease : Lease} {index : Nat} {target : Target} :
    lease.holds index target = true ↔
      lease.closed = false ∧ lease.acquirer = index ∧ lease.target = target := by
  simp [Lease.holds, and_assoc]

namespace Process

theorem Consistent.of_fresh {index : Nat} {process : Process}
    (absent : ∀ target, process.registry.snapshot process.pid target = none)
    (foreign : ∀ lease ∈ process.leases, lease.acquirer ≠ index)
    (recorded : ∀ lease ∈ process.leases, lease.closed = false →
      lease.pid ≠ process.pid) : process.Consistent index where
  counted := by
    intro target
    have none : process.holders index target = 0 := by
      rw [holders, List.countP_eq_zero]
      intro lease member held
      exact foreign lease member (Lease.holds_iff.mp held).2.1
    simp [references, Registry.references, absent, none]
  nonnegative := by
    intro target
    simp [references, Registry.references, absent]
  shared := by
    intro lease member target held
    exact absurd (Lease.holds_iff.mp held).2.1 (foreign lease member)
  own := by
    intro target client found
    simp [Process.client, Registry.client, absent] at found
  recorded := by
    intro lease member isOpen
    exact iff_of_false (recorded lease member isOpen) (foreign lease member)

variable {process : Process} {index : Nat}

theorem holders_set (registry : Registry) {position : Nat} {lease : Lease}
    (current : Lease) (found : process.leases[position]? = some lease) (index : Nat)
    (target : Target) :
    ({ process with registry, leases := process.leases.set position current } :
        Process).holders index target + (if lease.holds index target then 1 else 0) =
      process.holders index target + (if current.holds index target then 1 else 0) := by
  rcases List.getElem?_eq_some_iff.mp found with ⟨bound, rfl⟩
  have present : (if process.leases[position].holds index target then 1 else 0) ≤
      process.holders index target := by
    split
    · next held => exact List.countP_pos_iff.mpr ⟨_, List.getElem_mem bound, held⟩
    · exact Nat.zero_le _
  rw [holders, holders, List.countP_set bound]
  rw [holders] at present
  omega

theorem Consistent.acquire (consistent : process.Consistent index) {registry : Registry}
    {created : Option Client} {lease : Lease} {leases : List Lease}
    (acquired : process.registry.Acquired process.pid created lease.target registry
      lease.client)
    (fresh : ∀ client, created = some client → client.creator = index)
    (holds : lease.closed = false ∧ lease.acquirer = index ∧ lease.pid = process.pid)
    (members : ∀ other ∈ leases, other = lease ∨ other ∈ process.leases)
    (one : ∀ target, ({ process with registry, leases } : Process).holders index target =
      process.holders index target + if target = lease.target then 1 else 0) :
    ({ process with registry, leases } : Process).Consistent index where
  counted := by
    intro target
    rw [one]
    have before := consistent.counted target
    simp only [references] at before
    simp only [references, acquired.counts, before]
    split <;> simp
  nonnegative := by
    intro target
    have before := consistent.nonnegative target
    simp only [references] at before
    simp only [references, acquired.counts]
    split <;> omega
  shared := by
    intro other member target held
    simp only [client, acquired.clients]
    have own := Lease.holds_iff.mp held
    rcases members other member with rfl | member
    · rw [if_pos own.2.2.symm]
    exact (acquired.clients target).symm.trans
      (acquired.kept (consistent.shared other member target held))
  own := by
    intro target client found
    simp only [Process.client, acquired.clients] at found
    split at found
    · next same =>
        cases found
        rcases acquired.source with found | ⟨_, created⟩
        · exact consistent.own lease.target lease.client found
        · exact fresh _ created
    · exact consistent.own target client found
  recorded := by
    intro other member isOpen
    rcases members other member with rfl | member
    · exact iff_of_true holds.2.2 holds.2.1
    · exact consistent.recorded other member isOpen

theorem client_reset (process : Process) (target : Target) :
    ({ process with registry := process.registry.resetAfterFork process.pid } :
      Process).client target = process.client target :=
  process.registry.client_resetAfterFork process.pid target

theorem references_reset (process : Process) (target : Target) :
    ({ process with registry := process.registry.resetAfterFork process.pid } :
      Process).references target = process.references target :=
  process.registry.references_resetAfterFork process.pid target

theorem Consistent.reset (consistent : process.Consistent index) :
    ({ process with registry := process.registry.resetAfterFork process.pid } :
      Process).Consistent index where
  counted := by
    intro target
    rw [references_reset]
    exact consistent.counted target
  nonnegative := by
    intro target
    rw [references_reset]
    exact consistent.nonnegative target
  shared := by
    intro lease member target held
    rw [client_reset]
    exact consistent.shared lease member target held
  own := by
    intro target client found
    rw [client_reset] at found
    exact consistent.own target client found
  recorded := consistent.recorded

theorem Consistent.references_pos (consistent : process.Consistent index) {lease : Lease}
    (member : lease ∈ process.leases) {target : Target}
    (held : lease.holds index target = true) : 0 < process.references target := by
  have some : 0 < process.holders index target :=
    List.countP_pos_iff.mpr ⟨lease, member, held⟩
  have counted := consistent.counted target
  omega

theorem Consistent.close (consistent : process.Consistent index) {position : Nat}
    {lease : Lease} (found : process.leases[position]? = some lease)
    (isOpen : lease.closed = false) :
    ({ process with
        registry := process.registry.release process.pid lease.target lease.pid
        leases := process.leases.set position { lease with closed := true } } :
      Process).Consistent index := by
  have member : lease ∈ process.leases := List.mem_of_getElem? found
  have members : ∀ other ∈ process.leases.set position { lease with closed := true },
      other = { lease with closed := true } ∨ other ∈ process.leases :=
    fun other member => (List.mem_or_eq_of_mem_set member).symm
  have clients := process.registry.release_client process.pid lease.pid lease.target
  have counts : ∀ target,
      (process.registry.release process.pid lease.target lease.pid).references
          process.pid target =
        process.references target - if lease.holds index target then 1 else 0 := by
    intro target
    by_cases same : lease.pid = process.pid
    · have acquirer := (consistent.recorded lease member isOpen).mp same
      have held : lease.holds index lease.target = true :=
        Lease.holds_iff.mpr ⟨isOpen, acquirer, rfl⟩
      rw [same, Registry.release_own _ _ _ _ (consistent.references_pos member held)]
      simp only [Lease.holds_iff, isOpen, acquirer, true_and, eq_comm (a := target),
        references]
    · have acquirer : lease.acquirer ≠ index :=
        fun acquirer => same ((consistent.recorded lease member isOpen).mpr acquirer)
      rw [Registry.release_foreign _ _ same, references]
      simp [Lease.holds_iff, acquirer]
  have closed : ∀ target,
      ({ lease with closed := true } : Lease).holds index target = false := by
    intro target
    rfl
  have counted : ∀ target,
      (process.registry.release process.pid lease.target lease.pid).references
          process.pid target =
        ({ process with
            registry := process.registry.release process.pid lease.target lease.pid
            leases := process.leases.set position { lease with closed := true } } :
          Process).holders index target := by
    intro target
    have holders := holders_set
      (process.registry.release process.pid lease.target lease.pid)
      { lease with closed := true } found index target
    rw [closed] at holders
    rw [counts, consistent.counted]
    by_cases held : lease.holds index target = true
    · rw [if_pos held] at holders ⊢
      rw [if_neg Bool.false_ne_true] at holders
      omega
    · rw [if_neg held] at holders ⊢
      rw [if_neg Bool.false_ne_true] at holders
      omega
  constructor
  · constructor
    · exact counted
    · intro target
      exact le_of_le_of_eq (Int.natCast_nonneg _) (counted target).symm
    · intro other member target held
      rcases members other member with rfl | member
      · rw [closed] at held
        cases held
      · simpa only [client, clients] using consistent.shared other member target held
    · intro target client found
      apply consistent.own target client
      simpa only [Process.client, clients] using found
  · intro other member isOpen
    rcases members other member with rfl | member
    · cases isOpen
    · exact consistent.recorded other member isOpen

end Process

/-! ## All processes -/

namespace System

/-- What the registries of the running processes count and share, and what was sent. -/
structure Accounted (system : System) : Prop where
  processes : ∀ index process, system.running index = some process →
    process.Accounted index
  own : ∀ sending ∈ system.sent, sending.client.creator = sending.process
  oneClient : ∀ left ∈ system.sent, ∀ right ∈ system.sent,
    left.process = right.process → left.target = right.target → left.client = right.client

structure Consistent (system : System) : Prop where
  processes : ∀ index process, system.running index = some process →
    process.Consistent index
  acquirers : ∀ process ∈ system.processes, ∀ lease ∈ process.leases,
    lease.acquirer < system.processes.length
  senders : ∀ sending ∈ system.sent, sending.process < system.processes.length
  own : ∀ sending ∈ system.sent, sending.client.creator = sending.process
  oneClient : ∀ left ∈ system.sent, ∀ right ∈ system.sent,
    left.process = right.process → left.target = right.target → left.client = right.client
  current : ∀ sending ∈ system.sent, ∀ process,
    system.running sending.process = some process →
    process.client sending.target = some sending.client

theorem Consistent.accounted {system : System} (consistent : system.Consistent) :
    system.Accounted where
  processes index process running :=
    (consistent.processes index process running).toAccounted
  own := consistent.own
  oneClient := consistent.oneClient

theorem initial_consistent (pid : Nat) : (initial pid).Consistent where
  processes := by
    intro index process running
    cases index with
    | zero =>
        cases running
        apply Process.Consistent.of_fresh
        · exact fun target => Registry.empty_snapshot pid target
        · exact fun lease member => absurd member List.not_mem_nil
        · exact fun lease member => absurd member List.not_mem_nil
    | succ index => cases running
  acquirers := by
    intro process member lease inside
    cases List.mem_singleton.mp member
    cases inside
  senders _ member := absurd member List.not_mem_nil
  own _ member := absurd member List.not_mem_nil
  oneClient _ member := absurd member List.not_mem_nil
  current _ member := absurd member List.not_mem_nil

variable {system : System} {index : Nat} {process next : Process}

theorem running_found (running : system.running index = some process) :
    system.processes[index]? = some process ∧ process.alive = true :=
  Option.filter_eq_some_iff.mp running

theorem running_lt (running : system.running index = some process) :
    index < system.processes.length :=
  (List.getElem?_eq_some_iff.mp (running_found running).1).1

theorem running_mem (running : system.running index = some process) :
    process ∈ system.processes :=
  List.mem_of_getElem? (running_found running).1

theorem running_update (running : system.running index = some process) (other : Nat) :
    (system.update index next).running other =
      if other = index then (some next).filter Process.alive
      else system.running other := by
  have bound := running_lt running
  unfold System.running update
  by_cases same : other = index
  · rw [if_pos same, same, List.getElem?_set_self bound]
  · rw [if_neg same, List.getElem?_set_ne (Ne.symm same)]

/-- The rule for an event of one process. -/
theorem Consistent.update (consistent : system.Consistent)
    (running : system.running index = some process)
    (kept : next.alive = true → next.Consistent index)
    (acquirers : ∀ lease ∈ next.leases, lease.acquirer < system.processes.length)
    (clients : next.alive = true → ∀ target client,
      process.client target = some client → next.client target = some client) :
    (system.update index next).Consistent where
  processes := by
    intro other found present
    rw [running_update running] at present
    split at present
    · next same =>
        rcases Option.filter_eq_some_iff.mp present with ⟨equal, alive⟩
        cases equal
        exact same ▸ kept alive
    · exact consistent.processes other found present
  acquirers := by
    intro other member lease inside
    simp only [System.update, List.length_set] at member ⊢
    rcases List.mem_or_eq_of_mem_set member with member | rfl
    · exact consistent.acquirers other member lease inside
    · exact acquirers lease inside
  senders := by
    intro sending member
    simpa only [System.update, List.length_set] using consistent.senders sending member
  own := consistent.own
  oneClient := consistent.oneClient
  current := by
    intro sending member other present
    rw [running_update running] at present
    split at present
    · next same =>
        rcases Option.filter_eq_some_iff.mp present with ⟨equal, alive⟩
        cases equal
        apply clients alive
        exact consistent.current sending member process (same ▸ running)
    · exact consistent.current sending member other present

theorem Consistent.create (consistent : system.Consistent) : system.create.Consistent :=
  ⟨consistent.processes, consistent.acquirers, consistent.senders, consistent.own,
    consistent.oneClient, consistent.current⟩

theorem Consistent.send (consistent : system.Consistent)
    (running : system.running index = some process) {lease : Lease} {client : Client}
    (shared : process.client lease.target = some client) :
    (system.send index lease client).Consistent where
  processes := consistent.processes
  acquirers := consistent.acquirers
  senders := by
    intro sending member
    rcases List.mem_append.mp member with member | member
    · exact consistent.senders sending member
    · cases List.mem_singleton.mp member
      exact running_lt running
  own := by
    intro sending member
    rcases List.mem_append.mp member with member | member
    · exact consistent.own sending member
    · cases List.mem_singleton.mp member
      exact (consistent.processes index process running).own _ _ shared
  oneClient := by
    -- the earlier requests of the process agree with its registry
    have agrees : ∀ sending ∈ system.sent, sending.process = index →
        sending.target = lease.target → sending.client = client := by
      intro sending member sender target
      have current := consistent.current sending member process (sender ▸ running)
      rw [target, shared] at current
      exact (Option.some.inj current).symm
    intro left leftMember right rightMember processes targets
    rcases List.mem_append.mp leftMember with leftMember | leftMember <;>
      rcases List.mem_append.mp rightMember with rightMember | rightMember
    · exact consistent.oneClient left leftMember right rightMember processes targets
    · cases List.mem_singleton.mp rightMember
      exact agrees left leftMember processes targets
    · cases List.mem_singleton.mp leftMember
      exact (agrees right rightMember processes.symm targets.symm).symm
    · cases List.mem_singleton.mp leftMember
      cases List.mem_singleton.mp rightMember
      rfl
  current := by
    intro sending member other present
    rcases List.mem_append.mp member with member | member
    · exact consistent.current sending member other present
    · cases List.mem_singleton.mp member
      cases Option.some.inj (running.symm.trans present)
      exact shared

theorem newHttpClient_creator {verifyTls configured : Bool} {client : Client}
    (created : system.newHttpClient index verifyTls configured = some client) :
    client.creator = index := by
  rw [newHttpClient, Option.ite_none_right_eq_some] at created
  cases created.2
  rfl

theorem set_self {position : Nat} {lease : Lease}
    (found : process.leases[position]? = some lease) :
    process.leases.set position lease = process.leases := by
  rcases List.getElem?_eq_some_iff.mp found with ⟨bound, rfl⟩
  exact List.set_getElem_self bound

theorem Consistent.acquire (consistent : system.Consistent)
    (running : system.running index = some process) (target : Target) (token : String)
    (configured : Bool) :
    (system.acquire index process target token configured).Consistent := by
  have own := consistent.processes index process running
  have inside := consistent.acquirers process (running_mem running)
  rcases given : process.registry.acquireTarget process.pid
    (system.newHttpClient index target.verifyTls configured) target
    with ⟨registry, _ | client⟩
  · cases Registry.acquireTarget_raised given
    simp only [System.acquire, given]
    apply consistent.create.update running
    · exact fun _ => own.reset
    · exact inside
    · intro _ other found present
      rw [Process.client_reset]
      exact present
  · have acquired := Registry.acquired_of_acquireTarget given
    simp only [System.acquire, given]
    let lease : Lease := ⟨target, registry.pid, client, token, false, index⟩
    have holds : lease.closed = false ∧ lease.acquirer = index ∧ lease.pid = process.pid :=
      ⟨rfl, rfl, acquired.recorded⟩
    apply consistent.create.update running
    · intro _
      apply own.acquire acquired (fun client => newHttpClient_creator) holds
      · intro other member
        rcases List.mem_append.mp member with member | member
        · exact .inr member
        · exact .inl (List.mem_singleton.mp member)
      · intro other
        simp only [Process.holders, List.countP_append, List.countP_singleton,
          Lease.holds_iff, true_and, eq_comm (a := other)]
        rfl
    · intro lease member
      rcases List.mem_append.mp member with member | member
      · exact inside lease member
      · cases List.mem_singleton.mp member
        exact running_lt running
    · exact fun _ other found present => acquired.kept present

theorem update_self (running : system.running index = some process) :
    system.update index process = system := by
  rcases List.getElem?_eq_some_iff.mp (running_found running).1 with ⟨bound, rfl⟩
  rw [update, List.set_getElem_self bound]

theorem Consistent.reacquire (consistent : system.Consistent)
    (running : system.running index = some process) {position : Nat}
    {lease current : Lease} (found : process.leases[position]? = some lease)
    {registry : Registry} {created : Option Client}
    (fresh : ∀ client, created = some client → client.creator = index)
    (elsewhere : ∀ target, lease.holds index target = false)
    (holds : current.closed = false ∧ current.acquirer = index ∧
      current.pid = process.pid)
    (acquired : process.registry.Acquired process.pid created current.target registry
      current.client) :
    (system.update index
      { process with
        registry
        leases := process.leases.set position current }).Consistent := by
  have members : ∀ other ∈ process.leases.set position current,
      other = current ∨ other ∈ process.leases :=
    fun other member => (List.mem_or_eq_of_mem_set member).symm
  apply consistent.update running
  · intro _
    apply (consistent.processes index process running).acquire acquired fresh holds members
    intro target
    have one := Process.holders_set registry current found index target
    simpa only [elsewhere, Bool.false_eq_true, if_false, Nat.add_zero, Lease.holds_iff,
      holds, true_and, eq_comm (b := target)] using one
  · intro other member
    rcases members other member with rfl | member
    · exact holds.2.1 ▸ running_lt running
    · exact consistent.acquirers process (running_mem running) other member
  · exact fun _ target client present => acquired.kept present

theorem Consistent.request (consistent : system.Consistent)
    (running : system.running index = some process) {position : Nat} {lease : Lease}
    (found : process.leases[position]? = some lease) (configured : Bool) :
    (system.request index process position lease configured).Consistent := by
  have own := consistent.processes index process running
  have member : lease ∈ process.leases := List.mem_of_getElem? found
  have again : system.create.update index process = system.create :=
    update_self running
  cases lease.currentClient_cases process.registry index process.pid
    (system.newHttpClient index lease.target.verifyTls configured) with
  | closed _ given =>
      simpa only [System.request, given, set_self found, again] using consistent.create
  | here isOpen same given =>
      have held : lease.holds index lease.target = true :=
        Lease.holds_iff.mpr ⟨isOpen, (own.recorded lease member isOpen).mp same, rfl⟩
      simp only [System.request, given, set_self found, again]
      exact consistent.create.send running (own.shared lease member _ held)
  | raised given =>
      simp only [System.request, given, set_self found]
      apply consistent.create.update running
      · exact fun _ => own.reset
      · exact consistent.acquirers process (running_mem running)
      · intro _ other found present
        rw [Process.client_reset]
        exact present
  | @acquired registry client isOpen foreign acquired given =>
      have elsewhere : ∀ target, lease.holds index target = false := by
        intro target
        apply Bool.eq_false_iff.mpr
        intro held
        have acquirer := (Lease.holds_iff.mp held).2.1
        exact foreign ((own.recorded lease member isOpen).mpr acquirer)
      let current : Lease := { lease with pid := registry.pid, client, acquirer := index }
      have holds : current.closed = false ∧ current.acquirer = index ∧
          current.pid = process.pid := ⟨isOpen, rfl, acquired.recorded⟩
      have updated := consistent.create.reacquire running found
        (fun client => newHttpClient_creator) elsewhere holds acquired
      simp only [System.request, given]
      apply updated.send
      · have here : system.create.running index = some process := running
        rw [running_update here, if_pos rfl]
        exact Option.filter_eq_some_iff.mpr ⟨rfl, (running_found running).2⟩
      · simp only [Process.client, acquired.clients, if_true]

theorem Consistent.close (consistent : system.Consistent)
    (running : system.running index = some process) {position : Nat} {lease : Lease}
    (found : process.leases[position]? = some lease) :
    (system.close index process position lease).Consistent := by
  have own := consistent.processes index process running
  unfold System.close Lease.close
  cases isClosed : lease.closed with
  | true => simpa only [if_true, set_self found, update_self running] using consistent
  | false =>
      simp only [Bool.false_eq_true, if_false]
      apply consistent.update running
      · exact fun _ => own.close found isClosed
      · intro other member
        rcases List.mem_or_eq_of_mem_set member with member | rfl
        · exact consistent.acquirers process (running_mem running) other member
        · exact consistent.acquirers process (running_mem running) lease
            (List.mem_of_getElem? found)
      · intro _ target client present
        rw [Process.client] at present ⊢
        rwa [Registry.release_client]

theorem Consistent.exit (consistent : system.Consistent)
    (running : system.running index = some process) :
    (system.exit index process).Consistent := by
  apply consistent.update running
  · exact fun alive => absurd alive Bool.false_ne_true
  · exact consistent.acquirers process (running_mem running)
  · exact fun alive => absurd alive Bool.false_ne_true

theorem Consistent.fork (consistent : system.Consistent)
    (running : system.running index = some process) {pid : Nat} {hooked : Bool}
    (leases : ∀ lease ∈ process.leases, lease.closed = false → lease.pid ≠ pid)
    (registry : hooked = false → process.registry.pid ≠ pid) :
    (system.fork process pid hooked).Consistent := by
  have child : ∀ registry : Registry,
      (∀ target, registry.snapshot pid target = none) →
      ({ process with pid, registry } : Process).Consistent system.processes.length := by
    intro registry absent
    apply Process.Consistent.of_fresh absent
    · intro lease member
      exact Nat.ne_of_lt (consistent.acquirers process (running_mem running) lease member)
    · exact leases
  have before : ∀ other found,
      (system.fork process pid hooked).running other = some found →
      other < system.processes.length → system.running other = some found := by
    intro other found present bound
    rw [System.running, System.fork, List.getElem?_append_left bound] at present
    exact present
  have last : ∀ other found,
      (system.fork process pid hooked).running other = some found →
      ¬other < system.processes.length →
      other = system.processes.length ∧ found.Consistent other := by
    intro other found present bound
    have position := running_lt present
    rw [System.fork, List.length_append, List.length_singleton] at position
    have same : other = system.processes.length := by omega
    subst same
    rw [System.running, System.fork, List.getElem?_concat_length] at present
    rcases Option.filter_eq_some_iff.mp present with ⟨equal, _⟩
    cases equal
    refine ⟨rfl, child _ ?_⟩
    cases hooked with
    | true => exact fun target => Registry.empty_snapshot pid target
    | false => exact fun target => Registry.snapshot_empty (registry rfl) target
  have length : (system.fork process pid hooked).processes.length =
      system.processes.length + 1 := by
    rw [System.fork, List.length_append, List.length_singleton]
  constructor
  · intro other found present
    by_cases bound : other < system.processes.length
    · exact consistent.processes other found (before other found present bound)
    · exact (last other found present bound).2
  · intro other member lease inside
    rw [length]
    rcases List.mem_append.mp member with member | member
    · exact Nat.lt_succ_of_lt (consistent.acquirers other member lease inside)
    · cases List.mem_singleton.mp member
      exact Nat.lt_succ_of_lt
        (consistent.acquirers process (running_mem running) lease inside)
  · intro sending member
    rw [length]
    exact Nat.lt_succ_of_lt (consistent.senders sending member)
  · exact consistent.own
  · exact consistent.oneClient
  · intro sending member other present
    exact consistent.current sending member other
      (before _ other present (consistent.senders sending member))

/-- A fork gives the child a process id that no lease it inherits open has
recorded and, without the hooks, that the registry has not recorded either. -/
def Unrecorded (system : System) : Event → Prop
  | .fork index pid hooked =>
      ∀ process ∈ system.running index,
        (∀ lease ∈ process.leases, lease.closed = false → lease.pid ≠ pid) ∧
          (hooked = false → process.registry.pid ≠ pid)
  | _ => True

instance Unrecorded.decidable (system : System) (event : Event) :
    Decidable (Unrecorded system event) := by
  unfold Unrecorded
  split <;> infer_instance

theorem Consistent.step (consistent : system.Consistent) {event : Event}
    {later : System} (unrecorded : Unrecorded system event)
    (stepped : step system event = some later) : later.Consistent := by
  cases event with
  | acquire index target token configured =>
      rcases Option.map_eq_some_iff.mp stepped with ⟨process, running, rfl⟩
      exact consistent.acquire running target token configured
  | request index position configured =>
      rcases Option.bind_eq_some_iff.mp stepped with ⟨process, running, rest⟩
      rcases Option.map_eq_some_iff.mp rest with ⟨lease, found, rfl⟩
      exact consistent.request running found configured
  | close index position =>
      rcases Option.bind_eq_some_iff.mp stepped with ⟨process, running, rest⟩
      rcases Option.map_eq_some_iff.mp rest with ⟨lease, found, rfl⟩
      exact consistent.close running found
  | fork index pid hooked =>
      rcases Option.bind_eq_some_iff.mp stepped with ⟨process, running, rest⟩
      cases (Option.ite_none_right_eq_some.mp rest).2
      have fresh := unrecorded process running
      exact consistent.fork running fresh.1 fresh.2
  | exit index =>
      rcases Option.map_eq_some_iff.mp stepped with ⟨process, running, rfl⟩
      exact consistent.exit running

/-! ## Closing again -/

/-- The lease at `position` of the process `index` is closed. -/
def Closed (system : System) (index position : Nat) : Prop :=
  ∃ process lease, system.processes[index]? = some process ∧
    process.leases[position]? = some lease ∧ lease.closed = true

theorem Closed.update {position other : Nat} (closed : system.Closed other position)
    (running : system.running index = some process)
    (kept : ∀ lease, process.leases[position]? = some lease → lease.closed = true →
      next.leases[position]? = some lease) :
    (system.update index next).Closed other position := by
  rcases closed with ⟨found, lease, present, inside, isClosed⟩
  unfold Closed System.update
  by_cases same : index = other
  · subst same
    cases Option.some.inj ((running_found running).1.symm.trans present)
    exact ⟨next, lease, List.getElem?_set_self (running_lt running),
      kept lease inside isClosed, isClosed⟩
  · exact ⟨found, lease, (List.getElem?_set_ne same).trans present, inside, isClosed⟩

theorem set_keeps {position place : Nat} {lease current kept : Lease}
    (found : process.leases[place]? = some lease)
    (same : lease.closed = true → current = lease)
    (inside : process.leases[position]? = some kept) (isClosed : kept.closed = true) :
    (process.leases.set place current)[position]? = some kept := by
  by_cases equal : place = position
  · subst equal
    cases Option.some.inj (found.symm.trans inside)
    rw [same isClosed, set_self found, found]
  · exact (List.getElem?_set_ne equal).trans inside

theorem Closed.step {position : Nat} {event : Event} {later : System}
    (closed : system.Closed index position) (stepped : step system event = some later) :
    later.Closed index position := by
  cases event with
  | acquire acting target token configured =>
      rcases Option.map_eq_some_iff.mp stepped with ⟨process, running, rfl⟩
      have created : system.create.Closed index position := closed
      rcases given : process.registry.acquireTarget process.pid
        (system.newHttpClient acting target.verifyTls configured) target
        with ⟨registry, _ | client⟩
      · simp only [System.acquire, given]
        exact created.update running fun lease inside _ => inside
      · simp only [System.acquire, given]
        apply created.update running
        intro lease inside _
        rwa [List.getElem?_append_left (List.getElem?_eq_some_iff.mp inside).1]
  | request acting place configured =>
      rcases Option.bind_eq_some_iff.mp stepped with ⟨process, running, rest⟩
      rcases Option.map_eq_some_iff.mp rest with ⟨lease, found, rfl⟩
      have created : system.create.Closed index position := closed
      have result := lease.currentClient_cases process.registry acting process.pid
        (system.newHttpClient acting lease.target.verifyTls configured)
      have kept : ∀ current registry, (lease.closed = true → current = lease) →
          (system.create.update acting
            { process with
              registry
              leases := process.leases.set place current }).Closed index position :=
        fun current registry same =>
          created.update running fun other inside => set_keeps found same inside
      cases result with
      | closed _ given =>
          simp only [System.request, given]
          exact kept _ _ fun _ => rfl
      | here _ _ given =>
          simp only [System.request, given]
          exact kept _ _ fun _ => rfl
      | raised given =>
          simp only [System.request, given]
          exact kept _ _ fun _ => rfl
      | acquired isOpen _ _ given =>
          simp only [System.request, given]
          exact kept _ _ fun isClosed =>
            absurd (isOpen.symm.trans isClosed) Bool.false_ne_true
  | close acting place =>
      rcases Option.bind_eq_some_iff.mp stepped with ⟨process, running, rest⟩
      rcases Option.map_eq_some_iff.mp rest with ⟨lease, found, rfl⟩
      apply closed.update running
      intro other inside isClosed
      show (process.leases.set place
        (lease.close process.registry process.pid).1)[position]? = some other
      apply set_keeps found _ inside isClosed
      exact fun isClosed => congrArg Prod.fst (Lease.close_closed isClosed)
  | fork acting pid hooked =>
      rcases Option.bind_eq_some_iff.mp stepped with ⟨process, running, rest⟩
      cases (Option.ite_none_right_eq_some.mp rest).2
      rcases closed with ⟨found, lease, present, rest⟩
      refine ⟨found, lease, ?_, rest⟩
      rw [System.fork,
        List.getElem?_append_left (List.getElem?_eq_some_iff.mp present).1]
      exact present
  | exit acting =>
      rcases Option.map_eq_some_iff.mp stepped with ⟨process, running, rfl⟩
      exact closed.update running fun lease inside _ => inside

theorem Closed.again {position : Nat} {later : System}
    (closed : system.Closed index position)
    (stepped : HttpPool.step system (.close index position) = some later) :
    later = system := by
  rcases Option.bind_eq_some_iff.mp stepped with ⟨process, running, rest⟩
  rcases Option.map_eq_some_iff.mp rest with ⟨lease, found, rfl⟩
  rcases closed with ⟨same, other, present, inside, isClosed⟩
  cases Option.some.inj ((running_found running).1.symm.trans present)
  cases Option.some.inj (found.symm.trans inside)
  simp only [System.close, Lease.close_closed isClosed, set_self found]
  exact update_self running

theorem closed_of_close {position : Nat} {later : System}
    (stepped : HttpPool.step system (.close index position) = some later) :
    later.Closed index position := by
  rcases Option.bind_eq_some_iff.mp stepped with ⟨process, running, rest⟩
  rcases Option.map_eq_some_iff.mp rest with ⟨lease, found, rfl⟩
  have inside := (List.getElem?_eq_some_iff.mp found).1
  unfold Closed System.close System.update
  refine ⟨_, (lease.close process.registry process.pid).1,
    List.getElem?_set_self (running_lt running), List.getElem?_set_self inside, ?_⟩
  unfold Lease.close
  split
  · assumption
  · rfl

/-- Whatever happens after a lease is closed, closing it again changes nothing;
nor does closing a copy that was inherited closed. -/
structure ClosesOnce (system : System) : Prop where
  inherited : ∀ index position next, system.Closed index position →
    HttpPool.step system (.close index position) = some next → next = system
  again : ∀ index position closed events later next,
    HttpPool.step system (.close index position) = some closed →
    run HttpPool.step closed events = some later →
    HttpPool.step later (.close index position) = some next → next = later

theorem closesOnce (system : System) : system.ClosesOnce where
  inherited _ _ _ closed stepped := closed.again stepped
  again := by
    intro index position closed events later next first ran stepped
    have kept : later.Closed index position :=
      invariant_of_run (fun system => system.Closed index position)
        (fun _ _ _ closed stepped => closed.step stepped) (closed_of_close first) ran
    exact kept.again stepped

/-- In every run in which no fork reuses a process id that is still recorded,
the registry of each process counts the open leases that acquired there, and a
lease sends through the client of its process. -/
theorem run_accounted {pid : Nat} {events : List Event} {final : System}
    (ran : run HttpPool.step (initial pid) events = some final)
    (fresh : Meets HttpPool.step Unrecorded (initial pid) events) :
    final.Accounted ∧ final.ClosesOnce := by
  refine ⟨?_, closesOnce final⟩
  have consistent : final.Consistent :=
    invariant_under System.Consistent
      (fun _ _ _ consistent unrecorded stepped => consistent.step unrecorded stepped)
      (initial_consistent pid) fresh ran
  exact consistent.accounted

def gateway : Target where
  scheme := "https"
  server := "gateway.example:443"
  verifyTls := true

def handedDown : List Event :=
  [.acquire 0 gateway "token" true, .fork 0 11 true, .request 1 0 true, .close 1 0,
    .request 0 0 true, .close 1 0]

theorem run_accounted_handedDown :
    (after HttpPool.step (initial 10) handedDown).Accounted ∧
      (after HttpPool.step (initial 10) handedDown).ClosesOnce :=
  run_accounted (run_eq_after (by decide +kernel)) (by decide +kernel)

def reused : List Event :=
  [.acquire 0 gateway "token" true, .fork 0 11 true, .exit 0, .fork 1 10 true,
    .request 2 0 true]

theorem reused_pid_sends_foreign :
    ¬∀ (pid : Nat) (events : List Event) (final : System),
      run HttpPool.step (initial pid) events = some final →
      final.Accounted ∧ final.ClosesOnce := by
  intro claim
  have ran : run HttpPool.step (initial 10) reused =
      some (after HttpPool.step (initial 10) reused) := run_eq_after (by decide +kernel)
  have own := (claim 10 reused _ ran).1.own
  revert own
  decide +kernel

end System

end YrSandbox.Transport.HttpPool
