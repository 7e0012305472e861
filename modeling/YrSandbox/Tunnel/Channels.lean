import YrSandbox.Foundation.Eviction
import YrSandbox.Tunnel.ReceiveLoop

/-! # The channels of a connection

The tables `ws_channels` and `ws_tasks` of one `_proxy_loop`, the queues that they name and
the tasks that run `handle_ws_connect`. A task goes on for some turns after it was given
up, and a new channel may by then have its id. -/

namespace YrSandbox.Tunnel

open Python Transition Eviction

/-! ## State -/

inductive ServicePhase
  | created -- without a turn yet
  | running
  | cancelled -- `CancelledError` is raised in it, and its `finally` clause comes
  | done
deriving DecidableEq, Repr

def ServicePhase.isLive : ServicePhase → Bool
  | created | running => true
  | cancelled | done => false

/-- `task.cancel()`. A task without a turn ends before its `try` statement. -/
def ServicePhase.cancel : ServicePhase → ServicePhase
  | created => done
  | running => cancelled
  | cancelled => cancelled
  | done => done

theorem ServicePhase.cancel_isLive (phase : ServicePhase) : phase.cancel.isLive = false := by
  cases phase <;> rfl

/-- A call of `handle_ws_connect`, with the queue that it was given and what its
`from_sandbox` has taken out of it. -/
structure Service where
  rid : Text
  queue : BoundedQueue ChannelFrame
  taken : List ChannelFrame
  phase : ServicePhase

def Service.received (service : Service) : List ChannelFrame :=
  service.taken ++ service.queue.items

inductive LoopStage
  | listening
  | ended -- before the `finally` clause cancels the tasks
  | gathering
  | left
deriving DecidableEq, Repr

inductive OtherUse
  | stream
  | inflight
deriving DecidableEq, Repr

/-- The state of one `_proxy_loop`. Services are numbered in the order of their start; the
number of a service names its queue and its task. -/
structure Channels where
  own : ClientLimits
  limits : NegotiatedLimits
  now : Int
  wsChannels : List (Text × Nat)
  wsTasks : List (Text × Nat)
  service : Nat → Service
  started : Nat
  terminated : Terminated Text
  stage : LoopStage
  errors : List (Text × String)

namespace Channels

def initial (own : ClientLimits) (terminated : Terminated Text) : Channels where
  own := own
  limits := own.opening
  now := 0
  wsChannels := []
  wsTasks := []
  service := fun _ => ⟨[], .empty 0, [], .done⟩
  started := 0
  terminated := terminated
  stage := .listening
  errors := []

/-! ## Turns -/

/-- `if entries.get(rid) is ...: entries.pop(rid, None)` -/
def popOwn (rid : Text) (number : Nat) (entries : List (Text × Nat)) :
    List (Text × Nat) :=
  if entries.lookup rid = some number then Association.pop rid entries else entries

def answer (rid : Text) (message : String) (channels : Channels) : Channels :=
  { channels with errors := channels.errors ++ [(rid, message)] }

def remember (rid : Text) (channels : Channels) : Channels :=
  { channels with terminated := channels.terminated.remember rid channels.now }

def modify (number : Nat) (change : Service → Service) (channels : Channels) : Channels :=
  { channels with
    service := fun other =>
      if other = number then change (channels.service other) else channels.service other }

def cancel (number : Nat) (channels : Channels) : Channels :=
  channels.modify number fun service => { service with phase := service.phase.cancel }

def wsConnect (rid : Text) (channels : Channels) : Channels :=
  if rid = [] then channels
  else if (channels.wsChannels.lookup rid).isSome then
    channels.answer rid "duplicate WebSocket channel id"
  else
    let (isTerminated, terminated) := channels.terminated.isTerminated rid channels.now
    let checked := { channels with terminated }
    if isTerminated then checked.answer rid "duplicate WebSocket channel id"
    else if channels.limits.negotiatedMaxInflight ≤ channels.wsChannels.length then
      checked.answer rid "tunnel WebSocket channel limit reached"
    else
      let channelLimit := ReceiveLoop.channelLimit channels.limits
      { checked.modify channels.started fun _ => ⟨rid, .empty channelLimit, [], .created⟩ with
        wsChannels := Association.store rid channels.started channels.wsChannels
        wsTasks := Association.store rid channels.started channels.wsTasks
        started := channels.started + 1 }

/-- `ws_tasks.pop(rid, None)`, the task being cancelled, and `ws_channels.pop(rid, None)` -/
def giveUp (rid : Text) (channels : Channels) : Channels :=
  let cancelled :=
    match channels.wsTasks.lookup rid with
    | some number => channels.cancel number
    | none => channels
  { cancelled with
    wsTasks := Association.pop rid channels.wsTasks
    wsChannels := Association.pop rid channels.wsChannels }.remember rid

/-- A binary frame for a channel that is not open ends the loop, unless its id is known as
terminated. -/
def absorb (rid : Text) (channels : Channels) : Channels :=
  let (isTerminated, terminated) := channels.terminated.isTerminated rid channels.now
  if isTerminated then { channels with terminated }
  else { channels with terminated, stage := .ended }

/-- The branches of `ws_message`, `ws_close` and `WS_BINARY_DATA` -/
def receive (rid : Text) (frame : ChannelFrame) (channels : Channels) : Channels :=
  match channels.wsChannels.lookup rid with
  | none =>
      match frame with
      | .json _ => channels
      | .binary _ => channels.absorb rid
  | some number =>
      match (channels.service number).queue.put? frame with
      | some queue => channels.modify number fun service => { service with queue }
      | none => (channels.giveUp rid).answer rid "WebSocket channel queue limit reached"

/-- The `error` branch, as far as it gets to the channels -/
def peerError (rid : Text) (use : Option OtherUse) (channels : Channels) : Channels :=
  match use with
  | some .stream => channels.remember rid
  | some .inflight => channels
  | none => if (channels.wsTasks.lookup rid).isSome then channels.giveUp rid else channels

/-- `queue.get()` in `from_sandbox`, which outlives a cancelled `handle_ws_connect`. -/
def take (number : Nat) (channels : Channels) : Option Channels :=
  (channels.service number).queue.get?.map fun (frame, queue) =>
    channels.modify number fun service =>
      { service with queue, taken := service.taken ++ [frame] }

/-- The `finally` clause of `handle_ws_connect` -/
def finish (number : Nat) (channels : Channels) : Channels :=
  let rid := (channels.service number).rid
  { channels.modify number fun service => { service with phase := .done } with
    wsChannels := popOwn rid number channels.wsChannels
    wsTasks := popOwn rid number channels.wsTasks }.remember rid

/-- `tasks.difference(http_tasks)` are cancelled. -/
def cancelTasks (channels : Channels) : Channels :=
  { channels with
    stage := .gathering
    service := fun number =>
      { channels.service number with phase := (channels.service number).phase.cancel } }

def isGathered (channels : Channels) : Bool :=
  (List.range channels.started).all fun number =>
    (channels.service number).phase = .done

/-! ## Runs -/

/-- A frame that the receive loop handles, or a turn of something else. What takes up ids
beside the channels is remembered as terminated too. -/
inductive Event
  | hello (frame : HelloFrame)
  | wsConnect (rid : Text)
  | receive (rid : Text) (frame : ChannelFrame)
  | peerError (rid : Text) (use : Option OtherUse)
  | start (number : Nat)
  | take (number : Nat)
  | finish (number : Nat)
  | remember (rid : Text)
  | tick (elapsed : Nat)
  | endLoop
  | cancelTasks
  | clear

def step (channels : Channels) : Event → Option Channels
  | .hello frame =>
      if channels.stage = .listening then
        some { channels with limits := channels.own.hello frame channels.limits }
      else none
  | .wsConnect rid =>
      if channels.stage = .listening then some (channels.wsConnect rid) else none
  | .receive rid frame =>
      if channels.stage = .listening then some (channels.receive rid frame) else none
  | .peerError rid use =>
      if channels.stage = .listening then some (channels.peerError rid use) else none
  | .start number =>
      if (channels.service number).phase = .created then
        some (channels.modify number fun service => { service with phase := .running })
      else none
  | .take number =>
      if (channels.service number).phase = .created then none else channels.take number
  | .finish number =>
      if (channels.service number).phase = .running ∨
          (channels.service number).phase = .cancelled then
        some (channels.finish number)
      else none
  | .remember rid => some (channels.remember rid)
  | .tick elapsed => some { channels with now := channels.now + elapsed }
  | .endLoop =>
      if channels.stage = .listening then some { channels with stage := .ended } else none
  | .cancelTasks =>
      if channels.stage = .ended then some channels.cancelTasks else none
  | .clear =>
      if channels.stage = .gathering ∧ channels.isGathered then
        some { channels with stage := .left, wsChannels := [] }
      else none

/-! ## The tables -/

theorem mem_popOwn {entries : List (Text × Nat)} (distinct : Distinct entries)
    {rid : Text} {number : Nat} {entry : Text × Nat} :
    entry ∈ popOwn rid number entries ↔ entry ∈ entries ∧ entry ≠ (rid, number) := by
  rw [popOwn]
  by_cases own : entries.lookup rid = some number
  · have isEntry := distinct.lookup_eq_some_iff.mp own
    rw [if_pos own, distinct.mem_pop]
    constructor
    · rintro ⟨member, different⟩
      exact ⟨member, fun same => different (congrArg Prod.fst same)⟩
    · rintro ⟨member, different⟩
      exact ⟨member, fun same => different (distinct.eq_of_key member isEntry same)⟩
  · rw [if_neg own]
    constructor
    · intro member
      refine ⟨member, ?_⟩
      rintro rfl
      exact own (distinct.lookup_eq_some_iff.mpr member)
    · exact And.left

theorem popOwn_sublist (rid : Text) (number : Nat) (entries : List (Text × Nat)) :
    (popOwn rid number entries).Sublist entries := by
  rw [popOwn]
  split
  · exact Association.pop_sublist
  · exact List.Sublist.refl entries

theorem store_absent {entries : List (Text × Nat)} {rid : Text} {number : Nat}
    (absent : entries.lookup rid = none) :
    Association.store rid number entries = entries ++ [(rid, number)] := by
  rw [Association.store, absent]
  rfl

/-- The entries are those of the tasks that were not given up, and both tables have
them. -/
structure Kept (channels : Channels) : Prop where
  tables : channels.stage ≠ .left → channels.wsTasks = channels.wsChannels
  distinct : Distinct channels.wsTasks
  entry : ∀ entry ∈ channels.wsTasks, entry.2 < channels.started ∧
    (channels.service entry.2).rid = entry.1
  entryLive : channels.stage = .listening ∨ channels.stage = .ended →
    ∀ entry ∈ channels.wsTasks, (channels.service entry.2).phase.isLive = true
  live : ∀ number, (channels.service number).phase.isLive = true →
    ((channels.service number).rid, number) ∈ channels.wsTasks
  within : channels.wsChannels.length ≤ channels.own.maxInflight
  reached : channels.limits.Reached channels.own
  gathered : channels.stage = .gathering ∨ channels.stage = .left →
    ∀ number, (channels.service number).phase.isLive = false
  emptied : channels.stage = .left → channels.wsChannels = []
  finished : channels.stage = .left → ∀ number, (channels.service number).phase = .done
  fresh : ∀ number, channels.started ≤ number →
    (channels.service number).received = [] ∧ (channels.service number).phase = .done

namespace Kept

variable {channels : Channels}

theorem initial (own : ClientLimits) (terminated : Terminated Text) :
    Kept (initial own terminated) where
  tables _ := rfl
  distinct := List.nodup_nil
  entry := nofun
  entryLive _ := nofun
  live _ isLive := nomatch isLive
  within := Nat.zero_le _
  reached := .inl rfl
  gathered stage := by rcases stage with stage | stage <;> cases stage
  emptied stage := nomatch stage
  finished stage := nomatch stage
  fresh _ _ := ⟨rfl, rfl⟩

theorem started_of_phase (kept : Kept channels) {number : Nat}
    (phase : (channels.service number).phase ≠ .done) : number < channels.started := by
  by_contra beyond
  exact phase (kept.fresh number (Nat.le_of_not_lt beyond)).2

theorem started_of_entry (kept : Kept channels) {rid : Text} {number : Nat}
    (looked : channels.wsTasks.lookup rid = some number) :
    number < channels.started ∧ (channels.service number).rid = rid :=
  kept.entry (rid, number) (kept.distinct.lookup_eq_some_iff.mp looked)

theorem modify (kept : Kept channels) {number : Nat} {change : Service → Service}
    (started : number < channels.started)
    (rid : (change (channels.service number)).rid = (channels.service number).rid)
    (live : (change (channels.service number)).phase.isLive =
      (channels.service number).phase.isLive)
    (finished : channels.stage = .left → (change (channels.service number)).phase = .done) :
    Kept (channels.modify number change) := by
  have sameRid (other : Nat) : ((channels.modify number change).service other).rid =
      (channels.service other).rid := by
    by_cases same : other = number
    · subst same
      simpa only [Channels.modify, if_true] using rid
    · simp only [Channels.modify, if_neg same]
  have sameLive (other : Nat) :
      ((channels.modify number change).service other).phase.isLive =
        (channels.service other).phase.isLive := by
    by_cases same : other = number
    · subst same
      simpa only [Channels.modify, if_true] using live
    · simp only [Channels.modify, if_neg same]
  constructor
  · exact kept.tables
  · exact kept.distinct
  · intro entry member
    rw [sameRid]
    exact kept.entry entry member
  · intro stage entry member
    rw [sameLive]
    exact kept.entryLive stage entry member
  · intro other isLive
    rw [sameLive] at isLive
    rw [sameRid]
    exact kept.live other isLive
  · exact kept.within
  · exact kept.reached
  · intro stage other
    rw [sameLive]
    exact kept.gathered stage other
  · exact kept.emptied
  · intro stage other
    by_cases same : other = number
    · subst same
      simpa only [Channels.modify, if_true] using finished stage
    · simpa only [Channels.modify, if_neg same] using kept.finished stage other
  · intro other beyond
    have different : other ≠ number := by
      rintro rfl
      exact Nat.not_lt.mpr beyond started
    simpa only [Channels.modify, if_neg different] using kept.fresh other beyond

theorem remember (kept : Kept channels) (rid : Text) : Kept (channels.remember rid) :=
  ⟨kept.tables, kept.distinct, kept.entry, kept.entryLive, kept.live, kept.within,
    kept.reached, kept.gathered, kept.emptied, kept.finished, kept.fresh⟩

theorem answer (kept : Kept channels) (rid : Text) (message : String) :
    Kept (channels.answer rid message) :=
  ⟨kept.tables, kept.distinct, kept.entry, kept.entryLive, kept.live, kept.within,
    kept.reached, kept.gathered, kept.emptied, kept.finished, kept.fresh⟩

theorem forget (kept : Kept channels) (terminated : Terminated Text) :
    Kept { channels with terminated } :=
  ⟨kept.tables, kept.distinct, kept.entry, kept.entryLive, kept.live, kept.within,
    kept.reached, kept.gathered, kept.emptied, kept.finished, kept.fresh⟩

theorem endLoop (kept : Kept channels) (listening : channels.stage = .listening) :
    Kept { channels with stage := .ended } where
  tables _ := kept.tables (by simp [listening])
  distinct := kept.distinct
  entry := kept.entry
  entryLive _ := kept.entryLive (.inl listening)
  live := kept.live
  within := kept.within
  reached := kept.reached
  gathered stage := by rcases stage with stage | stage <;> cases stage
  emptied stage := nomatch stage
  finished stage := nomatch stage
  fresh := kept.fresh

theorem retire (kept : Kept channels) {number : Nat} {change : Service → Service}
    {wsTasks wsChannels : List (Text × Nat)}
    (started : number < channels.started)
    (rid : (change (channels.service number)).rid = (channels.service number).rid)
    (retired : (change (channels.service number)).phase.isLive = false)
    (finished : channels.stage = .left → (change (channels.service number)).phase = .done)
    (tasks : ∀ entry, entry ∈ wsTasks ↔
      entry ∈ channels.wsTasks ∧ entry ≠ ((channels.service number).rid, number))
    (tasksLess : wsTasks.Sublist channels.wsTasks)
    (channelsLess : wsChannels.Sublist channels.wsChannels)
    (tables : channels.stage ≠ .left → wsTasks = wsChannels) :
    Kept { channels.modify number change with wsTasks, wsChannels } := by
  have other {entry : Text × Nat} (member : entry ∈ wsTasks) : entry.2 ≠ number := by
    rintro rfl
    rcases (tasks entry).mp member with ⟨isEntry, different⟩
    have same := (kept.entry entry isEntry).2
    exact different (by rw [same])
  constructor
  · exact tables
  · exact kept.distinct.sublist tasksLess
  · intro entry member
    have isEntry := kept.entry entry (tasksLess.mem member)
    simpa only [Channels.modify, if_neg (other member)] using isEntry
  · intro stage entry member
    have isLive := kept.entryLive stage entry (tasksLess.mem member)
    simpa only [Channels.modify, if_neg (other member)] using isLive
  · intro another isLive
    by_cases same : another = number
    · subst same
      simp only [Channels.modify, if_true] at isLive
      rw [retired] at isLive
      cases isLive
    · simp only [Channels.modify, if_neg same] at isLive ⊢
      apply (tasks _).mpr ⟨kept.live another isLive, ?_⟩
      intro equal
      exact same (congrArg Prod.snd equal)
  · exact Nat.le_trans channelsLess.length_le kept.within
  · exact kept.reached
  · intro stage another
    by_cases same : another = number
    · subst same
      simpa only [Channels.modify, if_true] using retired
    · simpa only [Channels.modify, if_neg same] using kept.gathered stage another
  · intro stage
    have empty := kept.emptied stage
    rw [empty] at channelsLess
    exact List.sublist_nil.mp channelsLess
  · intro stage another
    by_cases same : another = number
    · subst same
      simpa only [Channels.modify, if_true] using finished stage
    · simpa only [Channels.modify, if_neg same] using kept.finished stage another
  · intro another beyond
    have different : another ≠ number := by
      rintro rfl
      exact Nat.not_lt.mpr beyond started
    simpa only [Channels.modify, if_neg different] using kept.fresh another beyond

theorem giveUp (kept : Kept channels) {rid : Text} {number : Nat}
    (looked : channels.wsTasks.lookup rid = some number) :
    Kept (channels.giveUp rid) := by
  have isEntry := kept.started_of_entry looked
  have member := kept.distinct.lookup_eq_some_iff.mp looked
  rw [Channels.giveUp, looked]
  apply remember
  apply kept.retire isEntry.1 rfl
  · exact ServicePhase.cancel_isLive _
  · intro stage
    rw [kept.finished stage]
    rfl
  · intro entry
    rw [kept.distinct.mem_pop, isEntry.2]
    constructor
    · rintro ⟨isOther, different⟩
      exact ⟨isOther, fun same => different (congrArg Prod.fst same)⟩
    · rintro ⟨isOther, different⟩
      exact ⟨isOther, fun same => different (kept.distinct.eq_of_key isOther member same)⟩
  · exact Association.pop_sublist
  · exact Association.pop_sublist
  · intro stage
    rw [kept.tables stage]

theorem finish (kept : Kept channels) {number : Nat}
    (started : number < channels.started) : Kept (channels.finish number) := by
  apply remember
  apply kept.retire started rfl rfl fun _ => rfl
  · exact fun entry => mem_popOwn kept.distinct
  · exact popOwn_sublist _ _ _
  · exact popOwn_sublist _ _ _
  · intro stage
    rw [kept.tables stage]

theorem opens (kept : Kept channels) (listening : channels.stage = .listening)
    {rid : Text} (absent : channels.wsChannels.lookup rid = none)
    (room : channels.wsChannels.length < channels.limits.negotiatedMaxInflight)
    (queue : BoundedQueue ChannelFrame) :
    Kept
      { channels.modify channels.started fun _ => ⟨rid, queue, [], .created⟩ with
        wsChannels := Association.store rid channels.started channels.wsChannels
        wsTasks := Association.store rid channels.started channels.wsTasks
        started := channels.started + 1 } := by
  have tables := kept.tables (by simp [listening])
  have absentTask := tables ▸ absent
  rw [store_absent absent, store_absent absentTask]
  have older {entry : Text × Nat} (member : entry ∈ channels.wsTasks) :
      entry.2 ≠ channels.started := Nat.ne_of_lt (kept.entry entry member).1
  constructor
  · intro _
    simp only [tables]
  · have stored := kept.distinct.store rid channels.started
    rwa [store_absent absentTask] at stored
  · intro entry member
    rcases List.mem_append.mp member with isOlder | isNew
    · have isEntry := kept.entry entry isOlder
      refine ⟨Nat.lt_succ_of_lt isEntry.1, ?_⟩
      simpa only [Channels.modify, if_neg (older isOlder)] using isEntry.2
    · cases List.mem_singleton.mp isNew
      refine ⟨Nat.lt_succ_self _, ?_⟩
      simp only [Channels.modify, if_true]
  · intro stage entry member
    rcases List.mem_append.mp member with isOlder | isNew
    · have isLive := kept.entryLive stage entry isOlder
      simpa only [Channels.modify, if_neg (older isOlder)] using isLive
    · cases List.mem_singleton.mp isNew
      simp only [Channels.modify, if_true]
      rfl
  · intro number isLive
    by_cases new : number = channels.started
    · subst new
      simp only [Channels.modify, if_true]
      exact List.mem_append_right _ List.mem_cons_self
    · simp only [Channels.modify, if_neg new] at isLive ⊢
      exact List.mem_append_left _ (kept.live number isLive)
  · rw [List.length_append]
    exact Nat.le_trans room kept.reached.inflight_le
  · exact kept.reached
  · intro stage
    rcases stage with stage | stage <;> exact absurd (listening.symm.trans stage) nofun
  · intro stage
    exact absurd (listening.symm.trans stage) nofun
  · intro stage
    exact absurd (listening.symm.trans stage) nofun
  · intro number beyond
    have different : number ≠ channels.started := Nat.ne_of_gt beyond
    simpa only [Channels.modify, if_neg different] using
      kept.fresh number (Nat.le_of_succ_le beyond)

theorem absorb (kept : Kept channels) (listening : channels.stage = .listening)
    (rid : Text) : Kept (channels.absorb rid) := by
  have checked := kept.forget (channels.terminated.isTerminated rid channels.now).2
  rw [Channels.absorb]
  dsimp only
  split
  · exact checked
  · exact checked.endLoop listening

theorem wsConnect (kept : Kept channels) (listening : channels.stage = .listening)
    (rid : Text) : Kept (channels.wsConnect rid) := by
  have checked := kept.forget (channels.terminated.isTerminated rid channels.now).2
  rw [Channels.wsConnect]
  split
  · exact kept
  · split
    · exact kept.answer rid _
    · rename_i absent
      dsimp only
      split
      · exact checked.answer rid _
      · split
        · exact checked.answer rid _
        · rename_i room
          exact checked.opens listening (Option.not_isSome_iff_eq_none.mp absent)
            (Nat.lt_of_not_le room) _

theorem receive (kept : Kept channels) (listening : channels.stage = .listening)
    (rid : Text) (frame : ChannelFrame) : Kept (channels.receive rid frame) := by
  have tables := kept.tables (by simp [listening])
  unfold Channels.receive
  split
  · split
    · exact kept
    · exact kept.absorb listening rid
  · rename_i number looked
    rw [← tables] at looked
    split
    · apply kept.modify (kept.started_of_entry looked).1 rfl rfl
      intro stage
      exact absurd (listening.symm.trans stage) nofun
    · exact (kept.giveUp looked).answer rid _

theorem peerError (kept : Kept channels) (rid : Text) (use : Option OtherUse) :
    Kept (channels.peerError rid use) := by
  unfold Channels.peerError
  split
  · exact kept.remember rid
  · exact kept
  · split
    · rename_i known
      rcases Option.isSome_iff_exists.mp known with ⟨number, looked⟩
      exact kept.giveUp looked
    · exact kept

theorem take (kept : Kept channels) {number : Nat} {next : Channels}
    (taken : channels.take number = some next) : Kept next := by
  rcases Option.map_eq_some_iff.mp taken with ⟨⟨frame, queue⟩, got, rfl⟩
  have started : number < channels.started := by
    by_contra beyond
    have empty := (kept.fresh number (Nat.le_of_not_lt beyond)).1
    rw [Service.received, (BoundedQueue.get?_eq_some got).1] at empty
    simp at empty
  exact kept.modify started rfl rfl fun stage => kept.finished stage number

theorem cancelTasks (kept : Kept channels) (ended : channels.stage = .ended) :
    Kept channels.cancelTasks where
  tables _ := kept.tables (by simp [ended])
  distinct := kept.distinct
  entry := kept.entry
  entryLive stage := by rcases stage with stage | stage <;> cases stage
  live number isLive := by
    rw [Channels.cancelTasks, ServicePhase.cancel_isLive] at isLive
    cases isLive
  within := kept.within
  reached := kept.reached
  gathered _ number := ServicePhase.cancel_isLive _
  emptied stage := nomatch stage
  finished stage := nomatch stage
  fresh number beyond := by
    have fresh := kept.fresh number beyond
    refine ⟨fresh.1, ?_⟩
    simp only [Channels.cancelTasks, fresh.2]
    rfl

theorem clear (kept : Kept channels) (gathering : channels.stage = .gathering)
    (gathered : channels.isGathered = true) :
    Kept { channels with stage := .left, wsChannels := [] } where
  tables stage := absurd rfl stage
  distinct := kept.distinct
  entry := kept.entry
  entryLive stage := by rcases stage with stage | stage <;> cases stage
  live := kept.live
  within := Nat.zero_le _
  reached := kept.reached
  gathered _ := kept.gathered (.inl gathering)
  emptied _ := rfl
  finished _ number := by
    by_cases started : number < channels.started
    · rw [isGathered, List.all_eq_true] at gathered
      simpa using gathered number (List.mem_range.mpr started)
    · exact (kept.fresh number (Nat.le_of_not_lt started)).2
  fresh := kept.fresh

end Kept

theorem step_kept (channels : Channels) (event : Event) (next : Channels)
    (kept : Kept channels) (stepped : step channels event = some next) : Kept next := by
  cases event with
  | hello frame =>
      simp only [step, Option.ite_none_right_eq_some, Option.some.injEq] at stepped
      rcases stepped with ⟨_, rfl⟩
      exact ⟨kept.tables, kept.distinct, kept.entry, kept.entryLive, kept.live, kept.within,
        kept.reached.hello frame, kept.gathered, kept.emptied, kept.finished, kept.fresh⟩
  | wsConnect rid =>
      simp only [step, Option.ite_none_right_eq_some, Option.some.injEq] at stepped
      rcases stepped with ⟨listening, rfl⟩
      exact kept.wsConnect listening rid
  | receive rid frame =>
      simp only [step, Option.ite_none_right_eq_some, Option.some.injEq] at stepped
      rcases stepped with ⟨listening, rfl⟩
      exact kept.receive listening rid frame
  | peerError rid use =>
      simp only [step, Option.ite_none_right_eq_some, Option.some.injEq] at stepped
      rcases stepped with ⟨_, rfl⟩
      exact kept.peerError rid use
  | start number =>
      simp only [step, Option.ite_none_right_eq_some, Option.some.injEq] at stepped
      rcases stepped with ⟨created, rfl⟩
      apply kept.modify (kept.started_of_phase (by simp [created])) rfl
      · rw [created]
        rfl
      · intro stage
        rw [kept.finished stage number] at created
        cases created
  | take number =>
      simp only [step, Option.ite_none_left_eq_some] at stepped
      exact kept.take stepped.2
  | finish number =>
      simp only [step, Option.ite_none_right_eq_some, Option.some.injEq] at stepped
      rcases stepped with ⟨unfinished, rfl⟩
      apply kept.finish (kept.started_of_phase ?_)
      rcases unfinished with phase | phase <;> simp [phase]
  | remember rid =>
      cases stepped
      exact kept.remember rid
  | tick elapsed =>
      cases stepped
      exact ⟨kept.tables, kept.distinct, kept.entry, kept.entryLive, kept.live, kept.within,
        kept.reached, kept.gathered, kept.emptied, kept.finished, kept.fresh⟩
  | endLoop =>
      simp only [step, Option.ite_none_right_eq_some, Option.some.injEq] at stepped
      rcases stepped with ⟨listening, rfl⟩
      exact kept.endLoop listening
  | cancelTasks =>
      simp only [step, Option.ite_none_right_eq_some, Option.some.injEq] at stepped
      rcases stepped with ⟨ended, rfl⟩
      exact kept.cancelTasks ended
  | clear =>
      simp only [step, Option.ite_none_right_eq_some, Option.some.injEq] at stepped
      rcases stepped with ⟨⟨gathering, gathered⟩, rfl⟩
      exact kept.clear gathering gathered

/-! ## What a channel receives -/

/-- A frame is put into the queue of a service if the service has the channel of its id, and
if there is room. -/
def accepted (number : Nat) (rid : Text) (frame : ChannelFrame) (channels : Channels) :
    List ChannelFrame :=
  if channels.wsChannels.lookup rid = some number ∧
      ((channels.service number).queue.put? frame).isSome then [frame]
  else []

def arrival (number : Nat) (channels : Channels) : Event → List ChannelFrame
  | .receive rid frame => channels.accepted number rid frame
  | _ => []

/-- The frames that came for the channel of a service, in the order of their arrival. -/
def arrivals (number : Nat) : Channels → List Event → List ChannelFrame :=
  outputs step (arrival number)

theorem received_modify {channels : Channels} {changed : Nat} (change : Service → Service)
    (same : (change (channels.service changed)).received =
      (channels.service changed).received) (number : Nat) :
    ((channels.modify changed change).service number).received =
      (channels.service number).received := by
  by_cases equal : number = changed
  · subst equal
    simpa only [modify, if_true] using same
  · simp only [modify, if_neg equal]

theorem received_giveUp (channels : Channels) (rid : Text) (number : Nat) :
    ((channels.giveUp rid).service number).received =
      (channels.service number).received := by
  unfold giveUp
  simp only [remember]
  split
  · exact received_modify (fun service => { service with phase := service.phase.cancel })
      rfl number
  · rfl

theorem received_receive (channels : Channels) (rid : Text) (frame : ChannelFrame)
    (number : Nat) :
    ((channels.receive rid frame).service number).received =
      (channels.service number).received ++ channels.accepted number rid frame := by
  unfold receive accepted
  cases looked : channels.wsChannels.lookup rid with
  | none =>
      have unchanged : ((channels.absorb rid).service number).received =
          (channels.service number).received := by
        unfold absorb
        dsimp only
        split <;> rfl
      cases frame <;> simp [unchanged]
  | some holder =>
      by_cases holds : holder = number
      · subst holds
        cases put : (channels.service holder).queue.put? frame with
        | none => simp [put, answer, received_giveUp]
        | some queue =>
            have items := (BoundedQueue.put?_eq_some put).2.1
            simp [put, modify, Service.received, items]
      · have unchanged {queue : BoundedQueue ChannelFrame} :
            ((channels.modify holder fun service => { service with queue }).service
              number).received = (channels.service number).received := by
          simp only [modify, if_neg (Ne.symm holds)]
        rw [if_neg fun both => holds (Option.some.inj both.1), List.append_nil]
        dsimp only
        split
        · exact unchanged
        · exact received_giveUp channels rid number

theorem received_take {channels next : Channels} {taker : Nat}
    (taken : channels.take taker = some next) (number : Nat) :
    (next.service number).received = (channels.service number).received := by
  rcases Option.map_eq_some_iff.mp taken with ⟨⟨frame, queue⟩, got, rfl⟩
  have items := (BoundedQueue.get?_eq_some got).1
  apply received_modify fun service =>
    { service with queue, taken := service.taken ++ [frame] }
  simp [Service.received, items]

theorem received_wsConnect {channels : Channels} (kept : Kept channels) (rid : Text)
    (number : Nat) : ((channels.wsConnect rid).service number).received =
      (channels.service number).received := by
  unfold wsConnect
  split
  · rfl
  · split
    · rfl
    · dsimp only
      split
      · rfl
      · split
        · rfl
        · have empty := (kept.fresh _ (Nat.le_refl _)).1
          exact received_modify
            (fun _ => ⟨rid, .empty (ReceiveLoop.channelLimit channels.limits), [], .created⟩)
            empty.symm number

theorem step_received {channels next : Channels} {event : Event} (kept : Kept channels)
    (stepped : step channels event = some next) (number : Nat) :
    (next.service number).received =
      (channels.service number).received ++ channels.arrival number event := by
  cases event with
  | receive rid frame =>
      simp only [step, Option.ite_none_right_eq_some, Option.some.injEq] at stepped
      rcases stepped with ⟨_, rfl⟩
      exact received_receive channels rid frame number
  | wsConnect rid =>
      simp only [step, Option.ite_none_right_eq_some, Option.some.injEq] at stepped
      rcases stepped with ⟨_, rfl⟩
      rw [received_wsConnect kept]
      exact (List.append_nil _).symm
  | peerError rid use =>
      simp only [step, Option.ite_none_right_eq_some, Option.some.injEq] at stepped
      rcases stepped with ⟨_, rfl⟩
      apply Eq.trans _ (List.append_nil _).symm
      unfold peerError
      split
      · rfl
      · rfl
      · split
        · exact received_giveUp channels rid number
        · rfl
  | start started =>
      simp only [step, Option.ite_none_right_eq_some, Option.some.injEq] at stepped
      rcases stepped with ⟨_, rfl⟩
      rw [received_modify (fun service => { service with phase := .running }) rfl]
      exact (List.append_nil _).symm
  | take taker =>
      simp only [step, Option.ite_none_left_eq_some] at stepped
      rw [received_take stepped.2]
      exact (List.append_nil _).symm
  | finish finished =>
      simp only [step, Option.ite_none_right_eq_some, Option.some.injEq] at stepped
      rcases stepped with ⟨_, rfl⟩
      apply Eq.trans _ (List.append_nil _).symm
      exact received_modify (fun service => { service with phase := .done }) rfl number
  | remember _ | tick _ =>
      cases stepped
      exact (List.append_nil _).symm
  | hello _ | endLoop | cancelTasks | clear =>
      simp only [step, Option.ite_none_right_eq_some, Option.some.injEq] at stepped
      rcases stepped with ⟨_, rfl⟩
      exact (List.append_nil _).symm

/-! ## Along a run -/

structure Serves (channels : Channels) : Prop where
  openIff : channels.stage = .listening → ∀ rid number,
    channels.wsChannels.lookup rid = some number ↔
      (channels.service number).rid = rid ∧ (channels.service number).phase.isLive = true
  tables : channels.stage = .listening → channels.wsTasks = channels.wsChannels
  single : ∀ number other, (channels.service number).phase.isLive = true →
    (channels.service other).phase.isLive = true →
    (channels.service number).rid = (channels.service other).rid → number = other
  within : channels.wsChannels.length ≤ channels.own.maxInflight
  closed : channels.stage = .left →
    channels.wsChannels = [] ∧ ∀ number, (channels.service number).phase = .done

theorem Kept.serves {channels : Channels} (kept : Kept channels) : Serves channels where
  openIff listening rid number := by
    rw [← kept.tables (by simp [listening]), kept.distinct.lookup_eq_some_iff]
    constructor
    · intro member
      exact ⟨(kept.entry _ member).2, kept.entryLive (.inl listening) _ member⟩
    · rintro ⟨rfl, isLive⟩
      exact kept.live number isLive
  tables listening := kept.tables (by simp [listening])
  single number other isLive otherLive same := by
    have equal := kept.distinct.eq_of_key (kept.live number isLive)
      (kept.live other otherLive) same
    exact congrArg Prod.snd equal
  within := kept.within
  closed stage := ⟨kept.emptied stage, kept.finished stage⟩

/-- In every run of a connection, an id has a channel exactly as long as a task serves it
that was not given up; what the task of a channel takes is what has arrived for this
channel, in order, however the ends of older tasks of the id come in between. -/
theorem run_serves {own : ClientLimits} {terminated : Terminated Text}
    {events : List Event} {final : Channels}
    (ran : run step (initial own terminated) events = some final) :
    Serves final ∧ ∀ number, (final.service number).taken ++
        (final.service number).queue.items =
      arrivals number (initial own terminated) events := by
  have kept := invariant_of_run Kept step_kept (.initial own terminated) ran
  refine ⟨kept.serves, fun number => ?_⟩
  exact log_of_run Kept (fun channels => (channels.service number).received) step_kept
    (fun _ _ _ kept stepped => step_received kept stepped number)
    (.initial own terminated) ran

/-- The peer gives up a channel and opens its id again after the time to live, before the
task of the first one has come to its clean-up. -/
def reopening : List Event :=
  [.wsConnect ['a'], .start 0, .receive ['a'] (.json []), .peerError ['a'] none,
    .tick (300 * 1000000000 + 1), .wsConnect ['a'], .finish 0, .receive ['a'] (.json []),
    .start 1, .take 1]

theorem run_serves_reopening :
    (after step (initial .default []) reopening).wsChannels.lookup ['a'] = some 1 ∧
      ((after step (initial .default []) reopening).service 1).taken ++
          ((after step (initial .default []) reopening).service 1).queue.items =
        arrivals 1 (initial .default []) reopening :=
  have serves := run_serves (run_eq_after (by decide))
  ⟨(serves.1.openIff (by decide) ['a'] 1).mpr (by decide), serves.2 1⟩

end Channels

end YrSandbox.Tunnel
