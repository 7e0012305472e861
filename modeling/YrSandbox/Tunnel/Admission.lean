import Mathlib.Data.List.Perm.Subperm
import YrSandbox.Tunnel.SessionTurns

/-! # Admission of requests

The receive loop admits a request by the size of `http_tasks` unless the id is known.
Every upstream request has a task there, so that the bound holds for those that are
executed; but what counts as known is not what is found when the request is handled. -/

namespace YrSandbox.Tunnel

open Python Transition

namespace Session

/-! ## The invariant -/

/-- Upstream requests that are executed are counted in `http_tasks`, the cache is within
its bounds, and an empty id is remembered nowhere. -/
structure Accounted (session : Session) : Prop where
  tracked : ∀ number, (session.task number).executes = true →
    number < session.started ∧ .upstream number ∈ session.httpTasks
  fits : session.completed.fits = true
  namedInflight : session.inflight [] = none
  namedCompleted : ∀ entry ∈ session.completed, entry.1 ≠ []

namespace Accounted

variable {session : Session}

theorem initial (limits : Limits) : Accounted (initial limits) where
  tracked := nofun
  fits := rfl
  namedInflight := rfl
  namedCompleted := nofun

theorem of_same {later : Session} (accounted : Accounted session)
    (task : later.task = session.task) (started : later.started = session.started)
    (httpTasks : later.httpTasks = session.httpTasks)
    (completed : later.completed = session.completed)
    (inflight : later.inflight = session.inflight) : Accounted later where
  tracked := by
    rw [task, started, httpTasks]
    exact accounted.tracked
  fits := completed ▸ accounted.fits
  namedInflight := inflight ▸ accounted.namedInflight
  namedCompleted := completed ▸ accounted.namedCompleted

theorem modifyTask (accounted : Accounted session) (number : Nat)
    {change : UpstreamTask → UpstreamTask}
    (stays : (change (session.task number)).executes = true →
      (session.task number).executes = true) :
    Accounted (session.modifyTask number change) where
  tracked := by
    intro other executes
    by_cases same : other = number
    · subst same
      simp only [Session.modifyTask, if_pos] at executes
      exact accounted.tracked other (stays executes)
    · simp only [Session.modifyTask, if_neg same] at executes
      exact accounted.tracked other executes
  fits := accounted.fits
  namedInflight := accounted.namedInflight
  namedCompleted := accounted.namedCompleted

theorem cancel (accounted : Accounted session) (number : Nat) :
    Accounted (session.modifyTask number UpstreamTask.cancel) := by
  apply accounted.modifyTask
  intro executes
  rw [UpstreamTask.executes]
  cases phase : (session.task number).phase with
  | created => rfl
  | running => rfl
  | cancelling => rfl
  | done result => simp [UpstreamTask.cancel, UpstreamTask.executes, phase] at executes
  | settled result => simp [UpstreamTask.cancel, UpstreamTask.executes, phase] at executes

theorem spawn (accounted : Accounted session) (rid : Text) (kind : TaskKind) :
    Accounted (session.spawn rid kind) where
  tracked := by
    intro other executes
    by_cases same : other = session.started
    · subst same
      exact ⟨Nat.lt_succ_self _, List.mem_append_right _ List.mem_cons_self⟩
    · simp only [Session.spawn, Session.modifyTask, if_neg same] at executes
      rcases accounted.tracked other executes with ⟨older, member⟩
      exact ⟨Nat.lt_succ_of_lt older, List.mem_append_left _ member⟩
  fits := accounted.fits
  namedInflight := accounted.namedInflight
  namedCompleted := accounted.namedCompleted

theorem setInflight (accounted : Accounted session) {rid : Text} (value : Option Nat)
    (named : rid ≠ []) :
    Accounted { session with inflight := session.inflight.set rid value } where
  tracked := accounted.tracked
  fits := accounted.fits
  namedInflight := by
    simp only [ById.set, if_neg named.symm]
    exact accounted.namedInflight
  namedCompleted := accounted.namedCompleted

theorem spawnReplay (accounted : Accounted session) : Accounted session.spawnReplay where
  tracked := by
    intro number executes
    rcases accounted.tracked number executes with ⟨older, member⟩
    exact ⟨older, List.mem_append_left _ member⟩
  fits := accounted.fits
  namedInflight := accounted.namedInflight
  namedCompleted := accounted.namedCompleted

theorem cleanupCompleted (accounted : Accounted session) :
    Accounted session.cleanupCompleted where
  tracked := accounted.tracked
  fits := Completed.cleanup_fits _ _
  namedInflight := accounted.namedInflight
  namedCompleted := by
    intro entry isEntry
    exact accounted.namedCompleted entry ((Completed.cleanup_sublist _ _).subset isEntry)

theorem answer (accounted : Accounted session) (rid : Text) (frame : Answer) :
    Accounted (session.answer rid frame) :=
  accounted.of_same rfl rfl rfl rfl rfl

/-! ### Turns -/

theorem handled (accounted : Accounted session) {rid : Text}
    (turn : HandleTurn session rid next) : Accounted next := by
  have cleaned := accounted.cleanupCompleted
  cases turn with
  | retained _ _ | answered _ _ _ => exact (cleaned.answer rid _).spawnReplay
  | awaited _ _ _ _ => exact cleaned.spawnReplay
  | begun named _ _ _ => exact (cleaned.spawn rid .small).setInflight _ named
  | unnamed _ => exact cleaned.spawn rid .small

theorem begins (accounted : Accounted session) {unicode : UnicodeData} {rid : Text}
    {contentLength : Option Int}
    (turn : BeginTurn unicode session rid contentLength next) : Accounted next := by
  cases turn with
  | begun _ _ _ _ _ => exact (accounted.spawn rid .stream).of_same rfl rfl rfl rfl rfl
  | _ => exact accounted.of_same rfl rfl rfl rfl rfl

theorem settledFrame (accounted : Accounted session) {number : Nat} (frame : CachedFrame)
    (named : (session.task number).rid ≠ []) :
    Accounted (Session.cleanupCompleted
      { session.modifyTask number fun task =>
          { task with phase := .settled (.frame frame) } with
        inflight := session.inflight.set (session.task number).rid none
        completed :=
          Association.store (session.task number).rid ⟨frame, session.now⟩
            session.completed }) := by
  have settled : Accounted
      (session.modifyTask number fun task =>
        { task with phase := .settled (.frame frame) }) :=
    accounted.modifyTask number nofun
  have popped := settled.setInflight none named
  exact
    { tracked := popped.tracked
      fits := Completed.cleanup_fits _ _
      namedInflight := popped.namedInflight
      namedCompleted := by
        intro entry isEntry
        have inserted := (Completed.cleanup_sublist _ _).subset isEntry
        rcases Association.mem_store inserted with isOld | rfl
        · exact accounted.namedCompleted entry isOld
        · exact named }

theorem erase (accounted : Accounted session) {member : HttpTask}
    (done : session.mayDiscard member = true) :
    Accounted { session with httpTasks := session.httpTasks.erase member } where
  tracked := by
    intro number executes
    rcases accounted.tracked number executes with ⟨older, isMember⟩
    refine ⟨older, (List.mem_erase_of_ne ?_).mpr isMember⟩
    rintro rfl
    rw [UpstreamTask.executes] at executes
    rw [mayDiscard] at done
    cases phase : (session.task number).phase <;>
      cases kind : (session.task number).kind <;>
        simp [phase, kind] at executes done
  fits := accounted.fits
  namedInflight := accounted.namedInflight
  namedCompleted := accounted.namedCompleted

end Accounted

theorem step_accounted {unicode : UnicodeData} (session : Session) (event : Event)
    (next : Session) (accounted : Accounted session)
    (stepped : step unicode session event = some next) : Accounted next := by
  have finished : ∀ number result, Accounted
      (session.modifyTask number fun task => { task with phase := .done result }) :=
    fun number _ => accounted.modifyTask number nofun
  have settled : ∀ number result, Accounted
      (session.modifyTask number fun task => { task with phase := .settled result }) :=
    fun number _ => accounted.modifyTask number nofun
  have responded : ∀ number, Accounted
      (session.modifyTask number fun task => { task with responded := true }) :=
    fun number => accounted.modifyTask number id
  cases step_turn stepped with
  | handled _ _ turn => exact accounted.handled turn
  | begins _ turn => exact accounted.begins turn
  | window _ | unrefused _ _ => exact accounted
  | erredStream _ _ | erredTask _ _ _ | refused _ _ =>
      exact (accounted.cancel _).of_same rfl rfl rfl rfl rfl
  | started created =>
      apply accounted.modifyTask
      intro _
      rw [UpstreamTask.executes, created]
  | responded _ _ =>
      exact (responded _).of_same rfl rfl rfl rfl rfl
  | ended _ _ => exact accounted.modifyTask _ id
  | finishedSmall _ _ => exact finished _ _
  | failedStream _ _ | finishedStream _ _ _ =>
      exact (finished _ _).of_same rfl rfl rfl rfl rfl
  | settledUnnamed _ _ _ => exact settled _ _
  | settledFrame _ _ named => exact accounted.settledFrame _ named
  | settled _ _ named _ =>
      exact (settled _ _).setInflight none named
  | sentFrame _ _ done _ => exact (accounted.erase done).of_same rfl rfl rfl rfl rfl
  | discarded _ _ done => exact accounted.erase done
  | refusedReq _ _ _ _ | released _ | erred _ _ _ | raised _ | negotiated _
  | disconnected _ | reconnected _ | ticked =>
      exact accounted.of_same rfl rfl rfl rfl rfl

/-! ## The bound on upstream requests -/

def executing (session : Session) : Nat :=
  (List.range session.started).countP fun number => (session.task number).executes

theorem Accounted.executing_le {session : Session} (accounted : Accounted session) :
    session.executing ≤ session.httpTasks.length := by
  have distinct : (((List.range session.started).filter fun number =>
      (session.task number).executes).map HttpTask.upstream).Nodup := by
    apply List.Nodup.map
    · intro left right same
      exact HttpTask.upstream.inj same
    · exact List.nodup_range.filter _
  have counted : (((List.range session.started).filter fun number =>
      (session.task number).executes).map HttpTask.upstream) ⊆ session.httpTasks := by
    intro member isMember
    rcases List.mem_map.mp isMember with ⟨number, isNumber, rfl⟩
    exact (accounted.tracked number (List.mem_filter.mp isNumber).2).2
  have bound := (List.subperm_of_subset distinct counted).length_le
  rw [List.length_map, ← List.countP_eq_length_filter] at bound
  exact bound

def Event.isRequest : Event → Bool
  | .httpReq _ | .httpReqBegin _ _ => true
  | _ => false

theorem step_started {unicode : UnicodeData} {session next : Session} {event : Event}
    (other : ¬event.isRequest = true) (stepped : step unicode session event = some next) :
    next.started = session.started := by
  cases step_turn stepped with
  | refusedReq _ _ _ _ | handled _ _ _ | begins _ _ => exact absurd rfl other
  | _ => rfl

def cached (session : Session) (rid : Text) : Option Cached :=
  (session.completed.expire session.now).lookup rid

def StartsBelowLimit (unicode : UnicodeData) (session : Session) (event : Event) : Prop :=
  ∀ next, step unicode session event = some next → session.started < next.started →
    session.executing < session.limits.negotiatedMaxInflight

def Expired (session : Session) (rid : Text) : Prop :=
  (session.completed.lookup rid).isSome = true ∧ session.cached rid = none ∧
    session.responseCredits rid = none ∧ session.inflight rid = none

/-- No small request arrives under an expired id while as many requests are executed as
are admitted. -/
def ExpiredBelowLimit (session : Session) : Event → Prop
  | .httpReq rid => session.listening = true → session.Expired rid →
      session.executing < session.limits.negotiatedMaxInflight
  | _ => True

namespace Accounted

variable {session : Session}

theorem cleaned (accounted : Accounted session) (rid : Text) :
    session.cleanupCompleted.completed.lookup rid = session.cached rid := by
  rw [cached, Session.cleanupCompleted, Completed.cleanup_eq_expire accounted.fits]

theorem handleHttpReq_starts_iff (accounted : Accounted session) (rid : Text) :
    session.started < (session.handleHttpReq rid).started ↔
      rid = [] ∨ (session.responseCredits rid = none ∧ session.cached rid = none ∧
        session.inflight rid = none) := by
  have started : session.cleanupCompleted.started = session.started := rfl
  have turn := session.handleHttpReq_turn rid
  generalize session.handleHttpReq rid = next at turn ⊢
  cases turn with
  | retained named response =>
      simp [Session.spawnReplay, Session.answer, started, named, response]
  | answered named _ found =>
      rw [accounted.cleaned] at found
      simp [Session.spawnReplay, Session.answer, started, named, found]
  | awaited named _ _ running => simp [Session.spawnReplay, started, named, running]
  | begun named released unanswered idle =>
      rw [accounted.cleaned] at unanswered
      simp [Session.spawn, started, released, unanswered, idle]
  | unnamed empty => simp [Session.spawn, started, empty]

theorem httpReqBegin_starts {unicode : UnicodeData} {rid : Text}
    {contentLength : Option Int}
    (starts : session.started < (session.httpReqBegin unicode rid contentLength).started) :
    session.httpTasks.length < session.limits.negotiatedMaxInflight := by
  have turn := httpReqBegin_turn unicode session rid contentLength
  generalize session.httpReqBegin unicode rid contentLength = next at turn starts
  cases turn with
  | begun _ _ _ _ room => exact room
  | _ => exact absurd starts (Nat.lt_irrefl _)

theorem named_of_existing (accounted : Accounted session) {rid : Text}
    (existing : (session.inflight rid).isSome = true ∨
      (session.completed.lookup rid).isSome = true) : rid ≠ [] := by
  rintro rfl
  rcases existing with running | answered
  · rw [accounted.namedInflight] at running
    cases running
  · rcases Association.isSome_lookup.mp answered with ⟨entry, isEntry, empty⟩
    exact accounted.namedCompleted entry isEntry empty

theorem httpReq_startsBelowLimit_iff (accounted : Accounted session) (rid : Text) :
    (session.started < (session.httpReq rid).started →
        session.executing < session.limits.negotiatedMaxInflight) ↔
      (session.Expired rid →
        session.executing < session.limits.negotiatedMaxInflight) := by
  have counted := accounted.executing_le
  rcases session.httpReq_cases rid with
    ⟨idle, unanswered, reached, same⟩ | ⟨admitted, same⟩
  · rw [same]
    constructor
    · rintro _ ⟨answered, _⟩
      rw [unanswered] at answered
      cases answered
    · intro _ starts
      exact absurd starts (Nat.lt_irrefl _)
  · rw [same, accounted.handleHttpReq_starts_iff rid]
    constructor
    · rintro below ⟨_, expired, response, running⟩
      exact below (.inr ⟨response, expired, running⟩)
    · intro below starts
      rcases admitted with running | answered | room
      · rcases starts with empty | ⟨_, _, idle⟩
        · exact absurd empty (accounted.named_of_existing (.inl running))
        · rw [idle] at running
          cases running
      · rcases starts with empty | ⟨response, expired, idle⟩
        · exact absurd empty (accounted.named_of_existing (.inr answered))
        · exact below ⟨answered, expired, response, idle⟩
      · exact Nat.lt_of_le_of_lt counted room

theorem startsBelowLimit_iff (accounted : Accounted session) (unicode : UnicodeData)
    (event : Event) :
    StartsBelowLimit unicode session event ↔ ExpiredBelowLimit session event := by
  by_cases request : event.isRequest = true
  · cases event with
    | httpReq rid =>
        have same := accounted.httpReq_startsBelowLimit_iff rid
        constructor
        · intro below listening
          exact same.mp (below _ (if_pos listening))
        · intro below next stepped
          rw [step, Option.ite_none_right_eq_some] at stepped
          rcases stepped with ⟨listening, ⟨⟩⟩
          exact same.mpr (below listening)
    | httpReqBegin rid contentLength =>
        refine ⟨fun _ => trivial, ?_⟩
        intro _ next stepped starts
        rw [step, Option.ite_none_right_eq_some] at stepped
        rcases stepped with ⟨_, ⟨⟩⟩
        exact Nat.lt_of_le_of_lt accounted.executing_le (httpReqBegin_starts starts)
    | _ => cases request
  · have never : ExpiredBelowLimit session event := by
      cases event with
      | httpReq rid => exact absurd rfl request
      | _ => trivial
    refine ⟨fun _ => never, ?_⟩
    intro _ next stepped starts
    rw [step_started request stepped] at starts
    exact absurd starts (Nat.lt_irrefl _)

end Accounted

/-- Every request of a run is started below the limit exactly if no small request comes
under an expired id while the limit is reached. -/
theorem run_startsBelowLimit_iff (unicode : UnicodeData) (limits : Limits)
    (events : List Event) :
    Meets (step unicode) (StartsBelowLimit unicode) (initial limits) events ↔
      Meets (step unicode) ExpiredBelowLimit (initial limits) events :=
  Meets.congr_under Accounted step_accounted
    (fun _ event accounted => accounted.startsBelowLimit_iff unicode event)
    (Accounted.initial limits)

/-- A limit of one: while the second request is executed, the cached answer of the first
expires and the first is repeated. -/
theorem expired_answer_starts_second :
    ¬∀ (unicode : UnicodeData) (limits : Limits) (events : List Event),
      Meets (step unicode) (StartsBelowLimit unicode) (initial limits) events := by
  intro claim
  have meets := claim ⟨fun _ => none⟩ { Limits.withWindow 1 (by decide) with
      negotiatedMaxInflight := 1, inflightPositive := by decide }
    [.httpReq "a".toList, .finish 0 (.frame (.httpResp 0)), .callback 0,
     .discard (.upstream 0), .httpReq "b".toList, .tick 301000000000, .httpReq "a".toList]
  have last := meets.tail rfl |>.tail rfl |>.tail rfl |>.tail rfl |>.tail rfl |>.tail rfl
  exact absurd (last.head _ rfl (by decide)) (by decide)

/-! ## Requests under known ids -/

/-- The id is one of a request that runs, is finished and cached, or has a response to be
replayed. -/
def Known (session : Session) (rid : Text) : Prop :=
  (session.inflight rid).isSome = true ∨ (session.streamRequests rid).isSome = true ∨
    (session.cached rid).isSome = true ∨ (session.responseCredits rid).isSome = true

inductive RequestForm
  | httpReq
  | httpReqBegin (contentLength : Option Int)
deriving DecidableEq, Repr

def RequestForm.event (rid : Text) : RequestForm → Event
  | httpReq => .httpReq rid
  | httpReqBegin contentLength => .httpReqBegin rid contentLength

def FromState (rid : Text) (session next : Session) : Prop :=
  next.started = session.started ∧ next.raised = session.raised ∧
    ∃ added, next.answers = session.answers ++ added ∧
      ∀ entry ∈ added, entry.1 = rid ∧ entry.2.isRefusal = false

def AnswersFromState (unicode : UnicodeData) (session : Session) (rid : Text)
    (frame : RequestForm) : Prop :=
  ∃ next, step unicode session (frame.event rid) = some next ∧ FromState rid session next

/-- A small request finds its task, its answer, or a response that is retained while the
limit leaves room or an expired answer stands for it; a streaming one, after V2 and with
a UUID, finds its stream or a response that is retained. -/
def Retains (unicode : UnicodeData) (session : Session) (rid : Text) : RequestForm → Prop
  | .httpReq =>
      (session.inflight rid).isSome = true ∨ (session.cached rid).isSome = true ∨
        (rid ≠ [] ∧ (session.responseCredits rid).isSome = true ∧
          ((session.completed.lookup rid).isSome = true ∨
            session.httpTasks.length < session.limits.negotiatedMaxInflight))
  | .httpReqBegin _ =>
      protocolVersion ≤ session.limits.negotiatedProtocolVersion ∧
        (Uuid.ofText unicode rid).isSome = true ∧
        ((session.streamRequests rid).isSome = true ∨
          (session.responseCredits rid).isSome = true)

instance (unicode : UnicodeData) (session : Session) (rid : Text) :
    ∀ frame, Decidable (Retains unicode session rid frame)
  | .httpReq => inferInstanceAs (Decidable (_ ∨ _))
  | .httpReqBegin _ => inferInstanceAs (Decidable (_ ∧ _))

namespace Accounted

variable {session : Session}

theorem isSome_lookup_of_cached {rid : Text}
    (answered : (session.cached rid).isSome = true) :
    (session.completed.lookup rid).isSome = true := by
  rcases Association.isSome_lookup.mp answered with ⟨entry, isEntry, same⟩
  exact Association.isSome_lookup.mpr ⟨entry, List.mem_of_mem_filter isEntry, same⟩

theorem handleHttpReq_fromState_iff (accounted : Accounted session) (rid : Text) :
    FromState rid session (session.handleHttpReq rid) ↔
      rid ≠ [] ∧ ((session.responseCredits rid).isSome = true ∨
        (session.cached rid).isSome = true ∨ (session.inflight rid).isSome = true) := by
  have started : session.cleanupCompleted.started = session.started := rfl
  have raised : session.cleanupCompleted.raised = session.raised := rfl
  have answers : session.cleanupCompleted.answers = session.answers := rfl
  have turn := session.handleHttpReq_turn rid
  generalize session.handleHttpReq rid = next at turn ⊢
  rw [FromState]
  cases turn with
  | retained named response =>
      simp [Session.spawnReplay, Session.answer, started, raised, answers,
        Answer.isRefusal, named, response]
  | answered named _ found =>
      rw [accounted.cleaned] at found
      simp [Session.spawnReplay, Session.answer, started, raised, answers,
        Answer.isRefusal, named, found]
  | awaited named _ _ running =>
      simp [Session.spawnReplay, started, raised, answers, named, running]
  | begun _ released unanswered idle =>
      rw [accounted.cleaned] at unanswered
      simp [Session.spawn, started, released, unanswered, idle]
  | unnamed empty => simp [Session.spawn, started, empty]

end Accounted

theorem not_fromState_error (session : Session) (rid : Text) (message : String) :
    ¬FromState rid session (session.answer rid (.error message)) := by
  rintro ⟨_, _, added, answers, clean⟩
  have isAdded : [(rid, Answer.error message)] = added := List.append_cancel_left answers
  have refusal := (clean (rid, .error message) (isAdded ▸ List.mem_singleton_self _)).2
  cases refusal

theorem fromState_answer (session : Session) (rid : Text) {frame : Answer}
    (clean : frame.isRefusal = false) :
    FromState rid session (session.answer rid frame) := by
  refine ⟨rfl, rfl, [(rid, frame)], rfl, ?_⟩
  intro entry isEntry
  rcases List.mem_singleton.mp isEntry with rfl
  exact ⟨rfl, clean⟩

namespace Accounted

variable {session : Session}

theorem httpReq_fromState_iff (accounted : Accounted session) (unicode : UnicodeData)
    (rid : Text) :
    FromState rid session (session.httpReq rid) ↔
      Retains unicode session rid .httpReq := by
  rw [Retains]
  rcases session.httpReq_cases rid with
    ⟨idle, unanswered, reached, same⟩ | ⟨admitted, same⟩
  · rw [same]
    apply iff_of_false (not_fromState_error session rid _)
    rintro (running | cached | ⟨_, _, answered | room⟩)
    · rw [idle] at running
      cases running
    · have answered := isSome_lookup_of_cached cached
      rw [unanswered] at answered
      cases answered
    · rw [unanswered] at answered
      cases answered
    · omega
  · rw [same, accounted.handleHttpReq_fromState_iff]
    constructor
    · rintro ⟨named, response | answered | running⟩
      · rcases admitted with running | existing
        · exact .inl running
        · exact .inr (.inr ⟨named, response, existing⟩)
      · exact .inr (.inl answered)
      · exact .inl running
    · rintro (running | answered | ⟨named, response, _⟩)
      · exact ⟨accounted.named_of_existing (.inl running), .inr (.inr running)⟩
      · have isAnswered := isSome_lookup_of_cached answered
        exact ⟨accounted.named_of_existing (.inr isAnswered), .inr (.inl answered)⟩
      · exact ⟨named, .inl response⟩

end Accounted

theorem httpReqBegin_fromState_iff {unicode : UnicodeData} {session : Session} {rid : Text}
    {contentLength : Option Int} (listening : session.raised = none) :
    FromState rid session (session.httpReqBegin unicode rid contentLength) ↔
      Retains unicode session rid (.httpReqBegin contentLength) := by
  have notRaised : ∀ message, ¬FromState rid session (session.raise message) := by
    rintro message ⟨_, raised, _⟩
    rw [listening] at raised
    cases raised
  have turn := httpReqBegin_turn unicode session rid contentLength
  generalize session.httpReqBegin unicode rid contentLength = next at turn ⊢
  have unknown : session.streamRequests rid = none → session.responseCredits rid = none →
      ¬((session.streamRequests rid).isSome = true ∨
        (session.responseCredits rid).isSome = true) := by
    intro noStream released
    simp [noStream, released]
  rw [Retains]
  cases turn with
  | early before =>
      apply iff_of_false (notRaised _)
      rintro ⟨selected, _⟩
      omega
  | malformed _ invalid =>
      apply iff_of_false (notRaised _)
      rintro ⟨_, valid, _⟩
      rw [invalid] at valid
      cases valid
  | resumed selected valid stream =>
      exact iff_of_true (fromState_answer session rid rfl)
        ⟨selected, valid, .inl (stream ▸ rfl)⟩
  | retained selected valid _ response =>
      exact iff_of_true (fromState_answer session rid rfl)
        ⟨selected, valid, .inr (response ▸ rfl)⟩
  | negative noStream released _ =>
      exact iff_of_false (notRaised _) fun retained =>
        unknown noStream released retained.2.2
  | tooLarge _ _ noStream released _ _ | full _ _ noStream released _ _ =>
      exact iff_of_false (not_fromState_error session rid _)
        fun retained => unknown noStream released retained.2.2
  | begun _ noStream released _ _ =>
      refine iff_of_false ?_ fun retained => unknown noStream released retained.2.2
      rintro ⟨started, _⟩
      exact absurd started (Nat.succ_ne_self _)

theorem Accounted.answersFromState_iff {unicode : UnicodeData} {session : Session}
    (accounted : Accounted session) (listening : session.listening = true) (rid : Text)
    (frame : RequestForm) :
    AnswersFromState unicode session rid frame ↔ Retains unicode session rid frame := by
  have notRaised : session.raised = none := by
    rw [Session.listening, Bool.and_eq_true] at listening
    exact Option.isNone_iff_eq_none.mp listening.2
  cases frame with
  | httpReq =>
      rw [← accounted.httpReq_fromState_iff unicode rid, AnswersFromState]
      simp [RequestForm.event, step, listening]
  | httpReqBegin contentLength =>
      rw [← httpReqBegin_fromState_iff notRaised, AnswersFromState]
      simp [RequestForm.event, step, listening]

/-- A frame under a known id is answered from the session exactly if the maps that its
kind is looked up in have the id, and the limit is not asked. -/
theorem known_answersFromState_iff {unicode : UnicodeData} {limits : Limits}
    {events : List Event} {session : Session}
    (ran : run (step unicode) (initial limits) events = some session)
    (listening : session.listening = true) (rid : Text) (frame : RequestForm) :
    (session.Known rid → AnswersFromState unicode session rid frame) ↔
      (session.Known rid → Retains unicode session rid frame) := by
  have accounted : Accounted session :=
    invariant_of_run Accounted step_accounted (Accounted.initial limits) ran
  rw [accounted.answersFromState_iff listening]

/-- A small request is repeated while it runs and fills the limit. -/
theorem known_answersFromState_iff_running :
    AnswersFromState ⟨fun _ => none⟩
      (after (step ⟨fun _ => none⟩)
        (initial { Limits.withWindow 1 (by decide) with
          negotiatedMaxInflight := 1, inflightPositive := by decide })
        [.httpReq "a".toList]) "a".toList .httpReq :=
  (known_answersFromState_iff (run_eq_after (by decide)) (by decide) "a".toList
    .httpReq).mpr
    (fun _ => .inl (by decide)) (.inl (by decide))

/-- A limit of one: a response is retained after a reconnect, another request is executed,
and the first is refused when it is repeated. -/
theorem retained_response_refused :
    ¬∀ (unicode : UnicodeData) (limits : Limits) (events : List Event) (session : Session)
      (rid : Text) (frame : RequestForm),
      run (step unicode) (initial limits) events = some session →
        session.listening = true → session.Known rid →
          AnswersFromState unicode session rid frame := by
  intro claim
  let limits : Limits := { Limits.withWindow 1 (by decide) with
    negotiatedMaxInflight := 1, inflightPositive := by decide }
  let events : List Event := [.httpReq "a".toList, .respond 0, .endResponse 0,
    .finish 0 .streamed, .callback 0, .discard (.upstream 0), .disconnect,
    .reconnect limits, .httpReq "b".toList]
  let unicode : UnicodeData := ⟨fun _ => none⟩
  have ran : run (step unicode) (initial limits) events =
      some (after (step unicode) (initial limits) events) :=
        run_eq_after (by decide +kernel)
  have listening : (after (step unicode) (initial limits) events).listening = true := by
    decide +kernel
  have accounted : Accounted (after (step unicode) (initial limits) events) :=
    invariant_of_run Accounted step_accounted (Accounted.initial limits) ran
  have known : (after (step unicode) (initial limits) events).Known "a".toList :=
    .inr (.inr (.inr (by decide +kernel)))
  have answers := claim unicode limits events _ "a".toList .httpReq ran listening known
  have retains := (accounted.answersFromState_iff listening "a".toList .httpReq).mp answers
  exact absurd retains (by decide +kernel)

end Session

end YrSandbox.Tunnel
