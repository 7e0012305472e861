import YrSandbox.Tunnel.Admission

/-! # Responses that fail after they have begun

The entry of a response in `response_credits` is made before its `http_resp_begin` and
removed by the peer alone. When the response fails the entry stays, and it comes before
the cached error when the request is repeated. -/

namespace YrSandbox.Tunnel

open Python Transition

namespace Session

/-! ## What the peer releases -/

def Event.releases (rid : Text) : Event → Bool
  | .windowFrame other complete => complete && decide (other = rid)
  | .errorFrame other => decide (other = rid)
  | _ => false

theorem step_responseCredits {unicode : UnicodeData} {session next : Session}
    {event : Event} (stepped : step unicode session event = some next) (rid : Text)
    (other : ∀ number, event = .respond number → (session.task number).rid ≠ rid) :
    next.responseCredits rid =
      if event.releases rid then none else session.responseCredits rid := by
  cases step_turn stepped with
  | handled _ _ turn => exact congrFun turn.responseCredits rid
  | begins _ turn => exact congrFun turn.responseCredits rid
  | released _ | erredStream _ _ | erredTask _ _ _ | erred _ _ _ =>
      simp [Event.releases, ById.set, eq_comm]
  | responded _ _ => simp [Event.releases, ById.set, (other _ rfl).symm]
  | _ => rfl

/-! ## The id of a task -/

structure Continues (session next : Session) : Prop where
  started : session.started ≤ next.started
  rid : ∀ number, number < session.started →
    (next.task number).rid = (session.task number).rid

namespace Continues

variable {session next : Session}

theorem of_same (task : next.task = session.task)
    (started : next.started = session.started) :
    Continues session next where
  started := Nat.le_of_eq started.symm
  rid := by
    intro number _
    rw [task]

theorem trans {last : Session} (first : Continues session next)
    (second : Continues next last) : Continues session last where
  started := Nat.le_trans first.started second.started
  rid := by
    intro number older
    rw [second.rid number (Nat.lt_of_lt_of_le older first.started), first.rid number older]

theorem modifyTask (number : Nat) {change : UpstreamTask → UpstreamTask}
    (same : ∀ task, (change task).rid = task.rid) :
    Continues session (session.modifyTask number change) where
  started := Nat.le_refl _
  rid := by
    intro other _
    simp only [Session.modifyTask]
    split
    · exact same _
    · rfl

theorem spawn (rid : Text) (kind : TaskKind) :
    Continues session (session.spawn rid kind) where
  started := Nat.le_succ _
  rid := by
    intro number older
    simp [Session.spawn, Session.modifyTask, Nat.ne_of_lt older]

end Continues

theorem continues_of_handle {rid : Text} {session next : Session}
    (turn : HandleTurn session rid next) : Continues session next := by
  cases turn with
  | begun _ _ _ _ | unnamed _ =>
      exact (Continues.spawn rid .small).trans (.of_same rfl rfl)
  | _ => exact .of_same rfl rfl

theorem continues_of_begin {unicode : UnicodeData} {rid : Text}
    {contentLength : Option Int} {session next : Session}
    (turn : BeginTurn unicode session rid contentLength next) :
    Continues session next := by
  cases turn with
  | begun _ _ _ _ _ => exact (Continues.spawn rid .stream).trans (.of_same rfl rfl)
  | _ => exact .of_same rfl rfl

theorem step_continues {unicode : UnicodeData} {session next : Session} {event : Event}
    (stepped : step unicode session event = some next) : Continues session next := by
  have cancelled : ∀ number,
      Continues session (session.modifyTask number UpstreamTask.cancel) :=
    fun number => .modifyTask number fun _ => rfl
  have phased : ∀ number phase,
      Continues session (session.modifyTask number fun task => { task with phase }) :=
    fun number _ => .modifyTask number fun _ => rfl
  have responded : ∀ number, Continues session
      (session.modifyTask number fun task => { task with responded := true }) :=
    fun number => .modifyTask number fun _ => rfl
  cases step_turn stepped with
  | handled _ _ turn => exact continues_of_handle turn
  | begins _ turn => exact continues_of_begin turn
  | erredStream _ _ | erredTask _ _ _ | refused _ _ =>
      exact (cancelled _).trans (.of_same rfl rfl)
  | started _ | finishedSmall _ _ | settledUnnamed _ _ _ => exact phased _ _
  | failedStream _ _ | finishedStream _ _ _ | settledFrame _ _ _ | settled _ _ _ _ =>
      exact (phased _ _).trans (.of_same rfl rfl)
  | responded _ _ => exact (responded _).trans (.of_same rfl rfl)
  | ended _ _ => exact .modifyTask _ fun _ => rfl
  | _ => exact .of_same rfl rfl

theorem run_continues {unicode : UnicodeData} {session final : Session}
    {events : List Event}
    (ran : run (step unicode) session events = some final) : Continues session final := by
  apply invariant_of_run (Continues session) _ (.of_same rfl rfl) ran
  intro state event next continues stepped
  exact continues.trans (step_continues stepped)

/-! ## What becomes of the entry -/

/-- The entry of a response, after frames and turns among which no other response of the
id begins, by induction on them. -/
theorem run_responseCredits {unicode : UnicodeData} {session final : Session} {rid : Text}
    {events : List Event} (accounted : Accounted session)
    (ran : run (step unicode) session events = some final)
    (latest : ∀ number, .respond number ∈ events → (final.task number).rid ≠ rid) :
    final.responseCredits rid =
      if ∃ event ∈ events, event.releases rid = true then none
      else session.responseCredits rid := by
  induction events generalizing session with
  | nil =>
      cases ran
      simp
  | cons event events induction =>
      rcases run_cons ran with ⟨next, stepped, rest⟩
      have accountedNext := step_accounted session event next accounted stepped
      have later := induction accountedNext rest
        (fun number isEvent => latest number (List.mem_cons_of_mem _ isEvent))
      have first : next.responseCredits rid =
          if event.releases rid then none else session.responseCredits rid := by
        apply step_responseCredits stepped rid
        rintro number rfl
        have running := stepped
        rw [step, Option.ite_none_right_eq_some] at running
        have executes : (session.task number).executes = true := by
          rw [UpstreamTask.executes, running.1.1]
        rw [← (run_continues ran).rid number (accounted.tracked number executes).1]
        exact latest number List.mem_cons_self
      rw [later, first]
      by_cases released : event.releases rid = true
      · simp [released]
      · simp [released]

/-! ## Requests that are sent again -/

/-- A failure that is reported to the peer: the error a small request returns, or the one
a stream sends. -/
def UpstreamPhase.failed : UpstreamPhase → Bool
  | .settled (.frame (.error _)) | .done (.failed _) => true
  | _ => false

def FailedAfterBegin (session : Session) (number : Nat) (rid : Text) : Prop :=
  (session.task number).rid = rid ∧ (session.task number).responded = true ∧
    (session.task number).ended = false ∧
    UpstreamPhase.failed (session.task number).phase = true

/-- What happens later: connections come and go, time passes, frames that wait are sent,
and the request is sent again. -/
inductive Resend
  | disconnect
  | reconnect (limits : Limits)
  | tick (elapsed : Nat)
  | discard (member : HttpTask)
  | httpReq
  | httpReqBegin (contentLength : Option Int)
deriving DecidableEq, Repr

namespace Resend

def event (rid : Text) : Resend → Event
  | disconnect => .disconnect
  | reconnect limits => .reconnect limits
  | tick elapsed => .tick elapsed
  | discard member => .discard member
  | httpReq => .httpReq rid
  | httpReqBegin contentLength => .httpReqBegin rid contentLength

def isRequest : Resend → Bool
  | httpReq | httpReqBegin _ => true
  | _ => false

end Resend

def resendStep (unicode : UnicodeData) (rid : Text) : Step Session Resend :=
  fun session resend => step unicode session (resend.event rid)

def Answer.isError : Answer → Bool
  | .error _ | .cached (.error _) => true
  | _ => false

def ErrorAgain (unicode : UnicodeData) (rid : Text) (session : Session) (resend : Resend) :
    Prop :=
  ∀ next, resendStep unicode rid session resend = some next →
    next.responseCredits rid = none ∧
      (resend.isRequest = true →
        ∃ frame, Answer.isError frame = true ∧
          next.answers = session.answers ++ [(rid, frame)])

/-- A small request is refused by the limit or finds the cached error; a streaming one,
after V2 and with a UUID, has no stream and is refused by a limit. -/
def RefusedOrCached (unicode : UnicodeData) (rid : Text) (session : Session) :
    Resend → Prop
  | .httpReq => session.listening = true →
      (session.inflight rid = none ∧ session.completed.lookup rid = none ∧
          session.limits.negotiatedMaxInflight ≤ session.httpTasks.length) ∨
        ∃ message timestamp, session.cached rid = some ⟨.error message, timestamp⟩
  | .httpReqBegin contentLength => session.listening = true →
      protocolVersion ≤ session.limits.negotiatedProtocolVersion ∧
        (Uuid.ofText unicode rid).isSome = true ∧ session.streamRequests rid = none ∧
        contentLength.any (· < 0) = false ∧
        (contentLength.any ((session.limits.negotiatedMaxBodySize : Int) < ·) = true ∨
          session.limits.negotiatedMaxInflight ≤ session.httpTasks.length)
  | _ => True

section

variable {unicode : UnicodeData} {session : Session} {rid : Text}

theorem handleHttpReq_error_iff (accounted : Accounted session)
    (released : session.responseCredits rid = none) :
    (∃ frame, Answer.isError frame = true ∧
        (session.handleHttpReq rid).answers = session.answers ++ [(rid, frame)]) ↔
      ∃ message timestamp, session.cached rid = some ⟨.error message, timestamp⟩ := by
  have answers : session.cleanupCompleted.answers = session.answers := rfl
  have turn := session.handleHttpReq_turn rid
  generalize session.handleHttpReq rid = next at turn ⊢
  have uncached : session.cleanupCompleted.completed.lookup rid = none →
      ¬∃ message timestamp, session.cached rid = some ⟨.error message, timestamp⟩ := by
    rintro unanswered ⟨message, timestamp, found⟩
    rw [accounted.cleaned, found] at unanswered
    cases unanswered
  cases turn with
  | retained _ response =>
      rw [released] at response
      cases response
  | @answered cached _ _ found =>
      rcases cached with ⟨frame, timestamp⟩
      rw [accounted.cleaned] at found
      cases frame <;> simp [spawnReplay, answer, answers, Answer.isError, found]
  | awaited _ _ unanswered _ =>
      exact iff_of_false (by simp [spawnReplay, answers]) (uncached unanswered)
  | begun _ _ unanswered _ =>
      exact iff_of_false (by simp [spawn, modifyTask, answers]) (uncached unanswered)
  | unnamed empty =>
      refine iff_of_false (by simp [spawn, modifyTask, answers]) ?_
      rintro ⟨message, timestamp, found⟩
      have isSome : (session.cached rid).isSome = true := by
        rw [found]
        rfl
      have existing := Accounted.isSome_lookup_of_cached isSome
      exact accounted.named_of_existing (.inr existing) empty

theorem httpReq_error_iff (accounted : Accounted session)
    (released : session.responseCredits rid = none) :
    (∃ frame, Answer.isError frame = true ∧
        (session.httpReq rid).answers = session.answers ++ [(rid, frame)]) ↔
      (session.inflight rid = none ∧ session.completed.lookup rid = none ∧
          session.limits.negotiatedMaxInflight ≤ session.httpTasks.length) ∨
        ∃ message timestamp, session.cached rid = some ⟨.error message, timestamp⟩ := by
  rcases session.httpReq_cases rid with
    ⟨idle, unanswered, reached, same⟩ | ⟨admitted, same⟩
  · rw [same]
    exact iff_of_true ⟨_, rfl, rfl⟩ (.inl ⟨idle, unanswered, reached⟩)
  · rw [same, handleHttpReq_error_iff accounted released, or_iff_right]
    rintro ⟨idle, unanswered, reached⟩
    rcases admitted with running | answered | room
    · rw [idle] at running
      cases running
    · rw [unanswered] at answered
      cases answered
    · omega

theorem httpReqBegin_error_iff {contentLength : Option Int}
    (released : session.responseCredits rid = none) :
    (∃ frame, Answer.isError frame = true ∧
        (session.httpReqBegin unicode rid contentLength).answers =
          session.answers ++ [(rid, frame)]) ↔
      protocolVersion ≤ session.limits.negotiatedProtocolVersion ∧
        (Uuid.ofText unicode rid).isSome = true ∧ session.streamRequests rid = none ∧
        contentLength.any (· < 0) = false ∧
        (contentLength.any ((session.limits.negotiatedMaxBodySize : Int) < ·) = true ∨
          session.limits.negotiatedMaxInflight ≤ session.httpTasks.length) := by
  have silent : ∀ next : Session, next.answers = session.answers →
      ¬∃ frame, Answer.isError frame = true ∧
        next.answers = session.answers ++ [(rid, frame)] := by
    rintro next same ⟨frame, _, added⟩
    rw [same] at added
    have length := congrArg List.length added
    simp at length
  have other : ∀ {frame : Answer} {next : Session}, Answer.isError frame = false →
      next.answers = session.answers ++ [(rid, frame)] →
      ¬∃ frame, Answer.isError frame = true ∧
        next.answers = session.answers ++ [(rid, frame)] := by
    rintro frame next notError sent ⟨another, isError, added⟩
    rw [sent] at added
    have same := List.append_cancel_left added
    cases same
    rw [notError] at isError
    cases isError
  have turn := httpReqBegin_turn unicode session rid contentLength
  generalize session.httpReqBegin unicode rid contentLength = next at turn ⊢
  cases turn with
  | early before =>
      apply iff_of_false (silent _ rfl)
      rintro ⟨selected, _⟩
      omega
  | malformed _ invalid =>
      apply iff_of_false (silent _ rfl)
      rintro ⟨_, valid, _⟩
      rw [invalid] at valid
      cases valid
  | resumed _ _ stream =>
      apply iff_of_false (other rfl rfl)
      rintro ⟨_, _, noStream, _⟩
      rw [noStream] at stream
      cases stream
  | retained _ _ _ response =>
      rw [released] at response
      cases response
  | negative _ _ below =>
      apply iff_of_false (silent _ rfl)
      rintro ⟨_, _, _, notNegative, _⟩
      rw [notNegative] at below
      cases below
  | tooLarge selected valid noStream _ notNegative larger =>
      exact iff_of_true ⟨_, rfl, rfl⟩
        ⟨selected, valid, noStream, notNegative, .inl larger⟩
  | full selected valid noStream _ notNegative reached =>
      exact iff_of_true ⟨_, rfl, rfl⟩
        ⟨selected, valid, noStream, notNegative, .inr reached⟩
  | begun _ _ _ within room =>
      apply iff_of_false (other rfl rfl)
      rintro ⟨_, _, _, _, larger | reached⟩
      · rw [within] at larger
        cases larger
      · omega

theorem errorAgain_iff (accounted : Accounted session)
    (released : session.responseCredits rid = none) (resend : Resend) :
    ErrorAgain unicode rid session resend ↔
      RefusedOrCached unicode rid session resend := by
  have kept : ∀ next, resendStep unicode rid session resend = some next →
      next.responseCredits rid = none := by
    intro next stepped
    have entry := step_responseCredits stepped rid (by
      rintro number isRespond
      cases resend <;> cases isRespond)
    rw [entry, released, ite_self]
  have requested : ∀ {sent : Session}, resend.isRequest = true →
      resendStep unicode rid session resend =
        (if session.listening then some sent else none) →
      (ErrorAgain unicode rid session resend ↔
        (session.listening = true → ∃ frame, Answer.isError frame = true ∧
          sent.answers = session.answers ++ [(rid, frame)])) := by
    intro sent isRequest stepped
    constructor
    · intro error listening
      exact (error sent (stepped.trans (if_pos listening))).2 isRequest
    · intro error next isNext
      refine ⟨kept next isNext, fun _ => ?_⟩
      rw [stepped, Option.ite_none_right_eq_some] at isNext
      rcases isNext with ⟨listening, ⟨⟩⟩
      exact error listening
  cases resend with
  | httpReq =>
      rw [RefusedOrCached, ← httpReq_error_iff accounted released]
      exact requested rfl rfl
  | httpReqBegin contentLength =>
      rw [RefusedOrCached, ← httpReqBegin_error_iff released]
      exact requested rfl rfl
  | disconnect | reconnect _ | tick _ | discard _ =>
      refine iff_of_true ?_ trivial
      intro next stepped
      exact ⟨kept next stepped, nofun⟩

end

/-- After a failure the entry is gone and every repeated request is answered with an error
exactly if the peer released the response since it began, and each time the cached error
is found or a limit refuses the request. -/
theorem failed_errorAgain_iff {unicode : UnicodeData} {limits : Limits}
    {before middle : List Event} {number : Nat} {session : Session} {rid : Text}
    (ran : run (step unicode) (initial limits) (before ++ .respond number :: middle) =
      some session)
    (failed : session.FailedAfterBegin number rid)
    (latest : ∀ other, .respond other ∈ middle → (session.task other).rid ≠ rid)
    (later : List Resend) :
    (session.responseCredits rid = none ∧
        Meets (resendStep unicode rid) (ErrorAgain unicode rid) session later) ↔
      (∃ event ∈ middle, event.releases rid = true) ∧
        Meets (resendStep unicode rid) (RefusedOrCached unicode rid) session later := by
  rcases run_append ran with ⟨start, ranBefore, ranAfter⟩
  rcases run_cons ranAfter with ⟨begun, stepped, ranMiddle⟩
  have accountedStart : Accounted start :=
    invariant_of_run Accounted step_accounted (Accounted.initial limits) ranBefore
  have accountedBegun := step_accounted start _ begun accountedStart stepped
  have accounted : Accounted session :=
    invariant_of_run Accounted step_accounted accountedBegun ranMiddle
  have entry := run_responseCredits accountedBegun ranMiddle latest
  have began : begun.responseCredits rid = some number := by
    have continues := run_continues ranAfter
    have responding := stepped
    rw [step, Option.ite_none_right_eq_some] at responding
    rcases responding with ⟨⟨running, _⟩, ⟨⟩⟩
    have executes : (start.task number).executes = true := by
      rw [UpstreamTask.executes, running]
    have older := (accountedStart.tracked number executes).1
    have sameRid : (start.task number).rid = rid := by
      rw [← continues.rid number older]
      exact failed.1
    simp [respond, ById.set, sameRid]
  rw [began] at entry
  by_cases released : ∃ event ∈ middle, event.releases rid = true
  · rw [if_pos released] at entry
    rw [and_iff_right entry, and_iff_right released]
    apply Meets.congr_under fun session =>
      Accounted session ∧ session.responseCredits rid = none
    · rintro state resend next ⟨accounted, isNone⟩ stepped
      refine ⟨step_accounted state _ next accounted stepped, ?_⟩
      have entry := step_responseCredits stepped rid (by
        rintro number isRespond
        cases resend <;> cases isRespond)
      rw [entry, isNone, ite_self]
    · rintro state resend ⟨accounted, isNone⟩
      exact errorAgain_iff accounted isNone resend
    · exact ⟨accounted, entry⟩
  · rw [if_neg released] at entry
    rw [entry]
    exact iff_of_false (by rintro ⟨isNone, _⟩; cases isNone) (fun both => released both.1)

def failedAndReleased : Session :=
  after (step ⟨fun _ => none⟩) (initial (Limits.withWindow 1 (by decide)))
    ([.httpReq "a".toList] ++ .respond 0 ::
      [.finish 0 (.frame (.error "broken")), .callback 0, .errorFrame "a".toList])

/-- The request that is then repeated is answered with the cached error. -/
theorem failed_errorAgain_iff_released :
    failedAndReleased.responseCredits "a".toList = none ∧
      Meets (resendStep ⟨fun _ => none⟩ "a".toList) (ErrorAgain ⟨fun _ => none⟩ "a".toList)
        failedAndReleased [.httpReq] :=
  (failed_errorAgain_iff (run_eq_after rfl) ⟨rfl, rfl, rfl, rfl⟩ (by simp) [.httpReq]).mpr
    ⟨⟨.errorFrame "a".toList, by simp, rfl⟩, fun _ => .inr ⟨"broken", 0, rfl⟩, trivial⟩

/-- The connection is lost with the error: the request is answered with the begin of the
response that has failed. -/
theorem failed_response_begins_again :
    ¬∀ (unicode : UnicodeData) (limits : Limits) (before middle : List Event)
      (number : Nat)
      (session : Session) (rid : Text) (later : List Resend),
      run (step unicode) (initial limits) (before ++ .respond number :: middle) =
          some session →
        session.FailedAfterBegin number rid →
        session.responseCredits rid = none ∧
          Meets (resendStep unicode rid) (ErrorAgain unicode rid) session later := by
  intro claim
  have kept :=
    (claim ⟨fun _ => none⟩ (Limits.withWindow 1 (by decide)) [.httpReq "a".toList]
    [.finish 0 (.frame (.error "broken")), .callback 0] 0 _ "a".toList
    [.disconnect, .reconnect (Limits.withWindow 1 (by decide)), .httpReq] rfl
    ⟨rfl, rfl, rfl, rfl⟩).2
  have last := (kept.tail rfl |>.tail rfl).head _ rfl
  cases last.1

end Session

end YrSandbox.Tunnel
