import YrSandbox.Tunnel.FrameRouting

/-! # Late frames

Frames for a stream that has failed may be on their way when the peer learns of it. They
are absorbed as long as `terminated_streams` knows the id. -/

namespace YrSandbox.Tunnel

open Python Transition

/-! ## What `terminated_streams` keeps -/

namespace Terminated

variable {Rid : Type u} [DecidableEq Rid] {rid other : Rid} {now timestamp : Int}
  {terminated : Terminated Rid}

theorem makeRoom_length {rounds : Nat} (enough : terminated.length ≤ rounds) :
    (makeRoom rounds terminated).length < completedFrameLimit := by
  induction rounds generalizing terminated with
  | zero =>
      have empty := List.eq_nil_of_length_eq_zero (Nat.le_zero.mp enough)
      subst empty
      exact Nat.zero_lt_succ _
  | succ rounds induction =>
      rw [makeRoom]
      split
      · assumption
      · split
        · rename_i none
          rw [oldest, Association.oldest_eq_argmin, List.argmin_eq_none] at none
          rw [none]
          exact Nat.zero_lt_succ _
        · rename_i entry isOldest
          rw [oldest, Association.oldest_eq_argmin] at isOldest
          apply induction
          have erased := Association.length_pop_argmin isOldest
          omega

/-- Room is needed, and `rid` is the one that has to go. -/
def Evicts (rid : Rid) (now : Int) (terminated : Terminated Rid) : Prop :=
  completedFrameLimit ≤ (terminated.expire now).length ∧
    ((terminated.expire now).oldest.map Prod.fst) = some rid

instance (rid : Rid) (now : Int) (terminated : Terminated Rid) :
    Decidable (Evicts rid now terminated) := inferInstanceAs (Decidable (_ ∧ _))

variable [BEq Rid]

theorem remember_length (rid : Rid) (now : Int) (terminated : Terminated Rid) :
    (terminated.remember rid now).length ≤ completedFrameLimit := by
  have inserted := Association.length_store_le rid now
    (makeRoom (terminated.expire now).length (terminated.expire now))
  have room := makeRoom_length (Nat.le_refl (terminated.expire now).length)
  rw [remember]
  omega

theorem isTerminated_sublist (rid : Rid) (now : Int) (terminated : Terminated Rid) :
    (terminated.isTerminated rid now).2.Sublist terminated := by
  rw [isTerminated]
  split
  · exact List.Sublist.refl _
  · split
    · exact Association.pop_sublist
    · exact List.Sublist.refl _

theorem isTerminated_eq (found : terminated.lookup rid = some timestamp)
    (recent : now - timestamp ≤ completedFrameTtl) :
    terminated.isTerminated rid now = (true, terminated) := by
  rw [isTerminated, found]
  exact if_neg (Int.not_lt.mpr recent)

variable [LawfulBEq Rid]

theorem lookup_expire (found : terminated.lookup rid = some timestamp)
    (recent : now - timestamp ≤ completedFrameTtl) :
    (terminated.expire now).lookup rid = some timestamp :=
  Association.lookup_filter found (by simpa using recent)

theorem lookup_makeRoom (within : terminated.length ≤ completedFrameLimit)
    (spared : completedFrameLimit ≤ terminated.length →
      terminated.oldest.map Prod.fst ≠ some rid) (rounds : Nat) :
    (makeRoom rounds terminated).lookup rid = terminated.lookup rid := by
  cases rounds with
  | zero => rfl
  | succ rounds =>
      rw [makeRoom]
      split
      · rfl
      · rename_i full
        split
        · rfl
        · rename_i entry isOldest
          have different : entry.1 ≠ rid := by
            intro same
            apply spared (Nat.not_lt.mp full)
            rw [isOldest, Option.map_some, same]
          rw [oldest, Association.oldest_eq_argmin] at isOldest
          have erased := Association.length_pop_argmin isOldest
          have room : (Association.pop entry.1 terminated).length <
              completedFrameLimit := by
            have positive : 0 < completedFrameLimit := by decide
            omega
          cases rounds with
          | zero => exact Association.lookup_pop different
          | succ rounds =>
              rw [makeRoom, if_pos room]
              exact Association.lookup_pop different

theorem lookup_remember (different : rid ≠ other)
    (within : terminated.length ≤ completedFrameLimit)
    (spared : ¬Evicts rid now terminated)
    (found : terminated.lookup rid = some timestamp)
    (recent : now - timestamp ≤ completedFrameTtl) :
    (terminated.remember other now).lookup rid = some timestamp := by
  have shorter : (terminated.expire now).length ≤ completedFrameLimit :=
    Nat.le_trans (List.length_filter_le _ _) within
  rw [remember, Association.lookup_store_other different,
    lookup_makeRoom shorter fun full isOldest => spared ⟨full, isOldest⟩]
  exact lookup_expire found recent

theorem lookup_isTerminated (found : terminated.lookup rid = some timestamp)
    (recent : now - timestamp ≤ completedFrameTtl) (other : Rid) :
    (terminated.isTerminated other now).2.lookup rid = some timestamp := by
  rw [isTerminated]
  split
  · exact found
  · rename_i otherTimestamp isOther
    split
    · rename_i expired
      have different : other ≠ rid := by
        rintro rfl
        rw [found] at isOther
        cases isOther
        omega
      rw [Association.lookup_pop different]
      exact found
    · exact found

end Terminated

/-! ## Failures -/

namespace Session

/-- An `http_req_begin` would open a stream, and is answered with an error, as it is over
a limit. -/
def BeginsBeyond (unicode : UnicodeData) (rid : Text) (contentLength : Option Int)
    (session : Session) : Prop :=
  protocolVersion ≤ session.limits.negotiatedProtocolVersion ∧
    (Uuid.ofText unicode rid).isSome = true ∧ session.streamRequests rid = none ∧
    session.responseCredits rid = none ∧ contentLength.any (· < 0) = false ∧
    (contentLength.any ((session.limits.negotiatedMaxBodySize : Int) < ·) = true ∨
      session.limits.negotiatedMaxInflight ≤ session.httpTasks.length)

instance (unicode : UnicodeData) (rid : Text) (contentLength : Option Int)
    (session : Session) : Decidable (BeginsBeyond unicode rid contentLength session) :=
  inferInstanceAs (Decidable (_ ∧ _ ∧ _ ∧ _ ∧ _ ∧ _))

theorem step_now {unicode : UnicodeData} {session next : Session} {event : Event}
    (stepped : step unicode session event = some next) : session.now ≤ next.now := by
  cases step_turn stepped with
  | begins _ turn => cases turn <;> exact Int.le_refl _
  | handled _ _ turn => cases turn <;> exact Int.le_refl _
  | ticked => exact Int.le_add_of_nonneg_right (Int.natCast_nonneg _)
  | _ => exact Int.le_refl _

theorem step_beginsBeyond {unicode : UnicodeData} {session next : Session} {rid : Text}
    {contentLength : Option Int}
    (stepped : step unicode session (.httpReqBegin rid contentLength) = some next)
    (beyond : session.BeginsBeyond unicode rid contentLength) :
    ∃ message, next = session.answer rid (.error message) := by
  rcases beyond with ⟨selected, valid, noStream, released, notNegative, beyond⟩
  cases step_turn stepped with
  | begins _ turn =>
      cases turn with
      | tooLarge _ _ _ _ _ _ | full _ _ _ _ _ _ => exact ⟨_, rfl⟩
      | early before => omega
      | malformed _ invalid =>
          rw [invalid] at valid
          cases valid
      | resumed _ _ stream =>
          rw [noStream] at stream
          cases stream
      | retained _ _ _ response =>
          rw [released] at response
          cases response
      | negative _ _ below =>
          rw [notNegative] at below
          cases below
      | begun _ _ _ within room =>
          rcases beyond with larger | reached
          · rw [within] at larger
            cases larger
          · omega

end Session

namespace ProxyLoop

/-- The `http_req_end` branch. How it ends the body of an open stream is a matter of the
model of one id. -/
def httpReqEnd (rid : Text) (loop : ProxyLoop) : ProxyLoop :=
  match loop.session.streamRequests rid with
  | some _ => loop
  | none => loop.absorb rid s!"request end for unknown stream: {String.ofList rid}"

/-- The id that an event puts into `terminated_streams`. -/
def remembers (loop : ProxyLoop) : Event → Option Text
  | .session (.errorFrame rid) =>
      if (loop.session.streamRequests rid).isSome then some rid
      else if (loop.session.inflight rid).isSome then none
      else (loop.wsChannels.lookup rid).map fun _ => rid
  | .session (.refuse rid _) =>
      if (loop.session.streamRequests rid).isSome then some rid else none
  | .session (.finish number _) =>
      match (loop.session.task number).kind with
      | .small => none
      | .stream => some (loop.session.task number).rid
  | .wsFinish number => some (loop.wsTask number).rid
  | .overflow rid => (loop.wsChannels.lookup rid).map fun _ => rid
  | _ => none

def Event.begins : Event → Option (Text × Option Int)
  | .session (.httpReqBegin rid contentLength) => some (rid, contentLength)
  | _ => none

/-! ### What an event changes -/

variable {unicode : UnicodeData} {loop next : ProxyLoop}

theorem absorb_session (loop : ProxyLoop) (rid : Text) (message : String) :
    (loop.absorb rid message).session.now = loop.session.now ∧
      (loop.absorb rid message).session.streamRequests = loop.session.streamRequests := by
  rw [absorb]
  dsimp only
  split <;> exact ⟨rfl, rfl⟩

theorem absorb_terminated (loop : ProxyLoop) (rid : Text) (message : String) :
    (loop.absorb rid message).terminated =
      (loop.terminated.isTerminated rid loop.session.now).2 := by
  rw [absorb]
  dsimp only
  split <;> rfl

theorem receive_session (loop : ProxyLoop) (raw : Bytes) :
    (loop.receive raw).session.now = loop.session.now ∧
      (loop.receive raw).session.streamRequests = loop.session.streamRequests := by
  rw [receive]
  split
  · exact ⟨rfl, rfl⟩
  · dsimp only
    split
    · split
      · exact ⟨rfl, rfl⟩
      · exact absorb_session _ _ _
    · split
      · exact ⟨rfl, rfl⟩
      · exact absorb_session _ _ _
    · exact ⟨rfl, rfl⟩

theorem receive_terminated (loop : ProxyLoop) (raw : Bytes) :
    (loop.receive raw).terminated = loop.terminated ∨
      ∃ rid, (loop.receive raw).terminated =
        (loop.terminated.isTerminated rid loop.session.now).2 := by
  rw [receive]
  split
  · exact .inl rfl
  · dsimp only
    split
    · split
      · exact .inl rfl
      · exact .inr ⟨_, absorb_terminated _ _ _⟩
    · split
      · exact .inl rfl
      · exact .inr ⟨_, absorb_terminated _ _ _⟩
    · exact .inl rfl

theorem wsConnect_session (loop : ProxyLoop) (rid : Text) :
    (loop.wsConnect rid).session.now = loop.session.now ∧
      (loop.wsConnect rid).session.streamRequests = loop.session.streamRequests := by
  rw [wsConnect]
  split
  · exact ⟨rfl, rfl⟩
  · split
    · exact ⟨rfl, rfl⟩
    · dsimp only
      split
      · exact ⟨rfl, rfl⟩
      · split <;> exact ⟨rfl, rfl⟩

theorem wsConnect_terminated (loop : ProxyLoop) (rid : Text) :
    (loop.wsConnect rid).terminated = loop.terminated ∨
      (loop.wsConnect rid).terminated =
        (loop.terminated.isTerminated rid loop.session.now).2 := by
  rw [wsConnect]
  split
  · exact .inl rfl
  · split
    · exact .inl rfl
    · dsimp only
      split
      · exact .inr rfl
      · split <;> exact .inr rfl

theorem overflow_session (loop : ProxyLoop) (rid : Text) :
    (loop.overflow rid).session.now = loop.session.now ∧
      (loop.overflow rid).session.streamRequests = loop.session.streamRequests := by
  rw [overflow]
  split <;> exact ⟨rfl, rfl⟩

theorem wsFinish_session (loop : ProxyLoop) (number : Nat) :
    (loop.wsFinish number).session = loop.session := by
  rw [wsFinish]
  split <;> rfl

theorem follow_terminated (loop : ProxyLoop) (event : Session.Event) :
    (loop.follow event).terminated =
      match loop.remembers (.session event) with
      | some rid => loop.terminated.remember rid loop.session.now
      | none => loop.terminated := by
  cases event with
  | errorFrame rid =>
      rw [follow, remembers]
      split
      · rfl
      · split
        · rfl
        · cases loop.wsChannels.lookup rid <;> rfl
  | refuse rid message =>
      rw [follow, remembers]
      split <;> rfl
  | finish number result =>
      rw [follow, remembers]
      cases (loop.session.task number).kind <;> rfl
  | _ => rfl

theorem step_terminated {event : Event} (stepped : step unicode loop event = some next) :
    (∃ rid, loop.remembers event = some rid ∧
      next.terminated = loop.terminated.remember rid loop.session.now) ∨
      loop.remembers event = none ∧ (next.terminated = loop.terminated ∨
        ∃ rid, next.terminated =
          (loop.terminated.isTerminated rid loop.session.now).2) := by
  cases event with
  | session event =>
      rw [step, Option.ite_none_left_eq_some, Option.map_eq_some_iff] at stepped
      rcases stepped with ⟨_, session, _, rfl⟩
      have followed := loop.follow_terminated event
      cases remembered : loop.remembers (.session event) with
      | some rid =>
          rw [remembered] at followed
          exact .inl ⟨rid, rfl, followed⟩
      | none =>
          rw [remembered] at followed
          exact .inr ⟨rfl, .inl followed⟩
  | wsConnect rid =>
      rw [step, Option.ite_none_right_eq_some] at stepped
      rcases stepped with ⟨_, ⟨⟩⟩
      rcases loop.wsConnect_terminated rid with same | dropped
      · exact .inr ⟨rfl, .inl same⟩
      · exact .inr ⟨rfl, .inr ⟨rid, dropped⟩⟩
  | wsStart number =>
      rw [step, Option.ite_none_right_eq_some] at stepped
      rcases stepped with ⟨_, ⟨⟩⟩
      exact .inr ⟨rfl, .inl rfl⟩
  | wsFinish number =>
      rw [step, Option.ite_none_right_eq_some] at stepped
      rcases stepped with ⟨_, ⟨⟩⟩
      refine .inl ⟨_, rfl, ?_⟩
      rw [wsFinish]
      split <;> rfl
  | overflow rid =>
      rw [step, Option.ite_none_right_eq_some] at stepped
      rcases stepped with ⟨_, ⟨⟩⟩
      rw [overflow, remembers]
      cases loop.wsChannels.lookup rid with
      | some number => exact .inl ⟨rid, rfl, rfl⟩
      | none => exact .inr ⟨rfl, .inl rfl⟩
  | binary raw =>
      rw [step, Option.ite_none_right_eq_some] at stepped
      rcases stepped with ⟨_, ⟨⟩⟩
      exact .inr ⟨rfl, loop.receive_terminated raw⟩

theorem session_step_closes (loop : ProxyLoop) {event : Session.Event} {session : Session}
    (stepped : loop.session.step unicode event = some session) {rid : Text}
    (closed : session.streamRequests rid = none) :
    loop.session.streamRequests rid = none ∨
      loop.remembers (.session event) = some rid := by
  -- an entry is removed by its own id only
  have removed : ∀ {other : Text},
      loop.session.streamRequests.set other none rid = none →
      loop.session.streamRequests rid = none ∨ other = rid := by
    intro other given
    by_cases same : rid = other
    · exact .inr same.symm
    · exact .inl (by simpa only [ById.set, if_neg same] using given)
  cases Session.step_turn stepped with
  | begins _ turn =>
      cases turn with
      | begun _ noStream _ _ _ =>
          simp only [Session.answer, ById.set] at closed
          split at closed
          · cases closed
          · exact .inl closed
      | _ => exact .inl closed
  | handled _ _ turn => exact .inl (turn.streamRequests ▸ closed)
  | erredStream _ stream =>
      rcases removed closed with before | rfl
      · exact .inl before
      · exact .inr (by rw [remembers, stream]; rfl)
  | refused _ stream =>
      rcases removed closed with before | rfl
      · exact .inl before
      · exact .inr (by rw [remembers, stream]; rfl)
  | failedStream _ kind =>
      rcases removed closed with before | rfl
      · exact .inl before
      · exact .inr (by rw [remembers, kind])
  | finishedStream _ kind _ =>
      rcases removed closed with before | rfl
      · exact .inl before
      · exact .inr (by rw [remembers, kind])
  | _ => exact .inl closed

theorem step_closes {event : Event} (stepped : step unicode loop event = some next) :
    loop.session.now ≤ next.session.now ∧
      ∀ rid, next.session.streamRequests rid = none →
        loop.session.streamRequests rid = none ∨ loop.remembers event = some rid := by
  have of_same : next.session.now = loop.session.now ∧
      next.session.streamRequests = loop.session.streamRequests →
      loop.session.now ≤ next.session.now ∧
        ∀ rid, next.session.streamRequests rid = none →
          loop.session.streamRequests rid = none ∨ loop.remembers event = some rid := by
    rintro ⟨now, streams⟩
    exact ⟨Int.le_of_eq now.symm, fun rid closed => .inl (streams ▸ closed)⟩
  cases event with
  | session event =>
      rw [step, Option.ite_none_left_eq_some, Option.map_eq_some_iff] at stepped
      rcases stepped with ⟨_, session, sessionStepped, rfl⟩
      refine ⟨Session.step_now sessionStepped, ?_⟩
      intro rid closed
      exact loop.session_step_closes sessionStepped closed
  | wsConnect rid =>
      rw [step, Option.ite_none_right_eq_some] at stepped
      rcases stepped with ⟨_, ⟨⟩⟩
      exact of_same (loop.wsConnect_session rid)
  | wsStart number =>
      rw [step, Option.ite_none_right_eq_some] at stepped
      rcases stepped with ⟨_, ⟨⟩⟩
      exact of_same ⟨rfl, rfl⟩
  | wsFinish number =>
      rw [step, Option.ite_none_right_eq_some] at stepped
      rcases stepped with ⟨_, ⟨⟩⟩
      have same := loop.wsFinish_session number
      exact of_same ⟨congrArg Session.now same, congrArg Session.streamRequests same⟩
  | overflow rid =>
      rw [step, Option.ite_none_right_eq_some] at stepped
      rcases stepped with ⟨_, ⟨⟩⟩
      exact of_same (loop.overflow_session rid)
  | binary raw =>
      rw [step, Option.ite_none_right_eq_some] at stepped
      rcases stepped with ⟨_, ⟨⟩⟩
      exact of_same (loop.receive_session raw)

end ProxyLoop

inductive LateEvent
  | proxy (event : ProxyLoop.Event)
  | httpReqEnd (rid : Text)
deriving DecidableEq, Repr

namespace LateFrames

def step (unicode : UnicodeData) (loop : ProxyLoop) : LateEvent → Option ProxyLoop
  | .proxy event => ProxyLoop.step unicode loop event
  | .httpReqEnd rid => if loop.session.listening then some (loop.httpReqEnd rid) else none

/-- The request under an id is refused, or its stream fails, is cancelled or is done. -/
def Ends (unicode : UnicodeData) (rid : Text) (loop : ProxyLoop) : LateEvent → Prop
  | .proxy (.session (.httpReqBegin other contentLength)) =>
      other = rid ∧ loop.session.BeginsBeyond unicode rid contentLength
  | .proxy (.session (.errorFrame other)) | .proxy (.session (.refuse other _)) =>
      other = rid ∧ (loop.session.streamRequests rid).isSome = true
  | .proxy (.session (.finish number _)) =>
      (loop.session.task number).rid = rid ∧ (loop.session.task number).kind = .stream
  | _ => False

/-- The request under an id is not refused for a limit, and while no stream is open under
it, it does not have to make room in `terminated_streams`. -/
def Retains (unicode : UnicodeData) (rid : Text) (loop : ProxyLoop) : LateEvent → Prop
  | .proxy event =>
      (∀ request ∈ event.begins, request.1 = rid →
        ¬loop.session.BeginsBeyond unicode rid request.2) ∧
      (loop.session.streamRequests rid = none → ∀ other ∈ loop.remembers event,
        other ≠ rid → ¬loop.terminated.Evicts rid loop.session.now)
  | .httpReqEnd _ => True

instance (unicode : UnicodeData) (rid : Text) (loop : ProxyLoop) :
    ∀ event, Decidable (Retains unicode rid loop event)
  | .proxy _ => inferInstanceAs (Decidable (_ ∧ _))
  | .httpReqEnd _ => .isTrue trivial

structure AbsorbsLate (unicode : UnicodeData) (rid : Text) (loop : ProxyLoop) : Prop where
  data : ∀ (envelope received : BinaryEnvelope) (maxPayload : Int) (raw : Bytes),
    envelope.requestId = rid → envelope.kind = .httpRequestData →
    envelope.encode unicode maxPayload = .ok raw →
    BinaryEnvelope.decode raw loop.session.limits.negotiatedStreamChunk = .ok received →
    loop.receive raw = loop
  ending : loop.httpReqEnd rid = loop

structure LeavesOthers (rid : Text) (loop next : ProxyLoop) : Prop where
  connected : next.session.connected = loop.session.connected
  raised : next.session.raised = loop.session.raised
  streams : ∀ other, other ≠ rid →
    next.session.streamRequests other = loop.session.streamRequests other
  tasks : ∀ number, (loop.session.task number).rid ≠ rid →
    next.session.task number = loop.session.task number
  channels : next.wsChannels = loop.wsChannels
  wsTasks : next.wsTask = loop.wsTask

/-! ### Over a run -/

variable {unicode : UnicodeData} {loop next : ProxyLoop} {rid : Text}

theorem step_bounded {event : LateEvent} (stepped : step unicode loop event = some next)
    (bounded : loop.terminated.length ≤ completedFrameLimit) :
    next.terminated.length ≤ completedFrameLimit := by
  have dropped : ∀ other,
      (loop.terminated.isTerminated other loop.session.now).2.length ≤
        completedFrameLimit := fun other =>
    Nat.le_trans (Terminated.isTerminated_sublist other _ _).length_le bounded
  cases event with
  | proxy event =>
      rcases ProxyLoop.step_terminated stepped with
        ⟨other, _, same⟩ | ⟨_, same | ⟨other, same⟩⟩
      · rw [same]
        exact Terminated.remember_length _ _ _
      · rw [same]
        exact bounded
      · rw [same]
        exact dropped other
  | httpReqEnd other =>
      rw [step, Option.ite_none_right_eq_some] at stepped
      rcases stepped with ⟨_, ⟨⟩⟩
      rw [ProxyLoop.httpReqEnd]
      split
      · exact bounded
      · rw [ProxyLoop.absorb_terminated]
        exact dropped other

theorem step_keyed {event : LateEvent} (stepped : step unicode loop event = some next)
    (keyed : ProxyLoop.Keyed unicode loop) : ProxyLoop.Keyed unicode next := by
  cases event with
  | proxy event => exact ProxyLoop.step_keyed loop event next keyed stepped
  | httpReqEnd other =>
      rw [step, Option.ite_none_right_eq_some] at stepped
      rcases stepped with ⟨_, ⟨⟩⟩
      rw [ProxyLoop.httpReqEnd]
      split
      · exact keyed
      · exact keyed.absorb _ _

/-- The stream that was open under an id ended at some time from `since` on, or is open. -/
structure Tombstoned (rid : Text) (since : Int) (loop : ProxyLoop) : Prop where
  past : since ≤ loop.session.now
  kept : loop.session.now - since ≤ completedFrameTtl →
    loop.session.streamRequests rid = none →
    ∃ timestamp, loop.terminated.lookup rid = some timestamp ∧ since ≤ timestamp

theorem step_lookup {event : LateEvent} {timestamp : Int}
    (bounded : loop.terminated.length ≤ completedFrameLimit)
    (retains : Retains unicode rid loop event)
    (closed : loop.session.streamRequests rid = none)
    (found : loop.terminated.lookup rid = some timestamp)
    (recent : loop.session.now - timestamp ≤ completedFrameTtl)
    (stepped : step unicode loop event = some next) :
    ∃ later, next.terminated.lookup rid = some later ∧
      (later = timestamp ∨ later = loop.session.now) := by
  cases event with
  | proxy event =>
      rcases ProxyLoop.step_terminated stepped with
        ⟨other, remembered, same⟩ | ⟨_, same | ⟨other, same⟩⟩
      · rw [same]
        by_cases again : other = rid
        · subst again
          exact ⟨_, Association.lookup_store_self _ _ _, .inr rfl⟩
        · have spared := retains.2 closed other remembered again
          have kept :=
            Terminated.lookup_remember (Ne.symm again) bounded spared found recent
          exact ⟨_, kept, .inl rfl⟩
      · rw [same]
        exact ⟨_, found, .inl rfl⟩
      · rw [same]
        exact ⟨_, Terminated.lookup_isTerminated found recent other, .inl rfl⟩
  | httpReqEnd other =>
      rw [step, Option.ite_none_right_eq_some] at stepped
      rcases stepped with ⟨_, ⟨⟩⟩
      rw [ProxyLoop.httpReqEnd]
      split
      · exact ⟨_, found, .inl rfl⟩
      · rw [ProxyLoop.absorb_terminated]
        exact ⟨_, Terminated.lookup_isTerminated found recent other, .inl rfl⟩

theorem step_closes {event : LateEvent} (stepped : step unicode loop event = some next) :
    loop.session.now ≤ next.session.now ∧ (next.session.streamRequests rid = none →
      loop.session.streamRequests rid = none ∨
        next.terminated.lookup rid = some loop.session.now) := by
  cases event with
  | proxy event =>
      rcases ProxyLoop.step_closes stepped with ⟨later, closes⟩
      refine ⟨later, ?_⟩
      intro closed
      rcases closes rid closed with before | remembered
      · exact .inl before
      · rcases ProxyLoop.step_terminated stepped with
          ⟨other, isOther, same⟩ | ⟨none, _⟩
        · rw [remembered] at isOther
          cases isOther
          rw [same]
          exact .inr (Association.lookup_store_self _ _ _)
        · rw [remembered] at none
          cases none
  | httpReqEnd other =>
      rw [step, Option.ite_none_right_eq_some] at stepped
      rcases stepped with ⟨_, ⟨⟩⟩
      rw [ProxyLoop.httpReqEnd]
      split
      · exact ⟨Int.le_refl _, .inl⟩
      · rcases loop.absorb_session other _ with ⟨now, streams⟩
        refine ⟨Int.le_of_eq now.symm, ?_⟩
        intro closed
        exact .inl (streams ▸ closed)

theorem Tombstoned.step {since : Int} {event : LateEvent}
    (tombstoned : Tombstoned rid since loop)
    (bounded : loop.terminated.length ≤ completedFrameLimit)
    (retains : Retains unicode rid loop event)
    (stepped : LateFrames.step unicode loop event = some next) :
    Tombstoned rid since next := by
  rcases @step_closes unicode loop next rid event stepped with ⟨later, closes⟩
  have past := tombstoned.past
  refine ⟨Int.le_trans past later, ?_⟩
  intro within closed
  rcases closes closed with before | remembered
  · rcases tombstoned.kept (by omega) before with ⟨timestamp, found, young⟩
    have recent : loop.session.now - timestamp ≤ completedFrameTtl := by omega
    rcases step_lookup bounded retains before found recent stepped with
      ⟨kept, isKept, rfl | rfl⟩
    · exact ⟨_, isKept, young⟩
    · exact ⟨_, isKept, past⟩
  · exact ⟨_, remembered, past⟩

theorem Ends.tombstoned {event : LateEvent} (ends : Ends unicode rid loop event)
    (retains : Retains unicode rid loop event)
    (stepped : LateFrames.step unicode loop event = some next) :
    Tombstoned rid loop.session.now next := by
  have of_remembers : ∀ {event : ProxyLoop.Event},
      LateFrames.step unicode loop (.proxy event) = some next →
      loop.remembers event = some rid → Tombstoned rid loop.session.now next := by
    intro event stepped remembered
    rw [LateFrames.step] at stepped
    refine ⟨(ProxyLoop.step_closes stepped).1, ?_⟩
    intro _ _
    rcases ProxyLoop.step_terminated stepped with
      ⟨other, isOther, same⟩ | ⟨none, _⟩
    · rw [remembered] at isOther
      cases isOther
      rw [same]
      exact ⟨_, Association.lookup_store_self _ _ _, Int.le_refl _⟩
    · rw [remembered] at none
      cases none
  rcases event with event | other
  · cases event with
    | session event =>
        cases event with
        | httpReqBegin other contentLength =>
            rcases ends with ⟨rfl, beyond⟩
            exact absurd beyond (retains.1 _ rfl rfl)
        | errorFrame other =>
            rcases ends with ⟨rfl, isOpen⟩
            exact of_remembers stepped (by rw [ProxyLoop.remembers, if_pos isOpen])
        | refuse other message =>
            rcases ends with ⟨rfl, isOpen⟩
            exact of_remembers stepped (by rw [ProxyLoop.remembers, if_pos isOpen])
        | finish number result =>
            rcases ends with ⟨rfl, kind⟩
            exact of_remembers stepped (by simp only [ProxyLoop.remembers, kind])
        | _ => cases ends
    | _ => cases ends
  · cases ends

theorem Ends.leavesOthers {event : LateEvent} (ends : Ends unicode rid loop event)
    (keyed : ProxyLoop.Keyed unicode loop)
    (stepped : LateFrames.step unicode loop event = some next) :
    LeavesOthers rid loop next := by
  have unchanged : ∀ {other : Text} (table : ById Nat), other ≠ rid →
      table.set rid none other = table other := by
    intro other table different
    simp only [ById.set, if_neg different]
  have unmodified : ∀ {number : Nat} (change : UpstreamTask → UpstreamTask),
      (loop.session.task number).rid = rid → ∀ other,
      (loop.session.task other).rid ≠ rid →
      (loop.session.modifyTask number change).task other = loop.session.task other := by
    intro number change isRid other different
    have : other ≠ number := by
      rintro rfl
      exact different isRid
    simp only [Session.modifyTask, if_neg this]
  rcases event with event | other
  · cases event with
    | session event =>
        rw [LateFrames.step, ProxyLoop.step, Option.ite_none_left_eq_some,
          Option.map_eq_some_iff] at stepped
        rcases stepped with ⟨_, session, sessionStepped, rfl⟩
        have turn := Session.step_turn sessionStepped
        cases event with
        | httpReqBegin other contentLength =>
            rcases ends with ⟨rfl, beyond⟩
            rcases Session.step_beginsBeyond sessionStepped beyond with ⟨message, rfl⟩
            exact ⟨rfl, rfl, fun _ _ => rfl, fun _ _ => rfl, rfl, rfl⟩
        | errorFrame other =>
            rcases ends with ⟨rfl, isOpen⟩
            have followed : loop.follow (.errorFrame other) = loop.remember other := by
              rw [ProxyLoop.follow, if_pos isOpen]
            rw [followed]
            cases turn with
            | erredStream _ stream =>
                have isRid := (keyed.streams _ _ stream).2.1
                exact ⟨rfl, rfl, fun _ => unchanged _, unmodified _ isRid, rfl, rfl⟩
            | erredTask _ noStream _ | erred _ noStream _ =>
                rw [noStream] at isOpen
                cases isOpen
        | refuse other message =>
            rcases ends with ⟨rfl, isOpen⟩
            have followed : loop.follow (.refuse other message) = loop.remember other := by
              rw [ProxyLoop.follow, if_pos isOpen]
            rw [followed]
            cases turn with
            | refused _ stream =>
                have isRid := (keyed.streams _ _ stream).2.1
                exact ⟨rfl, rfl, fun _ => unchanged _, unmodified _ isRid, rfl, rfl⟩
            | unrefused _ noStream =>
                rw [noStream] at isOpen
                cases isOpen
        | finish number result =>
            rcases ends with ⟨rfl, kind⟩
            have followed : loop.follow (.finish number result) =
                loop.remember (loop.session.task number).rid := by
              simp only [ProxyLoop.follow, kind]
            have finished := fun phase =>
              @unmodified number (fun task => { task with phase }) rfl
            rw [followed]
            cases turn with
            | failedStream _ _ | finishedStream _ _ _ =>
                exact ⟨rfl, rfl, fun _ => unchanged _, finished _, rfl, rfl⟩
            | finishedSmall _ small =>
                rw [kind] at small
                cases small
        | _ => cases ends
    | _ => cases ends
  · cases ends

theorem absorbsLate_of_lookup {timestamp : Int}
    (canonical : (Uuid.ofText unicode rid).map Uuid.str = some rid)
    (closed : loop.session.streamRequests rid = none)
    (found : loop.terminated.lookup rid = some timestamp)
    (recent : loop.session.now - timestamp ≤ completedFrameTtl) :
    AbsorbsLate unicode rid loop := by
  have absorbed : ∀ message, loop.absorb rid message = loop := by
    intro message
    rw [ProxyLoop.absorb, Terminated.isTerminated_eq found recent]
    rfl
  constructor
  · intro envelope received maxPayload raw isId isKind encoded decoded
    rcases BinaryEnvelope.decode_eq_of_encode encoded decoded with ⟨uuid, isUuid, same⟩
    rw [isId] at isUuid
    rw [isUuid, Option.map_some, Option.some.injEq] at canonical
    rw [ProxyLoop.receive, decoded, same]
    dsimp only
    rw [isKind, canonical]
    dsimp only
    rw [closed]
    exact absorbed _
  · rw [ProxyLoop.httpReqEnd, closed]
    exact absorbed _

/-- Over every run: the end of a request leaves all else as it is, and what is sent late
for it is absorbed for the time of `completedFrameTtl`, if its id is in the canonical
spelling, no limit refuses it, and the id is never the one that has to make room in
`terminated_streams`. -/
theorem run_absorbsLate {limits : Limits} {before after : List LateEvent}
    {event : LateEvent} {final : ProxyLoop}
    (ran : run (step unicode) (.initial limits) before = some loop)
    (ends : Ends unicode rid loop event) (stepped : step unicode loop event = some next)
    (rest : run (step unicode) next after = some final)
    (canonical : (Uuid.ofText unicode rid).map Uuid.str = some rid)
    (retained : Meets (step unicode) (Retains unicode rid) loop (event :: after))
    (within : final.session.now - loop.session.now ≤ completedFrameTtl)
    (closed : final.session.streamRequests rid = none) :
    LeavesOthers rid loop next ∧ AbsorbsLate unicode rid final := by
  have keyed : ProxyLoop.Keyed unicode loop :=
    invariant_of_run _ (fun _ _ _ keyed stepped => step_keyed stepped keyed)
      (.initial limits) ran
  have bounded : loop.terminated.length ≤ completedFrameLimit :=
    invariant_of_run (fun loop => loop.terminated.length ≤ completedFrameLimit)
      (fun _ _ _ bounded stepped => step_bounded stepped bounded)
      (by simp [ProxyLoop.initial]) ran
  refine ⟨ends.leavesOthers keyed stepped, ?_⟩
  have invariant : final.terminated.length ≤ completedFrameLimit ∧
      Tombstoned rid loop.session.now final := by
    apply invariant_under (fun later => later.terminated.length ≤ completedFrameLimit ∧
      Tombstoned rid loop.session.now later) _ _ (retained.tail stepped) rest
    · rintro state event next ⟨bounded, tombstoned⟩ retains stepped
      exact ⟨step_bounded stepped bounded, tombstoned.step bounded retains stepped⟩
    · exact ⟨step_bounded stepped bounded, ends.tombstoned retained.head stepped⟩
  rcases invariant.2.kept within closed with ⟨timestamp, found, young⟩
  exact absorbsLate_of_lookup canonical closed found (by omega)

def noUnicode : UnicodeData := ⟨fun _ => none⟩

def running : ProxyLoop :=
  Transition.after (step noUnicode) (.initial (.withWindow 4 fourFrames))
    [.proxy (.session (.httpReqBegin ProxyLoop.lowerCaseId none)),
      .proxy (.session (.start 0))]

def unreachable : LateEvent := .proxy (.session (.finish 0 (.failed "unreachable")))

def late : List LateEvent :=
  [.httpReqEnd ProxyLoop.lowerCaseId, .proxy (.session (.tick 1000))]

theorem run_absorbsLate_unreachable :
    LeavesOthers ProxyLoop.lowerCaseId running
        (Transition.after (step noUnicode) running [unreachable]) ∧
      AbsorbsLate noUnicode ProxyLoop.lowerCaseId
        (Transition.after (step noUnicode) running (unreachable :: late)) := by
  have ran : run (step noUnicode) running (unreachable :: late) =
      some (Transition.after (step noUnicode) running (unreachable :: late)) :=
    run_eq_after (by decide +kernel)
  have first : run (step noUnicode) running [unreachable] =
      some (Transition.after (step noUnicode) running [unreachable]) :=
    run_eq_after (by decide +kernel)
  rcases run_cons ran with ⟨next, stepped, rest⟩
  rcases run_cons first with ⟨other, again, same⟩
  cases same
  cases stepped.symm.trans again
  have ends : Ends noUnicode ProxyLoop.lowerCaseId running unreachable :=
    ⟨by decide +kernel, by decide +kernel⟩
  exact run_absorbsLate (run_eq_after (by decide +kernel)) ends stepped rest
    (by decide +kernel) (by decide +kernel) (by decide +kernel) (by decide +kernel)

/-- The bodies of requests are limited to 512 MiB; the end of one that is larger raises. -/
theorem refused_request_end_raises :
    ¬∀ (unicode : UnicodeData) (limits : Limits) (before after : List LateEvent)
        (rid : Text) (event : LateEvent) (loop next final : ProxyLoop),
      run (step unicode) (.initial limits) before = some loop →
      Ends unicode rid loop event → step unicode loop event = some next →
      run (step unicode) next after = some final →
      final.session.now - loop.session.now ≤ completedFrameTtl →
      final.session.streamRequests rid = none →
      LeavesOthers rid loop next ∧ AbsorbsLate unicode rid final := by
  intro claim
  have absorbs := (claim noUnicode (.withWindow 4 (by decide)) [] [] ProxyLoop.lowerCaseId
    (.proxy (.session (.httpReqBegin ProxyLoop.lowerCaseId (some 536870913)))) _ _ _ rfl
    ⟨rfl, by decide +kernel⟩ rfl rfl (by decide +kernel) (by decide +kernel)).2
  have raised := congrArg (fun loop => loop.session.raised.isSome) absorbs.ending
  revert raised
  decide +kernel

end LateFrames

end YrSandbox.Tunnel
