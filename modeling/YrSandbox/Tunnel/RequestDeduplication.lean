import YrSandbox.Tunnel.StreamOwnership

/-! # At most one upstream request

An id is looked up in different maps by the two kinds of request. Within its
retention a request is not started again if it is repeated in the form it came
in, and a streaming one only while it runs or once its response has begun. -/

namespace YrSandbox.Tunnel

open Transition

namespace Exchange

/-! ## The invariant -/

/-- A small request is in flight until its callback has run, and its answer is
cached from then on, unless a response stream stands for it. -/
structure SmallKept (records : Records) (task : Nat) (live : Live) : Prop where
  responded : (records.small task).responded = true → live.responded = true
  running : live.finished = none → (records.small task).phase = .running
  kept : ∀ finished, live.finished = some finished → finished ≤ records.now ∧
    ((records.small task).phase = .done .frame ∨
      (records.small task).phase = .done .streamed ∧ live.responded = true ∨
      (records.small task).phase = .calledBack ∧
        (live.responded = true ∨
          (∃ timestamp, records.completed = some timestamp ∧ finished ≤ timestamp) ∨
          completedFrameTtl < records.now - finished))

theorem SmallKept.later {records next : Records} {task : Nat} {live : Live}
    (kept : SmallKept records task live) (same : next.small task = records.small task)
    (passes : records.now ≤ next.now)
    (cache : ∀ finished timestamp, finished ≤ records.now →
      records.completed = some timestamp → finished ≤ timestamp →
      (∃ timestamp, next.completed = some timestamp ∧ finished ≤ timestamp) ∨
        completedFrameTtl < next.now - finished) :
    SmallKept next task live := by
  refine ⟨same ▸ kept.responded, same ▸ kept.running, fun finished ends => ?_⟩
  rw [same]
  rcases kept.kept finished ends with ⟨past, framed | streamed | ⟨back, shown⟩⟩
  · exact ⟨Int.le_trans past passes, .inl framed⟩
  · exact ⟨Int.le_trans past passes, .inr (.inl streamed)⟩
  · refine ⟨Int.le_trans past passes, .inr (.inr ⟨back, ?_⟩)⟩
    rcases shown with responded | ⟨timestamp, cached, after⟩ | expired
    · exact .inl responded
    · exact .inr (cache finished timestamp past cached after)
    · exact .inr (.inr (by omega))

structure Deduplicated (entry : Option Nat) (records : Records) : Prop where
  once : records.repeated = false
  pending : ∀ task, (records.small task).phase ≠ .calledBack →
    records.inflight = some task
  answered : ∀ live ∈ records.live, live.responded = true →
    records.responseCredits = true
  small : ∀ live ∈ records.live, ∀ task, live.owner = .small task →
    SmallKept records task live
  stream : ∀ live ∈ records.live, ∀ stream, live.owner = .stream stream →
    live.refused = false → live.finished = none → entry = some stream

/-- While the last request is retained, it is repeated in the form it came in or
once its response has begun, and a streaming one neither after it has failed nor
after it was refused. -/
def RepeatsInKind (exchange : Exchange) : Event → Prop
  | .httpReq _ => ∀ live ∈ exchange.live, exchange.retained = true →
      live.responded = false → live.owner.isSmall = true
  | .httpReqBegin _ _ => ∀ live ∈ exchange.live, exchange.retained = true →
      live.responded = false →
        live.owner.isStream = true ∧ live.refused = false ∧ live.finished = none
  | _ => True

instance (exchange : Exchange) : ∀ event, Decidable (RepeatsInKind exchange event)
  | .httpReq _ | .httpReqBegin _ _ =>
      inferInstanceAs (Decidable (∀ live ∈ exchange.live, _ → _ → _))
  | .requestData _ _ _ | .httpReqEnd | .windowFrame _ | .errorFrame | .negotiated _
  | .refused | .endPut | .start _ | .take _ | .resumeContent _ | .credited _ | .respond _
  | .cleanup _ | .smallRespond _ | .smallFinish _ _ | .smallCallback _ | .disconnect
  | .reconnect _ | .tick _ | .evictCompleted | .evictTerminated => .isTrue trivial

theorem Records.mem_mapLive {records : Records} {owner : Owner} {change : Live → Live}
    {changed : Live} (isLive : changed ∈ (records.mapLive owner change).live) :
    ∃ live ∈ records.live,
      changed = if live.owner = owner then change live else live := by
  rcases Option.map_eq_some_iff.mp isLive with ⟨live, before, rfl⟩
  exact ⟨live, before, rfl⟩

theorem Records.changed_of_mem_mapLive {records : Records} {owner : Owner}
    {change : Live → Live} {changed : Live}
    (isLive : changed ∈ (records.mapLive owner change).live)
    (owned : changed.owner = owner) : ∃ live, changed = change live := by
  rcases mem_mapLive isLive with ⟨live, _, rfl⟩
  by_cases matching : live.owner = owner
  · exact ⟨live, if_pos matching⟩
  · rw [if_neg matching] at owned
    exact absurd owned matching

theorem Records.live_of_retained {records : Records} (retained : records.retained = true) :
    ∃ live ∈ records.live, ∀ finished, live.finished = some finished →
      records.now - finished ≤ completedFrameTtl := by
  rw [Records.retained, Option.any_eq_true] at retained
  rcases retained with ⟨live, isLive, fresh⟩
  refine ⟨live, isLive, fun finished ends => ?_⟩
  simpa [ends] using fresh

theorem unfinished_of_mayFinish {small : SmallTask} {result : SmallResult}
    (mayFinish : smallMayFinish small result = true) :
    (∀ other, small.phase ≠ .done other) ∧ small.phase ≠ .calledBack := by
  cases phase : small.phase with
  | running | cancelling => exact ⟨nofun, nofun⟩
  | done | calledBack => cases result <;> simp [smallMayFinish, phase] at mayFinish

namespace Deduplicated

variable {entry : Option Nat} {records : Records}

theorem released (deduplicated : Deduplicated entry records) (other : Option Nat)
    (credits : Bool) {small : Nat → SmallTask}
    (phases : ∀ task, (small task).phase ≠ .calledBack →
      (records.small task).phase ≠ .calledBack) :
    Deduplicated other
      { records with responseCredits := credits, live := none, small } where
  once := deduplicated.once
  pending task phase := deduplicated.pending task (phases task phase)
  answered := nofun
  small := nofun
  stream := nofun

/-- Forgetting what has expired of the cache loses nothing that is retained. -/
theorem cleanupCompleted (deduplicated : Deduplicated entry records) :
    Deduplicated entry records.cleanupCompleted where
  once := deduplicated.once
  pending := deduplicated.pending
  answered := deduplicated.answered
  stream := deduplicated.stream
  small live isLive task owner := by
    have kept := deduplicated.small live isLive task owner
    refine kept.later rfl (Int.le_refl records.now) ?_
    intro finished timestamp _ cached after
    by_cases fresh : records.now - timestamp ≤ completedFrameTtl
    · have stays : records.cleanupCompleted.completed = some timestamp := by
        simp only [Records.cleanupCompleted, cached, Option.filter_some,
          decide_eq_true fresh, if_true]
      exact .inl ⟨timestamp, stays, after⟩
    · exact .inr (by simp only [Records.cleanupCompleted]; omega)

theorem mapLive_stream (deduplicated : Deduplicated entry records) (stream : Nat)
    (change : Live → Live)
    (owner : ∀ live, (change live).owner = live.owner)
    (responded : ∀ live, (change live).responded = live.responded)
    (refused : ∀ live, (change live).refused = false → live.refused = false)
    (finished : ∀ live, (change live).finished = none → live.finished = none) :
    Deduplicated entry (records.mapLive (.stream stream) change) where
  once := deduplicated.once
  pending := deduplicated.pending
  answered changed isLive isResponded := by
    rcases Records.mem_mapLive isLive with ⟨live, before, rfl⟩
    split at isResponded
    · rw [responded] at isResponded
      exact deduplicated.answered live before isResponded
    · exact deduplicated.answered live before isResponded
  small changed isLive task owned := by
    rcases Records.mem_mapLive isLive with ⟨live, before, rfl⟩
    split
    · rename_i streams
      rw [if_pos streams, owner, streams] at owned
      cases owned
    · rename_i other
      rw [if_neg other] at owned
      have kept := deduplicated.small live before task owned
      exact ⟨kept.responded, kept.running, kept.kept⟩
  stream changed isLive other owned isRefused isFinished := by
    rcases Records.mem_mapLive isLive with ⟨live, before, rfl⟩
    split at owned
    · rename_i streams
      rw [if_pos streams] at isRefused isFinished
      rw [owner] at owned
      exact deduplicated.stream live before other owned (refused live isRefused)
        (finished live isFinished)
    · rename_i different
      rw [if_neg different] at isRefused isFinished
      exact deduplicated.stream live before other owned isRefused isFinished

theorem unregister (deduplicated : Deduplicated entry records) (stream : Nat)
    (ending : ∀ live ∈ records.live, live.owner = .stream stream →
      live.refused = true ∨ live.finished.isSome = true)
    (only : ∀ other, entry = some other → other = stream) :
    Deduplicated none records where
  once := deduplicated.once
  pending := deduplicated.pending
  answered := deduplicated.answered
  small := deduplicated.small
  stream live isLive other owner refused finished := by
    have registered := deduplicated.stream live isLive other owner refused finished
    have same := only other registered
    subst same
    rcases ending live isLive owner with isRefused | isFinished
    · rw [refused] at isRefused
      cases isRefused
    · rw [finished] at isFinished
      cases isFinished

theorem answers {small : Nat → SmallTask} (deduplicated : Deduplicated entry records)
    (owner : Owner)
    (phase : ∀ task, (small task).phase = (records.small task).phase)
    (responded : ∀ task, (small task).responded = true →
      (records.small task).responded = true ∨ owner = .small task) :
    Deduplicated entry
      { records.mapLive owner markResponded with responseCredits := true, small } where
  once := deduplicated.once
  pending task := by
    simp only [phase]
    exact deduplicated.pending task
  answered _ _ _ := rfl
  small changed isLive task owned := by
    rcases Records.mem_mapLive isLive with ⟨live, before, rfl⟩
    split at owned
    · rename_i matching
      have kept := deduplicated.small live before task owned
      rw [if_pos matching]
      refine ⟨fun _ => rfl, ?_, ?_⟩
      · intro unfinished
        simp only [phase]
        exact kept.running unfinished
      · intro finished ends
        simp only [phase]
        rcases kept.kept finished ends with ⟨past, framed | streamed | ⟨back, _⟩⟩
        · exact ⟨past, .inl framed⟩
        · exact ⟨past, .inr (.inl ⟨streamed.1, rfl⟩)⟩
        · exact ⟨past, .inr (.inr ⟨back, .inl rfl⟩)⟩
    · rename_i different
      have kept := deduplicated.small live before task owned
      rw [if_neg different]
      refine ⟨?_, ?_, ?_⟩
      · intro isResponded
        rcases responded task isResponded with earlier | now
        · exact kept.responded earlier
        · exact absurd (owned.trans now.symm) different
      · intro unfinished
        simp only [phase]
        exact kept.running unfinished
      · simp only [phase]
        exact kept.kept
  stream changed isLive stream owned isRefused isFinished := by
    rcases Records.mem_mapLive isLive with ⟨live, before, rfl⟩
    split at owned
    · rename_i matching
      rw [if_pos matching] at isRefused isFinished
      exact deduplicated.stream live before stream owned isRefused isFinished
    · rename_i different
      rw [if_neg different] at isRefused isFinished
      exact deduplicated.stream live before stream owned isRefused isFinished

theorem finishes {task : Nat} {result : SmallResult}
    (deduplicated : Deduplicated entry records)
    (mayFinish : smallMayFinish (records.small task) result = true) :
    Deduplicated entry
      { records.mapLive (.small task) (markFinished records.now) with
        small := fun other =>
          if other = task then { records.small other with phase := .done result }
          else records.small other } where
  once := deduplicated.once
  pending other phase := by
    by_cases same : other = task
    · subst same
      exact deduplicated.pending _ (unfinished_of_mayFinish mayFinish).2
    · simp only [if_neg same] at phase
      exact deduplicated.pending other phase
  answered changed isLive isResponded := by
    rcases Records.mem_mapLive isLive with ⟨live, before, rfl⟩
    split at isResponded <;> exact deduplicated.answered live before isResponded
  small changed isLive other owned := by
    rcases Records.mem_mapLive isLive with ⟨live, before, rfl⟩
    split at owned
    · rename_i matching
      have same : other = task := by
        have owners : Owner.small other = .small task := owned.symm.trans matching
        cases owners
        rfl
      subst same
      have kept := deduplicated.small live before other matching
      have unfinished := unfinished_of_mayFinish mayFinish
      have running : (records.small other).phase = .running := by
        cases ended : live.finished with
        | none => exact kept.running ended
        | some finished =>
            rcases (kept.kept finished ended).2 with framed | ⟨streamed, _⟩ | ⟨back, _⟩
            · exact absurd framed (unfinished.1 _)
            · exact absurd streamed (unfinished.1 _)
            · exact absurd back unfinished.2
      rw [if_pos matching]
      refine ⟨?_, nofun, ?_⟩
      · simpa [markFinished] using kept.responded
      · intro finished ends
        cases ends
        refine ⟨Int.le_refl _, ?_⟩
        simp only [if_true]
        cases result with
        | frame => exact .inl rfl
        | streamed =>
            have responded : (records.small other).responded = true := by
              simpa [smallMayFinish, running] using mayFinish
            exact .inr (.inl ⟨rfl, kept.responded responded⟩)
        | cancelled => simp [smallMayFinish, running] at mayFinish
    · rename_i different
      have kept := deduplicated.small live before other owned
      have unequal : other ≠ task := by
        intro same
        subst same
        exact different owned
      rw [if_neg different]
      refine ⟨?_, ?_, ?_⟩
      · simpa only [if_neg unequal] using kept.responded
      · simpa only [if_neg unequal] using kept.running
      · simpa only [if_neg unequal, Records.mapLive] using kept.kept
  stream changed isLive stream owned isRefused isFinished := by
    rcases Records.mem_mapLive isLive with ⟨live, before, rfl⟩
    split at owned
    · rename_i matching
      have owners : Owner.stream stream = .small task := owned.symm.trans matching
      cases owners
    · rename_i different
      rw [if_neg different] at isRefused isFinished
      exact deduplicated.stream live before stream owned isRefused isFinished

theorem callsBack {task : Nat} {result : SmallResult}
    (deduplicated : Deduplicated entry records)
    (done : (records.small task).phase = .done result) :
    Deduplicated entry
      { records with
        inflight := none
        small := fun other =>
          if other = task then { records.small other with phase := .calledBack }
          else records.small other
        completed :=
          if result = .frame then some records.now else records.completed } where
  once := deduplicated.once
  pending other phase := by
    by_cases same : other = task
    · simp [same] at phase
    · simp only [if_neg same] at phase
      have left := deduplicated.pending other phase
      have right := deduplicated.pending task (by simp [done])
      rw [left] at right
      exact absurd (Option.some.inj right) same
  answered := deduplicated.answered
  stream := deduplicated.stream
  small live isLive other owned := by
    have kept := deduplicated.small live isLive other owned
    by_cases same : other = task
    · subst same
      refine ⟨by simpa using kept.responded, ?_, ?_⟩
      · intro unfinished
        have running := kept.running unfinished
        rw [done] at running
        cases running
      · intro finished ends
        rcases kept.kept finished ends with ⟨past, framed | ⟨_, responded⟩ | ⟨back, _⟩⟩
        · rw [done] at framed
          cases framed
          exact ⟨past, .inr (.inr ⟨by simp, .inr (.inl ⟨_, rfl, past⟩)⟩)⟩
        · exact ⟨past, .inr (.inr ⟨by simp, .inl responded⟩)⟩
        · rw [done] at back
          cases back
    · refine kept.later (if_neg same) (Int.le_refl records.now) ?_
      intro finished timestamp past cached after
      left
      by_cases framed : result = .frame
      · exact ⟨records.now, if_pos framed, past⟩
      · refine ⟨timestamp, ?_, after⟩
        simp only [if_neg framed]
        exact cached

theorem tick (deduplicated : Deduplicated entry records) (elapsed : Nat) :
    Deduplicated entry { records with now := records.now + elapsed } where
  once := deduplicated.once
  pending := deduplicated.pending
  answered := deduplicated.answered
  stream := deduplicated.stream
  small live isLive task owned := by
    have passes : records.now ≤ records.now + elapsed := by omega
    exact (deduplicated.small live isLive task owned).later rfl passes
      fun _ timestamp _ cached after => .inl ⟨timestamp, cached, after⟩

theorem evictCompleted (deduplicated : Deduplicated entry records) :
    Deduplicated entry
      { records with
        completed := none
        live := records.live.filter fun live =>
          live.finished.isNone || !live.owner.isSmall } where
  once := deduplicated.once
  pending := deduplicated.pending
  answered live isLive := deduplicated.answered live (Option.mem_filter_iff.mp isLive).1
  stream live isLive := deduplicated.stream live (Option.mem_filter_iff.mp isLive).1
  small live isLive task owned := by
    rcases Option.mem_filter_iff.mp isLive with ⟨before, remains⟩
    have kept := deduplicated.small live before task owned
    refine ⟨kept.responded, kept.running, fun finished ends => ?_⟩
    simp [ends, owned, Owner.isSmall] at remains

theorem evictTerminated (deduplicated : Deduplicated entry records) :
    Deduplicated entry
      { records with
        live := records.live.filter fun live =>
          live.finished.isNone || !live.owner.isStream } where
  once := deduplicated.once
  pending := deduplicated.pending
  answered live isLive := deduplicated.answered live (Option.mem_filter_iff.mp isLive).1
  stream live isLive := deduplicated.stream live (Option.mem_filter_iff.mp isLive).1
  small live isLive task owned := by
    have kept := deduplicated.small live (Option.mem_filter_iff.mp isLive).1 task owned
    exact ⟨kept.responded, kept.running, kept.kept⟩

theorem startsSmall (deduplicated : Deduplicated entry records)
    (unretained : records.retained = false) (free : records.inflight = none) :
    Deduplicated entry
      { records with
        live := some ⟨.small records.started, false, false, none⟩
        repeated := records.repeated || records.retained
        small := fun other =>
          if other = records.started then ⟨.running, false⟩ else records.small other
        started := records.started + 1
        inflight := some records.started } where
  once := by simp [unretained, deduplicated.once]
  pending task phase := by
    by_cases same : task = records.started
    · rw [same]
    · simp only [if_neg same] at phase
      have pending := deduplicated.pending task phase
      rw [free] at pending
      cases pending
  answered live isLive responded := by
    cases isLive
    cases responded
  small live isLive task owner := by
    cases isLive
    cases owner
    exact ⟨by simp, by simp, nofun⟩
  stream live isLive stream owner := by
    cases isLive
    cases owner

theorem startsStream (deduplicated : Deduplicated entry records)
    (unretained : records.retained = false) (stream : Nat) :
    Deduplicated (some stream)
      { records with
        live := some ⟨.stream stream, false, false, none⟩
        repeated := records.repeated || records.retained } where
  once := by simp [unretained, deduplicated.once]
  pending := deduplicated.pending
  answered live isLive responded := by
    cases isLive
    cases responded
  small live isLive task owner := by
    cases isLive
    cases owner
  stream live isLive other owner _ _ := by
    cases isLive
    cases owner
    rfl

theorem unresponded (deduplicated : Deduplicated entry records)
    (unanswered : records.responseCredits = false) (live : Live)
    (isLive : live ∈ records.live) : live.responded = false := by
  cases responded : live.responded with
  | false => rfl
  | true =>
      have answered := deduplicated.answered live isLive responded
      rw [unanswered] at answered
      cases answered

theorem unretained_of_absent (deduplicated : Deduplicated entry records)
    (inKind : ∀ live ∈ records.live, records.retained = true → live.responded = false →
      live.owner.isSmall = true)
    (unanswered : records.responseCredits = false)
    (uncached : records.cleanupCompleted.completed = none)
    (free : records.inflight = none) : records.retained = false := by
  cases retained : records.retained with
  | false => rfl
  | true =>
      rcases Records.live_of_retained retained with ⟨live, isLive, fresh⟩
      have unresponded := deduplicated.unresponded unanswered live isLive
      have small := inKind live isLive retained unresponded
      cases owner : live.owner with
      | stream stream =>
          rw [owner] at small
          cases small
      | small task =>
          have kept := deduplicated.small live isLive task owner
          have absent : (records.small task).phase = .calledBack := by
            cases phase : (records.small task).phase with
            | calledBack => rfl
            | running | cancelling | done result =>
                have pending := deduplicated.pending task (by simp [phase])
                rw [free] at pending
                cases pending
          cases finished : live.finished with
          | none =>
              have running := kept.running finished
              rw [absent] at running
              cases running
          | some time =>
              have fresh := fresh time finished
              rcases (kept.kept time finished).2 with framed | ⟨streamed, _⟩ |
                ⟨_, responded | ⟨timestamp, cached, after⟩ | expired⟩
              · rw [absent] at framed
                cases framed
              · rw [absent] at streamed
                cases streamed
              · rw [unresponded] at responded
                cases responded
              · simp [Records.cleanupCompleted, cached] at uncached
                omega
              · omega

theorem unretained_of_unregistered (deduplicated : Deduplicated none records)
    (inKind : ∀ live ∈ records.live, records.retained = true → live.responded = false →
      live.owner.isStream = true ∧ live.refused = false ∧ live.finished = none)
    (unanswered : records.responseCredits = false) : records.retained = false := by
  cases retained : records.retained with
  | false => rfl
  | true =>
      rcases Records.live_of_retained retained with ⟨live, isLive, fresh⟩
      have unresponded := deduplicated.unresponded unanswered live isLive
      rcases inKind live isLive retained unresponded with ⟨streams, refused, finished⟩
      cases owner : live.owner with
      | small task =>
          rw [owner] at streams
          cases streams
      | stream stream =>
          have registered := deduplicated.stream live isLive stream owner refused finished
          cases registered

end Deduplicated

/-! ## Along a run -/

theorem httpReq_deduplicated {exchange : Exchange} (httpTasks : Nat)
    (deduplicated : Deduplicated exchange.streamRequest exchange.toRecords)
    (inKind : RepeatsInKind exchange (.httpReq httpTasks)) :
    Deduplicated (exchange.httpReq httpTasks).streamRequest
      (exchange.httpReq httpTasks).toRecords := by
  have cleaned := deduplicated.cleanupCompleted
  rw [httpReq_streams]
  unfold httpReq handleHttpReq
  simp only
  split
  · exact deduplicated
  · split
    · exact cleaned
    · rename_i unanswered
      split
      · exact cleaned
      · rename_i uncached
        split
        · exact cleaned
        · rename_i busy
          have free : exchange.inflight = none := Option.not_isSome_iff_eq_none.mp busy
          have unretained := deduplicated.unretained_of_absent inKind
            (Bool.not_eq_true _ ▸ unanswered) (Option.not_isSome_iff_eq_none.mp uncached)
            free
          exact cleaned.startsSmall unretained free

theorem httpReqBegin_deduplicated {exchange : Exchange} (contentLength : Option Int)
    (httpTasks : Nat)
    (deduplicated : Deduplicated exchange.streamRequest exchange.toRecords)
    (inKind : RepeatsInKind exchange (.httpReqBegin contentLength httpTasks)) :
    Deduplicated (exchange.httpReqBegin contentLength httpTasks).streamRequest
      (exchange.httpReqBegin contentLength httpTasks).toRecords := by
  unfold httpReqBegin
  split
  · exact deduplicated
  · split
    · exact deduplicated
    · rename_i unregistered
      split
      · exact deduplicated
      · rename_i unanswered
        split
        · exact deduplicated
        · split
          · exact deduplicated
          · split
            · exact deduplicated
            · rw [unregistered] at deduplicated
              have unretained := deduplicated.unretained_of_unregistered inKind
                (by simpa using unanswered)
              exact deduplicated.startsStream unretained exchange.opened

theorem cancelStream_deduplicated {exchange : Exchange} {entry : Option Nat}
    (deduplicated : Deduplicated entry exchange.toRecords) (stream : Nat) :
    Deduplicated entry (exchange.cancelStream stream).toRecords := by
  unfold cancelStream
  simp only
  split
  · exact deduplicated.mapLive_stream stream (markFinished exchange.now) (fun _ => rfl)
      (fun _ => rfl) (fun _ => id) nofun
  · exact deduplicated

theorem refused_deduplicated {exchange : Exchange} {stream : Nat}
    (owned : Owned exchange.toStreams) (refusing : exchange.receiver = .refusing stream)
    (deduplicated : Deduplicated exchange.streamRequest exchange.toRecords) :
    Deduplicated (exchange.refused stream).streamRequest
      (exchange.refused stream).toRecords := by
  have cancelled := cancelStream_deduplicated deduplicated stream
  have marked := cancelled.mapLive_stream stream markRefused (fun _ => rfl)
    (fun _ => rfl) nofun fun _ => id
  refine marked.unregister stream ?_ ?_
  · intro changed isLive owner
    rcases Records.changed_of_mem_mapLive isLive owner with ⟨live, rfl⟩
    exact .inl rfl
  · intro other registered
    exact owned.refusing stream other refusing ((owned.registered other).mp registered)

theorem cleanup_deduplicated {exchange : Exchange} {stream : Nat}
    (owned : Owned exchange.toStreams)
    (unfinished : (exchange.incarnation stream).task ≠ .finished)
    (deduplicated : Deduplicated exchange.streamRequest exchange.toRecords) :
    Deduplicated (exchange.cleanup stream).streamRequest
      (exchange.cleanup stream).toRecords := by
  have marked := deduplicated.mapLive_stream stream (markFinished exchange.now)
    (fun _ => rfl) (fun _ => rfl) (fun _ => id) nofun
  refine marked.unregister stream ?_ ?_
  · intro changed isLive owner
    rcases Records.changed_of_mem_mapLive isLive owner with ⟨live, rfl⟩
    exact .inr rfl
  · intro other registered
    have active := (owned.registered other).mp registered
    exact owned.single other stream active.unfinished unfinished

theorem errorFrame_deduplicated {exchange : Exchange}
    (deduplicated : Deduplicated exchange.streamRequest exchange.toRecords) :
    Deduplicated exchange.errorFrame.streamRequest exchange.errorFrame.toRecords := by
  unfold errorFrame
  simp only
  split
  · rename_i stream registered
    unfold cancelStream
    simp only
    split
    · exact deduplicated.released none false fun _ => id
    · exact deduplicated.released none false fun _ => id
  · split
    · rename_i task _
      refine deduplicated.released _ false fun other phase => ?_
      by_cases same : other = task
      · simp only [modifySmall, if_pos same] at phase
        split at phase
        · rename_i running
          simp [running]
        · exact phase
      · simpa only [modifySmall, if_neg same] using phase
    · exact deduplicated.released _ false fun _ => id

theorem windowFrame_deduplicated {exchange : Exchange} (complete : Bool)
    (deduplicated : Deduplicated exchange.streamRequest exchange.toRecords) :
    Deduplicated (exchange.windowFrame complete).streamRequest
      (exchange.windowFrame complete).toRecords := by
  unfold windowFrame
  split
  · exact deduplicated.released _ false fun _ => id
  · exact deduplicated

theorem smallCallback_deduplicated {exchange : Exchange} {task : Nat}
    {result : SmallResult}
    (done : (exchange.small task).phase = .done result)
    (deduplicated : Deduplicated exchange.streamRequest exchange.toRecords) :
    Deduplicated (exchange.smallCallback task result).streamRequest
      (exchange.smallCallback task result).toRecords := by
  have called := deduplicated.callsBack done
  cases result with
  | frame => exact called.cleanupCompleted
  | streamed => exact called
  | cancelled => exact called

theorem endBody_records (stream : Nat) (exchange : Exchange) :
    (exchange.endBody stream).toRecords = exchange.toRecords ∧
      (exchange.endBody stream).streamRequest = exchange.streamRequest := by
  unfold endBody
  simp only
  split <;> exact ⟨rfl, rfl⟩

theorem absorbOrRaise_records (message : String) (exchange : Exchange) :
    (exchange.absorbOrRaise message).toRecords = exchange.toRecords ∧
      (exchange.absorbOrRaise message).streamRequest = exchange.streamRequest := by
  unfold absorbOrRaise
  split <;> exact ⟨rfl, rfl⟩

theorem requestData_records (offset : Option Nat) (payload : Bytes) (endOfBody : Bool)
    (exchange : Exchange) :
    (exchange.requestData offset payload endOfBody).toRecords = exchange.toRecords ∧
      (exchange.requestData offset payload endOfBody).streamRequest =
        exchange.streamRequest := by
  unfold requestData
  split
  · exact absorbOrRaise_records _ exchange
  · unfold streamData
    simp only
    repeat' split
    all_goals first
      | exact ⟨rfl, rfl⟩
      | exact endBody_records _ _

theorem httpReqEnd_records (exchange : Exchange) :
    exchange.httpReqEnd.toRecords = exchange.toRecords ∧
      exchange.httpReqEnd.streamRequest = exchange.streamRequest := by
  unfold httpReqEnd
  split
  · exact absorbOrRaise_records _ exchange
  · unfold streamEnd
    simp only
    repeat' split
    all_goals first
      | exact ⟨rfl, rfl⟩
      | exact endBody_records _ _

theorem step_deduplicated {exchange next : Exchange} {event : Event}
    (owned : Owned exchange.toStreams)
    (deduplicated : Deduplicated exchange.streamRequest exchange.toRecords)
    (inKind : RepeatsInKind exchange event) (stepped : exchange.step event = some next) :
    Deduplicated next.streamRequest next.toRecords := by
  cases event with
  | httpReq httpTasks =>
      simp only [step, Option.ite_none_right_eq_some, Option.some.injEq] at stepped
      rcases stepped with ⟨_, rfl⟩
      exact httpReq_deduplicated httpTasks deduplicated inKind
  | httpReqBegin contentLength httpTasks =>
      simp only [step, Option.ite_none_right_eq_some, Option.some.injEq] at stepped
      rcases stepped with ⟨_, rfl⟩
      exact httpReqBegin_deduplicated contentLength httpTasks deduplicated inKind
  | requestData offset payload endOfBody =>
      simp only [step, Option.ite_none_right_eq_some, Option.some.injEq] at stepped
      rcases stepped with ⟨_, rfl⟩
      rw [(requestData_records ..).1, (requestData_records ..).2]
      exact deduplicated
  | httpReqEnd =>
      simp only [step, Option.ite_none_right_eq_some, Option.some.injEq] at stepped
      rcases stepped with ⟨_, rfl⟩
      rw [(httpReqEnd_records _).1, (httpReqEnd_records _).2]
      exact deduplicated
  | windowFrame complete =>
      simp only [step, Option.ite_none_right_eq_some, Option.some.injEq] at stepped
      rcases stepped with ⟨_, rfl⟩
      exact windowFrame_deduplicated complete deduplicated
  | errorFrame =>
      simp only [step, Option.ite_none_right_eq_some, Option.some.injEq] at stepped
      rcases stepped with ⟨_, rfl⟩
      exact errorFrame_deduplicated deduplicated
  | refused =>
      simp only [step] at stepped
      split at stepped
      · rename_i stream refusing
        cases stepped
        exact refused_deduplicated owned refusing deduplicated
      · cases stepped
  | endPut =>
      simp only [step] at stepped
      split at stepped
      · rcases Option.map_eq_some_iff.mp stepped with ⟨queue, _, rfl⟩
        exact deduplicated
      · cases stepped
  | take stream =>
      simp only [step, Option.ite_none_right_eq_some] at stepped
      rcases Option.map_eq_some_iff.mp stepped.2 with ⟨incarnation, _, rfl⟩
      exact deduplicated
  | cleanup stream =>
      simp only [step, Option.ite_none_right_eq_some, Option.some.injEq] at stepped
      rcases stepped with ⟨unfinished, rfl⟩
      refine cleanup_deduplicated owned ?_ deduplicated
      rcases unfinished with running | cancelling
      · simp [running]
      · simp [cancelling]
  | respond stream =>
      simp only [step, Option.ite_none_right_eq_some, Option.some.injEq] at stepped
      rcases stepped with ⟨_, rfl⟩
      exact deduplicated.answers (.stream stream) (fun _ => rfl) fun _ => .inl
  | smallRespond task =>
      simp only [step, Option.ite_none_right_eq_some, Option.some.injEq] at stepped
      rcases stepped with ⟨_, rfl⟩
      refine deduplicated.answers (.small task) ?_ ?_
      · intro other
        simp only [mapLive, Records.mapLive, modifySmall]
        split <;> rfl
      · intro other responded
        by_cases same : other = task
        · exact .inr (congrArg Owner.small same.symm)
        · refine .inl ?_
          simpa only [mapLive, Records.mapLive, modifySmall, if_neg same] using responded
  | smallFinish task result =>
      simp only [step, Option.ite_none_right_eq_some, Option.some.injEq] at stepped
      rcases stepped with ⟨mayFinish, rfl⟩
      exact deduplicated.finishes mayFinish
  | smallCallback task =>
      simp only [step] at stepped
      split at stepped
      · rename_i result done
        cases stepped
        exact smallCallback_deduplicated done deduplicated
      · cases stepped
  | disconnect =>
      simp only [step] at stepped
      split at stepped
      · cases stepped
        exact deduplicated
      · cases stepped
        exact deduplicated
      · cases stepped
  | reconnect limits =>
      simp only [step, Option.ite_none_left_eq_some, Option.some.injEq] at stepped
      rcases stepped with ⟨_, rfl⟩
      exact deduplicated
  | tick elapsed =>
      cases stepped
      exact deduplicated.tick elapsed
  | evictCompleted =>
      simp only [step, Option.ite_none_right_eq_some, Option.some.injEq] at stepped
      rcases stepped with ⟨_, rfl⟩
      exact deduplicated.evictCompleted
  | evictTerminated =>
      simp only [step, Option.ite_none_right_eq_some, Option.some.injEq] at stepped
      rcases stepped with ⟨_, rfl⟩
      exact deduplicated.evictTerminated
  | negotiated _ | start _ | resumeContent _ | credited _ =>
      simp only [step, Option.ite_none_right_eq_some, Option.some.injEq] at stepped
      rcases stepped with ⟨_, rfl⟩
      exact deduplicated

theorem initial_deduplicated (rid : String) (limits : Limits) :
    Deduplicated (initial rid limits).streamRequest (initial rid limits).toRecords where
  once := rfl
  pending _ phase := absurd rfl phase
  answered := nofun
  small := nofun
  stream := nofun

/-- While streams open after the cleanup of the earlier ones and requests are
repeated in kind, no retained request is started again. -/
theorem run_startsOnce {rid : String} {limits : Limits} {events : List Event}
    {final : Exchange} (ran : run step (initial rid limits) events = some final)
    (opens : Meets step
      (fun exchange => OpensAfterCleanup exchange.responseCredits exchange.toStreams)
      (initial rid limits) events)
    (inKind : Meets step RepeatsInKind (initial rid limits) events) :
    final.repeated = false := by
  have kept : Owned final.toStreams ∧ Deduplicated final.streamRequest final.toRecords :=
    invariant_under
      (fun exchange => Owned exchange.toStreams ∧
        Deduplicated exchange.streamRequest exchange.toRecords)
      (fun exchange event next holds (meets : OpensAfterCleanup exchange.responseCredits
          exchange.toStreams event ∧ RepeatsInKind exchange event) stepped =>
        ⟨(step_turn stepped).owned holds.1 meets.1,
          step_deduplicated holds.1 holds.2 meets.2 stepped⟩)
      ⟨initial_owned rid limits, initial_deduplicated rid limits⟩ (opens.and inKind) ran
  exact kept.2.once

/-- A small request is repeated while it runs and after it has answered. -/
theorem run_startsOnce_small_repeated :
    (after step (initial "get" (.withWindow 2 (by decide)))
      [.httpReq 0, .httpReq 1, .smallFinish 0 .frame, .disconnect,
        .reconnect (.withWindow 2 (by decide)), .smallCallback 0, .tick 1000,
        .httpReq 0]).repeated = false :=
  run_startsOnce (run_eq_after (by decide)) (by decide) (by decide)

/-- A streaming request fails before its response begins, and its error is lost
with the connection. The peer begins the id again and the upstream request is
started a second time. -/
theorem failed_stream_starts_again :
    ¬∀ (rid : String) (limits : Limits) (events : List Event) (final : Exchange),
      run step (initial rid limits) events = some final → final.repeated = false := by
  intro claim
  have once := claim "upload" (.withWindow 2 (by decide))
    [.httpReqBegin none 0, .start 0, .cleanup 0, .disconnect,
      .reconnect (.withWindow 2 (by decide)), .httpReqBegin none 0] _ rfl
  exact absurd once (by decide)

end Exchange

end YrSandbox.Tunnel
