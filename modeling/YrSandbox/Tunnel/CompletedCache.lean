import YrSandbox.Foundation.Eviction
import YrSandbox.Tunnel.Session

/-! # The cache of completed responses

`cleanup_completed` with the size that it counts down beside the dictionary `completed`. -/

namespace YrSandbox.Tunnel

open Python Eviction

/-! ## Frames -/

/-- What `build_http_resp_frame` returns. -/
inductive ResponseFrame (Rid : Type u)
  | httpResp (id : Rid) (status : Nat) (headers : List (Text × Text)) (body : Text)
  | error (id : Rid) (message : Text)
deriving DecidableEq, Repr

namespace ResponseFrame

variable {Rid : Type u}

/-- `frame.get("headers") or []` -/
def headers : ResponseFrame Rid → List (Text × Text)
  | httpResp _ _ headers _ => headers
  | error _ _ => []

/-- `frame.get("body", "")` -/
def body : ResponseFrame Rid → Text
  | httpResp _ _ _ body => body
  | error _ _ => []

def cachedFrameBytes (frame : ResponseFrame Rid) : Nat :=
  frame.body.length +
    (frame.headers.map fun header => header.1.length + header.2.length).sum

end ResponseFrame

/-- A frame of `completed` and the time at which it was stored. -/
structure CompletedFrame (Rid : Type u) where
  frame : ResponseFrame Rid
  timestamp : Int
deriving DecidableEq, Repr

structure CompletedCache (Rid : Type u) where
  entries : List (Rid × CompletedFrame Rid)
  distinct : Distinct entries

/-! ## The clean-up -/

variable {Rid : Type u}

def completedBounds : Bounds (CompletedFrame Rid) Int where
  size completed := completed.frame.cachedFrameBytes
  time := CompletedFrame.timestamp
  length := completedFrameLimit
  total := completedFrameBytesLimit

def expired (now : Int) (entry : Rid × CompletedFrame Rid) : Bool :=
  decide (now - entry.2.timestamp > completedFrameTtl)

theorem not_expired (now : Int) (entry : Rid × CompletedFrame Rid) :
    (!expired now entry) = decide (now - entry.2.timestamp ≤ completedFrameTtl) := by
  rw [expired, ← decide_not, decide_eq_decide]
  exact not_lt

/-- The entries that have not expired and are not older than `since`. -/
def recentSince (now since : Int) (completed : List (Rid × CompletedFrame Rid)) :
    List (Rid × CompletedFrame Rid) :=
  completed.filter fun entry =>
    now - entry.2.timestamp ≤ completedFrameTtl ∧ since ≤ entry.2.timestamp

namespace CompletedCache

def recent (cache : CompletedCache Rid) (now : Int) : State Rid (CompletedFrame Rid) where
  entries := cache.entries.filter (!expired now ·)
  size := completedBounds.sizeOf (cache.entries.filter (!expired now ·))

variable (cache : CompletedCache Rid) (now : Int)

theorem distinct_recent : Distinct (cache.recent now).entries :=
  cache.distinct.sublist (List.filter_sublist (p := (!expired now ·)))

theorem length_recent_le : (cache.recent now).entries.length ≤ cache.entries.length :=
  List.length_filter_le (!expired now ·) cache.entries

end CompletedCache

variable [DecidableEq Rid]

/-- `cleanup_completed`, with at most `rounds` rounds of its loop. -/
def cleanupCompleted (rounds : Nat) (now : Int)
    (completed : List (Rid × CompletedFrame Rid)) :
    Option (Except LookupError (List (Rid × CompletedFrame Rid))) :=
  let recent := popAll ((completed.filter (expired now)).map Prod.fst) completed
  let cachedBytes := completedBounds.sizeOf recent
  (completedBounds.evict rounds ⟨recent, cachedBytes⟩).map (·.map State.entries)

/-- A call of `done_callback`: what the task of the request returned, if anything, and the
clock where it is stored and where the cache is cleaned up. -/
structure DoneCall (Rid : Type u) where
  rid : Rid
  result : Option (ResponseFrame Rid)
  stored : Int
  now : Int

def doneCallback (rounds : Nat) (call : DoneCall Rid)
    (completed : List (Rid × CompletedFrame Rid)) :
    Option (Except LookupError (List (Rid × CompletedFrame Rid))) :=
  match call.result with
  | none => some (.ok completed)
  | some frame =>
      cleanupCompleted rounds call.now
        (Association.store call.rid ⟨frame, call.stored⟩ completed)

def doneCallbacks (rounds : Nat) (calls : List (DoneCall Rid))
    (completed : List (Rid × CompletedFrame Rid)) :
    Option (Except LookupError (List (Rid × CompletedFrame Rid))) :=
  match calls with
  | [] => some (.ok completed)
  | call :: calls =>
      match doneCallback rounds call completed with
      | some (.ok next) => doneCallbacks rounds calls next
      | failed => failed

namespace CompletedCache

variable (cache : CompletedCache Rid) (now : Int)

theorem cleanupCompleted_eq (rounds : Nat) :
    cleanupCompleted rounds now cache.entries =
      (completedBounds.evict rounds (cache.recent now)).map (·.map State.entries) := by
  rw [cleanupCompleted, cache.distinct.popAll_keys (expired now)]
  rfl

theorem evict_recent :
    ∃ kept : CompletedCache Rid, ∃ final, final.entries = kept.entries ∧
      completedBounds.Leaves (cache.recent now).entries kept.entries ∧
      ∀ rounds, cache.entries.length ≤ rounds →
        completedBounds.evict rounds (cache.recent now) = some (.ok final) ∧
        cleanupCompleted rounds now cache.entries = some (.ok kept.entries) := by
  rcases completedBounds.evict_leaves (cache.distinct_recent now) rfl with
    ⟨final, leaves, ends⟩
  let kept : CompletedCache Rid :=
    ⟨final.entries, (cache.distinct_recent now).sublist leaves.sublist⟩
  refine ⟨kept, final, rfl, leaves, fun rounds enough => ?_⟩
  have ended := ends rounds (Nat.le_trans (cache.length_recent_le now) enough)
  refine ⟨ended, ?_⟩
  rw [cleanupCompleted_eq, ended]
  rfl

end CompletedCache

/-- The contract of `cleanup_completed`. -/
theorem cleanupCompleted_result (cache : CompletedCache Rid) (now : Int) :
    ∃ kept : CompletedCache Rid,
      (∀ rounds, cache.entries.length ≤ rounds →
        cleanupCompleted rounds now cache.entries = some (.ok kept.entries)) ∧
      (∀ entry ∈ kept.entries, now - entry.2.timestamp ≤ completedFrameTtl) ∧
      kept.entries.length ≤ completedFrameLimit ∧
      completedBounds.sizeOf kept.entries ≤ completedFrameBytesLimit ∧
      kept.entries.Sublist cache.entries ∧
      ∀ removed ∈ cache.entries, removed ∉ kept.entries →
        now - removed.2.timestamp ≤ completedFrameTtl →
        (∀ entry ∈ kept.entries, removed.2.timestamp ≤ entry.2.timestamp) ∧
        (completedFrameLimit < (recentSince now removed.2.timestamp cache.entries).length ∨
          completedFrameBytesLimit <
            completedBounds.sizeOf
              (recentSince now removed.2.timestamp cache.entries)) := by
  rcases cache.evict_recent now with ⟨kept, final, -, leaves, ends⟩
  have within := leaves.within
  rw [Bounds.Broken, not_or, Nat.not_lt, Nat.not_lt] at within
  refine ⟨kept, fun rounds enough => (ends rounds enough).2, ?_, within.1, within.2,
    leaves.sublist.trans List.filter_sublist, ?_⟩
  · intro entry isKept
    have recent := (List.mem_filter.mp (leaves.sublist.mem isKept)).2
    simpa [not_expired] using recent
  · intro removed member gone live
    have recent : removed ∈ cache.entries.filter (!expired now ·) :=
      List.mem_filter.mpr ⟨member, by simpa [not_expired] using live⟩
    have needed := leaves.needed removed recent gone
    rw [CompletedCache.recent, List.filter_filter] at needed
    have same : (cache.entries.filter fun entry =>
        decide (completedBounds.time removed.2 ≤ completedBounds.time entry.2) &&
          !expired now entry) = recentSince now removed.2.timestamp cache.entries := by
      rw [recentSince]
      apply List.filter_congr
      intro entry _
      rw [not_expired, Bool.decide_and, Bool.and_comm]
      rfl
    rw [same] at needed
    exact ⟨leaves.newer removed recent gone, needed⟩

/-! ## Callbacks -/

theorem doneCallback_within (cache : CompletedCache Rid)
    (within : ¬completedBounds.Broken cache.entries) (call : DoneCall Rid) :
    ∃ kept : CompletedCache Rid, ¬completedBounds.Broken kept.entries ∧
      ∀ rounds, cache.entries.length < rounds →
        doneCallback rounds call cache.entries = some (.ok kept.entries) := by
  simp only [doneCallback]
  cases call.result with
  | none => exact ⟨cache, within, fun rounds _ => rfl⟩
  | some frame =>
      let larger : CompletedCache Rid :=
        ⟨_, cache.distinct.store call.rid ⟨frame, call.stored⟩⟩
      rcases larger.evict_recent call.now with ⟨kept, final, -, leaves, ends⟩
      refine ⟨kept, leaves.within, fun rounds enough => (ends rounds ?_).2⟩
      exact Nat.le_trans (Association.length_store_le call.rid _ cache.entries) enough

theorem doneCallbacks_within (calls : List (DoneCall Rid)) (cache : CompletedCache Rid)
    (within : ¬completedBounds.Broken cache.entries) :
    ∃ kept : CompletedCache Rid, ¬completedBounds.Broken kept.entries ∧
      ∀ rounds, completedFrameLimit < rounds →
        doneCallbacks rounds calls cache.entries = some (.ok kept.entries) := by
  induction calls generalizing cache with
  | nil => exact ⟨cache, within, fun rounds _ => rfl⟩
  | cons call calls induction =>
      rcases doneCallback_within cache within call with ⟨next, nextWithin, called⟩
      rcases induction next nextWithin with ⟨kept, keptWithin, ends⟩
      refine ⟨kept, keptWithin, fun rounds enough => ?_⟩
      have short : cache.entries.length ≤ completedFrameLimit :=
        Nat.not_lt.mp fun long => within (.inl long)
      rw [doneCallbacks, called rounds (Nat.lt_of_le_of_lt short enough)]
      exact ends rounds enough

/-! ## The cache of the session -/

def ResponseFrame.cached : ResponseFrame Text → CachedFrame
  | frame@(httpResp _ _ _ _) => .httpResp frame.cachedFrameBytes
  | error _ message => .error (String.ofList message)

def CompletedFrame.cached (completed : CompletedFrame Text) : Cached :=
  ⟨completed.frame.cached, completed.timestamp⟩

def sessionEntry (entry : Text × CompletedFrame Text) : Text × Cached :=
  (entry.1, entry.2.cached)

theorem bytes_cached (frame : ResponseFrame Text) :
    frame.cached.bytes = frame.cachedFrameBytes := by
  cases frame <;> rfl

theorem bytes_map_sessionEntry (entries : List (Text × CompletedFrame Text)) :
    Completed.bytes (entries.map sessionEntry) = completedBounds.sizeOf entries := by
  rw [Completed.bytes, List.map_map, Bounds.sizeOf]
  apply congrArg List.sum
  exact List.map_congr_left fun entry _ => bytes_cached entry.2.frame

theorem fits_map_sessionEntry (entries : List (Text × CompletedFrame Text)) :
    Completed.fits (entries.map sessionEntry) = true ↔
      ¬completedBounds.Broken entries := by
  rw [Completed.fits, bytes_map_sessionEntry, List.length_map, Bool.and_eq_true,
    decide_eq_true_eq, decide_eq_true_eq, Bounds.Broken, not_or, Nat.not_lt, Nat.not_lt]
  rfl

theorem oldest_map_sessionEntry (entries : List (Text × CompletedFrame Text)) :
    Association.oldest (fun entry => entry.2.timestamp) (entries.map sessionEntry) =
      (entries.argmin fun entry => completedBounds.time entry.2).map sessionEntry := by
  induction entries with
  | nil => rfl
  | cons entry entries induction =>
      rw [List.map_cons, Association.oldest, induction, Association.argmin_cons]
      cases entries.argmin fun entry => completedBounds.time entry.2 with
      | none => rfl
      | some other =>
          by_cases first : completedBounds.time entry.2 ≤ completedBounds.time other.2
          · simp only [if_pos first]
            exact if_pos first
          · simp only [if_neg first]
            exact if_neg first

theorem evict_map_sessionEntry {rounds : Nat}
    {state final : State Text (CompletedFrame Text)} (distinct : Distinct state.entries)
    (exact_ : completedBounds.Exact state)
    (ends : completedBounds.evict rounds state = some (.ok final)) :
    Completed.evict rounds (state.entries.map sessionEntry) =
      final.entries.map sessionEntry := by
  induction rounds generalizing state with
  | zero =>
      rw [Bounds.evict] at ends
      split at ends
      · cases ends
      · cases ends
        rfl
  | succ rounds induction =>
      by_cases broken : completedBounds.Broken state.entries
      · rcases completedBounds.exists_oldest broken with ⟨oldest, isOldest⟩
        rcases completedBounds.round_eq_ok distinct exact_ isOldest with
          ⟨before, after, next, split, erased, made, rest, exactNext⟩
        have fewer : (before ++ after).Sublist state.entries := by
          rw [split]
          exact without_sublist before oldest after
        rw [Bounds.evict, if_pos ((completedBounds.exceeded_iff exact_).mpr broken), made]
          at ends
        have unfit : ¬Completed.fits (state.entries.map sessionEntry) = true := by
          rw [fits_map_sessionEntry, not_not]
          exact broken
        have shown := induction (rest ▸ distinct.sublist fewer) exactNext ends
        rw [rest, ← erased] at shown
        have mapped : Association.pop (sessionEntry oldest).1
            (state.entries.map sessionEntry) =
            (Association.pop oldest.1 state.entries).map sessionEntry :=
          List.eraseP_map
        rw [Completed.evict, if_neg unfit, oldest_map_sessionEntry, isOldest, ← shown,
          ← mapped]
        rfl
      · rw [completedBounds.evict_of_not_broken exact_ broken] at ends
        have fits := (fits_map_sessionEntry state.entries).mpr broken
        cases ends
        rw [Completed.evict, if_pos fits]

theorem expire_map_sessionEntry (cache : CompletedCache Text) (now : Int) :
    Completed.expire now (cache.entries.map sessionEntry) =
      (cache.recent now).entries.map sessionEntry := by
  rw [Completed.expire, List.filter_map, CompletedCache.recent]
  apply congrArg (List.map sessionEntry)
  exact List.filter_congr fun entry _ => (not_expired now entry).symm

theorem cleanup_map_sessionEntry (cache : CompletedCache Text) (now : Int) :
    ∃ kept : CompletedCache Text,
      cleanupCompleted cache.entries.length now cache.entries = some (.ok kept.entries) ∧
      Completed.cleanup now (cache.entries.map sessionEntry) =
        kept.entries.map sessionEntry := by
  rcases cache.evict_recent now with ⟨kept, final, same, -, ends⟩
  rcases ends cache.entries.length (Nat.le_refl _) with ⟨evicted, cleaned⟩
  refine ⟨kept, cleaned, ?_⟩
  rw [Completed.cleanup, expire_map_sessionEntry, List.length_map,
    evict_map_sessionEntry (cache.distinct_recent now) rfl evicted, same]

end YrSandbox.Tunnel
