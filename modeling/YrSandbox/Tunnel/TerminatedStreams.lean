import Mathlib.Data.Finset.Card
import YrSandbox.Foundation.Eviction
import YrSandbox.Tunnel.LateFrames

/-! # How long an id is known as terminated

`terminated_streams` after any calls of `remember_terminated` and `is_terminated`. An id
that is remembered can be crowded out, but only by ids that were remembered no earlier. -/

namespace YrSandbox.Tunnel

open Python Eviction

/-- A call of `remember_terminated` or of `is_terminated`, with the clock in it. -/
structure TerminatedCall where
  now : Int
  rid : Text
  remembers : Bool
deriving DecidableEq, Repr

namespace TerminatedCall

def apply (terminated : Terminated Text) (call : TerminatedCall) : Terminated Text :=
  if call.remembers then terminated.remember call.rid call.now
  else (terminated.isTerminated call.rid call.now).2

/-- `terminated_streams` after these calls. -/
def terminatedStreams (calls : List TerminatedCall) : Terminated Text :=
  calls.foldl apply []

def lastRemembered (rid : Text) (calls : List TerminatedCall) : Option Int :=
  calls.foldl
    (fun last call => if call.remembers ∧ call.rid = rid then some call.now else last) none

/-- The other ids that were remembered at `since` or later. -/
def rivals (rid : Text) (since : Int) (calls : List TerminatedCall) : Finset Text :=
  ((calls.filter fun call => call.remembers ∧ since ≤ call.now ∧ call.rid ≠ rid).map
    TerminatedCall.rid).toFinset

def InOrder (calls : List TerminatedCall) (now : Int) : Prop :=
  (calls.map TerminatedCall.now).Pairwise (· ≤ ·) ∧ ∀ call ∈ calls, call.now ≤ now

/-! ## One call more -/

variable {calls : List TerminatedCall} {call : TerminatedCall} {rid : Text} {since : Int}

theorem terminatedStreams_concat (calls : List TerminatedCall) (call : TerminatedCall) :
    terminatedStreams (calls ++ [call]) = apply (terminatedStreams calls) call := by
  rw [terminatedStreams, List.foldl_append]
  rfl

theorem lastRemembered_concat (rid : Text) (calls : List TerminatedCall)
    (call : TerminatedCall) :
    lastRemembered rid (calls ++ [call]) =
      if call.remembers ∧ call.rid = rid then some call.now
      else lastRemembered rid calls := by
  rw [lastRemembered, List.foldl_append]
  rfl

theorem rivals_concat_le :
    (rivals rid since calls).card ≤ (rivals rid since (calls ++ [call])).card := by
  apply Finset.card_le_card
  rw [rivals, rivals, List.filter_append, List.map_append, List.toFinset_append]
  exact Finset.subset_union_left

theorem InOrder.init {now : Int} (ordered : InOrder (calls ++ [call]) now) :
    InOrder calls call.now ∧ call.now ≤ now := by
  rcases ordered with ⟨pairwise, latest⟩
  rw [List.map_append, List.pairwise_append] at pairwise
  refine ⟨⟨pairwise.1, fun earlier member => ?_⟩, latest call (by simp)⟩
  exact pairwise.2.2 earlier.now (List.mem_map_of_mem member) call.now (by simp)

theorem exists_call_of_lastRemembered (last : lastRemembered rid calls = some since) :
    ∃ call ∈ calls, call.remembers = true ∧ call.rid = rid ∧ call.now = since := by
  induction calls using List.reverseRecOn with
  | nil => cases last
  | append_singleton calls call induction =>
      rw [lastRemembered_concat] at last
      split at last
      · rename_i remembers
        exact ⟨call, by simp, remembers.1, remembers.2, Option.some.inj last⟩
      · rcases induction last with ⟨earlier, member, rest⟩
        exact ⟨earlier, List.mem_append_left _ member, rest⟩

/-! ## What is known -/

/-- An id that was remembered within the time to live is known since then, or it was crowded
out. -/
structure Memory (calls : List TerminatedCall) (now : Int) (terminated : Terminated Text) :
    Prop where
  within : terminated.length ≤ completedFrameLimit
  distinct : Distinct terminated
  last : ∀ entry ∈ terminated, lastRemembered entry.1 calls = some entry.2
  known : ∀ rid since, lastRemembered rid calls = some since →
    now - since ≤ completedFrameTtl →
      terminated.lookup rid = some since ∨
        completedFrameLimit ≤ (rivals rid since calls).card + 1

theorem makeRoom_sublist (rounds : Nat) (terminated : Terminated Text) :
    (Terminated.makeRoom rounds terminated).Sublist terminated := by
  induction rounds generalizing terminated with
  | zero => exact List.Sublist.refl _
  | succ rounds induction =>
      rw [Terminated.makeRoom]
      split
      · exact List.Sublist.refl _
      · split
        · exact List.Sublist.refl _
        · exact (induction _).trans Association.pop_sublist

namespace Memory

variable {now : Int} {terminated : Terminated Text}

theorem nil (now : Int) : Memory [] now [] where
  within := Nat.zero_le _
  distinct := List.nodup_nil
  last := nofun
  known _ _ last := nomatch last

theorem later (memory : Memory calls now terminated) {later : Int} (passes : now ≤ later) :
    Memory calls later terminated where
  within := memory.within
  distinct := memory.distinct
  last := memory.last
  known rid since last recent := memory.known rid since last (by omega)

theorem crowded (memory : Memory calls now terminated)
    (found : terminated.lookup rid = some since)
    (evicts : Terminated.Evicts rid now terminated) :
    completedFrameLimit ≤ (rivals rid since calls).card + 1 := by
  rcases evicts with ⟨full, isOldest⟩
  have sublist : (terminated.expire now).Sublist terminated := List.filter_sublist
  have distinct := memory.distinct.sublist sublist
  rcases Option.map_eq_some_iff.mp isOldest with ⟨oldest, least, rfl⟩
  rw [Terminated.oldest, Association.oldest_eq_argmin] at least
  have member := List.argmin_mem least
  have same : oldest.2 = since := by
    have looked := memory.distinct.lookup_eq_some_iff.mpr (sublist.mem member)
    exact Option.some.inj (looked.symm.trans found)
  have others : ((terminated.expire now).map Prod.fst).toFinset ⊆
      insert oldest.1 (rivals oldest.1 since calls) := by
    intro other isKnown
    rcases List.mem_map.mp (List.mem_toFinset.mp isKnown) with ⟨entry, isEntry, rfl⟩
    by_cases different : entry.1 = oldest.1
    · exact Finset.mem_insert.mpr (.inl different)
    · apply Finset.mem_insert_of_mem
      rcases exists_call_of_lastRemembered (memory.last entry (sublist.mem isEntry)) with
        ⟨call, isCall, remembers, rid, time⟩
      have noEarlier : since ≤ entry.2 := same ▸ List.le_of_mem_argmin isEntry least
      rw [rivals, List.mem_toFinset, List.mem_map]
      refine ⟨call, List.mem_filter.mpr ⟨isCall, ?_⟩, rid⟩
      simp [remembers, rid, time, noEarlier, different]
  calc completedFrameLimit ≤ (terminated.expire now).length := full
    _ = ((terminated.expire now).map Prod.fst).toFinset.card := by
      rw [List.toFinset_card_of_nodup distinct, List.length_map]
    _ ≤ (insert oldest.1 (rivals oldest.1 since calls)).card := Finset.card_le_card others
    _ ≤ (rivals oldest.1 since calls).card + 1 := Finset.card_insert_le _ _

theorem remembers (memory : Memory calls call.now terminated)
    (remembers : call.remembers = true) :
    Memory (calls ++ [call]) call.now (terminated.remember call.rid call.now) := by
  have roomLess := (makeRoom_sublist (terminated.expire call.now).length
    (terminated.expire call.now)).trans (List.filter_sublist (l := terminated))
  have roomDistinct := memory.distinct.sublist roomLess
  have distinct : Distinct (terminated.remember call.rid call.now) :=
    roomDistinct.store call.rid call.now
  constructor
  · exact Terminated.remember_length _ _ _
  · exact distinct
  · intro entry member
    rw [lastRemembered_concat]
    have looked := distinct.lookup_eq_some_iff.mpr member
    rw [Terminated.remember] at looked
    by_cases same : entry.1 = call.rid
    · rw [same, Association.lookup_store_self] at looked
      rw [if_pos ⟨remembers, same.symm⟩, looked]
    · rw [Association.lookup_store_other same] at looked
      rw [if_neg fun both => same both.2.symm]
      exact memory.last entry (roomLess.mem (roomDistinct.lookup_eq_some_iff.mp looked))
  · intro rid since last recent
    rw [lastRemembered_concat] at last
    split at last
    · rename_i both
      cases last
      rw [← both.2]
      exact .inl (Association.lookup_store_self _ _ _)
    · rename_i other
      have different : rid ≠ call.rid := fun same => other ⟨remembers, same.symm⟩
      rcases memory.known rid since last recent with found | crowd
      · by_cases evicts : Terminated.Evicts rid call.now terminated
        · exact .inr (Nat.le_trans (memory.crowded found evicts)
            (Nat.add_le_add_right rivals_concat_le 1))
        · exact .inl
            (Terminated.lookup_remember different memory.within evicts found recent)
      · exact .inr (Nat.le_trans crowd (Nat.add_le_add_right rivals_concat_le 1))

theorem checks (memory : Memory calls call.now terminated)
    (checks : call.remembers = false) :
    Memory (calls ++ [call]) call.now
      (terminated.isTerminated call.rid call.now).2 := by
  have less := Terminated.isTerminated_sublist call.rid call.now terminated
  have sameLast (rid : Text) :
      lastRemembered rid (calls ++ [call]) = lastRemembered rid calls := by
    rw [lastRemembered_concat, if_neg fun both => nomatch checks ▸ both.1]
  constructor
  · exact Nat.le_trans less.length_le memory.within
  · exact memory.distinct.sublist less
  · intro entry member
    rw [sameLast]
    exact memory.last entry (less.mem member)
  · intro rid since last recent
    rw [sameLast] at last
    rcases memory.known rid since last recent with found | crowd
    · exact .inl (Terminated.lookup_isTerminated found recent call.rid)
    · exact .inr (Nat.le_trans crowd (Nat.add_le_add_right rivals_concat_le 1))

end Memory

theorem memory_of_calls {calls : List TerminatedCall} {now : Int}
    (ordered : InOrder calls now) : Memory calls now (terminatedStreams calls) := by
  induction calls using List.reverseRecOn generalizing now with
  | nil => exact .nil now
  | append_singleton calls call induction =>
      rcases ordered.init with ⟨before, passes⟩
      have memory := induction before
      rw [terminatedStreams_concat, apply]
      cases kind : call.remembers with
      | true => exact (memory.remembers kind).later passes
      | false => exact (memory.checks kind).later passes

/-- After any calls, `is_terminated` says no more than that an id was remembered within the
time to live, and it does say so unless the table was filled by ids that were remembered no
earlier. -/
theorem isTerminated_of_calls {calls : List TerminatedCall} {now : Int}
    (ordered : InOrder calls now) (rid : Text) :
    (terminatedStreams calls).length ≤ completedFrameLimit ∧
      (((terminatedStreams calls).isTerminated rid now).1 = true →
        ∃ since, lastRemembered rid calls = some since ∧
          now - since ≤ completedFrameTtl) ∧
      ∀ since, lastRemembered rid calls = some since → now - since ≤ completedFrameTtl →
        (rivals rid since calls).card + 1 < completedFrameLimit →
          ((terminatedStreams calls).isTerminated rid now).1 = true := by
  have memory := memory_of_calls ordered
  refine ⟨memory.within, ?_, ?_⟩
  · intro known
    rw [Terminated.isTerminated] at known
    split at known
    · cases known
    · rename_i since found
      split at known
      · cases known
      · rename_i recent
        have isEntry := memory.distinct.lookup_eq_some_iff.mp found
        exact ⟨since, memory.last _ isEntry, Int.not_lt.mp recent⟩
  · intro since last recent uncrowded
    rcases memory.known rid since last recent with found | crowd
    · rw [Terminated.isTerminated_eq found recent]
    · omega

theorem isTerminated_of_calls_refused :
    ((terminatedStreams [⟨5, ['a'], true⟩, ⟨7, ['b'], true⟩]).isTerminated ['a'] 9).1 =
      true :=
  (isTerminated_of_calls ⟨by decide, by decide⟩ ['a']).2.2 5 (by decide) (by decide)
    (by decide)

end TerminatedCall

end YrSandbox.Tunnel
