import YrSandbox.Foundation.Chunk
import YrSandbox.Foundation.Transition

/-! # Resumable upload

`SandboxClient._upload_file_resumable` as a process that alternates between one
request and its reply, and the server it talks to: one append-only buffer for
the call's fresh `uploadId`. -/

namespace YrSandbox.Transport

/-- What one call reads besides the replies: the local file, which does not
change during the call, `_resume_chunk_size` and `_resume_max_retries`. -/
structure UploadCall where
  file : Bytes
  resumeChunkSize : Nat
  resumeMaxRetries : Int

def UploadCall.total (call : UploadCall) : Nat := call.file.length

/-! The requests of `_upload_status`, `_upload_direct` and `_upload_commit`; all
of them carry the path and the `uploadId` of the call. A helper returns the
parsed reply, which may hold an `offset`, or raises `SandboxError`. -/

inductive UploadRequest
  | status
  | chunk (offset : Int) (content : Bytes) (totalSize : Nat)
  | commit (totalSize : Nat)
deriving DecidableEq, Repr

inductive UploadReply
  | parsed (offset : Option Int)
  | sandboxError
deriving DecidableEq, Repr

inductive UploadPhase
  | starting
  | posting (offset : Int) (chunk : Bytes) (attempts : Nat)
  | refreshing (chunk : Bytes) (attempts : Nat)
  | committing
  | returned
  | raised
deriving DecidableEq, Repr

namespace UploadPhase

def request (call : UploadCall) : UploadPhase → Option UploadRequest
  | .starting => some .status
  | .posting offset chunk _ => some (.chunk offset chunk call.total)
  | .refreshing _ _ => some .status
  | .committing => some (.commit call.total)
  | .returned => none
  | .raised => none

/-- The head of `while offset < total`: read the next chunk and post it, or
leave the loop and commit. -/
def nextChunk (call : UploadCall) (offset : Int) : UploadPhase :=
  if offset < call.total then
    if offset < 0 then .raised -- `f.seek` refuses a negative position
    else
      let chunk := slice call.file offset.toNat
        (min call.resumeChunkSize (call.total - offset.toNat))
      if chunk = [] then .committing else .posting offset chunk 0
  else .committing

/-- Continue `_upload_file_resumable` with the reply to its request. -/
def resume (call : UploadCall) : UploadPhase → UploadReply → UploadPhase
  | .starting, .parsed offset => nextChunk call (offset.getD 0)
  | .starting, .sandboxError => .raised
  | .posting offset chunk _, .parsed reported =>
      nextChunk call (reported.getD (offset + chunk.length))
  | .posting _ chunk attempts, .sandboxError =>
      if (attempts + 1 : Int) > call.resumeMaxRetries then .raised
      else .refreshing chunk (attempts + 1)
  -- The new offset is the server's, the chunk is still the one read before.
  | .refreshing chunk attempts, .parsed offset => .posting (offset.getD 0) chunk attempts
  | .refreshing _ _, .sandboxError => .raised
  | .committing, .parsed _ => .returned
  | .committing, .sandboxError => .raised
  | .returned, _ => .returned
  | .raised, _ => .raised

end UploadPhase

/-! ## The server -/

structure UploadServer where
  buffer : Bytes
  published : Option Bytes
deriving DecidableEq, Repr

/-- What becomes of one request: it succeeds, or it fails after the server has
stored the first `stored` bytes of its chunk. -/
inductive UploadFate
  | succeeds
  | fails (stored : Nat)
deriving DecidableEq, Repr

namespace UploadServer

def answer (server : UploadServer) : UploadRequest → UploadFate →
    UploadServer × UploadReply
  | .status, .succeeds => (server, .parsed (some server.buffer.length))
  | .status, .fails _ => (server, .sandboxError)
  | .chunk offset content _, .succeeds =>
      if offset = server.buffer.length then
        ({ server with buffer := server.buffer ++ content },
          .parsed (some ((server.buffer ++ content).length : Nat)))
      else (server, .sandboxError)
  | .chunk offset content _, .fails stored =>
      if offset = server.buffer.length then
        ({ server with buffer := server.buffer ++ content.take stored }, .sandboxError)
      else (server, .sandboxError)
  | .commit _, .succeeds =>
      ({ server with published := some server.buffer }, .parsed none)
  | .commit _, .fails _ => (server, .sandboxError)

end UploadServer

/-! ## One call against its server -/

structure PostedChunk where
  offset : Int
  content : Bytes
deriving DecidableEq, Repr

def PostedChunk.AgreesWith (file : Bytes) (posted : PostedChunk) : Prop :=
  0 ≤ posted.offset ∧
    posted.content = slice file posted.offset.toNat posted.content.length

instance (file : Bytes) (posted : PostedChunk) : Decidable (posted.AgreesWith file) :=
  inferInstanceAs (Decidable (_ ∧ _))

structure UploadSession where
  phase : UploadPhase
  server : UploadServer
  posted : List PostedChunk
deriving DecidableEq, Repr

namespace UploadSession

/-- The call has drawn a fresh `uploadId`, so its buffer is empty. -/
def initial : UploadSession where
  phase := .starting
  server := ⟨[], none⟩
  posted := []

def sends : UploadPhase → List PostedChunk
  | .posting offset chunk _ => [⟨offset, chunk⟩]
  | _ => []

def step (call : UploadCall) (session : UploadSession) (fate : UploadFate) :
    Option UploadSession :=
  (session.phase.request call).map fun request =>
    let answered := session.server.answer request fate
    let phase := session.phase.resume call answered.2
    { phase, server := answered.1, posted := session.posted ++ sends phase }

/-- What the call promises: a normal return has published the local file, and
every chunk request carries the file's bytes at its offset. -/
def Correct (call : UploadCall) (session : UploadSession) : Prop :=
  (session.phase = .returned → session.server.published = some call.file) ∧
    ∀ posted ∈ session.posted, posted.AgreesWith call.file

/-- A refreshed offset leaves the chunk in memory the right one: the file goes
on from the end of the server's buffer with the very bytes of that chunk. It
does so when the failed request has stored nothing. -/
def RetryAgrees (call : UploadCall) (session : UploadSession) (fate : UploadFate) :
    Prop :=
  match session.phase, fate with
  | .refreshing chunk _, .succeeds =>
      chunk = slice call.file session.server.buffer.length chunk.length
  | _, _ => True

instance (call : UploadCall) (session : UploadSession) (fate : UploadFate) :
    Decidable (session.RetryAgrees call fate) := by
  unfold RetryAgrees
  split <;> infer_instance

/-! ## The buffer is a prefix of the file

Offset, chunk in memory and buffer stay in step as long as no retry posts a
chunk at an offset it was not read from. -/

def InStep (call : UploadCall) (server : UploadServer) : UploadPhase → Prop
  | .starting => True
  | .posting offset chunk _ =>
      offset = server.buffer.length ∧
        chunk = slice call.file server.buffer.length chunk.length
  | .refreshing _ _ => True
  | .committing => server.buffer = call.file
  | .returned => server.published = some call.file
  | .raised => True

structure Consistent (call : UploadCall) (session : UploadSession) : Prop where
  buffered : session.server.buffer = call.file.take session.server.buffer.length
  inStep : InStep call session.server session.phase
  posted : ∀ posted ∈ session.posted, posted.AgreesWith call.file

variable {call : UploadCall} {session next final : UploadSession} {fate : UploadFate}

theorem initial_consistent (call : UploadCall) : initial.Consistent call where
  buffered := by simp [initial]
  inStep := trivial
  posted := by simp [initial]

theorem Consistent.correct (consistent : session.Consistent call) :
    session.Correct call := by
  refine ⟨fun returned => ?_, consistent.posted⟩
  have known := consistent.inStep
  rw [returned] at known
  exact known

theorem buffered_length_le {server : UploadServer}
    (buffered : server.buffer = call.file.take server.buffer.length) :
    server.buffer.length ≤ call.total := by
  have lengths := congrArg List.length buffered
  simp only [List.length_take] at lengths
  simp only [UploadCall.total]
  omega

theorem nextChunk_inStep (positive : 0 < call.resumeChunkSize) {server : UploadServer}
    (buffered : server.buffer = call.file.take server.buffer.length) :
    InStep call server (UploadPhase.nextChunk call server.buffer.length) := by
  have bounded := buffered_length_le buffered
  unfold UploadPhase.nextChunk
  by_cases unfinished : (server.buffer.length : Int) < call.total
  · have notNegative : ¬(server.buffer.length : Int) < 0 := by omega
    have inside : server.buffer.length < call.file.length := by
      simp only [UploadCall.total] at unfinished
      omega
    have nonempty : slice call.file server.buffer.length
        (min call.resumeChunkSize (call.total - server.buffer.length)) ≠ [] := by
      apply slice_ne_nil _ inside
      simp only [UploadCall.total]
      omega
    simp only [if_pos unfinished, if_neg notNegative, Int.toNat_natCast, if_neg nonempty]
    exact ⟨rfl, Chunk.cutFrom_slice call.file server.buffer.length _⟩
  · rw [if_neg unfinished]
    have whole : call.file.length ≤ server.buffer.length := by
      simp only [UploadCall.total] at unfinished
      omega
    change server.buffer = call.file
    rw [buffered, List.take_of_length_le whole]

theorem sends_agree {server : UploadServer} {phase : UploadPhase}
    (known : InStep call server phase) :
    ∀ posted ∈ sends phase, posted.AgreesWith call.file := by
  intro posted member
  cases phase with
  | posting offset chunk attempts =>
      rcases known with ⟨rfl, chunkCut⟩
      rcases List.mem_singleton.mp member with rfl
      exact ⟨Int.natCast_nonneg _, by simpa using chunkCut⟩
  | starting => cases member
  | refreshing => cases member
  | committing => cases member
  | returned => cases member
  | raised => cases member

theorem stored_buffered {server : UploadServer} {chunk : Bytes}
    (buffered : server.buffer = call.file.take server.buffer.length)
    (chunkCut : chunk = slice call.file server.buffer.length chunk.length)
    (stored : Nat) :
    server.buffer ++ chunk.take stored =
      call.file.take (server.buffer ++ chunk.take stored).length := by
  have taken : chunk.take stored =
      slice call.file server.buffer.length (min stored chunk.length) := by
    rw [← take_slice, ← chunkCut]
  have lengths : (chunk.take stored).length = min stored chunk.length := by simp
  rw [List.length_append, lengths, ← take_append_slice, ← buffered, taken]

theorem Consistent.advance {server : UploadServer} {phase : UploadPhase}
    (consistent : session.Consistent call)
    (buffered : server.buffer = call.file.take server.buffer.length)
    (known : InStep call server phase) :
    Consistent call ⟨phase, server, session.posted ++ sends phase⟩ where
  buffered := buffered
  inStep := known
  posted := by
    intro posted member
    rcases List.mem_append.mp member with before | now
    · exact consistent.posted posted before
    · exact sends_agree known posted now

theorem step_consistent (positive : 0 < call.resumeChunkSize)
    (consistent : session.Consistent call) (agrees : session.RetryAgrees call fate)
    (stepped : session.step call fate = some next) : next.Consistent call := by
  have buffered := consistent.buffered
  have known := consistent.inStep
  rcases session with ⟨phase, server, posted⟩
  cases phase with
  | starting =>
      cases fate with
      | succeeds =>
          cases stepped
          exact consistent.advance buffered (nextChunk_inStep positive buffered)
      | fails stored =>
          cases stepped
          exact consistent.advance buffered trivial
  | posting offset chunk attempts =>
      rcases known with ⟨atEnd, chunkCut⟩
      dsimp only at atEnd chunkCut buffered
      cases fate with
      | succeeds =>
          have grown := stored_buffered buffered chunkCut chunk.length
          rw [List.take_length] at grown
          have grownServer : InStep call { server with buffer := server.buffer ++ chunk }
              (UploadPhase.nextChunk call (server.buffer ++ chunk).length) :=
            nextChunk_inStep positive grown
          simp only [step, UploadPhase.request, UploadServer.answer, if_pos atEnd,
            UploadPhase.resume, Option.getD_some, Option.map_some] at stepped
          cases stepped
          exact consistent.advance grown grownServer
      | fails stored =>
          have grown := stored_buffered buffered chunkCut stored
          simp only [step, UploadPhase.request, UploadServer.answer, if_pos atEnd,
            UploadPhase.resume, Option.map_some] at stepped
          cases stepped
          apply consistent.advance grown
          split <;> trivial
  | refreshing chunk attempts =>
      cases fate with
      | succeeds =>
          cases stepped
          exact consistent.advance buffered ⟨rfl, agrees⟩
      | fails stored =>
          cases stepped
          exact consistent.advance buffered trivial
  | committing =>
      cases fate with
      | succeeds =>
          cases stepped
          have whole : server.buffer = call.file := known
          exact consistent.advance buffered (congrArg some whole)
      | fails stored =>
          cases stepped
          exact consistent.advance buffered trivial
  | returned => cases stepped
  | raised => cases stepped

/-! ## A retry that disagrees is seen in what was posted -/

theorem posted_of_step (stepped : session.step call fate = some next) :
    ∀ posted ∈ session.posted, posted ∈ next.posted := by
  intro posted member
  rcases Option.map_eq_some_iff.mp stepped with ⟨request, _, rfl⟩
  exact List.mem_append_left _ member

theorem posted_of_run {fates : List UploadFate}
    (ran : Transition.run (step call) session fates = some final) :
    ∀ posted ∈ session.posted, posted ∈ final.posted := by
  induction fates generalizing session with
  | nil =>
      cases ran
      exact fun posted member => member
  | cons fate fates induction =>
      rcases Transition.run_cons ran with ⟨next, stepped, rest⟩
      exact fun posted member =>
        induction rest posted (posted_of_step stepped posted member)

theorem retryAgrees_of_posted (stepped : session.step call fate = some next)
    (agree : ∀ posted ∈ next.posted, posted.AgreesWith call.file) :
    session.RetryAgrees call fate := by
  rcases session with ⟨phase, server, posted⟩
  cases phase with
  | refreshing chunk attempts =>
      cases fate with
      | succeeds =>
          cases stepped
          have retried := agree ⟨server.buffer.length, chunk⟩
            (List.mem_append_right _ (by
              simp [UploadPhase.resume, UploadServer.answer, sends]))
          simpa [PostedChunk.AgreesWith, RetryAgrees] using retried.2
      | fails stored => trivial
  | starting => trivial
  | posting => trivial
  | committing => trivial
  | returned => trivial
  | raised => trivial

theorem meets_retryAgrees_of_posted {fates : List UploadFate}
    (ran : Transition.run (step call) session fates = some final)
    (agree : ∀ posted ∈ final.posted, posted.AgreesWith call.file) :
    Transition.Meets (step call) (RetryAgrees call) session fates := by
  induction fates generalizing session with
  | nil => trivial
  | cons fate fates induction =>
      rcases Transition.run_cons ran with ⟨next, stepped, rest⟩
      refine ⟨retryAgrees_of_posted stepped fun posted member =>
        agree posted (posted_of_run rest posted member), ?_⟩
      rw [stepped]
      exact induction rest

/-- A normal return has published the local file and every chunk request
carried the file's bytes at its offset exactly when each retry after a refreshed
offset posted a chunk that belongs there. -/
theorem uploadFileResumable_correct_iff (call : UploadCall)
    (positive : 1 ≤ call.resumeChunkSize) (fates : List UploadFate)
    (final : UploadSession)
    (ran : Transition.run (step call) initial fates = some final) :
    final.Correct call ↔
      Transition.Meets (step call) (RetryAgrees call) initial fates := by
  constructor
  · intro correct
    exact meets_retryAgrees_of_posted ran correct.2
  · intro meets
    have consistent := Transition.invariant_under (Consistent call)
      (fun _ _ _ consistent agrees stepped =>
        step_consistent positive consistent agrees stepped)
      (initial_consistent call) meets ran
    exact consistent.correct

/-- A lost reply for a chunk that was not stored at all is retried correctly. -/
theorem uploadFileResumable_correct_iff_lost_request :
    (⟨.returned, ⟨[1, 2, 3], some [1, 2, 3]⟩, [⟨0, [1, 2]⟩, ⟨0, [1, 2]⟩, ⟨2, [3]⟩]⟩ :
      UploadSession).Correct ⟨[1, 2, 3], 2, 3⟩ ↔
    Transition.Meets (step ⟨[1, 2, 3], 2, 3⟩) (RetryAgrees ⟨[1, 2, 3], 2, 3⟩) initial
      [.succeeds, .fails 0, .succeeds, .succeeds, .succeeds, .succeeds] :=
  uploadFileResumable_correct_iff ⟨[1, 2, 3], 2, 3⟩ (by decide) _ _ (by decide)

/-- The server stores one byte of the first chunk and the reply is lost. The
offset moves to 1, the chunk read at 0 is posted there, and the commit publishes
a file of the right length with the wrong bytes. -/
theorem partial_write_corrupts_upload :
    ¬∀ (call : UploadCall) (fates : List UploadFate) (final : UploadSession),
      1 ≤ call.resumeChunkSize →
      Transition.run (step call) initial fates = some final →
      final.Correct call := by
  intro claim
  have correct := claim ⟨[1, 2, 3, 4], 2, 3⟩
    [.succeeds, .fails 1, .succeeds, .succeeds, .succeeds, .succeeds]
    ⟨.returned, ⟨[1, 1, 2, 4], some [1, 1, 2, 4]⟩,
      [⟨0, [1, 2]⟩, ⟨1, [1, 2]⟩, ⟨3, [4]⟩]⟩
    (by decide) (by decide)
  exact absurd (correct.1 rfl) (by decide)

/-! ## Failures that store nothing are harmless -/

def Harmless (fate : UploadFate) : Prop := fate = .succeeds ∨ fate = .fails 0

def HeldContinues (call : UploadCall) (session : UploadSession) : Prop :=
  match session.phase with
  | .refreshing chunk _ =>
      chunk = slice call.file session.server.buffer.length chunk.length
  | _ => True

theorem HeldContinues.retryAgrees (held : session.HeldContinues call) :
    session.RetryAgrees call fate := by
  rcases session with ⟨phase, server, posted⟩
  cases phase with
  | refreshing chunk attempts =>
      cases fate with
      | succeeds => exact held
      | fails stored => trivial
  | starting => trivial
  | posting => trivial
  | committing => trivial
  | returned => trivial
  | raised => trivial

theorem nextChunk_ne_refreshing (call : UploadCall) (offset : Int) (chunk : Bytes)
    (attempts : Nat) : UploadPhase.nextChunk call offset ≠ .refreshing chunk attempts := by
  unfold UploadPhase.nextChunk
  dsimp only
  repeat' split
  all_goals exact UploadPhase.noConfusion

theorem step_heldContinues (consistent : session.Consistent call)
    (harmless : Harmless fate) (stepped : session.step call fate = some next) :
    next.HeldContinues call := by
  have known := consistent.inStep
  rcases session with ⟨phase, server, posted⟩
  cases phase with
  | posting offset chunk attempts =>
      rcases known with ⟨atEnd, chunkCut⟩
      dsimp only at atEnd chunkCut
      rcases harmless with rfl | rfl
      · simp only [step, UploadPhase.request, UploadServer.answer, if_pos atEnd,
          UploadPhase.resume, Option.map_some] at stepped
        cases stepped
        unfold HeldContinues
        split
        · rename_i refreshed
          exact absurd refreshed (nextChunk_ne_refreshing _ _ _ _)
        · trivial
      · simp only [step, UploadPhase.request, UploadServer.answer, if_pos atEnd,
          UploadPhase.resume, Option.map_some, List.take_zero, List.append_nil] at stepped
        cases stepped
        by_cases exhausted : (attempts + 1 : Int) > call.resumeMaxRetries
        · rw [if_pos exhausted]
          trivial
        · rw [if_neg exhausted]
          exact chunkCut
  | starting =>
      rcases harmless with rfl | rfl
      · cases stepped
        unfold HeldContinues
        split
        · rename_i refreshed
          exact absurd refreshed (nextChunk_ne_refreshing _ _ _ _)
        · trivial
      · cases stepped
        trivial
  | refreshing chunk attempts =>
      rcases harmless with rfl | rfl <;> cases stepped <;> trivial
  | committing => rcases harmless with rfl | rfl <;> cases stepped <;> trivial
  | returned => cases stepped
  | raised => cases stepped

theorem correct_of_harmless (positive : 1 ≤ call.resumeChunkSize)
    {fates : List UploadFate} (harmless : ∀ fate ∈ fates, Harmless fate)
    (ran : Transition.run (step call) initial fates = some final) :
    final.Correct call := by
  suffices invariant : ∀ (session : UploadSession), session.Consistent call →
      session.HeldContinues call →
      Transition.run (step call) session fates = some final →
      final.Consistent call from
    (invariant initial (initial_consistent call) trivial ran).correct
  clear ran
  induction fates with
  | nil =>
      intro session consistent _ ran
      cases ran
      exact consistent
  | cons fate fates induction =>
      intro session consistent held ran
      rcases Transition.run_cons ran with ⟨next, stepped, rest⟩
      exact induction (fun other member => harmless other (by simp [member])) next
        (step_consistent positive consistent held.retryAgrees stepped)
        (step_heldContinues consistent (harmless fate (by simp)) stepped) rest

end UploadSession

end YrSandbox.Transport
