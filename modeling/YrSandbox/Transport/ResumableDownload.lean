import YrSandbox.Foundation.Chunk
import YrSandbox.Foundation.Transition
import YrSandbox.Python.Url

/-! # Resumable download

`SandboxClient._download_file_resumable`, call after call, against a server that
holds a fixed content for each remote path. What a call has received is kept in a
file beside its destination, and the next attempt goes on from the length of that
file. -/

namespace YrSandbox.Transport

open Python Transition

/-! ## The server's answers -/

/-- What becomes of one request. `ranged` tells whether the server honours a
`Range` header, `cut` after how many bytes of the body the transport fails. -/
inductive DownloadFate
  | unreachable -- `RequestError` before a body that is written
  | refused -- a status of 400 or more
  | answered (ranged : Bool) (cut : Option Nat)
deriving DecidableEq, Repr

structure DownloadResponse where
  statusCode : Nat
  body : Bytes
deriving DecidableEq, Repr

/-- The answer to `Range: bytes=offset-`, a header that is sent with a positive
offset only. -/
def respond (content : Bytes) (offset : Nat) (ranged : Bool) : DownloadResponse :=
  if 0 < offset ∧ ranged then ⟨206, content.drop offset⟩ else ⟨200, content⟩

/-! ## One call -/

abbrev Files := Text → Option Bytes

/-- One call of `download_file_direct` and what becomes of its requests, as many as
it makes. -/
structure DownloadCall where
  remotePath : Text
  localPath : Text
  fates : List DownloadFate
deriving DecidableEq, Repr

def DownloadCall.partPath (call : DownloadCall) : Text := call.localPath ++ ".part".toList

inductive DownloadResult
  | returned
  | raised
deriving DecidableEq, Repr

inductive AttemptEnd
  | completed
  | requestError
  | sandboxError
deriving DecidableEq, Repr

/-- `_write_stream_to_file`, the file as it is left. -/
def writeStreamToFile (file : Option Bytes) (append : Bool) (received : Bytes) : Bytes :=
  if append then file.getD [] ++ received else received

/-- One round of the loop: the `.part` file after it and how it ends. -/
def attempt (content : Bytes) (part : Option Bytes) :
    DownloadFate → Option Bytes × AttemptEnd
  | .unreachable => (part, .requestError)
  | .refused => (part, .sandboxError)
  | .answered ranged cut =>
      let offset := (part.map List.length).getD 0
      let response := respond content offset ranged
      let append := decide (0 < offset) && decide (response.statusCode = 206)
      match cut with
      | none => (some (writeStreamToFile part append response.body), .completed)
      | some received =>
          (some (writeStreamToFile part append (response.body.take received)),
            .requestError)

/-- The loop, with what is left of the fates; `none` if they do not end it. -/
def downloadLoop (content : Bytes) (resumeMaxRetries : Int) :
    List DownloadFate → Nat → Option Bytes → Option (Option Bytes × DownloadResult)
  | [], _, _ => none
  | fate :: fates, attempts, part =>
      match attempt content part fate with
      | (part, .completed) => if fates = [] then some (part, .returned) else none
      | (part, .sandboxError) => if fates = [] then some (part, .raised) else none
      | (part, .requestError) =>
          if (attempts + 1 : Int) > resumeMaxRetries then
            if fates = [] then some (part, .raised) else none
          else downloadLoop content resumeMaxRetries fates (attempts + 1) part

def Files.set (files : Files) (path : Text) (file : Option Bytes) : Files :=
  fun other => if other = path then file else files other

def downloadFileResumable (server : Text → Bytes) (resumeMaxRetries : Int) (files : Files)
    (call : DownloadCall) : Option (Files × DownloadResult) :=
  (downloadLoop (server call.remotePath) resumeMaxRetries call.fates 0
      (files call.partPath)).map fun
    | (part, .raised) => (files.set call.partPath part, .raised)
    -- `os.replace(part_path, local_path)`
    | (part, .returned) =>
        ((files.set call.partPath none).set call.localPath part, .returned)

/-! ## What is asked of a call -/

def LeavesContent (server : Text → Bytes) (resumeMaxRetries : Int) (files : Files)
    (call : DownloadCall) : Prop :=
  ∀ final, downloadFileResumable server resumeMaxRetries files call =
      some (final, .returned) →
    final call.localPath = some (server call.remotePath)

namespace DownloadFate

def restarts : DownloadFate → Bool
  | answered ranged _ => !ranged
  | _ => false

def retried : DownloadFate → Bool
  | unreachable => true
  | refused => false
  | answered _ cut => cut.isSome

end DownloadFate

/-- The requests of the call end with a complete body, after no more failures than
are retried. -/
def DownloadCall.Completes (resumeMaxRetries : Int) (call : DownloadCall) : Prop :=
  ∃ failures ranged, call.fates = failures ++ [.answered ranged none] ∧
    (∀ fate ∈ failures, fate.retried = true) ∧
    (failures ≠ [] → (failures.length : Int) ≤ resumeMaxRetries)

def Begins (content : Bytes) (part : Option Bytes) : Prop :=
    ∀ bytes ∈ part, bytes <+: content

/-! ## What an attempt leaves -/

section

variable {content : Bytes} {resumeMaxRetries : Int}

theorem append_drop_prefix_iff (content part : Bytes) (received : Nat) :
    part ++ (content.drop part.length).take received <+: content ↔ part <+: content := by
  constructor
  · intro beginning
    exact (List.prefix_append part _).trans beginning
  · rintro ⟨rest, rfl⟩
    rw [List.drop_left, List.prefix_append_right_inj]
    exact List.take_prefix received rest

theorem writeStream_begins (content : Bytes) (part : Option Bytes) (ranged : Bool)
    (received : Nat) :
    let response := respond content ((part.map List.length).getD 0) ranged
    let append := decide (0 < (part.map List.length).getD 0) &&
      decide (response.statusCode = 206)
    writeStreamToFile part append (response.body.take received) <+: content ↔
      Begins content part ∨ ranged = false := by
  dsimp only
  cases ranged with
  | false =>
      have restarted : content.take received <+: content :=
        List.take_prefix received content
      simpa [respond, writeStreamToFile] using restarted
  | true =>
      cases part with
      | none =>
          have fresh : content.take received <+: content :=
            List.take_prefix received content
          simpa [respond, writeStreamToFile, Begins] using fresh
      | some bytes =>
          by_cases empty : bytes = []
          · subst empty
            have fresh : content.take received <+: content :=
              List.take_prefix received content
            simpa [respond, writeStreamToFile, Begins] using fresh
          · have positive : 0 < bytes.length := List.length_pos_iff.mpr empty
            have continued := append_drop_prefix_iff content bytes received
            simpa [respond, writeStreamToFile, Begins, positive] using continued

variable (content) in
theorem attempt_begins {fate : DownloadFate} (retried : fate.retried = true)
    (part : Option Bytes) :
    Begins content (attempt content part fate).1 ↔
      Begins content part ∨ fate.restarts = true := by
  cases fate with
  | unreachable => simp [attempt, DownloadFate.restarts]
  | refused => cases retried
  | answered ranged cut =>
      cases cut with
      | none => cases retried
      | some received =>
          have written := writeStream_begins content part ranged received
          simpa [attempt, Begins, DownloadFate.restarts] using written

theorem writeStream_length (content : Bytes) (part : Option Bytes) (ranged : Bool) :
    let response := respond content ((part.map List.length).getD 0) ranged
    let append := decide (0 < (part.map List.length).getD 0) &&
      decide (response.statusCode = 206)
    response.body.take content.length = response.body ∧
      content.length ≤ (writeStreamToFile part append response.body).length := by
  dsimp only
  unfold respond
  split
  · rename_i continues
    cases part with
    | none => exact absurd continues.1 (by simp)
    | some bytes =>
        have positive : 0 < bytes.length := continues.1
        constructor
        · apply List.take_of_length_le
          simp
        · simp [writeStreamToFile, positive]
          omega
  · simp [writeStreamToFile]

variable (content) in
theorem attempt_completes (part : Option Bytes) (ranged : Bool) :
    ∃ bytes, attempt content part (.answered ranged none) = (some bytes, .completed) ∧
      (bytes = content ↔ Begins content part ∨ ranged = false) := by
  refine ⟨_, rfl, ?_⟩
  rcases writeStream_length content part ranged with ⟨whole, long⟩
  have begins := writeStream_begins content part ranged content.length
  dsimp only at whole long begins
  rw [whole] at begins
  rw [← begins]
  constructor
  · intro same
    generalize writeStreamToFile part _ _ = written at same ⊢
    exact same ▸ List.prefix_refl written
  · intro beginning
    exact beginning.eq_of_length_le long

/-! ## What a call leaves -/

theorem attempt_retried {fate : DownloadFate} {part : Option Bytes}
    (failed : (attempt content part fate).2 = .requestError) : fate.retried = true := by
  cases fate with
  | unreachable => rfl
  | refused => cases failed
  | answered ranged cut =>
      cases cut with
      | none => cases failed
      | some received => rfl

theorem attempt_completed {fate : DownloadFate} {part : Option Bytes}
    (completed : (attempt content part fate).2 = .completed) :
    ∃ ranged, fate = .answered ranged none := by
  cases fate with
  | unreachable => cases completed
  | refused => cases completed
  | answered ranged cut =>
      cases cut with
      | none => exact ⟨ranged, rfl⟩
      | some received => cases completed

/-- What a loop that returns leaves, by induction on its requests. -/
theorem downloadLoop_returned {fates : List DownloadFate} {attempts : Nat}
    {part final : Option Bytes}
    (ended : downloadLoop content resumeMaxRetries fates attempts part =
      some (final, .returned)) :
    final = some content ↔
      Begins content part ∨ ∃ fate ∈ fates, fate.restarts = true := by
  induction fates generalizing attempts part with
  | nil => cases ended
  | cons fate fates induction =>
      rw [downloadLoop] at ended
      split at ended
      · rename_i left completed
        rcases attempt_completed (congrArg Prod.snd completed) with ⟨ranged, rfl⟩
        rcases attempt_completes content part ranged with ⟨bytes, isBytes, same⟩
        split at ended
        · rename_i last
          subst last
          rw [isBytes] at completed
          cases completed
          cases ended
          simpa [DownloadFate.restarts] using same
        · cases ended
      · split at ended <;> cases ended
      · rename_i left failed
        split at ended
        · split at ended <;> cases ended
        · have begins :=
            attempt_begins content (attempt_retried (congrArg Prod.snd failed)) part
          rw [congrArg Prod.fst failed] at begins
          rw [induction ended, begins]
          simp [or_assoc]

theorem downloadLoop_retried {fate : DownloadFate} (retried : fate.retried = true)
    (fates : List DownloadFate) (attempts : Nat) (part : Option Bytes) :
    downloadLoop content resumeMaxRetries (fate :: fates) attempts part =
      if (attempts + 1 : Int) > resumeMaxRetries then
        if fates = [] then some ((attempt content part fate).1, .raised) else none
      else
        downloadLoop content resumeMaxRetries fates (attempts + 1)
          (attempt content part fate).1 := by
  cases fate with
  | unreachable => rfl
  | refused => cases retried
  | answered ranged cut =>
      cases cut with
      | none => cases retried
      | some received => rfl

variable (content) (resumeMaxRetries) in
/-- The requests with which a loop returns, by induction on them. -/
theorem downloadLoop_returns_iff (fates : List DownloadFate) (attempts : Nat)
    (part : Option Bytes) :
    (∃ final, downloadLoop content resumeMaxRetries fates attempts part =
        some (final, .returned)) ↔
      ∃ failures ranged, fates = failures ++ [.answered ranged none] ∧
        (∀ fate ∈ failures, fate.retried = true) ∧
        (failures ≠ [] → (attempts + failures.length : Int) ≤ resumeMaxRetries) := by
  induction fates generalizing attempts part with
  | nil => simp [downloadLoop]
  | cons fate fates induction =>
      by_cases again : fate.retried = true
      · rw [downloadLoop_retried again]
        constructor
        · rintro ⟨final, ended⟩
          split at ended
          · split at ended <;> cases ended
          · rename_i left
            rcases (induction (attempts + 1) _).mp ⟨final, ended⟩ with
              ⟨failures, ranged, rfl, retried, enough⟩
            refine ⟨fate :: failures, ranged, rfl, ?_, ?_⟩
            · intro other isFailure
              rcases List.mem_cons.mp isFailure with rfl | isFailure
              · exact again
              · exact retried other isFailure
            · intro _
              by_cases none : failures = []
              · subst none
                simpa using left
              · have bound := enough none
                rw [List.length_cons]
                omega
        · rintro ⟨failures, ranged, split, retried, enough⟩
          cases failures with
          | nil =>
              cases split
              cases again
          | cons failure failures =>
              cases split
              have bound := enough (by simp)
              rw [List.length_cons] at bound
              rw [if_neg (by omega)]
              apply (induction (attempts + 1) _).mpr
              refine ⟨failures, ranged, rfl, ?_, ?_⟩
              · intro other isFailure
                exact retried other (List.mem_cons_of_mem _ isFailure)
              · intro _
                omega
      · constructor
        · rintro ⟨final, ended⟩
          cases fate with
          | unreachable => exact absurd rfl again
          | refused =>
              simp only [downloadLoop, attempt] at ended
              split at ended <;> cases ended
          | answered ranged cut =>
              cases cut with
              | some received => exact absurd rfl again
              | none =>
                  simp only [downloadLoop, attempt] at ended
                  split at ended
                  · rename_i last
                    exact ⟨[], ranged, by rw [last, List.nil_append], by simp, by simp⟩
                  · cases ended
        · rintro ⟨failures, ranged, split, retried, enough⟩
          cases failures with
          | nil =>
              cases split
              exact ⟨_, rfl⟩
          | cons failure failures =>
              cases split
              exact absurd (retried fate List.mem_cons_self) again

end

/-! ## What a history of calls leaves -/

section

variable {server : Text → Bytes} {resumeMaxRetries : Int} {files : Files}
  {call : DownloadCall}

/-- What the call finds beside its destination is a beginning of what it asks for, or
one of its responses begins at the first byte. -/
def SoundResume (server : Text → Bytes) (files : Files) (call : DownloadCall) : Prop :=
  Begins (server call.remotePath) (files call.partPath) ∨
    ∃ fate ∈ call.fates, fate.restarts = true

theorem downloadFileResumable_returned {final : Files}
    (returned : downloadFileResumable server resumeMaxRetries files call =
      some (final, .returned)) :
    ∃ part, downloadLoop (server call.remotePath) resumeMaxRetries call.fates 0
        (files call.partPath) = some (part, .returned) ∧
      final call.localPath = part := by
  rcases Option.map_eq_some_iff.mp returned with ⟨⟨part, result⟩, looped, isFinal⟩
  cases result with
  | raised => cases isFinal
  | returned =>
      cases isFinal
      exact ⟨part, looped, by simp [Files.set]⟩

theorem returns_iff_completes :
    (∃ final, downloadFileResumable server resumeMaxRetries files call =
      some (final, .returned)) ↔ call.Completes resumeMaxRetries := by
  have loop := downloadLoop_returns_iff (server call.remotePath) resumeMaxRetries
    call.fates 0 (files call.partPath)
  rw [Int.natCast_zero] at loop
  simp only [Int.zero_add] at loop
  rw [DownloadCall.Completes, ← loop]
  constructor
  · rintro ⟨final, returned⟩
    rcases downloadFileResumable_returned returned with ⟨part, looped, _⟩
    exact ⟨part, looped⟩
  · rintro ⟨part, looped⟩
    exact ⟨_, by rw [downloadFileResumable, looped]; rfl⟩

theorem leavesContent_iff :
    LeavesContent server resumeMaxRetries files call ↔
      (call.Completes resumeMaxRetries → SoundResume server files call) := by
  constructor
  · intro leaves completes
    rcases returns_iff_completes.mpr completes with ⟨final, returned⟩
    rcases downloadFileResumable_returned returned with ⟨part, looped, isPart⟩
    apply (downloadLoop_returned looped).mp
    rw [← isPart]
    exact leaves final returned
  · intro sound final returned
    rcases downloadFileResumable_returned returned with ⟨part, looped, isPart⟩
    rw [isPart]
    exact (downloadLoop_returned looped).mpr
      (sound (returns_iff_completes.mp ⟨final, returned⟩))

end

def callStep (server : Text → Bytes) (resumeMaxRetries : Int) :
    Transition.Step Files DownloadCall :=
  fun files call => (downloadFileResumable server resumeMaxRetries files call).map Prod.fst

def twoFiles (path : Text) : Bytes := if path = "/a".toList then [1, 1] else [2, 2]

end YrSandbox.Transport
