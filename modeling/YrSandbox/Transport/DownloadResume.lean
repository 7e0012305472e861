import YrSandbox.Transport.ResumableDownload

/-! # Resuming a download from a healthy server

`_download_file_resumable` one attempt at a time, in one call after the other,
against a server that answers ranges as RFC 9110 prescribes. What matters is the
number of bytes that the attempt before left in the `.part` file. -/

namespace YrSandbox.Transport

open Transition

/-- The answer of a server that holds `content` to `Range: bytes=start-`, or to a
request without a range. -/
def healthy (content : Bytes) : Option Nat → DownloadResponse
  | none => ⟨200, content⟩
  | some start =>
      if start < content.length then ⟨206, content.drop start⟩ else ⟨416, []⟩

/-- How the transport serves an attempt. `cut` tells after how many bytes of the
body it fails, if it does. -/
inductive Connection
  | unreachable -- `RequestError` before there is a response
  | refused -- a status of 400 or more from a server that is not healthy
  | reached (cut : Option Nat)
deriving DecidableEq, Repr

inductive DownloadPhase
  | idle
  | running (failures : Nat)
  | ended (result : DownloadResult)
deriving DecidableEq, Repr

/-- The `.part` file and the file at `local_path`, and where the calls are. -/
structure Download where
  part : Option Bytes
  target : Option Bytes
  phase : DownloadPhase
deriving DecidableEq, Repr

namespace Download

/-- `os.path.getsize(part_path) if os.path.exists(part_path) else 0` -/
def offset (part : Option Bytes) : Nat := (part.map List.length).getD 0

/-- The `Range` header of an attempt, as the position from which it asks. -/
def range (part : Option Bytes) : Option Nat :=
  if 0 < offset part then some (offset part) else none

/-- The body of the `with` block: an error status raises once its text is read, and
another body goes to the `.part` file as far as it comes. -/
def receive (part : Option Bytes) (response : DownloadResponse) (cut : Option Nat) :
    Option Bytes × AttemptEnd :=
  if 400 ≤ response.statusCode then
    (part, if cut.isSome then .requestError else .sandboxError)
  else
    let append := decide (0 < offset part) && decide (response.statusCode = 206)
    match cut with
    | none => (some (writeStreamToFile part append response.body), .completed)
    | some received =>
        (some (writeStreamToFile part append (response.body.take received)), .requestError)

def attemptOn (content : Bytes) (part : Option Bytes) :
    Connection → Option Bytes × AttemptEnd
  | .unreachable => (part, .requestError)
  | .refused => (part, .sandboxError)
  | .reached cut => receive part (healthy content (range part)) cut

inductive Event
  | call
  | attempt (connection : Connection)
deriving DecidableEq, Repr

/-- The loop after one attempt; `os.replace` moves a complete file to its target. -/
def afterAttempt (resumeMaxRetries : Int) (download : Download) (failures : Nat) :
    Option Bytes × AttemptEnd → Download
  | (part, .completed) => ⟨none, part, .ended .returned⟩
  | (part, .sandboxError) => ⟨part, download.target, .ended .raised⟩
  | (part, .requestError) =>
      if (failures + 1 : Int) > resumeMaxRetries then
        ⟨part, download.target, .ended .raised⟩
      else ⟨part, download.target, .running (failures + 1)⟩

def step (content : Bytes) (resumeMaxRetries : Int) (download : Download) :
    Event → Option Download
  | .call =>
      match download.phase with
      | .running _ => none
      | _ => some { download with phase := .running 0 }
  | .attempt connection =>
      match download.phase with
      | .running failures =>
          some (afterAttempt resumeMaxRetries download failures
            (attemptOn content download.part connection))
      | _ => none

def Completed (content : Bytes) (download : Download) : Prop :=
  download.phase = .ended .returned ∧ download.target = some content

instance (content : Bytes) (download : Download) :
    Decidable (Completed content download) :=
  inferInstanceAs (Decidable (_ ∧ _))

/-! ## The same attempts as fates -/

def fate (content : Bytes) (part : Option Bytes) : Connection → DownloadFate
  | .unreachable => .unreachable
  | .refused => .refused
  | .reached cut =>
      if 0 < offset part ∧ content.length ≤ offset part then
        if cut.isSome then .unreachable else .refused
      else .answered true cut

variable {content : Bytes} {resumeMaxRetries : Int} {part : Option Bytes}

theorem attemptOn_eq_attempt (connection : Connection) :
    attemptOn content part connection =
      attempt content part (fate content part connection) := by
  cases connection with
  | unreachable => rfl
  | refused => rfl
  | reached cut =>
      show receive part (healthy content (range part)) cut = attempt content part
        (if 0 < offset part ∧ content.length ≤ offset part then
          if cut.isSome then .unreachable else .refused
        else .answered true cut)
      split
      · next beyond =>
          have answer : healthy content (range part) = ⟨416, []⟩ := by
            rw [range, if_pos beyond.1]
            exact if_neg (not_lt.mpr beyond.2)
          rw [answer]
          cases cut <;> rfl
      · next inside =>
          have answer : healthy content (range part) =
              respond content (offset part) true := by
            unfold range respond
            by_cases positive : 0 < offset part
            · rw [if_pos positive, if_pos ⟨positive, rfl⟩]
              exact if_pos (not_le.mp fun beyond => inside ⟨positive, beyond⟩)
            · rw [if_neg positive, if_neg fun both => positive both.1]
              rfl
          have accepted : ¬400 ≤ (respond content (offset part) true).statusCode := by
            unfold respond
            split
            · exact Nat.not_le_of_lt (by decide : 206 < 400)
            · exact Nat.not_le_of_lt (by decide : 200 < 400)
          rw [answer, receive, if_neg accepted]
          cases cut <;> rfl

/-! ## What the calls leave beside the target -/

variable {download next final : Download} {event : Event} {events : List Event}

theorem step_call (stepped : step content resumeMaxRetries download .call = some next) :
    next = { download with phase := .running 0 } := by
  simp only [step] at stepped
  split at stepped
  · cases stepped
  · exact (Option.some.inj stepped).symm

theorem step_attempt {connection : Connection}
    (stepped : step content resumeMaxRetries download (.attempt connection) = some next) :
    ∃ failures, download.phase = .running failures ∧
      next = afterAttempt resumeMaxRetries download failures
        (attempt content download.part (fate content download.part connection)) := by
  simp only [step] at stepped
  split at stepped
  · next failures running =>
      rw [attemptOn_eq_attempt] at stepped
      exact ⟨failures, running, (Option.some.inj stepped).symm⟩
  · cases stepped

theorem afterAttempt_begins {failures : Nat} {left : Option Bytes × AttemptEnd}
    (begins : left.2 ≠ .completed → Begins content left.1) :
    Begins content (afterAttempt resumeMaxRetries download failures left).part := by
  rcases left with ⟨part, outcome⟩
  cases outcome with
  | completed =>
      intro bytes absent
      cases absent
  | sandboxError => exact begins nofun
  | requestError =>
      simp only [afterAttempt]
      split
      · exact begins nofun
      · exact begins nofun

theorem step_begins (begins : Begins content download.part)
    (stepped : step content resumeMaxRetries download event = some next) :
    Begins content next.part := by
  cases event with
  | call =>
      rw [step_call stepped]
      exact begins
  | attempt connection =>
      rcases step_attempt stepped with ⟨failures, _, rfl⟩
      apply afterAttempt_begins
      intro failed
      generalize fate content download.part connection = fate at failed ⊢
      cases fate with
      | refused => exact begins
      | unreachable => exact begins
      | answered ranged cut =>
          cases cut with
          | none => exact absurd rfl failed
          | some received =>
              exact (attempt_begins content rfl download.part).mpr (.inl begins)

theorem run_begins (begins : Begins content download.part)
    (ran : run (step content resumeMaxRetries) download events = some next) :
    Begins content next.part :=
  invariant_of_run (fun download => Begins content download.part)
    (fun _ _ _ begins stepped => step_begins begins stepped) begins ran

theorem offset_le_length (begins : Begins content part) :
    offset part ≤ content.length := by
  cases part with
  | none => exact Nat.zero_le _
  | some bytes => exact (begins bytes rfl).length_le

/-- In whatever order calls and attempts fail, the next attempt that a healthy
server answers completes its call exactly if the `.part` file is not yet as long as
a content that is not empty. -/
theorem healthy_attempt_completes_iff (begins : Begins content download.part)
    (ran : run (step content resumeMaxRetries) download events = some next)
    (reached : step content resumeMaxRetries next (.attempt (.reached none)) =
      some final) :
    Completed content final ↔ offset next.part < content.length ∨ content = [] := by
  have left := run_begins begins ran
  have bound := offset_le_length left
  rcases step_attempt reached with ⟨failures, _, rfl⟩
  by_cases beyond : 0 < offset next.part ∧ content.length ≤ offset next.part
  · have refused : fate content next.part (.reached none) = .refused := if_pos beyond
    have nonempty : content ≠ [] := List.length_pos_iff.mp (by omega)
    rw [refused]
    apply iff_of_false
    · exact fun completed => nomatch completed.1
    · rintro (short | empty)
      · omega
      · exact nonempty empty
  · have answered : fate content next.part (.reached none) = .answered true none :=
      if_neg beyond
    rcases attempt_completes content next.part true with ⟨bytes, ended, same⟩
    rw [answered, ended]
    apply iff_of_true
    · exact ⟨rfl, congrArg some (same.mpr (.inl left))⟩
    · by_cases empty : content = []
      · exact .inr empty
      · have positive := List.length_pos_iff.mpr empty
        left
        omega

/-- One byte of two arrives, the first call gives up, and a second call goes on. -/
theorem healthy_attempt_completes_iff_one_byte :
    Completed [1, 2] ⟨none, some [1, 2], .ended .returned⟩ ↔
      offset (some ([1] : Bytes)) < ([1, 2] : Bytes).length ∨ ([1, 2] : Bytes) = [] := by
  have begins : Begins ([1, 2] : Bytes) none := fun bytes absent => nomatch absent
  have ran : run (step [1, 2] 0) ⟨none, none, .idle⟩
      [.call, .attempt (.reached (some 1)), .call] =
        some ⟨some [1], none, .running 0⟩ := by decide
  exact healthy_attempt_completes_iff begins ran (by decide)

/-- The transport fails between the last byte and the end of the body, and the range
that the next attempt asks for is refused. -/
theorem complete_part_refused :
    ¬∀ (content : Bytes) (resumeMaxRetries : Int) (download next final : Download)
      (events : List Event), Begins content download.part →
      run (step content resumeMaxRetries) download events = some next →
      step content resumeMaxRetries next (.attempt (.reached none)) = some final →
      Completed content final := by
  intro claim
  have completed := claim [1, 2] 3 ⟨none, none, .idle⟩ ⟨some [1, 2], none, .running 1⟩
    ⟨some [1, 2], none, .ended .raised⟩ [.call, .attempt (.reached (some 2))]
    (fun bytes absent => nomatch absent) (by decide) (by decide)
  revert completed
  decide

/-! ## A complete `.part` file -/

theorem complete_part_stays (nonempty : content ≠ []) {target : Option Bytes}
    (complete : download.part = some content) (same : download.target = target)
    (ran : run (step content resumeMaxRetries) download events = some next) :
    next.part = some content ∧ next.target = target := by
  apply invariant_of_run (fun download => download.part = some content ∧
    download.target = target) _ ⟨complete, same⟩ ran
  rintro download event next ⟨complete, same⟩ stepped
  cases event with
  | call =>
      rw [step_call stepped]
      exact ⟨complete, same⟩
  | attempt connection =>
      rcases step_attempt stepped with ⟨failures, _, rfl⟩
      have positive := List.length_pos_iff.mpr nonempty
      have beyond : 0 < offset download.part ∧ content.length ≤ offset download.part := by
        rw [complete]
        exact ⟨positive, le_refl content.length⟩
      have kept : ∀ outcome, outcome ≠ AttemptEnd.completed →
          (afterAttempt resumeMaxRetries download failures
            (download.part, outcome)).part = some content ∧
          (afterAttempt resumeMaxRetries download failures
            (download.part, outcome)).target = target := by
        intro outcome failed
        cases outcome with
        | completed => exact absurd rfl failed
        | sandboxError => exact ⟨complete, same⟩
        | requestError =>
            simp only [afterAttempt]
            split
            · exact ⟨complete, same⟩
            · exact ⟨complete, same⟩
      cases connection with
      | unreachable => exact kept .requestError nofun
      | refused => exact kept .sandboxError nofun
      | reached cut =>
          have served : fate content download.part (.reached cut) =
              if cut.isSome then .unreachable else .refused := if_pos beyond
          rw [served]
          cases cut with
          | none => exact kept .sandboxError nofun
          | some received => exact kept .requestError nofun

end Download

end YrSandbox.Transport
