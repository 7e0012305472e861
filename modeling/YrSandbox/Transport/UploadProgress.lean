import YrSandbox.Foundation.Trace
import YrSandbox.Transport.ResumableUpload

/-! # The progress of a resumable upload

`_upload_file_resumable` against any replies at all: which offsets let the loop
come to its end, and which let it commit before or past the end of the file.
The local file may change after its size was taken, and its reader has a buffer, so that
what a read gives is whatever it gives. -/

namespace YrSandbox.Transport

open Transition

/-- What the call meets after a request: the reply, and of the local file, whether `open`
succeeds and what `f.read` gives if they are called then. More than it is asked for is
left, and `none` is that it raises. -/
structure UploadTurn where
  reply : UploadReply
  opens : Bool
  read : Option Bytes
deriving DecidableEq, Repr

namespace UploadPhase

/-- The head of `while offset < total`. -/
def readNext (call : UploadCall) (read : Option Bytes) (offset : Int) : UploadPhase :=
  if offset < call.total then
    if offset < 0 then .raised -- `f.seek` refuses a negative position
    else
      match read with
      | none => .raised
      | some bytes =>
          let chunk := bytes.take (min call.resumeChunkSize (call.total - offset.toNat))
          if chunk = [] then .committing else .posting offset chunk 0
  else .committing

def goOn (call : UploadCall) (opens : Bool) (read : Option Bytes) :
    UploadPhase → UploadReply → UploadPhase
  | .starting, .parsed offset =>
      if opens then readNext call read (offset.getD 0) else .raised
  | .posting offset chunk _, .parsed reported =>
      readNext call read (reported.getD (offset + chunk.length))
  | phase, reply => phase.resume call reply

end UploadPhase

/-- The point where the call waits, its variable `offset`, and the value that
variable had when the loop read the chunk in memory. -/
structure Upload where
  phase : UploadPhase
  offset : Int
  begun : Int
deriving DecidableEq, Repr

namespace Upload

def initial : Upload where
  phase := .starting
  offset := 0
  begun := 0

/-- The offset that a reply states: the one it carries or, for a chunk that was
posted, else the end of that chunk. -/
def stated (upload : Upload) : UploadReply → Int
  | .parsed reported =>
      match upload.phase with
      | .starting => reported.getD 0
      | .posting offset chunk _ => reported.getD (offset + chunk.length)
      | .refreshing _ _ => reported.getD 0
      | _ => upload.offset
  | .sandboxError => upload.offset

/-- Whether the call comes to the head of its loop. -/
def entersLoop (upload : Upload) (turn : UploadTurn) : Bool :=
  match upload.phase, turn.reply with
  | .starting, .parsed _ => turn.opens
  | .posting _ _ _, .parsed _ => true
  | _, _ => false

def react (call : UploadCall) (upload : Upload) (turn : UploadTurn) : Upload where
  phase := upload.phase.goOn call turn.opens turn.read turn.reply
  offset := upload.stated turn.reply
  begun := if upload.entersLoop turn then upload.stated turn.reply else upload.begun

def after (call : UploadCall) (turns : Nat → UploadTurn) (count : Nat) : Upload :=
  trace (react call) initial turns count

def Finished (call : UploadCall) (upload : Upload) : Prop :=
  upload.phase.request call = none

def Ends (call : UploadCall) (turns : Nat → UploadTurn) : Prop :=
  ∃ count, (after call turns count).Finished call

def CommitsWhole (call : UploadCall) (turns : Nat → UploadTurn) : Prop :=
  ∀ count size, (after call turns count).phase.request call = some (.commit size) →
    (after call turns count).offset = call.total

/-- A reply with which the call comes to the head of its loop states an offset that is
not past the end, and one from which a byte can be read if it is before it. -/
def Fits (call : UploadCall) (upload : Upload) (turn : UploadTurn) : Prop :=
  upload.entersLoop turn = true →
    upload.stated turn.reply ≤ call.total ∧
      (0 ≤ upload.stated turn.reply → upload.stated turn.reply < call.total →
        turn.read ≠ some [])

/-- The reply to a chunk states an offset after the one at which the chunk was read. -/
def Advances (upload : Upload) (turn : UploadTurn) : Prop :=
  match upload.phase, turn.reply with
  | .posting offset chunk _, .parsed reported =>
      upload.begun < reported.getD (offset + chunk.length)
  | _, _ => True

/-! ## The head of the loop -/

variable {call : UploadCall} {upload : Upload} {turn : UploadTurn}

inductive ReadsNext (call : UploadCall) (read : Option Bytes) (offset : Int) :
    UploadPhase → Prop
  | finished (done : call.total ≤ offset) : ReadsNext call read offset .committing
  | refused (negative : offset < 0) : ReadsNext call read offset .raised
  | failed (raises : read = none) : ReadsNext call read offset .raised
  | short (inside : 0 ≤ offset) (unfinished : offset < call.total)
      (ended : read = some []) : ReadsNext call read offset .committing
  | read (chunk : Bytes) (inside : 0 ≤ offset) (unfinished : offset < call.total)
      (more : read ≠ some []) : ReadsNext call read offset (.posting offset chunk 0)

theorem readsNext (positive : 1 ≤ call.resumeChunkSize) (read : Option Bytes)
    (offset : Int) :
    ReadsNext call read offset (UploadPhase.readNext call read offset) := by
  unfold UploadPhase.readNext
  split
  · next unfinished =>
      split
      · next negative => exact .refused negative
      · next inside =>
          cases read with
          | none => exact .failed rfl
          | some bytes =>
              have asked : min call.resumeChunkSize (call.total - offset.toNat) ≠ 0 := by
                omega
              dsimp only
              split
              · next empty =>
                  apply ReadsNext.short (by omega) unfinished
                  have nothing := (List.take_eq_nil_iff.mp empty).resolve_left asked
                  rw [nothing]
              · next nonempty =>
                  apply ReadsNext.read _ (by omega) unfinished
                  intro ended
                  rw [Option.some.inj ended, List.take_nil] at nonempty
                  exact nonempty rfl
  · next done => exact .finished (by omega)

theorem goOn_of_entersLoop (enters : upload.entersLoop turn = true) :
    upload.phase.goOn call turn.opens turn.read turn.reply =
      UploadPhase.readNext call turn.read (upload.stated turn.reply) := by
  rcases upload with ⟨phase, offset, begun⟩
  rcases turn with ⟨reply, opens, bytes⟩
  cases phase with
  | starting =>
      cases reply with
      | parsed reported =>
          have isOpen : opens = true := enters
          exact if_pos isOpen
      | sandboxError => cases enters
  | posting posted chunk attempts =>
      cases reply with
      | parsed reported => rfl
      | sandboxError => cases enters
  | refreshing => cases reply <;> cases enters
  | committing => cases reply <;> cases enters
  | returned => cases reply <;> cases enters
  | raised => cases reply <;> cases enters

theorem entersLoop_of_commits
    (commits : upload.phase.goOn call turn.opens turn.read turn.reply = .committing) :
    upload.entersLoop turn = true := by
  rcases upload with ⟨phase, offset, begun⟩
  rcases turn with ⟨reply, opens, bytes⟩
  cases phase with
  | starting =>
      cases reply with
      | parsed reported =>
          simp only [UploadPhase.goOn] at commits
          split at commits
          · assumption
          · cases commits
      | sandboxError => cases commits
  | posting posted chunk attempts =>
      cases reply with
      | parsed reported => rfl
      | sandboxError =>
          simp only [UploadPhase.goOn, UploadPhase.resume] at commits
          split at commits <;> cases commits
  | refreshing => cases reply <;> cases commits
  | committing => cases reply <;> cases commits
  | returned => cases reply <;> cases commits
  | raised => cases reply <;> cases commits

theorem fits_iff (positive : 1 ≤ call.resumeChunkSize) :
    upload.Fits call turn ↔
      ((upload.react call turn).phase = .committing →
        (upload.react call turn).offset = call.total) := by
  constructor
  · intro fits commits
    have enters := entersLoop_of_commits commits
    have bounds := fits enters
    simp only [react, goOn_of_entersLoop enters] at commits ⊢
    cases commits ▸ readsNext positive turn.read (upload.stated turn.reply) with
    | finished done => exact le_antisymm bounds.1 done
    | short inside unfinished ended => exact absurd ended (bounds.2 inside unfinished)
  · intro whole enters
    simp only [react, goOn_of_entersLoop enters] at whole
    have next := readsNext positive turn.read (upload.stated turn.reply)
    refine ⟨?_, fun inside unfinished => ?_⟩
    · by_contra past
      unfold UploadPhase.readNext at whole
      rw [if_neg (by omega)] at whole
      exact past (whole rfl).le
    · generalize UploadPhase.readNext call turn.read (upload.stated turn.reply) =
        phase at next whole
      cases next with
      | finished done => omega
      | refused negative => omega
      | failed raises => simp [raises]
      | short => exact absurd (whole rfl) unfinished.ne
      | read chunk _ _ more => exact more

/-! ## The requests that are left -/

def retries (call : UploadCall) : Nat := call.resumeMaxRetries.toNat

def Bounded (call : UploadCall) (upload : Upload) : Prop :=
  match upload.phase with
  | .posting _ _ attempts =>
      0 ≤ upload.begun ∧ upload.begun < call.total ∧ attempts ≤ retries call
  | .refreshing _ attempts =>
      0 ≤ upload.begun ∧ upload.begun < call.total ∧ attempts ≤ retries call
  | _ => True

/-- An upper bound for the requests of a call whose chunks advance: each byte
from the chunk in memory on costs at most one chunk with all its retries. -/
def remaining (call : UploadCall) (upload : Upload) : Nat :=
  let round := 2 * retries call + 1
  match upload.phase with
  | .starting => (call.total + 1) * round + 2 * retries call + 3
  | .posting _ _ attempts =>
      (call.total - upload.begun).toNat * round + 2 * (retries call - attempts) + 2
  | .refreshing _ attempts =>
      (call.total - upload.begun).toNat * round + 2 * (retries call - attempts) + 3
  | .committing => 1
  | .returned => 0
  | .raised => 0

theorem failed_cases (call : UploadCall) (opens : Bool) (read : Option Bytes)
    (offset : Int) (chunk : Bytes) (attempts : Nat) :
    (UploadPhase.posting offset chunk attempts).goOn call opens read .sandboxError =
        .raised ∨
      attempts + 1 ≤ retries call ∧
        (UploadPhase.posting offset chunk attempts).goOn call opens read .sandboxError =
          .refreshing chunk (attempts + 1) := by
  by_cases exhausted : (attempts + 1 : Int) > call.resumeMaxRetries
  · exact .inl (if_pos exhausted)
  · refine .inr ⟨?_, if_neg exhausted⟩
    unfold retries
    omega

theorem initial_bounded : initial.Bounded call := trivial

theorem react_bounded (positive : 1 ≤ call.resumeChunkSize)
    (bounded : upload.Bounded call) : (upload.react call turn).Bounded call := by
  cases enters : upload.entersLoop turn with
  | true =>
      have next := readsNext positive turn.read (upload.stated turn.reply)
      simp only [Bounded, react, enters, if_true, goOn_of_entersLoop enters]
      generalize UploadPhase.readNext call turn.read (upload.stated turn.reply) =
        phase at next
      cases next with
      | finished => trivial
      | refused => trivial
      | failed => trivial
      | short => trivial
      | read chunk inside unfinished _ => exact ⟨inside, unfinished, Nat.zero_le _⟩
  | false =>
      rcases upload with ⟨phase, offset, begun⟩
      rcases turn with ⟨reply, opens, bytes⟩
      cases phase with
      | posting posted chunk attempts =>
          cases reply with
          | parsed reported => cases enters
          | sandboxError =>
              unfold react
              rcases failed_cases call opens bytes posted chunk attempts with
                raised | ⟨limit, refreshing⟩
              · rw [raised]
                trivial
              · rw [refreshing]
                exact ⟨bounded.1, bounded.2.1, limit⟩
      | refreshing chunk attempts =>
          cases reply with
          | parsed reported => exact bounded
          | sandboxError => trivial
      | starting =>
          cases reply with
          | parsed reported =>
              have notOpen : opens = false := enters
              simp only [react, UploadPhase.goOn, notOpen, Bool.false_eq_true, if_false]
              trivial
          | sandboxError => trivial
      | committing => cases reply <;> trivial
      | returned => trivial
      | raised => trivial

theorem remaining_readNext (positive : 1 ≤ call.resumeChunkSize) (read : Option Bytes)
    (known offset : Int) :
    (⟨UploadPhase.readNext call read offset, known, offset⟩ :
        Upload).remaining call ≤
      (call.total - max offset 0).toNat * (2 * retries call + 1) + 2 * retries call +
        2 := by
  have next := readsNext positive read offset
  generalize UploadPhase.readNext call read offset = phase at next
  cases next with
  | finished => simp only [remaining]; omega
  | refused => simp only [remaining]; omega
  | failed => simp only [remaining]; omega
  | short => simp only [remaining]; omega
  | read chunk inside => simp only [remaining, max_eq_left inside]; omega

theorem react_remaining (positive : 1 ≤ call.resumeChunkSize)
    (bounded : upload.Bounded call) (advances : upload.Advances turn)
    (unfinished : ¬upload.Finished call) :
    (upload.react call turn).remaining call < upload.remaining call := by
  rcases upload with ⟨phase, offset, begun⟩
  rcases turn with ⟨reply, opens, bytes⟩
  cases phase with
  | starting =>
      cases reply with
      | parsed reported =>
          cases opens with
          | false =>
              simp only [react, UploadPhase.goOn, Bool.false_eq_true, if_false, remaining]
              omega
          | true =>
              have next := remaining_readNext positive bytes (reported.getD 0)
                (reported.getD 0)
              have bytes :
                  (call.total - max (reported.getD 0) 0).toNat ≤ call.total + 1 := by
                omega
              have rounds := Nat.mul_le_mul_right (2 * retries call + 1) bytes
              show _ < (call.total + 1) * (2 * retries call + 1) + 2 * retries call + 3
              exact lt_of_le_of_lt next (by omega)
      | sandboxError =>
          simp only [react, remaining, UploadPhase.goOn, UploadPhase.resume]
          omega
  | posting posted chunk attempts =>
      rcases bounded with ⟨_, inside, _⟩
      cases reply with
      | parsed reported =>
          have next := remaining_readNext positive bytes
            (reported.getD (posted + chunk.length)) (reported.getD (posted + chunk.length))
          have bytes : (call.total - max (reported.getD (posted + chunk.length)) 0).toNat +
              1 ≤ (call.total - begun).toNat := by
            simp only [Advances] at advances inside
            omega
          have rounds := Nat.mul_le_mul_right (2 * retries call + 1) bytes
          rw [Nat.add_mul, Nat.one_mul] at rounds
          show _ < (call.total - begun).toNat * (2 * retries call + 1) +
            2 * (retries call - attempts) + 2
          exact lt_of_le_of_lt next (by omega)
      | sandboxError =>
          rcases failed_cases call opens bytes posted chunk attempts with
            raised | ⟨limit, refreshing⟩
          · simp only [react, raised, remaining]
            omega
          · simp only [react, refreshing, remaining, entersLoop, Bool.false_eq_true,
              if_false]
            omega
  | refreshing chunk attempts =>
      cases reply with
      | parsed reported =>
          simp only [react, remaining, UploadPhase.goOn, UploadPhase.resume, entersLoop,
            Bool.false_eq_true, if_false]
          omega
      | sandboxError =>
          simp only [react, remaining, UploadPhase.goOn, UploadPhase.resume]
          omega
  | committing =>
      cases reply <;> simp [react, remaining, UploadPhase.goOn, UploadPhase.resume]
  | returned => exact absurd rfl unfinished
  | raised => exact absurd rfl unfinished

/-! ## When the call ends and commits the whole file -/

variable {turns : Nat → UploadTurn}

theorem finished_react (finished : upload.Finished call) (turn : UploadTurn) :
    (upload.react call turn).Finished call := by
  rcases upload with ⟨phase, offset, begun⟩
  cases phase with
  | returned => rfl
  | raised => rfl
  | starting => cases finished
  | posting => cases finished
  | refreshing => cases finished
  | committing => cases finished

theorem finished_advances (finished : upload.Finished call) (turn : UploadTurn) :
    upload.Advances turn := by
  rcases upload with ⟨phase, offset, begun⟩
  cases phase with
  | posting => cases finished
  | starting => trivial
  | refreshing => trivial
  | committing => trivial
  | returned => trivial
  | raised => trivial

theorem commits_iff {size : Nat} :
    upload.phase.request call = some (.commit size) ↔
      upload.phase = .committing ∧ size = call.total := by
  rcases upload with ⟨phase, offset, begun⟩
  cases phase <;> simp [UploadPhase.request, eq_comm]

theorem commitsWhole_iff (positive : 1 ≤ call.resumeChunkSize) :
    CommitsWhole call turns ↔
      ∀ count, (after call turns count).Fits call (turns count) := by
  constructor
  · intro whole count
    rw [fits_iff positive]
    intro commits
    exact whole (count + 1) call.total (commits_iff.mpr ⟨commits, rfl⟩)
  · intro fits count size requested
    have commits := (commits_iff.mp requested).1
    cases count with
    | zero => cases commits
    | succ count => exact (fits_iff positive).mp (fits count) commits

theorem ends_iff (positive : 1 ≤ call.resumeChunkSize) :
    Ends call turns ↔
      ∃ threshold, ∀ count, threshold ≤ count →
        (after call turns count).Advances (turns count) := by
  constructor
  · rintro ⟨threshold, reached⟩
    refine ⟨threshold, fun count ordered => ?_⟩
    exact finished_advances
      (trace_persists (Finished call)
        (fun _ turn finished => finished_react finished turn) reached ordered) _
  · rintro ⟨threshold, advances⟩
    have bounded : ∀ count, (after call turns count).Bounded call :=
      trace_invariant (Bounded call) initial_bounded
        fun _ _ bounded => react_bounded positive bounded
    exact trace_ends (remaining call) threshold fun count ordered unfinished =>
      react_remaining positive (bounded count) (advances count ordered) unfinished

/-- The call makes finitely many requests and commits only at the end of the
file, exactly if the replies to its chunks fail to advance it finitely often and
no reply takes it to an offset past the end of the file or to one from which nothing is
read. -/
theorem ends_and_commitsWhole_iff (positive : 1 ≤ call.resumeChunkSize) :
    (Ends call turns ∧ CommitsWhole call turns) ↔
      (∃ threshold, ∀ count, threshold ≤ count →
          (after call turns count).Advances (turns count)) ∧
        ∀ count, (after call turns count).Fits call (turns count) :=
  and_congr (ends_iff positive) (commitsWhole_iff positive)

def stores : Nat → UploadTurn
  | 0 => ⟨.parsed (some 0), true, some [1, 2, 3]⟩
  | 1 => ⟨.parsed (some 2), true, some [3]⟩
  | _ => ⟨.parsed none, true, some []⟩

theorem ends_and_commitsWhole_iff_stores :
    (Ends ⟨[1, 2, 3], 2, 3⟩ stores ∧ CommitsWhole ⟨[1, 2, 3], 2, 3⟩ stores) ↔
      (∃ threshold, ∀ count, threshold ≤ count →
          (after ⟨[1, 2, 3], 2, 3⟩ stores count).Advances (stores count)) ∧
        ∀ count, (after ⟨[1, 2, 3], 2, 3⟩ stores count).Fits ⟨[1, 2, 3], 2, 3⟩
          (stores count) :=
  ends_and_commitsWhole_iff (by decide)

def stalls (_ : Nat) : UploadTurn := ⟨.parsed (some 0), true, some [1, 2, 3]⟩

theorem stalled_upload_never_ends :
    ¬∀ (call : UploadCall) (turns : Nat → UploadTurn), 1 ≤ call.resumeChunkSize →
      Ends call turns ∧ CommitsWhole call turns := by
  intro claim
  rcases (claim ⟨[1, 2, 3], 2, 3⟩ stalls (by decide)).1 with ⟨count, finished⟩
  have waits : after ⟨[1, 2, 3], 2, 3⟩ stalls count = initial ∨
      after ⟨[1, 2, 3], 2, 3⟩ stalls count = ⟨.posting 0 [1, 2] 0, 0, 0⟩ := by
    apply trace_invariant (fun upload => upload = initial ∨
      upload = ⟨.posting 0 [1, 2] 0, 0, 0⟩) (.inl rfl)
    rintro upload _ (rfl | rfl)
    · exact .inr rfl
    · exact .inr rfl
  rcases waits with start | posting
  · rw [start] at finished
    cases finished
  · rw [posting] at finished
    cases finished

end Upload

end YrSandbox.Transport
