import Mathlib.Tactic.IntervalCases
import YrSandbox.Foundation.Trace
import YrSandbox.Transport.DirectInvoke

/-! # Polling a command until it is done

`_poll_pid_until_done`: polls of a running process until it ends, the deadline
passes or three polls in a row have failed. -/

namespace YrSandbox.Commands

open Python Transport Transition

def pollInterval : Int := seconds 10
def pollRetryDelay : Int := seconds 1
def pollMaxConsecutiveErrors : Nat := 3
def pollNonRetryableHttpStatus : List Nat := [400, 401, 403, 405, 410, 422]

/-! ## Outcomes of one poll -/

/-- What `SandboxClient.invoke` raises, as the `except` clauses tell it apart.
`other` is an exception that they do not name, and `isException` tells whether its
class is below `Exception`. -/
inductive Raised
  | clientClosed (message : String)
  | sandbox (error : SandboxError)
  | request (kind : RequestErrorKind) (message : String)
  | other (typeName message : String) (isException : Bool)

namespace Raised

def message : Raised → String
  | .clientClosed message | .request _ message | .other _ message _ => message
  | .sandbox error => error.message

/-- `isinstance(e, Exception)` -/
def isException : Raised → Bool
  | .clientClosed _ | .sandbox _ | .request _ _ => true
  | .other _ _ isException => isException

/-- Whether a failed poll is counted and tried again; all other errors are raised
by `raise`, or are not caught. -/
def retryable : Raised → Bool
  | .sandbox (.http message statusCode body) =>
      !((SandboxError.http message statusCode body).terminal ||
        pollNonRetryableHttpStatus.contains statusCode)
  | .sandbox (.plain _) | .request _ _ => true
  | .clientClosed _ | .other _ _ _ => false

def keyError (key : String) : Raised := .other "KeyError" ("'" ++ key ++ "'") true

end Raised

structure CommandResult where
  stdout : Json
  stderr : Json
  exitCode : Json

def item (poll : Dict) (key : String) : Except Raised Json :=
  match poll.get? key with
  | some value => .ok value
  | none => .error (.keyError key)

def equalsText (value : Json) (text : String) : Bool :=
  match value with
  | .str content => content == text
  | _ => false

/-- The body of the loop after a poll that was answered; `none` begins the next
pass. -/
def readPoll (poll : Dict) : Except Raised (Option CommandResult) := do
  let status ← item poll "status"
  if equalsText status "done" then
    let stdout ← item poll "stdout"
    let stderr ← item poll "stderr"
    let exitCode ← item poll "exit_code"
    return some ⟨stdout, stderr, exitCode⟩
  else if equalsText status "error" then
    return some ⟨.str "", (poll.get? "error").getD (.str "Unknown error"), .int (-1)⟩
  else return none

/-! ## The loop -/

/-- What the call does that can be seen from outside. Durations are in nanoseconds;
the `timeout` of a request is in seconds. -/
inductive Action
  | poll (sandboxId : String) (pid waitTimeout timeout : Int)
  | sleep (delay : Int)
  | kill (sandboxId : String) (pid : Int)
deriving DecidableEq, Repr

/-- How the call ends; `cause` is the `__cause__` of the exception. -/
inductive Ending
  | returned (result : CommandResult)
  | raised (error : Raised) (cause : Option Raised)

/-- The locals of `_poll_pid_until_done`, and what it has done. -/
structure PollLoop where
  consecutiveErrors : Nat
  actions : List Action
  ending : Option Ending

def PollLoop.start : PollLoop where
  consecutiveErrors := 0
  actions := []
  ending := none

/-- What one pass of the loop meets: the clock at its head, `random.random()` in
units of 2⁻⁵³, the outcome of its poll, and the clock after a failure. -/
structure Pass where
  head : Int
  random : Fin (2 ^ 53)
  outcome : Except Raised Dict
  afterFailure : Int

/-- The arguments of the call, the clock when it begins, and the outcome of
`process.kill`. -/
structure PollCall where
  sandboxId : String
  pid : Int
  timeout : Int
  began : Int
  kill : Except Raised Dict

/-- `_POLL_INTERVAL * (0.7 + random.random() * 0.6)` -/
def jittered (random : Fin (2 ^ 53)) : Int :=
  pollInterval * 7 / 10 + pollInterval * 6 / 10 * random / 2 ^ 53

namespace PollCall

def deadline (call : PollCall) : Int := call.began + seconds call.timeout

def timedOut (call : PollCall) : CommandResult where
  stdout := .str ""
  stderr := .str s!"Command timed out after {call.timeout} seconds"
  exitCode := .int (-1)

def exhausted (call : PollCall) (consecutiveErrors : Nat) (error : Raised) : Raised :=
  .sandbox (.plain (s!"process.poll failed (sandbox={call.sandboxId}, pid={call.pid}) " ++
    s!"after {consecutiveErrors} consecutive errors: {error.message}"))

def afterBreak (call : PollCall) (loop : PollLoop) : PollLoop where
  consecutiveErrors := loop.consecutiveErrors
  actions := loop.actions ++ [.kill call.sandboxId call.pid]
  ending :=
    match call.kill with
    | .ok _ => some (.returned call.timedOut)
    | .error error =>
        if error.isException then some (.returned call.timedOut)
        else some (.raised error none)

/-- The second `except` clause, for an error that it does not raise again. -/
def afterError (call : PollCall) (loop : PollLoop) (error : Raised) (now : Int) :
    PollLoop :=
  let consecutiveErrors := loop.consecutiveErrors + 1
  let retryDelay := min pollRetryDelay (call.deadline - now)
  if retryDelay ≤ 0 then
    call.afterBreak { loop with consecutiveErrors := consecutiveErrors }
  else if pollMaxConsecutiveErrors ≤ consecutiveErrors then
    { loop with
      consecutiveErrors := consecutiveErrors
      ending := some (.raised (call.exhausted consecutiveErrors error) (some error)) }
  else
    { loop with
      consecutiveErrors := consecutiveErrors
      actions := loop.actions ++ [.sleep retryDelay] }

/-- `poll_wait` and the request that it is for. -/
def request (call : PollCall) (pass : Pass) : Action :=
  let pollWait := min (jittered pass.random) (call.deadline - pass.head)
  .poll call.sandboxId call.pid pollWait (pollWait / seconds 1)

/-- One pass of the `while` loop, with what follows where the pass leaves it. -/
def pass (call : PollCall) (loop : PollLoop) (pass : Pass) : PollLoop :=
  if loop.ending.isSome then loop
  else if call.deadline - pass.head ≤ 0 then call.afterBreak loop
  else
    let polled := { loop with actions := loop.actions ++ [call.request pass] }
    match pass.outcome with
    | .error error =>
        if error.retryable then call.afterError polled error pass.afterFailure
        else { polled with ending := some (.raised error none) }
    | .ok poll =>
        match readPoll poll with
        | .error error =>
            { polled with consecutiveErrors := 0, ending := some (.raised error none) }
        | .ok (some result) =>
            { polled with consecutiveErrors := 0, ending := some (.returned result) }
        | .ok none => { polled with consecutiveErrors := 0 }

end PollCall

/-- The environment of one call. The `n`-th pass may look at the clock at its head
and once more after a failure; `clock.reading 0` is the time when the call begins. -/
structure PollWorld where
  clock : Clock
  random : Nat → Fin (2 ^ 53)
  outcome : Nat → Except Raised Dict
  kill : Except Raised Dict

namespace PollWorld

def pass (world : PollWorld) (number : Nat) : Pass where
  head := world.clock.reading (2 * number + 1)
  random := world.random number
  outcome := world.outcome number
  afterFailure := world.clock.reading (2 * number + 2)

def call (world : PollWorld) (sandboxId : String) (pid timeout : Int) : PollCall where
  sandboxId := sandboxId
  pid := pid
  timeout := timeout
  began := world.clock.reading 0
  kill := world.kill

/-- `_poll_pid_until_done` after `count` passes of its loop. -/
def pollPidUntilDone (world : PollWorld) (sandboxId : String) (pid timeout : Int)
    (count : Nat) : PollLoop :=
  trace (world.call sandboxId pid timeout).pass .start world.pass count

end PollWorld

/-! ## What an outcome means -/

inductive Raised.Final : Raised → Prop
  | closed (message : String) : Final (.clientClosed message)
  | terminal {error : SandboxError} (terminal : error.terminal = true) :
      Final (.sandbox error)
  | nonRetryable {message : String} {statusCode : Nat} {body : Dict}
      (listed : statusCode ∈ pollNonRetryableHttpStatus) :
      Final (.sandbox (.http message statusCode body))
  | other (typeName message : String) (isException : Bool) :
      Final (.other typeName message isException)

theorem Raised.final_iff {error : Raised} : error.Final ↔ error.retryable = false := by
  constructor
  · intro final
    cases final with
    | closed message => rfl
    | @terminal error terminal =>
        cases error with
        | plain message => cases terminal
        | http message statusCode body => simp [retryable, terminal]
    | nonRetryable listed => simp [retryable, listed]
    | other typeName message isException => rfl
  · intro given
    cases error with
    | clientClosed message => exact .closed message
    | sandbox error =>
        cases error with
        | plain message => cases given
        | http message statusCode body =>
            simp only [retryable, Bool.not_eq_false', Bool.or_eq_true,
              List.contains_iff_mem] at given
            exact given.elim .terminal .nonRetryable
    | request kind message => cases given
    | other typeName message isException => exact .other typeName message isException

/-- The poll was answered with a status at which the process is over, and `result`
is what the call makes of it. -/
def Reports (poll : Dict) (result : CommandResult) : Prop :=
  poll.get? "status" = some (.str "done") ∧ poll.get? "stdout" = some result.stdout ∧
      poll.get? "stderr" = some result.stderr ∧
      poll.get? "exit_code" = some result.exitCode ∨
    poll.get? "status" = some (.str "error") ∧
      result = ⟨.str "", (poll.get? "error").getD (.str "Unknown error"), .int (-1)⟩

def Missing (poll : Dict) (key : String) : Prop :=
  poll.get? "status" = none ∧ key = "status" ∨
    poll.get? "status" = some (.str "done") ∧
      ["stdout", "stderr", "exit_code"].find? (fun key => (poll.get? key).isNone) =
        some key

def Running (poll : Dict) : Prop :=
  ∃ status, poll.get? "status" = some status ∧ status ≠ .str "done" ∧
    status ≠ .str "error"

theorem equalsText_iff {value : Json} {text : String} :
    equalsText value text = true ↔ value = .str text := by
  cases value <;> simp [equalsText]

section ReadPoll

variable {poll : Dict}

theorem readPoll_of_done (done : poll.get? "status" = some (.str "done")) :
    readPoll poll = (do
      let stdout ← item poll "stdout"
      let stderr ← item poll "stderr"
      let exitCode ← item poll "exit_code"
      return some ⟨stdout, stderr, exitCode⟩) := by
  rw [readPoll, item, done]
  rfl

theorem readPoll_of_running (running : Running poll) : readPoll poll = .ok none := by
  rcases running with ⟨status, given, notDone, notError⟩
  rw [Ne, ← equalsText_iff] at notDone notError
  rw [readPoll, item, given]
  show (if equalsText status "done" then _ else
    if equalsText status "error" then _ else pure none) = _
  rw [if_neg notDone, if_neg notError]
  rfl

theorem readPoll_of_reports {result : CommandResult} (reports : Reports poll result) :
    readPoll poll = .ok (some result) := by
  rcases reports with ⟨done, stdout, stderr, exitCode⟩ | ⟨failed, rfl⟩
  · rw [readPoll_of_done done, item, stdout, item, stderr, item, exitCode]
    rfl
  · rw [readPoll, item, failed]
    rfl

theorem readPoll_of_missing {key : String} (missing : Missing poll key) :
    readPoll poll = .error (.keyError key) := by
  rcases missing with ⟨absent, rfl⟩ | ⟨done, first⟩
  · rw [readPoll, item, absent]
    rfl
  · rw [readPoll_of_done done]
    cases stdout : poll.get? "stdout" with
    | none =>
        obtain rfl : "stdout" = key := by simpa [stdout] using first
        rw [item, stdout]
        rfl
    | some output =>
        cases stderr : poll.get? "stderr" with
        | none =>
            obtain rfl : "stderr" = key := by simpa [stdout, stderr] using first
            rw [item, stdout, item, stderr]
            rfl
        | some errors =>
            cases exitCode : poll.get? "exit_code" with
            | none =>
                obtain rfl : "exit_code" = key := by
                  simpa [stdout, stderr, exitCode] using first
                rw [item, stdout, item, stderr, item, exitCode]
                rfl
            | some code => simp [stdout, stderr, exitCode] at first

theorem answer_cases (poll : Dict) :
    Running poll ∨ (∃ result, Reports poll result) ∨ ∃ key, Missing poll key := by
  cases given : poll.get? "status" with
  | none => exact .inr (.inr ⟨"status", .inl ⟨given, rfl⟩⟩)
  | some status =>
      by_cases done : status = .str "done"
      · rw [done] at given
        cases found : ["stdout", "stderr", "exit_code"].find?
            (fun key => (poll.get? key).isNone) with
        | some key => exact .inr (.inr ⟨key, .inr ⟨given, found⟩⟩)
        | none =>
            simp only [List.find?_eq_none, List.forall_mem_cons, Bool.not_eq_true,
              Option.isNone_eq_false_iff, Option.isSome_iff_exists] at found
            rcases found with ⟨⟨stdout, out⟩, ⟨stderr, err⟩, ⟨exitCode, code⟩, _⟩
            exact .inr (.inl ⟨⟨stdout, stderr, exitCode⟩, .inl ⟨given, out, err, code⟩⟩)
      · by_cases failed : status = .str "error"
        · rw [failed] at given
          exact .inr (.inl ⟨_, .inr ⟨given, rfl⟩⟩)
        · exact .inl ⟨status, given, done, failed⟩

theorem readPoll_eq_none_iff : readPoll poll = .ok none ↔ Running poll := by
  refine ⟨fun given => ?_, readPoll_of_running⟩
  rcases answer_cases poll with running | ⟨result, reports⟩ | ⟨key, missing⟩
  · exact running
  · cases given.symm.trans (readPoll_of_reports reports)
  · cases given.symm.trans (readPoll_of_missing missing)

theorem readPoll_eq_some_iff {result : CommandResult} :
    readPoll poll = .ok (some result) ↔ Reports poll result := by
  refine ⟨fun given => ?_, readPoll_of_reports⟩
  rcases answer_cases poll with running | ⟨result, reports⟩ | ⟨key, missing⟩
  · cases given.symm.trans (readPoll_of_running running)
  · cases given.symm.trans (readPoll_of_reports reports)
    exact reports
  · cases given.symm.trans (readPoll_of_missing missing)

theorem readPoll_eq_error_iff {error : Raised} :
    readPoll poll = .error error ↔ ∃ key, Missing poll key ∧ error = .keyError key := by
  constructor
  · intro given
    rcases answer_cases poll with running | ⟨result, reports⟩ | ⟨key, missing⟩
    · cases given.symm.trans (readPoll_of_running running)
    · cases given.symm.trans (readPoll_of_reports reports)
    · cases given.symm.trans (readPoll_of_missing missing)
      exact ⟨key, missing, rfl⟩
  · rintro ⟨key, missing, rfl⟩
    exact readPoll_of_missing missing

end ReadPoll

/-! ## What the call promises -/

/-- The call does not survive the outcome, and `error` leaves it. -/
def Escapes : Except Raised Dict → Raised → Prop
  | .error raised, error => raised.Final ∧ error = raised
  | .ok poll, error => ∃ key, Missing poll key ∧ error = .keyError key

namespace Action

def isPoll : Action → Bool
  | .poll .. => true
  | _ => false

def isKill : Action → Bool
  | .kill .. => true
  | _ => false

def Paced : Action → Prop
  | .poll _ _ waitTimeout timeout =>
      0 < waitTimeout ∧ waitTimeout ≤ seconds 13 ∧ 0 ≤ timeout ∧ timeout ≤ 13
  | .sleep delay => 0 < delay ∧ delay ≤ pollRetryDelay
  | .kill _ _ => True

end Action

namespace PollWorld

section Promise

variable (world : PollWorld) (timeout : Int)

def deadline : Int := world.clock.reading 0 + seconds timeout

def Fails (number : Nat) : Prop :=
  ∃ error, world.outcome number = .error error ∧ ¬error.Final

def FailsInTime (number : Nat) : Prop :=
  world.Fails number ∧ (world.pass number).afterFailure < world.deadline timeout

/-- This pass is the third in a row whose poll fails, and the deadline has not been
reached. -/
def Exhausts (number : Nat) : Prop :=
  2 ≤ number ∧ world.FailsInTime timeout (number - 2) ∧
    world.FailsInTime timeout (number - 1) ∧ world.FailsInTime timeout number

def Expires (number : Nat) : Prop :=
  world.deadline timeout ≤ (world.pass number).head ∨
    world.Fails number ∧ world.deadline timeout ≤ (world.pass number).afterFailure

def GoesOn (number : Nat) : Prop :=
  (world.pass number).head < world.deadline timeout ∧
    ((∃ poll, world.outcome number = .ok poll ∧ Running poll) ∨
      world.FailsInTime timeout number ∧ ¬world.Exhausts timeout number)

def Reaches (number : Nat) : Prop := ∀ before < number, world.GoesOn timeout before

def Sends (number : Nat) : Prop :=
  world.Reaches timeout number ∧
    (world.pass number).head < world.deadline timeout

/-- What `_poll_pid_until_done` has done after `count` passes. -/
structure Promised (sandboxId : String) (pid : Int) (count : Nat) (loop : PollLoop) :
    Prop where
  goesOn_iff : loop.ending = none ↔ world.Reaches timeout count
  polls : ∃ sent,
    loop.actions.filter Action.isPoll = (List.range sent).map (fun number =>
      (world.call sandboxId pid timeout).request (world.pass number)) ∧
    ∀ number, number < sent ↔ number < count ∧ world.Sends timeout number
  kills_le_one : loop.actions.countP Action.isKill ≤ 1
  kills_iff : .kill sandboxId pid ∈ loop.actions ↔
    ∃ number < count, world.Reaches timeout number ∧ world.Expires timeout number
  returns_iff : ∀ result, loop.ending = some (.returned result) ↔
    ∃ number < count,
      (world.Sends timeout number ∧
        ∃ poll, world.outcome number = .ok poll ∧ Reports poll result) ∨
      world.Reaches timeout number ∧ world.Expires timeout number ∧
        (∀ error, world.kill = .error error → error.isException = true) ∧
        result = (world.call sandboxId pid timeout).timedOut
  raises_iff : ∀ error cause, loop.ending = some (.raised error cause) ↔
    ∃ number < count,
      (world.Sends timeout number ∧ Escapes (world.outcome number) error ∧
        cause = none) ∨
      (world.Reaches timeout number ∧ world.Exhausts timeout number ∧
        ∃ last, world.outcome number = .error last ∧
          error = (world.call sandboxId pid timeout).exhausted 3 last ∧
          cause = some last) ∨
      world.Reaches timeout number ∧ world.Expires timeout number ∧
        world.kill = .error error ∧ error.isException = false ∧ cause = none
  stays : ∀ later, count ≤ later → loop.ending ≠ none →
    world.pollPidUntilDone sandboxId pid timeout later = loop

end Promise

/-! ## What a pass decides -/

variable {world : PollWorld} {sandboxId : String} {pid timeout : Int} {number : Nat}

theorem fails_iff :
    world.Fails number ↔
      ∃ error, world.outcome number = .error error ∧ error.retryable = true := by
  simp only [Fails, Raised.final_iff, Bool.not_eq_false]

instance : DecidablePred world.Fails := fun number =>
  match given : world.outcome number with
  | .error error => decidable_of_iff (error.retryable = true) (by simp [fails_iff, given])
  | .ok _ => .isFalse (by simp [fails_iff, given])

inductive Decision
  | expired
  | exhausted (last : Raised)
  | reported (result : CommandResult)
  | escaped (error : Raised)

def decision (world : PollWorld) (timeout : Int) (number : Nat) : Option Decision :=
  if world.deadline timeout ≤ (world.pass number).head then some .expired
  else
    match world.outcome number with
    | .error error =>
        if error.retryable = false then some (.escaped error)
        else if world.deadline timeout ≤ (world.pass number).afterFailure then
          some .expired
        else if 3 ≤ streak world.Fails (number + 1) then some (.exhausted error)
        else none
    | .ok poll =>
        match readPoll poll with
        | .error error => some (.escaped error)
        | .ok (some result) => some (.reported result)
        | .ok none => none

theorem head_le_afterFailure :
    (world.pass number).head ≤ (world.pass number).afterFailure :=
  world.clock.monotone (by omega)

theorem afterFailure_mono {earlier later : Nat} (ordered : earlier ≤ later) :
    (world.pass earlier).afterFailure ≤ (world.pass later).afterFailure :=
  world.clock.monotone (by omega)

theorem exhausts_iff :
    world.Exhausts timeout number ↔
      3 ≤ streak world.Fails (number + 1) ∧
        (world.pass number).afterFailure < world.deadline timeout := by
  rw [le_streak_iff]
  constructor
  · rintro ⟨enough, first, second, third⟩
    refine ⟨⟨by omega, fun back less => ?_⟩, third.2⟩
    interval_cases back
    · exact third.1
    · exact second.1
    · exact first.1
  · rintro ⟨⟨enough, failed⟩, inTime⟩
    have earlier {before : Nat} (ordered : before ≤ number) :
        (world.pass before).afterFailure < world.deadline timeout :=
      (afterFailure_mono ordered).trans_lt inTime
    exact ⟨by omega, ⟨failed 2 (by omega), earlier (by omega)⟩,
      ⟨failed 1 (by omega), earlier (by omega)⟩, failed 0 (by omega), inTime⟩

def Decides (world : PollWorld) (timeout : Int) (number : Nat) : Option Decision → Prop
  | none => world.GoesOn timeout number
  | some .expired => world.Expires timeout number
  | some (.exhausted last) =>
      world.Exhausts timeout number ∧ world.outcome number = .error last
  | some (.reported result) =>
      (world.pass number).head < world.deadline timeout ∧
        ∃ poll, world.outcome number = .ok poll ∧ Reports poll result
  | some (.escaped error) =>
      (world.pass number).head < world.deadline timeout ∧
        Escapes (world.outcome number) error

theorem decision_of_late (late : world.deadline timeout ≤ (world.pass number).head) :
    world.decision timeout number = some .expired := if_pos late

theorem decision_of_answer {poll : Dict}
    (early : (world.pass number).head < world.deadline timeout)
    (answered : world.outcome number = .ok poll) :
    world.decision timeout number =
      match readPoll poll with
      | .error error => some (.escaped error)
      | .ok (some result) => some (.reported result)
      | .ok none => none := by
  rw [decision, if_neg early.not_ge, answered]

theorem decision_of_final {error : Raised}
    (early : (world.pass number).head < world.deadline timeout)
    (raised : world.outcome number = .error error) (final : error.Final) :
    world.decision timeout number = some (.escaped error) := by
  rw [decision, if_neg early.not_ge, raised]
  exact if_pos (Raised.final_iff.mp final)

theorem decision_of_failure {error : Raised}
    (early : (world.pass number).head < world.deadline timeout)
    (raised : world.outcome number = .error error) (retryable : ¬error.Final) :
    world.decision timeout number =
      if world.deadline timeout ≤ (world.pass number).afterFailure then some .expired
      else if 3 ≤ streak world.Fails (number + 1) then some (.exhausted error)
      else none := by
  rw [decision, if_neg early.not_ge, raised]
  exact if_neg (Raised.final_iff.not.mp retryable)

theorem decides_decision (world : PollWorld) (timeout : Int) (number : Nat) :
    world.Decides timeout number (world.decision timeout number) := by
  by_cases early : (world.pass number).head < world.deadline timeout
  · cases outcome : world.outcome number with
    | ok poll =>
        rw [decision_of_answer early outcome]
        cases read : readPoll poll with
        | error error =>
            refine ⟨early, ?_⟩
            rw [outcome]
            exact readPoll_eq_error_iff.mp read
        | ok answer =>
            cases answer with
            | none => exact ⟨early, .inl ⟨poll, outcome, readPoll_eq_none_iff.mp read⟩⟩
            | some result => exact ⟨early, poll, outcome, readPoll_eq_some_iff.mp read⟩
    | error error =>
        by_cases final : error.Final
        · rw [decision_of_final early outcome final]
          refine ⟨early, ?_⟩
          rw [outcome]
          exact ⟨final, rfl⟩
        · have fails : world.Fails number := ⟨error, outcome, final⟩
          rw [decision_of_failure early outcome final]
          by_cases late : world.deadline timeout ≤ (world.pass number).afterFailure
          · rw [if_pos late]
            exact .inr ⟨fails, late⟩
          · have inTime := not_le.mp late
            rw [if_neg late]
            by_cases third : 3 ≤ streak world.Fails (number + 1)
            · rw [if_pos third]
              exact ⟨exhausts_iff.mpr ⟨third, inTime⟩, outcome⟩
            · rw [if_neg third]
              exact ⟨early, .inr ⟨⟨fails, inTime⟩,
                fun exhausts => third (exhausts_iff.mp exhausts).1⟩⟩
  · rw [decision_of_late (not_lt.mp early)]
    exact .inl (not_lt.mp early)

theorem decision_of_decides {decided : Option Decision}
    (decides : world.Decides timeout number decided) :
    world.decision timeout number = decided := by
  match decided, decides with
  | none, ⟨early, .inl ⟨poll, answered, running⟩⟩ =>
      rw [decision_of_answer early answered, readPoll_of_running running]
  | none, ⟨early, .inr ⟨⟨⟨error, raised, retryable⟩, inTime⟩, notThird⟩⟩ =>
      rw [decision_of_failure early raised retryable, if_neg inTime.not_ge]
      exact if_neg fun third => notThird (exhausts_iff.mpr ⟨third, inTime⟩)
  | some .expired, .inl late => exact decision_of_late late
  | some .expired, .inr ⟨⟨error, raised, retryable⟩, late⟩ =>
      by_cases early : (world.pass number).head < world.deadline timeout
      · rw [decision_of_failure early raised retryable, if_pos late]
      · exact decision_of_late (not_lt.mp early)
  | some (.exhausted last), ⟨exhausts, raised⟩ =>
      have ⟨third, inTime⟩ := exhausts_iff.mp exhausts
      have ⟨error, raisedToo, retryable⟩ := exhausts.2.2.2.1
      cases raised.symm.trans raisedToo
      rw [decision_of_failure (head_le_afterFailure.trans_lt inTime) raised retryable,
        if_neg inTime.not_ge, if_pos third]
  | some (.reported result), ⟨early, poll, answered, reports⟩ =>
      rw [decision_of_answer early answered, readPoll_of_reports reports]
  | some (.escaped error), ⟨early, escapes⟩ =>
      cases outcome : world.outcome number with
      | error raised =>
          rw [outcome] at escapes
          rcases escapes with ⟨final, rfl⟩
          exact decision_of_final early outcome final
      | ok poll =>
          rw [outcome] at escapes
          rw [decision_of_answer early outcome, readPoll_eq_error_iff.mpr escapes]

theorem decision_eq_iff {decided : Option Decision} :
    world.decision timeout number = decided ↔ world.Decides timeout number decided := by
  constructor
  · rintro rfl
    exact decides_decision world timeout number
  · exact decision_of_decides

/-! ## Runs of the loop -/

def pause (world : PollWorld) (timeout : Int) (number : Nat) : List Action :=
  if world.Fails number then
    [.sleep (min pollRetryDelay
      (world.deadline timeout - (world.pass number).afterFailure))]
  else []

def Decision.cleanup (sandboxId : String) (pid : Int) : Decision → List Action
  | .expired => [.kill sandboxId pid]
  | _ => []

section Runs

variable (world : PollWorld) (sandboxId : String) (pid timeout : Int)

def request (number : Nat) : Action :=
  (world.call sandboxId pid timeout).request (world.pass number)

/-- What the first `count` passes do if each is followed by another. -/
def actionsBefore (count : Nat) : List Action :=
  (List.range count).flatMap fun number =>
    world.request sandboxId pid timeout number :: world.pause timeout number

def lastActions (number : Nat) (decided : Decision) : List Action :=
  (if (world.pass number).head < world.deadline timeout then
    [world.request sandboxId pid timeout number] else []) ++ decided.cleanup sandboxId pid

def endingOf : Decision → Ending
  | .expired =>
      match world.kill with
      | .ok _ => .returned (world.call sandboxId pid timeout).timedOut
      | .error error =>
          if error.isException then .returned (world.call sandboxId pid timeout).timedOut
          else .raised error none
  | .exhausted last =>
      .raised ((world.call sandboxId pid timeout).exhausted 3 last) (some last)
  | .reported result => .returned result
  | .escaped error => .raised error none

structure Ongoing (count : Nat) (loop : PollLoop) : Prop where
  consecutiveErrors : loop.consecutiveErrors = streak world.Fails count
  few : streak world.Fails count < 3
  actions : loop.actions = world.actionsBefore sandboxId pid timeout count
  ending : loop.ending = none

structure Ended (number : Nat) (decided : Decision) (loop : PollLoop) : Prop where
  actions : loop.actions = world.actionsBefore sandboxId pid timeout number ++
    world.lastActions sandboxId pid timeout number decided
  ending : loop.ending = some (world.endingOf sandboxId pid timeout decided)

end Runs

theorem actionsBefore_succ (count : Nat) :
    world.actionsBefore sandboxId pid timeout (count + 1) =
      world.actionsBefore sandboxId pid timeout count ++
        (world.request sandboxId pid timeout count :: world.pause timeout count) := by
  simp [actionsBefore, List.range_succ]

theorem afterBreak_ending (loop : PollLoop) :
    ((world.call sandboxId pid timeout).afterBreak loop).ending =
      some (world.endingOf sandboxId pid timeout .expired) := by
  show (match world.kill with | .ok _ => _ | .error _ => _) = _
  unfold endingOf
  cases world.kill with
  | ok answer => rfl
  | error error => exact (apply_ite some _ _ _).symm

def polled (world : PollWorld) (sandboxId : String) (pid timeout : Int) (count : Nat)
    (loop : PollLoop) : PollLoop :=
  { loop with actions := loop.actions ++ [world.request sandboxId pid timeout count] }

section Steps

variable {count : Nat} {loop : PollLoop}

theorem Ongoing.not_isSome (ongoing : world.Ongoing sandboxId pid timeout count loop) :
    ¬loop.ending.isSome = true := by
  rw [ongoing.ending]
  exact Bool.false_ne_true

theorem pass_of_late (ongoing : world.Ongoing sandboxId pid timeout count loop)
    (late : world.deadline timeout ≤ (world.pass count).head) :
    (world.call sandboxId pid timeout).pass loop (world.pass count) =
      (world.call sandboxId pid timeout).afterBreak loop := by
  rw [PollCall.pass, if_neg ongoing.not_isSome]
  exact if_pos (Int.sub_nonpos_of_le late)

theorem pass_of_early (ongoing : world.Ongoing sandboxId pid timeout count loop)
    (early : (world.pass count).head < world.deadline timeout) :
    (world.call sandboxId pid timeout).pass loop (world.pass count) =
      let polled := world.polled sandboxId pid timeout count loop
      match world.outcome count with
      | .error error =>
          if error.retryable then
            (world.call sandboxId pid timeout).afterError polled error
              (world.pass count).afterFailure
          else { polled with ending := some (.raised error none) }
      | .ok poll =>
          match readPoll poll with
          | .error error =>
              { polled with consecutiveErrors := 0, ending := some (.raised error none) }
          | .ok (some result) =>
              { polled with consecutiveErrors := 0, ending := some (.returned result) }
          | .ok none => { polled with consecutiveErrors := 0 } := by
  rw [PollCall.pass, if_neg ongoing.not_isSome]
  exact if_neg (Int.sub_pos_of_lt early).not_ge

theorem pass_of_failure {error : Raised}
    (ongoing : world.Ongoing sandboxId pid timeout count loop)
    (early : (world.pass count).head < world.deadline timeout)
    (raised : world.outcome count = .error error) (retryable : ¬error.Final) :
    (world.call sandboxId pid timeout).pass loop (world.pass count) =
      (world.call sandboxId pid timeout).afterError
        (world.polled sandboxId pid timeout count loop) error
        (world.pass count).afterFailure := by
  rw [pass_of_early ongoing early, raised]
  exact if_pos (Bool.not_eq_false _ ▸ Raised.final_iff.not.mp retryable)

theorem afterError_of_late {error : Raised} {now : Int}
    (late : world.deadline timeout ≤ now) :
    (world.call sandboxId pid timeout).afterError loop error now =
      (world.call sandboxId pid timeout).afterBreak
        { loop with consecutiveErrors := loop.consecutiveErrors + 1 } :=
  if_pos (min_le_of_right_le (Int.sub_nonpos_of_le late))

theorem afterError_of_early {error : Raised} {now : Int}
    (early : now < world.deadline timeout) :
    (world.call sandboxId pid timeout).afterError loop error now =
      if 3 ≤ loop.consecutiveErrors + 1 then
        { loop with
          consecutiveErrors := loop.consecutiveErrors + 1
          ending := some (.raised ((world.call sandboxId pid timeout).exhausted
            (loop.consecutiveErrors + 1) error) (some error)) }
      else
        { loop with
          consecutiveErrors := loop.consecutiveErrors + 1
          actions := loop.actions ++
            [.sleep (min pollRetryDelay (world.deadline timeout - now))] } :=
  if_neg (lt_min (by decide) (Int.sub_pos_of_lt early)).not_ge

theorem streak_of_fails (fails : world.Fails count) :
    streak world.Fails (count + 1) = streak world.Fails count + 1 := if_pos fails

theorem pass_ongoing (ongoing : world.Ongoing sandboxId pid timeout count loop)
    (goesOn : world.GoesOn timeout count) :
    world.Ongoing sandboxId pid timeout (count + 1)
      ((world.call sandboxId pid timeout).pass loop (world.pass count)) := by
  rcases goesOn with ⟨early, ⟨poll, answered, running⟩ | ⟨⟨fails, inTime⟩, notThird⟩⟩
  · have notFails : ¬world.Fails count := by simp [Fails, answered]
    have none : streak world.Fails (count + 1) = 0 := if_neg notFails
    rw [pass_of_early ongoing early, answered]
    simp only [readPoll_of_running running]
    constructor
    · exact none.symm
    · rw [none]
      decide
    · rw [actionsBefore_succ, pause, if_neg notFails, ← ongoing.actions]
      rfl
    · exact ongoing.ending
  · have few : streak world.Fails (count + 1) < 3 :=
      not_le.mp fun third => notThird (exhausts_iff.mpr ⟨third, inTime⟩)
    rcases fails with ⟨error, raised, retryable⟩
    have fails : world.Fails count := ⟨error, raised, retryable⟩
    rw [pass_of_failure ongoing early raised retryable, afterError_of_early inTime]
    have counted : (world.polled sandboxId pid timeout count loop).consecutiveErrors + 1 =
        streak world.Fails (count + 1) := by
      rw [streak_of_fails fails, ← ongoing.consecutiveErrors]
      rfl
    rw [counted, if_neg few.not_ge]
    constructor
    · rfl
    · exact few
    · rw [actionsBefore_succ, pause, if_pos fails, ← ongoing.actions]
      exact List.append_assoc _ _ _
    · exact ongoing.ending

theorem pass_ended {decided : Decision}
    (ongoing : world.Ongoing sandboxId pid timeout count loop)
    (decides : world.Decides timeout count (some decided)) :
    world.Ended sandboxId pid timeout count decided
      ((world.call sandboxId pid timeout).pass loop (world.pass count)) := by
  have polled : (world.polled sandboxId pid timeout count loop).actions =
      world.actionsBefore sandboxId pid timeout count ++
        [world.request sandboxId pid timeout count] := by
    rw [← ongoing.actions]
    rfl
  have once (early : (world.pass count).head < world.deadline timeout) :
      world.lastActions sandboxId pid timeout count decided =
        world.request sandboxId pid timeout count :: decided.cleanup sandboxId pid := by
    rw [lastActions, if_pos early]
    rfl
  match decided, decides with
  | .expired, expires =>
      by_cases early : (world.pass count).head < world.deadline timeout
      · rcases expires with late | ⟨⟨error, raised, retryable⟩, late⟩
        · exact absurd late early.not_ge
        · rw [pass_of_failure ongoing early raised retryable, afterError_of_late late]
          refine ⟨?_, afterBreak_ending _⟩
          show (world.polled sandboxId pid timeout count loop).actions ++ _ = _
          rw [polled, once early, List.append_assoc]
          rfl
      · rw [pass_of_late ongoing (not_lt.mp early)]
        refine ⟨?_, afterBreak_ending loop⟩
        rw [lastActions, if_neg early, ← ongoing.actions]
        rfl
  | .exhausted last, ⟨exhausts, raised⟩ =>
      have ⟨third, inTime⟩ := exhausts_iff.mp exhausts
      have ⟨error, raisedToo, retryable⟩ := exhausts.2.2.2.1
      cases raised.symm.trans raisedToo
      have early := head_le_afterFailure.trans_lt inTime
      -- the failures before this one were two, or the call would not have come so far
      have counted :
          (world.polled sandboxId pid timeout count loop).consecutiveErrors + 1 = 3 := by
        show loop.consecutiveErrors + 1 = 3
        rw [streak_of_fails ⟨last, raised, retryable⟩] at third
        have few := ongoing.few
        rw [ongoing.consecutiveErrors]
        omega
      rw [pass_of_failure ongoing early raised retryable, afterError_of_early inTime]
      rw [counted, if_pos le_rfl]
      exact ⟨polled.trans (congrArg _ (once early).symm), rfl⟩
  | .reported result, ⟨early, poll, answered, reports⟩ =>
      rw [pass_of_early ongoing early, answered]
      simp only [readPoll_of_reports reports]
      exact ⟨polled.trans (congrArg _ (once early).symm), rfl⟩
  | .escaped error, ⟨early, escapes⟩ =>
      rw [pass_of_early ongoing early]
      cases outcome : world.outcome count with
      | error raised =>
          rw [outcome] at escapes
          rcases escapes with ⟨final, rfl⟩
          simp only [Raised.final_iff.mp final]
          exact ⟨polled.trans (congrArg _ (once early).symm), rfl⟩
      | ok poll =>
          rw [outcome] at escapes
          simp only [readPoll_eq_error_iff.mpr escapes]
          exact ⟨polled.trans (congrArg _ (once early).symm), rfl⟩

end Steps

theorem pass_of_ended {first : Nat} {decided : Decision} {loop : PollLoop}
    (ended : world.Ended sandboxId pid timeout first decided loop) (call : PollCall)
    (pass : Pass) : call.pass loop pass = loop :=
  if_pos (by rw [ended.ending]; rfl)

theorem reaches_iff :
    world.Reaches timeout number ↔
      ∀ before < number, world.decision timeout before = none := by
  simp only [Reaches, decision_eq_iff, Decides]

/-- The pass `first` is the one that ends the call. -/
structure Last (world : PollWorld) (timeout : Int) (first : Nat) (decided : Decision) :
    Prop where
  reaches : world.Reaches timeout first
  decides : world.Decides timeout first (some decided)

theorem Last.unique {first other : Nat} {decided otherDecided : Decision}
    (last : world.Last timeout first decided)
    (otherLast : world.Last timeout other otherDecided) :
    first = other ∧ decided = otherDecided := by
  have given := decision_of_decides last.decides
  have otherGiven := decision_of_decides otherLast.decides
  rcases lt_trichotomy first other with less | rfl | more
  · rw [reaches_iff.mp otherLast.reaches first less] at given
    cases given
  · exact ⟨rfl, Option.some.inj (given.symm.trans otherGiven)⟩
  · rw [reaches_iff.mp last.reaches other more] at otherGiven
    cases otherGiven

theorem run_cases (world : PollWorld) (sandboxId : String) (pid timeout : Int)
    (count : Nat) :
    world.Reaches timeout count ∧
        world.Ongoing sandboxId pid timeout count
          (world.pollPidUntilDone sandboxId pid timeout count) ∨
      ∃ first < count, ∃ decided, world.Last timeout first decided ∧
        world.Ended sandboxId pid timeout first decided
          (world.pollPidUntilDone sandboxId pid timeout count) := by
  have begins : world.Ongoing sandboxId pid timeout 0 .start :=
    ⟨rfl, Nat.zero_lt_succ 2, rfl, rfl⟩
  have run := trace_decided (world.decision timeout) (world.Ongoing sandboxId pid timeout)
    (world.Ended sandboxId pid timeout) begins
    (fun _ _ ongoing given => pass_ongoing ongoing (decision_eq_iff.mp given))
    (fun _ _ _ ongoing given => pass_ended ongoing (decision_eq_iff.mp given))
    (fun _ _ _ input ended => pass_of_ended ended _ input) count
  rcases run with ⟨undecided, ongoing⟩ | ⟨first, less, decided, before, given, ended⟩
  · exact .inl ⟨reaches_iff.mpr undecided, ongoing⟩
  · exact .inr ⟨first, less, decided,
      ⟨reaches_iff.mpr before, decision_eq_iff.mp given⟩, ended⟩

theorem Reaches.mono {earlier later : Nat} (reaches : world.Reaches timeout later)
    (ordered : earlier ≤ later) : world.Reaches timeout earlier :=
  fun before less => reaches before (less.trans_le ordered)

theorem Reaches.sends {earlier later : Nat} (reaches : world.Reaches timeout later)
    (less : earlier < later) : world.Sends timeout earlier :=
  ⟨reaches.mono less.le, (reaches earlier less).1⟩

theorem Last.le_of_reaches {first : Nat} {decided : Decision}
    (last : world.Last timeout first decided) (reaches : world.Reaches timeout number) :
    number ≤ first := by
  by_contra more
  have undecided := reaches_iff.mp reaches first (not_le.mp more)
  cases undecided.symm.trans (decision_of_decides last.decides)

theorem actionsBefore_polls (count : Nat) :
    (world.actionsBefore sandboxId pid timeout count).filter Action.isPoll =
      (List.range count).map (world.request sandboxId pid timeout) := by
  induction count with
  | zero => rfl
  | succ count induction =>
      have pauses : (world.pause timeout count).filter Action.isPoll = [] := by
        unfold pause
        split <;> rfl
      rw [actionsBefore_succ, List.filter_append, induction, List.range_succ,
        List.map_append, List.filter_cons_of_pos rfl, pauses]
      rfl

theorem actionsBefore_kills (count : Nat) :
    (world.actionsBefore sandboxId pid timeout count).countP Action.isKill = 0 := by
  induction count with
  | zero => rfl
  | succ count induction =>
      have pauses : (world.pause timeout count).countP Action.isKill = 0 := by
        unfold pause
        split <;> rfl
      rw [actionsBefore_succ, List.countP_append, induction,
        List.countP_cons_of_neg Bool.false_ne_true, pauses]

theorem lastActions_kills (first : Nat) (decided : Decision) :
    (world.lastActions sandboxId pid timeout first decided).countP Action.isKill =
      (decided.cleanup sandboxId pid).countP Action.isKill := by
  unfold lastActions
  split <;> simp [request, PollCall.request, Action.isKill]

theorem ending_eq_some_iff {count : Nat} {ending : Ending} :
    (world.pollPidUntilDone sandboxId pid timeout count).ending = some ending ↔
      ∃ first < count, ∃ decided, world.Last timeout first decided ∧
        world.endingOf sandboxId pid timeout decided = ending := by
  rcases run_cases world sandboxId pid timeout count with
    ⟨reaches, ongoing⟩ | ⟨first, less, decided, last, ended⟩
  · rw [ongoing.ending]
    constructor
    · nofun
    · rintro ⟨first, less, decided, last, _⟩
      exact absurd (last.le_of_reaches reaches) less.not_ge
  · rw [ended.ending, Option.some_inj]
    constructor
    · exact fun same => ⟨first, less, decided, last, same⟩
    · rintro ⟨other, _, otherDecided, otherLast, same⟩
      rw [(last.unique otherLast).2, same]

theorem ending_eq_none_iff {count : Nat} :
    (world.pollPidUntilDone sandboxId pid timeout count).ending = none ↔
      world.Reaches timeout count := by
  rcases run_cases world sandboxId pid timeout count with
    ⟨reaches, ongoing⟩ | ⟨first, less, decided, last, ended⟩
  · exact iff_of_true ongoing.ending reaches
  · rw [ended.ending]
    exact iff_of_false nofun fun reaches =>
      less.not_ge (last.le_of_reaches reaches)

theorem polls_sent (world : PollWorld) (sandboxId : String) (pid timeout : Int)
    (count : Nat) :
    ∃ sent,
      (world.pollPidUntilDone sandboxId pid timeout count).actions.filter Action.isPoll =
        (List.range sent).map (world.request sandboxId pid timeout) ∧
      ∀ number, number < sent ↔ number < count ∧ world.Sends timeout number := by
  rcases run_cases world sandboxId pid timeout count with
    ⟨reaches, ongoing⟩ | ⟨first, less, decided, last, ended⟩
  · rw [ongoing.actions, actionsBefore_polls]
    exact ⟨count, rfl, fun number => ⟨fun sent => ⟨sent, reaches.sends sent⟩, And.left⟩⟩
  · have cleans : (decided.cleanup sandboxId pid).filter Action.isPoll = [] := by
      cases decided <;> rfl
    rw [ended.actions, List.filter_append, actionsBefore_polls, lastActions,
      List.filter_append, cleans, List.append_nil]
    by_cases early : (world.pass first).head < world.deadline timeout
    · refine ⟨first + 1, ?_, fun number => ⟨fun sent => ?_, fun sends => ?_⟩⟩
      · rw [if_pos early, List.range_succ, List.map_append]
        rfl
      · have ordered := Nat.lt_succ_iff.mp sent
        refine ⟨by omega, last.reaches.mono ordered, ?_⟩
        rcases Nat.lt_or_eq_of_le ordered with before | rfl
        · exact (last.reaches number before).1
        · exact early
      · exact Nat.lt_succ_of_le (last.le_of_reaches sends.2.1)
    · refine ⟨first, ?_, fun number => ⟨fun sent => ?_, fun sends => ?_⟩⟩
      · rw [if_neg early]
        exact List.append_nil _
      · exact ⟨sent.trans less, last.reaches.sends sent⟩
      · have ordered := last.le_of_reaches sends.2.1
        refine lt_of_le_of_ne ordered ?_
        rintro rfl
        exact early sends.2.2

theorem not_mem_actionsBefore (count : Nat) :
    Action.kill sandboxId pid ∉ world.actionsBefore sandboxId pid timeout count :=
  fun member => List.countP_eq_zero.mp (actionsBefore_kills count) _ member rfl

theorem mem_lastActions_iff {first : Nat} {decided : Decision} :
    Action.kill sandboxId pid ∈ world.lastActions sandboxId pid timeout first decided ↔
      decided = .expired := by
  unfold lastActions
  cases decided <;> split <;> simp [Decision.cleanup, request, PollCall.request]

theorem kills_at_most_once (world : PollWorld) (sandboxId : String) (pid timeout : Int)
    (count : Nat) :
    (world.pollPidUntilDone sandboxId pid timeout count).actions.countP
      Action.isKill ≤ 1 := by
  rcases run_cases world sandboxId pid timeout count with
    ⟨_, ongoing⟩ | ⟨first, _, decided, _, ended⟩
  · rw [ongoing.actions, actionsBefore_kills]
    exact zero_le_one
  · rw [ended.actions, List.countP_append, actionsBefore_kills, zero_add,
      lastActions_kills]
    exact List.countP_le_length.trans (by cases decided <;> simp [Decision.cleanup])

theorem kill_mem_iff {count : Nat} :
    .kill sandboxId pid ∈ (world.pollPidUntilDone sandboxId pid timeout count).actions ↔
      ∃ first < count, world.Last timeout first .expired := by
  rcases run_cases world sandboxId pid timeout count with
    ⟨reaches, ongoing⟩ | ⟨first, less, decided, last, ended⟩
  · rw [ongoing.actions]
    refine iff_of_false (not_mem_actionsBefore count) ?_
    rintro ⟨first, less, last⟩
    exact less.not_ge (last.le_of_reaches reaches)
  · rw [ended.actions, List.mem_append, or_iff_right (not_mem_actionsBefore first),
      mem_lastActions_iff]
    constructor
    · rintro rfl
      exact ⟨first, less, last⟩
    · rintro ⟨other, _, otherLast⟩
      exact (last.unique otherLast).2

theorem stays_ended {count later : Nat} (ordered : count ≤ later)
    (ended : (world.pollPidUntilDone sandboxId pid timeout count).ending ≠ none) :
    world.pollPidUntilDone sandboxId pid timeout later =
      world.pollPidUntilDone sandboxId pid timeout count := by
  have kept (loop : PollLoop) (pass : Pass)
      (same : loop = world.pollPidUntilDone sandboxId pid timeout count) :
      (world.call sandboxId pid timeout).pass loop pass =
        world.pollPidUntilDone sandboxId pid timeout count := by
    subst same
    exact if_pos (Option.isSome_iff_ne_none.mpr ended)
  exact trace_persists (fun loop => loop = _) kept rfl ordered

theorem endingOf_of_caught
    (caught : ∀ error, world.kill = .error error → error.isException = true) :
    world.endingOf sandboxId pid timeout .expired =
      .returned (world.call sandboxId pid timeout).timedOut := by
  unfold endingOf
  cases killed : world.kill with
  | ok answer => rfl
  | error error => exact if_pos (caught error killed)

theorem endingOf_of_uncaught {error : Raised} (killed : world.kill = .error error)
    (uncaught : error.isException = false) :
    world.endingOf sandboxId pid timeout .expired = .raised error none := by
  unfold endingOf
  rw [killed]
  exact if_neg (Bool.eq_false_iff.mp uncaught)

theorem caught_or_uncaught (world : PollWorld) :
    (∀ error, world.kill = .error error → error.isException = true) ∨
      ∃ error, world.kill = .error error ∧ error.isException = false := by
  by_contra neither
  simp only [not_or, not_forall, not_exists, not_and, Bool.not_eq_false] at neither
  rcases neither with ⟨⟨error, killed, uncaught⟩, caught⟩
  exact uncaught (caught error killed)

theorem endingOf_expired_eq_returned_iff {result : CommandResult} :
    world.endingOf sandboxId pid timeout .expired = .returned result ↔
      (∀ error, world.kill = .error error → error.isException = true) ∧
        result = (world.call sandboxId pid timeout).timedOut := by
  rcases caught_or_uncaught world with caught | ⟨error, killed, uncaught⟩
  · rw [endingOf_of_caught caught, Ending.returned.injEq, eq_comm, and_iff_right caught]
  · rw [endingOf_of_uncaught killed uncaught]
    exact iff_of_false nofun fun both =>
      Bool.false_ne_true (uncaught.symm.trans (both.1 error killed))

theorem endingOf_expired_eq_raised_iff {error : Raised} {cause : Option Raised} :
    world.endingOf sandboxId pid timeout .expired = .raised error cause ↔
      world.kill = .error error ∧ error.isException = false ∧ cause = none := by
  rcases caught_or_uncaught world with caught | ⟨raised, killed, uncaught⟩
  · rw [endingOf_of_caught caught]
    exact iff_of_false nofun fun all =>
      Bool.false_ne_true (all.2.1.symm.trans (caught error all.1))
  · rw [endingOf_of_uncaught killed uncaught, killed]
    constructor
    · rintro ⟨⟩
      exact ⟨rfl, uncaught, rfl⟩
    · rintro ⟨⟨⟩, _, rfl⟩
      rfl

theorem ends_at_deadline
    (reached : world.deadline timeout ≤ (world.pass number).head) :
    (world.pollPidUntilDone sandboxId pid timeout (number + 1)).ending ≠ none :=
  ending_eq_none_iff.not.mpr fun reaches =>
    reached.not_gt (reaches number number.lt_succ_self).1

theorem jittered_bounds (random : Fin (2 ^ 53)) :
    seconds 7 ≤ jittered random ∧ jittered random ≤ seconds 13 := by
  have drawn := random.isLt
  unfold jittered pollInterval seconds
  omega

theorem request_paced (early : (world.pass number).head < world.deadline timeout) :
    (world.request sandboxId pid timeout number).Paced := by
  have bounds := jittered_bounds (world.pass number).random
  have left : 0 < (world.call sandboxId pid timeout).deadline - (world.pass number).head :=
    Int.sub_pos_of_lt early
  unfold seconds at bounds
  simp only [request, PollCall.request, Action.Paced, seconds]
  omega

theorem pause_paced (goesOn : world.GoesOn timeout number) :
    ∀ action ∈ world.pause timeout number, action.Paced := by
  unfold pause
  split
  case isFalse => nofun
  case isTrue fails =>
    rcases fails with ⟨error, raised, retryable⟩
    rcases goesOn.2 with ⟨poll, answered, _⟩ | ⟨⟨_, inTime⟩, _⟩
    · cases raised.symm.trans answered
    · intro action member
      rw [List.mem_singleton.mp member]
      exact ⟨lt_min (by decide) (Int.sub_pos_of_lt inTime), min_le_left _ _⟩

theorem actionsBefore_paced {count : Nat} (reaches : world.Reaches timeout count) :
    ∀ action ∈ world.actionsBefore sandboxId pid timeout count, action.Paced := by
  intro action member
  rcases List.mem_flatMap.mp member with ⟨number, ranged, member⟩
  have goesOn := reaches number (List.mem_range.mp ranged)
  rcases List.mem_cons.mp member with rfl | member
  · exact request_paced goesOn.1
  · exact pause_paced goesOn action member

theorem actions_paced (world : PollWorld) (sandboxId : String) (pid timeout : Int)
    (count : Nat) :
    ∀ action ∈ (world.pollPidUntilDone sandboxId pid timeout count).actions,
      action.Paced := by
  rcases run_cases world sandboxId pid timeout count with
    ⟨reaches, ongoing⟩ | ⟨first, _, decided, last, ended⟩
  · rw [ongoing.actions]
    exact actionsBefore_paced reaches
  · intro action member
    rw [ended.actions, List.mem_append, lastActions, List.mem_append] at member
    rcases member with before | polled | cleaned
    · exact actionsBefore_paced last.reaches action before
    · split at polled
      case isFalse => cases polled
      case isTrue early =>
        rw [List.mem_singleton.mp polled]
        exact request_paced early
    · cases decided with
      | expired =>
          rw [List.mem_singleton.mp cleaned]
          trivial
      | exhausted _ | reported _ | escaped _ => cases cleaned

end PollWorld

end YrSandbox.Commands
