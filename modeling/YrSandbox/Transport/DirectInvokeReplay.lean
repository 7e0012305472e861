import YrSandbox.Transport.DirectInvoke

/-! # The fallback after direct attempts

When `invoke` sends an action through the frontend, and whether a direct attempt
may have executed it by then. -/

namespace YrSandbox.Transport

open Python

/-! ## Which outcomes are known not to have executed the action -/

/-- `SandboxHTTPError.terminal` of the error built from a response. -/
def Response.terminal (response : Response) : Bool :=
  (SandboxError.fromResponse response "").terminal

@[simp] theorem fromResponse_terminal (response : Response) (message : String) :
    (SandboxError.fromResponse response message).terminal = response.terminal := rfl

namespace DirectOutcome

def SafeFailure : DirectOutcome → Prop
  | .raised kind _ => kind ∈ directSafeFallbackErrors
  | .responded _ => False

def RouteMiss : DirectOutcome → Prop
  | .raised _ _ => False
  | .responded response => response.statusCode = 404 ∧ response.terminal = false

def KnownNotExecuted (outcome : DirectOutcome) : Prop :=
  outcome.SafeFailure ∨ outcome.RouteMiss

def Unknown : DirectOutcome → Prop
  | .raised kind _ => kind ∈ directUnknownOutcomeErrors
  | .responded response =>
      response.statusCode ∈ retryableGatewayStatusCodes ∨
        (response.statusCode < 400 ∧ ∃ message, response.json = .error message)

def Retried : DirectOutcome → Prop
  | .raised kind _ =>
      kind ∈ directSafeFallbackErrors ∨ kind ∈ directUnknownOutcomeErrors
  | .responded response =>
      (response.statusCode ∈ retryableGatewayStatusCodes ∧ response.terminal = false) ∨
        (response.statusCode < 400 ∧ ∃ message, response.json = .error message)

theorem Retried.safe_or_unknown {outcome : DirectOutcome} (retried : outcome.Retried) :
    outcome.SafeFailure ∨ outcome.Unknown := by
  cases outcome with
  | raised kind message => exact retried
  | responded response =>
      rcases retried with ⟨gateway, _⟩ | invalid
      · exact .inr (.inl gateway)
      · exact .inr (.inr invalid)

theorem Unknown.not_knownNotExecuted {outcome : DirectOutcome}
    (unknown : outcome.Unknown) : ¬outcome.KnownNotExecuted := by
  intro known
  cases outcome with
  | raised kind message =>
      rcases known with safe | miss
      · simp only [SafeFailure, directSafeFallbackErrors, List.mem_cons,
          List.not_mem_nil, or_false] at safe
        simp only [Unknown, directUnknownOutcomeErrors] at unknown
        rcases safe with rfl | rfl | rfl <;> simp at unknown
      · exact miss
  | responded response =>
      rcases known with safe | ⟨notFound, _⟩
      · exact safe
      · simp [Unknown, notFound, retryableGatewayStatusCodes] at unknown

end DirectOutcome

theorem judgeAttempt_cases (requestId : String) (client : DirectClient)
    (outcome : DirectOutcome) :
    (∃ next error, judgeAttempt requestId client outcome = .retry next error true ∧
        outcome.Retried ∧ outcome.SafeFailure) ∨
      (∃ next error, judgeAttempt requestId client outcome = .retry next error false ∧
        outcome.Retried ∧ ¬outcome.SafeFailure) ∨
      (∃ next, judgeAttempt requestId client outcome = .leave next .fellBack ∧
        ¬outcome.Retried ∧ outcome.RouteMiss) ∨
      ∃ next result, judgeAttempt requestId client outcome = .leave next result ∧
        result ≠ .fellBack ∧ ¬outcome.Retried ∧ ¬outcome.RouteMiss := by
  cases outcome with
  | raised kind message =>
      by_cases safe : kind ∈ directSafeFallbackErrors
      · exact .inl ⟨_, _, by simp only [judgeAttempt, if_pos safe]; rfl, .inl safe, safe⟩
      · by_cases unknown : kind ∈ directUnknownOutcomeErrors
        · exact .inr
            (.inl ⟨_, _, by simp only [judgeAttempt, if_neg safe, if_pos unknown]; rfl,
            .inr unknown, safe⟩)
        · refine .inr (.inr (.inr ⟨_, _,
            by simp only [judgeAttempt, if_neg safe, if_neg unknown]; rfl,
            by simp, ?_, id⟩))
          rintro (isSafe | isUnknown)
          · exact safe isSafe
          · exact unknown isUnknown
  | responded response =>
      have small : response.statusCode ∈ retryableGatewayStatusCodes →
          400 ≤ response.statusCode ∧ response.statusCode ≠ 404 := by
        simp only [retryableGatewayStatusCodes, List.mem_cons, List.not_mem_nil, or_false]
        omega
      by_cases terminal : 400 ≤ response.statusCode ∧ response.terminal = true
      · refine .inr (.inr (.inr ⟨_, _,
          by simp only [judgeAttempt, fromResponse_terminal, if_pos terminal]; rfl,
          by simp, ?_, ?_⟩))
        · rintro (⟨_, notTerminal⟩ | ⟨success, _⟩)
          · simp [terminal.2] at notTerminal
          · omega
        · rintro ⟨_, notTerminal⟩
          simp [terminal.2] at notTerminal
      · by_cases missing : response.statusCode = 404
        · refine .inr (.inr (.inl ⟨_,
            by simp only [judgeAttempt, fromResponse_terminal, if_neg terminal,
              if_pos missing]; rfl, ?_, missing, by simpa [missing] using terminal⟩))
          rintro (⟨gateway, _⟩ | ⟨success, _⟩)
          · exact (small gateway).2 missing
          · omega
        · by_cases gateway : response.statusCode ∈ retryableGatewayStatusCodes
          · exact .inr (.inl ⟨_, _, by
              simp only [judgeAttempt, fromResponse_terminal, if_neg terminal,
                if_neg missing, if_pos gateway]; rfl,
              .inl ⟨gateway, by simpa [(small gateway).1] using terminal⟩, id⟩)
          · by_cases large : 400 ≤ response.statusCode
            · refine .inr (.inr (.inr ⟨_, _, by
                simp only [judgeAttempt, fromResponse_terminal, if_neg terminal,
                  if_neg missing, if_neg gateway, if_pos large]; rfl,
                by simp, ?_, fun miss => missing miss.1⟩))
              rintro (⟨isGateway, _⟩ | ⟨success, _⟩)
              · exact gateway isGateway
              · omega
            · cases parsed : response.json with
              | error message =>
                  exact .inr (.inl ⟨_, _, by
                    simp only [judgeAttempt, fromResponse_terminal, if_neg terminal,
                      if_neg missing, if_neg gateway, if_neg large, parsed]; rfl,
                    .inr ⟨by omega, message, parsed⟩, id⟩)
              | ok value =>
                  refine .inr (.inr (.inr ⟨_, _, by
                    simp only [judgeAttempt, fromResponse_terminal, if_neg terminal,
                      if_neg missing, if_neg gateway, if_neg large, parsed]; rfl,
                    by simp, ?_, fun miss => missing miss.1⟩))
                  rintro (⟨isGateway, _⟩ | ⟨_, message, invalid⟩)
                  · exact gateway isGateway
                  · simp [parsed] at invalid

/-! ## Where the loop falls back -/

/-- The deadline has not passed at the `look`-th look at the clock. -/
def TimeLeft (world : InvokeWorld) (deadline : Option Int) (look : Nat) : Prop :=
  ∀ limit ∈ deadline, world.clock.reading look < limit

theorem exhausted_remainingTimeout (world : InvokeWorld)
    (deadline : Option Int) (look : Nat) :
    exhausted (remainingTimeout deadline (world.clock.reading look)) = true ↔
      ¬TimeLeft world deadline look := by
  cases deadline with
  | none => simp [exhausted, remainingTimeout, TimeLeft]
  | some limit =>
      simp only [exhausted, remainingTimeout, TimeLeft, Option.map_some, Option.any_some,
        decide_eq_true_eq, Option.mem_some_iff, forall_eq']
      omega

instance (world : InvokeWorld) (deadline : Option Int) (look : Nat) :
    Decidable (TimeLeft world deadline look) :=
  decidable_of_iff
    (¬exhausted (remainingTimeout deadline (world.clock.reading look)) = true)
    (by rw [exhausted_remainingTimeout, Classical.not_not])

theorem TimeLeft.earlier {world : InvokeWorld} {deadline : Option Int}
    {early late : Nat} (left : TimeLeft world deadline late) (ordered : early ≤ late) :
    TimeLeft world deadline early := by
  intro limit member
  have before := world.clock.monotone ordered
  have inTime := left limit member
  omega

theorem backoff_nonpos (world : InvokeWorld) (deadline : Option Int)
    (look exponent : Nat) :
    (remainingTimeout deadline (world.clock.reading look)).elim
        (directRetryBackoff * 2 ^ exponent)
        (fun remaining => min (directRetryBackoff * 2 ^ exponent) (max 0 remaining)) ≤ 0 ↔
      ¬TimeLeft world deadline look := by
  have power : (0 : Int) < 2 ^ exponent := Int.pow_pos (by decide)
  have positive : 0 < directRetryBackoff * 2 ^ exponent :=
    Int.mul_pos (by decide) power
  cases deadline with
  | none =>
      have inTime : TimeLeft world none look := by simp [TimeLeft]
      simp only [remainingTimeout, Option.map_none, Option.elim_none]
      constructor
      · intro spent
        omega
      · intro late
        exact absurd inTime late
  | some limit =>
      simp only [remainingTimeout, TimeLeft, Option.map_some, Option.elim_some,
        Option.mem_some_iff, forall_eq']
      omega

theorem DirectOutcome.SafeFailure.retried {outcome : DirectOutcome}
    (safe : outcome.SafeFailure) : outcome.Retried := by
  cases outcome with
  | raised kind message => exact .inl safe
  | responded response => exact safe.elim

theorem DirectOutcome.Retried.not_routeMiss {outcome : DirectOutcome}
    (retried : outcome.Retried) : ¬outcome.RouteMiss := by
  cases outcome with
  | raised kind message => exact id
  | responded response =>
      rintro ⟨missing, _⟩
      simp [DirectOutcome.Retried, missing, retryableGatewayStatusCodes] at retried

/-- The attempts after the `first` ones are retried up to `attempt`, and
`attempt`, of at most `last`, sends the call to its fallback. -/
structure FallsBackAfter (outcome : Nat → DirectOutcome) (first last attempt : Nat) :
    Prop where
  lower : first < attempt
  upper : attempt ≤ last
  retried : ∀ earlier, first < earlier → earlier < attempt → (outcome earlier).Retried
  leaves : (outcome attempt).RouteMiss ∨
    attempt = last ∧ (outcome attempt).SafeFailure

namespace FallsBackAfter

variable {outcome : Nat → DirectOutcome} {first last attempt : Nat}

theorem cons (retried : (outcome (first + 1)).Retried)
    (later : FallsBackAfter outcome (first + 1) last attempt) :
    FallsBackAfter outcome first last attempt where
  lower := by have := later.lower; omega
  upper := later.upper
  retried := by
    intro earlier above below
    by_cases isNext : earlier = first + 1
    · rw [isNext]
      exact retried
    · exact later.retried earlier (by omega) below
  leaves := later.leaves

theorem tail (falls : FallsBackAfter outcome first last attempt)
    (retried : (outcome (first + 1)).Retried) (notLast : first + 1 < last) :
    FallsBackAfter outcome (first + 1) last attempt := by
  have later : first + 1 ≠ attempt := by
    rintro rfl
    rcases falls.leaves with miss | ⟨isLast, _⟩
    · exact retried.not_routeMiss miss
    · omega
  have above := falls.lower
  exact ⟨by omega, falls.upper,
    fun earlier lower upper => falls.retried earlier (by omega) upper, falls.leaves⟩

theorem not_before {other : Nat} (falls : FallsBackAfter outcome first last attempt)
    (otherFalls : FallsBackAfter outcome first last other) : ¬attempt < other := by
  intro before
  rcases falls.leaves with miss | ⟨isLast, _⟩
  · exact (otherFalls.retried attempt falls.lower before).not_routeMiss miss
  · have bound := otherFalls.upper
    omega

theorem unique {other : Nat} (falls : FallsBackAfter outcome first last attempt)
    (otherFalls : FallsBackAfter outcome first last other) : attempt = other := by
  have notBefore := falls.not_before otherFalls
  have notAfter := otherFalls.not_before falls
  omega

theorem eq_next (falls : FallsBackAfter outcome first last attempt)
    (notRetried : ¬(outcome (first + 1)).Retried) : attempt = first + 1 := by
  rcases Nat.eq_or_lt_of_le falls.lower with isNext | isLater
  · exact isNext.symm
  · exact absurd (falls.retried (first + 1) (by omega) isLater) notRetried

end FallsBackAfter

namespace DirectLoop

variable {world : InvokeWorld} {requestId : String} {deadline : Option Int}

theorem finish_fellBack (requestId : String) (loop : DirectLoop) {error : SandboxError}
    (failed : loop.lastError = some error) :
    (loop.finish requestId).result = .fellBack ↔ loop.lastFailureSafe = true := by
  cases safe : loop.lastFailureSafe with
  | true => simp [finish, failed, safe]
  | false => cases error <;> simp [finish, failed, safe]

@[simp] theorem finish_looks (requestId : String) (loop : DirectLoop) :
    (loop.finish requestId).looks = loop.looks := by
  unfold finish
  dsimp only
  repeat' split
  all_goals rfl

@[simp] theorem finish_attempts (requestId : String) (loop : DirectLoop) :
    (loop.finish requestId).attempts = loop.attempts := by
  unfold finish
  dsimp only
  repeat' split
  all_goals rfl

end DirectLoop

/-- The loop reaches the fallback in time at `attempt`, having made the attempts
after the `first` ones up to that one. -/
structure ReachesFallback (world : InvokeWorld) (deadline : Option Int)
    (before : List DirectAttempt) (last : Nat) (run : DirectRun) (attempt : Nat) :
    Prop where
  falls : FallsBackAfter world.outcome before.length last attempt
  inTime : TimeLeft world deadline (2 * attempt)
  result : run.result = .fellBack
  looks : run.looks = 2 * attempt
  attempts : run.attempts.map DirectAttempt.outcome =
    before.map DirectAttempt.outcome ++
      (List.range' (before.length + 1) (attempt - before.length)).map world.outcome

structure MissesFallback (world : InvokeWorld) (deadline : Option Int)
    (before : List DirectAttempt) (last : Nat) (run : DirectRun) : Prop where
  late : run.result = .fellBack → ¬TimeLeft world deadline run.looks
  never : ∀ attempt, FallsBackAfter world.outcome before.length last attempt →
    ¬TimeLeft world deadline (2 * attempt)

namespace DirectLoop

variable {world : InvokeWorld} {requestId : String} {deadline : Option Int}

/-- The record of the attempt that `iterate` makes next. -/
def nextAttempt (world : InvokeWorld) (deadline : Option Int) (loop : DirectLoop) :
    DirectAttempt :=
  let remaining := remainingTimeout deadline (world.clock.reading loop.looks)
  { timeout := remaining
    poolTimeout := remaining.elim directPoolTimeout (min directPoolTimeout)
    outcome := world.outcome (loop.attempts.length + 1) }

theorem iterate_succ (left : Nat) (loop : DirectLoop) :
    iterate world requestId deadline (left + 1) loop =
      if exhausted (remainingTimeout deadline (world.clock.reading loop.looks)) then
        finish requestId { loop with looks := loop.looks + 1 }
      else
        let attempts := loop.attempts ++ [loop.nextAttempt world deadline]
        match judgeAttempt requestId loop.client
            (world.outcome (loop.attempts.length + 1)) with
        | .leave client result => ⟨client, attempts, loop.looks + 1, result⟩
        | .retry client error safe =>
            if left = 0 then
              finish requestId ⟨client, some error, safe, attempts, loop.looks + 1⟩
            else if exhausted (remainingTimeout deadline
                (world.clock.reading (loop.looks + 1))) then
              finish requestId ⟨client, some error, safe, attempts, loop.looks + 2⟩
            else
              iterate world requestId deadline left
                ⟨client, some error, safe, attempts, loop.looks + 2⟩ := by
  rw [iterate]
  dsimp only
  cases judgeAttempt requestId loop.client
      (world.outcome (loop.attempts.length + 1)) with
  | leave client result => rfl
  | retry client error safe =>
      dsimp only
      simp only [backoff_nonpos, exhausted_remainingTimeout]
      rfl

end DirectLoop

theorem MissesFallback.of_late {world : InvokeWorld} {deadline : Option Int}
    {before : List DirectAttempt} {last look : Nat} {run : DirectRun}
    (late : ¬TimeLeft world deadline look) (reached : look ≤ run.looks)
    (early : look ≤ 2 * (before.length + 1)) :
    MissesFallback world deadline before last run where
  late := fun _ inTime => late (inTime.earlier reached)
  never := by
    intro attempt falls inTime
    have above := falls.lower
    exact late (inTime.earlier (by omega))

theorem reaches_or_misses_next {world : InvokeWorld} {deadline : Option Int}
    {before : List DirectAttempt} {last : Nat} {run : DirectRun} (attempt : DirectAttempt)
    (falls : FallsBackAfter world.outcome before.length last (before.length + 1))
    (made : attempt.outcome = world.outcome (before.length + 1))
    (result : run.result = .fellBack) (looks : run.looks = 2 * (before.length + 1))
    (attempts : run.attempts = before ++ [attempt]) :
    (∃ attempt, ReachesFallback world deadline before last run attempt) ∨
      MissesFallback world deadline before last run := by
  by_cases inTime : TimeLeft world deadline (2 * (before.length + 1))
  · refine .inl ⟨before.length + 1, falls, inTime, result, looks, ?_⟩
    simp [attempts, made]
  · exact .inr (.of_late inTime (by omega) (by omega))

namespace DirectLoop

variable {world : InvokeWorld} {requestId : String} {deadline : Option Int}

/-- The loop with `left + 1` attempts left either reaches the fallback in time
or misses it. -/
def Settles (world : InvokeWorld) (requestId : String) (deadline : Option Int)
    (left : Nat) (loop : DirectLoop) : Prop :=
  (∃ attempt, ReachesFallback world deadline loop.attempts
      (loop.attempts.length + left + 1)
      (iterate world requestId deadline (left + 1) loop) attempt) ∨
    MissesFallback world deadline loop.attempts (loop.attempts.length + left + 1)
      (iterate world requestId deadline (left + 1) loop)

theorem settles_late {left : Nat} {loop : DirectLoop}
    (looks : loop.looks = 2 * loop.attempts.length + 1)
    (late : ¬TimeLeft world deadline loop.looks) :
    Settles world requestId deadline left loop := by
  have isOver := (exhausted_remainingTimeout world deadline loop.looks).mpr late
  rw [Settles, iterate_succ, if_pos isOver]
  exact .inr (.of_late late (by rw [finish_looks]; dsimp only; omega) (by omega))

theorem iterate_inTime (loop : DirectLoop)
    (inTime : TimeLeft world deadline loop.looks) :
    ¬exhausted (remainingTimeout deadline (world.clock.reading loop.looks)) = true := by
  rw [exhausted_remainingTimeout]
  exact not_not_intro inTime

theorem settles_leaving {left : Nat} {loop : DirectLoop}
    (looks : loop.looks = 2 * loop.attempts.length + 1)
    (inTime : TimeLeft world deadline loop.looks)
    (notRetried : ¬(world.outcome (loop.attempts.length + 1)).Retried) :
    Settles world requestId deadline left loop := by
  rw [Settles, iterate_succ, if_neg (iterate_inTime loop inTime)]
  rcases judgeAttempt_cases requestId loop.client
      (world.outcome (loop.attempts.length + 1)) with
    ⟨_, _, _, retried, _⟩ | ⟨_, _, _, retried, _⟩ | ⟨client, verdict, _, miss⟩ |
    ⟨client, result, verdict, elsewhere, _, noMiss⟩
  · exact absurd retried notRetried
  · exact absurd retried notRetried
  · simp only [verdict]
    exact reaches_or_misses_next (loop.nextAttempt world deadline)
      ⟨by omega, by omega, by omega, .inl miss⟩ rfl rfl (by dsimp only; omega) rfl
  · simp only [verdict]
    refine .inr ⟨fun fell => absurd fell elsewhere, fun attempt falls _ => ?_⟩
    have same := falls.eq_next notRetried
    rw [same] at falls
    rcases falls.leaves with isMiss | ⟨_, isSafe⟩
    · exact noMiss isMiss
    · exact notRetried isSafe.retried

theorem settles_last {loop : DirectLoop}
    (looks : loop.looks = 2 * loop.attempts.length + 1)
    (inTime : TimeLeft world deadline loop.looks)
    (retried : (world.outcome (loop.attempts.length + 1)).Retried) :
    Settles world requestId deadline 0 loop := by
  rw [Settles, iterate_succ, if_neg (iterate_inTime loop inTime)]
  rcases judgeAttempt_cases requestId loop.client
      (world.outcome (loop.attempts.length + 1)) with
    ⟨client, error, verdict, _, safe⟩ | ⟨client, error, verdict, _, notSafe⟩ |
    ⟨_, _, notRetried, _⟩ | ⟨_, _, _, _, notRetried, _⟩
  · simp only [verdict, if_true]
    exact reaches_or_misses_next (loop.nextAttempt world deadline)
      ⟨by omega, by omega, by omega, .inr ⟨rfl, safe⟩⟩ rfl
      ((finish_fellBack requestId _ rfl).mpr rfl)
      (by rw [finish_looks]; dsimp only; omega) (finish_attempts requestId _)
  · simp only [verdict, if_true]
    refine .inr ⟨fun fell => ?_, fun attempt falls _ => ?_⟩
    · exact absurd ((finish_fellBack requestId _ rfl).mp fell) (by simp)
    · have same : attempt = loop.attempts.length + 1 :=
        Nat.le_antisymm falls.upper falls.lower
      rw [same] at falls
      rcases falls.leaves with isMiss | ⟨_, isSafe⟩
      · exact retried.not_routeMiss isMiss
      · exact notSafe isSafe
  · exact absurd retried notRetried
  · exact absurd retried notRetried

theorem settles_retrying {left : Nat} {loop : DirectLoop}
    (looks : loop.looks = 2 * loop.attempts.length + 1)
    (inTime : TimeLeft world deadline loop.looks)
    (retried : (world.outcome (loop.attempts.length + 1)).Retried)
    (rest : ∀ later : DirectLoop, later.looks = 2 * later.attempts.length + 1 →
      Settles world requestId deadline left later) :
    Settles world requestId deadline (left + 1) loop := by
  rw [Settles, iterate_succ, if_neg (iterate_inTime loop inTime)]
  have verdict : ∃ client error safe, judgeAttempt requestId loop.client
      (world.outcome (loop.attempts.length + 1)) = .retry client error safe := by
    rcases judgeAttempt_cases requestId loop.client
        (world.outcome (loop.attempts.length + 1)) with
      ⟨client, error, verdict, _⟩ | ⟨client, error, verdict, _⟩ |
      ⟨_, _, notRetried, _⟩ | ⟨_, _, _, _, notRetried, _⟩
    · exact ⟨client, error, true, verdict⟩
    · exact ⟨client, error, false, verdict⟩
    · exact absurd retried notRetried
    · exact absurd retried notRetried
  rcases verdict with ⟨client, error, safe, verdict⟩
  simp only [verdict, Nat.add_one_ne_zero, if_false]
  by_cases stillInTime : TimeLeft world deadline (loop.looks + 1)
  · rw [if_neg (iterate_inTime { loop with looks := loop.looks + 1 } stillInTime)]
    have grown : (loop.attempts ++ [loop.nextAttempt world deadline]).length =
        loop.attempts.length + 1 := by simp
    have lasts : loop.attempts.length + 1 + left + 1 =
        loop.attempts.length + (left + 1) + 1 := by omega
    rcases rest ⟨client, some error, safe,
        loop.attempts ++ [loop.nextAttempt world deadline], loop.looks + 2⟩
        (by dsimp only; omega) with ⟨attempt, reaches⟩ | misses
    · have falls := reaches.falls
      have attempts := reaches.attempts
      simp only [grown, lasts] at falls attempts
      refine .inl ⟨attempt, falls.cons retried, reaches.inTime, reaches.result,
        reaches.looks, ?_⟩
      have made : attempt - loop.attempts.length =
          attempt - (loop.attempts.length + 1) + 1 := by
        have above := falls.lower
        omega
      rw [attempts, made, List.range'_succ]
      simp [nextAttempt]
    · have never := misses.never
      simp only [grown, lasts] at never
      exact .inr ⟨misses.late, fun attempt falls =>
        never attempt (falls.tail retried (by omega))⟩
  · have isOver :=
      (exhausted_remainingTimeout world deadline (loop.looks + 1)).mpr stillInTime
    rw [if_pos isOver]
    exact .inr (.of_late stillInTime (by rw [finish_looks]; dsimp only; omega) (by omega))

/-- Everything the loop can do, by induction on the attempts left. -/
theorem settles (left : Nat) (loop : DirectLoop)
    (looks : loop.looks = 2 * loop.attempts.length + 1) :
    Settles world requestId deadline left loop := by
  induction left generalizing loop with
  | zero =>
      by_cases inTime : TimeLeft world deadline loop.looks
      · by_cases retried : (world.outcome (loop.attempts.length + 1)).Retried
        · exact settles_last looks inTime retried
        · exact settles_leaving looks inTime retried
      · exact settles_late looks inTime
  | succ left induction =>
      by_cases inTime : TimeLeft world deadline loop.looks
      · by_cases retried : (world.outcome (loop.attempts.length + 1)).Retried
        · exact settles_retrying looks inTime retried induction
        · exact settles_leaving looks inTime retried
      · exact settles_late looks inTime

end DirectLoop

/-! ## When the fallback can replay an action -/

/-- Attempt `attempt` sends the call to its fallback, in time, although an
earlier attempt of the same action had an unknown outcome. -/
def ReplaysAfterUnknown (world : InvokeWorld) (timeout : Option Int) (attempt : Nat) :
    Prop :=
  FallsBackAfter world.outcome 0 directMaxAttempts attempt ∧
    TimeLeft world (invokeDeadline world timeout) (2 * attempt) ∧
    ∃ earlier, 0 < earlier ∧ earlier < attempt ∧ (world.outcome earlier).Unknown

def InvokeRun.NoReplay (run : InvokeRun) : Prop :=
  run.fallbackSent = true →
    ∀ attempt ∈ run.directAttempts, attempt.outcome.KnownNotExecuted

section Replay

variable {world : InvokeWorld} {requestId : String} {timeout : Option Int}
  {client : DirectClient}

theorem invokeFallback_sent (deadline : Option Int) (attempts : List DirectAttempt)
    (looks : Nat) :
    (invokeFallback world requestId deadline client attempts looks).fallbackSent = true ↔
      TimeLeft world deadline looks := by
  unfold invokeFallback
  by_cases inTime : TimeLeft world deadline looks
  · rw [if_neg (DirectLoop.iterate_inTime ⟨client, none, false, [], looks⟩ inTime)]
    simp [inTime]
  · rw [if_pos ((exhausted_remainingTimeout world deadline looks).mpr inTime)]
    simp [inTime]

theorem invokeFallback_attempts (deadline : Option Int) (attempts : List DirectAttempt)
    (looks : Nat) :
    (invokeFallback world requestId deadline client attempts looks).directAttempts =
      attempts := by
  unfold invokeFallback
  split <;> rfl

theorem invoke_fallback (world : InvokeWorld) (requestId : String) (timeout : Option Int)
    (on : client.directEnabled = true)
    (notDisabled : client.directDisabled = false) :
    (∃ attempt, FallsBackAfter world.outcome 0 directMaxAttempts attempt ∧
        TimeLeft world (invokeDeadline world timeout) (2 * attempt) ∧
        (invoke world requestId timeout client).fallbackSent = true ∧
        (invoke world requestId timeout client).directAttempts.map DirectAttempt.outcome =
          (List.range' 1 attempt).map world.outcome) ∨
      ((invoke world requestId timeout client).fallbackSent = false ∧
        ∀ attempt, FallsBackAfter world.outcome 0 directMaxAttempts attempt →
          ¬TimeLeft world (invokeDeadline world timeout) (2 * attempt)) := by
  have settled : DirectLoop.Settles world requestId (invokeDeadline world timeout) 2
      ⟨client, none, false, [], 1⟩ :=
    DirectLoop.settles 2 ⟨client, none, false, [], 1⟩ rfl
  have opened : invoke world requestId timeout client =
      afterDirect world requestId (invokeDeadline world timeout)
        (invokeDirect world requestId (invokeDeadline world timeout) client) := by
    simp [invoke, on, notDisabled]
  rw [opened]
  change (∃ attempt, ReachesFallback world _ [] directMaxAttempts
    (invokeDirect world requestId (invokeDeadline world timeout) client) attempt) ∨
      MissesFallback world _ [] directMaxAttempts
        (invokeDirect world requestId (invokeDeadline world timeout) client) at settled
  generalize invokeDirect world requestId (invokeDeadline world timeout) client = run at *
  rcases settled with ⟨attempt, reaches⟩ | misses
  · refine .inl ⟨attempt, reaches.falls, reaches.inTime, ?_, ?_⟩
    · simp only [afterDirect, reaches.result]
      exact (invokeFallback_sent _ _ _).mpr (by rw [reaches.looks]; exact reaches.inTime)
    · simp only [afterDirect, reaches.result]
      rw [invokeFallback_attempts]
      simpa using reaches.attempts
  · refine .inr ⟨?_, misses.never⟩
    cases result : run.result with
    | returned value => simp [afterDirect, result]
    | raised error => simp [afterDirect, result]
    | fellBack =>
        simp only [afterDirect, result]
        have late := misses.late result
        apply Bool.eq_false_iff.mpr
        intro sent
        exact late ((invokeFallback_sent _ _ _).mp sent)

theorem invoke_no_attempts
    (off : ¬(client.directEnabled = true ∧ client.directDisabled = false)) :
    (invoke world requestId timeout client).directAttempts = [] := by
  have closed : (client.directEnabled && !client.directDisabled) = false := by
    simpa [Bool.and_eq_true] using off
  simp only [invoke, closed]
  exact invokeFallback_attempts _ _ _

/-- The action is never replayed after a direct attempt that may have executed
it, exactly when the direct path is off or no attempt that follows one with an
unknown outcome ends in a route miss or, as the last of three, in a safe failure
while there is time for the fallback. -/
theorem invoke_noReplay_iff (world : InvokeWorld) (requestId : String)
    (timeout : Option Int) (client : DirectClient) :
    (invoke world requestId timeout client).NoReplay ↔
      (client.directEnabled = true ∧ client.directDisabled = false →
        ∀ attempt, ¬ReplaysAfterUnknown world timeout attempt) := by
  by_cases on : client.directEnabled = true ∧ client.directDisabled = false
  · rcases invoke_fallback world requestId timeout
        on.1 on.2 with
      ⟨attempt, falls, inTime, sent, attempts⟩ | ⟨notSent, never⟩
    · constructor
      · intro noReplay _ other replays
        rcases replays with ⟨otherFalls, _, earlier, positive, before, unknown⟩
        rw [← falls.unique otherFalls] at before
        have made : world.outcome earlier ∈
            (invoke world requestId timeout client).directAttempts.map
              DirectAttempt.outcome := by
          rw [attempts]
          exact List.mem_map_of_mem (List.mem_range'_1.mpr (by omega))
        rcases List.mem_map.mp made with ⟨direct, member, outcome⟩
        have known := noReplay sent direct member
        rw [outcome] at known
        exact unknown.not_knownNotExecuted known
      · intro never _ direct member
        have made := List.mem_map_of_mem (f := DirectAttempt.outcome) member
        rw [attempts] at made
        rcases List.mem_map.mp made with ⟨index, inRange, outcome⟩
        rw [← outcome]
        have bounds := List.mem_range'_1.mp inRange
        by_cases isLast : index = attempt
        · rw [isLast]
          rcases falls.leaves with miss | ⟨_, safe⟩
          · exact .inr miss
          · exact .inl safe
        · have earlier : index < attempt := by omega
          rcases (falls.retried index (by omega) earlier).safe_or_unknown with
            safe | unknown
          · exact .inl safe
          · exact absurd ⟨falls, inTime, index, by omega, earlier, unknown⟩
              (never on attempt)
    · constructor
      · intro _ _ attempt replays
        exact never attempt replays.1 replays.2.1
      · intro _ sent
        simp [notSent] at sent
  · constructor
    · intro _ isOn
      exact absurd isOn on
    · intro _ _ attempt member
      simp [invoke_no_attempts on] at member

def lostReplyThenRouteMiss : InvokeWorld where
  clock := .frozen 0
  outcome attempt :=
    if attempt = 1 then .raised .readError "response lost"
    else .responded ⟨404, "404 page not found", .error "no JSON"⟩
  fallback := .ok []

/-- The action that the first attempt may have executed is sent again through
the frontend. -/
theorem read_error_then_route_miss_replays :
    ¬∀ (world : InvokeWorld) (requestId : String) (timeout : Option Int)
        (client : DirectClient),
      (invoke world requestId timeout client).NoReplay := by
  intro claim
  have noReplay := claim lostReplyThenRouteMiss "invoke-1" none .initial
  have first : (⟨some (seconds 300), seconds 2, .raised .readError "response lost"⟩ :
      DirectAttempt) ∈
        (invoke lostReplyThenRouteMiss "invoke-1" none .initial).directAttempts := by
    exact List.mem_cons_self
  rcases noReplay rfl _ first with safe | miss
  · simp [DirectOutcome.SafeFailure, directSafeFallbackErrors] at safe
  · exact miss

end Replay

end YrSandbox.Transport
