import YrSandbox.Foundation.TrailingRun
import YrSandbox.Transport.DirectInvokeReplay

/-! # The route-miss counter

`_direct_route_misses` over the invokes of one client. Every outcome of a direct attempt
counts or resets it, but the error with a terminal body is raised before. -/

namespace YrSandbox.Transport

open Python

/-! ## One outcome -/

namespace DirectOutcome

def Terminal : DirectOutcome → Prop
  | .raised _ _ => False
  | .responded response => 400 ≤ response.statusCode ∧ response.terminal = true

instance : DecidablePred RouteMiss
  | .raised _ _ => instDecidableFalse
  | .responded _ => instDecidableAnd

instance : DecidablePred Terminal
  | .raised _ _ => instDecidableFalse
  | .responded _ => instDecidableAnd

theorem Terminal.not_routeMiss {outcome : DirectOutcome} (terminal : outcome.Terminal) :
    ¬outcome.RouteMiss := by
  intro miss
  cases outcome with
  | raised kind message => exact miss
  | responded response => exact Bool.false_ne_true (miss.2.symm.trans terminal.2)

theorem Retried.not_terminal {outcome : DirectOutcome} (retried : outcome.Retried) :
    ¬outcome.Terminal := by
  intro terminal
  cases outcome with
  | raised kind message => exact terminal
  | responded response =>
      rcases retried with ⟨_, notTerminal⟩ | ⟨small, _⟩
      · exact Bool.false_ne_true (notTerminal.symm.trans terminal.2)
      · exact absurd terminal.1 (Nat.not_le.mpr small)

end DirectOutcome

/-- What an outcome does to `_direct_route_misses`. -/
abbrev countMiss : Nat → DirectOutcome → Nat :=
  countRun DirectOutcome.RouteMiss DirectOutcome.Terminal

def AttemptVerdict.client : AttemptVerdict → DirectClient
  | .retry client _ _ | .leave client _ => client

theorem countMiss_reset {outcome : DirectOutcome} (notTerminal : ¬outcome.Terminal)
    (noMiss : ¬outcome.RouteMiss) (count : Nat) : countMiss count outcome = 0 := by
  rw [countMiss, countRun, if_neg notTerminal, if_neg noMiss]

theorem judgeAttempt_misses (requestId : String) (client : DirectClient)
    (outcome : DirectOutcome) :
    (judgeAttempt requestId client outcome).client.directRouteMisses =
      countMiss client.directRouteMisses outcome := by
  cases outcome with
  | raised kind message =>
      rw [countMiss_reset id id]
      unfold judgeAttempt
      dsimp only
      split
      · rfl
      · split <;> rfl
  | responded response =>
      rw [judgeAttempt]
      dsimp only
      split
      · rename_i isTerminal
        have terminal : (DirectOutcome.responded response).Terminal := isTerminal
        rw [countMiss, countRun, if_pos terminal]
        rfl
      · rename_i isOther
        have notTerminal : ¬(DirectOutcome.responded response).Terminal := isOther
        split
        · rename_i missing
          have miss : (DirectOutcome.responded response).RouteMiss := by
            refine ⟨missing, ?_⟩
            simpa [missing] using isOther
          rw [countMiss, countRun, if_neg notTerminal, if_pos miss]
          rfl
        · rename_i found
          have noMiss : ¬(DirectOutcome.responded response).RouteMiss :=
            fun miss => found miss.1
          rw [countMiss_reset notTerminal noMiss]
          split
          · rfl
          · split
            · rfl
            · split <;> rfl

theorem judgeAttempt_disabled (requestId : String) (client : DirectClient)
    {outcome : DirectOutcome} (miss : outcome.RouteMiss) :
    (judgeAttempt requestId client outcome).client.directDisabled =
      (client.directDisabled ||
        decide (directRouteMissBudget <
          (judgeAttempt requestId client outcome).client.directRouteMisses)) := by
  cases outcome with
  | raised kind message => exact miss.elim
  | responded response =>
      have notTerminal : ¬(400 ≤ response.statusCode ∧ response.terminal = true) := by
        simp [miss.2]
      simp only [judgeAttempt, fromResponse_terminal, if_neg notTerminal, if_pos miss.1,
        AttemptVerdict.client]

theorem judgeAttempt_retry {requestId : String} {client next : DirectClient}
    {outcome : DirectOutcome} {error : SandboxError} {safe : Bool}
    (judged : judgeAttempt requestId client outcome = .retry next error safe) :
    outcome.Retried ∧ next.directDisabled = client.directDisabled := by
  constructor
  · rcases judgeAttempt_cases requestId client outcome with
      ⟨_, _, _, retried, _⟩ | ⟨_, _, _, retried, _⟩ | ⟨_, leaves, _⟩ | ⟨_, _, leaves, _⟩
    · exact retried
    · exact retried
    · cases judged.symm.trans leaves
    · cases judged.symm.trans leaves
  · unfold judgeAttempt at judged
    dsimp only at judged
    split at judged
    · split at judged
      · cases judged
        rfl
      · split at judged
        · cases judged
          rfl
        · cases judged
    · split at judged
      · cases judged
      · split at judged
        · cases judged
        · split at judged
          · cases judged
            rfl
          · split at judged
            · cases judged
            · split at judged
              · cases judged
                rfl
              · cases judged

/-! ## One invoke -/

structure Counts (before : DirectClient) (made : List DirectOutcome)
    (after : DirectClient) : Prop where
  misses : after.directRouteMisses = made.foldl countMiss before.directRouteMisses
  retried : ∀ outcome ∈ made.dropLast, outcome.Retried
  disabled : ∀ outcome ∈ made.getLast?, outcome.RouteMiss →
    before.directDisabled = false → after.directDisabled = true →
      directRouteMissBudget < after.directRouteMisses

namespace Counts

theorem nothing {before after : DirectClient}
    (same : after.directRouteMisses = before.directRouteMisses) :
    Counts before [] after where
  misses := same
  retried := by simp
  disabled := by simp

theorem leaving {requestId : String} {client next : DirectClient} {outcome : DirectOutcome}
    {result : DirectResult}
    (judged : judgeAttempt requestId client outcome = .leave next result) :
    Counts client [outcome] next where
  misses := by
    have misses := judgeAttempt_misses requestId client outcome
    rw [judged] at misses
    exact misses
  retried := by simp
  disabled := by
    intro other isLast miss enabled disabled
    obtain rfl : outcome = other := by simpa using isLast
    have byCount := judgeAttempt_disabled requestId client miss
    rw [judged, enabled, Bool.false_or] at byCount
    exact of_decide_eq_true (byCount.symm.trans disabled)

theorem retrying {requestId : String} {client next after : DirectClient}
    {outcome : DirectOutcome} {error : SandboxError} {safe : Bool}
    {made : List DirectOutcome}
    (judged : judgeAttempt requestId client outcome = .retry next error safe)
    (counts : Counts next made after) : Counts client (outcome :: made) after where
  misses := by
    have misses := judgeAttempt_misses requestId client outcome
    rw [judged] at misses
    rw [counts.misses, List.foldl_cons, ← misses]
    rfl
  retried := by
    intro other isOther
    cases made with
    | nil => cases isOther
    | cons following rest =>
        rw [List.dropLast_cons_cons] at isOther
        rcases List.mem_cons.mp isOther with rfl | isLater
        · exact (judgeAttempt_retry judged).1
        · exact counts.retried other isLater
  disabled := by
    intro other isLast miss enabled disabled
    have judgement := judgeAttempt_retry judged
    cases made with
    | nil =>
        obtain rfl : outcome = other := by simpa using isLast
        exact absurd miss judgement.1.not_routeMiss
    | cons following rest =>
        rw [List.getLast?_cons_cons] at isLast
        exact counts.disabled other isLast miss (judgement.2.trans enabled) disabled

end Counts

namespace DirectLoop

theorem finish_misses (requestId : String) (loop : DirectLoop) :
    (loop.finish requestId).client.directRouteMisses = loop.client.directRouteMisses := by
  rw [finish]
  dsimp only
  split
  · split
    · rfl
    · split <;> rfl
  · rfl

structure Makes (client : DirectClient) (attempts : List DirectAttempt)
    (made : List DirectAttempt) (run : DirectRun) : Prop where
  attempts : run.attempts = attempts ++ made
  counts : Counts client (made.map DirectAttempt.outcome) run.client

theorem finish_makes (requestId : String) (loop : DirectLoop) :
    Makes loop.client loop.attempts [] (loop.finish requestId) where
  attempts := by rw [finish_attempts, List.append_nil]
  counts := .nothing (finish_misses requestId loop)

theorem Makes.retrying {requestId : String} {client next : DirectClient}
    {attempts made : List DirectAttempt} {attempt : DirectAttempt} {error : SandboxError}
    {safe : Bool} {run : DirectRun}
    (judged : judgeAttempt requestId client attempt.outcome = .retry next error safe)
    (makes : Makes next (attempts ++ [attempt]) made run) :
    Makes client attempts (attempt :: made) run where
  attempts := by rw [makes.attempts, List.append_assoc, List.singleton_append]
  counts := makes.counts.retrying judged

theorem iterate_makes (world : InvokeWorld) (requestId : String) (deadline : Option Int)
    (left : Nat) (loop : DirectLoop) :
    ∃ made, Makes loop.client loop.attempts made
      (iterate world requestId deadline left loop) := by
  induction left generalizing loop with
  | zero => exact ⟨[], finish_makes requestId loop⟩
  | succ left induction =>
      rw [iterate_succ]
      split
      · exact ⟨[], finish_makes requestId { loop with looks := loop.looks + 1 }⟩
      · dsimp only
        cases judged : judgeAttempt requestId loop.client
            (world.outcome (loop.attempts.length + 1)) with
        | leave client result =>
            exact ⟨[loop.nextAttempt world deadline], rfl, .leaving judged⟩
        | retry client error safe =>
            have goesOn : judgeAttempt requestId loop.client
                (loop.nextAttempt world deadline).outcome = .retry client error safe :=
                  judged
            let next (looks : Nat) : DirectLoop :=
              ⟨client, some error, safe,
                loop.attempts ++ [loop.nextAttempt world deadline], looks⟩
            dsimp only
            split
            · exact ⟨_, .retrying goesOn (finish_makes requestId (next (loop.looks + 1)))⟩
            · split
              · exact ⟨_, .retrying goesOn
                  (finish_makes requestId (next (loop.looks + 2)))⟩
              · rcases induction (next (loop.looks + 2)) with ⟨made, makes⟩
                exact ⟨_, .retrying goesOn makes⟩

end DirectLoop

theorem invoke_counts (world : InvokeWorld) (requestId : String) (timeout : Option Int)
    (client : DirectClient) :
    Counts client
      ((invoke world requestId timeout client).directAttempts.map DirectAttempt.outcome)
      (invoke world requestId timeout client).client := by
  have fallback (deadline : Option Int) (after : DirectClient)
      (attempts : List DirectAttempt) (looks : Nat)
      (counts : Counts client (attempts.map DirectAttempt.outcome) after) :
      Counts client ((invokeFallback world requestId deadline after attempts
        looks).directAttempts.map DirectAttempt.outcome)
        (invokeFallback world requestId deadline after attempts looks).client := by
    rw [invokeFallback]
    split <;> exact counts
  unfold invoke
  dsimp only
  split
  · rcases DirectLoop.iterate_makes world requestId (invokeDeadline world timeout)
      directMaxAttempts ⟨client, none, false, [], 1⟩ with ⟨made, makes⟩
    have counts := makes.counts
    rw [← List.nil_append made, ← makes.attempts] at counts
    rw [afterDirect]
    split
    · exact counts
    · exact counts
    · exact fallback _ _ _ _ counts
  · exact fallback _ _ _ _ (.nothing rfl)

/-! ## A client -/

/-- One call of `invoke`, in the world that answers it. -/
structure InvokeCall where
  world : InvokeWorld
  requestId : String
  timeout : Option Int

structure DirectHistory where
  client : DirectClient
  outcomes : List DirectOutcome

namespace DirectHistory

def initial (directEnabled : Bool) : DirectHistory where
  client := { DirectClient.initial with directEnabled }
  outcomes := []

def invoke (history : DirectHistory) (call : InvokeCall) : DirectHistory :=
  let run := Transport.invoke call.world call.requestId call.timeout history.client
  { client := run.client
    outcomes := history.outcomes ++ run.directAttempts.map DirectAttempt.outcome }

def run (directEnabled : Bool) (calls : List InvokeCall) : DirectHistory :=
  calls.foldl invoke (initial directEnabled)

def missesInARow (history : DirectHistory) : Nat :=
  trailingRun DirectOutcome.RouteMiss history.outcomes

def NoTerminalAfterMiss (history : DirectHistory) : Prop :=
  history.outcomes.IsChain fun earlier later => ¬(earlier.RouteMiss ∧ later.Terminal)

variable {directEnabled : Bool} {calls : List InvokeCall} {call : InvokeCall}

theorem run_concat (directEnabled : Bool) (calls : List InvokeCall) (call : InvokeCall) :
    run directEnabled (calls ++ [call]) = (run directEnabled calls).invoke call := by
  rw [run, List.foldl_concat]
  rfl

theorem run_counted (directEnabled : Bool) (calls : List InvokeCall) :
    (run directEnabled calls).client.directRouteMisses =
      (run directEnabled calls).outcomes.foldl countMiss 0 := by
  induction calls using List.reverseRecOn with
  | nil => rfl
  | append_singleton calls call induction =>
      rw [run_concat, invoke, List.foldl_append, ← induction]
      exact (invoke_counts call.world call.requestId call.timeout _).misses

theorem run_misses (chain : (run directEnabled calls).NoTerminalAfterMiss) :
    (run directEnabled calls).client.directRouteMisses =
      (run directEnabled calls).missesInARow := by
  rw [run_counted]
  exact foldl_countRun (fun _ => DirectOutcome.Terminal.not_routeMiss) chain

theorem outcomes_begin {past : List InvokeCall} (isPast : past <+: calls) :
    (run directEnabled past).outcomes <+: (run directEnabled calls).outcomes := by
  rcases isPast with ⟨later, rfl⟩
  induction later using List.reverseRecOn with
  | nil => simp
  | append_singleton later call induction =>
      rw [← List.append_assoc, run_concat]
      exact induction.trans (List.prefix_append _ _)

theorem NoTerminalAfterMiss.of_prefix {past : List InvokeCall} (isPast : past <+: calls)
    (chain : (run directEnabled calls).NoTerminalAfterMiss) :
    (run directEnabled past).NoTerminalAfterMiss :=
  List.IsChain.prefix chain (outcomes_begin isPast)

end DirectHistory

theorem Counts.noTerminalAfterMiss {before after : DirectClient}
    {made : List DirectOutcome} (counts : Counts before made after) :
    made.IsChain fun earlier later => ¬(earlier.RouteMiss ∧ later.Terminal) := by
  have retried := counts.retried
  clear counts
  induction made with
  | nil => exact .nil
  | cons outcome rest induction =>
      cases rest with
      | nil => exact .singleton outcome
      | cons following others =>
          rw [List.dropLast_cons_cons] at retried
          apply List.IsChain.cons_cons
          · intro both
            exact (retried outcome List.mem_cons_self).not_routeMiss both.1
          · exact induction fun other isOther =>
              retried other (List.mem_cons_of_mem _ isOther)

theorem Counts.of_terminal {before after : DirectClient} {made : List DirectOutcome}
    (counts : Counts before made after) {outcome : DirectOutcome}
    (isFirst : outcome ∈ made.head?) (terminal : outcome.Terminal) : made = [outcome] := by
  cases made with
  | nil => cases isFirst
  | cons first rest =>
      cases isFirst
      cases rest with
      | nil => rfl
      | cons following others =>
          have isRetried : outcome ∈ (outcome :: following :: others).dropLast := by
            rw [List.dropLast_cons_cons]
            exact List.mem_cons_self
          exact absurd terminal (counts.retried outcome isRetried).not_terminal

namespace DirectHistory

variable {directEnabled : Bool} {calls : List InvokeCall}

theorem noTerminalAfterMiss_concat {call : InvokeCall}
    (chain : (run directEnabled calls).NoTerminalAfterMiss)
    (right : (run directEnabled (calls ++ [call])).client.directRouteMisses =
      (run directEnabled (calls ++ [call])).missesInARow) :
    (run directEnabled (calls ++ [call])).NoTerminalAfterMiss := by
  have before := run_misses chain
  rw [run_counted, missesInARow] at before right
  rw [run_concat] at right ⊢
  have counts := invoke_counts call.world call.requestId call.timeout
    (run directEnabled calls).client
  apply List.IsChain.append chain counts.noTerminalAfterMiss
  intro last isLast first isFirst both
  have only := counts.of_terminal isFirst both.2
  simp only [invoke, only] at right
  exact foldl_countRun_ne (fun _ => DirectOutcome.Terminal.not_routeMiss) before isLast
    both.1 both.2 right

structure DisabledByMiss (history : DirectHistory) (call : InvokeCall) : Prop where
  enabled : history.client.directDisabled = false
  disabled : (history.invoke call).client.directDisabled = true
  miss : ∃ attempt ∈ (Transport.invoke call.world call.requestId call.timeout
    history.client).directAttempts.getLast?, attempt.outcome.RouteMiss

theorem DisabledByMiss.budget {history : DirectHistory} {call : InvokeCall}
    (disabled : history.DisabledByMiss call) :
    directRouteMissBudget < (history.invoke call).client.directRouteMisses := by
  have counts := invoke_counts call.world call.requestId call.timeout history.client
  rcases disabled.miss with ⟨attempt, isLast, miss⟩
  refine counts.disabled attempt.outcome ?_ miss disabled.enabled disabled.disabled
  rw [List.getLast?_map, Option.mem_def.mp isLast]
  exact rfl

def routeMiss : InvokeCall where
  world :=
    { clock := .frozen 0
      outcome := fun _ => .responded ⟨404, "404 page not found", .error "no JSON"⟩
      fallback := .ok [] }
  requestId := "invoke-1"
  timeout := none

def terminalError : InvokeCall where
  world :=
    { clock := .frozen 0
      outcome := fun _ => .responded ⟨410, "", .ok (.object
        [("code", .str "SANDBOX_EXITED"), ("retryable", .bool false)])⟩
      fallback := .ok [] }
  requestId := "invoke-2"
  timeout := none

end DirectHistory

end YrSandbox.Transport
