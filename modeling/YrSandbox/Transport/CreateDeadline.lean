import YrSandbox.Transport.CreateBlocks

/-! # The deadline of a create

`create_info` makes up to three attempts before one deadline. It looks at the clock between
the attempts; within an attempt there is a limit for each single read only. -/

namespace YrSandbox.Transport

open Python

namespace CreateStream

/-! ## A stream in time -/

/-- A read from the network and the line that it completes. Where it completes more, each
further line is an arrival without a wait. -/
structure Arrival where
  wait : Nat
  line : Option Text

def linesOf (arrivals : List Arrival) : List Text := arrivals.filterMap Arrival.line

def waited (arrivals : List Arrival) : Nat := (arrivals.map Arrival.wait).sum

/-- What comes behind the arrivals: the end of the body, an error of the transport, or
nothing so far. -/
inductive StreamEnd
  | closed
  | failed (wait : Nat) (kind : RequestErrorKind) (message : String)
  | pending

inductive Timed (α : Type)
  | ended (time : Int) (result : Except CreateError α)
  | pending

def Timed.andThen (next : α → Except CreateError β) : Timed α → Timed β
  | .ended time result => .ended time (result.bind next)
  | .pending => .pending

/-- What `httpx` allows for each read, and the text of its `ReadTimeout`. -/
structure ReadLimit where
  timeout : Int
  message : String

namespace ReadLimit

def expired (limit : ReadLimit) (now : Int) : Timed α :=
  .ended (now + limit.timeout) (.error (.request .readTimeout limit.message))

def atEnd (limit : ReadLimit) (now : Int) (done : α) : StreamEnd → Timed α
  | .closed => .ended now (.ok done)
  | .failed wait kind message =>
      if limit.timeout < wait then limit.expired now
      else .ended (now + wait) (.error (.request kind message))
  | .pending => .pending

def read (limit : ReadLimit) (ending : StreamEnd) : Int → List Arrival → Timed Unit
  | now, [] => limit.atEnd now () ending
  | now, arrival :: rest =>
      if limit.timeout < arrival.wait then limit.expired now
      else limit.read ending (now + arrival.wait) rest

end ReadLimit

structure ProcessedLine where
  time : Int
  line : Text
deriving DecidableEq, Repr

/-- What the loop has processed, and the data of the final event if it was left with
them. -/
structure Reading where
  processed : List ProcessedLine
  outcome : Timed (Option (List Text))

def ReadLimit.iterLines (limit : ReadLimit) (ending : StreamEnd) :
    Int → Block → List Arrival → Reading
  | now, _, [] => ⟨[], limit.atEnd now none ending⟩
  | now, block, arrival :: rest =>
      if limit.timeout < arrival.wait then ⟨[], limit.expired now⟩
      else
        let now := now + arrival.wait
        match arrival.line with
        | none => limit.iterLines ending now block rest
        | some line =>
            match block.turn line with
            | .goOn next =>
                let reading := limit.iterLines ending now next rest
                ⟨⟨now, line⟩ :: reading.processed, reading.outcome⟩
            | .final dataLines => ⟨[⟨now, line⟩], .ended now (.ok (some dataLines))⟩

end CreateStream

open CreateStream

/-! ## The attempts -/

structure TimedResponse extends CreateResponse where
  arrivals : List Arrival
  ending : StreamEnd
  arrive : lines = linesOf arrivals

def CreateResponse.isEventStream (response : CreateResponse) : Bool :=
  decide (response.statusCode < 400) &&
    occursIn "text/event-stream".toList (asciiLower response.contentType)

/-- What a request for a sandbox meets: an error before there is a response, a response
after some time, or nothing so far. -/
inductive CreateAnswer
  | failed (wait : Nat) (kind : RequestErrorKind) (message : String)
  | responded (wait : Nat) (response : TimedResponse)
  | pending

/-- The clock where `create_info` computes its deadline, the time from the end of a backoff
until the next attempt looks at the clock, the answers by the number of the attempt, and
the text of a `ReadTimeout`. -/
structure CreateWorld where
  began : Int
  pause : Nat → Nat
  answer : Nat → CreateAnswer
  readTimeout : String

structure CreateAttempt where
  start : Int
  timeout : Int
  answer : CreateAnswer

structure AttemptRun where
  processed : List ProcessedLine
  outcome : Timed Dict

/-- `_create_info_attempt`. Where the lines are not iterated over, the body is read before
anything is made of it. -/
def CreateAttempt.run (world : CreateWorld) (reader : Reader) (attempt : CreateAttempt) :
    AttemptRun :=
  let limit : ReadLimit := ⟨attempt.timeout, world.readTimeout⟩
  match attempt.answer with
  | .failed wait kind message =>
      ⟨[], .ended (attempt.start + wait) (.error (.request kind message))⟩
  | .responded wait response =>
      if response.isEventStream then
        let reading := limit.iterLines response.ending (attempt.start + wait) .start
          response.arrivals
        ⟨reading.processed, reading.outcome.andThen (finish reader)⟩
      else
        let body := limit.read response.ending (attempt.start + wait) response.arrivals
        ⟨[], body.andThen fun _ => createInfoAttempt reader response.toCreateResponse⟩
  | .pending => ⟨[], .pending⟩

def createMaxAttempts : Nat := 3
def createRetryBackoff : Int := 100000000
def defaultCreateLogicalTimeout : Int := 90

def createRetryableErrors : List RequestErrorKind :=
  [.connectError, .connectTimeout, .readError, .readTimeout, .remoteProtocolError,
    .writeError, .writeTimeout]

def CreateError.retryText? : CreateError → Option String
  | .retryableStatus message => some message
  | .request kind message => if kind ∈ createRetryableErrors then some message else none
  | .sandbox _ | .valueError _ | .attributeError _ | .recursionError => none

inductive CreateEnding
  | returned (data : Dict)
  | raised (error : CreateError)
  | pending

structure CreateRun where
  attempts : List CreateAttempt
  ending : CreateEnding

namespace CreateRun

def processed (world : CreateWorld) (reader : Reader) (run : CreateRun) :
    List ProcessedLine :=
  run.attempts.flatMap fun attempt => (attempt.run world reader).processed

end CreateRun

/-- `int(body.get("createTimeoutSeconds") or _DEFAULT_CREATE_LOGICAL_TIMEOUT)`, `none`
where it raises. -/
def logicalTimeout (builtins : Builtins) (body : Dict) : Option Int :=
  match body.get? "createTimeoutSeconds" with
  | some value =>
      if value.truthy then value.toInt builtins else defaultCreateLogicalTimeout
  | none => defaultCreateLogicalTimeout

namespace CreateWorld

def deadline (world : CreateWorld) (logical : Int) : Int :=
  world.began + (seconds logical + yrGetTimeoutBuffer)

def failed (reader : Reader) (name : String) (attempts : List CreateAttempt)
    (lastError : Option String) : CreateRun :=
  let detail := lastError.getD "create deadline exhausted"
  ⟨attempts, .raised (.sandbox (.plain
    (s!"sandbox create transport failed after {attempts.length} attempts " ++
      s!"(requestId={reader.requestId}, name={name}): {detail}")))⟩

/-- `for attempt in range(1, _CREATE_MAX_ATTEMPTS + 1)` with `left` attempts left, where
the last of the `attempts` made has failed and the backoff is over at `now`. -/
def iterate (world : CreateWorld) (reader : Reader) (name : String) (deadline : Int) :
    Nat → Int → List CreateAttempt → Option String → CreateRun
  | 0, _, attempts, lastError => failed reader name attempts lastError
  | left + 1, now, attempts, lastError =>
      let number := attempts.length + 1
      let start := now + world.pause number
      if deadline - start ≤ 0 then failed reader name attempts lastError
      else
        let attempt : CreateAttempt := ⟨start, deadline - start, world.answer number⟩
        let attempts := attempts ++ [attempt]
        match (attempt.run world reader).outcome with
        | .pending => ⟨attempts, .pending⟩
        | .ended _ (.ok data) => ⟨attempts, .returned data⟩
        | .ended time (.error error) =>
            match error.retryText? with
            | none => ⟨attempts, .raised error⟩
            | some message =>
                let backoff := min (createRetryBackoff * 2 ^ (number - 1))
                  (max 0 (deadline - time))
                if left = 0 ∨ backoff ≤ 0 then failed reader name attempts (some message)
                else world.iterate reader name deadline left (time + backoff) attempts
                  (some message)

/-- `create_info`, `none` where `createTimeoutSeconds` is no number. -/
def createInfo (world : CreateWorld) (reader : Reader) (body : Dict) : Option CreateRun :=
  (logicalTimeout reader.builtins body).map fun logical =>
    world.iterate reader (orDefault reader body "name" "<frontend-generated>")
      (world.deadline logical) createMaxAttempts world.began [] none

end CreateWorld

/-! ## What the loop processes -/

namespace CreateStream

variable {limit : ReadLimit} {ending : StreamEnd}

/-- The loop gets as far as `arrival`: no read has taken too long, and none of the lines
before it has completed a final block. -/
structure Reaches (limit : ReadLimit) (block : Block) (before : List Arrival)
    (arrival : Arrival) : Prop where
  goesOn : readLines block (linesOf before) = none
  inTime : ∀ earlier ∈ before ++ [arrival], (earlier.wait : Int) ≤ limit.timeout

theorem reaches_nil {block : Block} {arrival : Arrival} :
    Reaches limit block [] arrival ↔ (arrival.wait : Int) ≤ limit.timeout := by
  constructor
  · intro reaches
    exact reaches.inTime arrival (List.mem_singleton_self arrival)
  · intro inTime
    refine ⟨rfl, ?_⟩
    intro earlier isEarlier
    cases List.mem_singleton.mp isEarlier
    exact inTime

theorem reaches_cons {block : Block} {head arrival : Arrival} {before : List Arrival} :
    Reaches limit block (head :: before) arrival ↔
      (head.wait : Int) ≤ limit.timeout ∧
        match head.line with
        | none => Reaches limit block before arrival
        | some line =>
            match block.turn line with
            | .goOn next => Reaches limit next before arrival
            | .final _ => False := by
  have split (other : Block) : Reaches limit other before arrival ↔
      readLines other (linesOf before) = none ∧
        ∀ earlier ∈ before ++ [arrival], (earlier.wait : Int) ≤ limit.timeout :=
    ⟨fun reaches => ⟨reaches.goesOn, reaches.inTime⟩, fun parts => ⟨parts.1, parts.2⟩⟩
  have splitCons : Reaches limit block (head :: before) arrival ↔
      readLines block (linesOf (head :: before)) = none ∧
        ∀ earlier ∈ head :: (before ++ [arrival]), (earlier.wait : Int) ≤ limit.timeout :=
    ⟨fun reaches => ⟨reaches.goesOn, reaches.inTime⟩, fun parts => ⟨parts.1, parts.2⟩⟩
  rw [splitCons, List.forall_mem_cons, and_left_comm]
  apply and_congr_right
  intro _
  cases isLine : head.line with
  | none =>
      have same : linesOf (head :: before) = linesOf before := by
        rw [linesOf, List.filterMap_cons_none isLine, linesOf]
      rw [same]
      exact (split block).symm
  | some line =>
      have more : linesOf (head :: before) = line :: linesOf before := by
        rw [linesOf, List.filterMap_cons_some isLine, linesOf]
      rw [more, readLines]
      dsimp only
      cases block.turn line with
      | goOn next => exact (split next).symm
      | final dataLines => simp

theorem exists_split_cons {α : Type} {head : α} {rest : List α}
    {P : List α → α → Prop} :
    (∃ before element after, head :: rest = before ++ element :: after ∧
        P before element) ↔
      P [] head ∨
        ∃ before element after, rest = before ++ element :: after ∧
          P (head :: before) element := by
  constructor
  · intro isSplit
    rcases isSplit with ⟨before, element, after, split, holds⟩
    rcases List.cons_eq_append_iff.mp split with ⟨rfl, same⟩ | ⟨before, rfl, rfl⟩
    · cases same
      exact .inl holds
    · exact .inr ⟨before, element, after, rfl, holds⟩
  · intro either
    rcases either with holds | ⟨before, element, after, rfl, holds⟩
    · exact ⟨[], head, rest, rfl, holds⟩
    · exact ⟨head :: before, element, after, rfl, holds⟩

theorem waited_cons (head : Arrival) (rest : List Arrival) :
    waited (head :: rest) = head.wait + waited rest := by
  rw [waited, List.map_cons, List.sum_cons, waited]

theorem mem_iterLines {now : Int} {block : Block} {arrivals : List Arrival}
    {entry : ProcessedLine} :
    entry ∈ (limit.iterLines ending now block arrivals).processed ↔
      ∃ before arrival after, arrivals = before ++ arrival :: after ∧
        (Reaches limit block before arrival ∧ arrival.line = some entry.line ∧
          entry.time = now + waited (before ++ [arrival])) := by
  induction arrivals generalizing now block with
  | nil => simp [ReadLimit.iterLines]
  | cons head rest induction =>
      rw [exists_split_cons, reaches_nil, ReadLimit.iterLines]
      simp only [reaches_cons]
      by_cases late : limit.timeout < head.wait
      · simp [late, Int.not_le.mpr late]
      · have inTime : (head.wait : Int) ≤ limit.timeout := Int.not_lt.mp late
        rw [if_neg late]
        cases isLine : head.line with
        | none => simp [inTime, induction, waited_cons, Int.add_assoc]
        | some line =>
            have first : (some line = some entry.line ∧
                entry.time = now + waited ([] ++ [head])) ↔
                  entry = ⟨now + head.wait, line⟩ := by
              cases entry
              simp [waited, eq_comm, and_comm]
            rw [first]
            dsimp only
            cases block.turn line with
            | goOn next => simp [inTime, induction, waited_cons, Int.add_assoc]
            | final dataLines => simp [inTime]

theorem iterLines_more (now : Int) (block : Block) (before after : List Arrival) :
    (limit.iterLines .pending now block before).processed <+:
      (limit.iterLines ending now block (before ++ after)).processed := by
  induction before generalizing now block with
  | nil => exact List.nil_prefix
  | cons head rest induction =>
      rw [List.cons_append, ReadLimit.iterLines, ReadLimit.iterLines]
      by_cases late : limit.timeout < head.wait
      · simp [late]
      · rw [if_neg late, if_neg late]
        cases head.line with
        | none => exact induction _ block
        | some line =>
            dsimp only
            cases block.turn line with
            | goOn next => exact (List.prefix_cons_inj _).mpr (induction _ next)
            | final dataLines => exact List.prefix_rfl

theorem atEnd_outcome {α : Type} {now time : Int} {done : α}
    {result : Except CreateError α}
    (ended : limit.atEnd now done ending = .ended time result) :
    (∃ kind message, result = .error (.request kind message)) ∨ result = .ok done := by
  cases ending with
  | closed =>
      cases ended
      exact .inr rfl
  | failed wait kind message =>
      rw [ReadLimit.atEnd] at ended
      split at ended
      · cases ended
        exact .inl ⟨_, _, rfl⟩
      · cases ended
        exact .inl ⟨_, _, rfl⟩
  | pending => cases ended

theorem iterLines_outcome {now time : Int} {block : Block} {arrivals : List Arrival}
    {result : Except CreateError (Option (List Text))}
    (ended : (limit.iterLines ending now block arrivals).outcome = .ended time result) :
    (∃ kind message, result = .error (.request kind message)) ∨
      result = .ok (readLines block (linesOf arrivals)) := by
  induction arrivals generalizing now block with
  | nil => exact atEnd_outcome ended
  | cons head rest induction =>
      rw [ReadLimit.iterLines] at ended
      split at ended
      · cases ended
        exact .inl ⟨_, _, rfl⟩
      · dsimp only at ended
        cases isLine : head.line with
        | none =>
            rw [isLine] at ended
            rw [linesOf, List.filterMap_cons_none isLine]
            exact induction ended
        | some line =>
            rw [isLine] at ended
            rw [linesOf, List.filterMap_cons_some isLine, readLines]
            dsimp only at ended
            cases turned : block.turn line with
            | goOn next =>
                rw [turned] at ended
                exact induction ended
            | final dataLines =>
                rw [turned] at ended
                cases ended
                exact .inr rfl

theorem read_outcome {now time : Int} {arrivals : List Arrival}
    {result : Except CreateError Unit}
    (ended : limit.read ending now arrivals = .ended time result) :
    (∃ kind message, result = .error (.request kind message)) ∨ result = .ok () := by
  induction arrivals generalizing now with
  | nil => exact atEnd_outcome ended
  | cons head rest induction =>
      rw [ReadLimit.read] at ended
      split at ended
      · cases ended
        exact .inl ⟨_, _, rfl⟩
      · exact induction ended

end CreateStream

theorem Timed.andThen_ended {next : α → Except CreateError β} {timed : Timed α}
    {time : Int} {result : Except CreateError β}
    (ended : timed.andThen next = .ended time result) :
    ∃ inner, timed = .ended time inner ∧ result = inner.bind next := by
  cases timed with
  | ended moment inner =>
      cases ended
      exact ⟨inner, rfl, rfl⟩
  | pending => cases ended

theorem createInfoAttempt_isEventStream {reader : Reader} {response : CreateResponse}
    (isEventStream : response.isEventStream = true) :
    createInfoAttempt reader response =
      finish reader (readLines .start response.lines) := by
  rw [CreateResponse.isEventStream, Bool.and_eq_true, decide_eq_true_iff] at isEventStream
  exact createInfoAttempt_eventStream reader ⟨response, isEventStream.1, isEventStream.2⟩

theorem CreateAttempt.run_outcome {world : CreateWorld} {reader : Reader}
    {attempt : CreateAttempt} {time : Int} {result : Except CreateError Dict}
    (ended : (attempt.run world reader).outcome = .ended time result) :
    (∃ kind message, result = .error (.request kind message)) ∨
      ∃ wait response, attempt.answer = .responded wait response ∧
        result = createInfoAttempt reader response.toCreateResponse := by
  rw [run] at ended
  cases isAnswer : attempt.answer with
  | failed wait kind message =>
      rw [isAnswer] at ended
      cases ended
      exact .inl ⟨kind, message, rfl⟩
  | responded wait response =>
      rw [isAnswer] at ended
      dsimp only at ended
      split at ended
      · rename_i isEventStream
        rcases Timed.andThen_ended ended with ⟨inner, isInner, rfl⟩
        rcases iterLines_outcome isInner with ⟨kind, message, rfl⟩ | rfl
        · exact .inl ⟨kind, message, rfl⟩
        · apply Or.inr
          refine ⟨wait, response, rfl, ?_⟩
          rw [createInfoAttempt_isEventStream isEventStream, response.arrive]
          rfl
      · rcases Timed.andThen_ended ended with ⟨inner, isInner, rfl⟩
        rcases read_outcome isInner with ⟨kind, message, rfl⟩ | rfl
        · exact .inl ⟨kind, message, rfl⟩
        · exact .inr ⟨wait, response, rfl, rfl⟩
  | pending =>
      rw [isAnswer] at ended
      cases ended

/-! ## All attempts -/

structure CreateAttempt.Timely (deadline : Int) (attempt : CreateAttempt) : Prop where
  before : attempt.start < deadline
  timeout : attempt.timeout = deadline - attempt.start

theorem CreateWorld.iterate_timely {world : CreateWorld} {reader : Reader} {name : String}
    {deadline : Int} {left : Nat} {now : Int} {lastError : Option String}
    (attempts : List CreateAttempt)
    (timely : ∀ attempt ∈ attempts, attempt.Timely deadline) :
    ∀ attempt ∈ (world.iterate reader name deadline left now attempts lastError).attempts,
      attempt.Timely deadline := by
  induction left generalizing now attempts lastError with
  | zero => exact timely
  | succ left induction =>
      rw [iterate]
      dsimp only
      by_cases late : deadline - (now + world.pause (attempts.length + 1)) ≤ 0
      · rw [if_pos late]
        exact timely
      · rw [if_neg late]
        have more : ∀ attempt ∈ attempts ++ [⟨now + world.pause (attempts.length + 1),
            deadline - (now + world.pause (attempts.length + 1)),
            world.answer (attempts.length + 1)⟩], attempt.Timely deadline := by
          intro attempt isAttempt
          rcases List.mem_append.mp isAttempt with old | new
          · exact timely attempt old
          · cases List.mem_singleton.mp new
            exact ⟨by dsimp only; omega, rfl⟩
        split
        · exact more
        · exact more
        · split
          · exact more
          · split
            · exact more
            · exact induction _ more

theorem CreateWorld.iterate_pending {world : CreateWorld} {reader : Reader}
    {name : String} {deadline now : Int} {left : Nat} {attempts : List CreateAttempt}
    {lastError : Option String} {attempt : CreateAttempt}
    (before : ¬deadline - (now + world.pause (attempts.length + 1)) ≤ 0)
    (isAttempt : attempt = ⟨now + world.pause (attempts.length + 1),
      deadline - (now + world.pause (attempts.length + 1)),
      world.answer (attempts.length + 1)⟩)
    (pending : (attempt.run world reader).outcome = .pending) :
    world.iterate reader name deadline (left + 1) now attempts lastError =
      ⟨attempts ++ [attempt], .pending⟩ := by
  subst isAttempt
  rw [iterate]
  dsimp only
  rw [if_neg before, pending]

/-- Every line that arrives behind the deadline comes behind a final block, or behind a
read that took longer than the attempt had left when it began. -/
def CreateAttempt.InTime (deadline : Int) (attempt : CreateAttempt) : Prop :=
  ∀ wait response, attempt.answer = .responded wait response →
    response.isEventStream = true →
      ∀ before arrival after, response.arrivals = before ++ arrival :: after →
        arrival.line.isSome = true →
          deadline < attempt.start + wait + waited (before ++ [arrival]) →
            (finalBlock (linesOf before)).isSome = true ∨
              ∃ earlier ∈ before ++ [arrival], deadline - attempt.start < earlier.wait

theorem readLines_start_none {lines : List Text} :
    readLines .start lines = none ↔ ¬(finalBlock lines).isSome = true := by
  rw [readLines_start, Option.map_eq_none_iff, Option.not_isSome_iff_eq_none]

theorem CreateAttempt.processed_by_iff {world : CreateWorld} {reader : Reader}
    {deadline : Int} {attempt : CreateAttempt} (timely : attempt.Timely deadline) :
    (∀ entry ∈ (attempt.run world reader).processed, entry.time ≤ deadline) ↔
      attempt.InTime deadline := by
  rw [run, InTime]
  cases isAnswer : attempt.answer with
  | failed wait kind message => simp
  | responded wait response =>
      dsimp only
      cases isEventStream : response.isEventStream with
      | false => simp [isEventStream]
      | true =>
          rw [if_pos rfl]
          simp only [mem_iterLines]
          constructor
          · intro processed otherWait other same _ before arrival after split isLine late
            cases same
            by_contra neither
            rw [not_or] at neither
            have goesOn : readLines .start (linesOf before) = none :=
              readLines_start_none.mpr neither.1
            have inTime : ∀ earlier ∈ before ++ [arrival],
                (earlier.wait : Int) ≤ attempt.timeout := by
              intro earlier isEarlier
              rw [timely.timeout]
              exact Int.not_lt.mp fun long => neither.2 ⟨earlier, isEarlier, long⟩
            have onTime := processed ⟨_, arrival.line.get isLine⟩
              ⟨before, arrival, after, split, ⟨goesOn, inTime⟩,
                (Option.some_get isLine).symm, rfl⟩
            exact absurd onTime (Int.not_le.mpr late)
          · intro inTime entry isEntry
            rcases isEntry with ⟨before, arrival, after, split, reaches, isLine, isTime⟩
            rw [isTime]
            by_contra late
            rcases inTime wait response rfl isEventStream before arrival after split
              (Option.isSome_of_eq_some isLine) (Int.not_le.mp late) with
              final | ⟨earlier, isEarlier, long⟩
            · exact readLines_start_none.mp reaches.goesOn final
            · have short : (earlier.wait : Int) ≤ attempt.timeout :=
                reaches.inTime earlier isEarlier
              rw [timely.timeout] at short
              exact absurd long (Int.not_lt.mpr short)
  | pending => simp

/-- No line is processed behind the deadline exactly if every attempt that is made has its
lines in time. -/
theorem CreateWorld.createInfo_by_deadline_iff (world : CreateWorld) (reader : Reader)
    (body : Dict) (logical : Int)
    (isTimeout : logicalTimeout reader.builtins body = some logical) :
    ∃ run, world.createInfo reader body = some run ∧
      ((∀ entry ∈ run.processed world reader, entry.time ≤ world.deadline logical) ↔
        ∀ attempt ∈ run.attempts, attempt.InTime (world.deadline logical)) := by
  rw [createInfo, isTimeout]
  refine ⟨_, rfl, ?_⟩
  rw [CreateRun.processed, List.forall_mem_flatMap]
  apply forall₂_congr
  intro attempt isAttempt
  have timely := iterate_timely [] (by simp) attempt isAttempt
  exact CreateAttempt.processed_by_iff timely

/-! ### Heartbeats -/

def heartbeat : Arrival := ⟨100000000000, some ": heartbeat".toList⟩

def heartbeats (count : Nat) : TimedResponse where
  toCreateResponse := { EventStream.accepted with
    lines := linesOf (List.replicate count heartbeat) }
  arrivals := List.replicate count heartbeat
  ending := .pending
  arrive := rfl

def heartbeatWorld (count : Nat) : CreateWorld where
  began := 0
  pause := fun _ => 0
  answer := fun _ => .responded 0 (heartbeats count)
  readTimeout := "timed out"

theorem CreateWorld.createInfo_by_deadline_iff_heartbeat :
    logicalTimeout EventStream.runningReader.builtins [] = some 90 ∧
      ∃ run, (heartbeatWorld 1).createInfo EventStream.runningReader [] = some run ∧
        ((∀ entry ∈ run.processed (heartbeatWorld 1) EventStream.runningReader,
            entry.time ≤ (heartbeatWorld 1).deadline 90) ↔
          ∀ attempt ∈ run.attempts, attempt.InTime ((heartbeatWorld 1).deadline 90)) :=
  ⟨rfl, createInfo_by_deadline_iff (heartbeatWorld 1) EventStream.runningReader [] 90 rfl⟩

/-- Two heartbeats, each in time for its read, are processed behind a deadline of 120 s. -/
theorem heartbeats_pass_deadline :
    ¬∀ (world : CreateWorld) (reader : Reader) (body : Dict) (logical : Int),
      logicalTimeout reader.builtins body = some logical →
        ∃ run, world.createInfo reader body = some run ∧
          ∀ entry ∈ run.processed world reader, entry.time ≤ world.deadline logical := by
  intro claim
  rcases claim (heartbeatWorld 2) EventStream.runningReader [] 90 rfl with
    ⟨run, isRun, byDeadline⟩
  cases isRun
  exact absurd (byDeadline ⟨200000000000, ": heartbeat".toList⟩ (by decide)) (by decide)

theorem iterLines_heartbeats {limit : ReadLimit}
    (inTime : (heartbeat.wait : Int) ≤ limit.timeout) (now : Int) (count : Nat) :
    let reading := limit.iterLines .pending now .start (List.replicate count heartbeat)
    reading.outcome = .pending ∧
      ∀ position < count, ∃ entry ∈ reading.processed,
        entry.time = now + seconds (100 * (position + 1)) := by
  induction count generalizing now with
  | zero => exact ⟨rfl, by simp⟩
  | succ count induction =>
      have later := induction (now + heartbeat.wait)
      rw [List.replicate_succ, ReadLimit.iterLines, if_neg (Int.not_lt.mpr inTime)]
      refine ⟨later.1, ?_⟩
      intro position below
      cases position with
      | zero => exact ⟨_, List.mem_cons_self, rfl⟩
      | succ position =>
          rcases later.2 position (Nat.lt_of_succ_lt_succ below) with
            ⟨entry, isEntry, isTime⟩
          refine ⟨entry, List.mem_cons_of_mem _ isEntry, ?_⟩
          rw [isTime]
          simp only [heartbeat, seconds]
          omega

def heartbeatAttempt (count : Nat) : CreateAttempt where
  start := 0
  timeout := seconds 120
  answer := .responded 0 (heartbeats count)

theorem heartbeats_hold (count : Nat) :
    ∃ run, (heartbeatWorld count).createInfo EventStream.runningReader [] = some run ∧
      run.ending = .pending ∧
        ∀ position < count,
          ∃ entry ∈ run.processed (heartbeatWorld count) EventStream.runningReader,
            entry.time = seconds (100 * (position + 1)) := by
  let limit : ReadLimit := ⟨seconds 120, "timed out"⟩
  let reading := limit.iterLines .pending 0 .start (List.replicate count heartbeat)
  have read : reading.outcome = .pending ∧ ∀ position < count,
      ∃ entry ∈ reading.processed, entry.time = 0 + seconds (100 * (position + 1)) :=
    iterLines_heartbeats (by decide) 0 count
  have ran : (heartbeatAttempt count).run (heartbeatWorld count)
      EventStream.runningReader = ⟨reading.processed,
        reading.outcome.andThen (finish EventStream.runningReader)⟩ := rfl
  rw [read.1] at ran
  refine ⟨⟨[heartbeatAttempt count], .pending⟩, ?_, rfl, ?_⟩
  · have before : ¬seconds 120 - 0 ≤ 0 := by decide
    apply congrArg some
    exact CreateWorld.iterate_pending before rfl (congrArg AttemptRun.outcome ran)
  · intro position below
    rcases read.2 position below with ⟨entry, isEntry, isTime⟩
    refine ⟨entry, ?_, isTime.trans (Int.zero_add _)⟩
    apply List.mem_flatMap.mpr
    refine ⟨heartbeatAttempt count, List.mem_singleton_self _, ?_⟩
    rw [ran]
    exact isEntry

end YrSandbox.Transport
