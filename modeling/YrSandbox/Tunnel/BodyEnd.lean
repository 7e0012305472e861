import YrSandbox.Tunnel.StreamOwnership

/-! # The end of a request body

A body may be ended by an `http_req_end` frame or by the flag on a data frame. Only the
former is held against the length that the request has declared. -/

namespace YrSandbox.Tunnel

open Transition

/-! ## The rule -/

def Incarnation.Declared (length : Nat) (incarnation : Incarnation) : Prop :=
  ∀ declared ∈ incarnation.request.contentLength, declared = length

instance (length : Nat) (incarnation : Incarnation) :
    Decidable (incarnation.Declared length) :=
  inferInstanceAs (Decidable (∀ declared ∈ incarnation.request.contentLength, _))

theorem Incarnation.Declared.received {old new : Incarnation} {length : Nat}
    (declared : old.Declared length)
    (contentLength : new.request.contentLength = old.request.contentLength)
    (received : new.request.received = length) : new.Declared new.request.received := by
  rw [Incarnation.Declared, contentLength, received]
  exact declared

namespace Streams

def mayEnd : Exchange.Event → Bool
  | .httpReqEnd => true
  | .requestData _ _ endOfBody => endOfBody
  | _ => false

/-- The frame signals the end of the body of this stream, which has not ended before. A
data frame does so with what comes next in the body. -/
def SignalsEnd (streams : Streams) (stream : Nat) : Exchange.Event → Prop
  | .httpReqEnd =>
      streams.streamRequest = some stream ∧
        (streams.incarnation stream).request.ended = false
  | .requestData offset _ true =>
      streams.streamRequest = some stream ∧
        (streams.incarnation stream).request.ended = false ∧
        offset = some (streams.incarnation stream).request.received
  | _ => False

def receivedWith (streams : Streams) (stream : Nat) : Exchange.Event → Nat
  | .requestData _ payload _ =>
      (streams.incarnation stream).request.received + payload.length
  | _ => (streams.incarnation stream).request.received

end Streams

/-- A flagged data frame that is neither too much for the body limit nor for the window
ends the body where its request has declared the end. -/
def Exchange.FlagsMatch (exchange : Exchange) : Exchange.Event → Prop
  | .requestData offset payload true =>
      ∀ stream ∈ exchange.streamRequest,
        offset = some (exchange.incarnation stream).request.received →
        (exchange.incarnation stream).request.ended = false →
        (exchange.incarnation stream).request.received + payload.length ≤
          exchange.limits.negotiatedMaxBodySize →
        (exchange.incarnation stream).request.queue.put? (some payload) ≠ none →
        (exchange.incarnation stream).Declared
          ((exchange.incarnation stream).request.received + payload.length)
  | _ => True

instance (exchange : Exchange) : ∀ event, Decidable (exchange.FlagsMatch event)
  | .requestData _ _ true =>
      inferInstanceAs (Decidable (∀ stream ∈ exchange.streamRequest, _))
  | .requestData _ _ false | .httpReq _ | .httpReqBegin _ _ | .httpReqEnd | .windowFrame _
  | .errorFrame | .negotiated _ | .refused | .endPut | .start _ | .take _
  | .resumeContent _ | .credited _ | .respond _ | .cleanup _ | .smallRespond _
  | .smallFinish _ _ | .smallCallback _ | .disconnect | .reconnect _ | .tick _
  | .evictCompleted | .evictTerminated => .isTrue trivial

/-- The marker of one body; `awaiting` says that the receive loop waits to put it. -/
structure EndRule (awaiting : Prop) (incarnation : Incarnation) : Prop where
  once : incarnation.puts.count none ≤ 1
  marked : none ∈ incarnation.puts → incarnation.request.ended = true ∧ ¬awaiting
  awaited : awaiting → incarnation.request.ended = true
  lengths : incarnation.request.ended = true →
    incarnation.Declared incarnation.request.received

structure SameEnd (old new : Incarnation) : Prop where
  puts : new.puts = old.puts
  ended : new.request.ended = old.request.ended
  received : new.request.received = old.request.received
  contentLength : new.request.contentLength = old.request.contentLength

namespace EndRule

variable {awaiting : Prop} {incarnation : Incarnation}

theorem congr {new : Incarnation} (rule : EndRule awaiting incarnation)
    (same : SameEnd incarnation new) : EndRule awaiting new where
  once := by
    rw [same.puts]
    exact rule.once
  marked := by
    rw [same.puts, same.ended]
    exact rule.marked
  awaited := by
    rw [same.ended]
    exact rule.awaited
  lengths := by
    rw [same.ended, same.received, Incarnation.Declared, same.contentLength]
    exact rule.lengths

theorem opening (window : Nat) (contentLength : Option Nat) :
    EndRule False (Incarnation.opening window contentLength) where
  once := Nat.zero_le _
  marked := by
    intro marked
    cases marked
  awaited := False.elim
  lengths := by
    intro ended
    cases ended

theorem unmarked (rule : EndRule awaiting incarnation)
    (running : incarnation.request.ended = false) : none ∉ incarnation.puts := by
  intro marked
  have ended := (rule.marked marked).1
  rw [running] at ended
  cases ended

theorem accept {queue : BoundedQueue (Option Bytes)} {chunk : Chunk UInt8}
    (rule : EndRule False incarnation) (running : incarnation.request.ended = false) :
    EndRule False (incarnation.spend.accept queue chunk) where
  once := by
    have count := rule.once
    simpa [Incarnation.accept, Incarnation.spend] using count
  marked := by
    intro marked
    simp only [Incarnation.accept, Incarnation.spend, List.mem_append,
      List.mem_singleton, reduceCtorEq, or_false] at marked
    exact absurd marked (rule.unmarked running)
  awaited := False.elim
  lengths := by
    intro ended
    have unended : incarnation.request.ended = true := ended
    rw [running] at unended
    cases unended

theorem markEnded (rule : EndRule False incarnation)
    (running : incarnation.request.ended = false)
    (declared : incarnation.Declared incarnation.request.received) :
    EndRule True incarnation.markEnded where
  once := rule.once
  marked marked := absurd marked (rule.unmarked running)
  awaited _ := rfl
  lengths _ := declared

theorem putEnd {queue : BoundedQueue (Option Bytes)} (rule : EndRule True incarnation) :
    EndRule False (incarnation.putEnd queue) where
  once := by
    have unmarked : none ∉ incarnation.puts := fun marked => (rule.marked marked).2 trivial
    have count := List.count_eq_zero.mpr unmarked
    simp [Incarnation.putEnd, count]
  marked _ := ⟨rule.awaited trivial, id⟩
  awaited := False.elim
  lengths := rule.lengths

end EndRule

theorem Incarnation.sameEnd_take {incarnation taken : Incarnation}
    (took : incarnation.take = some taken) : SameEnd incarnation taken := by
  rcases Incarnation.take_eq_some took with ⟨_, _, -, -, rfl⟩ | ⟨_, -, -, rfl⟩
  · exact ⟨rfl, rfl, rfl, rfl⟩
  · exact ⟨rfl, rfl, rfl, rfl⟩

/-! ## One turn -/

structure EndsByRule (streams : Streams) : Prop where
  rule : ∀ stream,
    EndRule (streams.receiver = .puttingEnd stream) (streams.incarnation stream)
  registered : ∀ stream ∈ streams.streamRequest, stream < streams.opened

namespace EndsByRule

variable {streams next : Streams}

theorem not_putting (ends : EndsByRule streams)
    (notPutting : ∀ stream, streams.receiver ≠ .puttingEnd stream) (stream : Nat) :
    EndRule False (streams.incarnation stream) := by
  have rule := ends.rule stream
  rw [eq_false (notPutting stream)] at rule
  exact rule

theorem listening (ends : EndsByRule streams) (idle : streams.receiver = .idle)
    (stream : Nat) : EndRule False (streams.incarnation stream) := by
  apply ends.not_putting
  intro other
  rw [idle]
  exact Receiver.noConfusion

theorem of_not_putting (rules : ∀ stream, EndRule False (next.incarnation stream))
    (notPutting : ∀ stream, next.receiver ≠ .puttingEnd stream)
    (registered : ∀ stream ∈ next.streamRequest, stream < next.opened) :
    EndsByRule next where
  rule := by
    intro stream
    rw [eq_false (notPutting stream)]
    exact rules stream
  registered := registered

theorem modify {stream : Nat} {change : Incarnation → Incarnation}
    (ends : EndsByRule streams)
    (same : SameEnd (streams.incarnation stream) (change (streams.incarnation stream)))
    (incarnation : next.incarnation = (streams.modify stream change).incarnation)
    (receiver : next.receiver = streams.receiver) (opened : next.opened = streams.opened)
    (entry : next.streamRequest = streams.streamRequest ∨ next.streamRequest = none) :
    EndsByRule next where
  rule := by
    rw [incarnation, receiver]
    exact Streams.forall_modify
      (fun other incarnation =>
        EndRule (streams.receiver = .puttingEnd other) incarnation)
      ((ends.rule stream).congr same) fun other _ => ends.rule other
  registered := by
    rcases entry with entry | entry <;> rw [entry]
    · rw [opened]
      exact ends.registered
    · intro other isEntry
      cases isEntry

theorem modify_not_putting {stream : Nat} {change : Incarnation → Incarnation}
    (rules : ∀ other, EndRule False (streams.incarnation other))
    (changed : EndRule False (change (streams.incarnation stream)))
    (incarnation : next.incarnation = (streams.modify stream change).incarnation)
    (notPutting : ∀ other, next.receiver ≠ .puttingEnd other)
    (registered : ∀ other ∈ next.streamRequest, other < next.opened) :
    EndsByRule next where
  rule := by
    intro other
    rw [eq_false (notPutting other), incarnation]
    exact Streams.forall_modify (fun _ incarnation => EndRule False incarnation) changed
      (fun other _ => rules other) other
  registered := registered

theorem bodyEnds {stream : Nat} (ends : EndsByRule streams)
    (idle : streams.receiver = .idle)
    (running : (streams.incarnation stream).request.ended = false)
    (declared : (streams.incarnation stream).Declared
      (streams.incarnation stream).request.received)
    (turn : streams.BodyEnds stream next) : EndsByRule next := by
  have rule := ends.listening idle stream
  have marked := rule.markEnded running declared
  rcases turn with ⟨queue, _, rfl⟩ | ⟨_, rfl⟩
  · refine .modify_not_putting (ends.listening idle) ?_ rfl ?_ ends.registered
    · exact marked.putEnd
    · intro other
      simp [idle]
  · refine ⟨fun other => ?_, ends.registered⟩
    by_cases same : other = stream
    · subst same
      simpa using marked
    · have elsewhere := Receiver.puttingEnd_ne same
      simp only [Streams.modify_other same, eq_false elsewhere]
      exact ends.listening idle other

theorem extend {stream : Nat} {chunk : Chunk UInt8}
    {queue : BoundedQueue (Option Bytes)} (ends : EndsByRule streams)
    (idle : streams.receiver = .idle)
    (running : (streams.incarnation stream).request.ended = false) :
    EndsByRule (streams.extend stream queue chunk) := by
  refine .modify_not_putting (ends.listening idle) ?_ rfl ?_ ends.registered
  · exact (ends.listening idle stream).accept running
  · intro other
    simp [Streams.extend, idle]

theorem endPut {stream : Nat} {queue : BoundedQueue (Option Bytes)}
    (ends : EndsByRule streams) (putting : streams.receiver = .puttingEnd stream) :
    EndsByRule
      { streams.modify stream (Incarnation.putEnd queue) with receiver := .idle } := by
  apply EndsByRule.of_not_putting
  · apply Streams.forall_modify (fun _ incarnation => EndRule False incarnation)
    · have rule := ends.rule stream
      rw [eq_true putting] at rule
      exact rule.putEnd
    · intro other different
      have rule := ends.rule other
      have elsewhere : streams.receiver ≠ .puttingEnd other := by
        rw [putting]
        exact Receiver.puttingEnd_ne different
      rw [eq_false elsewhere] at rule
      exact rule
  · exact fun _ => Receiver.noConfusion
  · exact ends.registered

end EndsByRule

/-- Where a body that one of the streams had running has ended, it has the length that was
declared. -/
def Streams.EndsDeclared (streams next : Streams) : Prop :=
  ∀ stream ∈ streams.streamRequest,
    (streams.incarnation stream).request.ended = false →
    (next.incarnation stream).request.ended = true →
    (next.incarnation stream).Declared (next.incarnation stream).request.received

theorem Streams.BodyEnds.request {stream : Nat} {streams next : Streams}
    (ends : streams.BodyEnds stream next) :
    (next.incarnation stream).request.ended = true ∧
      (next.incarnation stream).request.received =
        (streams.incarnation stream).request.received ∧
      (next.incarnation stream).request.contentLength =
        (streams.incarnation stream).request.contentLength := by
  rcases ends with ⟨queue, _, rfl⟩ | ⟨_, rfl⟩
  · simp [Incarnation.putEnd, Incarnation.markEnded]
  · simp [Incarnation.markEnded]

theorem Streams.BodyEnds.declared {stream : Nat} {streams next : Streams}
    (ends : streams.BodyEnds stream next)
    (declared : (next.incarnation stream).Declared
      (next.incarnation stream).request.received) :
    (streams.incarnation stream).Declared
      (streams.incarnation stream).request.received := by
  rcases ends.request with ⟨_, received, contentLength⟩
  rw [received] at declared
  exact declared.received contentLength.symm rfl

theorem StreamTurn.endsByRule {limits : Limits} {answered : Bool} {streams next : Streams}
    {event : Exchange.Event} (turn : StreamTurn limits answered streams event next)
    (ends : EndsByRule streams)
    (declared : Streams.mayEnd event = true → streams.EndsDeclared next) :
    EndsByRule next := by
  cases turn with
  | idle => exact ends
  | raised listening =>
      exact .of_not_putting (ends.listening listening) (fun _ => Receiver.noConfusion)
        ends.registered
  | opened contentLength listening _ _ =>
      apply EndsByRule.of_not_putting
      · intro stream
        simp only [Streams.register]
        split
        · exact .opening ..
        · exact ends.listening listening stream
      · intro stream
        simp [Streams.register, listening]
      · intro stream entry
        cases entry
        exact Nat.lt_succ_self _
  | resumed _ _ => exact ends.modify ⟨rfl, rfl, rfl, rfl⟩ rfl rfl rfl (.inl rfl)
  | rejected listening _ outcome =>
      refine .modify_not_putting (ends.listening listening) ?_ rfl ?_ ends.registered
      · exact (ends.listening listening _).congr ⟨rfl, rfl, rfl, rfl⟩
      · intro other
        rcases outcome with rfl | ⟨message, rfl⟩ | rfl <;> exact Receiver.noConfusion
  | extended listening _ _ running _ => exact ends.extend listening running
  | completed listening registered _ running _ bodyEnds =>
      refine (ends.extend listening running).bodyEnds listening ?_ ?_ bodyEnds
      · simpa [Streams.extend, Incarnation.accept, Incarnation.spend] using running
      · exact bodyEnds.declared (declared rfl _ registered running bodyEnds.request.1)
  | mismatched listening _ =>
      exact .of_not_putting (ends.listening listening) (fun _ => Receiver.noConfusion)
        ends.registered
  | ended listening registered running bodyEnds =>
      refine ends.bodyEnds listening running ?_ bodyEnds
      exact bodyEnds.declared (declared rfl _ registered running bodyEnds.request.1)
  | cancelled _ _ => exact ends.modify ⟨rfl, rfl, rfl, rfl⟩ rfl rfl rfl (.inr rfl)
  | refused refusing =>
      have rules := ends.not_putting (by simp [refusing])
      refine .modify_not_putting rules ?_ rfl (fun _ => Receiver.noConfusion) ?_
      · exact (rules _).congr ⟨rfl, rfl, rfl, rfl⟩
      · intro other isEntry
        cases isEntry
  | endPut putting _ => exact ends.endPut putting
  | started _ => exact ends.modify ⟨rfl, rfl, rfl, rfl⟩ rfl rfl rfl (.inl rfl)
  | taken _ _ took =>
      exact ends.modify (Incarnation.sameEnd_take took) rfl rfl rfl (.inl rfl)
  | resumedContent _ _ => exact ends.modify ⟨rfl, rfl, rfl, rfl⟩ rfl rfl rfl (.inl rfl)
  | credited _ _ => exact ends.modify ⟨rfl, rfl, rfl, rfl⟩ rfl rfl rfl (.inl rfl)
  | cleaned _ => exact ends.modify ⟨rfl, rfl, rfl, rfl⟩ rfl rfl rfl (.inr rfl)
  | disconnected between =>
      have rules := ends.not_putting (by
        rcases between with idle | ⟨message, raised⟩
        · simp [idle]
        · simp [raised])
      apply EndsByRule.of_not_putting
      · intro stream
        exact (rules stream).congr ⟨rfl, rfl, rfl, rfl⟩
      · exact fun _ => Receiver.noConfusion
      · exact ends.registered

/-! ## Streams that are given up -/

/-- The body of this stream will not end: the error is being sent, or its task has been
cancelled. -/
structure GivenUp (stream : Nat) (streams : Streams) : Prop where
  opened : stream < streams.opened
  running : (streams.incarnation stream).request.ended = false
  unmarked : none ∉ (streams.incarnation stream).puts
  failing : streams.receiver = .refusing stream ∨
    streams.receiver ≠ .puttingEnd stream ∧ streams.streamRequest ≠ some stream ∧
      ¬(streams.incarnation stream).Active

namespace GivenUp

variable {stream : Nat} {streams next : Streams}

theorem cancelled (givenUp : GivenUp stream streams) (idle : streams.receiver = .idle) :
    streams.streamRequest ≠ some stream ∧ ¬(streams.incarnation stream).Active := by
  rcases givenUp.failing with refusing | ⟨_, inactive⟩
  · rw [idle] at refusing
    cases refusing
  · exact inactive

theorem different {other : Nat} (givenUp : GivenUp stream streams)
    (idle : streams.receiver = .idle) (registered : streams.streamRequest = some other) :
    stream ≠ other := by
  intro same
  subst same
  exact (givenUp.cancelled idle).1 registered

theorem of_same (givenUp : GivenUp stream streams) (opened : streams.opened ≤ next.opened)
    (same : SameEnd (streams.incarnation stream) (next.incarnation stream))
    (failing : next.receiver = .refusing stream ∨
      next.receiver ≠ .puttingEnd stream ∧ next.streamRequest ≠ some stream ∧
        ¬(next.incarnation stream).Active) : GivenUp stream next where
  opened := Nat.lt_of_lt_of_le givenUp.opened opened
  running := by
    rw [same.ended]
    exact givenUp.running
  unmarked := by
    rw [same.puts]
    exact givenUp.unmarked
  failing := failing

theorem of_idle (givenUp : GivenUp stream streams) (idle : streams.receiver = .idle)
    (opened : streams.opened ≤ next.opened)
    (incarnation : next.incarnation stream = streams.incarnation stream)
    (receiver : next.receiver ≠ .puttingEnd stream)
    (entry : next.streamRequest ≠ some stream) : GivenUp stream next := by
  apply givenUp.of_same opened
  · rw [incarnation]
    exact ⟨rfl, rfl, rfl, rfl⟩
  · rw [incarnation]
    exact .inr ⟨receiver, entry, (givenUp.cancelled idle).2⟩

theorem modify {other : Nat} {change : Incarnation → Incarnation}
    (givenUp : GivenUp stream streams)
    (same : SameEnd (streams.incarnation other) (change (streams.incarnation other)))
    (inactive : ¬(streams.incarnation other).Active →
      ¬(change (streams.incarnation other)).Active)
    (incarnation : next.incarnation = (streams.modify other change).incarnation)
    (receiver : next.receiver = streams.receiver) (opened : next.opened = streams.opened)
    (entry : next.streamRequest = streams.streamRequest ∨ next.streamRequest = none) :
    GivenUp stream next := by
  have kept : SameEnd (streams.incarnation stream) (next.incarnation stream) ∧
      (¬(streams.incarnation stream).Active → ¬(next.incarnation stream).Active) := by
    rw [incarnation]
    exact Streams.forall_modify
      (fun index incarnation => SameEnd (streams.incarnation index) incarnation ∧
        (¬(streams.incarnation index).Active → ¬incarnation.Active))
      ⟨same, inactive⟩ (fun _ _ => ⟨⟨rfl, rfl, rfl, rfl⟩, id⟩) stream
  apply givenUp.of_same (Nat.le_of_eq opened.symm) kept.1
  rw [receiver]
  rcases givenUp.failing with refusing | ⟨notPutting, unregistered, cancelled⟩
  · exact .inl refusing
  · refine .inr ⟨notPutting, ?_, kept.2 cancelled⟩
    rcases entry with entry | entry <;> rw [entry]
    · exact unregistered
    · exact Option.some_ne_none stream |>.symm

theorem refused {other : Nat} (givenUp : GivenUp stream streams)
    (refusing : streams.receiver = .refusing other) :
    GivenUp stream
      { streams.modify other Incarnation.cancel with
        receiver := .idle, streamRequest := none } := by
  have unregistered : none ≠ some stream := (Option.some_ne_none stream).symm
  by_cases same : stream = other
  · subst same
    refine givenUp.of_same (Nat.le_refl _) ?_ ?_
    · rw [Streams.modify_same]
      exact ⟨rfl, rfl, rfl, rfl⟩
    · rw [Streams.modify_same]
      exact .inr ⟨Receiver.noConfusion, unregistered, Incarnation.not_active_cancel _⟩
  · refine givenUp.of_same (Nat.le_refl _) ?_ ?_
    · rw [Streams.modify_other same]
      exact ⟨rfl, rfl, rfl, rfl⟩
    · rw [Streams.modify_other same]
      rcases givenUp.failing with refuses | ⟨_, _, cancelled⟩
      · rw [refusing] at refuses
        cases refuses
        exact absurd rfl same
      · exact .inr ⟨Receiver.noConfusion, unregistered, cancelled⟩

theorem endPut {other : Nat} {queue : BoundedQueue (Option Bytes)}
    (givenUp : GivenUp stream streams) (putting : streams.receiver = .puttingEnd other) :
    GivenUp stream
      { streams.modify other (Incarnation.putEnd queue) with receiver := .idle } := by
  rcases givenUp.failing with refusing | ⟨notPutting, unregistered, cancelled⟩
  · rw [putting] at refusing
    cases refusing
  · have different : stream ≠ other := by
      intro same
      subst same
      exact notPutting putting
    refine givenUp.of_same (Nat.le_refl _) ?_ ?_
    · rw [Streams.modify_other different]
      exact ⟨rfl, rfl, rfl, rfl⟩
    · rw [Streams.modify_other different]
      exact .inr ⟨Receiver.noConfusion, unregistered, cancelled⟩

end GivenUp

theorem StreamTurn.givenUp {limits : Limits} {answered : Bool} {streams next : Streams}
    {event : Exchange.Event} {stream : Nat}
    (turn : StreamTurn limits answered streams event next)
    (givenUp : GivenUp stream streams) : GivenUp stream next := by
  have bodyEnds {other : Nat} {before : Streams} (different : stream ≠ other)
      (idle : streams.receiver = .idle)
      (incarnation : before.incarnation stream = streams.incarnation stream)
      (receiver : before.receiver = streams.receiver)
      (opened : before.opened = streams.opened)
      (entry : before.streamRequest = streams.streamRequest)
      (ends : before.BodyEnds other next) : GivenUp stream next := by
    have unregistered := (givenUp.cancelled idle).1
    rcases ends with ⟨queue, _, rfl⟩ | ⟨_, rfl⟩
    · refine givenUp.of_idle idle (Nat.le_of_eq opened.symm) ?_ ?_ (entry ▸ unregistered)
      · rw [Streams.modify_other different, incarnation]
      · simp [receiver, idle]
    · refine givenUp.of_idle idle (Nat.le_of_eq opened.symm) ?_ ?_ (entry ▸ unregistered)
      · rw [← incarnation]
        exact Streams.modify_other different ..
      · intro putting
        cases putting
        exact different rfl
  cases turn with
  | idle => exact givenUp
  | raised listening =>
      exact givenUp.of_idle listening (Nat.le_refl _) rfl Receiver.noConfusion
        (givenUp.cancelled listening).1
  | opened contentLength listening _ _ =>
      have earlier := givenUp.opened
      refine givenUp.of_idle listening (Nat.le_succ _) ?_ ?_ ?_
      · simp only [Streams.register, if_neg (Nat.ne_of_lt earlier)]
      · simp [Streams.register, listening]
      · intro same
        cases same
        exact Nat.lt_irrefl _ earlier
  | resumed _ _ =>
      exact givenUp.modify ⟨rfl, rfl, rfl, rfl⟩ id rfl rfl rfl (.inl rfl)
  | rejected listening registered outcome =>
      refine givenUp.of_idle listening (Nat.le_refl _) ?_ ?_
        (givenUp.cancelled listening).1
      · exact Streams.modify_other (givenUp.different listening registered) ..
      · rcases outcome with rfl | ⟨message, rfl⟩ | rfl <;> exact Receiver.noConfusion
  | extended listening registered _ _ _ =>
      refine givenUp.of_idle listening (Nat.le_refl _) ?_ ?_
        (givenUp.cancelled listening).1
      · exact Streams.modify_other (givenUp.different listening registered) ..
      · simp [Streams.extend, listening]
  | completed listening registered _ _ _ ends =>
      have different := givenUp.different listening registered
      exact bodyEnds different listening (Streams.modify_other different ..)
        rfl rfl rfl ends
  | mismatched listening _ =>
      exact givenUp.of_idle listening (Nat.le_refl _) rfl Receiver.noConfusion
        (givenUp.cancelled listening).1
  | ended listening registered _ ends =>
      have different := givenUp.different listening registered
      exact bodyEnds different listening rfl rfl rfl rfl ends
  | cancelled _ _ =>
      refine givenUp.modify ⟨rfl, rfl, rfl, rfl⟩ ?_ rfl rfl rfl (.inr rfl)
      exact fun _ => Incarnation.not_active_cancel _
  | refused refusing => exact givenUp.refused refusing
  | endPut putting _ => exact givenUp.endPut putting
  | started created =>
      exact givenUp.modify ⟨rfl, rfl, rfl, rfl⟩
        (fun cancelled => absurd (.inl created) cancelled)
        rfl rfl rfl (.inl rfl)
  | taken _ _ took =>
      refine givenUp.modify (Incarnation.sameEnd_take took) ?_ rfl rfl rfl (.inl rfl)
      rw [Incarnation.Active, Incarnation.Active, Incarnation.take_task took]
      exact id
  | resumedContent _ _ =>
      exact givenUp.modify ⟨rfl, rfl, rfl, rfl⟩ id rfl rfl rfl (.inl rfl)
  | credited _ _ =>
      exact givenUp.modify ⟨rfl, rfl, rfl, rfl⟩ id rfl rfl rfl (.inl rfl)
  | cleaned _ =>
      refine givenUp.modify ⟨rfl, rfl, rfl, rfl⟩ ?_ rfl rfl rfl (.inr rfl)
      simp [Incarnation.Active, Incarnation.finish]
  | disconnected between =>
      rcases givenUp.failing with refusing | ⟨notPutting, unregistered, cancelled⟩
      · rw [refusing] at between
        simp at between
      · refine givenUp.of_same (Nat.le_refl _) ⟨rfl, rfl, rfl, rfl⟩ ?_
        exact .inr ⟨Receiver.noConfusion, unregistered, cancelled⟩

/-! ## The frames -/

namespace Exchange

variable {exchange next : Exchange} {stream : Nat}

theorem any_ne_iff {incarnation : Incarnation} {length : Nat} :
    incarnation.request.contentLength.any (· ≠ length) = true ↔
      ¬incarnation.Declared length := by
  rw [Incarnation.Declared]
  cases incarnation.request.contentLength with
  | none => simp
  | some declared => simp

theorem streamEnd_mismatch
    (running : (exchange.incarnation stream).request.ended = false)
    (mismatch : ¬(exchange.incarnation stream).Declared
      (exchange.incarnation stream).request.received) :
    exchange.streamEnd stream =
      exchange.refuse stream "request content length mismatch" := by
  rw [streamEnd]
  simp only [running, any_ne_iff.mpr mismatch, if_true, Bool.false_eq_true, if_false]

theorem streamData_over {payload : Bytes} {endOfBody : Bool}
    (running : (exchange.incarnation stream).request.ended = false)
    (tooLong : exchange.limits.negotiatedMaxBodySize <
      (exchange.incarnation stream).request.received + payload.length) :
    exchange.streamData stream
        (some (exchange.incarnation stream).request.received) payload
        endOfBody =
      (exchange.modify stream Incarnation.spend).refuse stream
        "request body exceeds tunnel limit" := by
  rw [streamData]
  simp only [Nat.lt_irrefl, if_false, running, Bool.false_eq_true]
  exact if_pos tooLong

theorem streamData_full {payload : Bytes} {endOfBody : Bool}
    (running : (exchange.incarnation stream).request.ended = false)
    (within : (exchange.incarnation stream).request.received + payload.length ≤
      exchange.limits.negotiatedMaxBodySize)
    (full : (exchange.incarnation stream).request.queue.put? (some payload) = none) :
    exchange.streamData stream
        (some (exchange.incarnation stream).request.received) payload
        endOfBody =
      (exchange.modify stream Incarnation.spend).refuse stream
        "request stream exceeded advertised window" := by
  rw [streamData]
  simp only [Nat.lt_irrefl, if_false, running, Bool.false_eq_true, full]
  exact if_neg (Nat.not_lt.mpr within)

theorem httpReqEnd_endsDeclared :
    exchange.toStreams.EndsDeclared exchange.httpReqEnd.toStreams := by
  intro stream registered running ended
  have handled : exchange.httpReqEnd = exchange.streamEnd stream := by
    rw [httpReqEnd, Option.mem_def.mp registered]
  rw [handled] at ended ⊢
  by_cases declared : (exchange.incarnation stream).Declared
      (exchange.incarnation stream).request.received
  · have matching : ¬(exchange.incarnation stream).request.contentLength.any
        (· ≠ (exchange.incarnation stream).request.received) = true :=
      fun mismatch => any_ne_iff.mp mismatch declared
    have ends : exchange.streamEnd stream = exchange.endBody stream := by
      rw [streamEnd]
      simp only [running, matching, Bool.false_eq_true, if_false]
    rw [ends]
    rcases (endBody_streams stream exchange).request with ⟨_, received, contentLength⟩
    exact declared.received contentLength received
  · rw [streamEnd_mismatch running declared] at ended
    have unended : (exchange.incarnation stream).request.ended = true := ended
    rw [running] at unended
    cases unended

theorem refused_not_ended {message : String}
    (running : (exchange.incarnation stream).request.ended = false) :
    (((exchange.modify stream Incarnation.spend).refuse stream message).incarnation
      stream).request.ended = false := by
  simpa [refuse, reply, modify, Incarnation.spend] using running

theorem requestData_endsDeclared {offset : Option Nat} {payload : Bytes}
    (listening : exchange.receiver = .idle)
    (flags : exchange.FlagsMatch (.requestData offset payload true)) :
    exchange.toStreams.EndsDeclared
      (exchange.requestData offset payload true).toStreams := by
  intro stream registered running ended
  have handled : exchange.requestData offset payload true =
      exchange.streamData stream offset payload true := by
    rw [requestData, Option.mem_def.mp registered]
  have turn := requestData_turn listening offset payload true
  rw [handled] at turn ended ⊢
  generalize after : (exchange.streamData stream offset payload true).toStreams = next
    at turn ended ⊢
  cases turn with
  | idle | raised _ =>
      rw [running] at ended
      cases ended
  | rejected _ entry _ =>
      cases (Option.mem_def.mp registered).symm.trans entry
      have unended : (exchange.incarnation stream).request.ended = true := by
        simpa [Incarnation.spend] using ended
      rw [running] at unended
      cases unended
  | completed _ entry follows _ room ends =>
      cases (Option.mem_def.mp registered).symm.trans entry
      subst follows
      have within : (exchange.incarnation stream).request.received + payload.length ≤
          exchange.limits.negotiatedMaxBodySize := by
        by_contra tooLong
        rw [streamData_over running (Nat.not_le.mp tooLong)] at after
        rw [← after] at ended
        rw [refused_not_ended running] at ended
        cases ended
      have isRoom :
          (exchange.incarnation stream).request.queue.put? (some payload) ≠ none :=
        room ▸ Option.some_ne_none _
      have declared := flags stream registered rfl running within isRoom
      rcases ends.request with ⟨_, received, contentLength⟩
      apply declared.received
      · rw [contentLength]
        simp [Streams.extend, Incarnation.accept, Incarnation.spend]
      · rw [received]
        simp [Streams.extend, Incarnation.accept, Chunk.finish]

/-- One step keeps the rule as long as the flags match. -/
theorem step_endsByRule {event : Event} (ends : EndsByRule exchange.toStreams)
    (flags : exchange.FlagsMatch event) (stepped : exchange.step event = some next) :
    EndsByRule next.toStreams := by
  apply (step_turn stepped).endsByRule ends
  intro mayEnd
  cases event with
  | httpReqEnd =>
      simp only [step, Option.ite_none_right_eq_some, Option.some.injEq] at stepped
      rcases stepped with ⟨_, rfl⟩
      exact httpReqEnd_endsDeclared
  | requestData offset payload endOfBody =>
      simp only [step, Option.ite_none_right_eq_some, Option.some.injEq] at stepped
      rcases stepped with ⟨listening, rfl⟩
      have flagged : endOfBody = true := mayEnd
      subst flagged
      exact requestData_endsDeclared (idle_of_listening listening) flags
  | _ => cases mayEnd

theorem refuse_givenUp (ends : EndsByRule exchange.toStreams) {refused : Exchange}
    (message : String) (running : (exchange.incarnation stream).request.ended = false)
    (registered : exchange.streamRequest = some stream)
    (opened : refused.opened = exchange.opened)
    (same : SameEnd (exchange.incarnation stream) (refused.incarnation stream)) :
    GivenUp stream (refused.refuse stream message).toStreams where
  opened := by
    have earlier := ends.registered stream registered
    rw [← opened] at earlier
    exact earlier
  running := same.ended.trans running
  unmarked := by
    have unmarked := (ends.rule stream).unmarked running
    rw [← same.puts] at unmarked
    exact unmarked
  failing := .inl rfl

theorem step_givesUp {event : Event} (ends : EndsByRule exchange.toStreams)
    (flags : exchange.FlagsMatch event) (stepped : exchange.step event = some next)
    (signals : exchange.toStreams.SignalsEnd stream event)
    (mismatch : ¬(exchange.incarnation stream).Declared
      (exchange.toStreams.receivedWith stream event)) :
    (∃ message, next.replies = exchange.replies ++ [.error message]) ∧
      GivenUp stream next.toStreams := by
  cases event with
  | httpReqEnd =>
      simp only [step, Option.ite_none_right_eq_some, Option.some.injEq] at stepped
      rcases stepped with ⟨_, rfl⟩
      rcases signals with ⟨registered, running⟩
      rw [httpReqEnd, registered]
      dsimp only
      rw [streamEnd_mismatch running mismatch]
      exact ⟨⟨_, rfl⟩, refuse_givenUp ends _ running registered rfl ⟨rfl, rfl, rfl, rfl⟩⟩
  | requestData offset payload endOfBody =>
      simp only [step, Option.ite_none_right_eq_some, Option.some.injEq] at stepped
      rcases stepped with ⟨_, rfl⟩
      cases endOfBody with
      | false => cases signals
      | true =>
          rcases signals with ⟨registered, running, rfl⟩
          rw [requestData, registered]
          dsimp only
          have same : SameEnd (exchange.incarnation stream)
              ((exchange.modify stream Incarnation.spend).incarnation stream) := by
            simp only [modify, Streams.modify_same]
            exact ⟨rfl, rfl, rfl, rfl⟩
          by_cases within : (exchange.incarnation stream).request.received +
              payload.length ≤ exchange.limits.negotiatedMaxBodySize
          · have full : (exchange.incarnation stream).request.queue.put? (some payload) =
                none := by
              by_contra room
              exact mismatch (flags stream registered rfl running within room)
            rw [streamData_full running within full]
            exact ⟨⟨_, rfl⟩, refuse_givenUp ends _ running registered rfl same⟩
          · rw [streamData_over running (Nat.not_le.mp within)]
            exact ⟨⟨_, rfl⟩, refuse_givenUp ends _ running registered rfl same⟩
  | _ => cases signals

/-! ## Along a run -/

theorem initial_endsByRule (rid : String) (limits : Limits) :
    EndsByRule (initial rid limits).toStreams := by
  apply EndsByRule.of_not_putting
  · intro _
    exact (EndRule.opening _ none).congr ⟨rfl, rfl, rfl, rfl⟩
  · exact fun _ => Receiver.noConfusion
  · intro stream entry
    cases entry

theorem run_endsByRule {start final : Exchange} {events : List Event}
    (ran : run step start events = some final) (ends : EndsByRule start.toStreams)
    (flags : Meets step FlagsMatch start events) : EndsByRule final.toStreams :=
  invariant_under (fun exchange => EndsByRule exchange.toStreams)
    (fun _ _ _ ends flags stepped => step_endsByRule ends flags stepped) ends flags ran

theorem run_givenUp {start final : Exchange} {events : List Event}
    (ran : run step start events = some final) (givenUp : GivenUp stream start.toStreams) :
    GivenUp stream final.toStreams :=
  invariant_of_run (fun exchange => GivenUp stream exchange.toStreams)
    (fun _ _ _ givenUp stepped => (step_turn stepped).givenUp givenUp) givenUp ran

/-- While no flagged data frame ends a body of another length than was declared, each body
is marked once at most, where its length was declared or none was, and every signal of
another end is answered with an error and gives up its stream. -/
theorem run_endsByLength {rid : String} {limits : Limits} {events : List Event}
    {final : Exchange} (ran : run step (initial rid limits) events = some final)
    (flags : Meets step FlagsMatch (initial rid limits) events) :
    (∀ stream, (final.incarnation stream).puts.count none ≤ 1 ∧
      (none ∈ (final.incarnation stream).puts →
        (final.incarnation stream).Declared (final.incarnation stream).request.received)) ∧
    ∀ before event after middle next, events = before ++ event :: after →
      run step (initial rid limits) before = some middle → step middle event = some next →
      ∀ stream, middle.toStreams.SignalsEnd stream event →
        ¬(middle.incarnation stream).Declared
          (middle.toStreams.receivedWith stream event) →
        (∃ message, next.replies = middle.replies ++ [.error message]) ∧
          GivenUp stream final.toStreams := by
  have start := initial_endsByRule rid limits
  constructor
  · intro stream
    have rule := (run_endsByRule ran start flags).rule stream
    exact ⟨rule.once, fun marked => rule.lengths (rule.marked marked).1⟩
  · rintro before event after middle next rfl ranBefore stepped stream signals mismatch
    rcases flags.append ranBefore with ⟨flagsBefore, flagsAfter⟩
    have ends := run_endsByRule ranBefore start flagsBefore
    rcases step_givesUp ends flagsAfter.head stepped signals mismatch with
      ⟨answered, givenUp⟩
    rcases run_append ran with ⟨same, ranSame, ranRest⟩
    cases ranBefore.symm.trans ranSame
    rcases run_cons ranRest with ⟨other, steppedOther, ranAfter⟩
    cases stepped.symm.trans steppedOther
    exact ⟨answered, run_givenUp ranAfter givenUp⟩

/-- A body of two chunks whose last one has the flag, where the declared length is. -/
theorem run_endsByLength_two_chunks :
    ((after step (initial "upload" (.withWindow 4 fourFrames))
      [.httpReqBegin (some 3) 0, .requestData (some 0) [7] false,
        .requestData (some 1) [8, 9] true]).incarnation 0).puts.count none ≤ 1 :=
  ((run_endsByLength (run_eq_after (by decide)) (by decide)).1 0).1

/-- The flag on a data frame ends a body of one byte where five were declared. -/
theorem flagged_end_ignores_content_length :
    ¬∀ (rid : String) (limits : Limits) (events : List Event) (final : Exchange),
      run step (initial rid limits) events = some final →
      ∀ stream, none ∈ (final.incarnation stream).puts →
        (final.incarnation stream).Declared
          (final.incarnation stream).request.received := by
  intro claim
  have declared := claim "upload" (.withWindow 4 fourFrames)
    [.httpReqBegin (some 5) 0, .requestData (some 0) [7] true] _ rfl 0 (by decide)
  exact absurd declared (by decide)

end Exchange

end YrSandbox.Tunnel
