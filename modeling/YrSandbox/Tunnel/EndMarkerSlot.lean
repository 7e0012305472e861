import YrSandbox.Tunnel.StreamTurns

/-! # A slot for the end marker

A request queue has as many slots as its peer has credits, and the end marker
takes one more without spending a credit. The receive loop is kept from waiting
for a slow HTTP client as long as a credit is left over for the marker. -/

namespace YrSandbox.Tunnel

open Transition

/-! ## The budget of one incarnation -/

/-- Until the body ends, every slot is a queued chunk, a credit on its way back or
a credit that the peer can still spend. -/
structure Budget (incarnation : Incarnation) : Prop where
  within : incarnation.request.ended = false →
    incarnation.request.queue.qsize + incarnation.request.pendingCredit +
      incarnation.allowance ≤ incarnation.request.queue.maxsize
  owed : incarnation.task = .running →
    incarnation.content = .yielded ∨ incarnation.content = .crediting →
    0 < incarnation.request.pendingCredit
  unstarted : incarnation.task = .created → incarnation.content = .waiting

namespace Budget

variable {incarnation : Incarnation}

theorem opening (window : Nat) (contentLength : Option Nat) :
    Budget (Incarnation.opening window contentLength) where
  within _ := by simp [Incarnation.opening, BoundedQueue.qsize]
  owed running := by cases running
  unstarted _ := rfl

theorem spend (budget : Budget incarnation) : Budget incarnation.spend where
  within running := by
    have within := budget.within running
    simp only [Incarnation.spend]
    omega
  owed := budget.owed
  unstarted := budget.unstarted

theorem voidCredits (budget : Budget incarnation) : Budget incarnation.voidCredits where
  within running := by
    have within := budget.within running
    simp only [Incarnation.voidCredits]
    omega
  owed := budget.owed
  unstarted := budget.unstarted

theorem resume {limits : Limits} (budget : Budget incarnation)
    (spent : incarnation.allowance = 0)
    (fits : limits.negotiatedStreamWindow ≤ incarnation.request.queue.maxsize) :
    Budget (incarnation.grant (Exchange.resumeCredits limits incarnation.request)) where
  within running := by
    have within := budget.within running
    simp only [Incarnation.grant, Exchange.resumeCredits]
    omega
  owed := budget.owed
  unstarted := budget.unstarted

theorem accept {queue : BoundedQueue (Option Bytes)} {chunk : Chunk UInt8}
    (budget : Budget incarnation) (credited : 0 < incarnation.allowance)
    (room : incarnation.request.queue.put? (some chunk.payload) = some queue) :
    Budget (incarnation.spend.accept queue chunk) where
  within running := by
    have within := budget.within running
    rcases BoundedQueue.put?_eq_some room with ⟨_, items, maxsize⟩
    simp only [Incarnation.accept, Incarnation.spend, BoundedQueue.qsize, items, maxsize,
      List.length_append, List.length_singleton] at within ⊢
    omega
  owed := budget.owed
  unstarted := budget.unstarted

theorem of_ended {new : Incarnation} (budget : Budget incarnation)
    (ended : new.request.ended = true) (task : new.task = incarnation.task)
    (content : new.content = incarnation.content)
    (pending : new.request.pendingCredit = incarnation.request.pendingCredit) :
    Budget new where
  within running := by
    rw [ended] at running
    cases running
  owed := by
    rw [task, content, pending]
    exact budget.owed
  unstarted := by
    rw [task, content]
    exact budget.unstarted

theorem cancel (budget : Budget incarnation) : Budget incarnation.cancel where
  within := budget.within
  owed running := by
    cases task : incarnation.task <;> simp [Incarnation.cancel, task] at running
  unstarted created := by
    cases task : incarnation.task <;> simp [Incarnation.cancel, task] at created

theorem start (budget : Budget incarnation) (created : incarnation.task = .created) :
    Budget { incarnation with task := .running } where
  within := budget.within
  owed _ content := by
    have waiting := budget.unstarted created
    rcases content with yielded | crediting
    · rw [waiting] at yielded
      cases yielded
    · rw [waiting] at crediting
      cases crediting
  unstarted := nofun

theorem take {taken : Incarnation} (budget : Budget incarnation)
    (running : incarnation.task = .running) (took : incarnation.take = some taken) :
    Budget taken := by
  rcases Incarnation.take_eq_some took with
    ⟨chunk, queue, items, maxsize, rfl⟩ | ⟨queue, items, maxsize, rfl⟩
  · exact
      { within := fun running => by
          have within := budget.within running
          simp only [BoundedQueue.qsize, items, maxsize, List.length_cons] at within ⊢
          omega
        owed := fun _ _ => Nat.succ_pos _
        unstarted := fun created => by
          rw [running] at created
          cases created }
  · exact
      { within := fun running => by
          have within := budget.within running
          simp only [BoundedQueue.qsize, items, maxsize, List.length_cons] at within ⊢
          omega
        owed := fun _ content => by
          rcases content with yielded | crediting
          · cases yielded
          · cases crediting
        unstarted := fun created => by
          rw [running] at created
          cases created }

theorem resumeContent (budget : Budget incarnation)
    (running : incarnation.task = .running) (yielded : incarnation.content = .yielded) :
    Budget { incarnation with content := .crediting } where
  within := budget.within
  owed running _ := budget.owed running (.inl yielded)
  unstarted created := by
    rw [running] at created
    cases created

theorem credit (budget : Budget incarnation) (running : incarnation.task = .running)
    (crediting : incarnation.content = .crediting) :
    Budget (incarnation.returnCredit.grant 1) where
  within unended := by
    have within := budget.within unended
    have owed := budget.owed running (.inr crediting)
    simp only [Incarnation.returnCredit, Incarnation.grant]
    omega
  owed _ content := by
    rcases content with yielded | crediting
    · cases yielded
    · cases crediting
  unstarted _ := rfl

theorem finish (budget : Budget incarnation) : Budget incarnation.finish where
  within unended := by
    have within := budget.within unended
    simp only [Incarnation.finish]
    split <;> omega
  owed running := by cases running
  unstarted created := by cases created

theorem room (budget : Budget incarnation) (running : incarnation.request.ended = false)
    (spare : 0 < incarnation.allowance + incarnation.request.pendingCredit) :
    incarnation.request.queue.put? none ≠ none := by
  intro full
  have within := budget.within running
  have filled := BoundedQueue.put?_eq_none.mp full
  omega

end Budget

/-! ## Along a run -/

def RespectsWindow (streams : Streams) : Exchange.Event → Prop
  | .requestData _ _ _ =>
      ∀ stream ∈ streams.streamRequest, 0 < (streams.incarnation stream).allowance
  | _ => True

/-- A body ends with a credit to spare, unspent or on its way back, and a stream
is resumed by a peer that holds none, on a window no larger than its queue. -/
def SparesCredit (limits : Limits) (streams : Streams) : Exchange.Event → Prop
  | .requestData offset _ true =>
      ∀ stream ∈ streams.streamRequest,
        offset = some (streams.incarnation stream).request.received →
        (streams.incarnation stream).request.ended = false →
        1 < (streams.incarnation stream).allowance +
          (streams.incarnation stream).request.pendingCredit
  | .httpReqEnd =>
      ∀ stream ∈ streams.streamRequest,
        (streams.incarnation stream).request.ended = false →
        0 < (streams.incarnation stream).allowance +
          (streams.incarnation stream).request.pendingCredit
  | .httpReqBegin _ _ =>
      ∀ stream ∈ streams.streamRequest,
        (streams.incarnation stream).allowance = 0 ∧
        limits.negotiatedStreamWindow ≤ (streams.incarnation stream).request.queue.maxsize
  | _ => True

instance (streams : Streams) : ∀ event, Decidable (RespectsWindow streams event)
  | .requestData _ _ _ =>
      inferInstanceAs (Decidable (∀ stream ∈ streams.streamRequest, _))
  | .httpReq _ | .httpReqBegin _ _ | .httpReqEnd | .windowFrame _ | .errorFrame
  | .negotiated _ | .refused | .endPut | .start _ | .take _ | .resumeContent _
  | .credited _ | .respond _ | .cleanup _ | .smallRespond _ | .smallFinish _ _
  | .smallCallback _ | .disconnect | .reconnect _ | .tick _ | .evictCompleted
  | .evictTerminated => .isTrue trivial

instance (limits : Limits) (streams : Streams) :
    ∀ event, Decidable (SparesCredit limits streams event)
  | .requestData _ _ true | .httpReqEnd | .httpReqBegin _ _ =>
      inferInstanceAs (Decidable (∀ stream ∈ streams.streamRequest, _))
  | .requestData _ _ false | .httpReq _ | .windowFrame _ | .errorFrame | .negotiated _
  | .refused | .endPut | .start _ | .take _ | .resumeContent _ | .credited _ | .respond _
  | .cleanup _ | .smallRespond _ | .smallFinish _ _ | .smallCallback _ | .disconnect
  | .reconnect _ | .tick _ | .evictCompleted | .evictTerminated => .isTrue trivial

structure Unblocked (streams : Streams) : Prop where
  budget : ∀ stream, Budget (streams.incarnation stream)
  notPutting : ∀ stream, streams.receiver ≠ .puttingEnd stream

namespace Unblocked

variable {streams : Streams}

theorem modify {stream : Nat} {change : Incarnation → Incarnation} {next : Streams}
    (unblocked : Unblocked streams)
    (changed : Budget (change (streams.incarnation stream)))
    (modified : next.incarnation = (streams.modify stream change).incarnation)
    (notPutting : ∀ other, next.receiver ≠ .puttingEnd other) : Unblocked next where
  budget := by
    rw [modified]
    exact Streams.forall_modify (fun _ incarnation => Budget incarnation) changed
      fun other _ => unblocked.budget other
  notPutting := notPutting

theorem extend {stream : Nat} {queue : BoundedQueue (Option Bytes)} {chunk : Chunk UInt8}
    (unblocked : Unblocked streams) (credited : 0 < (streams.incarnation stream).allowance)
    (room : (streams.incarnation stream).request.queue.put? (some chunk.payload) =
      some queue) : Unblocked (streams.extend stream queue chunk) :=
  unblocked.modify ((unblocked.budget stream).accept credited room) rfl
    unblocked.notPutting

theorem bodyEnds {stream : Nat} {next : Streams} (unblocked : Unblocked streams)
    (running : (streams.incarnation stream).request.ended = false)
    (spare : 0 < (streams.incarnation stream).allowance +
      (streams.incarnation stream).request.pendingCredit)
    (ends : streams.BodyEnds stream next) : Unblocked next := by
  have budget := unblocked.budget stream
  rcases ends with ⟨queue, _, rfl⟩ | ⟨full, _⟩
  · refine unblocked.modify ?_ rfl unblocked.notPutting
    exact budget.of_ended rfl rfl rfl rfl
  · exact absurd full (budget.room running spare)

end Unblocked

theorem StreamTurn.unblocked {limits : Limits} {answered : Bool} {streams next : Streams}
    {event : Exchange.Event} (turn : StreamTurn limits answered streams event next)
    (unblocked : Unblocked streams) (respects : RespectsWindow streams event)
    (spares : SparesCredit limits streams event) : Unblocked next := by
  cases turn with
  | idle => exact unblocked
  | raised _ => exact ⟨unblocked.budget, fun _ => Receiver.noConfusion⟩
  | opened contentLength listening _ _ =>
      constructor
      · intro stream
        simp only [Streams.register]
        split
        · exact .opening ..
        · exact unblocked.budget stream
      · exact unblocked.notPutting
  | resumed _ registered =>
      rcases spares _ registered with ⟨spent, fits⟩
      exact unblocked.modify ((unblocked.budget _).resume spent fits) rfl
        unblocked.notPutting
  | rejected listening _ outcome =>
      refine unblocked.modify (unblocked.budget _).spend rfl fun other => ?_
      rcases outcome with rfl | ⟨message, rfl⟩ | rfl <;> exact Receiver.noConfusion
  | extended _ registered _ _ room =>
      exact unblocked.extend (respects _ registered) room
  | completed _ registered follows running room ends =>
      have credited := respects _ registered
      have spare := spares _ registered (congrArg some follows) running
      refine (unblocked.extend credited room).bodyEnds ?_ ?_ ends
      · simpa [Streams.extend, Incarnation.accept, Incarnation.spend] using running
      · simp only [Streams.extend, Streams.modify_same, Incarnation.accept,
          Incarnation.spend]
        omega
  | mismatched _ _ => exact ⟨unblocked.budget, fun _ => Receiver.noConfusion⟩
  | ended _ registered running ends =>
      exact unblocked.bodyEnds running (spares _ registered running) ends
  | cancelled _ _ =>
      exact unblocked.modify (unblocked.budget _).cancel rfl unblocked.notPutting
  | refused _ =>
      exact unblocked.modify (unblocked.budget _).cancel rfl fun _ => Receiver.noConfusion
  | endPut putting _ => exact absurd putting (unblocked.notPutting _)
  | started created =>
      exact unblocked.modify ((unblocked.budget _).start created) rfl unblocked.notPutting
  | taken running _ took =>
      exact unblocked.modify ((unblocked.budget _).take running took) rfl
        unblocked.notPutting
  | resumedContent running yielded =>
      exact unblocked.modify ((unblocked.budget _).resumeContent running yielded) rfl
        unblocked.notPutting
  | credited running crediting =>
      exact unblocked.modify ((unblocked.budget _).credit running crediting) rfl
        unblocked.notPutting
  | cleaned _ =>
      exact unblocked.modify (unblocked.budget _).finish rfl unblocked.notPutting
  | disconnected _ =>
      exact ⟨fun stream => (unblocked.budget stream).voidCredits,
        fun _ => Receiver.noConfusion⟩

namespace Exchange

theorem initial_unblocked (rid : String) (limits : Limits) :
    Unblocked (initial rid limits).toStreams where
  budget _ := (Budget.opening _ none).finish
  notPutting _ := Receiver.noConfusion

/-- While every peer respects its window and spares a credit for the end of its
body, the receive loop never waits for a slot. -/
theorem run_neverPuttingEnd {rid : String} {limits : Limits} {events : List Event}
    {final : Exchange} (ran : run step (initial rid limits) events = some final)
    (respects : Meets step (fun exchange => RespectsWindow exchange.toStreams)
      (initial rid limits) events)
    (spares : Meets step (fun exchange => SparesCredit exchange.limits exchange.toStreams)
      (initial rid limits) events) :
    ∀ stream, final.receiver ≠ .puttingEnd stream := by
  have unblocked : Unblocked final.toStreams :=
    invariant_under (fun exchange => Unblocked exchange.toStreams)
      (fun exchange event next holds (meets : RespectsWindow exchange.toStreams event ∧
          SparesCredit exchange.limits exchange.toStreams event) stepped =>
        (step_turn stepped).unblocked holds meets.1 meets.2)
      (initial_unblocked rid limits) (respects.and spares) ran
  exact unblocked.notPutting

/-- A window of two and a body of one chunk, whose credit comes back first. -/
theorem run_neverPuttingEnd_single_chunk :
    ¬∃ stream,
      (after step (initial "upload" (.withWindow 2 (by decide)))
        [.httpReqBegin none 0, .requestData (some 0) [7] false, .start 0, .take 0,
          .resumeContent 0, .credited 0, .httpReqEnd]).receiver = .puttingEnd stream := by
  rintro ⟨stream, putting⟩
  exact run_neverPuttingEnd (run_eq_after (by decide)) (by decide)
    (by decide) stream putting

/-- The peer spends its one credit on the last chunk of the body. The chunk fills
the queue, and the receive loop waits until the HTTP client takes it. -/
theorem full_window_blocks_end_marker :
    ¬∀ (rid : String) (limits : Limits) (events : List Event) (final : Exchange),
      run step (initial rid limits) events = some final →
      Meets step (fun exchange => RespectsWindow exchange.toStreams)
        (initial rid limits) events →
      ∀ stream, final.receiver ≠ .puttingEnd stream := by
  intro claim
  have idle := claim "upload" (.withWindow 1 (by decide))
    [.httpReqBegin none 0, .requestData (some 0) [7] true] _ rfl (by decide) 0
  exact idle rfl

end Exchange

end YrSandbox.Tunnel
