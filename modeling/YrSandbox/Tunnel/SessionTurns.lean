import YrSandbox.Tunnel.Session

/-! # The turns of a session

The branches of the two kinds of request and all other steps, each with its guard and its
outcome. -/

namespace YrSandbox.Tunnel

open Python Transition

/-! ## Requests -/

/-- The ways in which `handle_http_req` ends. -/
inductive HandleTurn (session : Session) (rid : Text) : Session → Prop
  | retained (named : rid ≠ []) (response : session.responseCredits rid = some number) :
      HandleTurn session rid
        (session.cleanupCompleted.answer rid .responseBegin).spawnReplay
  | answered (named : rid ≠ []) (released : session.responseCredits rid = none)
      (found : session.cleanupCompleted.completed.lookup rid = some cached) :
      HandleTurn session rid
        (session.cleanupCompleted.answer rid (.cached cached.frame)).spawnReplay
  | awaited (named : rid ≠ []) (released : session.responseCredits rid = none)
      (unanswered : session.cleanupCompleted.completed.lookup rid = none)
      (running : session.inflight rid = some number) :
      HandleTurn session rid session.cleanupCompleted.spawnReplay
  | begun (named : rid ≠ []) (released : session.responseCredits rid = none)
      (unanswered : session.cleanupCompleted.completed.lookup rid = none)
      (idle : session.inflight rid = none) :
      HandleTurn session rid
        { session.cleanupCompleted.spawn rid .small with
          inflight := session.inflight.set rid (some session.started) }
  | unnamed (empty : rid = []) :
      HandleTurn session rid (session.cleanupCompleted.spawn rid .small)

/-- The ways in which an `http_req_begin` ends. -/
inductive BeginTurn (unicode : UnicodeData) (session : Session) (rid : Text)
    (contentLength : Option Int) : Session → Prop
  | early (before : session.limits.negotiatedProtocolVersion < protocolVersion) :
      BeginTurn unicode session rid contentLength
        (session.raise "received streaming request before V2 negotiation")
  | malformed (selected : protocolVersion ≤ session.limits.negotiatedProtocolVersion)
      (invalid : Uuid.ofText unicode rid = none) :
      BeginTurn unicode session rid contentLength
        (session.raise "streaming request id must be a UUID string")
  | resumed (selected : protocolVersion ≤ session.limits.negotiatedProtocolVersion)
      (valid : (Uuid.ofText unicode rid).isSome = true)
      (stream : session.streamRequests rid = some number) :
      BeginTurn unicode session rid contentLength (session.answer rid .window)
  | retained (selected : protocolVersion ≤ session.limits.negotiatedProtocolVersion)
      (valid : (Uuid.ofText unicode rid).isSome = true)
      (noStream : session.streamRequests rid = none)
      (response : session.responseCredits rid = some number) :
      BeginTurn unicode session rid contentLength (session.answer rid .responseBegin)
  | negative (noStream : session.streamRequests rid = none)
      (released : session.responseCredits rid = none)
      (below : contentLength.any (· < 0) = true) :
      BeginTurn unicode session rid contentLength
        (session.raise "invalid streaming request content_length")
  | tooLarge (selected : protocolVersion ≤ session.limits.negotiatedProtocolVersion)
      (valid : (Uuid.ofText unicode rid).isSome = true)
      (noStream : session.streamRequests rid = none)
      (released : session.responseCredits rid = none)
      (notNegative : contentLength.any (· < 0) = false)
      (larger :
        contentLength.any ((session.limits.negotiatedMaxBodySize : Int) < ·) = true) :
      BeginTurn unicode session rid contentLength
        (session.answer rid (.error "request body exceeds tunnel limit"))
  | full (selected : protocolVersion ≤ session.limits.negotiatedProtocolVersion)
      (valid : (Uuid.ofText unicode rid).isSome = true)
      (noStream : session.streamRequests rid = none)
      (released : session.responseCredits rid = none)
      (notNegative : contentLength.any (· < 0) = false)
      (reached : session.limits.negotiatedMaxInflight ≤ session.httpTasks.length) :
      BeginTurn unicode session rid contentLength
        (session.answer rid (.error "tunnel max_inflight limit reached"))
  | begun (valid : (Uuid.ofText unicode rid).isSome = true)
      (noStream : session.streamRequests rid = none)
      (released : session.responseCredits rid = none)
      (within :
        contentLength.any ((session.limits.negotiatedMaxBodySize : Int) < ·) = false)
      (room : session.httpTasks.length < session.limits.negotiatedMaxInflight) :
      BeginTurn unicode session rid contentLength
        (Session.answer rid .window
          { session.spawn rid .stream with
            streamRequests := session.streamRequests.set rid (some session.started) })

/-! Neither kind releases a response, and small requests open no stream. -/

theorem HandleTurn.responseCredits (turn : HandleTurn session rid next) :
    next.responseCredits = session.responseCredits := by
  cases turn <;> rfl

theorem HandleTurn.streamRequests (turn : HandleTurn session rid next) :
    next.streamRequests = session.streamRequests := by
  cases turn <;> rfl

theorem BeginTurn.responseCredits
    (turn : BeginTurn unicode session rid contentLength next) :
    next.responseCredits = session.responseCredits := by
  cases turn <;> rfl

/-! ## Steps -/

inductive SessionTurn (unicode : UnicodeData) (session : Session) :
    Session.Event → Session → Prop
  | refusedReq (listening : session.listening = true) (idle : session.inflight rid = none)
      (unanswered : session.completed.lookup rid = none)
      (reached : session.limits.negotiatedMaxInflight ≤ session.httpTasks.length) :
      SessionTurn unicode session (.httpReq rid)
        (session.answer rid (.error "tunnel max_inflight limit reached"))
  | handled (listening : session.listening = true)
      (admitted : (session.inflight rid).isSome = true ∨
        (session.completed.lookup rid).isSome = true ∨
        session.httpTasks.length < session.limits.negotiatedMaxInflight)
      (turn : HandleTurn session rid next) :
      SessionTurn unicode session (.httpReq rid) next
  | begins (listening : session.listening = true)
      (turn : BeginTurn unicode session rid contentLength next) :
      SessionTurn unicode session (.httpReqBegin rid contentLength) next
  | window (listening : session.listening = true) :
      SessionTurn unicode session (.windowFrame rid false) session
  | released (listening : session.listening = true) :
      SessionTurn unicode session (.windowFrame rid true)
        { session with responseCredits := session.responseCredits.set rid none }
  | erredStream (listening : session.listening = true)
      (stream : session.streamRequests rid = some number) :
      SessionTurn unicode session (.errorFrame rid)
        { session.modifyTask number UpstreamTask.cancel with
          responseCredits := session.responseCredits.set rid none
          streamRequests := session.streamRequests.set rid none }
  | erredTask (listening : session.listening = true)
      (noStream : session.streamRequests rid = none)
      (running : session.inflight rid = some number) :
      SessionTurn unicode session (.errorFrame rid)
        { session.modifyTask number UpstreamTask.cancel with
          responseCredits := session.responseCredits.set rid none }
  | erred (listening : session.listening = true)
      (noStream : session.streamRequests rid = none) (idle : session.inflight rid = none) :
      SessionTurn unicode session (.errorFrame rid)
        { session with responseCredits := session.responseCredits.set rid none }
  | refused (listening : session.listening = true)
      (stream : session.streamRequests rid = some number) :
      SessionTurn unicode session (.refuse rid message)
        (Session.answer rid (.error message)
          { session.modifyTask number UpstreamTask.cancel with
            streamRequests := session.streamRequests.set rid none })
  | unrefused (listening : session.listening = true)
      (noStream : session.streamRequests rid = none) :
      SessionTurn unicode session (.refuse rid message) session
  | raised (listening : session.listening = true) :
      SessionTurn unicode session (.raise message) (session.raise message)
  | negotiated (listening : session.listening = true) :
      SessionTurn unicode session (.negotiated limits) { session with limits }
  | started (created : (session.task number).phase = .created) :
      SessionTurn unicode session (.start number)
        (session.modifyTask number fun task => { task with phase := .running })
  | responded (running : (session.task number).phase = .running)
      (unresponded : (session.task number).responded = false) :
      SessionTurn unicode session (.respond number)
        { session.modifyTask number fun task => { task with responded := true } with
          responseCredits :=
            session.responseCredits.set (session.task number).rid (some number) }
  | ended (running : (session.task number).phase = .running)
      (responded : (session.task number).responded = true) :
      SessionTurn unicode session (.endResponse number)
        (session.modifyTask number fun task => { task with ended := true })
  | finishedSmall (may : (session.task number).mayFinish result = true)
      (small : (session.task number).kind = .small) :
      SessionTurn unicode session (.finish number result)
        (session.modifyTask number fun task => { task with phase := .done result })
  | failedStream (may : (session.task number).mayFinish (.failed message) = true)
      (stream : (session.task number).kind = .stream) :
      SessionTurn unicode session (.finish number (.failed message))
        (Session.answer (session.task number).rid (.error message)
          { session.modifyTask number fun task =>
              { task with phase := .done (.failed message) } with
            streamRequests := session.streamRequests.set (session.task number).rid none })
  | finishedStream (may : (session.task number).mayFinish result = true)
      (stream : (session.task number).kind = .stream)
      (unfailed : ∀ message, result ≠ .failed message) :
      SessionTurn unicode session (.finish number result)
        { session.modifyTask number fun task => { task with phase := .done result } with
          streamRequests := session.streamRequests.set (session.task number).rid none }
  | settledUnnamed (small : (session.task number).kind = .small)
      (done : (session.task number).phase = .done result)
      (empty : (session.task number).rid = []) :
      SessionTurn unicode session (.callback number)
        (session.modifyTask number fun task => { task with phase := .settled result })
  | settledFrame (small : (session.task number).kind = .small)
      (done : (session.task number).phase = .done (.frame frame))
      (named : (session.task number).rid ≠ []) :
      SessionTurn unicode session (.callback number)
        (Session.cleanupCompleted
          { session.modifyTask number fun task =>
              { task with phase := .settled (.frame frame) } with
            inflight := session.inflight.set (session.task number).rid none
            completed :=
              Association.store (session.task number).rid ⟨frame, session.now⟩
                session.completed })
  | settled (small : (session.task number).kind = .small)
      (done : (session.task number).phase = .done result)
      (named : (session.task number).rid ≠ [])
      (frameless : ∀ frame, result ≠ .frame frame) :
      SessionTurn unicode session (.callback number)
        { session.modifyTask number fun task => { task with phase := .settled result } with
          inflight := session.inflight.set (session.task number).rid none }
  | sentFrame (connected : session.connected = true)
      (isMember : .upstream number ∈ session.httpTasks)
      (done : session.mayDiscard (.upstream number) = true)
      (phase : (session.task number).phase = .settled (.frame frame)) :
      SessionTurn unicode session (.discard (.upstream number))
        (Session.answer (session.task number).rid (.cached frame)
          { session with httpTasks := session.httpTasks.erase (.upstream number) })
  | discarded (connected : session.connected = true)
      (isMember : member ∈ session.httpTasks) (done : session.mayDiscard member = true) :
      SessionTurn unicode session (.discard member)
        { session with httpTasks := session.httpTasks.erase member }
  | disconnected (connected : session.connected = true) :
      SessionTurn unicode session .disconnect
        { session with connected := false, raised := none }
  | reconnected (apart : session.connected = false) :
      SessionTurn unicode session (.reconnect limits)
        { session with connected := true, limits }
  | ticked :
      SessionTurn unicode session (.tick elapsed)
        { session with now := session.now + elapsed }

namespace Session

theorem handleHttpReq_turn (session : Session) (rid : Text) :
    HandleTurn session rid (session.handleHttpReq rid) := by
  have credits : session.cleanupCompleted.responseCredits = session.responseCredits := rfl
  have inflight : session.cleanupCompleted.inflight = session.inflight := rfl
  rw [handleHttpReq]
  simp only [credits, inflight]
  by_cases empty : rid = []
  · simp only [empty, ne_eq, not_true_eq_false, false_and, if_false]
    exact .unnamed rfl
  · simp only [empty, ne_eq, not_false_eq_true, true_and, if_true]
    cases response : session.responseCredits rid with
    | some number => exact .retained empty response
    | none =>
        cases found : session.cleanupCompleted.completed.lookup rid with
        | some cached => exact .answered empty response found
        | none =>
            cases running : session.inflight rid with
            | some number => exact .awaited empty response found running
            | none => exact .begun empty response found running

theorem httpReqBegin_turn (unicode : UnicodeData) (session : Session) (rid : Text)
    (contentLength : Option Int) :
    BeginTurn unicode session rid contentLength
      (session.httpReqBegin unicode rid contentLength) := by
  rw [httpReqBegin]
  by_cases early : session.limits.negotiatedProtocolVersion < protocolVersion
  · rw [if_pos early]
    exact .early early
  rw [if_neg early]
  have selected := Nat.not_lt.mp early
  cases valid : Uuid.ofText unicode rid with
  | none => exact .malformed selected valid
  | some uuid =>
      have isValid : (Uuid.ofText unicode rid).isSome = true := by
        rw [valid]
        rfl
      cases stream : session.streamRequests rid with
      | some number => exact .resumed selected isValid stream
      | none =>
          cases response : session.responseCredits rid with
          | some number => exact .retained selected isValid stream response
          | none =>
              cases negative : contentLength.any (· < 0) with
              | true => exact .negative stream response negative
              | false =>
                  cases larger :
                      contentLength.any
                        ((session.limits.negotiatedMaxBodySize : Int) < ·) with
                  | true =>
                      exact .tooLarge selected isValid stream response negative larger
                  | false =>
                      simp only [Option.isNone_some, Option.isSome_none,
                        Bool.false_eq_true, if_false]
                      split
                      · rename_i reached
                        exact .full selected isValid stream response negative reached
                      · rename_i room
                        exact .begun isValid stream response larger (Nat.not_le.mp room)

theorem httpReq_cases (session : Session) (rid : Text) :
    (session.inflight rid = none ∧ session.completed.lookup rid = none ∧
        session.limits.negotiatedMaxInflight ≤ session.httpTasks.length ∧
        session.httpReq rid =
          session.answer rid (.error "tunnel max_inflight limit reached")) ∨
      ((session.inflight rid).isSome = true ∨
          (session.completed.lookup rid).isSome = true ∨
          session.httpTasks.length < session.limits.negotiatedMaxInflight) ∧
        session.httpReq rid = session.handleHttpReq rid := by
  rw [httpReq]
  cases running : session.inflight rid with
  | some number => exact .inr ⟨.inl rfl, rfl⟩
  | none =>
      cases answered : session.completed.lookup rid with
      | some cached => exact .inr ⟨.inr (.inl rfl), rfl⟩
      | none =>
          by_cases reached :
              session.limits.negotiatedMaxInflight ≤ session.httpTasks.length
          · exact .inl ⟨rfl, rfl, reached, by simp [reached]⟩
          · exact .inr ⟨.inr (.inr (Nat.not_le.mp reached)), by simp [reached]⟩

theorem errorFrame_turn (unicode : UnicodeData) (session : Session) (rid : Text)
    (listening : session.listening = true) :
    SessionTurn unicode session (.errorFrame rid) (session.errorFrame rid) := by
  rw [errorFrame]
  dsimp only
  cases stream : session.streamRequests rid with
  | some number => exact .erredStream listening stream
  | none =>
      cases running : session.inflight rid with
      | some number => exact .erredTask listening stream running
      | none => exact .erred listening stream running

theorem finish_turn (unicode : UnicodeData) (session : Session) {number : Nat}
    {result : TaskResult} (may : (session.task number).mayFinish result = true) :
    SessionTurn unicode session (.finish number result)
      (session.finish number result) := by
  rw [finish]
  dsimp only
  cases kind : (session.task number).kind with
  | small => exact .finishedSmall may kind
  | stream =>
      cases result with
      | failed message => exact .failedStream may kind
      | frame frame => exact .finishedStream may kind nofun
      | streamed => exact .finishedStream may kind nofun
      | cancelled => exact .finishedStream may kind nofun

theorem callback_turn (unicode : UnicodeData) (session : Session) {number : Nat}
    {result : TaskResult} (small : (session.task number).kind = .small)
    (done : (session.task number).phase = .done result) :
    SessionTurn unicode session (.callback number) (session.callback number result) := by
  rw [callback]
  dsimp only
  split
  · rename_i empty
    exact .settledUnnamed small done empty
  · rename_i named
    cases result with
    | frame frame => exact .settledFrame small done named
    | streamed => exact .settled small done named nofun
    | failed message => exact .settled small done named nofun
    | cancelled => exact .settled small done named nofun

theorem discard_turn (unicode : UnicodeData) (session : Session) {member : HttpTask}
    (connected : session.connected = true) (isMember : member ∈ session.httpTasks)
    (done : session.mayDiscard member = true) :
    SessionTurn unicode session (.discard member) (session.discard member) := by
  cases member with
  | replay => exact .discarded connected isMember done
  | upstream number =>
      rw [discard]
      split
      · rename_i phase
        exact .sentFrame connected isMember done phase
      · exact .discarded connected isMember done

theorem step_turn {unicode : UnicodeData} {session next : Session} {event : Event}
    (stepped : step unicode session event = some next) :
    SessionTurn unicode session event next := by
  cases event with
  | httpReq rid =>
      rw [step, Option.ite_none_right_eq_some] at stepped
      rcases stepped with ⟨listening, ⟨⟩⟩
      rcases session.httpReq_cases rid with
        ⟨idle, unanswered, reached, same⟩ | ⟨admitted, same⟩
      · rw [same]
        exact .refusedReq listening idle unanswered reached
      · rw [same]
        exact .handled listening admitted (session.handleHttpReq_turn rid)
  | httpReqBegin rid contentLength =>
      rw [step, Option.ite_none_right_eq_some] at stepped
      rcases stepped with ⟨listening, ⟨⟩⟩
      exact .begins listening (httpReqBegin_turn unicode session rid contentLength)
  | windowFrame rid complete =>
      rw [step, Option.ite_none_right_eq_some] at stepped
      rcases stepped with ⟨listening, ⟨⟩⟩
      cases complete with
      | false => exact .window listening
      | true => exact .released listening
  | errorFrame rid =>
      rw [step, Option.ite_none_right_eq_some] at stepped
      rcases stepped with ⟨listening, ⟨⟩⟩
      exact errorFrame_turn unicode session rid listening
  | refuse rid message =>
      rw [step, Option.ite_none_right_eq_some, refuse] at stepped
      rcases stepped with ⟨listening, ⟨⟩⟩
      split
      · rename_i number stream
        exact .refused listening stream
      · rename_i noStream
        exact .unrefused listening noStream
  | raise message =>
      rw [step, Option.ite_none_right_eq_some] at stepped
      rcases stepped with ⟨listening, ⟨⟩⟩
      exact .raised listening
  | negotiated limits =>
      rw [step, Option.ite_none_right_eq_some] at stepped
      rcases stepped with ⟨listening, ⟨⟩⟩
      exact .negotiated listening
  | start number =>
      rw [step, Option.ite_none_right_eq_some] at stepped
      rcases stepped with ⟨created, ⟨⟩⟩
      exact .started created
  | respond number =>
      rw [step, Option.ite_none_right_eq_some] at stepped
      rcases stepped with ⟨⟨running, unresponded⟩, ⟨⟩⟩
      exact .responded running unresponded
  | endResponse number =>
      rw [step, Option.ite_none_right_eq_some] at stepped
      rcases stepped with ⟨⟨running, responded⟩, ⟨⟩⟩
      exact .ended running responded
  | finish number result =>
      rw [step, Option.ite_none_right_eq_some] at stepped
      rcases stepped with ⟨may, ⟨⟩⟩
      exact finish_turn unicode session may
  | callback number =>
      rw [step] at stepped
      split at stepped
      · rename_i small done
        cases stepped
        exact callback_turn unicode session small done
      · cases stepped
  | discard member =>
      rw [step, Option.ite_none_right_eq_some] at stepped
      rcases stepped with ⟨⟨connected, isMember, done⟩, ⟨⟩⟩
      exact discard_turn unicode session connected isMember done
  | disconnect =>
      rw [step, Option.ite_none_right_eq_some] at stepped
      rcases stepped with ⟨connected, ⟨⟩⟩
      exact .disconnected connected
  | reconnect limits =>
      rw [step, Option.ite_none_left_eq_some] at stepped
      rcases stepped with ⟨apart, ⟨⟩⟩
      exact .reconnected (Bool.eq_false_iff.mpr apart)
  | tick elapsed =>
      cases stepped
      exact .ticked

end Session

end YrSandbox.Tunnel
