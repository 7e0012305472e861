import YrSandbox.Tunnel.ReceiveLoop

/-! # What a message may raise

The loop ends with a `ProtocolError` for whatever breaks the protocol. What is no JSON
object or has an id without a hash ends it with another error. -/

namespace YrSandbox.Tunnel

open Python

def LoopError.expected : LoopError → Bool
  | .protocolError _ => true
  | .attributeError _ | .typeError _ | .valueError | .structError | .recursionError =>
      false

/-- Nothing but `ProtocolError` is raised. -/
def Handled {Result : Type} (result : Except LoopError Result) : Prop :=
  ∀ error, result = .error error → error.expected = true

namespace Handled

variable {Result Next : Type}

@[simp] theorem ok (value : Result) : Handled (.ok value) := by
  intro error raised
  cases raised

@[simp] theorem error_iff {error : LoopError} :
    Handled (.error error : Except LoopError Result) ↔ error.expected = true := by
  constructor
  · intro handled
    exact handled error rfl
  · intro expected other raised
    cases raised
    exact expected

theorem protocolError (message : String) :
    Handled (.error (.protocolError message) : Except LoopError Result) :=
  error_iff.mpr rfl

theorem bind {result : Except LoopError Result} {next : Result → Except LoopError Next}
    (handled : Handled result) (others : ∀ value, Handled (next value)) :
    Handled (result >>= next) := by
  cases result with
  | error error => exact error_iff.mpr (handled error rfl)
  | ok value => exact others value

theorem of_bind {result : Except LoopError Result} {next : Result → Except LoopError Next}
    (handled : Handled (result >>= next)) : Handled result := by
  cases result with
  | error error => exact error_iff.mpr (handled error rfl)
  | ok value => exact ok value

end Handled

namespace ReceiveLoop

variable {interpreter : Interpreter} {loop : ReceiveLoop}

/-! ## Frames of the client -/

theorem sendFrame_handled_iff {frame : Json} :
    Handled (loop.sendFrame interpreter frame) ↔ frame.depth ≤ interpreter.nesting := by
  rw [sendFrame]
  split
  · rename_i deep
    exact iff_of_false (fun handled => Bool.false_ne_true (handled _ rfl)) (by omega)
  · rename_i shallow
    apply iff_of_true _ (Nat.not_lt.mp shallow)
    split
    · exact .protocolError _
    · exact .ok _

theorem sendFrame_handled {frame : Json} (shallow : frame.depth ≤ 3) :
    Handled (loop.sendFrame interpreter frame) :=
  sendFrame_handled_iff.mpr (Nat.le_trans shallow interpreter.framesNest)

theorem errorFrame_handled {rid : Json} (hashable : rid.hashable = true)
    (message : String) :
    Handled (loop.sendFrame interpreter (errorFrame rid message)) := by
  apply sendFrame_handled
  simp [errorFrame, Json.depth, Json.depthFields, Json.depth_hashable hashable]

theorem windowFrame_handled (rid : String) (credits ackOffset : Nat) :
    Handled (loop.sendFrame interpreter (windowFrame (.str rid) credits ackOffset)) := by
  apply sendFrame_handled
  simp [windowFrame, Json.depth, Json.depthFields]

theorem respEnd_handled {rid : Json} (hashable : rid.hashable = true) :
    Handled (loop.sendFrame interpreter
      (.object [("type", .str "http_resp_end"), ("id", rid)])) := by
  apply sendFrame_handled
  simp [Json.depth, Json.depthFields, Json.depth_hashable hashable]

theorem hash_handled_iff {rid : Json} :
    Handled (hash interpreter rid) ↔ rid.hashable = true := by
  have isSome := interpreter.isSome_key? rid
  rw [hash]
  split
  · rename_i key isKey
    rw [isKey] at isSome
    exact iff_of_true (.ok key) isSome.symm
  · rename_i isNone
    rw [isNone] at isSome
    rw [← isSome]
    exact Handled.error_iff

theorem absorb_handled (rid : Key) (message : String) :
    Handled (loop.absorb rid message) := by
  rw [absorb]
  dsimp only
  split
  · exact .ok _
  · exact .protocolError _

theorem refuse_handled {rid : Json} (hashable : rid.hashable = true) (key : Key)
    (entry : RequestEntry) (message : String) :
    Handled (loop.refuse interpreter rid key entry message) := by
  apply Handled.bind (errorFrame_handled hashable message)
  intro sent
  exact .ok _

theorem putChannel_handled {rid : Json} (hashable : rid.hashable = true) (key : Key)
    (channel : BoundedQueue ChannelFrame) (frame : ChannelFrame) :
    Handled (loop.putChannel interpreter rid key channel frame) := by
  rw [putChannel]
  split
  · exact .ok _
  · exact errorFrame_handled hashable _

/-! ## Binary messages -/

theorem receiveWsData_handled (envelope : BinaryEnvelope) :
    Handled (loop.receiveWsData interpreter envelope) := by
  unfold receiveWsData
  dsimp only
  split
  · exact absorb_handled _ _
  · exact putChannel_handled rfl _ _ _

theorem acceptChunk_handled (rid : String) (key : Key) (entry : RequestEntry)
    (payload : Bytes) (endOfBody : Bool) :
    Handled (loop.acceptChunk interpreter rid key entry payload endOfBody) := by
  rw [acceptChunk]
  dsimp only
  split
  · exact refuse_handled rfl _ _ _
  · split
    · exact refuse_handled rfl _ _ _
    · exact .ok _

theorem receiveRequestData_handled (envelope : BinaryEnvelope) :
    Handled (loop.receiveRequestData interpreter envelope) := by
  rw [receiveRequestData]
  dsimp only
  split
  · exact absorb_handled _ _
  · split
    · exact .protocolError _
    · split
      · split
        · exact windowFrame_handled _ _ _
        · exact .protocolError _
      · split
        · exact .protocolError _
        · split
          · exact .ok _
          · exact acceptChunk_handled _ _ _ _ _

theorem receiveBinary_handled (raw : Bytes) :
    Handled (loop.receiveBinary interpreter raw) := by
  rw [receiveBinary]
  split
  · rename_i error refused
    rcases BinaryEnvelope.decode_error refused with ⟨message, rfl⟩
    exact .protocolError message
  · split
    · exact receiveWsData_handled _
    · exact receiveRequestData_handled _
    · exact .protocolError _

/-! ## Ids -/

theorem hash_eq (interpreter : Interpreter) {rid : Json}
    (hashable : rid.hashable = true) :
    ∃ key, interpreter.key? rid = some key ∧ hash interpreter rid = .ok key := by
  rw [← interpreter.isSome_key? rid, Option.isSome_iff_exists] at hashable
  rcases hashable with ⟨key, isKey⟩
  exact ⟨key, isKey, by rw [hash, isKey]⟩

theorem hash_bind_iff {rid : Json} {branch : Key → Except LoopError ReceiveLoop}
    (others : rid.hashable = true → ∀ key, Handled (branch key)) :
    Handled (hash interpreter rid >>= branch) ↔ rid.hashable = true := by
  constructor
  · intro handled
    exact hash_handled_iff.mp handled.of_bind
  · intro hashable
    exact (hash_handled_iff.mpr hashable).bind (others hashable)

theorem httpReq_handled_iff (frame : Dict) :
    Handled (loop.httpReq interpreter frame) ↔ (idOf frame).hashable = true := by
  apply hash_bind_iff
  intro hashable key
  dsimp only
  split
  · exact errorFrame_handled hashable _
  · exact .ok _

theorem httpReqBegin_handled (frame : Dict) :
    Handled (loop.httpReqBegin interpreter frame) := by
  rw [httpReqBegin]
  split
  · exact .protocolError _
  · rw [handleHttpReqBegin]
    split
    · dsimp only
      split
      · exact .protocolError _
      · split
        · exact windowFrame_handled _ _ _
        · split
          · rename_i response _
            exact sendFrame_handled response.beginFrame.2
          · split
            · exact .protocolError _
            · split
              · exact errorFrame_handled rfl _
              · split
                · exact errorFrame_handled rfl _
                · exact windowFrame_handled _ _ _
    · exact .protocolError _

theorem httpReqEnd_handled_iff (frame : Dict) :
    Handled (loop.httpReqEnd interpreter frame) ↔ (idOf frame).hashable = true := by
  apply hash_bind_iff
  intro hashable key
  split
  · exact absorb_handled _ _
  · split
    · exact .ok _
    · split
      · exact refuse_handled hashable _ _ _
      · exact .ok _

theorem peerError_handled_iff (frame : Dict) :
    Handled (loop.peerError interpreter frame) ↔ (idOf frame).hashable = true := by
  apply hash_bind_iff
  intro _ key
  dsimp only
  split
  · exact .ok _
  · split
    · exact .ok _
    · exact .ok _

theorem wsFrame_handled_iff (frame : Dict) :
    Handled (loop.wsFrame interpreter frame) ↔ (idOf frame).hashable = true := by
  apply hash_bind_iff
  intro hashable key
  split
  · exact .ok _
  · exact putChannel_handled hashable _ _ _

theorem wsConnect_handled_iff (frame : Dict) :
    Handled (loop.wsConnect interpreter frame) ↔
      ((idOf frame).truthy = true → (idOf frame).hashable = true) := by
  rw [wsConnect]
  dsimp only
  split
  · rename_i falsy
    rw [falsy]
    exact iff_of_true (.ok _) (by simp)
  · rename_i truthy
    rw [Bool.not_eq_false] at truthy
    rw [forall_prop_of_true truthy]
    apply hash_bind_iff
    intro hashable key
    split
    · exact errorFrame_handled hashable _
    · split
      · exact errorFrame_handled hashable _
      · exact .ok _

/-! ## The replay of a response -/

theorem encode_handled (requestId : Text) (chunk : SentChunk) {limit : Int}
    (fits : (chunk.payload.length : Int) ≤ limit) {error : EnvelopeError}
    (refused : BinaryEnvelope.encode interpreter.unicode
      { requestId
        kind := .httpResponseData
        payload := chunk.payload
        endOfBody := false
        offset := some chunk.offset } limit = .error error) :
    ∃ message, error = .protocol message := by
  have within := chunk.within
  rw [maxConfiguredBodyBytes] at within
  cases read : Uuid.ofText interpreter.unicode requestId with
  | none =>
      rw [BinaryEnvelope.encode, if_neg (Int.not_lt.mpr fits)] at refused
      simp only [read] at refused
      exact ⟨_, (Except.error.inj refused).symm⟩
  | some uuid =>
      have short : chunk.payload.length < 2 ^ 32 - 8 := by omega
      have inRange :
          ∀ offset ∈ some (chunk.offset : Int), 0 ≤ offset ∧ offset < 2 ^ 64 := by
        intro offset isOffset
        cases isOffset
        omega
      have encodes : ∃ raw, BinaryEnvelope.encode interpreter.unicode
          { requestId
            kind := .httpResponseData
            payload := chunk.payload
            endOfBody := false
            offset := some chunk.offset } limit = .ok raw :=
        BinaryEnvelope.encode_of_fits read fits short inRange
      rcases encodes with ⟨raw, encoded⟩
      rw [encoded] at refused
      cases refused

theorem sendChunk_handled_iff (rid : Json) (chunk : SentChunk) :
    Handled (loop.sendChunk interpreter rid chunk) ↔
      (rid = .null → loop.limits.negotiatedStreamChunk < chunk.payload.length) := by
  unfold sendChunk
  dsimp only
  split
  · rename_i longer
    exact iff_of_true (.protocolError _) fun _ => longer
  · rename_i fits
    cases rid with
    | null =>
        rw [Handled.error_iff]
        exact iff_of_false Bool.false_ne_true fun longer => fits (longer rfl)
    | str requestId =>
        apply iff_of_true _ (by simp)
        dsimp only
        split
        · rename_i error refused
          rcases encode_handled _ chunk (by omega) refused with ⟨message, rfl⟩
          exact .protocolError message
        · exact .ok _
    | bool _ | int _ | float _ | array _ | object _ =>
        exact iff_of_true (.protocolError _) (by simp)

theorem replay_handled {rid : Json} (named : rid ≠ .null) (chunks : List SentChunk)
    (credits : BoundedQueue Unit) (loop : ReceiveLoop) :
    Handled (replay interpreter rid chunks credits loop) := by
  induction chunks generalizing credits loop with
  | nil => exact .ok _
  | cons chunk rest induction =>
      apply Handled.bind
      · exact (sendChunk_handled_iff rid chunk).mpr fun unnamed => absurd unnamed named
      · intro sent
        exact induction _ sent

theorem replay_null_handled_iff (chunks : List SentChunk) (credits : BoundedQueue Unit) :
    Handled (replay interpreter .null chunks credits loop) ↔
      ∀ chunk ∈ chunks.head?,
        loop.limits.negotiatedStreamChunk < chunk.payload.length := by
  cases chunks with
  | nil => exact iff_of_true (.ok _) (by simp)
  | cons chunk rest =>
      have first : Handled (loop.sendChunk interpreter .null chunk) ↔
          loop.limits.negotiatedStreamChunk < chunk.payload.length := by
        simpa using sendChunk_handled_iff .null chunk
      rw [List.head?_cons, replay]
      simp only [Option.mem_def, Option.some.injEq, forall_eq']
      rw [← first]
      constructor
      · exact Handled.of_bind
      · intro handled
        cases sent : loop.sendChunk interpreter .null chunk with
        | error error => exact Handled.error_iff.mpr (handled error sent)
        | ok next =>
            unfold sendChunk at sent
            dsimp only at sent
            split at sent <;> cases sent

structure Replays (loop : ReceiveLoop) (frame : WindowFrame) (response : ResponseEntry) :
    Prop where
  goesOn : frame.complete = false
  interrupted : response.ready = false
  first : ∃ chunk ∈ (response.acknowledge frame).head?,
    chunk.payload.length ≤ loop.limits.negotiatedStreamChunk

theorem resumeResponse_handled_iff {rid : Json} {key : Key} {response : ResponseEntry}
    (hashable : rid.hashable = true) :
    Handled (loop.resumeResponse interpreter rid key response) ↔
      Handled (replay interpreter rid response.unacked response.credits loop) := by
  constructor
  · exact Handled.of_bind
  · intro replayed
    apply replayed.bind
    intro sent
    rcases sent with ⟨credits, next⟩
    dsimp only
    split
    · exact (respEnd_handled hashable).bind fun _ => .ok _
    · exact .ok _

theorem creditResponse_handled_iff {frame : WindowFrame} {rid : Json} {key : Key}
    {response : ResponseEntry} (hashable : rid.hashable = true) :
    Handled (loop.creditResponse interpreter frame rid key response) ↔
      (rid = .null → ¬loop.Replays frame response) := by
  rw [creditResponse]
  dsimp only
  split
  · rename_i complete
    exact iff_of_true (.ok _) fun _ replays =>
      Bool.false_ne_true (replays.goesOn.symm.trans complete)
  · rename_i goesOn
    rw [Bool.not_eq_true] at goesOn
    split
    · rename_i ready
      exact iff_of_true (.ok _) fun _ replays =>
        Bool.false_ne_true (replays.interrupted.symm.trans ready)
    · rename_i interrupted
      rw [Bool.not_eq_true] at interrupted
      rw [resumeResponse_handled_iff hashable]
      by_cases unnamed : rid = .null
      · subst unnamed
        rw [replay_null_handled_iff, forall_prop_of_true rfl]
        constructor
        · intro long replays
          rcases replays.first with ⟨chunk, isFirst, fits⟩
          exact absurd (long chunk isFirst) (Nat.not_lt.mpr fits)
        · intro never chunk isFirst
          by_contra fits
          exact never ⟨goesOn, interrupted, chunk, isFirst, Nat.not_lt.mp fits⟩
      · exact iff_of_true (replay_handled unnamed _ _ _)
          fun isNull => absurd isNull unnamed

theorem window_handled_iff (frame : Dict) :
    Handled (loop.window interpreter frame) ↔
      ((windowOf frame).valid = true → (idOf frame).hashable = true ∧
        (idOf frame = .null → ∀ response ∈ loop.responseCredits.lookup .null,
          ¬loop.Replays (windowOf frame) response)) := by
  rw [window]
  split
  · rename_i valid
    rw [forall_prop_of_true valid]
    by_cases hashable : (idOf frame).hashable = true
    · rw [and_iff_right hashable]
      rcases hash_eq interpreter hashable with ⟨key, isKey, hashed⟩
      dsimp only
      rw [hashed]
      dsimp only [bind, Except.bind]
      cases isResponse : loop.responseCredits.lookup key with
      | none =>
          apply iff_of_true (.ok _)
          intro unnamed response isUnnamed
          rw [unnamed] at isKey
          cases isKey
          cases isResponse.symm.trans isUnnamed
      | some response =>
          dsimp only
          rw [creditResponse_handled_iff hashable]
          apply forall_congr'
          intro unnamed
          rw [unnamed] at isKey
          cases isKey
          rw [isResponse]
          simp
    · exact iff_of_false (fun handled => hashable (hash_handled_iff.mp handled.of_bind))
        fun both => hashable both.1
  · rename_i invalid
    exact iff_of_true (.protocolError _) fun valid => absurd valid invalid

/-! ## A pass -/

def PermitsFrame (interpreter : Interpreter) (loop : ReceiveLoop) (frame : Dict) :
    FrameType → Prop
  | .hello | .httpReqBegin | .pong => True
  | .httpReq | .httpReqEnd | .error | .wsMessage | .wsClose => (idOf frame).hashable = true
  | .wsConnect => (idOf frame).truthy = true → (idOf frame).hashable = true
  | .window =>
      (windowOf frame).valid = true → (idOf frame).hashable = true ∧
        (idOf frame = .null → ∀ response ∈ loop.responseCredits.lookup .null,
          ¬loop.Replays (windowOf frame) response)
  | .ping => (pongFrame frame).depth ≤ interpreter.nesting

def PermitsLoaded (interpreter : Interpreter) (loop : ReceiveLoop) :
    Except LoadsError Json → Prop
  | .error (.decodeError _) | .error (.valueError _) => True
  | .ok (.object frame) =>
      ∀ frameType ∈ FrameType.ofFrame frame, loop.PermitsFrame interpreter frame frameType
  | .error .recursionError | .ok _ => False

def Permits (interpreter : Interpreter) (loop : ReceiveLoop) : Message → Prop
  | .binary _ => True
  | .text text => loop.PermitsLoaded interpreter (interpreter.loads text)

structure Receives (interpreter : Interpreter) (loop : ReceiveLoop) (message : Message) :
    Prop where
  handled : Handled (loop.handle interpreter message)
  unchanged : ∀ text, message = .text text →
    (∀ frame, interpreter.loads text ≠ .ok (.object frame)) →
      loop.handle interpreter message = .ok loop

theorem handleFrame_handled_iff (frame : Dict) :
    Handled (loop.handleFrame interpreter frame) ↔
      ∀ frameType ∈ FrameType.ofFrame frame,
        loop.PermitsFrame interpreter frame frameType := by
  rw [handleFrame]
  cases FrameType.ofFrame frame with
  | none => exact iff_of_true (.ok _) (by simp)
  | some frameType =>
      simp only [Option.mem_def, Option.some.injEq, forall_eq']
      cases frameType with
      | hello | pong => exact iff_of_true (.ok _) trivial
      | httpReqBegin => exact iff_of_true (httpReqBegin_handled frame) trivial
      | httpReq => exact httpReq_handled_iff frame
      | httpReqEnd => exact httpReqEnd_handled_iff frame
      | window => exact window_handled_iff frame
      | error => exact peerError_handled_iff frame
      | wsConnect => exact wsConnect_handled_iff frame
      | wsMessage | wsClose => exact wsFrame_handled_iff frame
      | ping => exact sendFrame_handled_iff

theorem not_receives {message : Message} {error : LoopError}
    (raised : loop.handle interpreter message = .error error)
    (unexpected : error.expected = false) : ¬loop.Receives interpreter message := by
  intro receives
  exact Bool.false_ne_true (unexpected.symm.trans (receives.handled error raised))

theorem receivesText_iff (text : String) :
    loop.Receives interpreter (.text text) ↔
      loop.PermitsLoaded interpreter (interpreter.loads text) := by
  cases loaded : interpreter.loads text with
  | error error =>
      cases error with
      | decodeError _ | valueError _ =>
          have unchanged : loop.handle interpreter (.text text) = .ok loop := by
            simp only [handle, loaded]
          apply iff_of_true _ trivial
          constructor
          · rw [unchanged]
            exact .ok loop
          · intro _ _ _
            exact unchanged
      | recursionError =>
          have raised : loop.handle interpreter (.text text) = .error .recursionError := by
            simp only [handle, loaded]
          exact iff_of_false (not_receives raised rfl) id
  | ok value =>
      cases value with
      | object frame =>
          have handled : loop.handle interpreter (.text text) =
              loop.handleFrame interpreter frame := by
            simp only [handle, loaded]
          change _ ↔ ∀ frameType ∈ FrameType.ofFrame frame, _
          rw [← handleFrame_handled_iff, ← handled]
          constructor
          · exact Receives.handled
          · intro isHandled
            refine ⟨isHandled, ?_⟩
            intro other isText notObject
            cases isText
            exact absurd loaded (notObject frame)
      | null | bool _ | int _ | float _ | str _ | array _ =>
          have raised : ∃ message,
              loop.handle interpreter (.text text) = .error (.attributeError message) := by
            simp [handle, loaded]
          rcases raised with ⟨message, raised⟩
          exact iff_of_false (not_receives raised rfl) id

/-- Every message is received as it should be, except a text whose value is no object or
has no permitted id. -/
theorem receives_iff (interpreter : Interpreter) (loop : ReceiveLoop) (message : Message) :
    loop.Receives interpreter message ↔ loop.Permits interpreter message := by
  cases message with
  | binary raw =>
      apply iff_of_true _ trivial
      refine ⟨receiveBinary_handled raw, ?_⟩
      intro text isText
      cases isText
  | text text => exact receivesText_iff text

def reading (value : Json) : Interpreter where
  loads := fun _ => .ok value
  dumps := fun _ => ""
  nesting := 3
  framesNest := Nat.le_refl 3
  floatValue := .inr
  unicode := ⟨fun _ => none⟩
  builtins := ⟨fun _ => none, fun _ => none, fun _ => ""⟩

/-- A list ends the loop of a new connection. -/
theorem list_message_raises :
    ¬∀ (interpreter : Interpreter) (loop : ReceiveLoop) (message : Message),
      loop.Receives interpreter message := by
  intro claim
  have received := claim (reading (.array [])) (.initial .default) (.text "[]")
  exact Bool.false_ne_true (received.handled (.attributeError _) rfl)

end ReceiveLoop

end YrSandbox.Tunnel
