import YrSandbox.Python.Base64
import YrSandbox.Python.Json
import YrSandbox.Tunnel.BinaryFrames
import YrSandbox.Tunnel.RequestHeaders

/-! # The messages of a channel

`from_upstream` passes on what the upstream WebSocket of a channel sends; `from_sandbox`
sends to it what the other side has put into frames. A binary message travels in pieces,
and only the flag on its last piece tells where it ends. -/

namespace YrSandbox.Tunnel

open Python

inductive WsMessage
  | text (data : String)
  | binary (data : Bytes)
deriving DecidableEq, Repr

inductive ChannelFrame
  | json (frame : Dict)
  | binary (envelope : BinaryEnvelope)

inductive ChannelError
  | protocolError (message : String)
  | valueError (message : String)
  | typeError (message : String)
deriving DecidableEq, Repr

def messageTooLong : ChannelError :=
  .protocolError "WebSocket binary message exceeds tunnel limit"

/-! ## From the upstream -/

namespace FromUpstream

def wsMessageFrame (rid : Text) (data : String) (binary : Bool) : Dict :=
  [("type", .str "ws_message"), ("id", .str (String.ofList rid)), ("data", .str data),
    ("binary", .bool binary)]

def chunks (streamChunk : Nat) (message : Bytes) : List Bytes :=
  if message = [] then [[]]
  else
    (offsets streamChunk message.length).map fun offset =>
      slice message offset streamChunk

def chunkCount (streamChunk : Nat) (message : Bytes) : Nat :=
  max 1 ((message.length + streamChunk - 1) / streamChunk)

def envelope (rid : Text) (piece : Bytes × Bool) : BinaryEnvelope where
  requestId := rid
  kind := .wsBinaryData
  payload := piece.1
  endOfBody := piece.2
  offset := none

def envelopes (rid : Text) (streamChunk : Nat) (message : Bytes) : List BinaryEnvelope :=
  (chunks streamChunk message).mapIdx fun index chunk =>
    envelope rid (chunk, index + 1 == chunkCount streamChunk message)

def send (limits : NegotiatedLimits) (rid : Text) :
    WsMessage → Except ChannelError (List ChannelFrame)
  | .text data => .ok [.json (wsMessageFrame rid data false)]
  | .binary message =>
      if protocolVersion ≤ limits.negotiatedProtocolVersion then
        if limits.negotiatedMaxWsMessageSize < message.length then .error messageTooLong
        else .ok ((envelopes rid limits.negotiatedStreamChunk message).map .binary)
      else
        .ok [.json (wsMessageFrame rid (String.ofList (Base64.encode message)) true)]

end FromUpstream

/-! ## From the sandbox -/

/-- What goes to the upstream WebSocket. The data of a text message are passed on as the
frame has them. -/
inductive UpstreamSend
  | data (value : Json)
  | bytes (message : Bytes)
  | close (code reason : Json)

def WsMessage.sent : WsMessage → UpstreamSend
  | text data => .data (.str data)
  | binary data => .bytes data

/-- The variables of `from_sandbox` and what it has sent. -/
structure FromSandbox where
  incomingBinary : Bytes
  sent : List UpstreamSend
  returned : Bool

namespace FromSandbox

def initial : FromSandbox where
  incomingBinary := []
  sent := []
  returned := false

def sending (message : UpstreamSend) (state : FromSandbox) : FromSandbox :=
  { state with sent := state.sent ++ [message] }

def receiveEnvelope (limits : NegotiatedLimits) (state : FromSandbox)
    (envelope : BinaryEnvelope) : Except ChannelError FromSandbox :=
  if envelope.kind ≠ .wsBinaryData then
    .error (.protocolError "unexpected binary kind for WebSocket channel")
  else if limits.negotiatedMaxWsMessageSize <
      state.incomingBinary.length + envelope.payload.length then .error messageTooLong
  else
    let incomingBinary := state.incomingBinary ++ envelope.payload
    if envelope.endOfBody then
      .ok { state.sending (.bytes incomingBinary) with incomingBinary := [] }
    else .ok { state with incomingBinary }

/-- `base64.b64decode(data, validate=True)` -/
def decodeData : Json → Except ChannelError Bytes
  | .str data =>
      match Base64.decode true data.toList with
      | .ok decoded => .ok decoded
      | .error message => .error (.valueError message)
  | data =>
      .error (.typeError
        s!"argument should be a bytes-like object or ASCII string, not '{data.typeName}'")

def wsBodyLimit (limits : NegotiatedLimits) : Nat :=
  if protocolVersion ≤ limits.negotiatedProtocolVersion then
    limits.negotiatedMaxWsMessageSize
  else min limits.negotiatedMaxBodySize maxV1BodyBytes

def receiveJson (limits : NegotiatedLimits) (state : FromSandbox) (frame : Dict) :
    Except ChannelError FromSandbox :=
  match frame.get? "type" with
  | some (.str "ws_message") =>
      let data := (frame.get? "data").getD (.str "")
      if ((frame.get? "binary").getD (.bool false)).truthy then
        match decodeData data with
        | .error error => .error error
        | .ok decoded =>
            if wsBodyLimit limits < decoded.length then .error messageTooLong
            else .ok (state.sending (.bytes decoded))
      else .ok (state.sending (.data data))
  | some (.str "ws_close") =>
      let code := (frame.get? "code").getD (.int 1000)
      let reason := (frame.get? "reason").getD (.str "")
      .ok { state.sending (.close code reason) with returned := true }
  | _ => .ok state

/-- One frame from the queue, of which nothing more is read after a `ws_close`. -/
def receive (limits : NegotiatedLimits) (state : FromSandbox) (frame : ChannelFrame) :
    Except ChannelError FromSandbox :=
  if state.returned then .ok state
  else
    match frame with
    | .json frame => state.receiveJson limits frame
    | .binary envelope => state.receiveEnvelope limits envelope

/-- `from_sandbox` over the frames of its queue. -/
def run (limits : NegotiatedLimits) (state : FromSandbox) (frames : List ChannelFrame) :
    Except ChannelError FromSandbox :=
  frames.foldlM (receive limits) state

end FromSandbox

/-! ## The pieces of a message -/

namespace FromUpstream

structure WellCut (streamChunk : Nat) (frames : List BinaryEnvelope) : Prop where
  nonempty : frames ≠ []
  within : ∀ frame ∈ frames, frame.payload.length ≤ streamChunk
  ends : frames.map BinaryEnvelope.endOfBody =
    List.replicate (frames.length - 1) false ++ [true]

theorem chunks_eq (limits : NegotiatedLimits) (message : Bytes) :
    chunks limits.negotiatedStreamChunk message = Channel.chunks limits message := by
  rw [chunks, map_slice_offsets limits.chunkPositive, Channel.chunks]

variable (limits : NegotiatedLimits)

theorem flatten_chunks (message : Bytes) :
    (chunks limits.negotiatedStreamChunk message).flatten = message := by
  rw [chunks_eq, Channel.chunks]
  split
  · rename_i empty
    rw [empty]
    rfl
  · exact flatten_cut limits.chunkPositive message

theorem chunks_ne_nil (message : Bytes) :
    chunks limits.negotiatedStreamChunk message ≠ [] := by
  intro none
  have spelt := flatten_chunks limits message
  rw [none] at spelt
  rw [← spelt] at none
  cases none

theorem length_le_of_mem_chunks {message piece : Bytes}
    (isChunk : piece ∈ chunks limits.negotiatedStreamChunk message) :
    piece.length ≤ limits.negotiatedStreamChunk := by
  rw [chunks_eq, Channel.chunks] at isChunk
  split at isChunk
  · obtain rfl := List.mem_singleton.mp isChunk
    exact Nat.zero_le _
  · exact (Nat.le_min.mp (length_le_of_mem_cut isChunk)).1

theorem chunkCount_eq (message : Bytes) :
    chunkCount limits.negotiatedStreamChunk message =
      (chunks limits.negotiatedStreamChunk message).length := by
  have positive := limits.chunkPositive
  have some := List.length_pos_iff.mpr (chunks_ne_nil limits message)
  rw [chunkCount]
  rw [chunks_eq, Channel.chunks] at some ⊢
  split
  · rename_i empty
    rw [empty, List.length_nil, Nat.div_eq_of_lt (by omega)]
    rfl
  · rename_i nonempty
    rw [if_neg nonempty] at some
    rw [length_cut] at some ⊢
    exact Nat.max_eq_right some

theorem envelopes_eq (rid : Text) (message : Bytes) :
    envelopes rid limits.negotiatedStreamChunk message =
      (markLast (chunks limits.negotiatedStreamChunk message)).map (envelope rid) := by
  rw [envelopes, chunkCount_eq, ← mapIdx_eq_markLast]

theorem envelopes_wellCut (rid : Text) (message : Bytes) :
    WellCut limits.negotiatedStreamChunk
      (envelopes rid limits.negotiatedStreamChunk message) := by
  have nonempty := chunks_ne_nil limits message
  have count : (envelopes rid limits.negotiatedStreamChunk message).length =
      (chunks limits.negotiatedStreamChunk message).length := by
    rw [envelopes, List.length_mapIdx]
  constructor
  · intro none
    rw [none] at count
    exact nonempty (List.eq_nil_of_length_eq_zero count.symm)
  · intro frame isFrame
    rw [envelopes, List.mem_mapIdx] at isFrame
    rcases isFrame with ⟨index, bound, rfl⟩
    exact length_le_of_mem_chunks limits (List.getElem_mem bound)
  · rw [count, ← map_snd_markLast nonempty, envelopes_eq, List.map_map]
    rfl

end FromUpstream

/-! ## Both together -/

def WsMessage.Within (limits : NegotiatedLimits) : WsMessage → Prop
  | text _ => True
  | binary data => data.length ≤ limits.negotiatedMaxWsMessageSize

instance (limits : NegotiatedLimits) :
    ∀ message, Decidable (WsMessage.Within limits message)
  | .text _ => .isTrue trivial
  | .binary _ => inferInstanceAs (Decidable (_ ≤ _))

def FromUpstream.Carries (limits : NegotiatedLimits) :
    WsMessage → List ChannelFrame → Prop
  | .text _, _ => True
  | .binary _, frames => ∃ envelopes : List BinaryEnvelope,
      frames = envelopes.map .binary ∧ WellCut limits.negotiatedStreamChunk envelopes

namespace FromSandbox

open FromUpstream

def afterHello : NegotiatedLimits :=
  ClientLimits.default.hello (.withChunk 1024) ClientLimits.default.opening

variable {limits : NegotiatedLimits} {state : FromSandbox}

theorem run_cons {next : FromSandbox} {frame : ChannelFrame}
    (received : state.receive limits frame = .ok next) (frames : List ChannelFrame) :
    state.run limits (frame :: frames) = next.run limits frames := by
  rw [run, List.foldlM_cons, received]
  rfl

theorem run_append {next : FromSandbox} {frames : List ChannelFrame}
    (ran : state.run limits frames = .ok next) (more : List ChannelFrame) :
    state.run limits (frames ++ more) = next.run limits more := by
  rw [run] at ran
  rw [run, List.foldlM_append, ran]
  rfl

theorem receive_piece (going : state.returned = false) (rid : Text) (piece : Bytes)
    (isLast : Bool)
    (fits : state.incomingBinary.length + piece.length ≤
      limits.negotiatedMaxWsMessageSize) :
    state.receive limits (.binary (envelope rid (piece, isLast))) =
      .ok (if isLast then
          { state.sending (.bytes (state.incomingBinary ++ piece)) with
            incomingBinary := [] }
        else { state with incomingBinary := state.incomingBinary ++ piece }) := by
  have kind : ¬(envelope rid (piece, isLast)).kind ≠ .wsBinaryData := not_not_intro rfl
  have within : ¬limits.negotiatedMaxWsMessageSize <
      state.incomingBinary.length + (envelope rid (piece, isLast)).payload.length :=
    Nat.not_lt.mpr fits
  rw [receive, if_neg (going ▸ Bool.false_ne_true)]
  dsimp only
  rw [receiveEnvelope, if_neg kind, if_neg within]
  cases isLast <;> rfl

theorem run_pieces (rid : Text) {pieces : List Bytes} (nonempty : pieces ≠ [])
    (going : state.returned = false)
    (fits : state.incomingBinary.length + pieces.flatten.length ≤
      limits.negotiatedMaxWsMessageSize) :
    state.run limits ((markLast pieces).map fun piece => .binary (envelope rid piece)) =
      .ok { state.sending (.bytes (state.incomingBinary ++ pieces.flatten)) with
        incomingBinary := [] } := by
  induction pieces generalizing state with
  | nil => exact absurd rfl nonempty
  | cons piece rest induction =>
      rw [List.flatten_cons, List.length_append] at fits
      have received : state.receive limits (.binary (envelope rid (piece, rest.isEmpty))) =
          _ := receive_piece going rid piece rest.isEmpty (by omega)
      rw [markLast, List.map_cons, run_cons received]
      cases rest with
      | nil =>
          simp only [List.flatten_cons, List.flatten_nil, List.append_nil]
          rfl
      | cons next others =>
          have later : (next :: others).isEmpty = false := rfl
          rw [later, if_neg Bool.false_ne_true, induction (List.cons_ne_nil _ _)]
          · simp only [List.flatten_cons, List.append_assoc]
            rfl
          · exact going
          · rw [List.length_append]
            omega

theorem run_send (selected : protocolVersion ≤ limits.negotiatedProtocolVersion)
    (rid : Text) {message : WsMessage} (within : message.Within limits)
    (between : state.incomingBinary = []) (going : state.returned = false) :
    ∃ frames, send limits rid message = .ok frames ∧
      state.run limits frames = .ok (state.sending message.sent) ∧
      Carries limits message frames := by
  cases message with
  | text data =>
      refine ⟨_, rfl, ?_, trivial⟩
      have received : state.receive limits (.json (wsMessageFrame rid data false)) =
          .ok (state.sending (.data (.str data))) := by
        rw [receive, going]
        rfl
      rw [run_cons received]
      rfl
  | binary data =>
      have fits : ¬limits.negotiatedMaxWsMessageSize < data.length := Nat.not_lt.mpr within
      refine ⟨(envelopes rid limits.negotiatedStreamChunk data).map .binary, ?_, ?_,
        _, rfl, envelopes_wellCut limits rid data⟩
      · rw [send, if_pos selected, if_neg fits]
      · have spelt := flatten_chunks limits data
        rw [envelopes_eq, List.map_map]
        have room : state.incomingBinary.length +
            (chunks limits.negotiatedStreamChunk data).flatten.length ≤
              limits.negotiatedMaxWsMessageSize := by
          rw [between, spelt, List.length_nil, Nat.zero_add]
          exact within
        have ran := run_pieces rid (chunks_ne_nil limits data) going room
        rw [spelt, between, List.nil_append] at ran
        rw [sending, between]
        exact ran

theorem run_sendAll (selected : protocolVersion ≤ limits.negotiatedProtocolVersion)
    (rid : Text) {messages : List WsMessage}
    (within : ∀ message ∈ messages, message.Within limits)
    (between : state.incomingBinary = []) (going : state.returned = false) :
    ∃ frames, messages.mapM (send limits rid) = .ok frames ∧
      state.run limits frames.flatten =
        .ok { state with sent := state.sent ++ messages.map WsMessage.sent } ∧
      List.Forall₂ (Carries limits) messages frames := by
  induction messages generalizing state with
  | nil =>
      refine ⟨[], rfl, ?_, .nil⟩
      rw [List.map_nil, List.append_nil]
      rfl
  | cons message messages induction =>
      rcases run_send selected rid (within message List.mem_cons_self) between going with
        ⟨first, sent, ran, carries⟩
      have others := fun other member => within other (List.mem_cons_of_mem message member)
      have later : (state.sending message.sent).incomingBinary = [] := between
      rcases induction others later going with ⟨rest, sentRest, ranRest, carryRest⟩
      refine ⟨first :: rest, ?_, ?_, .cons carries carryRest⟩
      · rw [List.mapM_cons, sent, sentRest]
        rfl
      · rw [List.flatten_cons, run_append ran, ranRest, List.map_cons]
        simp only [sending, List.append_assoc, List.cons_append, List.nil_append]

/-- Whatever the upstream sends, within the limit for binary messages, comes out of
reassembly as it went in, and every binary message was cut well. -/
theorem run_fromUpstream {limits : NegotiatedLimits}
    (selected : protocolVersion ≤ limits.negotiatedProtocolVersion) (rid : Text)
    {messages : List WsMessage} (within : ∀ message ∈ messages, message.Within limits) :
    ∃ frames, messages.mapM (send limits rid) = .ok frames ∧
      initial.run limits frames.flatten =
        .ok { initial with sent := messages.map WsMessage.sent } ∧
      List.Forall₂ (Carries limits) messages frames := by
  exact run_sendAll selected rid within rfl rfl

/-- An empty and a short binary message, with a text between them. -/
theorem run_fromUpstream_three_messages :
    ∃ frames,
      List.mapM (send afterHello "channel".toList)
          [.binary [], .text "a", .binary [1, 2]] =
        .ok frames ∧
      initial.run afterHello frames.flatten =
        .ok { initial with sent := [.bytes [], .data (.str "a"), .bytes [1, 2]] } ∧
      List.Forall₂ (Carries afterHello) [.binary [], .text "a", .binary [1, 2]] frames :=
  run_fromUpstream (by decide) "channel".toList (by decide)

end FromSandbox

end YrSandbox.Tunnel
