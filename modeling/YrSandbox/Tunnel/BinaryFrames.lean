import YrSandbox.Tunnel.BinaryEnvelope
import YrSandbox.Tunnel.Negotiation
import YrSandbox.Tunnel.ResponseSteps

/-! # The binary frames of a client

Responses, channels and the receive loop send binary frames. A response and the task that
reads the upstream WebSocket of a channel use the variables of the `_proxy_loop` in which
they were started, and go on when its connection is lost: the former are kept for it, the
latter because cancelling `handle_ws_connect` in `asyncio.wait` leaves the two tasks that
it waits for. What they send then goes to the connection that there is. -/

namespace YrSandbox.Tunnel

open Python Transition

def EnvelopeError.isProtocol : EnvelopeError → Bool
  | protocol _ => true
  | outOfRange | badUuid => false

/-! ## Responses -/

/-- A response stream with its id, and the number of the `_proxy_loop` it belongs to. -/
structure Response where
  rid : Text
  loop : Nat
  stream : ResponseStream
deriving DecidableEq, Repr

namespace Response

def envelope (response : Response) (chunk : Chunk UInt8) : BinaryEnvelope where
  requestId := response.rid
  kind := .httpResponseData
  payload := chunk.payload
  endOfBody := false
  offset := some chunk.offset

/-- `send_binary` encodes the chunk that the streaming task has just taken up; an error
ends the task. -/
def encodeStreamed (unicode : UnicodeData) (response : Response) : Response :=
  match response.stream.streamer with
  | .sending chunk _ .waiting =>
      match (response.envelope chunk).encode unicode
          response.stream.origin.negotiatedStreamChunk with
      | .ok _ => response
      | .error _ => { response with stream := { response.stream with streamer := .done } }
  | _ => response

/-- `send_binary` encodes the chunk that is replayed next; an error is raised in the
receive loop. -/
def encodeReplayed (unicode : UnicodeData) (response : Response) :
    Response × Option EnvelopeError :=
  match response.stream.replay with
  | .sending _ chunk .waiting =>
      match (response.envelope chunk).encode unicode
          response.stream.limits.negotiatedStreamChunk with
      | .ok _ => (response, none)
      | .error error =>
          ({ response with stream := { response.stream with replay := .raised } },
            some error)
  | _ => (response, none)

/-- The turn is one of the receive loop that replays. A frame that is not valid is
refused before. -/
def isReplay : ResponseStream.Event → Bool
  | .windowFrame frame => frame.valid
  | .replayLock | .replayCredit | .replayDrained => true
  | _ => false

/-- One turn, and whether a replay raises a `ProtocolError` in the receive loop. -/
def step (unicode : UnicodeData) (response : Response) (event : ResponseStream.Event) :
    Option (Response × Bool) :=
  (response.stream.step event).map fun stream =>
    let streamed := { response with stream }.encodeStreamed unicode
    let (next, error) := streamed.encodeReplayed unicode
    (next, isReplay event && decide (stream.replay = .raised) ||
      error.any EnvelopeError.isProtocol)

def transmitted (response : Response) : ResponseStream.Event → Option (Chunk UInt8)
  | .transmit =>
      match response.stream.streamer with
      | .sending chunk _ .waiting => some chunk
      | _ => none
  | .replayTransmit =>
      match response.stream.replay with
      | .sending _ chunk .waiting => some chunk
      | _ => none
  | _ => none

/-- An event of this response alone, or of the receive loop that handles a frame for
it. -/
def concerns : ResponseStream.Event → Bool
  | .protocolError | .negotiated _ | .lost | .disconnect | .reconnect _ => false
  | _ => true

def isFrame : ResponseStream.Event → Bool
  | .windowFrame _ | .errorFrame _ => true
  | _ => false

def follow (event : ResponseStream.Event) (response : Response) : Response :=
  { response with stream := (response.stream.step event).getD response.stream }

end Response

/-! ## Channels -/

/-- Where `from_upstream` stands; `message` is what is left of the one it sends. -/
inductive WsSender
  | waiting
  | sending (payload : Bytes) (message : List Bytes) (stage : Stage)
  | done
deriving DecidableEq, Repr

def WsSender.interrupt : WsSender → WsSender
  | sending payload message _ => sending payload message .waiting
  | sender => sender

structure Channel where
  rid : Text
  loop : Nat
  sender : WsSender
deriving DecidableEq, Repr

namespace Channel

def envelope (channel : Channel) (payload : Bytes) (message : List Bytes) :
    BinaryEnvelope where
  requestId := channel.rid
  kind := .wsBinaryData
  payload := payload
  endOfBody := message.isEmpty
  offset := none

/-- On to the next chunk of a message, which `send_binary` encodes first. -/
def sendNext (unicode : UnicodeData) (limits : NegotiatedLimits) (message : List Bytes)
    (channel : Channel) : Channel :=
  match message with
  | [] => { channel with sender := .waiting }
  | payload :: message =>
      match (channel.envelope payload message).encode unicode
        limits.negotiatedStreamChunk with
      | .ok _ => { channel with sender := .sending payload message .waiting }
      | .error _ => { channel with sender := .done }

def chunks (limits : NegotiatedLimits) (message : Bytes) : List Bytes :=
  if message = [] then [[]] else cut limits.negotiatedStreamChunk message

/-- A binary message from the upstream WebSocket. Under V1 it goes into a JSON frame. -/
def upstreamMessage (unicode : UnicodeData) (limits : NegotiatedLimits) (message : Bytes)
    (channel : Channel) : Channel :=
  if limits.negotiatedProtocolVersion < protocolVersion then channel
  else if limits.negotiatedMaxWsMessageSize < message.length then
    { channel with sender := .done }
  else channel.sendNext unicode limits (chunks limits message)

end Channel

/-! ## The client -/

/-- A binary frame on the wire, with the limits of its connection when it was sent. -/
structure SentFrame where
  limits : Limits
  envelope : BinaryEnvelope
deriving DecidableEq, Repr

/-- A client over its connections: `limits` are the variables of each `_proxy_loop`, of
which `present` is the last. -/
structure TunnelClient where
  own : ClientLimits
  limits : Nat → NegotiatedLimits
  present : Nat
  connected : Bool
  wsReady : Bool
  raised : Bool -- by another branch of the receive loop
  responses : List Response
  channels : List Channel
  sent : List SentFrame
  replayRaised : Bool -- a `ProtocolError`, by a replay

namespace TunnelClient

def initial (own : ClientLimits) : TunnelClient where
  own := own
  limits := fun _ => own.opening
  present := 0
  connected := true
  wsReady := true
  raised := false
  responses := []
  channels := []
  sent := []
  replayRaised := false

/-- The receive loop is at `async for message in ws`. -/
def listening (client : TunnelClient) : Bool :=
  client.connected && !client.raised &&
    client.responses.all fun response => response.stream.replay = .idle

def send (envelope : Option BinaryEnvelope) (client : TunnelClient) : TunnelClient :=
  let limits := (client.limits client.present).toLimits
  { client with sent := client.sent ++ (envelope.map (SentFrame.mk limits)).toList }

def follow (event : ResponseStream.Event) (client : TunnelClient) : TunnelClient :=
  { client with responses := client.responses.map (Response.follow event) }

def setLimits (limits : NegotiatedLimits) (client : TunnelClient) : TunnelClient :=
  { client with
    limits := fun loop => if loop = client.present then limits else client.limits loop }

/-- `send_streaming_response` registers a response, in place of an older one. -/
def respond (rid : Text) (loop : Nat) (head : ResponseHead) (client : TunnelClient) :
    TunnelClient :=
  let replaced := client.responses.map fun response =>
    if response.rid = rid then
      { response with stream := { response.stream with registered := false } }
    else response
  let stream :=
    { ResponseStream.initial head (client.limits loop).toLimits with
      limits := (client.limits client.present).toLimits
      connected := client.connected
      wsReady := client.wsReady }
  { client with responses := replaced ++ [⟨rid, loop, stream⟩] }

def response (unicode : UnicodeData) (index : Nat) (event : ResponseStream.Event)
    (client : TunnelClient) : Option TunnelClient := do
  let response ← client.responses[index]?
  let (next, raised) ← response.step unicode event
  let envelope := (response.transmitted event).map response.envelope
  return { client.send envelope with
    responses := client.responses.set index next
    replayRaised := client.replayRaised || raised }

def setChannel (index : Nat) (channel : Channel) (client : TunnelClient) : TunnelClient :=
  { client with channels := client.channels.set index channel }

def interruptChannels (client : TunnelClient) : TunnelClient :=
  { client with
    channels := client.channels.map fun channel =>
      { channel with sender := channel.sender.interrupt } }

/-! ### Steps -/

inductive Event
  | hello (frame : HelloFrame)
  | respond (rid : Text) (loop : Nat) (head : ResponseHead)
  | response (index : Nat) (event : ResponseStream.Event)
  | wsConnected (rid : Text)
  | upstreamMessage (index : Nat) (message : Bytes)
  | wsTransmit (index : Nat)
  | wsDrained (index : Nat)
  | wsEnd (index : Nat)
  | protocolError
  | lost
  | disconnect
  | reconnect
deriving DecidableEq, Repr

/-- The upstream's answer to a request of this loop is streamed: V2 is negotiated, and its
declared length is within the limit. -/
def mayRespond (client : TunnelClient) (loop : Nat) (head : ResponseHead) : Bool :=
  decide (loop ≤ client.present) &&
    decide (protocolVersion ≤ (client.limits loop).negotiatedProtocolVersion) &&
    !(head.bodyExpected && head.contentLength.any
      (((client.limits loop).negotiatedMaxBodySize : Int) < ·))

def step (unicode : UnicodeData) (client : TunnelClient) : Event → Option TunnelClient
  | .hello frame =>
      if client.listening then
        let limits := client.own.hello frame (client.limits client.present)
        some ((client.setLimits limits).follow (.negotiated limits.toLimits))
      else none
  | .respond rid loop head =>
      if client.mayRespond loop head then some (client.respond rid loop head) else none
  | .response index event =>
      if Response.concerns event ∧
        (Response.isFrame event = true → client.listening = true) then
        client.response unicode index event
      else none
  | .wsConnected rid =>
      if client.connected then
        some { client with
          channels := client.channels ++ [⟨rid, client.present, .waiting⟩] }
      else none
  | .upstreamMessage index message =>
      client.channels[index]?.bind fun channel =>
        if channel.sender = .waiting then
          some (client.setChannel index
            (channel.upstreamMessage unicode (client.limits channel.loop) message))
        else none
  | .wsTransmit index =>
      client.channels[index]?.bind fun channel =>
        match channel.sender with
        | .sending payload message .waiting =>
            if client.wsReady then
              let sent := { channel with sender := .sending payload message .draining }
              some ((client.send (channel.envelope payload message)).setChannel index sent)
            else none
        | _ => none
  | .wsDrained index =>
      client.channels[index]?.bind fun channel =>
        match channel.sender with
        | .sending _ message .draining =>
            some (client.setChannel index
              (channel.sendNext unicode (client.limits channel.loop) message))
        | _ => none
  | .wsEnd index =>
      client.channels[index]?.map fun channel =>
        client.setChannel index { channel with sender := .done }
  | .protocolError =>
      if client.listening then some { client with raised := true } else none
  | .lost =>
      if client.connected then
        some { (client.follow .lost).interruptChannels with wsReady := false }
      else none
  | .disconnect =>
      if client.connected ∧ client.responses.all fun response =>
          response.stream.replay = .idle ∨ response.stream.replay = .raised then
        some { (client.follow .disconnect).interruptChannels with
          connected := false
          wsReady := false
          raised := false }
      else none
  | .reconnect =>
      if client.connected then none
      else
        let limits := client.own.opening
        let opened := { client with present := client.present + 1 }
        some { (opened.setLimits limits).follow (.reconnect limits.toLimits) with
          connected := true
          wsReady := true }

end TunnelClient

end YrSandbox.Tunnel
