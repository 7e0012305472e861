import YrSandbox.Python.Interpreter
import YrSandbox.Tunnel.ChannelMessages
import YrSandbox.Tunnel.Exchange
import YrSandbox.Tunnel.FrameRouting
import YrSandbox.Tunnel.NegotiatedWindow
import YrSandbox.Tunnel.ResponseStream

/-! # The receive loop

One pass of the loop of `_proxy_loop`, from a message as it comes off the connection to
the next one, with the JSON of a text message as `json.loads` returns it. The tables are
keyed by whatever a frame has for an id.

What a pass awaits is taken to come, and the client is not being stopped. -/

namespace YrSandbox.Tunnel

open Python

inductive LoopError
  | protocolError (message : String)
  | attributeError (message : String)
  | typeError (message : String)
  | valueError
  | structError
  | recursionError
deriving DecidableEq, Repr

def LoopError.ofEnvelope : EnvelopeError → LoopError
  | .protocol message => .protocolError message
  | .outOfRange => .structError
  | .badUuid => .valueError

inductive Message
  | binary (raw : Bytes)
  | text (text : String)
deriving DecidableEq, Repr

def controlWsMessageBytes : Nat := 8 * 1024 * 1024

def wsChannelQueueLimit : Nat := 100

/-! ## State -/

namespace ReceiveLoop

/-- A chunk that was sent and not acknowledged, of a body within the configured maximum. -/
structure SentChunk where
  offset : Nat
  payload : Bytes
  within : offset + payload.length ≤ maxConfiguredBodyBytes
deriving DecidableEq, Repr

/-- An entry of `stream_requests`, with the number of its task. -/
structure RequestEntry extends RequestState where
  task : Nat

/-- An entry of `response_credits`. The headers in its `begin_frame` are the innermost of
three levels. -/
structure ResponseEntry where
  credits : BoundedQueue Unit
  unacked : List SentChunk
  ready : Bool
  ended : Bool
  beginFrame : { frame : Json // frame.depth ≤ 3 }

inductive Task
  | sendFrame (frame : Json)
  | sendCached (cached : Cached)
  | yieldTurn
  | buildHttpRespFrame (frame : Dict)
  | awaitAndSend (rid : Json) (task : Nat)
  | streamHttpResponse (frame : Dict)
  | handleWsConnect (frame : Dict)

inductive Sent
  | text (raw : String)
  | binary (raw : Bytes)
deriving DecidableEq, Repr

end ReceiveLoop

/-- The state that a pass works on. A task is its place among all that were started. -/
structure ReceiveLoop where
  own : ClientLimits
  limits : NegotiatedLimits
  now : Int
  inflight : List (Key × Nat)
  completed : Completed Key
  streamRequests : List (Key × ReceiveLoop.RequestEntry)
  responseCredits : List (Key × ReceiveLoop.ResponseEntry)
  terminatedStreams : Terminated Key
  wsChannels : List (Key × BoundedQueue ChannelFrame)
  wsTasks : List (Key × Nat)
  tasks : List ReceiveLoop.Task
  httpTasks : List Nat
  cancelled : List Nat
  sent : List ReceiveLoop.Sent
  pendingPingId : Option String
  pongReceived : Bool

namespace ReceiveLoop

def initial (own : ClientLimits) : ReceiveLoop where
  own := own
  limits := own.opening
  now := 0
  inflight := []
  completed := []
  streamRequests := []
  responseCredits := []
  terminatedStreams := []
  wsChannels := []
  wsTasks := []
  tasks := []
  httpTasks := []
  cancelled := []
  sent := []
  pendingPingId := none
  pongReceived := false

def cancel (task : Nat) (loop : ReceiveLoop) : ReceiveLoop :=
  { loop with cancelled := loop.cancelled ++ [task] }

/-- A new task, which gets the number `loop.tasks.length`. -/
def start (task : Task) (loop : ReceiveLoop) : ReceiveLoop :=
  { loop with tasks := loop.tasks ++ [task] }

/-! ### Terminated streams and the cache -/

def rememberTerminated (rid : Key) (loop : ReceiveLoop) : ReceiveLoop :=
  { loop with terminatedStreams := loop.terminatedStreams.remember rid loop.now }

def isTerminated (rid : Key) (loop : ReceiveLoop) : Bool × ReceiveLoop :=
  let (known, terminatedStreams) := loop.terminatedStreams.isTerminated rid loop.now
  (known, { loop with terminatedStreams })

def cleanupCompleted (loop : ReceiveLoop) : ReceiveLoop :=
  { loop with completed := loop.completed.cleanup loop.now }

/-! ### Frames -/

variable (interpreter : Interpreter)

def sendFrame (frame : Json) (loop : ReceiveLoop) : Except LoopError ReceiveLoop :=
  if interpreter.nesting < frame.depth then .error .recursionError
  else if controlWsMessageBytes < (interpreter.dumps frame).utf8ByteSize then
    .error (.protocolError "tunnel control frame exceeds 8 MiB limit")
  else .ok { loop with sent := loop.sent ++ [.text (interpreter.dumps frame)] }

def errorFrame (rid : Json) (message : String) : Json :=
  .object [("type", .str "error"), ("id", rid), ("message", .str message)]

def windowFrame (rid : Json) (credits ackOffset : Nat) : Json :=
  .object [("type", .str "window"), ("id", rid), ("credits", .int credits),
    ("ack_offset", .int ackOffset)]

/-- The error of `uuid.UUID` where it is not given a text: a number has no `replace`, which
is caught, and without a value there is nothing to read. -/
def encodeError : Json → LoopError
  | .null =>
      .typeError "one of the hex, bytes, bytes_le, fields, or int arguments must be given"
  | _ => .protocolError "binary envelope id must be a UUID"

/-- `send_binary` of a chunk that is sent again. -/
def sendChunk (rid : Json) (chunk : SentChunk) (loop : ReceiveLoop) :
    Except LoopError ReceiveLoop :=
  let chunkLimit := loop.limits.negotiatedStreamChunk
  if chunkLimit < chunk.payload.length then
    .error (.ofEnvelope (BinaryEnvelope.overLimit chunk.payload.length chunkLimit))
  else
    match rid with
    | .str rid =>
        match BinaryEnvelope.encode interpreter.unicode
            { requestId := rid.toList
              kind := .httpResponseData
              payload := chunk.payload
              endOfBody := false
              offset := some chunk.offset } chunkLimit with
        | .error error => .error (.ofEnvelope error)
        | .ok raw => .ok { loop with sent := loop.sent ++ [.binary raw] }
    | rid => .error (encodeError rid)

def hash (rid : Json) : Except LoopError Key :=
  match interpreter.key? rid with
  | some key => .ok key
  | none => .error (.typeError s!"unhashable type: '{rid.typeName}'")

def idOf (frame : Dict) : Json := (frame.get? "id").getD (.str "")

def absorb (rid : Key) (message : String) (loop : ReceiveLoop) :
    Except LoopError ReceiveLoop :=
  let (isTerminated, checked) := loop.isTerminated rid
  if isTerminated then .ok checked else .error (.protocolError message)

/-! ### Streams and channels -/

def refuse (rid : Json) (key : Key) (entry : RequestEntry) (message : String)
    (loop : ReceiveLoop) : Except LoopError ReceiveLoop := do
  let loop ← loop.sendFrame interpreter (errorFrame rid message)
  let loop := loop.cancel entry.task
  .ok ({ loop with streamRequests :=
      Association.pop key loop.streamRequests }.rememberTerminated key)

def updateRequest (key : Key) (entry : RequestEntry) (loop : ReceiveLoop) : ReceiveLoop :=
  { loop with streamRequests := Association.store key entry loop.streamRequests }

/-- `await queue.put(None)`, which waits until the consumer has taken an item of a full
queue. -/
def putEnd (queue : BoundedQueue (Option Bytes)) : BoundedQueue (Option Bytes) :=
  match queue.put? none with
  | some next => next
  | none => (queue.get?.bind fun taken => taken.2.put? none).getD queue

def endRequest (key : Key) (entry : RequestEntry) (loop : ReceiveLoop) : ReceiveLoop :=
  loop.updateRequest key { entry with ended := true, queue := putEnd entry.queue }

def closeChannel (key : Key) (loop : ReceiveLoop) : ReceiveLoop :=
  let loop :=
    match loop.wsTasks.lookup key with
    | some task => loop.cancel task
    | none => loop
  { loop with
    wsTasks := Association.pop key loop.wsTasks
    wsChannels := Association.pop key loop.wsChannels }.rememberTerminated key

/-- `channel.put_nowait(frame)`. A channel whose queue is full is given up. -/
def putChannel (rid : Json) (key : Key) (channel : BoundedQueue ChannelFrame)
    (frame : ChannelFrame) (loop : ReceiveLoop) : Except LoopError ReceiveLoop :=
  match channel.put? frame with
  | some queue =>
      .ok { loop with wsChannels := Association.store key queue loop.wsChannels }
  | none =>
      (loop.closeChannel key).sendFrame interpreter
        (errorFrame rid "WebSocket channel queue limit reached")

/-! ## Binary messages -/

def receiveWsData (envelope : BinaryEnvelope) (loop : ReceiveLoop) :
    Except LoopError ReceiveLoop :=
  let rid := String.ofList envelope.requestId
  let key := Key.str envelope.requestId
  match loop.wsChannels.lookup key with
  | none => loop.absorb key s!"WebSocket data for unknown channel: {rid}"
  | some channel =>
      loop.putChannel interpreter (.str rid) key channel (.binary envelope)

def acceptChunk (rid : String) (key : Key) (entry : RequestEntry) (payload : Bytes)
    (endOfBody : Bool) (loop : ReceiveLoop) : Except LoopError ReceiveLoop :=
  let total := entry.received + payload.length
  if loop.limits.negotiatedMaxBodySize < total then
    loop.refuse interpreter (.str rid) key entry "request body exceeds tunnel limit"
  else
    match entry.queue.put? (some payload) with
    | none =>
        loop.refuse interpreter (.str rid) key entry
          "request stream exceeded advertised window"
    | some queue =>
        let accepted := { entry with queue, received := total }
        .ok (if endOfBody then loop.endRequest key accepted
          else loop.updateRequest key accepted)

def receiveRequestData (envelope : BinaryEnvelope) (loop : ReceiveLoop) :
    Except LoopError ReceiveLoop :=
  let rid := String.ofList envelope.requestId
  let key := Key.str envelope.requestId
  match loop.streamRequests.lookup key with
  | none => loop.absorb key s!"request data for unknown stream: {rid}"
  | some entry =>
      match envelope.offset with
      | none =>
          .error (.protocolError s!"resumable request chunk is missing offset: {rid}")
      | some chunkOffset =>
          let chunkEnd := chunkOffset + envelope.payload.length
          if chunkOffset < entry.received then
            if chunkEnd ≤ entry.received then
              loop.sendFrame interpreter (windowFrame (.str rid) 0 entry.received)
            else .error (.protocolError s!"overlapping request chunk for stream: {rid}")
          else if entry.received < chunkOffset then
            .error (.protocolError s!"request chunk gap for stream: {rid}")
          else if entry.ended then .ok loop
          else
            loop.acceptChunk interpreter rid key entry envelope.payload envelope.endOfBody

def receiveBinary (raw : Bytes) (loop : ReceiveLoop) : Except LoopError ReceiveLoop :=
  match BinaryEnvelope.decode raw loop.limits.negotiatedStreamChunk with
  | .error error => .error (.ofEnvelope error)
  | .ok envelope =>
      match envelope.kind with
      | .wsBinaryData => loop.receiveWsData interpreter envelope
      | .httpRequestData => loop.receiveRequestData interpreter envelope
      | .httpResponseData =>
          .error (.protocolError s!"unexpected binary frame kind: {envelope.kind.name}")

/-! ## Text messages -/

/-- `handle_http_req`, whose errors are those of the tasks that it starts. -/
def handleHttpReq (frame : Dict) (key : Key) (loop : ReceiveLoop) : ReceiveLoop :=
  let rid := idOf frame
  let loop := loop.cleanupCompleted
  let named {Value : Type} (entries : List (Key × Value)) : Option Value :=
    if rid.truthy then entries.lookup key else none
  let answering (loop : ReceiveLoop) (task : Task) : ReceiveLoop :=
    { loop.start task with httpTasks := loop.httpTasks ++ [loop.tasks.length] }
  match named loop.responseCredits with
  | some response => answering loop (.sendFrame response.beginFrame)
  | none =>
      match named loop.completed with
      | some cached => answering loop (.sendCached cached)
      | none =>
          match named loop.inflight with
          | some _ => answering loop .yieldTurn
          | none =>
              let task := loop.tasks.length
              let started := loop.start (.buildHttpRespFrame frame)
              let inflight :=
                if rid.truthy then Association.store key task loop.inflight
                else loop.inflight
              answering { started with inflight } (.awaitAndSend rid task)

def httpReq (frame : Dict) (loop : ReceiveLoop) : Except LoopError ReceiveLoop := do
  let rid := idOf frame
  let key ← hash interpreter rid
  let isExisting :=
    (loop.inflight.lookup key).isSome || (loop.completed.lookup key).isSome
  if isExisting = false ∧ loop.limits.negotiatedMaxInflight ≤ loop.httpTasks.length then
    loop.sendFrame interpreter (errorFrame rid "tunnel max_inflight limit reached")
  else .ok (loop.handleHttpReq frame key)

/-- The check of `content_length`, `none` where it is refused -/
def declaredLength (frame : Dict) : Option (Option Nat) :=
  match frame.get? "content_length" with
  | none | some .null => some none
  | some value =>
      match value.asInt? with
      | none => none
      | some length => if length < 0 then none else some (some length.toNat)

def openStream (frame : Dict) (rid : String) (key : Key) (contentLength : Option Nat)
    (loop : ReceiveLoop) : Except LoopError ReceiveLoop :=
  let task := loop.tasks.length
  let entry : RequestEntry :=
    { queue := .empty loop.limits.negotiatedStreamWindow
      received := 0
      consumed := 0
      pendingCredit := 0
      contentLength
      ended := false
      task }
  let started := (loop.updateRequest key entry).start (.streamHttpResponse frame)
  { started with httpTasks := loop.httpTasks ++ [task] }.sendFrame interpreter
    (windowFrame (.str rid) loop.limits.negotiatedStreamWindow 0)

def handleHttpReqBegin (frame : Dict) (loop : ReceiveLoop) :
    Except LoopError ReceiveLoop :=
  match frame.get? "id" with
  | some (.str rid) =>
      let key := Key.str rid.toList
      if (Uuid.ofText interpreter.unicode rid.toList).isNone then
        .error (.protocolError "streaming request id must be a UUID string")
      else
        match loop.streamRequests.lookup key with
        | some entry =>
            loop.sendFrame interpreter (windowFrame (.str rid)
              (loop.limits.negotiatedStreamWindow - entry.queue.qsize -
                entry.pendingCredit)
              entry.consumed)
        | none =>
            match loop.responseCredits.lookup key with
            | some response => loop.sendFrame interpreter response.beginFrame
            | none =>
                match declaredLength frame with
                | none =>
                    .error (.protocolError "invalid streaming request content_length")
                | some contentLength =>
                    if contentLength.any (loop.limits.negotiatedMaxBodySize < ·) then
                      loop.sendFrame interpreter
                        (errorFrame (.str rid) "request body exceeds tunnel limit")
                    else if loop.limits.negotiatedMaxInflight ≤ loop.httpTasks.length then
                      loop.sendFrame interpreter
                        (errorFrame (.str rid) "tunnel max_inflight limit reached")
                    else loop.openStream interpreter frame rid key contentLength
  | _ => .error (.protocolError "streaming request id must be a UUID string")

def httpReqBegin (frame : Dict) (loop : ReceiveLoop) : Except LoopError ReceiveLoop :=
  if loop.limits.negotiatedProtocolVersion < protocolVersion then
    .error (.protocolError "received streaming request before V2 negotiation")
  else loop.handleHttpReqBegin interpreter frame

def httpReqEnd (frame : Dict) (loop : ReceiveLoop) : Except LoopError ReceiveLoop := do
  let rid := idOf frame
  let key ← hash interpreter rid
  match loop.streamRequests.lookup key with
  | none =>
      loop.absorb key s!"request end for unknown stream: {rid.toStr interpreter.builtins}"
  | some entry =>
      if entry.ended then .ok loop
      else if entry.contentLength.any (· ≠ entry.received) then
        loop.refuse interpreter rid key entry "request content length mismatch"
      else .ok (loop.endRequest key entry)

/-- What the `window` branch reads; `ack_offset` may be absent or `None`. -/
def windowOf (frame : Dict) : WindowFrame where
  credits := HelloFrame.int? frame "credits"
  ackOffset :=
    match frame.get? "ack_offset" with
    | none | some .null => none
    | some value => some value.asInt?
  complete :=
    match frame.get? "complete" with
    | some (.bool value) => value
    | _ => false

def ResponseEntry.acknowledge (frame : WindowFrame) (response : ResponseEntry) :
    List SentChunk :=
  match frame.ack with
  | none => response.unacked
  | some ackOffset =>
      response.unacked.filter fun chunk =>
        decide (ackOffset < chunk.offset + chunk.payload.length)

/-- `put_nowait` of so many credits, until the queue is full -/
def putCredits : Nat → BoundedQueue Unit → BoundedQueue Unit
  | 0, credits => credits
  | count + 1, credits =>
      match credits.put? () with
      | none => credits
      | some next => putCredits count next

def replay (rid : Json) : List SentChunk → BoundedQueue Unit → ReceiveLoop →
    Except LoopError (BoundedQueue Unit × ReceiveLoop)
  | [], credits, loop => .ok (credits, loop)
  | chunk :: rest, credits, loop => do
      let credits := (credits.get?.map Prod.snd).getD credits
      let loop ← loop.sendChunk interpreter rid chunk
      replay rid rest credits loop

def resumeResponse (rid : Json) (key : Key) (response : ResponseEntry)
    (loop : ReceiveLoop) : Except LoopError ReceiveLoop := do
  let (credits, loop) ← replay interpreter rid response.unacked response.credits loop
  let loop ←
    if response.ended then
      loop.sendFrame interpreter (.object [("type", .str "http_resp_end"), ("id", rid)])
    else .ok loop
  .ok { loop with
    responseCredits :=
      Association.store key { response with credits, ready := true } loop.responseCredits }

def creditResponse (frame : WindowFrame) (rid : Json) (key : Key)
    (response : ResponseEntry) (loop : ReceiveLoop) : Except LoopError ReceiveLoop :=
  if frame.complete then
    .ok { loop with responseCredits := Association.pop key loop.responseCredits }
  else
    let granted := min frame.granted loop.limits.negotiatedStreamWindow
    let credited :=
      { response with
        unacked := response.acknowledge frame
        credits := putCredits granted response.credits }
    if response.ready then
      .ok { loop with
        responseCredits := Association.store key credited loop.responseCredits }
    else loop.resumeResponse interpreter rid key credited

def window (frame : Dict) (loop : ReceiveLoop) : Except LoopError ReceiveLoop :=
  if (windowOf frame).valid then do
    let rid := idOf frame
    let key ← hash interpreter rid
    match loop.responseCredits.lookup key with
    | none => .ok loop
    | some response => loop.creditResponse interpreter (windowOf frame) rid key response
  else .error (.protocolError "window must carry credits or a valid ack_offset")

def peerError (frame : Dict) (loop : ReceiveLoop) : Except LoopError ReceiveLoop := do
  let key ← hash interpreter (idOf frame)
  let loop := { loop with responseCredits := Association.pop key loop.responseCredits }
  match loop.streamRequests.lookup key with
  | some entry =>
      .ok ({ loop.cancel entry.task with
        streamRequests := Association.pop key loop.streamRequests }.rememberTerminated key)
  | none =>
      match loop.inflight.lookup key with
      | some task => .ok (loop.cancel task)
      | none =>
          .ok (if (loop.wsTasks.lookup key).isSome then loop.closeChannel key else loop)

def channelLimit (limits : NegotiatedLimits) : Nat :=
  if protocolVersion ≤ limits.negotiatedProtocolVersion then
    (limits.negotiatedMaxWsMessageSize + limits.negotiatedStreamChunk - 1) /
      limits.negotiatedStreamChunk + 2
  else wsChannelQueueLimit

/-- `rid in ws_channels or is_terminated(rid)` -/
def isDuplicate (rid : Key) (loop : ReceiveLoop) : Bool × ReceiveLoop :=
  if (loop.wsChannels.lookup rid).isSome then (true, loop) else loop.isTerminated rid

def wsConnect (frame : Dict) (loop : ReceiveLoop) : Except LoopError ReceiveLoop :=
  let rid := idOf frame
  if rid.truthy = false then .ok loop
  else do
    let key ← hash interpreter rid
    match loop.isDuplicate key with
    | (true, checked) =>
        checked.sendFrame interpreter (errorFrame rid "duplicate WebSocket channel id")
    | (false, checked) =>
        if checked.limits.negotiatedMaxInflight ≤ checked.wsChannels.length then
          checked.sendFrame interpreter
            (errorFrame rid "tunnel WebSocket channel limit reached")
        else
          let channel := .empty (channelLimit checked.limits)
          .ok { checked.start (.handleWsConnect frame) with
            wsChannels := Association.store key channel checked.wsChannels
            wsTasks := Association.store key checked.tasks.length checked.wsTasks }

/-- The branch of `ws_message` and `ws_close` -/
def wsFrame (frame : Dict) (loop : ReceiveLoop) : Except LoopError ReceiveLoop := do
  let rid := idOf frame
  let key ← hash interpreter rid
  match loop.wsChannels.lookup key with
  | none => .ok loop
  | some channel => loop.putChannel interpreter rid key channel (.json frame)

def pongFrame (frame : Dict) : Json :=
  .object [("type", .str "pong"), ("id", idOf frame),
    ("timestamp", (frame.get? "timestamp").getD (.int 0))]

/-- The `hello` branch, in which a duplicate is ignored. -/
def hello (frame : Dict) (loop : ReceiveLoop) : ReceiveLoop :=
  { loop with limits := loop.own.hello (HelloFrame.ofFields frame) loop.limits }

def pong (frame : Dict) (loop : ReceiveLoop) : ReceiveLoop :=
  match loop.pendingPingId, frame.get? "id" with
  | some pendingPingId, some (.str rid) =>
      if rid = pendingPingId then { loop with pongReceived := true } else loop
  | _, _ => loop

/-! ## A pass -/

inductive FrameType
  | hello
  | httpReq
  | httpReqBegin
  | httpReqEnd
  | window
  | error
  | wsConnect
  | wsMessage
  | wsClose
  | ping
  | pong
deriving DecidableEq, Repr

def FrameType.ofFrame (frame : Dict) : Option FrameType :=
  match frame.get? "type" with
  | some (.str ftype) =>
      [("hello", hello), ("http_req", httpReq), ("http_req_begin", httpReqBegin),
        ("http_req_end", httpReqEnd), ("window", window), ("error", error),
        ("ws_connect", wsConnect), ("ws_message", wsMessage), ("ws_close", wsClose),
        ("ping", ping), ("pong", pong)].lookup ftype
  | _ => none

def handleFrame (frame : Dict) (loop : ReceiveLoop) : Except LoopError ReceiveLoop :=
  match FrameType.ofFrame frame with
  | none => .ok loop
  | some .hello => .ok (loop.hello frame)
  | some .httpReq => loop.httpReq interpreter frame
  | some .httpReqBegin => loop.httpReqBegin interpreter frame
  | some .httpReqEnd => loop.httpReqEnd interpreter frame
  | some .window => loop.window interpreter frame
  | some .error => loop.peerError interpreter frame
  | some .wsConnect => loop.wsConnect interpreter frame
  | some .wsMessage | some .wsClose => loop.wsFrame interpreter frame
  | some .ping => loop.sendFrame interpreter (pongFrame frame)
  | some .pong => .ok (loop.pong frame)

def handle (loop : ReceiveLoop) : Message → Except LoopError ReceiveLoop
  | .binary raw => loop.receiveBinary interpreter raw
  | .text text =>
      match interpreter.loads text with
      | .error (.decodeError _) | .error (.valueError _) => .ok loop
      | .error .recursionError => .error .recursionError
      | .ok (.object frame) => loop.handleFrame interpreter frame
      | .ok value =>
          .error (.attributeError s!"'{value.typeName}' object has no attribute 'get'")

end ReceiveLoop

end YrSandbox.Tunnel
