import YrSandbox.Foundation.Chunk
import YrSandbox.Foundation.Transition
import YrSandbox.Tunnel.Limits

/-! # One response stream

A call of `send_streaming_response`, the `window` branch of the receive loop and
what `_connect_loop` does around them, as far as they concern one entry of
`response_credits`. The call runs in a task of its own, the streaming task.

An event is one turn of the event loop: a party runs up to the next point at
which it may have to wait. A frame that is being sent waits first for `ws_ready`,
the send lock and the socket; once it is on the wire its sender may still wait for
the buffer to drain. A connection that closes fails either wait, and the frame is
sent again on the next connection. -/

namespace YrSandbox.Tunnel

/-! ## The streaming task -/

inductive Stage
  | waiting
  | draining
deriving DecidableEq, Repr

inductive Streamer
  | opening (stage : Stage) -- `await send_frame(begin_frame)`
  | reading -- `async for raw_chunk in resp.aiter_raw()`
  | gate (piece : Bytes) (pieces : List Bytes) -- `await response_ready.wait()`
  | credit (piece : Bytes) (pieces : List Bytes) -- `await credit_queue.get()`
  | locking (chunk : Chunk UInt8) (pieces : List Bytes)
  | sending (chunk : Chunk UInt8) (pieces : List Bytes) (stage : Stage)
  | ending (stage : Stage) -- `await send_frame` of `http_resp_end`
  | done -- returned, raised or cancelled
deriving DecidableEq, Repr

namespace Streamer

/-- The task is inside `async with response_state["send_lock"]`. -/
def holdsLock : Streamer → Bool
  | sending _ _ _ => true
  | _ => false

/-- `ready.set()` wakes a task that waits for it, for good. -/
def wake : Streamer → Streamer
  | gate piece pieces => credit piece pieces
  | other => other

def interrupt : Streamer → Streamer
  | opening _ => opening .waiting
  | sending chunk pieces _ => sending chunk pieces .waiting
  | ending _ => ending .waiting
  | other => other

end Streamer

/-! ## The receive loop -/

/-- Where the receive loop stands in its `window` branch. -/
inductive Replay
  | idle
  | locking -- waiting for the stream's send lock
  | credit (index : Nat) (chunk : Chunk UInt8) -- `await credit_queue.get()`
  | sending (index : Nat) (chunk : Chunk UInt8) (stage : Stage)
  | ending (stage : Stage)
  | raised -- a `ProtocolError` is ending the connection
deriving DecidableEq, Repr

namespace Replay

def holdsLock : Replay → Bool
  | credit _ _ | sending _ _ _ | ending _ => true
  | idle | locking | raised => false

def interrupt : Replay → Replay
  | sending index chunk _ => sending index chunk .waiting
  | ending _ => ending .waiting
  | other => other

end Replay

/-- The fields of a `window` frame. `credits` is `none` when it is not an integer,
`ackOffset` is `none` when it is absent and `some none` when it is something else
than an integer. -/
structure WindowFrame where
  credits : Option Int
  ackOffset : Option (Option Int)
  complete : Bool
deriving DecidableEq, Repr

namespace WindowFrame

/-- The check that the `window` branch makes. -/
def valid (frame : WindowFrame) : Bool :=
  match frame.credits with
  | none => false
  | some credits =>
      !(decide (credits < 0) ||
        decide (credits = 0) && !frame.ackOffset.any Option.isSome ||
        frame.ackOffset.any fun ackOffset => ackOffset.all (· < 0))

def granted (frame : WindowFrame) : Nat := (frame.credits.getD 0).toNat

def ack (frame : WindowFrame) : Option Nat := frame.ackOffset.join.map Int.toNat

def of (credits ackOffset : Nat) : WindowFrame :=
    ⟨some credits, some (some ackOffset), false⟩

end WindowFrame

/-! ## The record -/

/-- What happens to this stream on the wire. A window frame is recorded with the
first offset that it leaves unacknowledged, an end with what has been acknowledged
and with the length of the body. -/
inductive Signal
  | reconnected
  | window (resume : Nat)
  | data (chunk : Chunk UInt8)
  | ended (acked size : Nat)
deriving DecidableEq, Repr

structure ResponsePeer where
  received : Nat
  inFlight : List (Chunk UInt8)
  sawGap : Bool
deriving DecidableEq, Repr

namespace ResponsePeer

/-- The next frame arrives: it is accepted where the peer stands, a duplicate is
ignored and a gap rejected. -/
def accept (peer : ResponsePeer) : Option ResponsePeer :=
  match peer.inFlight with
  | [] => none
  | chunk :: others =>
      some
        { received :=
            if chunk.offset = peer.received then chunk.finish else peer.received
          inFlight := others
          sawGap := peer.sawGap || decide (peer.received < chunk.offset) }

end ResponsePeer

structure ResponseHead where
  contentLength : Option Int
  bodyExpected : Bool
deriving DecidableEq, Repr

/-- An entry of `response_credits` with the parties around it: `limits` are those
of the present connection, `origin` those of the one whose loop the streaming task
belongs to. -/
structure ResponseStream where
  head : ResponseHead
  origin : Limits
  limits : Limits
  connected : Bool
  wsReady : Bool
  registered : Bool
  credits : Nat
  unacked : List (Chunk UInt8)
  nextOffset : Nat
  ready : Bool
  ended : Bool
  responseSize : Nat
  streamer : Streamer
  replay : Replay
  log : List Signal
  acked : Nat
  produced : List (Chunk UInt8)
  peer : ResponsePeer
deriving DecidableEq, Repr

namespace ResponseStream

def initial (head : ResponseHead) (limits : Limits) : ResponseStream where
  head := head
  origin := limits
  limits := limits
  connected := true
  wsReady := true
  registered := true
  credits := 0
  unacked := []
  nextOffset := 0
  ready := true
  ended := false
  responseSize := 0
  streamer := .opening .waiting
  replay := .idle
  log := []
  acked := 0
  produced := []
  peer := ⟨0, [], false⟩

/-! ### The streaming task -/

def nextPiece (pieces : List Bytes) (stream : ResponseStream) : ResponseStream :=
  match pieces with
  | [] => { stream with streamer := .reading }
  | piece :: pieces =>
      { stream with
        streamer := if stream.ready then .credit piece pieces else .gate piece pieces }

def read (rawChunk : Bytes) (stream : ResponseStream) : ResponseStream :=
  let responseSize := stream.responseSize + rawChunk.length
  let stream := { stream with responseSize }
  if stream.origin.negotiatedMaxBodySize < responseSize then
    { stream with streamer := .done }
  else stream.nextPiece (cut stream.origin.negotiatedStreamChunk rawChunk)

def exhaust (stream : ResponseStream) : ResponseStream :=
  if stream.head.bodyExpected &&
      stream.head.contentLength.any (· ≠ (stream.responseSize : Int)) then
    { stream with streamer := .done }
  else { stream with ended := true, streamer := .ending .waiting }

def takeCredit (piece : Bytes) (pieces : List Bytes) (stream : ResponseStream) :
    ResponseStream :=
  let chunk : Chunk UInt8 := ⟨stream.nextOffset, piece⟩
  { stream with
    credits := stream.credits - 1
    nextOffset := chunk.finish
    unacked := stream.unacked ++ [chunk]
    produced := stream.produced ++ [chunk]
    streamer :=
      if stream.replay.holdsLock then .locking chunk pieces
      else .sending chunk pieces .waiting }

def sendData (chunk : Chunk UInt8) (stream : ResponseStream) : ResponseStream :=
  { stream with
    log := stream.log ++ [.data chunk]
    peer := { stream.peer with inFlight := stream.peer.inFlight ++ [chunk] } }

def sendEnd (stream : ResponseStream) : ResponseStream :=
  { stream with log := stream.log ++ [.ended stream.acked stream.responseSize] }

/-! ### The receive loop -/

/-- The replay is over: the lock is released and `ready` set. -/
def replayDone (stream : ResponseStream) : ResponseStream :=
  { stream with replay := .idle, ready := true, streamer := stream.streamer.wake }

def replayChunk (index : Nat) (chunk : Chunk UInt8) (stream : ResponseStream) :
    ResponseStream :=
  if stream.credits = 0 then { stream with replay := .credit index chunk }
  else
    { stream with
      credits := stream.credits - 1
      replay :=
        if stream.limits.negotiatedStreamChunk < chunk.payload.length then .raised
        else .sending index chunk .waiting }

/-- Replay what the list holds from `index` on. -/
def replayFrom (index : Nat) (stream : ResponseStream) : ResponseStream :=
  match stream.unacked[index]? with
  | some chunk => stream.replayChunk index chunk
  | none =>
      if stream.ended then { stream with replay := .ending .waiting }
      else stream.replayDone

def acknowledge (frame : WindowFrame) (stream : ResponseStream) : ResponseStream :=
  match frame.ack with
  | none => stream
  | some ackOffset =>
      { stream with
        unacked := stream.unacked.filter fun chunk => decide (ackOffset < chunk.finish)
        acked := max stream.acked ackOffset }

def topUp (frame : WindowFrame) (stream : ResponseStream) : ResponseStream :=
  { stream with
    credits :=
      min (stream.credits + min frame.granted stream.limits.negotiatedStreamWindow)
        stream.origin.negotiatedStreamWindow }

def resume (stream : ResponseStream) : Nat :=
  (stream.unacked.head?.map Chunk.offset).getD stream.nextOffset

def noteWindow (stream : ResponseStream) : ResponseStream :=
  { stream with log := stream.log ++ [.window stream.resume] }

def lockAndReplay (stream : ResponseStream) : ResponseStream :=
  if stream.streamer.holdsLock then { stream with replay := .locking }
  else stream.replayFrom 0

def windowFrame (frame : WindowFrame) (stream : ResponseStream) : ResponseStream :=
  if !frame.valid then { stream with replay := .raised }
  else if !stream.registered then stream
  else
    let stream := stream.acknowledge frame
    if frame.complete then { stream with registered := false }
    else
      let stream := (stream.topUp frame).noteWindow
      if stream.ready then stream else stream.lockAndReplay

/-! ### Steps -/

inductive Event
  | read (rawChunk : Bytes)
  | exhausted
  | fails
  | takeCredit
  | lock
  | transmit
  | drained
  | windowFrame (frame : WindowFrame)
  | errorFrame (cancels : Bool)
  | protocolError
  | negotiated (limits : Limits)
  | replayLock
  | replayCredit
  | replayTransmit
  | replayDrained
  | lost
  | disconnect
  | reconnect (limits : Limits)
  | deliver
deriving DecidableEq, Repr

/-- The connection has closed: no frame gets through until `ws_ready` is set. -/
def lose (stream : ResponseStream) : ResponseStream :=
  { stream with
    wsReady := false
    streamer := stream.streamer.interrupt
    replay := stream.replay.interrupt }

def listening (stream : ResponseStream) : Bool :=
  stream.connected && decide (stream.replay = .idle)

def step (stream : ResponseStream) : Event → Option ResponseStream
  | .read rawChunk =>
      if stream.streamer = .reading then some (stream.read rawChunk) else none
  | .exhausted => if stream.streamer = .reading then some stream.exhaust else none
  | .fails =>
      if stream.streamer = .reading then some { stream with streamer := .done } else none
  | .takeCredit =>
      match stream.streamer with
      | .credit piece pieces =>
          if stream.credits = 0 then none else some (stream.takeCredit piece pieces)
      | _ => none
  | .lock =>
      match stream.streamer with
      | .locking chunk pieces =>
          if stream.replay.holdsLock then none
          else some { stream with streamer := .sending chunk pieces .waiting }
      | _ => none
  | .transmit =>
      if stream.wsReady then
        match stream.streamer with
        | .opening .waiting => some { stream with streamer := .opening .draining }
        | .sending chunk pieces .waiting =>
            some { stream.sendData chunk with streamer := .sending chunk pieces .draining }
        | .ending .waiting => some { stream.sendEnd with streamer := .ending .draining }
        | _ => none
      else none
  | .drained =>
      match stream.streamer with
      | .opening .draining => some { stream with streamer := .reading }
      | .sending _ pieces .draining => some (stream.nextPiece pieces)
      | .ending .draining => some { stream with streamer := .done }
      | _ => none
  | .windowFrame frame =>
      if stream.listening then some (stream.windowFrame frame) else none
  | .errorFrame cancels =>
      if stream.listening then
        some { stream with
          registered := false
          streamer := if cancels then .done else stream.streamer }
      else none
  | .protocolError =>
      if stream.listening then some { stream with replay := .raised } else none
  | .negotiated limits => if stream.listening then some { stream with limits } else none
  | .replayLock =>
      if stream.replay = .locking ∧ stream.streamer.holdsLock = false then
        some (stream.replayFrom 0)
      else none
  | .replayCredit =>
      match stream.replay with
      | .credit index chunk =>
          if stream.credits = 0 then none else some (stream.replayChunk index chunk)
      | _ => none
  | .replayTransmit =>
      if stream.wsReady then
        match stream.replay with
        | .sending index chunk .waiting =>
            some { stream.sendData chunk with replay := .sending index chunk .draining }
        | .ending .waiting => some { stream.sendEnd with replay := .ending .draining }
        | _ => none
      else none
  | .replayDrained =>
      match stream.replay with
      | .sending index _ .draining => some (stream.replayFrom (index + 1))
      | .ending .draining => some stream.replayDone
      | _ => none
  | .lost => if stream.connected then some stream.lose else none
  | .disconnect =>
      if stream.connected ∧ (stream.replay = .idle ∨ stream.replay = .raised) then
        some { stream.lose with
          connected := false
          replay := .idle
          ready := if stream.registered then false else stream.ready }
      else none
  | .reconnect limits =>
      if stream.connected then none
      else
        some { stream with
          connected := true
          wsReady := true
          limits
          log := stream.log ++ [.reconnected]
          peer := { stream.peer with inFlight := [] } }
  | .deliver => stream.peer.accept.map fun peer => { stream with peer }

end ResponseStream

end YrSandbox.Tunnel
