import YrSandbox.Tunnel.Limits

/-! # Negotiation of the limits

The `hello` branch of the receive loop. A connection starts with the limits of the client
under protocol V1; the first hello that passes the checks selects V2. -/

namespace YrSandbox.Tunnel

def minStreamChunkBytes : Nat := 1024
def maxConfiguredStreamChunkBytes : Nat := 64 * 1024
def maxConfiguredInflight : Nat := 1024
def maxConfiguredWindowFrames : Nat := 1024
def maxConfiguredBodyBytes : Nat := 1024 * 1024 * 1024
def maxConfiguredWsMessageBytes : Nat := 8 * 1024 * 1024
def outboundQueueFrames : Nat := 512
def outboundControlReserve : Nat := 32

/-- What a `TunnelClient` is built with, in the ranges that its constructor makes sure
of. -/
structure ClientLimits where
  protocolVersion : Nat
  maxStreamChunk : Nat
  maxInflight : Nat
  streamWindowFrames : Nat
  maxBodySize : Nat
  maxWsMessageSize : Nat
  version : 0 < protocolVersion ∧ protocolVersion ≤ Tunnel.protocolVersion
  chunk : minStreamChunkBytes ≤ maxStreamChunk ∧
    maxStreamChunk ≤ maxConfiguredStreamChunkBytes
  inflight : 0 < maxInflight ∧ maxInflight ≤ maxConfiguredInflight
  window : 0 < streamWindowFrames ∧ streamWindowFrames ≤ maxConfiguredWindowFrames
  body : 0 < maxBodySize ∧ maxBodySize ≤ maxConfiguredBodyBytes
  wsMessage : 0 < maxWsMessageSize ∧ maxWsMessageSize ≤ maxConfiguredWsMessageBytes
deriving DecidableEq, Repr

def ClientLimits.default : ClientLimits where
  protocolVersion := Tunnel.protocolVersion
  maxStreamChunk := 64 * 1024
  maxInflight := 16
  streamWindowFrames := 16
  maxBodySize := 512 * 1024 * 1024
  maxWsMessageSize := 8 * 1024 * 1024
  version := by decide
  chunk := by decide
  inflight := by decide
  window := by decide
  body := by decide
  wsMessage := by decide

/-- All `negotiated_*` variables of one `_proxy_loop`. -/
@[ext]
structure NegotiatedLimits extends Limits where
  negotiatedMaxWsMessageSize : Nat
  wsMessagePositive : 0 < negotiatedMaxWsMessageSize
deriving Repr

instance : DecidableEq NegotiatedLimits := fun _ _ =>
  decidable_of_iff _ NegotiatedLimits.ext_iff.symm

/-- The fields of a `hello` frame. One that is not an integer is `none` (Python
counts `true` as 1); the last two may be absent too. -/
structure HelloFrame where
  protocolVersion : Option Int
  maxStreamChunk : Option Int
  maxInflight : Option Int
  streamWindowFrames : Option Int
  maxBodySize : Option (Option Int)
  maxWsMessageSize : Option (Option Int)
  resume : Bool
deriving DecidableEq, Repr

def HelloFrame.withChunk (maxStreamChunk : Int) : HelloFrame where
  protocolVersion := some Tunnel.protocolVersion
  maxStreamChunk := some maxStreamChunk
  maxInflight := some 16
  streamWindowFrames := some 16
  maxBodySize := some (some (512 * 1024 * 1024))
  maxWsMessageSize := none
  resume := true

@[ext]
structure PeerLimits where
  maxStreamChunk : Nat
  maxInflight : Nat
  streamWindowFrames : Nat
  maxBodySize : Nat
  maxWsMessageSize : Nat
  chunk : minStreamChunkBytes ≤ maxStreamChunk
  inflight : 0 < maxInflight
  window : 0 < streamWindowFrames
  body : 0 < maxBodySize
  wsMessage : 0 < maxWsMessageSize
deriving Repr

instance : DecidableEq PeerLimits := fun _ _ =>
  decidable_of_iff _ PeerLimits.ext_iff.symm

def HelloFrame.accept (own : ClientLimits) (frame : HelloFrame) : Option PeerLimits := do
  let peerVersion ← frame.protocolVersion
  let peerChunk ← frame.maxStreamChunk
  let peerInflight ← frame.maxInflight
  let peerWindow ← frame.streamWindowFrames
  let peerMaxBody ← frame.maxBodySize.getD (some own.maxBodySize)
  let peerMaxWsMessage ← frame.maxWsMessageSize.getD (some own.maxWsMessageSize)
  if accepted : Tunnel.protocolVersion ≤ own.protocolVersion ∧
      (Tunnel.protocolVersion : Int) ≤ peerVersion ∧
        (minStreamChunkBytes : Int) ≤ peerChunk ∧
      0 < peerInflight ∧ 0 < peerWindow ∧ 0 < peerMaxBody ∧ 0 < peerMaxWsMessage ∧
      frame.resume = true then
    some
      { maxStreamChunk := peerChunk.toNat
        maxInflight := peerInflight.toNat
        streamWindowFrames := peerWindow.toNat
        maxBodySize := peerMaxBody.toNat
        maxWsMessageSize := peerMaxWsMessage.toNat
        chunk := by omega
        inflight := by omega
        window := by omega
        body := by omega
        wsMessage := by omega }
  else none

namespace ClientLimits

def opening (own : ClientLimits) : NegotiatedLimits where
  negotiatedProtocolVersion := 1
  negotiatedStreamChunk := own.maxStreamChunk
  negotiatedMaxInflight := own.maxInflight
  negotiatedStreamWindow := own.streamWindowFrames
  negotiatedMaxBodySize := own.maxBodySize
  negotiatedMaxWsMessageSize := own.maxWsMessageSize
  chunkPositive := Nat.lt_of_lt_of_le (by decide) own.chunk.1
  inflightPositive := own.inflight.1
  windowPositive := own.window.1
  bodyPositive := own.body.1
  wsMessagePositive := own.wsMessage.1

def negotiate (own : ClientLimits) (peer : PeerLimits) : NegotiatedLimits :=
  let negotiatedMaxInflight := min own.maxInflight peer.maxInflight
  have inflightPositive : 0 < negotiatedMaxInflight :=
    Nat.lt_min.mpr ⟨own.inflight.1, peer.inflight⟩
  { negotiatedProtocolVersion := Tunnel.protocolVersion
    negotiatedStreamChunk := min own.maxStreamChunk peer.maxStreamChunk
    negotiatedMaxInflight
    negotiatedStreamWindow :=
      min (min own.streamWindowFrames peer.streamWindowFrames)
        (max 1 ((outboundQueueFrames - outboundControlReserve) / negotiatedMaxInflight))
    negotiatedMaxBodySize := min own.maxBodySize peer.maxBodySize
    negotiatedMaxWsMessageSize := min own.maxWsMessageSize peer.maxWsMessageSize
    chunkPositive :=
      Nat.lt_min.mpr ⟨Nat.lt_of_lt_of_le (by decide) own.chunk.1,
        Nat.lt_of_lt_of_le (by decide) peer.chunk⟩
    inflightPositive
    windowPositive :=
      Nat.lt_min.mpr ⟨Nat.lt_min.mpr ⟨own.window.1, peer.window⟩,
        Nat.lt_of_lt_of_le Nat.zero_lt_one (Nat.le_max_left _ _)⟩
    bodyPositive := Nat.lt_min.mpr ⟨own.body.1, peer.body⟩
    wsMessagePositive := Nat.lt_min.mpr ⟨own.wsMessage.1, peer.wsMessage⟩ }

/-- The `hello` branch. A hello is ignored once V2 is selected. -/
def hello (own : ClientLimits) (frame : HelloFrame) (limits : NegotiatedLimits) :
    NegotiatedLimits :=
  if Tunnel.protocolVersion ≤ limits.negotiatedProtocolVersion then limits
  else
    match frame.accept own with
    | none => limits
    | some peer => own.negotiate peer

end ClientLimits

def NegotiatedLimits.Reached (own : ClientLimits) (limits : NegotiatedLimits) : Prop :=
  limits = own.opening ∨ ∃ peer, limits = own.negotiate peer

namespace NegotiatedLimits.Reached

variable {own : ClientLimits} {limits : NegotiatedLimits}

theorem hello (reached : limits.Reached own) (frame : HelloFrame) :
    (own.hello frame limits).Reached own := by
  rw [ClientLimits.hello]
  split
  · exact reached
  · split
    · exact reached
    · rename_i peer _
      exact .inr ⟨peer, rfl⟩

theorem chunk_le (reached : limits.Reached own) :
    limits.negotiatedStreamChunk ≤ own.maxStreamChunk := by
  rcases reached with rfl | ⟨peer, rfl⟩
  · exact Nat.le_refl _
  · exact Nat.min_le_left _ _

theorem inflight_le (reached : limits.Reached own) :
    limits.negotiatedMaxInflight ≤ own.maxInflight := by
  rcases reached with rfl | ⟨peer, rfl⟩
  · exact Nat.le_refl _
  · exact Nat.min_le_left _ _

end NegotiatedLimits.Reached

end YrSandbox.Tunnel
