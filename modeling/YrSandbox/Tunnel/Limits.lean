import YrSandbox.Python.Clock

/-! # Limits of a tunnel connection -/

namespace YrSandbox.Tunnel

open Python

def protocolVersion : Nat := 2

def completedFrameTtl : Int := seconds 300

/-- The `negotiated_*` variables of one `_proxy_loop`: the client's own limits
until a hello of protocol V2 is accepted, the smaller of both sides' after. All
of them are positive. -/
structure Limits where
  negotiatedProtocolVersion : Nat
  negotiatedStreamChunk : Nat
  negotiatedMaxInflight : Nat
  negotiatedStreamWindow : Nat
  negotiatedMaxBodySize : Nat
  chunkPositive : 0 < negotiatedStreamChunk
  inflightPositive : 0 < negotiatedMaxInflight
  windowPositive : 0 < negotiatedStreamWindow
  bodyPositive : 0 < negotiatedMaxBodySize
deriving DecidableEq, Repr

/-- A connection that has negotiated V2 and a window of `window` frames, with
the client's other defaults. -/
def Limits.withWindow (window : Nat) (positive : 0 < window) : Limits where
  negotiatedProtocolVersion := protocolVersion
  negotiatedStreamChunk := 65536
  negotiatedMaxInflight := 16
  negotiatedStreamWindow := window
  negotiatedMaxBodySize := 536870912
  chunkPositive := by decide
  inflightPositive := by decide
  windowPositive := positive
  bodyPositive := by decide

theorem fourFrames : 0 < 4 := by decide

end YrSandbox.Tunnel
