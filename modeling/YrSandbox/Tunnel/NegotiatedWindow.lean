import YrSandbox.Python.Json
import YrSandbox.Tunnel.Negotiation
import YrSandbox.Tunnel.RequestHeaders

/-! # The negotiated limits and the outbound queue

What the first acceptable `hello` of a connection makes of the limits. All of them stay
positive, so the window has at least one frame however many requests are in flight. -/

namespace YrSandbox.Tunnel

open Python

/-! ## Configuration -/

/-- A value that `_positive_int_env` returns. -/
abbrev Setting (maximum : Nat) := { value : Nat // 0 < value ∧ value ≤ maximum }

theorem min_toNat_pos {value : Int} {maximum : Nat} (positive : 0 < maximum)
    (notNegative : ¬value ≤ 0) : 0 < min value.toNat maximum := by
  omega

/-- `_positive_int_env`, with the text of the `ValueError` where it raises. -/
def positiveIntEnv (builtins : Builtins) (environ : String → Option String)
    (name : String) (default maximum : Nat) (positive : 0 < maximum) :
    Except String (Setting maximum) := do
  let value ←
    match environ name with
    | none => .ok (default : Int)
    | some raw =>
        match builtins.intOfStr raw with
        | none => .error (name ++ " must be a positive integer")
        | some value => .ok value
  if notPositive : value ≤ 0 then .error (name ++ " must be greater than zero")
  else
    .ok ⟨min value.toNat maximum, min_toNat_pos positive notPositive,
      Nat.min_le_right _ _⟩

def defaultStreamChunkBytes : Nat := 64 * 1024
def defaultFastPathBodyBytes : Nat := 64 * 1024
def defaultMaxInflight : Nat := 16
def defaultStreamWindowFrames : Nat := 16
def defaultMaxBodyBytes : Nat := 512 * 1024 * 1024
def defaultMaxWsMessageBytes : Nat := 8 * 1024 * 1024

def ClientLimits.fromEnviron (builtins : Builtins) (environ : String → Option String) :
    Except String ClientLimits := do
  let setting := positiveIntEnv builtins environ
  let version ← setting "YR_TUNNEL_PROTOCOL_VERSION" Tunnel.protocolVersion
    Tunnel.protocolVersion (by decide)
  let body ← setting "YR_TUNNEL_MAX_BODY_SIZE" defaultMaxBodyBytes
    maxConfiguredBodyBytes (by decide)
  let wsMessage ← setting "YR_TUNNEL_MAX_WS_MESSAGE_SIZE" defaultMaxWsMessageBytes
    maxConfiguredWsMessageBytes (by decide)
  let chunk ← setting "YR_TUNNEL_STREAM_CHUNK_BYTES" defaultStreamChunkBytes
    maxConfiguredStreamChunkBytes (by decide)
  let inflight ← setting "YR_TUNNEL_MAX_INFLIGHT" defaultMaxInflight
    maxConfiguredInflight (by decide)
  let window ← setting "YR_TUNNEL_STREAM_WINDOW_FRAMES" defaultStreamWindowFrames
    maxConfiguredWindowFrames (by decide)
  let _fastPath ← setting "YR_TUNNEL_FAST_PATH_BODY_BYTES" defaultFastPathBodyBytes
    (min body.1 maxV1BodyBytes) (Nat.lt_min.mpr ⟨body.2.1, by decide⟩)
  .ok
    { protocolVersion := version.1
      maxStreamChunk := max minStreamChunkBytes chunk.1
      maxInflight := inflight.1
      streamWindowFrames := window.1
      maxBodySize := body.1
      maxWsMessageSize := wsMessage.1
      version := version.2
      chunk := ⟨Nat.le_max_left _ _, Nat.max_le.mpr ⟨by decide, chunk.2.2⟩⟩
      inflight := inflight.2
      window := window.2
      body := body.2
      wsMessage := wsMessage.2 }

theorem ClientLimits.fromEnviron_unset (builtins : Builtins) :
    ClientLimits.fromEnviron builtins (fun _ => none) = .ok .default := rfl

/-! ## Hello frames -/

/-- `fields.get(key)`, where it is an integer -/
def HelloFrame.int? (fields : Dict) (key : String) : Option Int :=
  (fields.get? key).bind Json.asInt?

def HelloFrame.ofFields (fields : Dict) : HelloFrame where
  protocolVersion := HelloFrame.int? fields "protocol_version"
  maxStreamChunk := HelloFrame.int? fields "max_stream_chunk"
  maxInflight := HelloFrame.int? fields "max_inflight"
  streamWindowFrames := HelloFrame.int? fields "stream_window_frames"
  maxBodySize := (fields.get? "max_body_size").map Json.asInt?
  maxWsMessageSize := (fields.get? "max_ws_message_size").map Json.asInt?
  resume :=
    match fields.get? "resume" with
    | some (.bool value) => value
    | _ => false

structure HelloFrame.Advertises (own : ClientLimits) (frame : HelloFrame)
    (peer : PeerLimits) : Prop where
  ownVersion : Tunnel.protocolVersion ≤ own.protocolVersion
  version : ∃ version ∈ frame.protocolVersion, (Tunnel.protocolVersion : Int) ≤ version
  chunk : frame.maxStreamChunk = some (peer.maxStreamChunk : Int)
  inflight : frame.maxInflight = some (peer.maxInflight : Int)
  window : frame.streamWindowFrames = some (peer.streamWindowFrames : Int)
  body : frame.maxBodySize.getD (some own.maxBodySize) = some (peer.maxBodySize : Int)
  wsMessage : frame.maxWsMessageSize.getD (some own.maxWsMessageSize) =
    some (peer.maxWsMessageSize : Int)

theorem HelloFrame.accept_advertises {own : ClientLimits} {frame : HelloFrame}
    {peer : PeerLimits} (accepted : frame.accept own = some peer) :
    frame.Advertises own peer := by
  rw [HelloFrame.accept] at accepted
  simp only [Option.bind_eq_bind, Option.bind_eq_some_iff] at accepted
  rcases accepted with ⟨version, isVersion, chunk, isChunk, inflight, isInflight, window,
    isWindow, body, isBody, wsMessage, isWsMessage, checked⟩
  split at checked
  · rename_i checks
    have ownVersion := checks.1
    have peerVersion := checks.2.1
    cases checked
    refine ⟨ownVersion, ⟨version, isVersion, peerVersion⟩, ?_, ?_, ?_, ?_, ?_⟩
    · rw [isChunk, Int.toNat_of_nonneg (by omega)]
    · rw [isInflight, Int.toNat_of_nonneg (by omega)]
    · rw [isWindow, Int.toNat_of_nonneg (by omega)]
    · rw [isBody, Int.toNat_of_nonneg (by omega)]
    · rw [isWsMessage, Int.toNat_of_nonneg (by omega)]
  · cases checked

/-! ## A connection -/

namespace ClientLimits

variable (own : ClientLimits)

def accepts (fields : Dict) : Option PeerLimits := (HelloFrame.ofFields fields).accept own

def negotiated (hellos : List Dict) : NegotiatedLimits :=
  hellos.foldl (fun limits fields => own.hello (HelloFrame.ofFields fields) limits)
    own.opening

variable {own} {hellos : List Dict} {fields : Dict} {peer : PeerLimits}

theorem hello_rejected {limits : NegotiatedLimits} (rejected : own.accepts fields = none) :
    own.hello (HelloFrame.ofFields fields) limits = limits := by
  rw [accepts] at rejected
  rw [hello, rejected, ite_id]

theorem hello_opening (accepted : own.accepts fields = some peer) :
    own.hello (HelloFrame.ofFields fields) own.opening = own.negotiate peer := by
  rw [accepts] at accepted
  have unselected : ¬Tunnel.protocolVersion ≤ own.opening.negotiatedProtocolVersion :=
    Nat.not_succ_le_self 1
  rw [hello, accepted, if_neg unselected]

theorem hello_negotiate (frame : HelloFrame) :
    own.hello frame (own.negotiate peer) = own.negotiate peer := by
  have selected : Tunnel.protocolVersion ≤
      (own.negotiate peer).negotiatedProtocolVersion := Nat.le_refl _
  rw [hello, if_pos selected]

theorem negotiated_opening (rejected : ∀ fields ∈ hellos, own.accepts fields = none) :
    own.negotiated hellos = own.opening := by
  rw [negotiated]
  induction hellos with
  | nil => rfl
  | cons fields rest induction =>
      rw [List.foldl_cons, hello_rejected (rejected fields List.mem_cons_self)]
      exact induction fun other member => rejected other (List.mem_cons_of_mem _ member)

theorem negotiated_first {before : List Dict} (after : List Dict)
    (rejected : ∀ other ∈ before, own.accepts other = none)
    (accepted : own.accepts fields = some peer) :
    own.negotiated (before ++ fields :: after) = own.negotiate peer := by
  have opening := negotiated_opening rejected
  rw [negotiated] at opening
  rw [negotiated, List.foldl_append, opening, List.foldl_cons, hello_opening accepted]
  induction after with
  | nil => rfl
  | cons other rest induction =>
      rw [List.foldl_cons, hello_negotiate]
      exact induction

end ClientLimits

/-! ## The negotiated limits -/

structure WithinBoth (fields : Dict) (key : String) (own limit : Nat) : Prop where
  positive : 0 < limit
  own : limit ≤ own
  peer : ∀ advertised ∈ HelloFrame.int? fields key, (limit : Int) ≤ advertised

structure NegotiatedLimits.Fits (limits : NegotiatedLimits) (own : ClientLimits)
    (fields : Dict) : Prop where
  version : WithinBoth fields "protocol_version" own.protocolVersion
    limits.negotiatedProtocolVersion
  chunk : WithinBoth fields "max_stream_chunk" own.maxStreamChunk
    limits.negotiatedStreamChunk
  inflight : WithinBoth fields "max_inflight" own.maxInflight limits.negotiatedMaxInflight
  window : WithinBoth fields "stream_window_frames" own.streamWindowFrames
    limits.negotiatedStreamWindow
  body : WithinBoth fields "max_body_size" own.maxBodySize limits.negotiatedMaxBodySize
  wsMessage : WithinBoth fields "max_ws_message_size" own.maxWsMessageSize
    limits.negotiatedMaxWsMessageSize
  budget : limits.negotiatedMaxInflight ≤ outboundQueueFrames - outboundControlReserve →
    limits.negotiatedMaxInflight * limits.negotiatedStreamWindow ≤
      outboundQueueFrames - outboundControlReserve
  oneFrame : outboundQueueFrames - outboundControlReserve < limits.negotiatedMaxInflight →
    limits.negotiatedStreamWindow = 1

theorem WithinBoth.smaller {fields : Dict} {key : String} {own peer limit : Nat}
    (positive : 0 < limit) (within : limit ≤ min own peer)
    (advertised : ∀ value ∈ HelloFrame.int? fields key, value = (peer : Int)) :
    WithinBoth fields key own limit where
  positive := positive
  own := Nat.le_trans within (Nat.min_le_left _ _)
  peer := by
    intro value isValue
    rw [advertised value isValue]
    exact Int.ofNat_le.mpr (Nat.le_trans within (Nat.min_le_right _ _))

theorem HelloFrame.int?_eq {fields : Dict} {key : String} {own peer : Nat}
    (checked : ((fields.get? key).map Json.asInt?).getD (some (own : Int)) =
      some (peer : Int)) : ∀ value ∈ HelloFrame.int? fields key, value = (peer : Int) := by
  intro value isValue
  rw [Option.mem_def, int?] at isValue
  cases isField : fields.get? key with
  | none =>
      rw [isField] at isValue
      cases isValue
  | some field =>
      rw [isField] at isValue checked
      exact Option.some.inj (isValue.symm.trans checked)

namespace ClientLimits

variable {own : ClientLimits} {fields : Dict} {peer : PeerLimits}

theorem negotiate_budget (within : (own.negotiate peer).negotiatedMaxInflight ≤
      outboundQueueFrames - outboundControlReserve) :
    (own.negotiate peer).negotiatedMaxInflight *
        (own.negotiate peer).negotiatedStreamWindow ≤
      outboundQueueFrames - outboundControlReserve := by
  generalize budget : outboundQueueFrames - outboundControlReserve = frames at within ⊢
  have positive := (own.negotiate peer).inflightPositive
  have quotient : (own.negotiate peer).negotiatedStreamWindow ≤
      frames / (own.negotiate peer).negotiatedMaxInflight := by
    rw [← Nat.max_eq_right (Nat.div_pos within positive), ← budget]
    exact Nat.min_le_right _ _
  exact Nat.le_trans (Nat.mul_le_mul_left _ quotient) (Nat.mul_div_le _ _)

theorem negotiate_oneFrame (beyond : outboundQueueFrames - outboundControlReserve <
      (own.negotiate peer).negotiatedMaxInflight) :
    (own.negotiate peer).negotiatedStreamWindow = 1 := by
  apply Nat.le_antisymm _ (own.negotiate peer).windowPositive
  have quotient : (own.negotiate peer).negotiatedStreamWindow ≤
      max 1 ((outboundQueueFrames - outboundControlReserve) /
        (own.negotiate peer).negotiatedMaxInflight) := Nat.min_le_right _ _
  rw [Nat.div_eq_of_lt beyond] at quotient
  exact quotient

theorem negotiate_fits (accepted : own.accepts fields = some peer) :
    (own.negotiate peer).Fits own fields := by
  have advertises := HelloFrame.accept_advertises accepted
  rcases advertises.version with ⟨version, isVersion, atLeast⟩
  have only {key : String} {value : Nat}
      (isValue : HelloFrame.int? fields key = some (value : Int)) :
      ∀ other ∈ HelloFrame.int? fields key, other = (value : Int) := by
    intro other isOther
    exact Option.some.inj ((Option.mem_def.mp isOther).symm.trans isValue)
  exact
    { version :=
        { positive := Nat.two_pos
          own := advertises.ownVersion
          peer := by
            intro other isOther
            cases (Option.mem_def.mp isOther).symm.trans isVersion
            exact atLeast }
      chunk := .smaller (own.negotiate peer).chunkPositive (Nat.le_refl _)
        (only advertises.chunk)
      inflight := .smaller (own.negotiate peer).inflightPositive (Nat.le_refl _)
        (only advertises.inflight)
      window := .smaller (own.negotiate peer).windowPositive (Nat.min_le_left _ _)
        (only advertises.window)
      body := .smaller (own.negotiate peer).bodyPositive (Nat.le_refl _)
        (HelloFrame.int?_eq advertises.body)
      wsMessage := .smaller (own.negotiate peer).wsMessagePositive (Nat.le_refl _)
        (HelloFrame.int?_eq advertises.wsMessage)
      budget := negotiate_budget
      oneFrame := negotiate_oneFrame }

/-- The limits are the client's own until the first acceptable hello, and from then on
those that it negotiates. -/
theorem negotiated_fits (own : ClientLimits) :
    (∀ hellos : List Dict, (∀ fields ∈ hellos, own.accepts fields = none) →
      own.negotiated hellos = own.opening) ∧
    ∀ (before after : List Dict) (fields : Dict) (peer : PeerLimits),
      (∀ other ∈ before, own.accepts other = none) → own.accepts fields = some peer →
        own.negotiated (before ++ fields :: after) = own.negotiated (before ++ [fields]) ∧
          (own.negotiated (before ++ fields :: after)).Fits own fields := by
  constructor
  · intro hellos
    exact negotiated_opening
  · intro before after fields peer rejected accepted
    rw [negotiated_first after rejected accepted, negotiated_first [] rejected accepted]
    exact ⟨rfl, negotiate_fits accepted⟩

def helloFields (maxInflight : Int) : Dict :=
  [("type", .str "hello"), ("protocol_version", .int 2), ("max_stream_chunk", .int 65536),
    ("max_inflight", .int maxInflight), ("stream_window_frames", .int 1024),
    ("resume", .bool true)]

theorem negotiated_fits_sixteen :
    (ClientLimits.default.negotiated [helloFields 0, helloFields 16]).Fits .default
      (helloFields 16) := by
  refine ((negotiated_fits .default).2 [helloFields 0] [] (helloFields 16) _ ?_ rfl).2
  intro other member
  cases List.mem_singleton.mp member
  rfl

/-- With one request more than frames, the floor of one is beyond the budget. -/
theorem window_floor_exceeds_budget :
    ∃ own : ClientLimits, ∃ peer, own.accepts (helloFields 481) = some peer ∧
      outboundQueueFrames - outboundControlReserve <
        (own.negotiated [helloFields 481]).negotiatedMaxInflight *
          (own.negotiated [helloFields 481]).negotiatedStreamWindow := by
  refine ⟨{ ClientLimits.default with
    maxInflight := 481
    inflight := ⟨Nat.succ_pos _, ?_⟩ }, _, rfl, ?_⟩
  · decide
  · decide

end ClientLimits

end YrSandbox.Tunnel
