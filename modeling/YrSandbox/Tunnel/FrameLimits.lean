import YrSandbox.Tunnel.KeptPayloads

/-! # Binary frames and the limits of their connections

What was started on a connection keeps to its limits. On a later connection its payloads
must fit what that one has negotiated, and wait until it has. -/

namespace YrSandbox.Tunnel

open Python Transition

namespace BinaryEnvelope

variable {unicode : UnicodeData} {envelope : BinaryEnvelope} {maxPayload : Int}

theorem encode_malformed (malformed : Uuid.ofText unicode envelope.requestId = none) :
    ∃ error, envelope.encode unicode maxPayload = .error error := by
  cases encoded : envelope.encode unicode maxPayload with
  | error error => exact ⟨error, rfl⟩
  | ok raw =>
      rcases encode_eq_ok.mp encoded with ⟨uuid, read, _⟩
      rw [malformed] at read
      cases read

theorem encode_protocolError {error : EnvelopeError}
    (refused : envelope.encode unicode maxPayload = .error error)
    (isProtocol : error.isProtocol = true) :
    maxPayload < envelope.payload.length ∨ Uuid.ofText unicode envelope.requestId = none ∨
      envelope.offset.any (· < 0) = true := by
  unfold encode at refused
  split at refused
  · rename_i longer
    exact .inl longer
  · split at refused
    · rename_i malformed
      exact .inr (.inl malformed)
    · split at refused
      · rename_i negative
        exact .inr (.inr negative)
      · split at refused
        · rename_i outOfRange
          cases refused
          unfold wirePayload at outOfRange
          split at outOfRange
          · cases outOfRange
          · split at outOfRange
            · cases outOfRange
            · cases outOfRange
              cases isProtocol
        · split at refused
          · cases refused
            cases isProtocol
          · cases refused

end BinaryEnvelope

namespace WsSender

def payloads : WsSender → List Bytes
  | sending payload message _ => payload :: message
  | waiting | done => []

@[simp] theorem payloads_interrupt (sender : WsSender) :
    sender.interrupt.payloads = sender.payloads := by
  cases sender <;> rfl

end WsSender

/-! ## The condition -/

namespace TunnelClient

def Selected (client : TunnelClient) : Prop :=
  protocolVersion ≤ (client.limits client.present).negotiatedProtocolVersion

instance (client : TunnelClient) : Decidable client.Selected :=
  inferInstanceAs (Decidable (_ ≤ _))

def kept (client : TunnelClient) : List Bytes :=
  client.responses.flatMap (fun response => response.stream.kept) ++
    client.channels.flatMap fun channel => channel.sender.payloads

/-- What is read for an earlier connection is cut small enough for the present one. -/
def ReadsFit (client : TunnelClient) (loop length : Nat) : Prop :=
  client.connected = true → loop ≠ client.present →
    min (client.limits loop).negotiatedStreamChunk length ≤
      (client.limits client.present).negotiatedStreamChunk

instance (client : TunnelClient) (loop length : Nat) :
    Decidable (client.ReadsFit loop length) :=
  inferInstanceAs (Decidable (_ → _ → _))

end TunnelClient

/-- What a response of an earlier connection waits for: that V2 is negotiated. A frame
after which a chunk is replayed at once has the id of an envelope. -/
def Response.Suits (unicode : UnicodeData) (client : TunnelClient) (response : Response) :
    ResponseStream.Event → Prop
  | .read rawChunk =>
      response.stream.responseSize + rawChunk.length ≤
          response.stream.origin.negotiatedMaxBodySize →
        client.ReadsFit response.loop rawChunk.length
  | .transmit =>
      (response.transmitted .transmit).isSome = true → response.loop ≠ client.present →
        client.Selected
  | .replayTransmit =>
      (response.transmitted .replayTransmit).isSome = true → client.Selected
  | .windowFrame frame =>
      response.stream.Offers frame → (Uuid.ofText unicode response.rid).isSome = true
  | _ => True

instance (unicode : UnicodeData) (client : TunnelClient) (response : Response) :
    ∀ event, Decidable (response.Suits unicode client event)
  | .read _ | .transmit | .replayTransmit | .windowFrame _ =>
      inferInstanceAs (Decidable (_ → _))
  | .exhausted | .fails | .takeCredit | .lock | .drained | .errorFrame _ | .protocolError
  | .negotiated _ | .replayLock | .replayCredit | .replayDrained | .lost | .disconnect
  | .reconnect _ | .deliver => .isTrue trivial

/-- The hello of a connection leaves room for what is kept from earlier ones, and what
goes on there waits for it. -/
def TunnelClient.Suits (unicode : UnicodeData) (client : TunnelClient) : Event → Prop
  | .hello frame =>
      ¬client.Selected → ∀ peer ∈ frame.accept client.own, ∀ payload ∈ client.kept,
        payload.length ≤ (client.own.negotiate peer).negotiatedStreamChunk
  | .response index event =>
      ∀ response ∈ client.responses[index]?, response.Suits unicode client event
  | .upstreamMessage index message =>
      ∀ channel ∈ client.channels[index]?,
        message.length ≤ (client.limits channel.loop).negotiatedMaxWsMessageSize →
          client.ReadsFit channel.loop message.length
  | .wsTransmit index =>
      ∀ channel ∈ client.channels[index]?, channel.loop ≠ client.present → client.Selected
  | _ => True

instance (unicode : UnicodeData) (client : TunnelClient) :
    ∀ event, Decidable (client.Suits unicode event)
  | .hello frame => inferInstanceAs (Decidable (_ → ∀ peer ∈ frame.accept client.own, _))
  | .response index _ =>
      inferInstanceAs (Decidable (∀ response ∈ client.responses[index]?, _))
  | .upstreamMessage index _ | .wsTransmit index =>
      inferInstanceAs (Decidable (∀ channel ∈ client.channels[index]?, _))
  | .respond _ _ _ | .wsConnected _ | .wsDrained _ | .wsEnd _ | .protocolError | .lost
  | .disconnect | .reconnect => .isTrue trivial

/-! ## The invariant -/

/-- A payload of this length can be sent on every connection of V1, and on the present
one. -/
structure TunnelClient.Fits (client : TunnelClient) (length : Nat) : Prop where
  own : length ≤ client.own.maxStreamChunk
  present : client.connected = true →
    length ≤ (client.limits client.present).negotiatedStreamChunk

structure Response.Keeps (client : TunnelClient) (response : Response) : Prop where
  begun : response.loop ≤ client.present
  selected : protocolVersion ≤ (client.limits response.loop).negotiatedProtocolVersion
  origin : response.stream.origin = (client.limits response.loop).toLimits
  limits : response.stream.limits = (client.limits client.present).toLimits
  connected : response.stream.connected = client.connected
  wsReady : response.stream.wsReady = true → client.connected = true
  attached : response.stream.Attached
  fits : ∀ payload ∈ response.stream.kept, client.Fits payload.length

structure Response.Quiet (unicode : UnicodeData) (response : Response) : Prop where
  free : Uuid.ofText unicode response.rid = none →
    response.stream.streamer.holdsLock = false
  halted : Uuid.ofText unicode response.rid = none → response.stream.Halted

structure Channel.Keeps (client : TunnelClient) (channel : Channel) : Prop where
  begun : channel.loop ≤ client.present
  selected : channel.sender.payloads ≠ [] →
    protocolVersion ≤ (client.limits channel.loop).negotiatedProtocolVersion
  fits : ∀ payload ∈ channel.sender.payloads, client.Fits payload.length

structure SentFrame.Complies (frame : SentFrame) : Prop where
  selected : protocolVersion ≤ frame.limits.negotiatedProtocolVersion
  fits : frame.envelope.payload.length ≤ frame.limits.negotiatedStreamChunk

instance (frame : SentFrame) : Decidable frame.Complies :=
  decidable_of_iff
    (protocolVersion ≤ frame.limits.negotiatedProtocolVersion ∧
      frame.envelope.payload.length ≤ frame.limits.negotiatedStreamChunk)
    ⟨fun ⟨selected, fits⟩ => ⟨selected, fits⟩, fun ⟨selected, fits⟩ => ⟨selected, fits⟩⟩

namespace TunnelClient

structure Keeps (unicode : UnicodeData) (client : TunnelClient) : Prop where
  reached : ∀ loop, (client.limits loop).Reached client.own
  wsReady : client.wsReady = true → client.connected = true
  responses : ∀ response ∈ client.responses, response.Keeps client
  quiet : ∀ response ∈ client.responses, response.Quiet unicode
  channels : ∀ channel ∈ client.channels, channel.Keeps client
  sent : ∀ frame ∈ client.sent, frame.Complies
  replayed : client.replayRaised = false

structure SameConnections (client later : TunnelClient) : Prop where
  own : later.own = client.own
  limits : later.limits = client.limits
  present : later.present = client.present
  connected : later.connected = client.connected

end TunnelClient

variable {unicode : UnicodeData} {client later : TunnelClient}

theorem TunnelClient.Fits.of_same {length : Nat} (fits : client.Fits length)
    (same : client.SameConnections later) : later.Fits length where
  own := by
    rw [same.own]
    exact fits.own
  present := by
    rw [same.connected, same.limits, same.present]
    exact fits.present

theorem Response.Keeps.of_same {response : Response} (keeps : response.Keeps client)
    (same : client.SameConnections later) : response.Keeps later where
  begun := same.present ▸ keeps.begun
  selected := same.limits ▸ keeps.selected
  origin := same.limits ▸ keeps.origin
  limits := by
    rw [same.limits, same.present]
    exact keeps.limits
  connected := same.connected ▸ keeps.connected
  wsReady := same.connected ▸ keeps.wsReady
  attached := keeps.attached
  fits payload isKept := (keeps.fits payload isKept).of_same same

theorem Channel.Keeps.of_same {channel : Channel} (keeps : channel.Keeps client)
    (same : client.SameConnections later) : channel.Keeps later where
  begun := same.present ▸ keeps.begun
  selected := same.limits ▸ keeps.selected
  fits payload isKept := (keeps.fits payload isKept).of_same same

/-! ## Turns of a response -/

namespace Response

theorem encodeStreamed_cases (unicode : UnicodeData) (response : Response) :
    response.encodeStreamed unicode = response ∨
      response.encodeStreamed unicode =
        { response with stream := { response.stream with streamer := .done } } := by
  unfold encodeStreamed
  split
  · split
    · exact .inl rfl
    · exact .inr rfl
  · exact .inl rfl

theorem encodeReplayed_cases (unicode : UnicodeData) (response : Response) :
    response.encodeReplayed unicode = (response, none) ∨
      ∃ index chunk error, response.stream.replay = .sending index chunk .waiting ∧
        (response.envelope chunk).encode unicode
          response.stream.limits.negotiatedStreamChunk = .error error ∧
        response.encodeReplayed unicode =
          ({ response with stream := { response.stream with replay := .raised } },
            some error) := by
  unfold encodeReplayed
  split
  · rename_i index chunk sending
    split
    · exact .inl rfl
    · rename_i error refused
      exact .inr ⟨index, chunk, error, sending, refused, rfl⟩
  · exact .inl rfl

theorem encodeStreamed_malformed {response : Response} {chunk : Chunk UInt8}
    {pieces : List Bytes} (malformed : Uuid.ofText unicode response.rid = none)
    (sending : response.stream.streamer = .sending chunk pieces .waiting) :
    (response.encodeStreamed unicode).stream.streamer = .done := by
  have refused : ∃ error, (response.envelope chunk).encode unicode
      response.stream.origin.negotiatedStreamChunk = .error error :=
    BinaryEnvelope.encode_malformed malformed
  rcases refused with ⟨error, refused⟩
  rw [encodeStreamed, sending]
  dsimp only
  rw [refused]

theorem encodeStreamed_free {response : Response}
    (malformed : Uuid.ofText unicode response.rid = none)
    (unsent : response.stream.streamer.holdsLock = true →
      ∃ chunk pieces, response.stream.streamer = .sending chunk pieces .waiting) :
    (response.encodeStreamed unicode).stream.streamer.holdsLock = false := by
  cases holds : response.stream.streamer.holdsLock with
  | true =>
      rcases unsent holds with ⟨chunk, pieces, sending⟩
      rw [encodeStreamed_malformed malformed sending]
      rfl
  | false =>
      rcases response.encodeStreamed_cases unicode with same | same
      · rw [same]
        exact holds
      · rw [same]
        rfl

theorem step_eq_some {response next : Response} {event : ResponseStream.Event}
    {raised : Bool}
    (stepped : response.step unicode event = some (next, raised)) :
    ∃ stream error, response.stream.step event = some stream ∧
      ({ response with stream }.encodeStreamed unicode).encodeReplayed unicode =
        (next, error) ∧
      raised = (isReplay event && decide (stream.replay = .raised) ||
        error.any EnvelopeError.isProtocol) := by
  rcases Option.map_eq_some_iff.mp stepped with ⟨stream, streamStepped, same⟩
  cases same
  exact ⟨stream, _, streamStepped, rfl, rfl⟩

namespace Keeps

variable {response next : Response} {event : ResponseStream.Event}

theorem reads (keeps : response.Keeps client)
    (reached : ∀ loop, (client.limits loop).Reached client.own)
    (suits : response.Suits unicode client event) :
    ∀ payload ∈ response.stream.readPieces event, client.Fits payload.length := by
  intro payload isRead
  cases event with
  | read rawChunk =>
      rw [ResponseStream.readPieces] at isRead
      split at isRead
      · cases isRead
      · rename_i within
        have short := length_le_of_mem_cut isRead
        rw [keeps.origin] at short
        have ownChunk := (reached response.loop).chunk_le
        constructor
        · omega
        · intro connected
          by_cases older : response.loop = client.present
          · rw [← older]
            omega
          · have room := suits (Nat.not_lt.mp within) connected older
            omega
  | _ => cases isRead

theorem withStream {stream : ResponseStream} (keeps : response.Keeps client)
    (same : response.stream.SameConnection stream) (attached : stream.Attached)
    (fits : ∀ payload ∈ stream.kept, client.Fits payload.length) :
    Keeps client { response with stream } where
  begun := keeps.begun
  selected := keeps.selected
  origin := same.origin.trans keeps.origin
  limits := same.limits.trans keeps.limits
  connected := same.connected.trans keeps.connected
  wsReady := by
    rw [same.wsReady]
    exact keeps.wsReady
  attached := attached
  fits := fits

theorem advance {stream : ResponseStream} (keeps : response.Keeps client)
    (reads : ∀ payload ∈ response.stream.readPieces event, client.Fits payload.length)
    (concerns : concerns event = true)
    (stepped : response.stream.step event = some stream) :
    Keeps client { response with stream } := by
  apply keeps.withStream
  · exact ResponseStream.step_sameConnection concerns stepped
  · exact ResponseStream.step_attached keeps.attached stepped
  · intro payload isKept
    rcases List.mem_append.mp (ResponseStream.step_kept stepped isKept) with older | isRead
    · exact keeps.fits payload older
    · exact reads payload isRead

theorem encodeStreamed (keeps : response.Keeps client) :
    (response.encodeStreamed unicode).Keeps client := by
  rcases response.encodeStreamed_cases unicode with same | same
  · rw [same]
    exact keeps
  · rw [same]
    exact keeps.withStream ⟨rfl, rfl, rfl, rfl⟩ keeps.attached
      fun payload isKept => keeps.fits payload (response.stream.done_kept isKept)

theorem encodeReplayed {error : Option EnvelopeError} (keeps : response.Keeps client)
    (quiet : response.Quiet unicode)
    (encoded : response.encodeReplayed unicode = (next, error)) :
    next.Keeps client ∧ next.Quiet unicode ∧
      error.any EnvelopeError.isProtocol = false := by
  rcases response.encodeReplayed_cases unicode with
    same | ⟨index, chunk, refusal, sending, refused, same⟩
  · rw [same] at encoded
    cases encoded
    exact ⟨keeps, quiet, rfl⟩
  · rw [same] at encoded
    cases encoded
    have busy : response.stream.replay ≠ .idle := by
      rw [sending]
      exact nofun
    have connected := keeps.attached.connected busy
    have isKept : chunk.payload ∈ response.stream.kept := by
      apply response.stream.replay_kept
      rw [sending]
      exact List.mem_singleton_self _
    have short := (keeps.fits _ isKept).present (keeps.connected.symm.trans connected)
    refine ⟨?_, ?_, ?_⟩
    · exact keeps.withStream ⟨rfl, rfl, rfl, rfl⟩
        (ResponseStream.attached_of_connected connected)
        fun payload isKept => keeps.fits payload (response.stream.raised_kept isKept)
    · exact ⟨quiet.free, fun _ => trivial⟩
    · cases isProtocol : refusal.isProtocol with
      | false => exact isProtocol
      | true =>
          rcases BinaryEnvelope.encode_protocolError refused isProtocol with
            longer | malformed | negative
          · rw [keeps.limits] at longer
            exact absurd longer (Int.not_lt.mpr (by exact_mod_cast short))
          · have halted := quiet.halted malformed
            rw [ResponseStream.Halted, sending] at halted
            cases halted
          · rw [envelope, Option.any_some, decide_eq_true_eq] at negative
            omega

end Keeps

theorem Quiet.step {response : Response} {stream : ResponseStream}
    {event : ResponseStream.Event} (quiet : response.Quiet unicode)
    (suits : response.Suits unicode client event)
    (stepped : response.stream.step event = some stream) :
    ({ response with stream }.encodeStreamed unicode).Quiet unicode := by
  have free : Uuid.ofText unicode response.rid = none →
      ({ response with stream }.encodeStreamed unicode).stream.streamer.holdsLock =
        false :=
    fun malformed => encodeStreamed_free malformed
      (ResponseStream.step_free (quiet.free malformed) stepped)
  have halted : Uuid.ofText unicode response.rid = none → stream.Halted := by
    intro malformed
    apply ResponseStream.step_halted (quiet.free malformed)
      (quiet.halted malformed) stepped
    rintro frame rfl offers
    have isUuid := suits offers
    rw [malformed] at isUuid
    cases isUuid
  rcases Response.encodeStreamed_cases unicode { response with stream } with same | same
  · rw [same] at free ⊢
    exact ⟨free, halted⟩
  · rw [same] at free ⊢
    exact ⟨free, halted⟩

theorem Keeps.step {response next : Response} {event : ResponseStream.Event}
    {raised : Bool}
    (keeps : response.Keeps client) (quiet : response.Quiet unicode)
    (reached : ∀ loop, (client.limits loop).Reached client.own)
    (suits : response.Suits unicode client event) (concerns : concerns event = true)
    (stepped : response.step unicode event = some (next, raised)) :
    next.Keeps client ∧ next.Quiet unicode ∧ raised = false := by
  rcases step_eq_some stepped with ⟨stream, error, streamStepped, encoded, rfl⟩
  have advanced := keeps.advance (keeps.reads reached suits) concerns streamStepped
  have taken := quiet.step suits streamStepped
  rcases advanced.encodeStreamed.encodeReplayed taken encoded with
    ⟨nextKeeps, nextQuiet, unrefused⟩
  refine ⟨nextKeeps, nextQuiet, ?_⟩
  rw [unrefused, Bool.or_false, Bool.and_eq_false_iff]
  cases replays : isReplay event with
  | false => exact .inl rfl
  | true =>
      right
      apply decide_eq_false
      intro isRaised
      rcases ResponseStream.step_raised replays streamStepped isRaised with
        ⟨payload, isKept, longer⟩
      have busy : stream.replay ≠ .idle := by
        rw [isRaised]
        exact nofun
      have connected := advanced.connected.symm.trans (advanced.attached.connected busy)
      have short := (keeps.fits payload isKept).present connected
      rw [keeps.limits] at longer
      omega

end Response

namespace TunnelClient

/-! ## Steps -/

theorem listening_idle (listening : client.listening = true) :
    client.connected = true ∧ ∀ response ∈ client.responses,
      response.stream.replay = .idle := by
  rw [TunnelClient.listening, Bool.and_eq_true, Bool.and_eq_true,
    List.all_eq_true] at listening
  refine ⟨listening.1.1, ?_⟩
  intro response isResponse
  exact of_decide_eq_true (listening.2 response isResponse)

theorem mem_kept_of_response {response : Response}
    (isResponse : response ∈ client.responses)
    {payload : Bytes} (isKept : payload ∈ response.stream.kept) : payload ∈ client.kept :=
  List.mem_append_left _ (List.mem_flatMap.mpr ⟨response, isResponse, isKept⟩)

theorem mem_kept_of_channel {channel : Channel} (isChannel : channel ∈ client.channels)
    {payload : Bytes} (isKept : payload ∈ channel.sender.payloads) :
    payload ∈ client.kept :=
  List.mem_append_right _ (List.mem_flatMap.mpr ⟨channel, isChannel, isKept⟩)

structure Changes (client : TunnelClient) (event : ResponseStream.Event)
    (later : TunnelClient) : Prop where
  present : client.present ≤ later.present
  limits : ∀ loop ≤ client.present,
    protocolVersion ≤ (client.limits loop).negotiatedProtocolVersion →
      later.limits loop = client.limits loop
  fits : ∀ payload ∈ client.kept, client.Fits payload.length → later.Fits payload.length
  responses : later.responses = client.responses.map (Response.follow event)
  streams : ∀ response ∈ client.responses, ∃ stream,
    response.stream.step event = some stream ∧
      stream.origin = response.stream.origin ∧
      stream.limits = (later.limits later.present).toLimits ∧
      stream.connected = later.connected ∧
      (stream.wsReady = true → later.connected = true) ∧
      stream.streamer.holdsLock = response.stream.streamer.holdsLock
  channels : ∀ channel ∈ later.channels, ∃ older ∈ client.channels,
    channel.loop = older.loop ∧ channel.sender.payloads = older.sender.payloads

namespace Keeps

theorem of_same (keeps : client.Keeps unicode) (same : client.SameConnections later)
    (wsReady : later.wsReady = client.wsReady)
    (responses : later.responses = client.responses)
    (channels : later.channels = client.channels) (sent : later.sent = client.sent)
    (replayed : later.replayRaised = client.replayRaised) : later.Keeps unicode where
  reached := by
    rw [same.limits, same.own]
    exact keeps.reached
  wsReady := by
    rw [wsReady, same.connected]
    exact keeps.wsReady
  responses := by
    rw [responses]
    exact fun response isResponse => (keeps.responses response isResponse).of_same same
  quiet := responses ▸ keeps.quiet
  channels := by
    rw [channels]
    exact fun channel isChannel => (keeps.channels channel isChannel).of_same same
  sent := sent ▸ keeps.sent
  replayed := replayed.trans keeps.replayed

theorem initial (own : ClientLimits) : (initial own).Keeps unicode where
  reached _ := .inl rfl
  wsReady _ := rfl
  responses _ isResponse := absurd isResponse List.not_mem_nil
  quiet _ isResponse := absurd isResponse List.not_mem_nil
  channels _ isChannel := absurd isChannel List.not_mem_nil
  sent _ isFrame := absurd isFrame List.not_mem_nil
  replayed := rfl

/-! ### What happens to the connection -/

theorem change {event : ResponseStream.Event} (keeps : client.Keeps unicode)
    (changes : client.Changes event later) (apart : Response.concerns event = false)
    (reached : ∀ loop, (later.limits loop).Reached later.own)
    (wsReady : later.wsReady = true → later.connected = true)
    (sent : later.sent = client.sent)
    (replayed : later.replayRaised = client.replayRaised) :
    later.Keeps unicode := by
  have unread : ∀ stream : ResponseStream, stream.readPieces event = [] := by
    intro stream
    cases event <;> first | rfl | cases apart
  have noFrame : ∀ frame, event ≠ .windowFrame frame := by
    rintro frame rfl
    cases apart
  constructor
  · exact reached
  · exact wsReady
  · intro followed isFollowed
    rw [changes.responses] at isFollowed
    rcases List.mem_map.mp isFollowed with ⟨response, isResponse, rfl⟩
    rcases changes.streams response isResponse with
      ⟨stream, stepped, origin, limits, connected, wsReady, _⟩
    have own := keeps.responses response isResponse
    have loops := changes.limits response.loop own.begun own.selected
    rw [Response.follow, stepped, Option.getD_some]
    constructor
    · exact Nat.le_trans own.begun changes.present
    · rw [loops]
      exact own.selected
    · rw [loops]
      exact origin.trans own.origin
    · exact limits
    · exact connected
    · exact wsReady
    · exact ResponseStream.step_attached own.attached stepped
    · intro payload isKept
      have older := ResponseStream.step_kept stepped isKept
      rw [unread, List.append_nil] at older
      exact changes.fits payload (mem_kept_of_response isResponse older)
        (own.fits payload older)
  · intro followed isFollowed
    rw [changes.responses] at isFollowed
    rcases List.mem_map.mp isFollowed with ⟨response, isResponse, rfl⟩
    rcases changes.streams response isResponse with
      ⟨stream, stepped, _, _, _, _, holdsLock⟩
    have quiet := keeps.quiet response isResponse
    rw [Response.follow, stepped, Option.getD_some]
    constructor
    · intro malformed
      exact holdsLock.trans (quiet.free malformed)
    · intro malformed
      apply ResponseStream.step_halted (quiet.free malformed)
        (quiet.halted malformed) stepped
      exact fun frame isFrame => absurd isFrame (noFrame frame)
  · intro channel isChannel
    rcases changes.channels channel isChannel with ⟨older, isOlder, loop, payloads⟩
    have own := keeps.channels older isOlder
    constructor
    · rw [loop]
      exact Nat.le_trans own.begun changes.present
    · rw [payloads, loop]
      intro sending
      rw [changes.limits older.loop own.begun (own.selected sending)]
      exact own.selected sending
    · rw [payloads]
      intro payload isKept
      exact changes.fits payload (mem_kept_of_channel isOlder isKept)
        (own.fits payload isKept)
  · rw [sent]
    exact keeps.sent
  · exact replayed.trans keeps.replayed

theorem hello_fits {frame : HelloFrame} (suits : client.Suits unicode (.hello frame))
    {payload : Bytes} (isKept : payload ∈ client.kept) (fits : client.Fits payload.length)
    (connected : client.connected = true) : payload.length ≤
      (client.own.hello frame (client.limits client.present)).negotiatedStreamChunk := by
  rw [ClientLimits.hello]
  split
  · exact fits.present connected
  · rename_i unselected
    split
    · exact fits.present connected
    · rename_i peer accepted
      exact suits unselected peer accepted payload isKept

theorem hello (keeps : client.Keeps unicode) {frame : HelloFrame}
    {limits : NegotiatedLimits}
    (isLimits : client.own.hello frame (client.limits client.present) = limits)
    (listening : client.listening = true) (suits : client.Suits unicode (.hello frame)) :
    Keeps unicode ((client.setLimits limits).follow (.negotiated limits.toLimits)) := by
  rcases listening_idle listening with ⟨connected, idle⟩
  have present : (client.setLimits limits).limits client.present = limits := by
    simp only [setLimits, if_pos]
  apply keeps.change
  · constructor
    · exact Nat.le_refl _
    · intro loop _ selected
      change (client.setLimits limits).limits loop = client.limits loop
      simp only [setLimits]
      split
      · rename_i isPresent
        subst isPresent
        rw [← isLimits, ClientLimits.hello, if_pos selected]
      · rfl
    · intro payload isKept fits
      refine ⟨fits.own, fun connected => ?_⟩
      change _ ≤ ((client.setLimits limits).limits client.present).negotiatedStreamChunk
      rw [present, ← isLimits]
      exact hello_fits suits isKept fits connected
    · rfl
    · intro response isResponse
      have own := keeps.responses response isResponse
      have hears : response.stream.listening = true := by
        rw [ResponseStream.listening, own.connected, connected, idle response isResponse]
        rfl
      refine ⟨_, if_pos hears, rfl, ?_, own.connected, own.wsReady, rfl⟩
      exact congrArg NegotiatedLimits.toLimits present.symm
    · exact fun channel isChannel => ⟨channel, isChannel, rfl, rfl⟩
  · rfl
  · intro loop
    change NegotiatedLimits.Reached client.own ((client.setLimits limits).limits loop)
    simp only [setLimits]
    split
    · rw [← isLimits]
      exact (keeps.reached client.present).hello frame
    · exact keeps.reached loop
  · exact keeps.wsReady
  · rfl
  · rfl

theorem interrupted_channels (client : TunnelClient) :
    ∀ channel ∈ client.interruptChannels.channels, ∃ older ∈ client.channels,
      channel.loop = older.loop ∧ channel.sender.payloads = older.sender.payloads := by
  intro channel isChannel
  rcases List.mem_map.mp isChannel with ⟨older, isOlder, rfl⟩
  exact ⟨older, isOlder, rfl, older.sender.payloads_interrupt⟩

theorem lost (keeps : client.Keeps unicode) (connected : client.connected = true) :
    Keeps unicode { (client.follow .lost).interruptChannels with wsReady := false } := by
  apply keeps.change
  · constructor
    · exact Nat.le_refl _
    · exact fun _ _ _ => rfl
    · exact fun _ _ fits => ⟨fits.own, fits.present⟩
    · rfl
    · intro response isResponse
      have own := keeps.responses response isResponse
      refine ⟨_, if_pos (own.connected.trans connected), rfl, own.limits, own.connected,
        ?_, Streamer.holdsLock_interrupt _⟩
      exact fun _ => connected
    · exact interrupted_channels _
  · rfl
  · exact keeps.reached
  · exact nofun
  · rfl
  · rfl

theorem disconnect (keeps : client.Keeps unicode) (connected : client.connected = true)
    (between : ∀ response ∈ client.responses,
      response.stream.replay = .idle ∨ response.stream.replay = .raised) :
    Keeps unicode { (client.follow .disconnect).interruptChannels with
      connected := false, wsReady := false, raised := false } := by
  apply keeps.change
  · constructor
    · exact Nat.le_refl _
    · exact fun _ _ _ => rfl
    · exact fun _ _ fits => ⟨fits.own, nofun⟩
    · rfl
    · intro response isResponse
      have own := keeps.responses response isResponse
      exact ⟨_, if_pos ⟨own.connected.trans connected, between response isResponse⟩, rfl,
        own.limits, rfl, nofun, Streamer.holdsLock_interrupt _⟩
    · exact interrupted_channels _
  · rfl
  · exact keeps.reached
  · exact nofun
  · rfl
  · rfl

theorem reconnect (keeps : client.Keeps unicode) (apart : client.connected = false) :
    Keeps unicode { ((TunnelClient.setLimits client.own.opening
      { client with present := client.present + 1 }).follow
        (.reconnect client.own.opening.toLimits)) with
        connected := true, wsReady := true } := by
  have others : ∀ loop ≤ client.present,
      (TunnelClient.setLimits client.own.opening
        { client with present := client.present + 1 }).limits loop =
          client.limits loop := by
    intro loop begun
    simp only [setLimits]
    exact if_neg (by omega)
  have present : (TunnelClient.setLimits client.own.opening
      { client with present := client.present + 1 }).limits (client.present + 1) =
        client.own.opening := by
    simp only [setLimits, if_pos]
  apply keeps.change
  · constructor
    · exact Nat.le_succ _
    · exact fun loop begun _ => others loop begun
    · intro payload _ fits
      refine ⟨fits.own, fun _ => ?_⟩
      change _ ≤ ((TunnelClient.setLimits client.own.opening
        { client with present := client.present + 1 }).limits
          (client.present + 1)).negotiatedStreamChunk
      rw [present]
      exact fits.own
    · rfl
    · intro response isResponse
      have own := keeps.responses response isResponse
      have isApart : ¬response.stream.connected = true := by
        rw [own.connected, apart]
        exact Bool.false_ne_true
      exact ⟨_, if_neg isApart, rfl, congrArg NegotiatedLimits.toLimits present.symm, rfl,
        fun _ => rfl, rfl⟩
    · exact fun channel isChannel => ⟨channel, isChannel, rfl, rfl⟩
  · rfl
  · intro loop
    change NegotiatedLimits.Reached client.own ((TunnelClient.setLimits client.own.opening
      { client with present := client.present + 1 }).limits loop)
    simp only [setLimits]
    split
    · exact .inl rfl
    · exact keeps.reached loop
  · exact fun _ => rfl
  · rfl
  · rfl

/-! ### Responses -/

theorem respond (keeps : client.Keeps unicode) {rid : Text} {loop : Nat}
    {head : ResponseHead}
    (may : client.mayRespond loop head = true) :
    (client.respond rid loop head).Keeps unicode := by
  rw [mayRespond, Bool.and_eq_true, Bool.and_eq_true, decide_eq_true_eq,
    decide_eq_true_eq] at may
  rcases may with ⟨⟨begun, selected⟩, _⟩
  have same : client.SameConnections (client.respond rid loop head) := ⟨rfl, rfl, rfl, rfl⟩
  have replaced : ∀ response : Response,
      response.stream.SameConnection { response.stream with registered := false } :=
    fun _ => ⟨rfl, rfl, rfl, rfl⟩
  constructor
  · exact keeps.reached
  · exact keeps.wsReady
  · intro response isResponse
    rcases List.mem_append.mp isResponse with isMapped | isNew
    · rcases List.mem_map.mp isMapped with ⟨older, isOlder, rfl⟩
      have own := (keeps.responses older isOlder).of_same same
      split
      · exact own.withStream (replaced older) own.attached
          fun payload isKept => own.fits payload (older.stream.unregistered_kept isKept)
      · exact own
    · obtain rfl := List.mem_singleton.mp isNew
      constructor
      · exact begun
      · exact selected
      · rfl
      · rfl
      · rfl
      · exact keeps.wsReady
      · exact fun _ => rfl
      · intro payload isKept
        rcases ResponseStream.mem_kept.mp isKept with
          ⟨_, chunk, isUnacked, _⟩ | sent | sent
        · exact absurd isUnacked List.not_mem_nil
        · exact absurd sent List.not_mem_nil
        · exact absurd sent List.not_mem_nil
  · intro response isResponse
    rcases List.mem_append.mp isResponse with isMapped | isNew
    · rcases List.mem_map.mp isMapped with ⟨older, isOlder, rfl⟩
      have quiet := keeps.quiet older isOlder
      split
      · exact ⟨quiet.free, quiet.halted⟩
      · exact quiet
    · obtain rfl := List.mem_singleton.mp isNew
      exact ⟨fun _ => rfl, fun _ => trivial⟩
  · exact fun channel isChannel => (keeps.channels channel isChannel).of_same same
  · exact keeps.sent
  · exact keeps.replayed

theorem transmitted_kept {response : Response} {event : ResponseStream.Event}
    {chunk : Chunk UInt8} (sends : response.transmitted event = some chunk) :
    chunk.payload ∈ response.stream.kept := by
  cases event with
  | transmit =>
      simp only [Response.transmitted] at sends
      split at sends
      · rename_i sending
        cases sends
        apply response.stream.streamer_kept
        rw [sending]
        exact List.mem_cons_self
      · cases sends
  | replayTransmit =>
      simp only [Response.transmitted] at sends
      split at sends
      · rename_i sending
        cases sends
        apply response.stream.replay_kept
        rw [sending]
        exact List.mem_cons_self
      · cases sends
  | _ => cases sends

theorem transmitted_wsReady {response : Response} {event : ResponseStream.Event}
    {chunk : Chunk UInt8} (sends : response.transmitted event = some chunk)
    {stream : ResponseStream} (stepped : response.stream.step event = some stream) :
    response.stream.wsReady = true := by
  cases event with
  | transmit =>
      rw [ResponseStream.step, Option.ite_none_right_eq_some] at stepped
      exact stepped.1
  | replayTransmit =>
      rw [ResponseStream.step, Option.ite_none_right_eq_some] at stepped
      exact stepped.1
  | _ => cases sends

theorem transmitted_complies (keeps : client.Keeps unicode) {response : Response}
    (isResponse : response ∈ client.responses) {event : ResponseStream.Event}
    (suits : response.Suits unicode client event) {chunk : Chunk UInt8}
    (sends : response.transmitted event = some chunk)
    {stream : ResponseStream} (stepped : response.stream.step event = some stream) :
    SentFrame.Complies
      ⟨(client.limits client.present).toLimits, response.envelope chunk⟩ := by
  have own := keeps.responses response isResponse
  have present := own.wsReady (transmitted_wsReady sends stepped)
  have fits := (own.fits _ (transmitted_kept sends)).present present
  cases event with
  | transmit =>
      have selected : client.Selected := by
        by_cases older : response.loop = client.present
        · rw [Selected, ← older]
          exact own.selected
        · exact suits (by rw [sends]; rfl) older
      exact ⟨selected, fits⟩
  | replayTransmit => exact ⟨suits (by rw [sends]; rfl), fits⟩
  | _ => cases sends

theorem sends (keeps : client.Keeps unicode) {envelope : Option BinaryEnvelope}
    (complies : ∀ sent ∈ envelope,
      SentFrame.Complies ⟨(client.limits client.present).toLimits, sent⟩) :
    ∀ frame ∈ (client.send envelope).sent, frame.Complies := by
  intro frame isFrame
  rcases List.mem_append.mp isFrame with older | isNew
  · exact keeps.sent frame older
  · rcases Option.map_eq_some_iff.mp (Option.mem_toList.mp isNew) with ⟨sent, isSent, rfl⟩
    exact complies sent isSent

theorem response {index : Nat} {event : ResponseStream.Event}
    (keeps : client.Keeps unicode)
    (suits : client.Suits unicode (.response index event))
    (concerns : Response.concerns event = true)
    (stepped : client.response unicode index event = some later) :
    later.Keeps unicode := by
  rw [TunnelClient.response, Option.bind_eq_bind, Option.bind_eq_some_iff] at stepped
  rcases stepped with ⟨response, found, stepped⟩
  rw [Option.bind_eq_bind, Option.bind_eq_some_iff] at stepped
  rcases stepped with ⟨⟨next, raised⟩, responseStepped, same⟩
  cases same
  have isResponse := List.mem_of_getElem? found
  have own := keeps.responses response isResponse
  have quiet := keeps.quiet response isResponse
  have responseSuits := suits response found
  rcases own.step quiet keeps.reached responseSuits concerns responseStepped with
    ⟨nextKeeps, nextQuiet, unraised⟩
  rcases Response.step_eq_some responseStepped with ⟨stream, _, streamStepped, _, _⟩
  constructor
  · exact keeps.reached
  · exact keeps.wsReady
  · intro other isOther
    have otherKeeps : other.Keeps client := by
      rcases List.mem_or_eq_of_mem_set isOther with older | rfl
      · exact keeps.responses other older
      · exact nextKeeps
    exact otherKeeps.of_same ⟨rfl, rfl, rfl, rfl⟩
  · intro other isOther
    rcases List.mem_or_eq_of_mem_set isOther with older | rfl
    · exact keeps.quiet other older
    · exact nextQuiet
  · exact fun channel isChannel =>
      (keeps.channels channel isChannel).of_same ⟨rfl, rfl, rfl, rfl⟩
  · apply keeps.sends
    intro sent isSent
    rcases Option.map_eq_some_iff.mp isSent with ⟨chunk, isChunk, rfl⟩
    exact keeps.transmitted_complies isResponse responseSuits isChunk streamStepped
  · change (client.replayRaised || raised) = false
    rw [keeps.replayed, unraised]
    rfl

/-! ### Channels -/

theorem setChannel {index : Nat} {channel : Channel} (keeps : client.Keeps unicode)
    (new : channel.Keeps client) : (client.setChannel index channel).Keeps unicode where
  reached := keeps.reached
  wsReady := keeps.wsReady
  responses response isResponse :=
    (keeps.responses response isResponse).of_same ⟨rfl, rfl, rfl, rfl⟩
  quiet := keeps.quiet
  channels other isOther := by
    have otherKeeps : other.Keeps client := by
      rcases List.mem_or_eq_of_mem_set isOther with older | rfl
      · exact keeps.channels other older
      · exact new
    exact otherKeeps.of_same ⟨rfl, rfl, rfl, rfl⟩
  sent := keeps.sent
  replayed := keeps.replayed

end Keeps

end TunnelClient

namespace Channel.Keeps

variable {channel : Channel}

theorem idle {sender : WsSender} (keeps : channel.Keeps client)
    (empty : sender.payloads = []) :
    Channel.Keeps client { channel with sender } where
  begun := keeps.begun
  selected sending := absurd empty sending
  fits := by
    rw [empty]
    exact fun _ isPayload => absurd isPayload List.not_mem_nil

theorem sendNext {message : List Bytes} (keeps : channel.Keeps client)
    (selected : message ≠ [] →
      protocolVersion ≤ (client.limits channel.loop).negotiatedProtocolVersion)
    (fits : ∀ payload ∈ message, client.Fits payload.length) :
    (channel.sendNext unicode (client.limits channel.loop) message).Keeps client := by
  unfold Channel.sendNext
  split
  · exact keeps.idle rfl
  · split
    · exact ⟨keeps.begun, fun _ => selected nofun, fits⟩
    · exact keeps.idle rfl

theorem upstreamMessage {message : Bytes} (keeps : channel.Keeps client)
    (reached : ∀ loop, (client.limits loop).Reached client.own)
    (suits : message.length ≤ (client.limits channel.loop).negotiatedMaxWsMessageSize →
      client.ReadsFit channel.loop message.length) :
    Channel.Keeps client
      (channel.upstreamMessage unicode (client.limits channel.loop) message) := by
  unfold Channel.upstreamMessage
  split
  · exact keeps
  · rename_i selected
    split
    · exact keeps.idle rfl
    · rename_i within
      apply keeps.sendNext
      · exact fun _ => Nat.not_lt.mp selected
      · intro payload isPayload
        have short : payload.length ≤
            min (client.limits channel.loop).negotiatedStreamChunk message.length := by
          unfold Channel.chunks at isPayload
          split at isPayload
          · obtain rfl := List.mem_singleton.mp isPayload
            exact Nat.zero_le _
          · exact length_le_of_mem_cut isPayload
        have ownChunk := (reached channel.loop).chunk_le
        constructor
        · omega
        · intro connected
          by_cases older : channel.loop = client.present
          · rw [← older]
            omega
          · have room := suits (Nat.not_lt.mp within) connected older
            omega

end Channel.Keeps

namespace TunnelClient

theorem Keeps.wsConnected (keeps : client.Keeps unicode) (rid : Text) :
    Keeps unicode
      { client with
        channels := client.channels ++ [⟨rid, client.present, .waiting⟩] } where
  reached := keeps.reached
  wsReady := keeps.wsReady
  responses response isResponse :=
    (keeps.responses response isResponse).of_same ⟨rfl, rfl, rfl, rfl⟩
  quiet := keeps.quiet
  channels channel isChannel := by
    rcases List.mem_append.mp isChannel with older | isNew
    · exact (keeps.channels channel older).of_same ⟨rfl, rfl, rfl, rfl⟩
    · obtain rfl := List.mem_singleton.mp isNew
      exact ⟨Nat.le_refl _, nofun, nofun⟩
  sent := keeps.sent
  replayed := keeps.replayed

theorem Keeps.wsTransmit {index : Nat} {channel : Channel} {payload : Bytes}
    {message : List Bytes} (keeps : client.Keeps unicode)
    (found : client.channels[index]? = some channel)
    (sending : channel.sender = .sending payload message .waiting)
    (wsReady : client.wsReady = true)
    (selected : channel.loop ≠ client.present → client.Selected) :
    Keeps unicode ((client.send (channel.envelope payload message)).setChannel index
      { channel with sender := .sending payload message .draining }) := by
  have own := keeps.channels channel (List.mem_of_getElem? found)
  have payloads : channel.sender.payloads = payload :: message := by
    rw [sending]
    rfl
  have isSelected : client.Selected := by
    by_cases older : channel.loop = client.present
    · rw [Selected, ← older]
      exact own.selected (by rw [payloads]; exact nofun)
    · exact selected older
  have fits := own.fits payload (by rw [payloads]; exact List.mem_cons_self)
  have sent : (client.send (channel.envelope payload message)).Keeps unicode :=
    { reached := keeps.reached
      wsReady := keeps.wsReady
      responses := fun response isResponse =>
        (keeps.responses response isResponse).of_same ⟨rfl, rfl, rfl, rfl⟩
      quiet := keeps.quiet
      channels := fun other isOther =>
        (keeps.channels other isOther).of_same ⟨rfl, rfl, rfl, rfl⟩
      sent := keeps.sends fun envelope isSent => by
        cases isSent
        exact ⟨isSelected, fits.present (keeps.wsReady wsReady)⟩
      replayed := keeps.replayed }
  have moved : Channel.Keeps client
      { channel with sender := .sending payload message .draining } := by
    constructor
    · exact own.begun
    · intro _
      exact own.selected (by rw [payloads]; exact nofun)
    · intro other isOther
      apply own.fits
      rw [payloads]
      exact isOther
  exact sent.setChannel (moved.of_same ⟨rfl, rfl, rfl, rfl⟩)

theorem step_keeps {event : Event} (keeps : client.Keeps unicode)
    (suits : client.Suits unicode event)
    (stepped : step unicode client event = some later) :
    later.Keeps unicode := by
  cases event with
  | hello frame =>
      rw [step, Option.ite_none_right_eq_some] at stepped
      rcases stepped with ⟨listening, ⟨⟩⟩
      exact keeps.hello rfl listening suits
  | respond rid loop head =>
      rw [step, Option.ite_none_right_eq_some] at stepped
      rcases stepped with ⟨may, ⟨⟩⟩
      exact keeps.respond may
  | response index event =>
      rw [step, Option.ite_none_right_eq_some] at stepped
      exact keeps.response suits stepped.1.1 stepped.2
  | wsConnected rid =>
      rw [step, Option.ite_none_right_eq_some] at stepped
      rcases stepped with ⟨_, ⟨⟩⟩
      exact keeps.wsConnected rid
  | upstreamMessage index message =>
      rw [step, Option.bind_eq_some_iff] at stepped
      rcases stepped with ⟨channel, found, stepped⟩
      rw [Option.ite_none_right_eq_some] at stepped
      rcases stepped with ⟨_, ⟨⟩⟩
      have own := keeps.channels channel (List.mem_of_getElem? found)
      exact keeps.setChannel (own.upstreamMessage keeps.reached (suits channel found))
  | wsTransmit index =>
      rw [step, Option.bind_eq_some_iff] at stepped
      rcases stepped with ⟨channel, found, stepped⟩
      split at stepped
      · rename_i payload message sending
        rw [Option.ite_none_right_eq_some] at stepped
        rcases stepped with ⟨wsReady, ⟨⟩⟩
        exact keeps.wsTransmit found sending wsReady (suits channel found)
      · cases stepped
  | wsDrained index =>
      rw [step, Option.bind_eq_some_iff] at stepped
      rcases stepped with ⟨channel, found, stepped⟩
      split at stepped
      · rename_i payload message sending
        cases stepped
        have own := keeps.channels channel (List.mem_of_getElem? found)
        have payloads : channel.sender.payloads = payload :: message := by
          rw [sending]
          rfl
        apply keeps.setChannel
        apply own.sendNext
        · intro _
          exact own.selected (by rw [payloads]; exact nofun)
        · intro other isOther
          apply own.fits
          rw [payloads]
          exact List.mem_cons_of_mem _ isOther
      · cases stepped
  | wsEnd index =>
      rw [step, Option.map_eq_some_iff] at stepped
      rcases stepped with ⟨channel, found, rfl⟩
      exact keeps.setChannel
        ((keeps.channels channel (List.mem_of_getElem? found)).idle rfl)
  | protocolError =>
      rw [step, Option.ite_none_right_eq_some] at stepped
      rcases stepped with ⟨_, ⟨⟩⟩
      exact keeps.of_same ⟨rfl, rfl, rfl, rfl⟩ rfl rfl rfl rfl rfl
  | lost =>
      rw [step, Option.ite_none_right_eq_some] at stepped
      rcases stepped with ⟨connected, ⟨⟩⟩
      exact keeps.lost connected
  | disconnect =>
      rw [step, Option.ite_none_right_eq_some] at stepped
      rcases stepped with ⟨⟨connected, between⟩, ⟨⟩⟩
      apply keeps.disconnect connected
      intro response isResponse
      simpa using List.all_eq_true.mp between response isResponse
  | reconnect =>
      rw [step, Option.ite_none_left_eq_some] at stepped
      rcases stepped with ⟨apart, ⟨⟩⟩
      exact keeps.reconnect (Bool.eq_false_iff.mpr apart)

/-- In a run whose events suit, each binary frame is sent after V2 was selected on its
connection and fits what was negotiated there, and no replay raises a `ProtocolError`. -/
theorem run_framesComply {own : ClientLimits} {events : List Event}
    (suits : Meets (step unicode) (Suits unicode) (initial own) events)
    (ran : run (step unicode) (initial own) events = some client) :
    (∀ frame ∈ client.sent, frame.Complies) ∧ client.replayRaised = false := by
  have keeps : client.Keeps unicode := by
    apply invariant_under (Keeps unicode) _ (.initial own) suits ran
    intro state event next keeps suits stepped
    exact step_keeps keeps suits stepped
  exact ⟨keeps.sent, keeps.replayed⟩

/-! ## A response that goes on -/

def noUnicode : UnicodeData := ⟨fun _ => none⟩

def uuidText : Text := "12345678-1234-4abc-8def-1234567890ab".toList

def interrupted (body : Bytes) : List Event :=
  [.hello (.withChunk 65536), .respond uuidText 0 ⟨none, true⟩, .response 0 .transmit,
    .response 0 .drained, .response 0 (.windowFrame (.of 1 0)), .response 0 (.read body),
    .response 0 .takeCredit, .lost, .disconnect, .reconnect]

def resumed : List Event :=
  interrupted [7] ++
    [.hello (.withChunk 1024), .response 0 .transmit, .response 0 .drained,
    .response 0 (.windowFrame (.of 1 0)), .response 0 .replayTransmit]

theorem run_framesComply_resumed :
    (after (step noUnicode) (initial .default) resumed).sent.length = 2 ∧
      (∀ frame ∈ (after (step noUnicode) (initial .default) resumed).sent,
        frame.Complies) ∧
      (after (step noUnicode) (initial .default) resumed).replayRaised = false := by
  constructor
  · decide +kernel
  · apply @run_framesComply noUnicode _ .default resumed
    · decide +kernel
    · exact run_eq_after (by decide +kernel)

def unselected : List Event :=
  interrupted [7] ++ [.response 0 .transmit]

/-- The chunk is longer than what the hello allows. It is sent all the same, and then
cannot be replayed. -/
def overlong : List Event :=
  interrupted (List.replicate 1025 7) ++ [.hello (.withChunk 1024), .response 0 .transmit,
    .response 0 .drained, .response 0 (.windowFrame (.of 1 0))]

/-- The frames of an earlier connection keep to its limits only. -/
theorem older_frames_break_limits :
    (∃ client, run (step noUnicode) (initial .default) unselected = some client ∧
      ∃ frame ∈ client.sent,
        frame.limits.negotiatedProtocolVersion < protocolVersion) ∧
    ∃ client, run (step noUnicode) (initial .default) overlong = some client ∧
      (∃ frame ∈ client.sent,
        frame.limits.negotiatedStreamChunk < frame.envelope.payload.length) ∧
      client.replayRaised = true := by
  constructor
  · exact ⟨after (step noUnicode) (initial .default) unselected,
      run_eq_after (by decide +kernel), by decide +kernel⟩
  · exact ⟨after (step noUnicode) (initial .default) overlong,
      run_eq_after (by decide +kernel), by decide +kernel⟩

end TunnelClient

end YrSandbox.Tunnel
