import YrSandbox.Python.Json
import YrSandbox.Python.Url
import YrSandbox.Tunnel.Limits

/-! # Headers of forwarded requests

What `_headers_for_rebuilt_request` and `websocket_options` take over from the headers of
a request. `lower` is `str.lower`. -/

namespace YrSandbox.Tunnel

open Python

def hopByHopHeaders : List Text :=
  ["connection", "keep-alive", "proxy-authenticate", "proxy-authorization",
    "proxy-connection", "te", "trailer", "transfer-encoding", "upgrade"].map String.toList

def maxV1BodyBytes : Nat := 5 * 1024 * 1024

abbrev Header := Text × Text

inductive HeaderError
  | valueError (message : String)
  | typeError (message : String)
  | attributeError (message : String)
deriving DecidableEq, Repr

def tokens (value : Text) : List Text :=
  ((value.splitOn ',').map strip).filter (· ≠ [])

variable (lower : Text → Text)

/-! ## `http_req` and `http_req_begin` -/

/-- `for item in headers or []` -/
def headerItems : Json → Except HeaderError (List Json)
  | .array items => .ok items
  | .object fields => .ok (fields.map fun field => .str field.1)
  | .str text => .ok (text.toList.map fun char => .str (String.singleton char))
  | value =>
      if value.truthy then
        .error (.typeError s!"'{value.typeName}' object is not iterable")
      else .ok []

def headerPair : Json → Except HeaderError Header
  | .array [.str name, .str value] => .ok (name.toList, value.toList)
  | .array [_, _] =>
      .error (.typeError "tunnel header names and values must be strings")
  | _ => .error (.valueError "tunnel headers must be [name, value] pairs")

def connectionTokens (pairs : List Header) : List Text :=
  (pairs.filter fun header => lower header.1 = "connection".toList).flatMap fun header =>
    (tokens header.2).map lower

def headersForRebuiltRequest (headers : Json) : Except HeaderError (List Header) := do
  let items ← headerItems headers
  let pairs ← items.mapM headerPair
  let excluded := hopByHopHeaders ++ connectionTokens lower pairs ++
    ["host", "content-length", "expect"].map String.toList
  return pairs.filter fun header => !excluded.contains (lower header.1)

/-- `req_headers` in `stream_http_response`, with a `Content-Length` of its own. -/
def streamRequestHeaders (contentLength : Option Nat) (headers : Json) :
    Except HeaderError (List Header) := do
  let taken ← headersForRebuiltRequest lower headers
  return taken ++ contentLength.toList.map fun length =>
    ("Content-Length".toList, (toString length).toList)

/-! ## `ws_connect` -/

def ignoredHeaders : List Text :=
  ["connection", "content-length", "host", "sec-websocket-extensions",
    "sec-websocket-key", "sec-websocket-version", "upgrade"].map String.toList

/-- What `websocket_options` collects, and then hands to `ws_client.connect`. -/
structure WebsocketOptions where
  maxSize : Nat
  additionalHeaders : List (Text × Json)
  origin : Option Json
  subprotocols : Option (List Text)
deriving Repr

/-- One round of the loop over `headers.items()`. -/
def takeHeader (options : WebsocketOptions) (field : String × Json) :
    Except HeaderError WebsocketOptions :=
  let name := lower field.1.toList
  if name = "origin".toList then .ok { options with origin := some field.2 }
  else if name = "sec-websocket-protocol".toList then
    match field.2 with
    | .str value => .ok { options with subprotocols := some (tokens value.toList) }
    | value =>
        .error (.attributeError s!"'{value.typeName}' object has no attribute 'split'")
  else if ignoredHeaders.contains name then .ok options
  else
    .ok { options with
      additionalHeaders := options.additionalHeaders ++ [(field.1.toList, field.2)] }

/-- `websocket_options`; `headers` are those of the frame, or an empty dictionary. -/
def websocketOptions (version maxWsMessageSize maxBodySize : Nat) (headers : Json) :
    Except HeaderError WebsocketOptions := do
  let maxSize :=
    if protocolVersion ≤ version then maxWsMessageSize else min maxBodySize maxV1BodyBytes
  let fields ←
    match headers with
    | .object fields => .ok fields
    | value =>
        if value.truthy then
          .error (.attributeError s!"'{value.typeName}' object has no attribute 'items'")
        else .ok []
  let options ← fields.foldlM (takeHeader lower) ⟨maxSize, [], none, none⟩
  return { options with
    origin := options.origin.filter Json.truthy
    subprotocols := options.subprotocols.filter fun protocols => !protocols.isEmpty }

/-! ## End-to-end headers -/

/-- A `Connection` header names the header of this name in lower case. -/
def NamedByConnection (headers : List Header) (name : Text) : Prop :=
  ∃ header ∈ headers, lower header.1 = "connection".toList ∧
    ∃ token ∈ tokens header.2, lower token = name

instance (headers : List Header) (name : Text) :
    Decidable (NamedByConnection lower headers name) :=
  inferInstanceAs (Decidable (∃ header ∈ headers, _ ∧ ∃ token ∈ tokens header.2, _))

def EndToEnd (headers : List Header) (name : Text) : Prop :=
  name ∉ hopByHopHeaders ∧ ¬NamedByConnection lower headers name

instance (headers : List Header) (name : Text) :
    Decidable (EndToEnd lower headers name) := inferInstanceAs (Decidable (_ ∧ _))

def endToEnd (rebuilt : List Text) (headers : List Header) : List Header :=
  headers.filter fun header =>
    decide (EndToEnd lower headers (lower header.1) ∧ lower header.1 ∉ rebuilt)

def httpRebuilt : List Text := ["host", "content-length", "expect"].map String.toList

def websocketRebuilt : List Text :=
  ["content-length", "host", "origin", "sec-websocket-extensions", "sec-websocket-key",
    "sec-websocket-protocol", "sec-websocket-version"].map String.toList

def pairList (headers : List Header) : Json :=
  .array (headers.map fun header =>
    .array [.str (String.ofList header.1), .str (String.ofList header.2)])

def dictOf (headers : List Header) : Json :=
  .object (headers.map fun header =>
    (String.ofList header.1, .str (String.ofList header.2)))

variable {lower}

theorem mem_connectionTokens {pairs : List Header} {name : Text} :
    name ∈ connectionTokens lower pairs ↔ NamedByConnection lower pairs name := by
  simp only [connectionTokens, NamedByConnection, List.mem_flatMap, List.mem_filter,
    List.mem_map, decide_eq_true_eq, and_assoc]

theorem mapM_headerPair (headers : List Header) :
    (headers.map fun header =>
      Json.array [.str (String.ofList header.1), .str (String.ofList header.2)]).mapM
        headerPair = .ok headers := by
  induction headers with
  | nil => rfl
  | cons header headers induction =>
      rw [List.map_cons, List.mapM_cons, induction]
      simp [headerPair, bind, Except.bind, pure, Except.pure]

theorem headersForRebuiltRequest_pairList (headers : List Header) :
    headersForRebuiltRequest lower (pairList headers) =
      .ok (endToEnd lower httpRebuilt headers) := by
  rw [headersForRebuiltRequest, pairList, headerItems]
  simp only [bind, Except.bind, pure, Except.pure, mapM_headerPair, Except.ok.injEq,
    endToEnd]
  apply List.filter_congr
  intro header _
  rw [Bool.eq_iff_iff, Bool.not_eq_true', decide_eq_true_eq, ← Bool.not_eq_true,
    List.contains_iff_mem, List.mem_append, List.mem_append, mem_connectionTokens,
    EndToEnd, httpRebuilt]
  tauto

theorem streamRequestHeaders_pairList (contentLength : Option Nat)
    (headers : List Header) :
    streamRequestHeaders lower contentLength (pairList headers) =
      .ok (endToEnd lower httpRebuilt headers ++ contentLength.toList.map fun length =>
        ("Content-Length".toList, (toString length).toList)) := by
  rw [streamRequestHeaders, headersForRebuiltRequest_pairList]
  rfl

/-! ### The loop over a dictionary -/

def lastValue (lower : Text → Text) (name : Text) (headers : List Header) : Option Text :=
  ((headers.filter fun header => lower header.1 = name).getLast?).map Prod.snd

theorem lastValue_cons_of_eq {name : Text} {header : Header} {headers : List Header}
    (same : lower header.1 = name) :
    lastValue lower name (header :: headers) =
      (lastValue lower name headers).or (some header.2) := by
  rw [lastValue, lastValue, List.filter_cons_of_pos (by simpa using same),
    List.getLast?_cons]
  cases (headers.filter fun header => lower header.1 = name).getLast? <;> rfl

theorem lastValue_cons_of_ne {name : Text} {header : Header} {headers : List Header}
    (different : lower header.1 ≠ name) :
    lastValue lower name (header :: headers) = lastValue lower name headers := by
  rw [lastValue, lastValue, List.filter_cons_of_neg (by simpa using different)]

/-- A header that is put into `additional_headers`. -/
def IsAdditional (lower : Text → Text) (header : Header) : Prop :=
  lower header.1 ≠ "origin".toList ∧ lower header.1 ≠ "sec-websocket-protocol".toList ∧
    lower header.1 ∉ ignoredHeaders

instance (lower : Text → Text) (header : Header) : Decidable (IsAdditional lower header) :=
  inferInstanceAs (Decidable (_ ∧ _ ∧ _))

/-- A header as `ws_client.connect` gets it. -/
def additional (header : Header) : Text × Json := (header.1, .str (String.ofList header.2))

theorem foldlM_takeHeader (headers : List Header) (options : WebsocketOptions) :
    (headers.map fun header =>
      (String.ofList header.1, Json.str (String.ofList header.2))).foldlM
        (takeHeader lower) options =
      .ok
        { maxSize := options.maxSize
          additionalHeaders := options.additionalHeaders ++
            (headers.filter fun header => IsAdditional lower header).map additional
          origin := ((lastValue lower "origin".toList headers).map fun value =>
            Json.str (String.ofList value)).or options.origin
          subprotocols :=
            ((lastValue lower "sec-websocket-protocol".toList headers).map tokens).or
              options.subprotocols } := by
  induction headers generalizing options with
  | nil => simp [lastValue, pure, Except.pure]
  | cons header headers induction =>
      rw [List.map_cons, List.foldlM_cons, takeHeader]
      simp only [String.toList_ofList, bind, Except.bind]
      by_cases origin : lower header.1 = "origin".toList
      · rw [if_pos origin]
        have notProtocol : lower header.1 ≠ "sec-websocket-protocol".toList := by
          rw [origin]
          decide
        have notAdditional : ¬IsAdditional lower header := fun taken => taken.1 origin
        simp only [induction, lastValue_cons_of_eq origin,
          lastValue_cons_of_ne notProtocol, List.filter_cons, notAdditional, decide_false,
          Bool.false_eq_true, if_false]
        cases lastValue lower "origin".toList headers <;> rfl
      rw [if_neg origin]
      by_cases protocol : lower header.1 = "sec-websocket-protocol".toList
      · rw [if_pos protocol]
        have notAdditional : ¬IsAdditional lower header := fun taken => taken.2.1 protocol
        simp only [induction, lastValue_cons_of_eq protocol, lastValue_cons_of_ne origin,
          List.filter_cons, notAdditional, decide_false, Bool.false_eq_true, if_false]
        cases lastValue lower "sec-websocket-protocol".toList headers <;> rfl
      rw [if_neg protocol]
      cases ignored : ignoredHeaders.contains (lower header.1) with
      | true =>
          have notAdditional : ¬IsAdditional lower header := fun taken =>
            taken.2.2 (List.contains_iff_mem.mp ignored)
          simp only [induction, lastValue_cons_of_ne origin, lastValue_cons_of_ne protocol,
            List.filter_cons, notAdditional, decide_false, Bool.false_eq_true, if_false,
            if_true]
      | false =>
          have isAdditional : IsAdditional lower header := by
            refine ⟨origin, protocol, ?_⟩
            intro member
            rw [List.contains_iff_mem.mpr member] at ignored
            cases ignored
          simp only [induction, lastValue_cons_of_ne origin, lastValue_cons_of_ne protocol,
            List.filter_cons, isAdditional, decide_true, Bool.false_eq_true, if_false,
            if_true, List.map_cons, List.append_assoc, List.singleton_append]
          rfl

theorem websocketOptions_dictOf (version maxWsMessageSize maxBodySize : Nat)
    (headers : List Header) :
    websocketOptions lower version maxWsMessageSize maxBodySize (dictOf headers) =
      .ok
        { maxSize :=
            if protocolVersion ≤ version then maxWsMessageSize
            else min maxBodySize maxV1BodyBytes
          additionalHeaders :=
            (headers.filter fun header => IsAdditional lower header).map additional
          origin := ((lastValue lower "origin".toList headers).map fun value =>
            Json.str (String.ofList value)).filter Json.truthy
          subprotocols :=
            ((lastValue lower "sec-websocket-protocol".toList headers).map tokens).filter
              fun protocols => !protocols.isEmpty } := by
  unfold websocketOptions dictOf
  simp only [bind, Except.bind, pure, Except.pure, foldlM_takeHeader, List.nil_append,
    Option.or_none]

/-! ### What is kept, and what is not passed on -/

inductive RequestKind
  | httpReq
  | httpReqBegin
  | wsConnect
deriving DecidableEq, Repr

/-- The headers of a request that reach the upstream are its end-to-end headers, less
those that the second hop builds anew, with their values, duplicates and order. The two
that a handshake builds from the request are end-to-end, too. -/
def Relays (lower : Text → Text) (headers : List Header) : RequestKind → Prop
  | .httpReq =>
      headersForRebuiltRequest lower (pairList headers) =
        .ok (endToEnd lower httpRebuilt headers)
  | .httpReqBegin =>
      ∀ contentLength : Option Nat,
        streamRequestHeaders lower contentLength (pairList headers) =
          .ok (endToEnd lower httpRebuilt headers ++ contentLength.toList.map fun length =>
            ("Content-Length".toList, (toString length).toList))
  | .wsConnect =>
      ∀ version maxWsMessageSize maxBodySize : Nat, ∃ options,
        websocketOptions lower version maxWsMessageSize maxBodySize (dictOf headers) =
          .ok options ∧
        options.additionalHeaders =
          (endToEnd lower websocketRebuilt headers).map additional ∧
        (options.origin.isSome = true → EndToEnd lower headers "origin".toList) ∧
        (options.subprotocols.isSome = true →
          EndToEnd lower headers "sec-websocket-protocol".toList)

/-- The headers of a handshake concern more than one hop, but for those that are ignored;
what `Origin` and `Sec-WebSocket-Protocol` say only counts if there is a value. -/
structure ConcernsBothHops (lower : Text → Text) (headers : List Header) : Prop where
  additional : ∀ header ∈ headers, IsAdditional lower header →
    EndToEnd lower headers (lower header.1)
  origin : NamedByConnection lower headers "origin".toList →
    ∀ value ∈ lastValue lower "origin".toList headers, value = []
  subprotocols : NamedByConnection lower headers "sec-websocket-protocol".toList →
    ∀ value ∈ lastValue lower "sec-websocket-protocol".toList headers, tokens value = []

theorem additional_injective : Function.Injective additional := by
  rintro ⟨name, value⟩ ⟨other, otherValue⟩ same
  simp only [additional, Prod.mk.injEq, Json.str.injEq, String.ofList_inj] at same
  rw [same.1, same.2]

theorem isAdditional_iff {headers : List Header} {header : Header}
    (kept : EndToEnd lower headers (lower header.1)) :
    IsAdditional lower header ↔ lower header.1 ∉ websocketRebuilt := by
  have ignored : ∀ name ∈ ignoredHeaders,
      name ∈ hopByHopHeaders ∨ name ∈ websocketRebuilt := by decide
  have rebuilt : ∀ name ∈ websocketRebuilt, name = "origin".toList ∨
      name = "sec-websocket-protocol".toList ∨ name ∈ ignoredHeaders := by decide
  constructor
  · rintro ⟨notOrigin, notProtocol, notIgnored⟩ member
    rcases rebuilt _ member with isOrigin | isProtocol | isIgnored
    · exact notOrigin isOrigin
    · exact notProtocol isProtocol
    · exact notIgnored isIgnored
  · intro absent
    refine ⟨?_, ?_, ?_⟩
    · intro isOrigin
      apply absent
      rw [isOrigin]
      decide
    · intro isProtocol
      apply absent
      rw [isProtocol]
      decide
    · intro isIgnored
      rcases ignored _ isIgnored with hopByHop | isRebuilt
      · exact kept.1 hopByHop
      · exact absent isRebuilt

theorem additional_eq_endToEnd_iff (headers : List Header) :
    ((headers.filter fun header => IsAdditional lower header).map additional =
        (endToEnd lower websocketRebuilt headers).map additional) ↔
      ∀ header ∈ headers, IsAdditional lower header →
        EndToEnd lower headers (lower header.1) := by
  rw [List.map_inj_right fun _ _ same => additional_injective same]
  constructor
  · intro same header member taken
    have inside : header ∈ endToEnd lower websocketRebuilt headers := by
      rw [← same]
      exact List.mem_filter.mpr ⟨member, decide_eq_true taken⟩
    exact (of_decide_eq_true (List.mem_filter.mp inside).2).1
  · intro concerns
    apply List.filter_congr
    intro header member
    apply decide_eq_decide.mpr
    constructor
    · intro taken
      have kept := concerns header member taken
      exact ⟨kept, (isAdditional_iff kept).mp taken⟩
    · rintro ⟨kept, absent⟩
      exact (isAdditional_iff kept).mpr absent

theorem option_endToEnd_iff {β : Type} (headers : List Header) {name : Text}
    (notHopByHop : name ∉ hopByHopHeaders) (read : Text → β) (counts : β → Bool) :
    ((((lastValue lower name headers).map read).filter counts).isSome = true →
        EndToEnd lower headers name) ↔
      (NamedByConnection lower headers name →
        ∀ value ∈ lastValue lower name headers, counts (read value) = false) := by
  cases lastValue lower name headers with
  | none => simp
  | some value =>
      cases given : counts (read value) with
      | false => simp [given]
      | true => simp [given, EndToEnd, notHopByHop]

theorem relays_wsConnect_iff (headers : List Header) :
    Relays lower headers .wsConnect ↔ ConcernsBothHops lower headers := by
  have origin := @option_endToEnd_iff lower Json headers "origin".toList (by decide)
    (fun value => .str (String.ofList value)) Json.truthy
  have subprotocols := @option_endToEnd_iff lower (List Text) headers
    "sec-websocket-protocol".toList (by decide) tokens fun protocols => !protocols.isEmpty
  simp only [Relays, websocketOptions_dictOf, Except.ok.injEq, exists_eq_left',
    additional_eq_endToEnd_iff, forall_const, origin, subprotocols]
  constructor
  · rintro ⟨additional, origin, subprotocols⟩
    refine ⟨additional, ?_, ?_⟩
    · intro named value last
      have void := origin named value last
      simpa [Json.truthy] using void
    · intro named value last
      have void := subprotocols named value last
      simpa using void
  · rintro ⟨additional, origin, subprotocols⟩
    refine ⟨additional, ?_, ?_⟩
    · intro named value last
      simp [Json.truthy, origin named value last]
    · intro named value last
      simp [subprotocols named value last]

/-- Requests over HTTP always relay their headers as they should; handshakes do so if and
only if all that they pass on concerns both hops. -/
theorem relays_iff (lower : Text → Text) (headers : List Header) (kind : RequestKind) :
    Relays lower headers kind ↔ (kind = .wsConnect → ConcernsBothHops lower headers) := by
  cases kind with
  | httpReq => exact iff_of_true (headersForRebuiltRequest_pairList headers) nofun
  | httpReqBegin =>
      exact iff_of_true
        (fun contentLength => streamRequestHeaders_pairList contentLength headers) nofun
  | wsConnect =>
      rw [relays_wsConnect_iff]
      exact ⟨fun concerns _ => concerns, fun concerns => concerns rfl⟩

/-- A handshake passes on the credentials for a proxy of the first hop. -/
theorem proxy_authorization_forwarded :
    ¬∀ (lower : Text → Text) (headers : List Header) (kind : RequestKind),
      Relays lower headers kind := by
  intro claim
  have relays := claim asciiLower
    [("Proxy-Authorization".toList, "Basic eW91".toList)] .wsConnect
  have concerns := (relays_wsConnect_iff _).mp relays
  have endToEnd := concerns.additional _ (List.mem_singleton_self _) (by decide)
  exact endToEnd.1 (by decide)

end YrSandbox.Tunnel
