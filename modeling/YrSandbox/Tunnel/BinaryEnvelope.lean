import YrSandbox.Python.Uuid

/-! # The binary envelope

The wire format of body chunks and of binary WebSocket messages. -/

namespace YrSandbox.Tunnel

open Python

/-! ## Encoding and decoding -/

def binaryEnvelopeVersion : Nat := 1
def binaryMagic : Bytes := [0x59, 0x44]
def endOfBodyFlag : Nat := 0x01
def hasOffsetFlag : Nat := 0x02
def uuidBytes : Nat := 16

inductive BinaryKind where
  | httpRequestData
  | httpResponseData
  | wsBinaryData
deriving DecidableEq, Repr

namespace BinaryKind

def code : BinaryKind → Nat
  | httpRequestData => 0x01
  | httpResponseData => 0x02
  | wsBinaryData => 0x03

def ofCode : Nat → Option BinaryKind
  | 0x01 => some httpRequestData
  | 0x02 => some httpResponseData
  | 0x03 => some wsBinaryData
  | _ => none

end BinaryKind

structure BinaryEnvelope where
  requestId : Text
  kind : BinaryKind
  payload : Bytes
  endOfBody : Bool
  offset : Option Int
deriving DecidableEq, Repr

/-- What `encode` and `decode` may raise: `ProtocolError`, the `struct.error` of a
field outside its range, the `ValueError` of a malformed UUID. -/
inductive EnvelopeError where
  | protocol (message : String)
  | outOfRange
  | badUuid
deriving DecidableEq, Repr

/-- The fields of `_HEADER`, `!2sBBB16sBI`. -/
structure EnvelopeHeader where
  magic : Bytes
  version : Nat
  kind : Nat
  idLength : Nat
  rawId : Bytes
  flags : Nat
  payloadLength : Nat
deriving DecidableEq, Repr

namespace EnvelopeHeader

def size : Nat := 26

/-- `_HEADER.pack`, of a magic and an id that have their width. -/
def pack (header : EnvelopeHeader) : Option Bytes := do
  let version ← packUnsigned 1 header.version
  let kind ← packUnsigned 1 header.kind
  let idLength ← packUnsigned 1 header.idLength
  let flags ← packUnsigned 1 header.flags
  let payloadLength ← packUnsigned 4 header.payloadLength
  return header.magic ++ version ++ kind ++ idLength ++ header.rawId ++ flags ++
    payloadLength

def unpack (raw : Bytes) : EnvelopeHeader where
  magic := slice raw 0 2
  version := fromBytes (slice raw 2 1)
  kind := fromBytes (slice raw 3 1)
  idLength := fromBytes (slice raw 4 1)
  rawId := slice raw 5 16
  flags := fromBytes (slice raw 21 1)
  payloadLength := fromBytes (slice raw 22 4)

end EnvelopeHeader

namespace BinaryEnvelope

def overLimit (length limit : Int) : EnvelopeError :=
  .protocol s!"binary payload exceeds negotiated chunk limit: {length} > {limit}"

def flags (envelope : BinaryEnvelope) : Nat :=
  (if envelope.endOfBody then endOfBodyFlag else 0) |||
    (if envelope.offset.isSome then hasOffsetFlag else 0)

def wirePayload (envelope : BinaryEnvelope) : Except EnvelopeError Bytes :=
  match envelope.offset with
  | none => .ok envelope.payload
  | some offset =>
      match packUnsigned 8 offset with
      | some packed => .ok (packed ++ envelope.payload)
      | none => .error .outOfRange

def encode (unicode : UnicodeData) (envelope : BinaryEnvelope) (maxPayload : Int) :
    Except EnvelopeError Bytes :=
  if (envelope.payload.length : Int) > maxPayload then
    .error (overLimit envelope.payload.length maxPayload)
  else
    match Uuid.ofText unicode envelope.requestId with
    | none => .error (.protocol "binary envelope id must be a UUID")
    | some requestUuid =>
        if envelope.offset.any (· < 0) then
          .error (.protocol "binary envelope offset must not be negative")
        else
          match envelope.wirePayload with
          | .error error => .error error
          | .ok wirePayload =>
              match EnvelopeHeader.pack
                  { magic := binaryMagic
                    version := binaryEnvelopeVersion
                    kind := envelope.kind.code
                    idLength := uuidBytes
                    rawId := requestUuid.bytes
                    flags := envelope.flags
                    payloadLength := wirePayload.length } with
              | none => .error .outOfRange
              | some header => .ok (header ++ wirePayload)

def decode (raw : Bytes) (maxPayload : Int) : Except EnvelopeError BinaryEnvelope :=
  if raw.length < EnvelopeHeader.size then
    .error (.protocol "binary envelope is shorter than its header")
  else
    let header := EnvelopeHeader.unpack raw
    if header.magic ≠ binaryMagic then
      .error (.protocol "invalid binary envelope magic")
    else if header.version ≠ binaryEnvelopeVersion then
      .error (.protocol s!"unsupported binary envelope version: {header.version}")
    else if header.idLength ≠ uuidBytes then
      .error (.protocol s!"invalid binary envelope UUID length: {header.idLength}")
    else
      match BinaryKind.ofCode header.kind with
      | none => .error (.protocol s!"unknown binary envelope kind: {header.kind}")
      | some kind =>
          -- the bits of a byte that are neither flag
          if header.flags &&& (0xff ^^^ (endOfBodyFlag ||| hasOffsetFlag)) ≠ 0 then
            .error (.protocol
              s!"unknown binary envelope flags: 0x{String.ofList (Nat.toDigits 16 header.flags)}")
          else
            let hasOffset := header.flags &&& hasOffsetFlag ≠ 0
            let wireLimit := maxPayload + if hasOffset then 8 else 0
            let wirePayload := raw.drop EnvelopeHeader.size
            if (header.payloadLength : Int) > wireLimit then
              .error (overLimit header.payloadLength wireLimit)
            else if wirePayload.length ≠ header.payloadLength then
              .error (.protocol
                (s!"binary payload length mismatch: {wirePayload.length} != " ++
                  s!"{header.payloadLength}"))
            else if hasOffset ∧ wirePayload.length < 8 then
              .error (.protocol "offset binary envelope payload is too short")
            else
              let payload := if hasOffset then wirePayload.drop 8 else wirePayload
              if (payload.length : Int) > maxPayload then
                .error (overLimit payload.length maxPayload)
              else
                match Uuid.ofBytes header.rawId with
                | none => .error .badUuid
                | some uuid => .ok
                    { requestId := uuid.str
                      kind
                      payload
                      endOfBody := header.flags &&& endOfBodyFlag ≠ 0
                      offset :=
                        if hasOffset then some (fromBytes (wirePayload.take 8)) else none }

end BinaryEnvelope

/-! ## The header -/

namespace EnvelopeHeader

structure Fits (header : EnvelopeHeader) : Prop where
  magic : header.magic.length = 2
  version : header.version < 256 ^ 1
  kind : header.kind < 256 ^ 1
  idLength : header.idLength < 256 ^ 1
  rawId : header.rawId.length = 16
  flags : header.flags < 256 ^ 1
  payloadLength : header.payloadLength < 256 ^ 4

def bytes (header : EnvelopeHeader) : Bytes :=
  header.magic ++ toBytes 1 header.version ++ toBytes 1 header.kind ++
    toBytes 1 header.idLength ++ header.rawId ++ toBytes 1 header.flags ++
    toBytes 4 header.payloadLength

variable {header : EnvelopeHeader}

theorem Fits.pack (fits : header.Fits) : header.pack = some header.bytes := by
  have packed : ∀ {width number : Nat}, number < 256 ^ width →
      packUnsigned width number = some (toBytes width number) := by
    intro width number inRange
    exact packUnsigned_eq_some.mpr
      ⟨⟨Int.natCast_nonneg number, by exact_mod_cast inRange⟩, by simp⟩
  simp only [EnvelopeHeader.pack, packed fits.version, packed fits.kind,
    packed fits.idLength, packed fits.flags, packed fits.payloadLength,
    Option.bind_eq_bind, Option.bind_some]
  rfl

theorem Fits.length_bytes (fits : header.Fits) : header.bytes.length = size := by
  simp [bytes, fits.magic, fits.rawId, size]

theorem Fits.unpack (fits : header.Fits) (payload : Bytes) :
    unpack (header.bytes ++ payload) = header := by
  have here : ∀ {field rest : Bytes} {width : Nat}, field.length = width →
      slice (field ++ rest) 0 width = field := by
    rintro field rest _ rfl
    simp [slice]
  have later : ∀ {field rest : Bytes} {skipped : Nat} (start width : Nat),
      field.length = skipped →
      slice (field ++ rest) (skipped + start) width = slice rest start width := by
    rintro field rest _ start width rfl
    rw [slice, slice, List.drop_length_add_append]
  have one := length_toBytes 1
  rcases header with ⟨magic, version, kind, idLength, rawId, flags, payloadLength⟩
  simp only [EnvelopeHeader.unpack, bytes, EnvelopeHeader.mk.injEq, List.append_assoc]
  refine ⟨here fits.magic, ?_, ?_, ?_, ?_, ?_, ?_⟩
  · rw [later 0 1 fits.magic, here (one version), fromBytes_toBytes fits.version]
  · rw [later 1 1 fits.magic, later 0 1 (one version), here (one kind),
      fromBytes_toBytes fits.kind]
  · rw [later 2 1 fits.magic, later 1 1 (one version), later 0 1 (one kind),
      here (one idLength), fromBytes_toBytes fits.idLength]
  · rw [later 3 16 fits.magic, later 2 16 (one version), later 1 16 (one kind),
      later 0 16 (one idLength), here fits.rawId]
  · rw [later 19 1 fits.magic, later 18 1 (one version), later 17 1 (one kind),
      later 16 1 (one idLength), later 0 1 fits.rawId, here (one flags),
      fromBytes_toBytes fits.flags]
  · rw [later 20 4 fits.magic, later 19 4 (one version), later 18 4 (one kind),
      later 17 4 (one idLength), later 1 4 fits.rawId, later 0 4 (one flags),
      here (length_toBytes 4 payloadLength), fromBytes_toBytes fits.payloadLength]

theorem fits_unpack {raw : Bytes} (long : size ≤ raw.length) : (unpack raw).Fits := by
  have byte : ∀ start, start + 1 ≤ size → fromBytes (slice raw start 1) < 256 ^ 1 := by
    intro start inside
    have below := fromBytes_lt (slice raw start 1)
    rw [length_slice] at below
    have width : min 1 (raw.length - start) = 1 := by omega
    rwa [width] at below
  have word := fromBytes_lt (slice raw 22 4)
  unfold size at long
  rw [length_slice, show min 4 (raw.length - 22) = 4 by omega] at word
  constructor
  · simp [unpack]
    omega
  · exact byte 2 (by decide)
  · exact byte 3 (by decide)
  · exact byte 4 (by decide)
  · simp [unpack]
    omega
  · exact byte 21 (by decide)
  · exact word

/-- Unpacking loses nothing. -/
theorem bytes_unpack {raw : Bytes} (long : size ≤ raw.length) :
    (unpack raw).bytes = raw.take size := by
  unfold size at long
  have field : ∀ start width, start + width ≤ 26 →
      toBytes width (fromBytes (slice raw start width)) = slice raw start width := by
    intro start width inside
    have spelt := toBytes_fromBytes (slice raw start width)
    rwa [length_slice, show min width (raw.length - start) = width by omega] at spelt
  simp only [bytes, unpack]
  rw [field 2 1 (by decide), field 3 1 (by decide), field 4 1 (by decide),
    field 21 1 (by decide), field 22 4 (by decide)]
  rw [slice_append_slice raw 0 2 1, slice_append_slice raw 0 3 1,
    slice_append_slice raw 0 4 1, slice_append_slice raw 0 5 16,
    slice_append_slice raw 0 21 1, slice_append_slice raw 0 22 4]
  rfl

end EnvelopeHeader

/-! ## Round trips -/

theorem BinaryKind.ofCode_code (kind : BinaryKind) : ofCode kind.code = some kind := by
  cases kind <;> rfl

theorem BinaryKind.code_ofCode {code : Nat} {kind : BinaryKind}
    (known : ofCode code = some kind) : kind.code = code := by
  unfold ofCode at known
  split at known <;> cases known <;> rfl

namespace BinaryEnvelope

def header (envelope : BinaryEnvelope) (uuid : Uuid) (wireLength : Nat) :
    EnvelopeHeader where
  magic := binaryMagic
  version := binaryEnvelopeVersion
  kind := envelope.kind.code
  idLength := uuidBytes
  rawId := uuid.bytes
  flags := envelope.flags
  payloadLength := wireLength

def packedOffset : Option Int → Bytes
  | none => []
  | some offset => toBytes 8 offset.toNat

/-- What makes `raw` the frame of an envelope with the id `uuid`. -/
structure Framed (envelope : BinaryEnvelope) (uuid : Uuid) (maxPayload : Int)
    (raw : Bytes) :
    Prop where
  limit : (envelope.payload.length : Int) ≤ maxPayload
  offset : ∀ offset ∈ envelope.offset, 0 ≤ offset ∧ offset < 256 ^ 8
  size : (packedOffset envelope.offset ++ envelope.payload).length < 256 ^ 4
  spelt : raw =
    (envelope.header uuid
      (packedOffset envelope.offset ++ envelope.payload).length).bytes ++
      (packedOffset envelope.offset ++ envelope.payload)

variable {unicode : UnicodeData} {envelope : BinaryEnvelope} {uuid : Uuid}
  {maxPayload : Int}
  {raw : Bytes}

theorem wirePayload_eq_ok {wire : Bytes} :
    envelope.wirePayload = .ok wire ∧ envelope.offset.any (· < 0) = false ↔
      (∀ offset ∈ envelope.offset, 0 ≤ offset ∧ offset < 256 ^ 8) ∧
        wire = packedOffset envelope.offset ++ envelope.payload := by
  rcases envelope with ⟨requestId, kind, payload, endOfBody, offset⟩
  cases offset with
  | none => simp [wirePayload, packedOffset, eq_comm]
  | some offset =>
      simp only [wirePayload, packedOffset, Option.mem_some_iff, forall_eq',
        Option.any_some]
      cases packed : packUnsigned 8 offset with
      | none =>
          constructor
          · intro ⟨refused, _⟩
            cases refused
          · intro ⟨inside, _⟩
            rw [packUnsigned_eq_some.mpr ⟨inside, rfl⟩] at packed
            cases packed
      | some bytes =>
          rcases packUnsigned_eq_some.mp packed with ⟨inside, rfl⟩
          constructor
          · intro ⟨written, _⟩
            cases written
            exact ⟨inside, rfl⟩
          · rintro ⟨_, rfl⟩
            exact ⟨rfl, decide_eq_false (by omega)⟩

theorem header_fits (envelope : BinaryEnvelope) (uuid : Uuid) {wireLength : Nat}
    (short : wireLength < 256 ^ 4) : (envelope.header uuid wireLength).Fits := by
  have idWidth := uuid.length_bytes
  refine ⟨rfl, ?_, ?_, ?_, by simpa only [header] using idWidth, ?_, short⟩
  · change 1 < 256
    decide
  · change envelope.kind.code < 256
    cases envelope.kind <;> decide
  · change 16 < 256
    decide
  · change envelope.flags < 256
    unfold flags
    split <;> split <;> decide

theorem pack_header {wireLength : Nat} {packed : Bytes} :
    (envelope.header uuid wireLength).pack = some packed ↔
      wireLength < 256 ^ 4 ∧ packed = (envelope.header uuid wireLength).bytes := by
  constructor
  · intro written
    have short : wireLength < 256 ^ 4 := by
      simp only [EnvelopeHeader.pack, Option.bind_eq_bind,
        Option.bind_eq_some_iff] at written
      rcases written with ⟨_, _, _, _, _, _, _, _, _, last, _⟩
      exact_mod_cast (packUnsigned_eq_some.mp last).1.2
    rw [(header_fits envelope uuid short).pack] at written
    exact ⟨short, (Option.some.inj written).symm⟩
  · rintro ⟨short, rfl⟩
    exact (header_fits envelope uuid short).pack

theorem encode_eq_ok :
    encode unicode envelope maxPayload = .ok raw ↔
      ∃ uuid, Uuid.ofText unicode envelope.requestId = some uuid ∧
        envelope.Framed uuid maxPayload raw := by
  constructor
  · intro encoded
    unfold encode at encoded
    split at encoded
    · cases encoded
    · rename_i limit
      split at encoded
      · cases encoded
      · rename_i uuid read
        split at encoded
        · cases encoded
        · rename_i notNegative
          split at encoded
          · cases encoded
          · rename_i wire written
            split at encoded
            · cases encoded
            · rename_i packed isPacked
              cases encoded
              rcases wirePayload_eq_ok.mp ⟨written, by simpa using notNegative⟩ with
                ⟨inRange, rfl⟩
              rcases pack_header.mp isPacked with ⟨size, rfl⟩
              exact ⟨uuid, read, by omega, inRange, size, rfl⟩
  · rintro ⟨uuid, read, limit, inRange, size, rfl⟩
    rcases wirePayload_eq_ok.mpr ⟨inRange, rfl⟩ with ⟨written, notNegative⟩
    have packed : (envelope.header uuid _).pack = some _ := pack_header.mpr ⟨size, rfl⟩
    rw [header] at packed
    rw [encode, if_neg (by omega), read]
    simp only [notNegative, written, packed]
    rfl

/-! ### Flags -/

theorem flags_known (envelope : BinaryEnvelope) :
    envelope.flags &&& (0xff ^^^ (endOfBodyFlag ||| hasOffsetFlag)) = 0 := by
  unfold flags
  split <;> split <;> decide

theorem flags_hasOffset (envelope : BinaryEnvelope) :
    envelope.flags &&& hasOffsetFlag ≠ 0 ↔ envelope.offset.isSome = true := by
  unfold flags
  generalize envelope.offset.isSome = given
  cases given <;> cases envelope.endOfBody <;> decide

theorem flags_endOfBody (envelope : BinaryEnvelope) :
    decide (envelope.flags &&& endOfBodyFlag ≠ 0) = envelope.endOfBody := by
  unfold flags
  generalize envelope.offset.isSome = given
  cases given <;> cases envelope.endOfBody <;> decide

theorem flags_spelt : ∀ byte < 256,
    byte &&& (0xff ^^^ (endOfBodyFlag ||| hasOffsetFlag)) = 0 →
      (if byte &&& endOfBodyFlag ≠ 0 then endOfBodyFlag else 0) |||
        (if byte &&& hasOffsetFlag ≠ 0 then hasOffsetFlag else 0) = byte := by
  decide +kernel

/-! ### Frames -/

theorem length_packedOffset (offset : Option Int) :
    (packedOffset offset).length = if offset.isSome then 8 else 0 := by
  cases offset <;> simp [packedOffset]

theorem header_fields (envelope : BinaryEnvelope) (uuid : Uuid) (wireLength : Nat) :
    (envelope.header uuid wireLength).magic = binaryMagic ∧
      (envelope.header uuid wireLength).version = binaryEnvelopeVersion ∧
      (envelope.header uuid wireLength).idLength = uuidBytes ∧
      (envelope.header uuid wireLength).kind = envelope.kind.code ∧
      (envelope.header uuid wireLength).flags = envelope.flags ∧
      (envelope.header uuid wireLength).rawId = uuid.bytes ∧
      (envelope.header uuid wireLength).payloadLength = wireLength := by
  simp only [header, and_self]

theorem Framed.decode (framed : envelope.Framed uuid maxPayload raw) :
    decode raw maxPayload = .ok { envelope with requestId := uuid.str } := by
  have fits := header_fits envelope uuid framed.size
  have unpacked := fits.unpack (packedOffset envelope.offset ++ envelope.payload)
  have start := fits.length_bytes
  rw [← framed.spelt] at unpacked
  have long : ¬raw.length < EnvelopeHeader.size := by
    rw [framed.spelt, List.length_append, start]
    omega
  have wire :
      raw.drop EnvelopeHeader.size = packedOffset envelope.offset ++ envelope.payload := by
    rw [framed.spelt, List.drop_left' start]
  have limit := framed.limit
  have inRange := framed.offset
  have known := flags_known envelope
  have hasOffset := flags_hasOffset envelope
  have endOfBody := flags_endOfBody envelope
  have identified := uuid.ofBytes_bytes
  rcases header_fields envelope uuid
      (packedOffset envelope.offset ++ envelope.payload).length with
    ⟨magic, version, idLength, kind, flags, rawId, payloadLength⟩
  rw [← unpacked] at magic version idLength kind flags rawId payloadLength
  clear framed fits start unpacked
  rw [BinaryEnvelope.decode, if_neg long]
  dsimp only
  generalize EnvelopeHeader.unpack raw = fields at *
  generalize raw.drop EnvelopeHeader.size = wirePayload at *
  rw [if_neg (not_not_intro magic), if_neg (not_not_intro version),
    if_neg (not_not_intro idLength), kind, BinaryKind.ofCode_code, flags, payloadLength,
    rawId]
  dsimp only
  rw [if_neg (not_not_intro known), endOfBody, identified]
  rw [wire]
  cases given : envelope.offset with
  | none =>
      have unflagged : ¬envelope.flags &&& hasOffsetFlag ≠ 0 := by simp [hasOffset, given]
      simp only [if_neg unflagged, packedOffset, List.nil_append]
      rw [if_neg (by omega), if_neg (not_not_intro rfl),
        if_neg (fun both => unflagged both.1),
        if_neg (by omega)]
  | some offset =>
      have flagged : envelope.flags &&& hasOffsetFlag ≠ 0 := by simp [hasOffset, given]
      have eight : (packedOffset (some offset)).length = 8 := length_toBytes 8 offset.toNat
      have fits : 0 ≤ offset ∧ offset < 256 ^ 8 := inRange offset given
      have read : (fromBytes (packedOffset (some offset)) : Int) = offset := by
        rw [packedOffset, fromBytes_toBytes (by omega)]
        omega
      have whole : (packedOffset (some offset) ++ envelope.payload).length =
          8 + envelope.payload.length := by rw [List.length_append, eight]
      simp only [if_pos flagged, List.drop_left' eight, List.take_left' eight, read]
      rw [if_neg (by omega), if_neg (not_not_intro rfl), if_neg (by omega),
        if_neg (by omega)]

theorem packedOffset_fromBytes (wire : Bytes) (long : 8 ≤ wire.length) :
    packedOffset (some (fromBytes (wire.take 8))) = wire.take 8 := by
  have eight : (wire.take 8).length = 8 := by
    rw [List.length_take]
    omega
  have spelt := toBytes_fromBytes (wire.take 8)
  rw [eight] at spelt
  rw [packedOffset, Int.toNat_natCast, spelt]

theorem header_eq {fields : EnvelopeHeader} {kind : BinaryKind} (payload : Bytes)
    (offset : Option Int) (fits : fields.Fits) (magic : fields.magic = binaryMagic)
    (version : fields.version = binaryEnvelopeVersion)
    (idLength : fields.idLength = uuidBytes)
    (isKind : BinaryKind.ofCode fields.kind = some kind)
    (known : fields.flags &&& (0xff ^^^ (endOfBodyFlag ||| hasOffsetFlag)) = 0)
    (isUuid : Uuid.ofBytes fields.rawId = some uuid)
    (given : offset.isSome = true ↔ fields.flags &&& hasOffsetFlag ≠ 0) :
    header ⟨uuid.str, kind, payload, fields.flags &&& endOfBodyFlag ≠ 0, offset⟩ uuid
      fields.payloadLength = fields := by
  have byte := flags_spelt fields.flags (by simpa using fits.flags) known
  rcases fields with ⟨_, _, code, _, rawId, flags, payloadLength⟩
  dsimp only at magic version idLength isKind isUuid given byte
  subst magic version idLength
  rw [← BinaryKind.code_ofCode isKind, ← Uuid.bytes_ofBytes isUuid]
  simp only [header, BinaryEnvelope.flags, decide_eq_true_eq, given, byte]

theorem framed_of_header {fields : EnvelopeHeader} {wire : Bytes} (fits : fields.Fits)
    (written : envelope.header uuid fields.payloadLength = fields)
    (sameLength : wire.length = fields.payloadLength)
    (front : packedOffset envelope.offset ++ envelope.payload = wire)
    (inRange : ∀ offset ∈ envelope.offset, 0 ≤ offset ∧ offset < 256 ^ 8)
    (limit : (envelope.payload.length : Int) ≤ maxPayload)
    (spelt : fields.bytes ++ wire = raw) : envelope.Framed uuid maxPayload raw where
  limit := limit
  offset := inRange
  size := by
    rw [front, sameLength]
    exact fits.payloadLength
  spelt := by rw [front, sameLength, written, spelt]

theorem check_eq_ok {check : Prop} [Decidable check] {error : EnvelopeError}
    {rest : Except EnvelopeError α} {value : α} :
    (if check then .error error else rest) = .ok value ↔ ¬check ∧ rest = .ok value := by
  split
  · rename_i failed
    exact ⟨nofun, fun passed => absurd failed passed.1⟩
  · rename_i passed
    exact (and_iff_right passed).symm

theorem framed_of_decode (decoded : BinaryEnvelope.decode raw maxPayload = .ok envelope) :
    ∃ uuid, envelope.requestId = uuid.str ∧ envelope.Framed uuid maxPayload raw := by
  unfold BinaryEnvelope.decode at decoded
  rcases check_eq_ok.mp decoded with ⟨long, decoded⟩
  dsimp only at decoded
  have fits : (EnvelopeHeader.unpack raw).Fits := EnvelopeHeader.fits_unpack (by omega)
  have packed : (EnvelopeHeader.unpack raw).bytes = raw.take EnvelopeHeader.size :=
    EnvelopeHeader.bytes_unpack (by omega)
  have spelt := List.take_append_drop EnvelopeHeader.size raw
  rw [← packed] at spelt
  generalize EnvelopeHeader.unpack raw = fields at *
  generalize raw.drop EnvelopeHeader.size = wire at *
  rcases check_eq_ok.mp decoded with ⟨magic, decoded⟩
  rcases check_eq_ok.mp decoded with ⟨version, decoded⟩
  rcases check_eq_ok.mp decoded with ⟨idLength, decoded⟩
  cases isKind : BinaryKind.ofCode fields.kind with
  | none =>
      rw [isKind] at decoded
      cases decoded
  | some kind =>
      rw [isKind] at decoded
      dsimp only at decoded
      rcases check_eq_ok.mp decoded with ⟨known, decoded⟩
      rcases check_eq_ok.mp decoded with ⟨_, decoded⟩
      rcases check_eq_ok.mp decoded with ⟨sameLength, decoded⟩
      rcases check_eq_ok.mp decoded with ⟨longEnough, decoded⟩
      rcases check_eq_ok.mp decoded with ⟨limit, decoded⟩
      cases isUuid : Uuid.ofBytes fields.rawId with
      | none =>
          rw [isUuid] at decoded
          cases decoded
      | some uuid =>
          rw [isUuid] at decoded
          have isEnvelope := Except.ok.inj decoded
          subst isEnvelope
          refine ⟨uuid, rfl, ?_⟩
          by_cases flagged : fields.flags &&& hasOffsetFlag ≠ 0
          · have eight : 8 ≤ wire.length := by
              have enough := not_and.mp longEnough flagged
              omega
            have front :
                packedOffset (some (fromBytes (wire.take 8))) ++ wire.drop 8 = wire := by
              rw [packedOffset_fromBytes wire eight, List.take_append_drop]
            have small := fromBytes_lt (wire.take 8)
            rw [List.length_take, Nat.min_eq_left eight] at small
            have written := header_eq (wire.drop 8) (some (fromBytes (wire.take 8))) fits
              (not_not.mp magic) (not_not.mp version) (not_not.mp idLength) isKind
              (not_not.mp known) isUuid (iff_of_true Option.isSome_some flagged)
            rw [if_pos flagged] at limit
            rw [if_pos flagged, if_pos flagged]
            apply framed_of_header fits written (not_not.mp sameLength) front _
              (Int.not_lt.mp limit) spelt
            intro offset given
            obtain rfl := Option.some.inj given
            exact ⟨Int.natCast_nonneg _, by exact_mod_cast small⟩
          · have written :=
              header_eq wire none fits (not_not.mp magic) (not_not.mp version)
                (not_not.mp idLength) isKind (not_not.mp known) isUuid
                (iff_of_false nofun flagged)
            rw [if_neg flagged] at limit
            rw [if_neg flagged, if_neg flagged]
            exact framed_of_header fits written (not_not.mp sameLength) rfl nofun
              (Int.not_lt.mp limit) spelt

theorem decode_encode (encoded : envelope.encode unicode maxPayload = .ok raw) :
    ∃ uuid, Uuid.ofText unicode envelope.requestId = some uuid ∧
      decode raw maxPayload = .ok { envelope with requestId := uuid.str } := by
  rcases encode_eq_ok.mp encoded with ⟨uuid, read, framed⟩
  exact ⟨uuid, read, framed.decode⟩

theorem Framed.mono {larger : Int} (framed : envelope.Framed uuid maxPayload raw)
    (le : maxPayload ≤ larger) : envelope.Framed uuid larger raw where
  limit := Int.le_trans framed.limit le
  offset := framed.offset
  size := framed.size
  spelt := framed.spelt

theorem decode_eq_of_encode {limit : Int} {received : BinaryEnvelope}
    (encoded : envelope.encode unicode maxPayload = .ok raw)
    (decoded : BinaryEnvelope.decode raw limit = .ok received) :
    ∃ uuid, Uuid.ofText unicode envelope.requestId = some uuid ∧
      received = { envelope with requestId := uuid.str } := by
  rcases encode_eq_ok.mp encoded with ⟨uuid, read, sent⟩
  rcases framed_of_decode decoded with ⟨other, canonical, got⟩
  have sentDecoded := (sent.mono (Int.le_max_left maxPayload limit)).decode
  have gotDecoded := (got.mono (Int.le_max_right maxPayload limit)).decode
  rw [sentDecoded, ← canonical] at gotDecoded
  exact ⟨uuid, read, (Except.ok.inj gotDecoded).symm⟩

theorem encode_decode (unicode : UnicodeData)
    (decoded : decode raw maxPayload = .ok envelope) :
    envelope.encode unicode maxPayload = .ok raw := by
  rcases framed_of_decode decoded with ⟨uuid, canonical, framed⟩
  apply encode_eq_ok.mpr
  refine ⟨uuid, ?_, framed⟩
  rw [canonical]
  exact Uuid.ofText_str unicode uuid

theorem check_error {check : Prop} [Decidable check] {message : String}
    {rest : Except EnvelopeError α} {error : EnvelopeError}
    (later : rest = .error error → ∃ message, error = .protocol message)
    (refused : (if check then .error (.protocol message) else rest) = .error error) :
    ∃ message, error = .protocol message := by
  split at refused
  · exact ⟨message, (Except.error.inj refused).symm⟩
  · exact later refused

theorem decode_error {error : EnvelopeError}
    (refused : decode raw maxPayload = .error error) :
    ∃ message, error = .protocol message := by
  revert refused
  unfold decode
  split
  · intro refused
    exact ⟨_, (Except.error.inj refused).symm⟩
  rename_i long
  dsimp only
  have sixteen : (EnvelopeHeader.unpack raw).rawId.length = 16 :=
    (EnvelopeHeader.fits_unpack (by omega)).rawId
  generalize EnvelopeHeader.unpack raw = fields at *
  apply check_error -- the magic
  apply check_error -- the version
  apply check_error -- the length of the id
  cases BinaryKind.ofCode fields.kind with
  | none =>
      intro refused
      exact ⟨_, (Except.error.inj refused).symm⟩
  | some kind =>
      apply check_error -- the flags
      apply check_error -- the payload with its offset
      apply check_error -- its length on the wire
      apply check_error -- the offset
      apply check_error -- the payload
      intro refused
      have isUuid : Uuid.ofBytes fields.rawId = some _ := dif_pos sixteen
      rw [isUuid] at refused
      cases refused

theorem encode_of_fits (read : Uuid.ofText unicode envelope.requestId = some uuid)
    (limit : (envelope.payload.length : Int) ≤ maxPayload)
    (short : envelope.payload.length < 2 ^ 32 - 8)
    (inRange : ∀ offset ∈ envelope.offset, 0 ≤ offset ∧ offset < 2 ^ 64) :
    ∃ raw, envelope.encode unicode maxPayload = .ok raw := by
  have size : (packedOffset envelope.offset ++ envelope.payload).length < 256 ^ 4 := by
    have packed := length_packedOffset envelope.offset
    rw [List.length_append]
    split at packed <;> omega
  exact ⟨_, encode_eq_ok.mpr ⟨uuid, read, limit, inRange, size, rfl⟩⟩

/-- Encoding and decoding undo each other, for every limit of the payload. -/
theorem encode_decode_inverse (unicode : UnicodeData) (maxPayload : Int) :
    (∀ (envelope : BinaryEnvelope) (uuid : Uuid),
      Uuid.ofText unicode envelope.requestId = some uuid →
      (envelope.payload.length : Int) ≤ maxPayload →
      envelope.payload.length < 2 ^ 32 - 8 →
      (∀ offset ∈ envelope.offset, 0 ≤ offset ∧ offset < 2 ^ 64) →
      ∃ raw, envelope.encode unicode maxPayload = .ok raw ∧
        decode raw maxPayload = .ok { envelope with requestId := uuid.str }) ∧
    (∀ raw, (∃ message, decode raw maxPayload = .error (.protocol message)) ∨
      ∃ envelope, decode raw maxPayload = .ok envelope ∧
        envelope.encode unicode maxPayload = .ok raw) ∧
    ∀ raw, (∃ envelope, decode raw maxPayload = .ok envelope) ↔
      ∃ envelope : BinaryEnvelope, envelope.encode unicode maxPayload = .ok raw := by
  refine ⟨?_, ?_, ?_⟩
  · intro envelope uuid read limit short inRange
    rcases encode_of_fits read limit short inRange with ⟨raw, encoded⟩
    rcases decode_encode encoded with ⟨other, isOther, decoded⟩
    rw [read] at isOther
    cases isOther
    exact ⟨raw, encoded, decoded⟩
  · intro raw
    cases decoded : decode raw maxPayload with
    | error error =>
        rcases decode_error decoded with ⟨message, rfl⟩
        exact .inl ⟨message, rfl⟩
    | ok envelope => exact .inr ⟨envelope, rfl, encode_decode unicode decoded⟩
  · intro raw
    constructor
    · rintro ⟨envelope, decoded⟩
      exact ⟨envelope, encode_decode unicode decoded⟩
    · rintro ⟨envelope, encoded⟩
      rcases decode_encode encoded with ⟨uuid, _, decoded⟩
      exact ⟨_, decoded⟩

end BinaryEnvelope

end YrSandbox.Tunnel
