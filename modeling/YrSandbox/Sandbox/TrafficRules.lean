import YrSandbox.Python.Ipaddress
import YrSandbox.Sandbox.NetworkPolicy

/-! # Traffic and DNS rules

`PortRange`, `NetworkRule`, `TrafficPolicy`, `DNSRule` and `DNSPolicy` with the checks of
their `__post_init__`. A value of one of these types has passed them. -/

namespace YrSandbox.Network

open Python Python.Ipaddress

/-! ## Choices -/

def networkActions : List Text := ["allow".toList, "deny".toList]

def networkDirections : List Text := ["both".toList, "egress".toList, "ingress".toList]

def networkProtocols : List Text :=
  ["any".toList, "icmp".toList, "tcp".toList, "udp".toList]

def trafficPolicyModes : List Text := ["stateful".toList, "stateless".toList]

def maxTrafficRules : Nat := 256

def maxUserRulePriority : Int := 2 ^ 32 - 2

/-- One of the allowed texts, which are listed as `sorted` does. -/
abbrev Choice (allowed : List Text) := { text : Text // text ∈ allowed }

def normalizeChoice (library : DomainLibrary) (name : String) (allowed : List Text) :
    Argument Text → Except PolicyError (Choice allowed)
  | .other => .error (.typeError (name ++ " must be a string").toList)
  | .given value =>
      let normalized := library.lower (strip value)
      if isAllowed : normalized ∈ allowed then .ok ⟨normalized, isAllowed⟩
      else
        .error (.valueError ((name ++ " must be one of: ").toList ++
          ", ".toList.intercalate allowed))

/-! ## Addresses and ports -/

abbrev Cidr := { text : Text // ∃ block, text = networkText block }

def normalizeCidr (library : DomainLibrary) : Argument Text → Except PolicyError Cidr
  | .other => .error (.valueError "cidr must be a non-empty IPv4 address or CIDR".toList)
  | .given value =>
      if strip value = [] then
        .error (.valueError "cidr must be a non-empty IPv4 address or CIDR".toList)
      else
        match ipNetwork (strip value) with
        | none =>
            .error (.valueError
              ("invalid IPv4 address or CIDR: ".toList ++ library.repr value))
        | some network => .ok ⟨networkText network, network, rfl⟩

theorem noSpace_of_isDigit {char : Char} (digit : char.isDigit = true) :
    isSpace char = false := by
  have ascii : isAscii char = true := by
    have bounds := Char.isDigit_iff_toNat.mp digit
    have nine : '9'.toNat = 57 := rfl
    exact decide_eq_true (by omega)
  exact forall_ascii (fun char => char.isDigit = true → isSpace char = false) (by decide)
    ascii digit

theorem strip_address {number : Nat} {mask : Text}
    (plain : ∀ char ∈ mask, char.isDigit = true ∨ char = '.') :
    strip (addressText number ++ '/' :: mask) = addressText number ++ '/' :: mask := by
  have noSpace {char : Char} (kind : char.isDigit = true ∨ char = '.') :
      isSpace char = false := by
    rcases kind with digit | rfl
    · exact noSpace_of_isDigit digit
    · decide
  apply strip_eq_self
  intro char member
  rcases List.mem_append.mp member with inAddress | inMask
  · exact noSpace (mem_addressText inAddress)
  · rcases List.mem_cons.mp inMask with rfl | inside
    · decide
    · exact noSpace (plain char inside)

theorem isDigit_of_mem_toDigits (length : PrefixLength) {char : Char}
    (member : char ∈ Nat.toDigits 10 length) : char.isDigit = true := by
  have bound : length.val < 256 := Nat.lt_of_le_of_lt length.property (by decide)
  exact List.all_eq_true.mp (isDigit_toDigits ⟨length.val, bound⟩) char member

theorem normalizeCidr_eq (library : DomainLibrary) {value : Text}
    {block : AlignedBlock 32} (reads : ipNetwork (strip value) = some block) :
    normalizeCidr library (.given value) = .ok ⟨networkText block, block, rfl⟩ := by
  have given : strip value ≠ [] := by
    intro empty
    rw [empty] at reads
    cases reads
  rw [normalizeCidr]
  simp only [given, if_false, reads]

theorem ipNetwork_of_normalizeCidr {library : DomainLibrary} {value : Text}
    {cidr : Cidr}
    (normalized : normalizeCidr library (.given value) = .ok cidr) :
    ∃ block, ipNetwork (strip value) = some block ∧ cidr.val = networkText block := by
  cases reads : ipNetwork (strip value) with
  | some block =>
      rw [normalizeCidr_eq library reads] at normalized
      cases normalized
      exact ⟨block, rfl, rfl⟩
  | none =>
      rw [normalizeCidr] at normalized
      split at normalized
      · cases normalized
      · rw [reads] at normalized
        cases normalized

theorem normalizeCidr_networkText (library : DomainLibrary) (block : AlignedBlock 32) :
    normalizeCidr library (.given (networkText block)) =
      .ok ⟨networkText block, block, rfl⟩ := by
  apply normalizeCidr_eq
  have stripped : strip (networkText block) = networkText block :=
    strip_address fun char member =>
      .inl (isDigit_of_mem_toDigits ⟨block.length, block.short⟩ member)
  rw [stripped, ipNetwork_networkText]

theorem normalizeCidr_self (library : DomainLibrary) (cidr : Cidr) :
    normalizeCidr library (.given cidr.val) = .ok cidr := by
  rcases cidr with ⟨text, block, rfl⟩
  exact normalizeCidr_networkText library block

theorem normalizeCidr_spelt (library : DomainLibrary) (address : Address)
    (length : PrefixLength) {mask : Text}
    (spelt : mask = Nat.toDigits 10 length ∨ mask = addressText (ipIntFromPrefix length) ∨
      0 < length.val ∧ length.val < 32 ∧ mask = addressText (hostmask length)) :
    normalizeCidr library (.given (addressText address ++ '/' :: mask)) =
      .ok ⟨networkText (network address length), _, rfl⟩ := by
  have plain : ∀ char ∈ mask, char.isDigit = true ∨ char = '.' := by
    intro char member
    rcases spelt with rfl | rfl | ⟨-, -, rfl⟩
    · exact .inl (isDigit_of_mem_toDigits length member)
    · exact mem_addressText member
    · exact mem_addressText member
  apply normalizeCidr_eq
  rw [strip_address plain]
  exact ipNetwork_spelt address length spelt

/-- An address with its prefix spelt as a length, a netmask or a hostmask is normalized to
one text, for the addresses that begin like it. Two values are normalized to the same text
exactly if they are read as the same addresses, and what is normalized stays as it is. -/
theorem normalizeCidr_canonical (library : DomainLibrary) :
    (∀ (address : Address) (length : PrefixLength) (mask : Text),
      (mask = Nat.toDigits 10 length ∨ mask = addressText (ipIntFromPrefix length) ∨
        0 < length.val ∧ length.val < 32 ∧ mask = addressText (hostmask length)) →
      ∃ block : AlignedBlock 32,
        normalizeCidr library (.given (addressText address ++ '/' :: mask)) =
          .ok ⟨networkText block, block, rfl⟩ ∧
        ∀ other, other ∈ block.members ↔
          other / 2 ^ (32 - length.val) = address.val / 2 ^ (32 - length.val)) ∧
    ∀ (left right : Text) (cidr other : Cidr),
      normalizeCidr library (.given left) = .ok cidr →
      normalizeCidr library (.given right) = .ok other →
      ∃ block otherBlock : AlignedBlock 32,
        ipNetwork (strip left) = some block ∧ ipNetwork (strip right) = some otherBlock ∧
        (cidr.val = other.val ↔ block.members = otherBlock.members) ∧
        normalizeCidr library (.given cidr.val) = .ok cidr := by
  constructor
  · intro address length mask spelt
    refine ⟨network address length, normalizeCidr_spelt library address length spelt, ?_⟩
    rw [network_eq_containing]
    exact AlignedBlock.mem_containing_iff _ _
  · intro left right cidr other normalized otherNormalized
    rcases ipNetwork_of_normalizeCidr normalized with ⟨block, reads, text⟩
    rcases ipNetwork_of_normalizeCidr otherNormalized with ⟨otherBlock, otherReads, otherText⟩
    refine ⟨block, otherBlock, reads, otherReads, ?_, normalizeCidr_self library cidr⟩
    rw [text, otherText]
    constructor
    · intro same
      have blocks := congrArg ipNetwork same
      rw [ipNetwork_networkText, ipNetwork_networkText] at blocks
      rw [Option.some.inj blocks]
    · intro same
      rw [AlignedBlock.members_injective same]

/-- The networks of 10.1.2.3 and 10.1.9.9 with 16 bits. -/
theorem normalizeCidr_canonical_private :
    ∃ block otherBlock : AlignedBlock 32,
      ipNetwork "10.1.2.3/16".toList = some block ∧
      ipNetwork "10.1.9.9/255.255.0.0".toList = some otherBlock ∧
      block.members = otherBlock.members := by
  rcases (normalizeCidr_canonical asciiLibrary).2 "10.1.2.3/16".toList
    "10.1.9.9/255.255.0.0".toList
    ⟨_, ⟨10 * 2 ^ 24 + 2 ^ 16, 16, by decide, by decide, by decide⟩, rfl⟩
    ⟨_, ⟨10 * 2 ^ 24 + 2 ^ 16, 16, by decide, by decide, by decide⟩, rfl⟩
    (by rfl) (by rfl) with ⟨block, otherBlock, reads, otherReads, same, -⟩
  exact ⟨block, otherBlock, reads, otherReads, same.mp rfl⟩

structure PortRange where
  first : Int
  last : Int
  firstBounds : 1 ≤ first ∧ first ≤ 65535
  lastBounds : 1 ≤ last ∧ last ≤ 65535
  ordered : first ≤ last
deriving DecidableEq, Repr

def portInRange (name : String) :
    Argument Int → Except PolicyError { value : Int // 1 ≤ value ∧ value ≤ 65535 }
  | .other => .error (.typeError ("port range " ++ name ++ " must be an integer").toList)
  | .given value =>
      if inRange : 1 ≤ value ∧ value ≤ 65535 then .ok ⟨value, inRange⟩
      else .error (.valueError ("port range " ++ name ++ " must be in 1..65535").toList)

/-- `PortRange(first, last)` -/
def PortRange.create (first : Argument Int) (last : Option (Argument Int)) :
    Except PolicyError PortRange := do
  let ⟨first', firstBounds⟩ ← portInRange "first" first
  let ⟨last', lastBounds⟩ ← portInRange "last" (last.getD first)
  if ordered : first' ≤ last' then
    return ⟨first', last', firstBounds, lastBounds, ordered⟩
  else throw (.valueError "port range first must not exceed last".toList)

inductive PortArgument
  | range (range : PortRange)
  | port (port : Int)
  | other

def normalizePortRange (name : String) :
    Option PortArgument → Except PolicyError (Option PortRange)
  | none => .ok none
  | some (.range range) => .ok (some range)
  | some (.port port) => (PortRange.create (.given port) none).map some
  | some .other =>
      .error (.typeError (name ++ " must be an integer, PortRange, or None").toList)

/-! ## Rules -/

abbrev DomainPattern := { text : Text // IsName (removePrefix wildcardPrefix text) }

structure NetworkRule where
  action : Choice networkActions
  direction : Choice networkDirections
  protocol : Choice networkProtocols
  cidr : Option Cidr
  domain : Option DomainPattern
  portRange : Option PortRange
  sandboxPortRange : Option PortRange
  priority : Int
  onePeer : (cidr.isSome && domain.isSome) = false
  egressDomain : domain.isSome = true → direction.val = "egress".toList
  portsOfProtocol : (portRange.isSome || sandboxPortRange.isSome) = true →
    protocol.val = "tcp".toList ∨ protocol.val = "udp".toList
  priorityBounds : 1 ≤ priority ∧ priority ≤ maxUserRulePriority

structure RuleArguments where
  action : Argument Text := .given "allow".toList
  direction : Argument Text := .given "egress".toList
  protocol : Argument Text := .given "any".toList
  cidr : Option (Argument Text) := none
  domain : Option (Argument Text) := none
  portRange : Option PortArgument := none
  sandboxPortRange : Option PortArgument := none
  priority : Argument Int := .given 100

theorem isName_of_accepted {name : Text} (short : name.length ≤ 253)
    (accepted : (name.splitOn '.').any rejectsLabel = false) : IsName name := by
  have areLabels : ∀ label ∈ name.splitOn '.', IsLabel label := by
    intro label member
    have isAccepted := List.any_eq_false.mp accepted label member
    exact rejectsLabel_iff.mp (by simpa using isAccepted)
  have nonempty : name ≠ [] := by
    rintro rfl
    exact absurd accepted (by decide)
  exact ⟨⟨List.length_pos_of_ne_nil nonempty, short⟩, name.splitOn '.',
    (List.intercalate_splitOn '.').symm, areLabels⟩

theorem removePrefix_wildcard {name : Text} (isName : IsName name) (wildcard : Bool) :
    removePrefix wildcardPrefix (if wildcard then wildcardPrefix ++ name else name) =
      name := by
  cases wildcard with
  | true =>
      have starts : wildcardPrefix.isPrefixOf (wildcardPrefix ++ name) = true :=
        List.isPrefixOf_iff_prefix.mpr (List.prefix_append _ _)
      simp only [if_true]
      rw [removePrefix, if_pos starts]
      rfl
  | false =>
      have other : wildcardPrefix.isPrefixOf name = false := by
        rw [← Bool.not_eq_true, List.isPrefixOf_iff_prefix]
        rintro ⟨rest, rfl⟩
        rcases isPatternChar_of_isName isName (List.mem_cons_self ..) with isLabel | dot
        · exact absurd isLabel (by decide)
        · exact absurd dot (by decide)
      simp only [Bool.false_eq_true, if_false]
      rw [removePrefix, if_neg (by simp [other])]

theorem isName_of_normalizeText {library : DomainLibrary} {pattern description value : Text}
    (normalized : normalizeText library pattern description = .ok value) :
    IsName (removePrefix wildcardPrefix value) := by
  unfold normalizeText at normalized
  dsimp only at normalized
  generalize wildcardPrefix.isPrefixOf (withoutFinalDot (library.lower (strip pattern))) =
    wildcard at normalized
  generalize (if wildcard then
    (withoutFinalDot (library.lower (strip pattern))).drop 2
      else withoutFinalDot (library.lower (strip pattern))) = rest at normalized
  split at normalized
  · cases normalized
  · cases isEncoded : encoded library rest with
    | none =>
        rw [isEncoded] at normalized
        cases normalized
    | some name =>
        rw [isEncoded] at normalized
        dsimp only at normalized
        split at normalized
        · cases normalized
        · rename_i short
          split at normalized
          · cases normalized
          · rename_i accepted
            have isName := isName_of_accepted (Nat.not_lt.mp short)
              (Bool.eq_false_of_not_eq_true accepted)
            have same := Except.ok.inj normalized
            rw [← same, removePrefix_wildcard isName]
            exact isName

/-- `_normalize_domain_pattern`, with what it makes sure of. -/
def checkedPattern (library : DomainLibrary) (pattern : Argument Text)
    (description : String) : Except PolicyError DomainPattern :=
  match pattern with
  | .other => .error (notStrings description.toList)
  | .given pattern =>
      match normalized : normalizeText library pattern description.toList with
      | .error error => .error error
      | .ok value => .ok ⟨value, isName_of_normalizeText normalized⟩

theorem checkedPattern_map (library : DomainLibrary) (pattern : Argument Text)
    (description : String) :
    (checkedPattern library pattern description).map Subtype.val =
      normalizeDomainPattern library pattern description.toList := by
  cases pattern with
  | other => rfl
  | given pattern =>
      rw [checkedPattern, normalizeDomainPattern]
      split <;> rename_i normalized <;> exact normalized.symm

def optional {α β : Type} (check : α → Except PolicyError β) :
    Option α → Except PolicyError (Option β)
  | none => .ok none
  | some value => (check value).map some

def peerTwice : PolicyError :=
  .valueError "cidr and domain cannot be combined in one rule".toList

def domainOfIngress : PolicyError :=
  .valueError "domain rules are valid only for egress".toList

def portsWithoutProtocol : PolicyError :=
  .valueError "port ranges require protocol='tcp' or 'udp'".toList

def priorityRange : PolicyError :=
  .valueError ("priority must be in 1..".toList ++ (toString maxUserRulePriority).toList)

/-- The last checks of `NetworkRule.__post_init__`. -/
def NetworkRule.ofChecked (action : Choice networkActions)
    (direction : Choice networkDirections) (protocol : Choice networkProtocols)
    (cidr : Option Cidr) (domain : Option DomainPattern)
    (onePeer : (cidr.isSome && domain.isSome) = false)
    (egressDomain : domain.isSome = true → direction.val = "egress".toList)
    (portRange sandboxPortRange : Option PortRange) (priority : Argument Int) :
    Except PolicyError NetworkRule :=
  if portsOfProtocol : (portRange.isSome || sandboxPortRange.isSome) = true →
      protocol.val = "tcp".toList ∨ protocol.val = "udp".toList then
    match priority with
    | .other => .error (.typeError "priority must be an integer".toList)
    | .given priority =>
        if priorityBounds : 1 ≤ priority ∧ priority ≤ maxUserRulePriority then .ok {
          action, direction, protocol, cidr, domain, portRange, sandboxPortRange, priority
          onePeer, egressDomain, portsOfProtocol, priorityBounds }
        else .error priorityRange
  else .error portsWithoutProtocol

/-- `NetworkRule(...)`, with `__post_init__` -/
def NetworkRule.create (library : DomainLibrary) (arguments : RuleArguments) :
    Except PolicyError NetworkRule := do
  let action ← normalizeChoice library "action" networkActions arguments.action
  let direction ←
    normalizeChoice library "direction" networkDirections arguments.direction
  let protocol ← normalizeChoice library "protocol" networkProtocols arguments.protocol
  if arguments.cidr.isSome && arguments.domain.isSome then throw peerTwice
  let cidr ← optional (normalizeCidr library) arguments.cidr
  let domain ← optional (checkedPattern library · "domain") arguments.domain
  if onePeer : (cidr.isSome && domain.isSome) = false then
    if egressDomain : domain.isSome = true → direction.val = "egress".toList then
      let portRange ← normalizePortRange "port_range" arguments.portRange
      let sandboxPortRange ←
        normalizePortRange "sandbox_port_range" arguments.sandboxPortRange
      ofChecked action direction protocol cidr domain onePeer egressDomain portRange
        sandboxPortRange arguments.priority
    else throw domainOfIngress
  else throw peerTwice -- both are given, which has been ruled out

inductive RulesArgument (Rule : Type)
  | text
  | bytes
  | sequence (items : List (Argument Rule))
  | scalar (typeName : Text)

def allGiven {Rule : Type} : List (Argument Rule) → Option (List Rule)
  | [] => some []
  | .given rule :: items => (allGiven items).map (rule :: ·)
  | .other :: _ => none

/-- `tuple(self.rules)`, which is not text and not a number. -/
def ruleItems {Rule : Type} (kind : String) :
    RulesArgument Rule → Except PolicyError (List (Argument Rule))
  | .text | .bytes =>
      .error (.typeError ("rules must be a sequence of " ++ kind ++ " values").toList)
  | .scalar typeName => .error (.typeError (NetworkPolicy.notIterable typeName))
  | .sequence items => .ok items

/-- `rules must contain only ...` -/
def onlyRules {Rule : Type} (kind : String) (items : List (Argument Rule)) :
    Except PolicyError (List Rule) :=
  match allGiven items with
  | some rules => .ok rules
  | none =>
      .error (.typeError ("rules must contain only " ++ kind ++ " values").toList)

structure TrafficPolicy where
  ingressDefaultAction : Choice networkActions
  egressDefaultAction : Choice networkActions
  rules : List NetworkRule
  mode : Choice trafficPolicyModes
  fewRules : rules.length ≤ maxTrafficRules

structure TrafficArguments where
  ingressDefaultAction : Argument Text := .given "allow".toList
  egressDefaultAction : Argument Text := .given "allow".toList
  rules : RulesArgument NetworkRule := .sequence []
  mode : Argument Text := .given "stateful".toList

def tooManyRules : PolicyError :=
  .valueError ("traffic policies support at most ".toList ++
    (toString maxTrafficRules).toList ++ " rules".toList)

/-- `TrafficPolicy(...)`, with `__post_init__` -/
def TrafficPolicy.create (library : DomainLibrary) (arguments : TrafficArguments) :
    Except PolicyError TrafficPolicy := do
  let ingress ← normalizeChoice library "ingress_default_action" networkActions
    arguments.ingressDefaultAction
  let egress ← normalizeChoice library "egress_default_action" networkActions
    arguments.egressDefaultAction
  let mode ← normalizeChoice library "mode" trafficPolicyModes arguments.mode
  let items ← ruleItems "NetworkRule" arguments.rules
  if items.length > maxTrafficRules then throw tooManyRules
  let rules ← onlyRules "NetworkRule" items
  if fewRules : rules.length ≤ maxTrafficRules then
    return ⟨ingress, egress, rules, mode, fewRules⟩
  else throw tooManyRules

structure DNSRule where
  pattern : DomainPattern
  action : Choice networkActions

structure DNSRuleArguments where
  pattern : Argument Text
  action : Argument Text := .given "deny".toList

/-- `DNSRule(...)`, with `__post_init__` -/
def DNSRule.create (library : DomainLibrary) (arguments : DNSRuleArguments) :
    Except PolicyError DNSRule := do
  let action ← normalizeChoice library "action" networkActions arguments.action
  let pattern ← checkedPattern library arguments.pattern "DNS"
  return ⟨pattern, action⟩

structure DNSPolicy where
  defaultAction : Choice networkActions
  rules : List DNSRule

structure DNSArguments where
  defaultAction : Argument Text := .given "allow".toList
  rules : RulesArgument DNSRule := .sequence []

/-- `DNSPolicy(...)`, with `__post_init__` -/
def DNSPolicy.create (library : DomainLibrary) (arguments : DNSArguments) :
    Except PolicyError DNSPolicy := do
  let default ← normalizeChoice library "default_action" networkActions
    arguments.defaultAction
  let items ← ruleItems "DNSRule" arguments.rules
  let rules ← onlyRules "DNSRule" items
  return ⟨default, rules⟩

end YrSandbox.Network
