import YrSandbox.Python.Json
import YrSandbox.Sandbox.TrafficRules

/-! # Network policies as they are sent

`to_dict` of a policy and of its parts: what is sent determines the policy. Values that
are created once more from their own fields are the same, so copies agree with them. -/

namespace YrSandbox.Network

open Python Python.Ipaddress

/-! ## Encoding -/

def textJson (text : Text) : Json := .str (String.ofList text)

def entry? {Value : Type} (key : String) (encode : Value → Json) (value : Option Value) :
    Dict :=
  match value with
  | none => []
  | some value => [(key, encode value)]

def PortRange.toDict (range : PortRange) : Dict :=
  [("first", .int range.first), ("last", .int range.last)]

def NetworkRule.peer (rule : NetworkRule) : Dict :=
  entry? "cidr" (fun cidr => textJson cidr.val) rule.cidr ++
    entry? "domain" (fun domain => textJson domain.val) rule.domain ++
    entry? "portRange" (fun range => .object range.toDict) rule.portRange

def NetworkRule.toDict (rule : NetworkRule) : Dict :=
  [("action", textJson rule.action.val), ("direction", textJson rule.direction.val),
    ("protocol", textJson rule.protocol.val), ("priority", .int rule.priority)] ++
    entry? "peer" Json.object (if rule.peer.isEmpty then none else some rule.peer) ++
    entry? "sandboxPortRange" (fun range => .object range.toDict) rule.sandboxPortRange

def TrafficPolicy.toDict (policy : TrafficPolicy) : Dict :=
  [("ingressDefaultAction", textJson policy.ingressDefaultAction.val),
    ("egressDefaultAction", textJson policy.egressDefaultAction.val),
    ("mode", textJson policy.mode.val),
    ("rules", .array (policy.rules.map fun rule => .object rule.toDict))]

def DNSRule.toDict (rule : DNSRule) : Dict :=
  [("action", textJson rule.action.val), ("pattern", textJson rule.pattern.val)]

def DNSPolicy.toDict (policy : DNSPolicy) : Dict :=
  [("defaultAction", textJson policy.defaultAction.val),
    ("rules", .array (policy.rules.map fun rule => .object rule.toDict))]

abbrev SandboxPolicy := NetworkPolicy TrafficPolicy DNSPolicy

namespace SandboxPolicy

def isEmpty (policy : SandboxPolicy) : Bool :=
  !policy.blockNetwork && policy.dnsBlacklist.isEmpty && policy.traffic.isNone &&
    policy.dns.isNone

def toDict (policy : SandboxPolicy) : Dict :=
  entry? "blockNetwork" Json.bool (if policy.blockNetwork then some true else none) ++
    entry? "dnsBlacklist" (fun patterns => .array (patterns.map textJson))
      (if policy.dnsBlacklist.isEmpty then none else some policy.dnsBlacklist) ++
    entry? "schemaVersion" Json.int
      (if policy.traffic.isSome || policy.dns.isSome then some 2 else none) ++
    entry? "traffic" (fun traffic => .object traffic.toDict) policy.traffic ++
    entry? "dns" (fun dns => .object dns.toDict) policy.dns

end SandboxPolicy

/-! ## What is sent determines what was encoded -/

theorem textJson_injective : Function.Injective textJson := by
  intro left right same
  exact String.ofList_inj.mp (Json.str.inj same)

theorem PortRange.toDict_injective : Function.Injective PortRange.toDict := by
  intro left right same
  rcases left with ⟨first, last, _, _, _⟩
  rcases right with ⟨otherFirst, otherLast, _, _, _⟩
  simp only [toDict, List.cons.injEq, Prod.mk.injEq, Json.int.injEq, true_and,
    and_true] at same
  rcases same with ⟨rfl, rfl⟩
  rfl

structure RuleFields where
  action : Option Json
  direction : Option Json
  protocol : Option Json
  priority : Option Json
  cidr : Option Json
  domain : Option Json
  portRange : Option Json
  sandboxPortRange : Option Json

def RuleFields.read (dict : Dict) : RuleFields :=
  let peer := ((dict.get? "peer").bind Json.asDict?).getD []
  { action := dict.get? "action"
    direction := dict.get? "direction"
    protocol := dict.get? "protocol"
    priority := dict.get? "priority"
    cidr := peer.get? "cidr"
    domain := peer.get? "domain"
    portRange := peer.get? "portRange"
    sandboxPortRange := dict.get? "sandboxPortRange" }

theorem NetworkRule.read_toDict (rule : NetworkRule) :
    RuleFields.read rule.toDict = {
      action := some (textJson rule.action.val)
      direction := some (textJson rule.direction.val)
      protocol := some (textJson rule.protocol.val)
      priority := some (.int rule.priority)
      cidr := rule.cidr.map fun cidr => textJson cidr.val
      domain := rule.domain.map fun domain => textJson domain.val
      portRange := rule.portRange.map fun range => .object range.toDict
      sandboxPortRange := rule.sandboxPortRange.map fun range => .object range.toDict } := by
  rcases rule with ⟨action, direction, protocol, cidr, domain, portRange, sandboxPortRange,
    priority, onePeer, egressDomain, portsOfProtocol, priorityBounds⟩
  cases cidr <;> cases domain <;> cases portRange <;> cases sandboxPortRange <;> rfl

theorem NetworkRule.toDict_injective : Function.Injective NetworkRule.toDict := by
  intro left right same
  have fields := (left.read_toDict.symm.trans (congrArg RuleFields.read same)).trans
    right.read_toDict
  have peerText {Found : Text → Prop} : Function.Injective
      fun value : { text : Text // Found text } => textJson value.val :=
    textJson_injective.comp Subtype.val_injective
  have ranges : Function.Injective fun range : PortRange => Json.object range.toDict :=
    fun _ _ same => PortRange.toDict_injective (Json.object.inj same)
  simp only [RuleFields.mk.injEq, Option.some.injEq, Json.int.injEq,
    (Option.map_injective peerText).eq_iff, (Option.map_injective ranges).eq_iff,
    peerText.eq_iff] at fields
  rcases left with ⟨⟩
  rcases right with ⟨⟩
  rcases fields with ⟨rfl, rfl, rfl, rfl, rfl, rfl, rfl, rfl⟩
  rfl

theorem DNSRule.toDict_injective : Function.Injective DNSRule.toDict := by
  intro left right same
  rcases left with ⟨⟨pattern, _⟩, ⟨action, _⟩⟩
  rcases right with ⟨⟨otherPattern, _⟩, ⟨otherAction, _⟩⟩
  simp only [toDict, List.cons.injEq, Prod.mk.injEq, textJson_injective.eq_iff, true_and,
    and_true] at same
  rcases same with ⟨rfl, rfl⟩
  rfl

theorem TrafficPolicy.toDict_injective : Function.Injective TrafficPolicy.toDict := by
  intro left right same
  have rules : Function.Injective fun rule : NetworkRule => Json.object rule.toDict :=
    fun _ _ same => NetworkRule.toDict_injective (Json.object.inj same)
  rcases left with ⟨⟨ingress, _⟩, ⟨egress, _⟩, list, ⟨mode, _⟩, _⟩
  rcases right with ⟨⟨otherIngress, _⟩, ⟨otherEgress, _⟩, otherList, ⟨otherMode, _⟩, _⟩
  simp only [toDict, List.cons.injEq, Prod.mk.injEq, textJson_injective.eq_iff, true_and,
    and_true, Json.array.injEq, (List.map_injective_iff.mpr rules).eq_iff] at same
  rcases same with ⟨rfl, rfl, rfl, rfl⟩
  rfl

theorem DNSPolicy.toDict_injective : Function.Injective DNSPolicy.toDict := by
  intro left right same
  have rules : Function.Injective fun rule : DNSRule => Json.object rule.toDict :=
    fun _ _ same => DNSRule.toDict_injective (Json.object.inj same)
  rcases left with ⟨⟨default, _⟩, list⟩
  rcases right with ⟨⟨otherDefault, _⟩, otherList⟩
  simp only [toDict, List.cons.injEq, Prod.mk.injEq, textJson_injective.eq_iff, true_and,
    and_true, Json.array.injEq, (List.map_injective_iff.mpr rules).eq_iff] at same
  rcases same with ⟨rfl, rfl⟩
  rfl

namespace SandboxPolicy

structure Sections where
  blockNetwork : Option Json
  dnsBlacklist : Option Json
  schemaVersion : Option Json
  traffic : Option Json
  dns : Option Json

def Sections.read (dict : Dict) : Sections where
  blockNetwork := dict.get? "blockNetwork"
  dnsBlacklist := dict.get? "dnsBlacklist"
  schemaVersion := dict.get? "schemaVersion"
  traffic := dict.get? "traffic"
  dns := dict.get? "dns"

theorem read_toDict (policy : SandboxPolicy) :
    Sections.read policy.toDict = {
      blockNetwork := if policy.blockNetwork then some (.bool true) else none
      dnsBlacklist :=
        if policy.dnsBlacklist.isEmpty then none
        else some (.array (policy.dnsBlacklist.map textJson))
      schemaVersion :=
        if policy.traffic.isSome || policy.dns.isSome then some (.int 2) else none
      traffic := policy.traffic.map fun traffic => .object traffic.toDict
      dns := policy.dns.map fun dns => .object dns.toDict } := by
  rcases policy with ⟨blockNetwork, blacklist, traffic, dns, once, separate, oneSchema⟩
  cases blockNetwork <;> cases blacklist <;> cases traffic <;> cases dns <;> rfl

theorem toDict_injective : Function.Injective toDict := by
  intro left right same
  have sections := (left.read_toDict.symm.trans (congrArg Sections.read same)).trans
    right.read_toDict
  have traffics : Function.Injective fun traffic : TrafficPolicy =>
      Json.object traffic.toDict :=
    fun _ _ same => TrafficPolicy.toDict_injective (Json.object.inj same)
  have dnses : Function.Injective fun dns : DNSPolicy => Json.object dns.toDict :=
    fun _ _ same => DNSPolicy.toDict_injective (Json.object.inj same)
  simp only [Sections.mk.injEq, (Option.map_injective traffics).eq_iff,
    (Option.map_injective dnses).eq_iff] at sections
  rcases left with ⟨blockNetwork, blacklist, traffic, dns, once, separate, oneSchema⟩
  rcases right with ⟨otherBlock, otherBlacklist, otherTraffic, otherDns, _, _, _⟩
  rcases sections with ⟨blocks, patterns, -, rfl, rfl⟩
  have sameBlock : blockNetwork = otherBlock := by
    cases blockNetwork <;> cases otherBlock <;> first | rfl | cases blocks
  have samePatterns : blacklist = otherBlacklist := by
    have texts := List.map_injective_iff.mpr textJson_injective
    cases blacklist with
    | nil => cases otherBlacklist with
      | nil => rfl
      | cons _ _ => cases patterns
    | cons _ _ => cases otherBlacklist with
      | nil => cases patterns
      | cons _ _ => exact texts (Json.array.inj (Option.some.inj patterns))
  cases sameBlock
  cases samePatterns
  rfl

theorem toDict_eq_nil_iff (policy : SandboxPolicy) :
    policy.toDict = [] ↔ isEmpty policy = true := by
  rcases policy with ⟨blockNetwork, blacklist, traffic, dns, once, separate, oneSchema⟩
  cases blockNetwork <;> cases blacklist <;> cases traffic <;> cases dns <;>
    simp [toDict, isEmpty, entry?]

/-- What is sent for a policy determines it, is empty exactly for an empty policy, and holds
either the two older keys, or the version 2 with at least one of its sections. -/
theorem toDict_determines (policy : SandboxPolicy) :
    (∀ other : SandboxPolicy, other.toDict = policy.toDict → other = policy) ∧
      (policy.toDict = [] ↔ isEmpty policy = true) ∧
      (Dict.get? policy.toDict "schemaVersion" = none ∧
          Dict.get? policy.toDict "traffic" = none ∧
          Dict.get? policy.toDict "dns" = none ∧
          (Dict.get? policy.toDict "blockNetwork" = none ∨
            Dict.get? policy.toDict "dnsBlacklist" = none) ∨
        Dict.get? policy.toDict "schemaVersion" = some (.int 2) ∧
          Dict.get? policy.toDict "blockNetwork" = none ∧
          Dict.get? policy.toDict "dnsBlacklist" = none ∧
          ((Dict.get? policy.toDict "traffic").isSome = true ∨
            (Dict.get? policy.toDict "dns").isSome = true)) := by
  refine ⟨fun other same => toDict_injective same, toDict_eq_nil_iff policy, ?_⟩
  have sections := policy.read_toDict
  simp only [Sections.read, Sections.mk.injEq] at sections
  rcases sections with ⟨isBlock, arePatterns, isVersion, isTraffic, isDns⟩
  rw [isBlock, arePatterns, isVersion, isTraffic, isDns]
  clear isBlock arePatterns isVersion isTraffic isDns
  rcases policy with ⟨blockNetwork, blacklist, traffic, dns, once, separate, oneSchema⟩
  -- the checks of the policy rule out both older keys, and an older key with a section
  cases blockNetwork <;> cases blacklist <;> cases traffic <;> cases dns <;> first
    | (simp at separate; done)
    | (simp at oneSchema; done)
    | simp

end SandboxPolicy

/-! ## Values created from their own fields -/

theorem allGiven_given {Rule : Type} (rules : List Rule) :
    allGiven (rules.map Argument.given) = some rules := by
  induction rules with
  | nil => rfl
  | cons rule rules induction => rw [List.map_cons, allGiven, induction]; rfl

section

variable {library : DomainLibrary} (documented : library.Documented)
include documented

theorem normalizeChoice_self (name : String) {allowed : List Text}
    (plain : ∀ text ∈ allowed, text.all isAscii = true ∧ strip text = text ∧
      asciiLower text = text) (choice : Choice allowed) :
    normalizeChoice library name allowed (.given choice.val) = .ok choice := by
  rcases plain choice.val choice.property with ⟨ascii, stripped, lowered⟩
  have same : library.lower (strip choice.val) = choice.val := by
    rw [stripped, documented.lower_ascii _ ascii, lowered]
  rw [normalizeChoice]
  simp only [same]
  rw [dif_pos choice.property]

theorem action_self (name : String) (choice : Choice networkActions) :
    normalizeChoice library name networkActions (.given choice.val) = .ok choice :=
  normalizeChoice_self documented name (by decide) choice

theorem checkedPattern_self (description : String) (pattern : DomainPattern) :
    checkedPattern library (.given pattern.val) description = .ok pattern := by
  have ascii : pattern.val.all isAscii = true := by
    apply List.all_eq_true.mpr
    intro char member
    exact (settled_of_isPatternChar (isPatternChar_of_mem pattern.property member)).ascii
  have same := checkedPattern_map library (.given pattern.val) description
  have normalized := (normalizeText_eq_ok_iff documented ascii description.toList
    pattern.val).mpr ⟨(folded_eq_self pattern.property).symm ▸ pattern.property,
      (folded_eq_self pattern.property).symm⟩
  rw [normalizeDomainPattern, normalized] at same
  cases checked : checkedPattern library (.given pattern.val) description with
  | error error =>
      rw [checked] at same
      cases same
  | ok value =>
      rw [checked] at same
      rw [Subtype.ext (Except.ok.inj same)]

def NetworkRule.arguments (rule : NetworkRule) : RuleArguments where
  action := .given rule.action.val
  direction := .given rule.direction.val
  protocol := .given rule.protocol.val
  cidr := rule.cidr.map fun cidr => .given cidr.val
  domain := rule.domain.map fun domain => .given domain.val
  portRange := rule.portRange.map .range
  sandboxPortRange := rule.sandboxPortRange.map .range
  priority := .given rule.priority

theorem NetworkRule.create_arguments (rule : NetworkRule) :
    create library rule.arguments = .ok rule := by
  have cidr : optional (normalizeCidr library) rule.arguments.cidr = .ok rule.cidr := by
    rw [arguments]
    cases rule.cidr with
    | none => rfl
    | some cidr => simp only [Option.map_some, optional, normalizeCidr_self, Except.map]
  have domain : optional (checkedPattern library · "domain") rule.arguments.domain =
      .ok rule.domain := by
    rw [arguments]
    cases rule.domain with
    | none => rfl
    | some domain =>
        simp only [Option.map_some, optional, checkedPattern_self documented, Except.map]
  have ports (name : String) (range : Option PortRange) :
      normalizePortRange name (range.map .range) = .ok range := by
    cases range <;> rfl
  have once : (rule.arguments.cidr.isSome && rule.arguments.domain.isSome) = false := by
    rw [← rule.onePeer]
    simp [arguments]
  have direction : normalizeChoice library "direction" networkDirections
      (.given rule.direction.val) = .ok rule.direction :=
    normalizeChoice_self documented _ (by decide) _
  have protocol : normalizeChoice library "protocol" networkProtocols
      (.given rule.protocol.val) = .ok rule.protocol :=
    normalizeChoice_self documented _ (by decide) _
  rw [create, once, cidr, domain]
  simp only [arguments, action_self documented, direction, protocol, ports, bind,
    Except.bind, Bool.false_eq_true, if_false, dif_pos rule.onePeer,
    dif_pos rule.egressDomain, ofChecked, dif_pos rule.portsOfProtocol,
    dif_pos rule.priorityBounds]

def TrafficPolicy.arguments (policy : TrafficPolicy) : TrafficArguments where
  ingressDefaultAction := .given policy.ingressDefaultAction.val
  egressDefaultAction := .given policy.egressDefaultAction.val
  rules := .sequence (policy.rules.map .given)
  mode := .given policy.mode.val

theorem TrafficPolicy.create_arguments (policy : TrafficPolicy) :
    create library policy.arguments = .ok policy := by
  have mode : normalizeChoice library "mode" trafficPolicyModes
      (.given policy.mode.val) = .ok policy.mode :=
    normalizeChoice_self documented _ (by decide) _
  have few : ¬(policy.rules.map Argument.given).length > maxTrafficRules := by
    rw [List.length_map]
    exact Nat.not_lt.mpr policy.fewRules
  rw [create]
  simp only [arguments, action_self documented, mode, ruleItems, onlyRules,
    allGiven_given, bind, Except.bind, pure, Except.pure, if_neg few,
    dif_pos policy.fewRules]

def DNSRule.arguments (rule : DNSRule) : DNSRuleArguments where
  pattern := .given rule.pattern.val
  action := .given rule.action.val

theorem DNSRule.create_arguments (rule : DNSRule) :
    create library rule.arguments = .ok rule := by
  rw [create]
  simp only [arguments, action_self documented, checkedPattern_self documented, bind,
    Except.bind, pure, Except.pure]

def DNSPolicy.arguments (policy : DNSPolicy) : DNSArguments where
  defaultAction := .given policy.defaultAction.val
  rules := .sequence (policy.rules.map .given)

theorem DNSPolicy.create_arguments (policy : DNSPolicy) :
    create library policy.arguments = .ok policy := by
  rw [create]
  simp only [arguments, action_self documented, ruleItems, onlyRules, allGiven_given, bind,
    Except.bind, pure, Except.pure]

theorem SandboxPolicy.blacklist_self {arguments : PolicyArguments TrafficPolicy DNSPolicy}
    {policy : SandboxPolicy} (created : NetworkPolicy.create library arguments = .ok policy) :
    (policy.dnsBlacklist.map Argument.given).mapM (normalizeDnsPattern library) =
      .ok policy.dnsBlacklist := by
  rcases NetworkPolicy.dnsBlacklist_create created with ⟨items, normalized, -, each, same⟩
  have settled : ∀ value ∈ policy.dnsBlacklist,
      normalizeDnsPattern library (.given value) = .ok value := by
    intro value member
    rw [same, Association.mem_fromKeys] at member
    rcases List.getElem_of_mem member with ⟨index, bound, rfl⟩
    have isNormalized := each.get (i := index) (by rw [each.length_eq]; exact bound) bound
    have isName : IsName (removePrefix wildcardPrefix normalized[index]) := by
      cases given : items.get ⟨index, by rw [each.length_eq]; exact bound⟩ with
      | other =>
          rw [given] at isNormalized
          cases isNormalized
      | given pattern =>
          rw [given] at isNormalized
          exact isName_of_normalizeText isNormalized
    have again := checkedPattern_self documented "DNS blacklist" ⟨_, isName⟩
    have mapped := checkedPattern_map library (.given normalized[index]) "DNS blacklist"
    rw [again] at mapped
    exact mapped.symm
  generalize policy.dnsBlacklist = blacklist at settled
  induction blacklist with
  | nil => rfl
  | cons value values induction =>
      rw [List.map_cons, List.mapM_cons, settled value List.mem_cons_self,
        induction fun other member => settled other (List.mem_cons_of_mem _ member)]
      rfl

end

def SandboxPolicy.arguments (policy : SandboxPolicy) :
    PolicyArguments TrafficPolicy DNSPolicy where
  blockNetwork := .given policy.blockNetwork
  dnsBlacklist := .sequence (policy.dnsBlacklist.map .given)
  traffic := policy.traffic.map .given
  dns := policy.dns.map .given

theorem SandboxPolicy.ofNormalized_self (policy : SandboxPolicy) :
    NetworkPolicy.ofNormalized policy.blockNetwork policy.dnsBlacklist
      (policy.traffic.map Argument.given) (policy.dns.map Argument.given) = .ok policy := by
  rcases policy with ⟨blockNetwork, blacklist, traffic, dns, once, separate, oneSchema⟩
  have keys := Association.fromKeys_of_nodup once
  have both : ¬(blockNetwork && !(Association.fromKeys blacklist).isEmpty) = true := by
    rw [keys, separate]
    exact Bool.false_ne_true
  have mixed : ¬((blockNetwork || !(Association.fromKeys blacklist).isEmpty) &&
      ((traffic.map Argument.given).isSome || (dns.map Argument.given).isSome)) = true := by
    rw [keys, Option.isSome_map, Option.isSome_map, oneSchema]
    exact Bool.false_ne_true
  rw [NetworkPolicy.ofNormalized]
  simp only [dif_neg both, dif_neg mixed]
  cases traffic <;> cases dns <;> simp only [Option.map_some, Option.map_none, typed, keys]

/-- Every value with checks is created again from its own fields, so a copy of it passes
the checks and is the same. -/
theorem recreates_itself {library : DomainLibrary} (documented : library.Documented) :
    (∀ rule : NetworkRule, NetworkRule.create library rule.arguments = .ok rule) ∧
      (∀ policy : TrafficPolicy,
        TrafficPolicy.create library policy.arguments = .ok policy) ∧
      (∀ rule : DNSRule, DNSRule.create library rule.arguments = .ok rule) ∧
      (∀ policy : DNSPolicy, DNSPolicy.create library policy.arguments = .ok policy) ∧
      ∀ (arguments : PolicyArguments TrafficPolicy DNSPolicy) (policy : SandboxPolicy),
        NetworkPolicy.create library arguments = .ok policy →
        NetworkPolicy.create library (SandboxPolicy.arguments policy) = .ok policy := by
  refine ⟨NetworkRule.create_arguments documented, TrafficPolicy.create_arguments documented,
    DNSRule.create_arguments documented, DNSPolicy.create_arguments documented, ?_⟩
  intro arguments policy created
  have blacklist := SandboxPolicy.blacklist_self documented created
  rw [NetworkPolicy.create, SandboxPolicy.arguments]
  simp only [blacklist, SandboxPolicy.ofNormalized_self]

/-- A rule for TCP, as it is created in ASCII. -/
theorem recreates_itself_https :
    NetworkRule.create asciiLibrary (NetworkRule.arguments
      ⟨⟨"allow".toList, by decide⟩, ⟨"egress".toList, by decide⟩,
        ⟨"tcp".toList, by decide⟩, none, none,
        some ⟨443, 443, by decide, by decide, by decide⟩, none, 100, rfl, nofun,
        fun _ => .inl rfl, by decide⟩) =
      .ok ⟨⟨"allow".toList, by decide⟩, ⟨"egress".toList, by decide⟩,
        ⟨"tcp".toList, by decide⟩, none, none,
        some ⟨443, 443, by decide, by decide, by decide⟩, none, 100, rfl, nofun,
        fun _ => .inl rfl, by decide⟩ :=
  (recreates_itself asciiLibrary_documented).1 _

end YrSandbox.Network
