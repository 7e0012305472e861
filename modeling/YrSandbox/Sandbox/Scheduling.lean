import YrSandbox.Python.Url

/-! # Scheduling affinities

The label affinities of a sandbox, the body that they are encoded to, and what a
scheduler requires of a node for each of the two. -/

namespace YrSandbox.Sandbox

open Python

/-! ## Label operators -/

inductive Operator
  | inValues
  | notInValues
  | existsKey
  | notExistsKey
deriving DecidableEq, Repr

namespace Operator

def code : Operator → Nat
  | inValues => 0
  | notInValues => 1
  | existsKey => 2
  | notExistsKey => 3

def takesValues : Operator → Bool
  | inValues | notInValues => true
  | existsKey | notExistsKey => false

end Operator

/-- A `LabelOperator` that has passed its own checks. -/
structure LabelOperator where
  key : Text
  operator : Operator
  values : List Text
  keyed : key.any (!isSpace ·) = true
  valued : operator.takesValues = !values.isEmpty
deriving DecidableEq, Repr

/-! ## Affinity groups -/

inductive Kind
  | resource
  | instance_
deriving DecidableEq, Repr

def Kind.code : Kind → Nat
  | resource => 0
  | instance_ => 1

inductive Affinity
  | preferred
  | preferredAnti
  | required
  | requiredAnti
deriving DecidableEq, Repr

namespace Affinity

def code : Affinity → Nat
  | preferred => 0
  | preferredAnti => 1
  | required => 2
  | requiredAnti => 3

def promote : Affinity → Affinity
  | preferred => required
  | preferredAnti => requiredAnti
  | other => other

end Affinity

/-- A `ScheduleAffinity` that has passed its own checks. -/
structure ScheduleAffinity where
  labelOps : List LabelOperator
  kind : Kind
  affinity : Affinity
  preferredPriority : Bool
  preferredAntiOtherLabels : Bool
  nonempty : labelOps ≠ []
deriving DecidableEq, Repr

/-- `LabelOperator.to_dict` -/
structure OperatorBody where
  type : Nat
  labelKey : Text
  labelValues : List Text
deriving DecidableEq, Repr

/-- `ScheduleAffinity.to_dict` -/
structure AffinityBody where
  kind : Nat
  affinity : Nat
  labelOps : List OperatorBody
  preferredPriority : Bool
  preferredAntiOtherLabels : Bool
deriving DecidableEq, Repr

def LabelOperator.toDict (op : LabelOperator) : OperatorBody where
  type := op.operator.code
  labelKey := op.key
  labelValues := op.values

namespace ScheduleAffinity

def toDict (group : ScheduleAffinity) : AffinityBody where
  kind := group.kind.code
  affinity := group.affinity.code
  labelOps := group.labelOps.map LabelOperator.toDict
  preferredPriority := group.preferredPriority
  preferredAntiOtherLabels := group.preferredAntiOtherLabels

def selector (group : ScheduleAffinity) : Kind × Affinity :=
  if group.kind = .resource ∧ group.preferredPriority ∧ group.preferredAntiOtherLabels then
    (group.kind, group.affinity.promote)
  else (group.kind, group.affinity)

end ScheduleAffinity

/-! ## Encoding -/

def runtimeKey : Text := "sandbox.runtime".toList

def nodeIdKey : Text := "NODE_ID".toList

/-- `LabelOperator(key, values=(value,))` -/
def LabelOperator.single (key value : Text) (keyed : key.any (!isSpace ·) = true) :
    LabelOperator where
  key := key
  operator := .inValues
  values := [value]
  keyed := keyed
  valued := rfl

def constraintsOf (runtime nodeId : Option Text) : List LabelOperator :=
  (runtime.map fun runtime => .single runtimeKey runtime (by decide)).toList ++
    (nodeId.map fun nodeId => .single nodeIdKey nodeId (by decide)).toList

/-- The variables of the loop of `_build_schedule_affinities`. -/
structure Builder where
  priorities : Kind × Affinity → Option Bool
  result : List AffinityBody
  hasRequiredResource : Bool

namespace Builder

def initial : Builder := ⟨fun _ => none, [], false⟩

def add (constraints : List LabelOperator) (builder : Builder) (item : ScheduleAffinity) :
    Except String Builder :=
  if (builder.priorities item.selector).any (· ≠ item.preferredPriority) then
    .error "affinities sharing a selector must agree on preferred_priority"
  else
    let priorities := fun selector =>
      if selector = item.selector then some item.preferredPriority
      else builder.priorities selector
    let encoded := item.toDict
    if item.selector = (.resource, .required) then
      .ok
        { priorities
          result := builder.result ++
            [{ encoded with
              labelOps := encoded.labelOps ++ constraints.map LabelOperator.toDict }]
          hasRequiredResource := true }
    else .ok { builder with priorities, result := builder.result ++ [encoded] }

end Builder

def standalone (constraints : List LabelOperator) : List AffinityBody :=
  if nonempty : constraints ≠ [] then
    [ScheduleAffinity.toDict ⟨constraints, .resource, .required, false, false, nonempty⟩]
  else []

def buildScheduleAffinities (affinities : Option (List ScheduleAffinity))
    (runtime nodeId : Option Text) : Except String (List AffinityBody) :=
  let constraints := constraintsOf runtime nodeId
  ((affinities.getD []).foldlM (Builder.add constraints) Builder.initial).map
    fun builder =>
    if constraints ≠ [] ∧ ¬builder.hasRequiredResource then
      builder.result ++ standalone constraints
    else builder.result

/-! ## What a node is asked for -/

abbrev Labels := Text → Option (List Text)

def Labels.overlaps (labels : Labels) (key : Text) (values : List Text) : Prop :=
  ∃ value ∈ values, value ∈ (labels key).getD []

/-- How groups combine: any one of them when they are alternatives, all of them
otherwise. -/
def Combine (alternatives : Bool) (groups : List α) (holds : α → Prop) : Prop :=
  if alternatives then ∃ group ∈ groups, holds group else ∀ group ∈ groups, holds group

theorem Combine.congr {alternatives : Bool} {groups : List α} {left right : α → Prop}
    (same : ∀ group ∈ groups, left group ↔ right group) :
    Combine alternatives groups left ↔ Combine alternatives groups right := by
  unfold Combine
  split
  · exact exists_congr fun group => and_congr_right (same group)
  · exact forall₂_congr same

theorem Combine.map {alternatives : Bool} (groups : List α) (change : α → β)
    (holds : β → Prop) :
    Combine alternatives (groups.map change) holds ↔
      Combine alternatives groups fun group => holds (change group) := by
  unfold Combine
  split
  · simp only [List.mem_map, exists_exists_and_eq_and]
  · simp only [List.forall_mem_map]

theorem Combine.constrain {alternatives : Bool} {groups : List α} (nonempty : groups ≠ [])
    (holds : α → Prop) (constraint : Prop) :
    Combine alternatives groups (fun group => holds group ∧ constraint) ↔
      Combine alternatives groups holds ∧ constraint := by
  rcases List.exists_mem_of_ne_nil groups nonempty with ⟨first, isFirst⟩
  unfold Combine
  cases alternatives with
  | true =>
      simp only [if_true]
      constructor
      · rintro ⟨group, member, held, constrained⟩
        exact ⟨⟨group, member, held⟩, constrained⟩
      · rintro ⟨⟨group, member, held⟩, constrained⟩
        exact ⟨group, member, held, constrained⟩
  | false =>
      simp only [Bool.false_eq_true, if_false]
      constructor
      · intro all
        exact ⟨fun group member => (all group member).1, (all first isFirst).2⟩
      · rintro ⟨all, constrained⟩ group member
        exact ⟨all group member, constrained⟩

/-! ### By the caller's groups -/

def LabelOperator.Holds (labels : Labels) (op : LabelOperator) : Prop :=
  match op.operator with
  | .inValues => labels.overlaps op.key op.values
  | .notInValues => ¬labels.overlaps op.key op.values
  | .existsKey => (labels op.key).isSome = true
  | .notExistsKey => (labels op.key).isSome = false

namespace ScheduleAffinity

def Holds (labels : Labels) (group : ScheduleAffinity) : Prop :=
  ∀ op ∈ group.labelOps, op.Holds labels

def isRequiredResource (group : ScheduleAffinity) : Bool :=
  group.kind = .resource ∧
    (group.affinity = .required ∨
      group.affinity = .preferred ∧ group.preferredPriority ∧
        group.preferredAntiOtherLabels)

end ScheduleAffinity

def RequiredByGroups (groups : List ScheduleAffinity) (labels : Labels) : Prop :=
  let required := groups.filter ScheduleAffinity.isRequiredResource
  Combine (required.any ScheduleAffinity.preferredPriority) required
    (ScheduleAffinity.Holds labels)

/-! ### By the encoded body -/

def OperatorBody.Holds (labels : Labels) (op : OperatorBody) : Prop :=
  match op.type with
  | 0 => labels.overlaps op.labelKey op.labelValues
  | 1 => ¬labels.overlaps op.labelKey op.labelValues
  | 2 => (labels op.labelKey).isSome = true
  | 3 => (labels op.labelKey).isSome = false
  | _ => False

namespace AffinityBody

def Holds (labels : Labels) (group : AffinityBody) : Prop :=
  ∀ op ∈ group.labelOps, op.Holds labels

def isRequiredResource (group : AffinityBody) : Bool :=
  group.kind = 0 ∧
    (group.affinity = 2 ∨
      group.affinity = 0 ∧ group.preferredPriority ∧ group.preferredAntiOtherLabels)

end AffinityBody

/-- `_required_resource_matches`: the first required group decides how they
combine. -/
def RequiredByBody (body : List AffinityBody) (labels : Labels) : Prop :=
  let groups := body.filter AffinityBody.isRequiredResource
  Combine (groups.head?.any AffinityBody.preferredPriority) groups
    (AffinityBody.Holds labels)

/-! ## What the loop builds -/

namespace ScheduleAffinity

def encodeWith (constraints : List LabelOperator) (group : ScheduleAffinity) :
    AffinityBody :=
  if group.isRequiredResource then
    { group.toDict with
      labelOps := group.toDict.labelOps ++ constraints.map LabelOperator.toDict }
  else group.toDict

theorem selector_required (group : ScheduleAffinity) :
    group.selector = (.resource, .required) ↔ group.isRequiredResource = true := by
  rcases group with ⟨_, kind, affinity, priority, antiOthers, _⟩
  cases kind <;> cases affinity <;>
    simp only [selector, isRequiredResource, Affinity.promote] <;>
    cases priority <;> cases antiOthers <;> simp

@[simp] theorem toDict_isRequiredResource (group : ScheduleAffinity) :
    group.toDict.isRequiredResource = group.isRequiredResource := by
  rcases group with ⟨_, kind, affinity, priority, antiOthers, _⟩
  cases kind <;> cases affinity <;> cases priority <;> cases antiOthers <;> rfl

@[simp] theorem encodeWith_isRequiredResource (constraints : List LabelOperator)
    (group : ScheduleAffinity) :
    (group.encodeWith constraints).isRequiredResource = group.isRequiredResource := by
  unfold encodeWith
  split <;> exact group.toDict_isRequiredResource

@[simp] theorem encodeWith_preferredPriority (constraints : List LabelOperator)
    (group : ScheduleAffinity) :
    (group.encodeWith constraints).preferredPriority = group.preferredPriority := by
  unfold encodeWith
  split <;> rfl

end ScheduleAffinity

/-- The variables after the groups `read`. -/
structure Builder.After (constraints : List LabelOperator) (read : List ScheduleAffinity)
    (builder : Builder) : Prop where
  priorities : ∀ item ∈ read, builder.priorities item.selector =
    some item.preferredPriority
  result : builder.result = read.map (ScheduleAffinity.encodeWith constraints)
  hasRequired : builder.hasRequiredResource = read.any ScheduleAffinity.isRequiredResource

namespace Builder

variable {constraints : List LabelOperator} {read : List ScheduleAffinity}
  {builder next : Builder} {item : ScheduleAffinity}

theorem After.initial : Builder.initial.After constraints [] :=
  ⟨nofun, rfl, rfl⟩

theorem After.add (state : builder.After constraints read)
    (added : builder.add constraints item = .ok next) :
    next.After constraints (read ++ [item]) := by
  unfold Builder.add at added
  split at added
  · cases added
  rename_i agrees
  have priorities : ∀ other ∈ read ++ [item],
      (if other.selector = item.selector then some item.preferredPriority
        else builder.priorities other.selector) = some other.preferredPriority := by
    intro other member
    rcases List.mem_append.mp member with before | isItem
    · have known := state.priorities other before
      split
      · rename_i same
        rw [same] at known
        rw [known] at agrees
        simp only [Option.any_some, decide_eq_true_eq, not_not] at agrees
        rw [agrees]
      · exact known
    · rw [List.mem_singleton.mp isItem, if_pos rfl]
  dsimp only at added
  split at added
  · rename_i isRequired
    have required := item.selector_required.mp isRequired
    cases added
    refine ⟨priorities, ?_, ?_⟩
    · simp [state.result, ScheduleAffinity.encodeWith, required]
    · simp [required]
  · rename_i notRequired
    have optional : item.isRequiredResource = false := by
      simpa [item.selector_required] using notRequired
    cases added
    refine ⟨priorities, ?_, ?_⟩
    · simp [state.result, ScheduleAffinity.encodeWith, optional]
    · simp [state.hasRequired, optional]

/-- The loop reads all groups, by induction on those that are left. -/
theorem After.addAll {items : List ScheduleAffinity}
    (state : builder.After constraints read)
    (added : items.foldlM (Builder.add constraints) builder = .ok next) :
    next.After constraints (read ++ items) := by
  induction items generalizing builder read with
  | nil =>
      cases added
      simpa using state
  | cons item items induction =>
      rw [List.foldlM_cons] at added
      cases first : builder.add constraints item with
      | error message =>
          rw [first] at added
          cases added
      | ok middle =>
          rw [first] at added
          have rest := induction (state.add first) added
          simpa using rest

end Builder

/-! ## The body asks for what the caller asks for -/

theorem OperatorBody.holds_toDict (labels : Labels) (op : LabelOperator) :
    op.toDict.Holds labels ↔ op.Holds labels := by
  rcases op with ⟨_, operator, _, _, _⟩
  cases operator <;> exact Iff.rfl

theorem AffinityBody.holds_toDict (labels : Labels) (group : ScheduleAffinity) :
    group.toDict.Holds labels ↔ group.Holds labels := by
  simp only [AffinityBody.Holds, ScheduleAffinity.toDict, List.forall_mem_map,
    OperatorBody.holds_toDict]
  exact Iff.rfl

def ConstraintsHold (constraints : List LabelOperator) (labels : Labels) : Prop :=
  ∀ op ∈ constraints, op.Holds labels

theorem holds_encodeWith (labels : Labels) (constraints : List LabelOperator)
    {group : ScheduleAffinity} (required : group.isRequiredResource = true) :
    (group.encodeWith constraints).Holds labels ↔
      group.Holds labels ∧ ConstraintsHold constraints labels := by
  rw [ScheduleAffinity.encodeWith, if_pos required, ← AffinityBody.holds_toDict]
  simp only [AffinityBody.Holds, List.forall_mem_append, List.forall_mem_map,
    OperatorBody.holds_toDict]
  exact Iff.rfl

theorem holds_single (labels : Labels) (key value : Text)
    (keyed : key.any (!isSpace ·) = true) :
    (LabelOperator.single key value keyed).Holds labels ↔
      value ∈ (labels key).getD [] := by
  simp [LabelOperator.Holds, LabelOperator.single, Labels.overlaps]

theorem constraintsHold_iff (labels : Labels) (runtime nodeId : Option Text) :
    ConstraintsHold (constraintsOf runtime nodeId) labels ↔
      (∀ value ∈ runtime, value ∈ (labels runtimeKey).getD []) ∧
        ∀ value ∈ nodeId, value ∈ (labels nodeIdKey).getD [] := by
  cases runtime <;> cases nodeId <;>
    simp [ConstraintsHold, constraintsOf, holds_single]

section Built

variable {constraints : List LabelOperator} {groups : List ScheduleAffinity}
  {builder : Builder}

theorem Builder.After.agree (state : builder.After constraints groups)
    {left right : ScheduleAffinity} (leftMember : left ∈ groups)
    (rightMember : right ∈ groups)
    (leftRequired : left.isRequiredResource = true)
    (rightRequired : right.isRequiredResource = true) :
    left.preferredPriority = right.preferredPriority := by
  have ofLeft := state.priorities left leftMember
  have ofRight := state.priorities right rightMember
  rw [left.selector_required.mpr leftRequired] at ofLeft
  rw [right.selector_required.mpr rightRequired, ofLeft] at ofRight
  exact Option.some.inj ofRight

theorem Builder.After.head_any (state : builder.After constraints groups) :
    (groups.filter ScheduleAffinity.isRequiredResource).head?.any
        ScheduleAffinity.preferredPriority =
      (groups.filter ScheduleAffinity.isRequiredResource).any
        ScheduleAffinity.preferredPriority := by
  have agree : ∀ left ∈ groups.filter ScheduleAffinity.isRequiredResource,
      ∀ right ∈ groups.filter ScheduleAffinity.isRequiredResource,
        left.preferredPriority = right.preferredPriority := by
    intro left leftMember right rightMember
    rcases List.mem_filter.mp leftMember with ⟨leftRead, leftRequired⟩
    rcases List.mem_filter.mp rightMember with ⟨rightRead, rightRequired⟩
    exact state.agree leftRead rightRead leftRequired rightRequired
  generalize groups.filter ScheduleAffinity.isRequiredResource = required at agree
  cases required with
  | nil => rfl
  | cons first others =>
      simp only [List.head?_cons, Option.any_some, List.any_cons]
      cases flag : first.preferredPriority with
      | true => rfl
      | false =>
          rw [Bool.false_or, eq_comm, List.any_eq_false]
          intro other member
          rw [← agree first List.mem_cons_self other (List.mem_cons_of_mem _ member), flag]
          decide

theorem filter_encodeWith (constraints : List LabelOperator)
    (groups : List ScheduleAffinity)
    (keep : Bool → Bool) :
    (groups.map (ScheduleAffinity.encodeWith constraints)).filter
        (fun group => keep group.isRequiredResource) =
      (groups.filter fun group => keep group.isRequiredResource).map
        (ScheduleAffinity.encodeWith constraints) := by
  rw [List.filter_map]
  congr 2
  funext group
  simp

theorem requiredByBody_encoded (state : builder.After constraints groups)
    (more : groups.filter ScheduleAffinity.isRequiredResource ≠ []) (labels : Labels) :
    RequiredByBody (groups.map (ScheduleAffinity.encodeWith constraints)) labels ↔
      RequiredByGroups groups labels ∧ ConstraintsHold constraints labels := by
  have flag : ∀ required : List ScheduleAffinity,
      (required.map (ScheduleAffinity.encodeWith constraints)).head?.any
          AffinityBody.preferredPriority =
        required.head?.any ScheduleAffinity.preferredPriority := by
    intro required
    cases required <;> simp
  have kept := filter_encodeWith constraints groups id
  simp only [id] at kept
  unfold RequiredByBody RequiredByGroups
  simp only [kept, flag, state.head_any]
  rw [Combine.map, ← Combine.constrain more]
  apply Combine.congr
  intro group member
  exact holds_encodeWith labels constraints (List.mem_filter.mp member).2

theorem standalone_required (constraints : List LabelOperator) :
    (standalone constraints).filter AffinityBody.isRequiredResource =
      standalone constraints := by
  unfold standalone
  split <;> rfl

theorem requiredByBody_standalone
    (none : groups.filter ScheduleAffinity.isRequiredResource = []) (labels : Labels) :
    RequiredByBody
        (groups.map (ScheduleAffinity.encodeWith constraints) ++ standalone constraints)
          labels ↔
      RequiredByGroups groups labels ∧ ConstraintsHold constraints labels := by
  have kept := filter_encodeWith constraints groups id
  simp only [id, none, List.map_nil] at kept
  unfold RequiredByBody RequiredByGroups
  simp only [List.filter_append, kept, none, standalone_required, List.nil_append]
  by_cases nonempty : constraints = []
  · subst nonempty
    simp [standalone, Combine, ConstraintsHold]
  · have alone := AffinityBody.holds_toDict labels
      ⟨constraints, .resource, .required, false, false, nonempty⟩
    rw [standalone, dif_pos nonempty]
    simpa [Combine, ScheduleAffinity.Holds, ConstraintsHold] using alone

theorem filter_optional :
    (groups.map (ScheduleAffinity.encodeWith constraints)).filter (!·.isRequiredResource) =
      (groups.filter (!·.isRequiredResource)).map ScheduleAffinity.toDict := by
  rw [filter_encodeWith constraints groups Bool.not]
  apply List.map_congr_left
  intro group member
  have optional := (List.mem_filter.mp member).2
  rw [ScheduleAffinity.encodeWith, if_neg (by simpa using optional)]

theorem standalone_optional (constraints : List LabelOperator) :
    (standalone constraints).filter (!·.isRequiredResource) = [] := by
  unfold standalone
  split <;> rfl

end Built

/-- A built body requires of a node what the caller's groups require, and the runtime
and the node that were asked for; the other groups are those of the caller. -/
theorem buildScheduleAffinities_required {affinities : Option (List ScheduleAffinity)}
    {runtime nodeId : Option Text} {body : List AffinityBody}
    (built : buildScheduleAffinities affinities runtime nodeId = .ok body) :
    (∀ labels, RequiredByBody body labels ↔
      RequiredByGroups (affinities.getD []) labels ∧
        (∀ value ∈ runtime, value ∈ (labels runtimeKey).getD []) ∧
        ∀ value ∈ nodeId, value ∈ (labels nodeIdKey).getD []) ∧
    body.filter (!·.isRequiredResource) =
      ((affinities.getD []).filter (!·.isRequiredResource)).map
        ScheduleAffinity.toDict := by
  unfold buildScheduleAffinities at built
  dsimp only at built
  simp only [← constraintsHold_iff]
  generalize constraintsOf runtime nodeId = constraints at *
  generalize affinities.getD [] = groups at *
  cases looped : groups.foldlM (Builder.add constraints) Builder.initial with
  | error message =>
      rw [looped] at built
      cases built
  | ok builder =>
      have state := Builder.After.initial.addAll looped
      rw [List.nil_append] at state
      rw [looped] at built
      have isBody := Except.ok.inj built
      dsimp only at isBody
      rw [state.result, state.hasRequired] at isBody
      by_cases none : groups.filter ScheduleAffinity.isRequiredResource = []
      · have spelt : body =
            groups.map (ScheduleAffinity.encodeWith constraints) ++
              standalone constraints := by
          have noneRequired : groups.any ScheduleAffinity.isRequiredResource = false := by
            simpa [List.filter_eq_nil_iff] using none
          rw [← isBody]
          by_cases unconstrained : constraints = []
          · simp [unconstrained, standalone]
          · rw [if_pos ⟨unconstrained, by simp [noneRequired]⟩]
        rw [spelt]
        refine ⟨requiredByBody_standalone none, ?_⟩
        rw [List.filter_append, filter_optional, standalone_optional, List.append_nil]
      · have spelt : body = groups.map (ScheduleAffinity.encodeWith constraints) := by
          have someRequired : groups.any ScheduleAffinity.isRequiredResource = true := by
            simpa [List.filter_eq_nil_iff] using none
          rw [← isBody, if_neg (by simp [someRequired])]
        rw [spelt]
        exact ⟨requiredByBody_encoded state none, filter_optional⟩

def zoneAlternative (zone : Text) : ScheduleAffinity where
  labelOps := [⟨"zone".toList, .inValues, [zone], by decide, rfl⟩]
  kind := .resource
  affinity := .required
  preferredPriority := true
  preferredAntiOtherLabels := false
  nonempty := nofun

/-- A node that fits one of two alternatives, but not the runtime, is refused. -/
theorem buildScheduleAffinities_required_alternatives :
    ∃ body,
      buildScheduleAffinities
          (some [zoneAlternative "a".toList, zoneAlternative "b".toList])
          (some "runsc".toList) none = .ok body ∧
        ¬RequiredByBody body fun key =>
          if key = "zone".toList then some ["a".toList] else some ["runc".toList] := by
  have accepted : ∃ body,
      buildScheduleAffinities
          (some [zoneAlternative "a".toList, zoneAlternative "b".toList])
          (some "runsc".toList) none = .ok body := ⟨_, rfl⟩
  rcases accepted with ⟨body, built⟩
  refine ⟨body, built, ?_⟩
  intro required
  have asked := ((buildScheduleAffinities_required built).1 _).mp required
  exact absurd (asked.2.1 _ rfl) (by decide)

end YrSandbox.Sandbox
