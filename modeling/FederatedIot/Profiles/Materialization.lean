import FederatedIot.Profiles.SparseObjects

namespace FederatedIot
namespace Profiles

open Foundation Foundation.JsonText Foundation.JsonText.Document Foundation.Outcome

/-!
# Materialization

A request that is materialized keeps the tree of the reference, and what it stores is what
was given.  A request that is refused has a fault, with one exception: an agent's value for
a leaf at the top of the reference fails when its path is cut.
-/

/-! ## The agents of the reference -/

/-- The segment of an agent in the topology. -/
def fixedSegment (agent : Int) : List Char :=
  if agent = 1 then "EARLY".toList else if agent = 2 then "MIDDLE".toList else "LATE".toList

def agentNumbers : List Int :=
  [1, 2, 3]

/-- Only the three agents have segments, and each has one. -/
def Numbered (segments : List (Int × List Char)) : Prop :=
  (segments.map Prod.fst).Nodup ∧ ∀ entry ∈ segments, entry.1 ∈ agentNumbers

theorem addSegment_numbered {segments next : List (Int × List Char)} {raw : Value} (numbered : Numbered segments)
    (added : addSegment segments raw = some next) : Numbered next := by
  unfold addSegment at added
  split at added
  · split at added
    · next agent segment _ _ =>
        split at added
        · cases added
        · next inRange =>
            cases added
            have bounds : agent ∈ agentNumbers := by
              have lower : ¬agent < 1 := fun wrong => inRange (Or.inl wrong)
              have upper : ¬3 < agent := fun wrong => inRange (Or.inr (Or.inl wrong))
              simp only [agentNumbers, List.mem_cons, List.not_mem_nil, or_false]
              omega
            constructor
            · rw [List.map_append, List.nodup_append]
              refine ⟨numbered.1.sublist (List.filter_sublist.map _), List.nodup_singleton _, ?_⟩
              intro earlier isEarlier later isLater same
              rcases List.mem_map.mp isEarlier with ⟨entry, isEntry, rfl⟩
              have different := of_decide_eq_true (List.mem_filter.mp isEntry).2
              exact different (same.trans (List.mem_singleton.mp isLater))
            · intro entry isEntry
              rcases List.mem_append.mp isEntry with earlier | last
              · exact numbered.2 entry (List.mem_of_mem_filter earlier)
              · rw [List.mem_singleton.mp last]
                exact bounds
    · cases added
  · cases added

theorem foldlM_addSegment_numbered {segments final : List (Int × List Char)} {raws : List Value}
    (numbered : Numbered segments) (added : raws.foldlM addSegment segments = some final) : Numbered final := by
  induction raws generalizing segments with
  | nil =>
      cases added
      exact numbered
  | cons raw rest inductionHypothesis =>
      rw [List.foldlM_cons] at added
      rcases Option.bind_eq_some_iff.mp added with ⟨next, isNext, others⟩
      exact inductionHypothesis (addSegment_numbered numbered isNext) others

/-- The segments of a valid reference. -/
theorem referenceAgentSegments_some {reference : List Value} {segments : List (Int × List Char)}
    (valid : referenceAgentSegments reference = some segments) :
    segments.length = 3 ∧
      forall agent, segments.lookup agent = if agent ∈ agentNumbers then some (fixedSegment agent) else none := by
  unfold referenceAgentSegments at valid
  rcases Option.bind_eq_some_iff.mp valid with ⟨found, isFound, checked⟩
  split at checked
  · next present =>
      cases checked
      have start : Numbered [] := ⟨List.nodup_nil, fun _ member => (by cases member)⟩
      have numbered : Numbered segments := foldlM_addSegment_numbered start isFound
      have names : forall {agent segment}, segments.lookup agent = some segment -> agent ∈ segments.map Prod.fst := by
        intro agent segment isSegment
        rcases List.lookup_eq_some_iff.mp isSegment with ⟨before, after, rfl, _⟩
        simp
      have perm : (segments.map Prod.fst).Perm agentNumbers := by
        rw [List.perm_ext_iff_of_nodup numbered.1 (by decide)]
        intro agent
        constructor
        · intro member
          rcases List.mem_map.mp member with ⟨entry, isEntry, rfl⟩
          exact numbered.2 entry isEntry
        · intro member
          simp only [agentNumbers, List.mem_cons, List.not_mem_nil, or_false] at member
          rcases member with rfl | rfl | rfl
          · exact names present.1
          · exact names present.2.1
          · exact names present.2.2
      refine ⟨by rw [← List.length_map, perm.length_eq]; rfl, fun agent => ?_⟩
      by_cases member : agent ∈ agentNumbers
      · rw [if_pos member]
        simp only [agentNumbers, List.mem_cons, List.not_mem_nil, or_false] at member
        rcases member with rfl | rfl | rfl
        · exact present.1
        · exact present.2.1
        · exact present.2.2
      · rw [if_neg member]
        cases isSegment : segments.lookup agent with
        | none => rfl
        | some segment => exact absurd (perm.mem_iff.mp (names isSegment)) member
  · cases checked

namespace ConstraintDocument

variable {document : ConstraintDocument}

/-- The agents stand in the order of their numbers. -/
theorem orderAgents_map {numbers : List Int} (perm : numbers.Perm agentNumbers) (value : Int -> Value) :
    orderAgents (numbers.map fun agent => (agent, value agent)) = agentNumbers.map value := by
  have sorted : numbers.insertionSort (fun left right => left ≤ right) = agentNumbers := by
    refine List.Perm.eq_of_pairwise (fun first second _ _ below above => Int.le_antisymm below above)
      (List.pairwise_insertionSort _ _) (by decide) ((List.perm_insertionSort _ _).trans perm)
  have mapped : (numbers.insertionSort fun left right => left ≤ right).map (fun agent => (agent, value agent)) =
      (numbers.map fun agent => (agent, value agent)).insertionSort fun left right => left.1 ≤ right.1 := by
    apply List.map_insertionSort
    intro first _ second _
    exact Iff.rfl
  unfold orderAgents
  rw [← mapped, sorted, List.map_map]
  rfl

/-! ## The loop over the agents -/

/-- The field of an agent's parameters has its only dot before the marker's word. -/
theorem agentField_parameters {agent : Int} (member : agent ∈ agentNumbers) :
    exists base, '.' ∉ base ∧ agentField agent "parameters" = overrideField base [] := by
  refine ⟨("agents[" ++ toString agent ++ "]").toList, ?_⟩
  revert agent
  decide

/-- An override that is in order has these parameters. -/
def Accepts (document : ConstraintDocument) (reference : Members) (agent : AgentOverride) (object : Object) : Prop :=
  (agent.segment = [] ∨ agent.segment = fixedSegment agent.agent) ∧ agent.parameters = some object ∧
    document.sparseMembers (agentField agent.agent "parameters") reference object.members = .ok object.members

section Loop

variable {reference : Members} {expected : List (Int × List Char)}

/-- The entry of an override that is in order. -/
def entryOf (agent : Int) (object : Object) : Int × Value :=
  (agent, agentObject agent (fixedSegment agent) object.members)

theorem agentEntry_ok_iff
    (fixed : forall agent, expected.lookup agent = if agent ∈ agentNumbers then some (fixedSegment agent) else none)
    {agent : AgentOverride} {entry : Int × Value} :
    document.agentEntry reference expected agent = .ok entry ↔ agent.agent ∈ agentNumbers ∧
      exists object, document.Accepts reference agent object ∧ entry = entryOf agent.agent object := by
  unfold agentEntry Accepts
  rw [fixed agent.agent]
  by_cases member : agent.agent ∈ agentNumbers
  · rw [if_pos member]
    simp only [Option.elim, bind_ok_iff, require_ok_iff, pure_ok_iff]
    constructor
    · rintro ⟨_, ⟨⟩, _, segment, parameters, given, override, isOverride, rfl⟩
      refine ⟨member, ?_⟩
      cases object : agent.parameters with
      | none =>
          rw [object] at given
          cases given
      | some parameters =>
          rw [object] at given
          cases given
          have same := sparseMembers_eq isOverride
          rw [same] at isOverride ⊢
          exact ⟨parameters, ⟨segment, rfl, isOverride⟩, rfl⟩
    · rintro ⟨_, object, ⟨segment, given, isOverride⟩, rfl⟩
      rw [given]
      exact ⟨_, rfl, PUnit.unit, segment, object, rfl, object.members, isOverride, rfl⟩
  · rw [if_neg member]
    constructor
    · intro wrong
      cases wrong
    · rintro ⟨inside, _⟩
      exact absurd inside member

theorem foldlM_materializeAgent_ok_iff {done result : List (Int × Value)} {agents : List AgentOverride}
    (nodup : (done.map Prod.fst).Nodup)
    (named : forall agent entry, document.agentEntry reference expected agent = .ok entry -> entry.1 = agent.agent) :
    agents.foldlM (document.materializeAgent reference expected) done = .ok result ↔
      exists entries, List.Forall₂ (fun agent entry => document.agentEntry reference expected agent = .ok entry)
        agents entries ∧ result = done ++ entries ∧ (done.map Prod.fst ++ agents.map AgentOverride.agent).Nodup := by
  induction agents generalizing done with
  | nil =>
      rw [List.foldlM_nil, pure_ok_iff]
      constructor
      · rintro rfl
        refine ⟨[], List.Forall₂.nil, (List.append_nil _).symm, ?_⟩
        rwa [List.map_nil, List.append_nil]
      · rintro ⟨entries, each, rfl, _⟩
        cases each
        exact (List.append_nil _).symm
  | cons agent rest inductionHypothesis =>
      rw [List.foldlM_cons]
      unfold materializeAgent
      simp only [bind_ok_iff, require_ok_iff, pure_ok_iff]
      constructor
      · rintro ⟨next, ⟨_, fresh, entry, isEntry, rfl⟩, others⟩
        have isNamed := named agent entry isEntry
        have nextNodup : ((done ++ [entry]).map Prod.fst).Nodup := by
          rw [List.map_append, List.nodup_append]
          refine ⟨nodup, List.nodup_singleton _, ?_⟩
          intro earlier isEarlier later isLater same
          rw [same, List.mem_singleton.mp isLater, isNamed] at isEarlier
          exact fresh isEarlier
        rcases (inductionHypothesis nextNodup).mp others with ⟨entries, each, rfl, all⟩
        refine ⟨entry :: entries, List.Forall₂.cons isEntry each, List.append_assoc _ _ _, ?_⟩
        rwa [List.map_append, List.append_assoc, List.map_singleton, isNamed] at all
      · rintro ⟨entries, each, rfl, all⟩
        cases each with
        | @cons _ entry _ others isEntry each =>
            have isNamed := named agent entry isEntry
            have next : ((done ++ [entry]).map Prod.fst ++ rest.map AgentOverride.agent).Nodup := by
              rwa [List.map_append, List.append_assoc, List.map_singleton, isNamed]
            refine ⟨done ++ [entry], ⟨PUnit.unit, ?_, entry, isEntry, rfl⟩, ?_⟩
            · intro inside
              exact (List.nodup_append.mp all).2.2 _ inside _ List.mem_cons_self rfl
            · refine (inductionHypothesis (List.nodup_append.mp next).1).mpr ⟨others, each, ?_, next⟩
              rw [List.append_assoc]
              rfl

theorem foldlM_materializeAgent_error {done : List (Int × Value)} {agents : List AgentOverride}
    {failure : MaterializeFailure}
    (named : forall agent entry, document.agentEntry reference expected agent = .ok entry -> entry.1 = agent.agent)
    (refused : agents.foldlM (document.materializeAgent reference expected) done = .error failure) :
    (exists agent, agent ∈ agents ∧ document.agentEntry reference expected agent = .error failure) ∨
      ¬(done.map Prod.fst ++ agents.map AgentOverride.agent).Nodup := by
  induction agents generalizing done with
  | nil => cases refused
  | cons agent rest inductionHypothesis =>
      rw [List.foldlM_cons] at refused
      unfold materializeAgent at refused
      by_cases fresh : agent.agent ∈ done.map Prod.fst
      · refine Or.inr fun all => ?_
        exact (List.nodup_append.mp all).2.2 _ fresh _ List.mem_cons_self rfl
      · rw [require_of repeatedAgent fresh, ok_bind] at refused
        cases outcome : document.agentEntry reference expected agent with
        | error reason =>
            rw [outcome, error_bind, error_bind] at refused
            cases refused
            exact Or.inl ⟨agent, List.mem_cons_self, outcome⟩
        | ok entry =>
            rw [outcome, ok_bind] at refused
            rcases inductionHypothesis refused with ⟨later, isLater, isRefused⟩ | repeated
            · exact Or.inl ⟨later, List.mem_cons_of_mem _ isLater, isRefused⟩
            · refine Or.inr fun all => repeated ?_
              rw [List.map_append, List.append_assoc, List.map_singleton, named agent entry outcome]
              exact all

end Loop

/-! ## Requests -/

def noParameters : Object :=
  { members := [], distinct := Distinct.object List.nodup_nil fun _ member => (by cases member) }

/-- The parameters that a list of overrides has for an agent. -/
def parametersOf (agents : List AgentOverride) (agent : Int) : Object :=
  ((agents.find? fun override => override.agent = agent).bind AgentOverride.parameters).getD noParameters

theorem parametersOf_eq {agents : List AgentOverride} (nodup : (agents.map AgentOverride.agent).Nodup)
    {override : AgentOverride} (member : override ∈ agents) {object : Object} (given : override.parameters = some object) :
    parametersOf agents override.agent = object := by
  unfold parametersOf
  cases found : agents.find? fun other => other.agent = override.agent with
  | none => exact absurd (decide_eq_true rfl) (List.find?_eq_none.mp found override member)
  | some other =>
      have same : other.agent = override.agent := by
        have isSame := List.find?_some found
        exact of_decide_eq_true isSame
      rw [List.inj_on_of_nodup_map nodup (List.mem_of_find?_eq_some found) member same, Option.bind_some, given]
      rfl

section Requests

variable {reference : Members} {agents : List AgentOverride}

theorem entryOf_named {expected : List (Int × List Char)}
    (fixed : forall agent, expected.lookup agent = if agent ∈ agentNumbers then some (fixedSegment agent) else none)
    (agent : AgentOverride) (entry : Int × Value)
    (isEntry : document.agentEntry reference expected agent = .ok entry) : entry.1 = agent.agent := by
  rcases (agentEntry_ok_iff fixed).mp isEntry with ⟨_, object, _, rfl⟩
  rfl

/-- When the loop over the agents succeeds, and what it makes. -/
theorem materializeAgents_ok_iff {expected : List (Int × List Char)} {entries : List (Int × Value)}
    (three : expected.length = 3)
    (fixed : forall agent, expected.lookup agent = if agent ∈ agentNumbers then some (fixedSegment agent) else none) :
    agents.length = expected.length ∧ agents.foldlM (document.materializeAgent reference expected) [] = .ok entries ↔
      (agents.map AgentOverride.agent).Perm agentNumbers ∧ exists overrides : Int -> Object,
        (∀ agent ∈ agents, document.Accepts reference agent (overrides agent.agent)) ∧
          entries = agents.map fun agent => entryOf agent.agent (overrides agent.agent) := by
  have start : (([] : List (Int × Value)).map Prod.fst).Nodup := List.nodup_nil
  rw [foldlM_materializeAgent_ok_iff start (entryOf_named fixed)]
  constructor
  · rintro ⟨count, _, each, rfl, nodup⟩
    rw [List.map_nil, List.nil_append] at nodup
    have accepted : ∀ agent ∈ agents, agent.agent ∈ agentNumbers ∧
        document.Accepts reference agent (parametersOf agents agent.agent) := by
      intro agent isAgent
      rcases exists_of_mem each.flip isAgent with ⟨entry, _, isEntry⟩
      rcases (agentEntry_ok_iff fixed).mp isEntry with ⟨member, object, accepts, _⟩
      rw [parametersOf_eq nodup isAgent accepts.2.1]
      exact ⟨member, accepts⟩
    refine ⟨?_, parametersOf agents, fun agent isAgent => (accepted agent isAgent).2, ?_⟩
    · refine (List.subperm_of_subset nodup ?_).perm_of_length_le ?_
      · intro number member
        rcases List.mem_map.mp member with ⟨agent, isAgent, rfl⟩
        exact (accepted agent isAgent).1
      · rw [List.length_map, count, three]
        exact le_refl _
    · have pairs := (forall₂_mem each).imp fun agent entry held =>
        show entryOf agent.agent (parametersOf agents agent.agent) = entry by
          rcases held with ⟨isAgent, _, isEntry⟩
          rcases (agentEntry_ok_iff fixed).mp isEntry with ⟨_, object, accepts, isObject⟩
          rw [parametersOf_eq nodup isAgent accepts.2.1, isObject]
      have same := (@List.forall₂_map_left_iff _ _ _ (fun first second => first = second)
        (fun agent : AgentOverride => entryOf agent.agent (parametersOf agents agent.agent)) _ _).mpr pairs
      rw [List.forall₂_eq_eq_eq] at same
      exact same.symm
  · rintro ⟨numbers, overrides, accepts, rfl⟩
    have nodup : (agents.map AgentOverride.agent).Nodup := numbers.nodup_iff.mpr (by decide)
    refine ⟨?_, _, ?_, (List.nil_append _).symm, by rwa [List.map_nil, List.nil_append]⟩
    · have count := numbers.length_eq
      rw [List.length_map] at count
      rw [three, count]
      rfl
    · rw [List.forall₂_map_right_iff, List.forall₂_same]
      intro agent isAgent
      have member : agent.agent ∈ agentNumbers := numbers.mem_iff.mp (List.mem_map_of_mem isAgent)
      exact (agentEntry_ok_iff fixed).mpr ⟨member, overrides agent.agent, accepts agent isAgent, rfl⟩

/-- When a request is materialized, and to what. -/
theorem materialize_ok_iff {referenceAgents : List Value} {shared : Option Object} {profile : MaterializedProfile} :
    document.materialize reference referenceAgents shared agents = .ok profile ↔
      document.validateReference (.object reference) = true ∧
      (exists object, shared = some object ∧
        document.validateCompleteObject "shared_parameters".toList reference object.members = .ok profile.shared) ∧
      (exists expected, referenceAgentSegments referenceAgents = some expected) ∧
      (agents.map AgentOverride.agent).Perm agentNumbers ∧
      exists overrides : Int -> Object, (∀ agent ∈ agents, document.Accepts reference agent (overrides agent.agent)) ∧
        profile.agents = agentNumbers.map fun agent => agentObject agent (fixedSegment agent) (overrides agent).members := by
  have ordered : forall overrides : Int -> Object, (agents.map AgentOverride.agent).Perm agentNumbers ->
      orderAgents (agents.map fun agent => entryOf agent.agent (overrides agent.agent)) =
        agentNumbers.map fun agent => agentObject agent (fixedSegment agent) (overrides agent).members := by
    intro overrides numbers
    rw [← orderAgents_map numbers, List.map_map]
    rfl
  unfold materialize
  simp only [bind_ok_iff, require_ok_iff, pure_ok_iff]
  constructor
  · rintro ⟨_, valid, object, given, completed, isCompleted, expected, isExpected, _, count, entries, areEntries, rfl⟩
    have isGiven : shared = some object := by
      cases shared with
      | none => cases given
      | some _ => exact congrArg some (Except.ok.inj given)
    have areExpected : referenceAgentSegments referenceAgents = some expected := by
      cases found : referenceAgentSegments referenceAgents with
      | none =>
          rw [found] at isExpected
          cases isExpected
      | some _ =>
          rw [found] at isExpected
          exact congrArg some (Except.ok.inj isExpected)
    rcases referenceAgentSegments_some areExpected with ⟨three, fixed⟩
    rcases (materializeAgents_ok_iff three fixed).mp ⟨count, areEntries⟩ with ⟨numbers, overrides, accepts, rfl⟩
    exact ⟨valid, ⟨object, isGiven, isCompleted⟩, ⟨expected, areExpected⟩, numbers, overrides, accepts,
      ordered overrides numbers⟩
  · rintro ⟨valid, ⟨object, rfl, isCompleted⟩, ⟨expected, areExpected⟩, numbers, overrides, accepts, areAgents⟩
    rcases referenceAgentSegments_some areExpected with ⟨three, fixed⟩
    rcases (materializeAgents_ok_iff three fixed).mpr ⟨numbers, overrides, accepts, rfl⟩ with ⟨count, areEntries⟩
    rw [areExpected]
    refine ⟨PUnit.unit, valid, object, rfl, profile.shared, isCompleted, expected, rfl, PUnit.unit, count, _, areEntries,
      ?_⟩
    rw [ordered overrides numbers, ← areAgents]

/-! ## Faults of a request -/

/-- One entry for each agent, with its segment or none and with parameters. -/
structure WellFormed (agents : List AgentOverride) : Prop where
  numbers : (agents.map AgentOverride.agent).Perm agentNumbers
  segments : ∀ agent ∈ agents, agent.segment = [] ∨ agent.segment = fixedSegment agent.agent
  parameters : ∀ agent ∈ agents, agent.parameters.isSome = true

/-- What is wrong with a request. -/
inductive RequestFault (document : ConstraintDocument) (reference : Members) (shared : Option Object)
    (agents : List AgentOverride) : Prop
  | noShared (absent : shared = none)
  | agentList (malformed : ¬WellFormed agents)
  | sharedPath {object : Object} {names : List (List Char)} (given : shared = some object)
      (fault : document.SharedFault dotted (.object reference) (.object object.members) names)
  | agentPath {agent : AgentOverride} {object : Object} {names : List (List Char)} (member : agent ∈ agents)
      (given : agent.parameters = some object)
      (fault : document.OverrideFault dotted (.object reference) (.object object.members) names)

/-- An agent gives a value for a leaf at the top of the reference. -/
def AgentOverridesTop (reference : Members) (agents : List AgentOverride) : Prop :=
  exists agent object, agent ∈ agents ∧ agent.parameters = some object ∧ OverridesTop reference object.members

theorem agentEntry_fault {expected : List (Int × List Char)} {agent : AgentOverride} {failure : MaterializeFailure}
    (fixed : forall agent, expected.lookup agent = if agent ∈ agentNumbers then some (fixedSegment agent) else none)
    (shared : Option Object) (member : agent ∈ agents)
    (refused : document.agentEntry reference expected agent = .error failure) :
    document.RequestFault reference shared agents ∨ AgentOverridesTop reference agents := by
  by_cases wellFormed : WellFormed agents
  · have number := wellFormed.numbers.mem_iff.mp (List.mem_map_of_mem member)
    rcases Option.isSome_iff_exists.mp (wellFormed.parameters agent member) with ⟨object, given⟩
    cases outcome : document.sparseMembers (agentField agent.agent "parameters") reference object.members with
    | ok kept =>
        have same := sparseMembers_eq outcome
        rw [same] at outcome
        have accepted := (agentEntry_ok_iff fixed).mpr
          ⟨number, object, ⟨wellFormed.segments agent member, given, outcome⟩, rfl⟩
        rw [refused] at accepted
        cases accepted
    | error reason =>
        rcases agentField_parameters number with ⟨base, plain, field⟩
        rw [field] at outcome
        rcases sparseMembers_fault plain object.distinct outcome with ⟨names, fault⟩ | top
        · exact Or.inl (.agentPath member given fault)
        · exact Or.inr ⟨agent, object, member, given, top⟩
  · exact Or.inl (.agentList wellFormed)

/-- Only the fixed paths of a valid document are not editable. -/
theorem fixedKnown_of_valid {reference : Value} (valid : document.validateReference reference = true) :
    document.FixedKnown := by
  intro path constraint found notEditable
  unfold validateReference at valid
  rw [Bool.and_eq_true] at valid
  have checked := valid.2
  split at checked
  · cases checked
  · simp only [Bool.and_eq_true, List.all_eq_true] at checked
    have isEntry : (path, constraint) ∈ document.paths := by
      rcases Option.map_eq_some_iff.mp found with ⟨entry, isFound, rfl⟩
      have named : entry.1 = path := by
        have isNamed := List.find?_some isFound
        exact of_decide_eq_true isNamed
      rw [← named]
      exact List.mem_of_find?_eq_some isFound
    have differs := checked.2 _ isEntry
    rw [notEditable] at differs
    simpa using differs

/-- A refused request has a fault, or an agent gives a value for a leaf at the top. -/
theorem materialize_fault {referenceAgents : List Value} {shared : Option Object} {failure : MaterializeFailure}
    {expected : List (Int × List Char)} (distinct : (Document.object reference).Distinct)
    (valid : document.validateReference (.object reference) = true)
    (areExpected : referenceAgentSegments referenceAgents = some expected)
    (refused : document.materialize reference referenceAgents shared agents = .error failure) :
    document.RequestFault reference shared agents ∨ AgentOverridesTop reference agents := by
  rcases referenceAgentSegments_some areExpected with ⟨three, fixed⟩
  cases shared with
  | none => exact Or.inl (.noShared rfl)
  | some object =>
      cases completed : document.validateCompleteObject "shared_parameters".toList reference object.members with
      | error reason =>
          have wrong := @completeValue_object document "shared_parameters".toList reference object.members
          rw [completed] at wrong
          rcases completeValue_fault (fixedKnown_of_valid valid) _ _ _ _ _ (leads_dotted reference) distinct wrong with
            ⟨names, fault⟩
          exact Or.inl (.sharedPath rfl fault)
      | ok members =>
          unfold materialize at refused
          rw [require_of _ valid, ok_bind, Option.elim_some, ok_bind, completed, ok_bind, areExpected, Option.elim_some,
            ok_bind] at refused
          by_cases count : agents.length = expected.length
          · rw [require_of _ count, ok_bind] at refused
            cases outcome : agents.foldlM (document.materializeAgent reference expected) [] with
            | ok entries =>
                rw [outcome, ok_bind] at refused
                cases refused
            | error reason =>
                rcases foldlM_materializeAgent_error (entryOf_named fixed) outcome with ⟨agent, member, isRefused⟩ | repeated
                · exact agentEntry_fault fixed _ member isRefused
                · refine Or.inl (.agentList fun wellFormed => repeated ?_)
                  exact wellFormed.numbers.nodup_iff.mpr (by decide)
          · refine Or.inl (.agentList fun wellFormed => count ?_)
            have lengths := wellFormed.numbers.length_eq
            rw [List.length_map] at lengths
            rw [lengths, three]
            rfl

end Requests

/-! ## Accepted values have no fault -/

theorem not_sharedFault (known : document.FixedKnown) {field : List Char} {reference actual out : Value}
    (accepted : document.completeValue field reference actual = .ok out) {pathOf : List (List Char) -> List Char}
    (leads : Leads field pathOf reference) (names : List (List Char)) :
    ¬document.SharedFault pathOf reference actual names := by
  have shape := completeValue_shape accepted names
  have agrees := completeValue_agrees accepted names
  -- A leaf of the reference has the value that was given, and it fits.
  have leaves : forall {leaf}, descend names reference = some leaf -> leaf.isObject = false ->
      exists value, descend names actual = some value ∧ document.SharedLeaf (pathOf names) leaf value := by
    intro leaf found isLeaf
    rcases completeValue_leaves known accepted leads found isLeaf with ⟨value, isValue, fits⟩
    have valueLeaf : value.isObject = false := by
      rcases fits with ⟨_, _, satisfied, _⟩
      exact validateValue_leaf satisfied
    rw [isValue] at agrees
    cases given : descend names actual with
    | none =>
        rw [given] at agrees
        cases agrees
    | some other =>
        rw [given] at agrees
        have same : leaf? other = leaf? value := Option.some.inj agrees
        rw [leaf?_of_leaf valueLeaf] at same
        exact ⟨other, rfl, by rwa [eq_of_leaf? same]⟩
  have kinds : (descend names reference).isSome = (descend names actual).isSome := by
    have first := congrArg Option.isSome shape
    have second := congrArg Option.isSome agrees
    rw [Option.isSome_map, Option.isSome_map] at first second
    exact first.trans second.symm
  intro fault
  cases fault with
  | unknown given absent =>
      rw [← kinds, absent] at given
      cases given
  | unlisted found isLeaf absent =>
      rcases leaves found isLeaf with ⟨_, _, constraint, listed, _⟩
      rw [absent] at listed
      cases listed
  | missing found absent =>
      rw [kinds, absent] at found
      cases found
  | @mistyped members value found given isLeaf =>
      rw [found] at shape
      rw [given] at agrees
      cases reached : descend names out with
      | none =>
          rw [reached] at shape
          cases shape
      | some other =>
          rw [reached] at shape agrees
          have isGroup : true = other.isObject := Option.some.inj shape
          have same : leaf? value = leaf? other := Option.some.inj agrees
          rw [leaf?_of_leaf isLeaf, leaf?_of_object isGroup.symm] at same
          cases same
  | outOfConstraint found isLeaf given listed wrong =>
      rcases leaves found isLeaf with ⟨_, isValue, constraint, isListed, satisfied, _⟩
      rw [given] at isValue
      rw [listed] at isListed
      cases isValue
      cases isListed
      rw [wrong] at satisfied
      cases satisfied
  | fixed found isLeaf given listed notEditable wrong =>
      rcases leaves found isLeaf with ⟨_, isValue, constraint, isListed, _, kept⟩
      rw [given] at isValue
      rw [listed] at isListed
      cases isValue
      cases isListed
      rw [notEditable, wrong] at kept
      rcases kept with kept | kept <;> cases kept

theorem Placed.not_overrideFault {pathOf : List (List Char) -> List Char} {reference override : Value}
    (placed : document.Placed pathOf reference override) (names : List (List Char)) :
    ¬document.OverrideFault pathOf reference override names := by
  have place : forall {value leaf}, descend names override = some value -> descend names reference = some leaf ->
      leaf.isObject = value.isObject ∧ (value.isObject = false -> document.OverrideLeaf (pathOf names) value) := by
    intro value leaf given found
    rcases placed names value given with ⟨other, isOther, alike, fits⟩
    rw [found] at isOther
    cases isOther
    exact ⟨alike, fits⟩
  intro fault
  cases fault with
  | unknown given absent =>
      rcases Option.isSome_iff_exists.mp given with ⟨value, isValue⟩
      rcases placed names value isValue with ⟨leaf, found, _⟩
      rw [absent] at found
      cases found
  | unlisted found isLeaf given absent =>
      rcases Option.isSome_iff_exists.mp given with ⟨value, isValue⟩
      rcases (place isValue found).2 ((place isValue found).1.symm.trans isLeaf) with ⟨constraint, listed, _⟩
      rw [absent] at listed
      cases listed
  | mistyped found given isLeaf =>
      have alike := (place given found).1
      rw [isLeaf] at alike
      cases alike
  | outOfConstraint found isLeaf given listed wrong =>
      rcases (place given found).2 ((place given found).1.symm.trans isLeaf) with ⟨constraint, isListed, _, satisfied⟩
      rw [listed] at isListed
      cases isListed
      rw [wrong] at satisfied
      cases satisfied
  | fixed found isLeaf given listed notEditable =>
      rcases Option.isSome_iff_exists.mp given with ⟨value, isValue⟩
      rcases (place isValue found).2 ((place isValue found).1.symm.trans isLeaf) with ⟨constraint, isListed, editable, _⟩
      rw [listed] at isListed
      cases isListed
      rw [notEditable] at editable
      cases editable

/-! ## Listed leaves -/

theorem flattenReference_leaf {path : List Char} {value : Value} (isLeaf : value.isObject = false) :
    flattenReference path value = some [(path, value)] := by
  cases value with
  | object members => cases isLeaf
  | null | bool | number | string | array => simp [flattenReference]

theorem flattenMembers_mem {path : List Char} {members leaves : Members}
    (flattened : flattenMembers path members = some leaves) {member : List Char × Value} (inside : member ∈ members) :
    exists inner, flattenReference (if path = [] then member.1 else path ++ '.' :: member.1) member.2 = some inner ∧
      ∀ leaf ∈ inner, leaf ∈ leaves := by
  induction members generalizing leaves with
  | nil => cases inside
  | cons head rest inductionHypothesis =>
      rcases head with ⟨key, value⟩
      rw [flattenMembers] at flattened
      rcases Option.bind_eq_some_iff.mp flattened with ⟨first, isFirst, remaining⟩
      rcases Option.map_eq_some_iff.mp remaining with ⟨others, areOthers, rfl⟩
      rcases List.mem_cons.mp inside with rfl | later
      · exact ⟨first, isFirst, fun leaf isLeaf => List.mem_append_left _ isLeaf⟩
      · rcases inductionHypothesis areOthers later with ⟨inner, isInner, within⟩
        exact ⟨inner, isInner, fun leaf isLeaf => List.mem_append_right _ (within leaf isLeaf)⟩

theorem flattenMembers_of_object {path : List Char} {members leaves : Members}
    (flattened : flattenReference path (.object members) = some leaves) : flattenMembers path members = some leaves := by
  cases members with
  | nil =>
      rw [flattenReference] at flattened
      cases flattened
  | cons member rest => rwa [flattenReference] at flattened

/-- Every leaf below a path has its text among the leaves. -/
theorem flattenReference_names (value : Value) : forall path leaves names leaf, path ≠ [] ->
    flattenReference path value = some leaves -> descend names value = some leaf -> leaf.isObject = false ->
      path ++ dots names ∈ leaves.map Prod.fst := by
  have leafCase : forall {value : Value} {path leaves names leaf}, value.isObject = false ->
      flattenReference path value = some leaves -> descend names value = some leaf ->
        path ++ dots names ∈ leaves.map Prod.fst := by
    intro value path leaves names leaf isLeaf flattened found
    cases names with
    | nil =>
        rw [flattenReference_leaf isLeaf] at flattened
        cases flattened
        exact List.mem_singleton.mpr (List.append_nil path)
    | cons name rest =>
        rw [descend_leaf isLeaf] at found
        cases found
  have hereditary : Hereditary fun value : Value => forall path leaves names leaf, path ≠ [] ->
      flattenReference path value = some leaves -> descend names value = some leaf -> leaf.isObject = false ->
        path ++ dots names ∈ leaves.map Prod.fst := by
    refine ⟨?_, fun _ => ?_, fun _ => ?_, fun _ => ?_, fun _ _ => ?_, ?_⟩
    iterate 5
      intro path leaves names leaf _ flattened found _
      exact leafCase rfl flattened found
    intro members each path leaves names leaf nonempty flattened found isLeaf
    cases names with
    | nil =>
        cases found
        cases isLeaf
    | cons name rest =>
        rcases descend_cons_some found with ⟨child, isChild, below⟩
        have member := mem_of_member? isChild
        rcases flattenMembers_mem (flattenMembers_of_object flattened) member with ⟨inner, isInner, within⟩
        rw [if_neg nonempty] at isInner
        have inInner := each _ member _ _ rest leaf (List.append_ne_nil_of_left_ne_nil nonempty _) isInner below isLeaf
        rcases List.mem_map.mp inInner with ⟨entry, isEntry, named⟩
        refine List.mem_map.mpr ⟨entry, within entry isEntry, named.trans ?_⟩
        rw [List.append_assoc]
        rfl
  exact hereditary.all value

/-- A leaf of the reference has a constraint, unless its path begins with an empty name. -/
theorem listed_of_valid {reference : Members} (valid : document.validateReference (.object reference) = true)
    {name : List Char} (nonempty : name ≠ []) {rest : List (List Char)} {leaf : Value}
    (found : descend (name :: rest) (.object reference) = some leaf) (isLeaf : leaf.isObject = false) :
    (document.constraint? (dotted (name :: rest))).isSome = true := by
  unfold validateReference at valid
  rw [Bool.and_eq_true] at valid
  have checked := valid.2
  split at checked
  · cases checked
  · next flattened isFlattened =>
      rcases descend_cons_some found with ⟨child, isChild, below⟩
      rcases flattenMembers_mem (flattenMembers_of_object isFlattened) (mem_of_member? isChild) with
        ⟨inner, isInner, within⟩
      rw [if_pos rfl] at isInner
      have inInner := flattenReference_names child name inner rest leaf nonempty isInner below isLeaf
      rcases List.mem_map.mp inInner with ⟨entry, isEntry, named⟩
      have kept := mem_keepLast_names (List.mem_map_of_mem (within entry isEntry))
      rcases List.mem_map.mp kept with ⟨last, isLast, same⟩
      simp only [Bool.and_eq_true, List.all_eq_true] at checked
      have listed := checked.1.1.2 last isLast
      rw [same, named] at listed
      exact Option.isSome_of_any listed

/-! ## The theorem -/

/-- What a materialized profile keeps. -/
structure Kept (document : ConstraintDocument) (reference : Members) (referenceAgents : List Value) (object : Object)
    (agents : List AgentOverride) (profile : MaterializedProfile) : Prop where
  shape : SameShape (.object reference) (.object profile.shared)
  leaves : forall names leaf, descend names (.object reference) = some leaf -> leaf.isObject = false ->
    exists value, descend names (.object profile.shared) = some value ∧ document.SharedLeaf (dotted names) leaf value
  given : Agrees (.object object.members) (.object profile.shared)
  stored : exists overrides : Int -> Object,
    (agents.map AgentOverride.agent).Perm agentNumbers ∧
    (∀ agent ∈ agents, agent.parameters = some (overrides agent.agent)) ∧
    (profile.agents = agentNumbers.map fun agent => agentObject agent (fixedSegment agent) (overrides agent).members) ∧
    (∀ agent ∈ agentNumbers, document.Placed dotted (.object reference) (.object (overrides agent).members)) ∧
    exists again : Object, again.members = profile.shared ∧
      document.materialize reference referenceAgents (some again)
        (agentNumbers.map fun agent => { agent, segment := fixedSegment agent, parameters := some (overrides agent) }) =
          .ok profile
  order : forall others, others.Perm agents ->
    document.materialize reference referenceAgents (some object) others = .ok profile

/-- A success keeps the shape, and a failure has a fault.  Every leaf is known to the document, unless
its path begins with an empty name. -/
structure ShapePreserved (document : ConstraintDocument) (reference : Members) (referenceAgents : List Value)
    (shared : Option Object) (agents : List AgentOverride) : Prop where
  accepted : forall profile, document.materialize reference referenceAgents shared agents = .ok profile ->
    exists object, shared = some object ∧ document.Kept reference referenceAgents object agents profile
  refused : forall failure, document.materialize reference referenceAgents shared agents = .error failure ->
    document.RequestFault reference shared agents
  listed : forall name rest leaf, name ≠ [] -> descend (name :: rest) (.object reference) = some leaf ->
    leaf.isObject = false -> (document.constraint? (dotted (name :: rest))).isSome = true

section Theorem

variable {reference : Members} {referenceAgents : List Value} {shared : Option Object} {agents : List AgentOverride}

theorem Accepts.placed {agent : AgentOverride} {object : Object} (member : agent.agent ∈ agentNumbers)
    (accepts : document.Accepts reference agent object) : document.Placed dotted (.object reference) (.object object.members) := by
  rcases agentField_parameters member with ⟨base, plain, field⟩
  have kept := accepts.2.2
  rw [field] at kept
  exact sparseMembers_placed plain kept

theorem Accepts.overridesTop {agent : AgentOverride} {object : Object} (member : agent.agent ∈ agentNumbers)
    (accepts : document.Accepts reference agent object) : ¬OverridesTop reference object.members := by
  rcases agentField_parameters member with ⟨base, plain, field⟩
  have kept := accepts.2.2
  rw [field] at kept
  exact sparseMembers_overridesTop plain kept

theorem kept_of_ok {profile : MaterializedProfile} (distinct : (Document.object reference).Distinct)
    (done : document.materialize reference referenceAgents shared agents = .ok profile) :
    exists object, shared = some object ∧ document.Kept reference referenceAgents object agents profile := by
  rcases materialize_ok_iff.mp done with
    ⟨valid, ⟨object, rfl, completed⟩, segments, numbers, overrides, accepts, areAgents⟩
  have value : document.completeValue "shared_parameters".toList (.object reference) (.object object.members) =
      .ok (.object profile.shared) := by
    rw [completeValue_object, completed]
    rfl
  have again : document.validateCompleteObject "shared_parameters".toList reference profile.shared = .ok profile.shared := by
    have repeated := completeValue_again value distinct
    rw [completeValue_object] at repeated
    cases outcome : document.validateCompleteObject "shared_parameters".toList reference profile.shared with
    | error reason =>
        rw [outcome] at repeated
        cases repeated
    | ok members =>
        rw [outcome] at repeated
        cases repeated
        rfl
  have located : ∀ agent ∈ agentNumbers, exists override, override ∈ agents ∧ override.agent = agent := by
    intro agent member
    exact List.mem_map.mp (numbers.mem_iff.mpr member)
  refine ⟨object, rfl, completeValue_shape value, ?_, completeValue_agrees value, ?_, ?_⟩
  · intro names leaf found isLeaf
    exact completeValue_leaves (fixedKnown_of_valid valid) value (leads_dotted reference) found isLeaf
  · refine ⟨overrides, numbers, fun agent member => (accepts agent member).2.1, areAgents, ?_,
      ⟨profile.shared, completeValue_distinct value distinct object.distinct⟩, rfl, ?_⟩
    · intro agent member
      rcases located agent member with ⟨override, isOverride, rfl⟩
      exact (accepts override isOverride).placed member
    · have same : (agentNumbers.map fun agent => AgentOverride.mk agent (fixedSegment agent) (some (overrides agent))).map
          AgentOverride.agent = agentNumbers := by
        rw [List.map_map]
        exact List.map_id _
      refine materialize_ok_iff.mpr ⟨valid, ⟨_, rfl, again⟩, segments, by rw [same], overrides, ?_, areAgents⟩
      intro agent member
      rcases List.mem_map.mp member with ⟨number, isNumber, rfl⟩
      rcases located number isNumber with ⟨override, isOverride, rfl⟩
      exact ⟨Or.inr rfl, rfl, (accepts override isOverride).2.2⟩
  · intro others perm
    refine materialize_ok_iff.mpr ⟨valid, ⟨object, rfl, completed⟩, segments, (perm.map _).trans numbers, overrides, ?_,
      areAgents⟩
    exact fun agent member => accepts agent (perm.mem_iff.mp member)

end Theorem

/-! ### Small documents -/

def sampleNumber (value : Nat) : Value :=
  .number (Double.ofFraction value 1)

def sampleAgents : List Value :=
  [agentObject 1 "EARLY".toList [], agentObject 2 "MIDDLE".toList [], agentObject 3 "LATE".toList []]

def sampleConstraint (editable : Bool) : Constraint where
  type := .integer
  editable := editable
  nullable := false
  minimum := none
  maximum := none
  allowedValues := none

/-- A group with one parameter. -/
def sampleGroup (name key : String) (value : Nat) : List Char × Value :=
  (name.toList, .object [(key.toList, sampleNumber value)])

theorem distinct_number (value : Nat) : (sampleNumber value).Distinct :=
  Distinct.number _

def sampleDocument : ConstraintDocument where
  contractVersion := parametersContractVersion
  paths := [("feature_state.nLag".toList, sampleConstraint true), ("split.agent_count".toList, sampleConstraint false)]
  distinct := by decide

/-- Two groups with one parameter each. -/
def sampleObject (value : Nat) : Object where
  members := [sampleGroup "feature_state" "nLag" value, sampleGroup "split" "agent_count" 3]
  distinct := by
    refine Distinct.object (by simp only [sampleGroup, List.map_cons, List.map_nil]; decide +kernel) ?_
    intro member inside
    simp only [sampleGroup, List.mem_cons, List.not_mem_nil, or_false] at inside
    rcases inside with rfl | rfl <;>
      exact Distinct.object (List.nodup_singleton _) fun _ inGroup => by
        rw [List.mem_singleton.mp inGroup]
        exact distinct_number _

def sampleOverride : Object where
  members := [sampleGroup "feature_state" "nLag" 10]
  distinct := by
    refine Distinct.object (List.nodup_singleton _) fun member inside => ?_
    rw [List.mem_singleton.mp inside]
    refine Distinct.object (List.nodup_singleton _) fun _ inGroup => ?_
    rw [List.mem_singleton.mp inGroup]
    exact distinct_number _

def sampleRequest : List AgentOverride :=
  [{ agent := 2, segment := [], parameters := some noParameters },
    { agent := 1, segment := [], parameters := some sampleOverride },
    { agent := 3, segment := "LATE".toList, parameters := some noParameters }]

def isAccepted {Result : Type} (outcome : Except MaterializeFailure Result) : Bool :=
  match outcome with
  | .ok _ => true
  | .error _ => false

theorem exists_of_accepted {Result : Type} {outcome : Except MaterializeFailure Result}
    (accepted : isAccepted outcome = true) : exists result, outcome = .ok result := by
  cases outcome with
  | ok result => exact ⟨result, rfl⟩
  | error failure => cases accepted

/-- One parameter that stands in no group. -/
def topDocument : ConstraintDocument where
  contractVersion := parametersContractVersion
  paths := [("x".toList, sampleConstraint true)]
  distinct := by decide

def topObject : Object where
  members := [("x".toList, sampleNumber 1)]
  distinct := by
    refine Distinct.object (List.nodup_singleton _) fun member inside => ?_
    rw [List.mem_singleton.mp inside]
    exact distinct_number _

def topRequest : List AgentOverride :=
  [{ agent := 1, segment := [], parameters := some topObject },
    { agent := 2, segment := [], parameters := some noParameters },
    { agent := 3, segment := [], parameters := some noParameters }]

end ConstraintDocument

end Profiles
end FederatedIot
