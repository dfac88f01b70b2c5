import FederatedIot.Foundation.JsonInjective
import FederatedIot.Queue.Admission

namespace FederatedIot
namespace Queue

open Foundation Foundation.Outcome

/-!
# The canonical form of a request

A valid request names each of the three agents once and overrides none of
their parameters.  Two valid requests have the same canonical form exactly
when they differ at most in the order of their agents.
-/

namespace CreateSimulationRequest

/-- The requests agree apart from the order in which they list the agents. -/
def SameUpToAgentOrder (first second : CreateSimulationRequest) : Prop :=
  first.agentOverrides.Perm second.agentOverrides ∧
    { first with agentOverrides := second.agentOverrides } = second

end CreateSimulationRequest

variable {first second : CreateSimulationRequest}

/-! ## Valid agent sets -/

/-- The agent overrides nothing. -/
def AgentOverride.IsPlain (agent : AgentOverride) : Prop :=
  agent.parameters = none ∨ agent.parameters = some []

theorem isPlain_iff (agent : AgentOverride) :
    (agent.parameters.getD []).length = 0 ↔ agent.IsPlain := by
  unfold AgentOverride.IsPlain
  rw [List.length_eq_zero_iff]
  cases agent.parameters with
  | none => exact ⟨fun _ => Or.inl rfl, fun _ => rfl⟩
  | some fields =>
      constructor
      · intro empty
        exact Or.inr (congrArg some empty)
      · rintro (absent | empty)
        · cases absent
        · exact Option.some.inj empty

/-- What the loop over the agents accepts, whatever their order. -/
def AgentsAccepted (seen : List Int) (agents : List AgentOverride) : Prop :=
  (∀ agent ∈ agents, 1 ≤ agent.agent ∧ agent.agent ≤ 3 ∧ agent.agent ∉ seen ∧ agent.IsPlain) ∧
    (agents.map AgentOverride.agent).Nodup

theorem validateAgents_ok_iff (seen : List Int) (agents : List AgentOverride) :
    validateAgents seen agents = .ok Unit.unit ↔ AgentsAccepted seen agents := by
  induction agents generalizing seen with
  | nil => exact ⟨fun _ => ⟨fun _ member => (by cases member), List.nodup_nil⟩, fun _ => rfl⟩
  | cons agent rest inductionHypothesis =>
      unfold validateAgents AgentsAccepted
      simp only [bind_ok_iff, require_ok_iff, exists_const, inductionHypothesis, isPlain_iff]
      unfold AgentsAccepted
      rw [List.map_cons, List.nodup_cons]
      constructor
      · rintro ⟨⟨least, most, unseen⟩, plain, later, nodup⟩
        refine ⟨?_, ?_, nodup⟩
        · intro member inside
          rcases List.mem_cons.mp inside with same | inRest
          · rw [same]
            exact ⟨least, most, unseen, plain⟩
          · rcases later member inRest with ⟨memberLeast, memberMost, memberUnseen, memberPlain⟩
            exact ⟨memberLeast, memberMost, fun old => memberUnseen (List.mem_cons_of_mem _ old),
              memberPlain⟩
        · intro repeated
          rcases List.mem_map.mp repeated with ⟨member, inRest, same⟩
          exact (later member inRest).2.2.1 (by rw [same]; exact List.mem_cons_self)
      · rintro ⟨accepted, fresh, nodup⟩
        rcases accepted agent List.mem_cons_self with ⟨least, most, unseen, plain⟩
        refine ⟨⟨least, most, unseen⟩, plain, ?_, nodup⟩
        intro member inRest
        rcases accepted member (List.mem_cons_of_mem agent inRest) with
          ⟨memberLeast, memberMost, memberUnseen, memberPlain⟩
        refine ⟨memberLeast, memberMost, ?_, memberPlain⟩
        intro old
        rcases List.mem_cons.mp old with same | earlier
        · exact fresh (same ▸ List.mem_map_of_mem inRest)
        · exact memberUnseen earlier

theorem validateAgentSet_ok_iff (agents : List AgentOverride) :
    validateAgentSet agents = .ok Unit.unit ↔ agents.length = 3 ∧ AgentsAccepted [] agents := by
  unfold validateAgentSet
  simp only [bind_ok_iff, require_ok_iff, exists_const, validateAgents_ok_iff]

theorem AgentsAccepted.perm {agents others : List AgentOverride} (accepted : AgentsAccepted [] agents)
    (perm : agents.Perm others) : AgentsAccepted [] others :=
  ⟨fun agent member => accepted.1 agent (perm.mem_iff.mpr member),
    (perm.map AgentOverride.agent).nodup_iff.mp accepted.2⟩

theorem validate_agents (valid : first.validate = .ok Unit.unit) :
    AgentsAccepted [] first.agentOverrides := by
  unfold CreateSimulationRequest.validate at valid
  simp only [bind_ok_iff, require_ok_iff, exists_const, validateAgentSet_ok_iff] at valid
  exact valid.2.2.2.2

/-- Validity does not depend on the order of the agents. -/
theorem validate_of_same (same : first.SameUpToAgentOrder second)
    (valid : first.validate = .ok Unit.unit) : second.validate = .ok Unit.unit := by
  rcases same with ⟨perm, others⟩
  rw [← others]
  unfold CreateSimulationRequest.validate at valid ⊢
  simp only [bind_ok_iff, require_ok_iff, exists_const, validateAgentSet_ok_iff] at valid ⊢
  rcases valid with ⟨references, mode, seed, length, accepted⟩
  exact ⟨references, mode, seed, perm.length_eq ▸ length, accepted.perm perm⟩

/-! ## Sorted agents -/

theorem sortedAgents_perm (agents : List AgentOverride) : (sortedAgents agents).Perm agents :=
  List.perm_insertionSort _ agents

/-- Agents with different numbers are sorted in one way only. -/
theorem sortedAgents_eq_of_perm {agents others : List AgentOverride} (perm : agents.Perm others)
    (distinct : (agents.map AgentOverride.agent).Nodup) : sortedAgents agents = sortedAgents others := by
  have sorted : forall list : List AgentOverride,
      (sortedAgents list).Pairwise fun left right => left.agent ≤ right.agent := fun list =>
    List.pairwise_insertionSort (fun left right : AgentOverride => left.agent ≤ right.agent) list
  refine List.Perm.eq_of_pairwise ?_ (sorted agents) (sorted others)
    ((sortedAgents_perm agents).trans (perm.trans (sortedAgents_perm others).symm))
  intro left right leftMember rightMember below above
  have leftInside := (sortedAgents_perm agents).mem_iff.mp leftMember
  have rightInside := perm.mem_iff.mpr ((sortedAgents_perm others).mem_iff.mp rightMember)
  exact List.inj_on_of_nodup_map distinct leftInside rightInside (le_antisymm below above)

/-! ## The sorted fields of a request -/

theorem sortItemKeys_eq_map (items : List Json) : Json.sortItemKeys items = items.map Json.sortKeys := by
  induction items with
  | nil => rfl
  | cons item rest inductionHypothesis =>
      unfold Json.sortItemKeys
      rw [inductionHypothesis, List.map_cons]

/-- The encoded agents in their canonical order. -/
def canonicalAgents (request : CreateSimulationRequest) : List Json :=
  (sortedAgents request.agentOverrides).map fun agent => agent.json.sortKeys

/-- The canonical text of a request lists its fields by name. -/
theorem canonicalSimulationRequest_eq (request : CreateSimulationRequest) :
    canonicalSimulationRequest request = String.ofList (Json.encodeChars (.object
      [("agent_overrides", .array (canonicalAgents request)),
        ("dataset_id", .string request.datasetId), ("display_name", .string request.displayName),
        ("load_mapping_version_id", .string request.loadMappingVersionId),
        ("parameter_profile_version_id", .string request.parameterProfileVersionId),
        ("run_mode", .string request.runMode), ("seed", Json.ofInt request.seed.toInt)])) := by
  have agents : canonicalAgents request =
      Json.sortItemKeys ((sortedAgents request.agentOverrides).map AgentOverride.json) := by
    rw [sortItemKeys_eq_map, List.map_map]
    rfl
  unfold canonicalSimulationRequest Json.canonical
  rw [agents]
  simp +decide only [Json.ofInt, Json.sortKeys, Json.sortFieldKeys, Json.orderFields,
    List.insertionSort_cons, List.insertionSort_nil, List.orderedInsert, ite_true, ite_false]

theorem sortKeys_agent (agent : AgentOverride) :
    agent.json.sortKeys = .object
      [("agent", Json.ofInt agent.agent),
        ("parameters", (Json.ofOption Json.object agent.parameters).sortKeys)] := by
  unfold AgentOverride.json
  simp +decide only [Json.ofInt, Json.sortKeys, Json.sortFieldKeys, Json.orderFields,
    List.insertionSort_cons, List.insertionSort_nil, List.orderedInsert, ite_true]

/-- A plain agent is determined by its canonical encoding. -/
theorem agent_eq_of_sortKeys {agent other : AgentOverride} (plain : agent.IsPlain)
    (same : agent.json.sortKeys = other.json.sortKeys) : agent = other := by
  rw [sortKeys_agent, sortKeys_agent] at same
  simp only [Json.object.injEq, List.cons.injEq, Prod.mk.injEq, true_and, and_true] at same
  rcases same with ⟨numbers, parameters⟩
  rcases agent with ⟨number, mine⟩
  rcases other with ⟨otherNumber, theirs⟩
  have sameNumber : number = otherNumber := by
    have literals : Decimal.ofInt number = Decimal.ofInt otherNumber := Json.number.inj numbers
    exact congrArg Decimal.mantissa literals
  have sameParameters : mine = theirs := by
    rcases plain with absent | empty
    · have mineAbsent : mine = none := absent
      rw [mineAbsent] at parameters ⊢
      cases theirs with
      | none => rfl
      | some fields => cases parameters
    · have mineEmpty : mine = some [] := empty
      rw [mineEmpty] at parameters ⊢
      cases theirs with
      | none => cases parameters
      | some fields =>
          cases fields with
          | nil => rfl
          | cons field rest =>
              have ordered : [] = Json.orderFields (Json.sortFieldKeys (field :: rest)) :=
                Json.object.inj parameters
              have lengths := congrArg List.length ordered
              unfold Json.orderFields Json.sortFieldKeys at lengths
              rw [List.length_insertionSort] at lengths
              cases lengths
  rw [sameNumber, sameParameters]

theorem agents_eq_of_sortKeys {agents others : List AgentOverride}
    (plain : ∀ agent ∈ agents, agent.IsPlain)
    (same : (agents.map fun agent => agent.json.sortKeys) =
      others.map fun agent => agent.json.sortKeys) : agents = others := by
  induction agents generalizing others with
  | nil =>
      cases others with
      | nil => rfl
      | cons other rest => cases same
  | cons agent rest inductionHypothesis =>
      cases others with
      | nil => cases same
      | cons other otherRest =>
          rw [List.map_cons, List.map_cons, List.cons.injEq] at same
          rw [agent_eq_of_sortKeys (plain agent List.mem_cons_self) same.1,
            inductionHypothesis (fun member inside => plain member (List.mem_cons_of_mem agent inside))
              same.2]

/-! ## Canonical forms -/

/-- A request with the canonical form of a valid one differs from it at most
in the order of the agents. -/
theorem same_of_canonical (valid : first.validate = .ok Unit.unit)
    (same : canonicalSimulationRequest first = canonicalSimulationRequest second) :
    first.SameUpToAgentOrder second := by
  rw [canonicalSimulationRequest_eq, canonicalSimulationRequest_eq] at same
  have values := Json.encodeChars_injective (String.ofList_injective same)
  simp only [Json.object.injEq, List.cons.injEq, Prod.mk.injEq, true_and, and_true,
    Json.array.injEq, Json.string.injEq] at values
  rcases values with ⟨agents, dataset, display, mapping, profile, mode, seeds⟩
  have seedsEqual : first.seed = second.seed := by
    have literals : Decimal.ofInt first.seed.toInt = Decimal.ofInt second.seed.toInt :=
      Json.number.inj seeds
    exact Int64.toInt.inj (congrArg Decimal.mantissa literals)
  have sorted : sortedAgents first.agentOverrides = sortedAgents second.agentOverrides := by
    refine agents_eq_of_sortKeys ?_ agents
    intro agent member
    exact ((validate_agents valid).1 agent
      ((sortedAgents_perm first.agentOverrides).mem_iff.mp member)).2.2.2
  constructor
  · have firstPerm := sortedAgents_perm first.agentOverrides
    rw [sorted] at firstPerm
    exact firstPerm.symm.trans (sortedAgents_perm second.agentOverrides)
  · cases first
    cases second
    cases dataset
    cases display
    cases mapping
    cases profile
    cases mode
    cases seedsEqual
    rfl

theorem canonical_of_same (valid : first.validate = .ok Unit.unit)
    (same : first.SameUpToAgentOrder second) :
    canonicalSimulationRequest first = canonicalSimulationRequest second := by
  rcases same with ⟨perm, others⟩
  have sorted := sortedAgents_eq_of_perm perm (validate_agents valid).2
  rw [← others]
  unfold canonicalSimulationRequest
  rw [sorted]

/-- Requests have one canonical form exactly when they differ at most in the
order of the agents. -/
theorem canonical_eq_iff (valid : first.validate = .ok Unit.unit) :
    canonicalSimulationRequest first = canonicalSimulationRequest second ↔
      first.SameUpToAgentOrder second :=
  ⟨same_of_canonical valid, canonical_of_same valid⟩

end Queue
end FederatedIot
