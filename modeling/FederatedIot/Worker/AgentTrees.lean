import FederatedIot.Foundation.Relation
import FederatedIot.Queue.System
import FederatedIot.Worker.EffectiveParameters

namespace FederatedIot
namespace Worker

open Foundation Foundation.Outcome Foundation.Relation

/-!
# The trees of the agents

A frozen profile lists its three agents in any order.  The service sorts them,
the worker searches its own list and the browser the list of the profile, and
each of them finds the same agent.
-/

/-! ## Searches -/

/-- Searches of two lists whose elements correspond and are selected together. -/
theorem find?_of_forall₂ {α β : Type*} {related : α -> β -> Prop} {left : α -> Bool} {right : β -> Bool}
    {firsts : List α} {seconds : List β} (pairs : List.Forall₂ related firsts seconds)
    (together : forall first second, related first second -> left first = right second) :
    Option.Rel related (firsts.find? left) (seconds.find? right) := by
  induction pairs with
  | nil => exact Option.Rel.none
  | @cons first second firsts seconds holds _ inductionHypothesis =>
      rw [List.find?_cons, List.find?_cons, together first second holds]
      cases right second with
      | true => exact Option.Rel.some holds
      | false => exact inductionHypothesis

/-! ## The items of a task -/

theorem loads_eq_int {value : Json} {number : Int} (same : value.loads = .int number) :
    value = Json.ofInt number := by
  cases value with
  | number literal =>
      rcases literal with ⟨mantissa, scale⟩
      rw [Json.loads, Decimal.loads] at same
      split at same
      · rename_i whole
        simp only at whole
        cases same
        rw [whole, Json.ofInt, Decimal.ofInt]
      · split at same <;> cases same
  | null | bool _ | string _ | array _ | object _ => cases same

theorem loads_eq_str {value : Json} {text : String} (same : value.loads = .str text) : value = .string text := by
  cases value with
  | string other =>
      cases same
      rfl
  | number literal =>
      rw [Json.loads, Decimal.loads] at same
      split at same
      · cases same
      · split at same <;> cases same
  | null | bool _ | array _ | object _ => cases same

/-- A value that was read under a name is stored there. -/
theorem get_loads {name : String} {fields : List (String × Json)} {value : PyValue} (present : value ≠ .none)
    (read : get name (Fields.mapValues Json.loads fields) = value) :
    ∃ stored, Fields.lookup name fields = some stored ∧ stored.loads = value := by
  rw [get, Fields.lookup_mapValues] at read
  cases found : Fields.lookup name fields with
  | none =>
      rw [found] at read
      exact absurd read.symm present
  | some stored =>
      rw [found] at read
      exact ⟨stored, rfl, read⟩

/-- An item of the task and the parameters that the worker prepares from it. -/
structure PreparedAgent (shared : List (String × Json)) (item : Json)
    (prepared : Int × AgentPreparationParameters) : Prop where
  item : ∃ fields segment override, item = .object fields ∧
    Fields.lookup "agent" fields = some (Json.ofInt prepared.1) ∧
    Fields.lookup "segment" fields = some (.string segment) ∧
    Fields.lookup "parameters" fields = some (.object override) ∧
    AcceptedGroups shared override prepared.2.effectiveParameters
  range : 1 ≤ prepared.1 ∧ prepared.1 ≤ 3

/-- What one turn of the check of the collection accepts. -/
theorem validateAgentItems_cons {seen result : List Int} {item : Json} {rest : List PyValue}
    (accepted : validateAgentItems seen (item.loads :: rest) = .ok result) :
    ∃ fields agent segment override, item = .object fields ∧
      Fields.lookup "agent" fields = some (Json.ofInt agent) ∧
      Fields.lookup "segment" fields = some (.string segment) ∧
      Fields.lookup "parameters" fields = some (.object override) ∧
      agentSegment agent = some segment ∧ agent ∉ seen ∧
      validateAgentItems (agent :: seen) rest = .ok result := by
  rcases validateAgentItems_cons_ok accepted with
    ⟨loadedFields, agent, segment, override, loaded, isAgent, isSegment, isOverride, isKnown, unseen, rest⟩
  rcases loads_eq_dict loaded with ⟨fields, rfl, rfl⟩
  rcases get_loads (fun impossible => (by cases impossible)) isAgent with ⟨_, agentStored, agentLoads⟩
  rcases get_loads (fun impossible => (by cases impossible)) isSegment with ⟨_, segmentStored, segmentLoads⟩
  rcases get_loads (fun impossible => (by cases impossible)) isOverride with ⟨_, overrideStored, overrideLoads⟩
  rcases loads_eq_dict overrideLoads with ⟨overrideFields, rfl, _⟩
  rw [loads_eq_int agentLoads] at agentStored
  rw [loads_eq_str segmentLoads] at segmentStored
  exact ⟨fields, agent, segment, overrideFields, rfl, agentStored, segmentStored, overrideStored, isKnown, unseen,
    rest⟩

/-- One turn of the loop that prepares the agents. -/
theorem agentParameters_ok {shared fields override : List (String × Json)} {sharedTree : List (String × PyValue)}
    {sharedField : String} {seeds : Int -> Int} {agent : Int} {prepared : Int × AgentPreparationParameters}
    (sharedAccepted : validatedParameterTree (Fields.mapValues Json.loads shared) sharedField = .ok sharedTree)
    (isAgent : Fields.lookup "agent" fields = some (Json.ofInt agent))
    (isOverride : Fields.lookup "parameters" fields = some (.object override))
    (done : agentParameters sharedTree seeds (Json.object fields).loads = .ok prepared) :
    prepared.1 = agent ∧ AcceptedGroups shared override prepared.2.effectiveParameters := by
  have agentRead : get "agent" (Fields.mapValues Json.loads fields) = .int agent := by
    rw [get, Fields.lookup_mapValues, isAgent]
    rfl
  have overrideRead : get "parameters" (Fields.mapValues Json.loads fields) =
      .dict (Fields.mapValues Json.loads override) := by
    rw [get, Fields.lookup_mapValues, isOverride, Option.map_some, Json.loads, Json.loadsFields_eq]
    rfl
  rw [Json.loads, Json.loadsFields_eq] at done
  simp only [agentParameters, agentRead, overrideRead, objectOf, bind_ok_iff, pure_ok_iff, Except.ok.injEq,
    exists_eq_left'] at done
  rcases done with ⟨merged, merges, tree, accepted, rfl⟩
  exact ⟨rfl, acceptedGroups sharedAccepted merges accepted⟩

/-- The agents that the worker prepares are those of the items, each once. -/
theorem preparedAgents {shared : List (String × Json)} {sharedTree : List (String × PyValue)}
    {sharedField : String} {seeds : Int -> Int} {items : List Json}
    {byAgent : List (Int × AgentPreparationParameters)} {seen result : List Int}
    (sharedAccepted : validatedParameterTree (Fields.mapValues Json.loads shared) sharedField = .ok sharedTree)
    (valid : validateAgentItems seen (items.map Json.loads) = .ok result)
    (prepared : List.Forall₂ (fun item entry => agentParameters sharedTree seeds (Json.loads item) = .ok entry) items
      byAgent) :
    List.Forall₂ (PreparedAgent shared) items byAgent ∧ (byAgent.map Prod.fst).Nodup ∧
      ∀ entry ∈ byAgent, entry.1 ∉ seen := by
  induction prepared generalizing seen with
  | nil => exact ⟨List.Forall₂.nil, List.nodup_nil, fun _ impossible => (by cases impossible)⟩
  | @cons item entry items byAgent done _ inductionHypothesis =>
      rcases validateAgentItems_cons valid with
        ⟨fields, agent, segment, override, rfl, isAgent, isSegment, isOverride, known, unseen, rest⟩
      rcases agentParameters_ok sharedAccepted isAgent isOverride done with ⟨rfl, accepted⟩
      rcases inductionHypothesis rest with ⟨others, distinct, fresh⟩
      refine ⟨List.Forall₂.cons ⟨⟨fields, segment, override, rfl, isAgent, isSegment, isOverride, accepted⟩,
        agentSegment_range known⟩ others, ?_, ?_⟩
      · rw [List.map_cons, List.nodup_cons]
        refine ⟨?_, distinct⟩
        intro again
        rcases List.mem_map.mp again with ⟨other, member, same⟩
        exact fresh other member (List.mem_cons.mpr (Or.inl same))
      · intro other member
        rcases List.mem_cons.mp member with isFirst | inRest
        · rw [isFirst]
          exact unseen
        · exact fun inSeen => fresh other inRest (List.mem_cons_of_mem _ inSeen)

/-! ## The frozen agents -/

/-- The number of an agent in an item. -/
def agentOf (item : Json) : Option Int :=
  (item.asObject?.bind (Json.lookup "agent")).bind Json.asInt?

/-- The parameters of an agent in the effective part of a snapshot. -/
def frozenParameters (effective : Json) (agent : Int) : Option Json :=
  let items := ((effective.asObject?.bind (Json.lookup "agents")).bind Json.asArray?).getD []
  let selected := items.find? fun item => agentOf item = some agent
  (selected.bind Json.asObject?).bind (Json.lookup "parameters")

theorem asInt?_ofInt (value : Int) : (Json.ofInt value).asInt? = some value := by
  rw [Json.ofInt, Decimal.ofInt, Json.asInt?, pow_zero, Int.emod_one, if_pos rfl, Int.ediv_one]

/-- The entry of an agent in the snapshot of the service. -/
structure FrozenAgent (prepared : Int × AgentPreparationParameters) (frozen : Int × Json) : Prop where
  sameAgent : frozen.1 = prepared.1
  agent : agentOf frozen.2 = some frozen.1
  parameters : ∃ tree, frozen.2.asObject?.bind (Json.lookup "parameters") = some tree ∧
    FrozenTree tree (.dict prepared.2.effectiveParameters)

/-- The service accepts the item of an agent that the worker prepares. -/
theorem effectiveAgent_ok {shared : List (String × Json)} {item : Json}
    {prepared : Int × AgentPreparationParameters} {seen : List Int} (accepted : PreparedAgent shared item prepared)
    (formed : item.wellFormed = true) (unseen : prepared.1 ∉ seen) :
    ∃ frozen, Queue.effectiveAgent shared seen item = .ok frozen ∧ FrozenAgent prepared frozen := by
  rcases accepted with ⟨⟨fields, segment, override, rfl, isAgent, isSegment, isOverride, groups⟩, range⟩
  rcases frozen_groups groups (Json.wellFormed_lookup formed isOverride) with ⟨merged, done, same⟩
  refine ⟨(prepared.1, .object
    [("agent", Json.ofInt prepared.1), ("segment", .string segment), ("parameters", .object merged)]), ?_,
    rfl, asInt?_ofInt _, .object merged, rfl, same⟩
  have agentRead : (Json.lookup "agent" fields).bind Json.asInt? = some prepared.1 :=
    (congrArg (fun stored => Option.bind stored Json.asInt?) isAgent).trans (asInt?_ofInt _)
  have segmentRead : (Json.lookup "segment" fields).bind Json.asString? = some segment :=
    congrArg (fun stored => Option.bind stored Json.asString?) isSegment
  have overrideRead : (Json.lookup "parameters" fields).bind Json.asObject? = some override :=
    congrArg (fun stored => Option.bind stored Json.asObject?) isOverride
  simp only [Queue.effectiveAgent, Json.asObject?, agentRead, segmentRead, overrideRead, done, bind_ok_iff,
    require_ok_iff, exists_const, pure_ok_iff, Except.ok.injEq, exists_eq_left']
  exact ⟨⟨range.1, range.2, unseen⟩, trivial⟩

/-- The loop of the service over the items. -/
theorem effectiveAgents_ok {shared : List (String × Json)} {items : List Json}
    {byAgent : List (Int × AgentPreparationParameters)} {seen : List Int}
    (pairs : List.Forall₂ (PreparedAgent shared) items byAgent) (formed : ∀ item ∈ items, item.wellFormed = true)
    (distinct : (byAgent.map Prod.fst).Nodup) (fresh : ∀ entry ∈ byAgent, entry.1 ∉ seen) :
    ∃ frozen, Queue.effectiveAgents shared seen items = .ok frozen ∧ List.Forall₂ FrozenAgent byAgent frozen := by
  induction pairs generalizing seen with
  | nil => exact ⟨[], rfl, List.Forall₂.nil⟩
  | @cons item entry items byAgent accepted _ inductionHypothesis =>
      rw [List.map_cons, List.nodup_cons] at distinct
      rcases effectiveAgent_ok accepted (formed item List.mem_cons_self) (fresh entry List.mem_cons_self) with
        ⟨first, firstDone, firstFrozen⟩
      have restFresh : ∀ other ∈ byAgent, other.1 ∉ first.1 :: seen := by
        intro other member inSeen
        rcases List.mem_cons.mp inSeen with again | before
        · apply distinct.1
          rw [← firstFrozen.sameAgent, ← again]
          exact List.mem_map_of_mem (f := Prod.fst) member
        · exact fresh other (List.mem_cons_of_mem entry member) before
      rcases inductionHypothesis (fun other member => formed other (List.mem_cons_of_mem item member)) distinct.2
        restFresh with ⟨rest, restDone, restFrozen⟩
      refine ⟨first :: rest, ?_, List.Forall₂.cons firstFrozen restFrozen⟩
      simp only [Queue.effectiveAgents, firstDone, restDone, bind_ok_iff, pure_ok_iff, Except.ok.injEq,
        exists_eq_left']

theorem frozenAgents_keys {byAgent : List (Int × AgentPreparationParameters)} {frozen : List (Int × Json)}
    (pairs : List.Forall₂ FrozenAgent byAgent frozen) :
    (frozen.map Prod.snd).map agentOf = (byAgent.map Prod.fst).map some := by
  induction pairs with
  | nil => rfl
  | @cons entry first byAgent frozen agrees _ inductionHypothesis =>
      simp only [List.map_cons, agrees.agent, agrees.sameAgent, inductionHypothesis]

/-- The order in which the snapshot lists the agents does not matter to a search. -/
theorem find?_sorted {byAgent : List (Int × AgentPreparationParameters)} {frozen sorted : List (Int × Json)}
    {agent : Int} {prepared : AgentPreparationParameters} (pairs : List.Forall₂ FrozenAgent byAgent frozen)
    (distinct : (byAgent.map Prod.fst).Nodup) (perm : List.Perm sorted frozen)
    (found : forAgent agent byAgent = some prepared) :
    ∃ entry, (sorted.map Prod.snd).find? (fun item => agentOf item = some agent) = some entry.2 ∧
      FrozenAgent (agent, prepared) entry := by
  rcases Option.map_eq_some_iff.mp found with ⟨row, isRow, rfl⟩
  have sameAgent : row.1 = agent := of_decide_eq_true (List.find?_some isRow :)
  have searched := @find?_of_forall₂ _ _ _ (fun entry => decide (entry.1 = agent))
    (fun entry => decide (entry.1 = agent)) _ _ pairs
    (fun first second agrees => by rw [agrees.sameAgent])
  rw [isRow] at searched
  generalize selected : frozen.find? (fun entry => decide (entry.1 = agent)) = result at searched
  cases searched with
  | @some _ entry agrees =>
      have keyed : Keyed agentOf (sorted.map Prod.snd) := by
        have keys := (perm.map Prod.snd).map agentOf
        rw [frozenAgents_keys pairs] at keys
        exact keys.nodup_iff.mpr (distinct.map (Option.some_injective Int))
      have member : entry.2 ∈ sorted.map Prod.snd :=
        List.mem_map_of_mem (perm.mem_iff.mpr (List.mem_of_find?_eq_some selected))
      refine ⟨entry, keyed.find?_eq member ?_, ?_⟩
      · rw [agrees.agent, agrees.sameAgent, sameAgent]
      · rw [← sameAgent]
        exact agrees

/-! ## The agents on display -/

theorem isAgent_parse {shared : List (String × Json)} {item : Json} {prepared : Int × AgentPreparationParameters}
    {agent : Int} (formed : item.wellFormed = true) (accepted : PreparedAgent shared item prepared) :
    Frontend.isAgent agent item.parse = decide (prepared.1 = agent) := by
  rcases accepted with ⟨⟨fields, segment, override, rfl, isAgent, _, _, _⟩, range⟩
  have inRange := Json.wellFormed_lookup formed isAgent
  have whole : (Decimal.ofInt prepared.1).value = prepared.1 := Decimal.value_of_scale_zero rfl
  have exact : Binary64.round (prepared.1 : Rat) = prepared.1 := by
    apply Binary64.round_eq_self
    refine Binary64.representable_int_iff.mpr ⟨prepared.1, 0, ?_, (mul_one prepared.1).symm⟩
    rw [abs_le]
    omega
  rw [Json.ofInt, Json.wellFormed, Bool.not_eq_true'] at inRange
  have field : Frontend.fieldOf "agent" (Json.object fields).parse = some (.number (prepared.1 : Rat)) := by
    rw [Json.parse, Json.parseFields_eq, Frontend.fieldOf, Fields.lookup_mapValues, isAgent, Option.map_some,
      Json.ofInt, Json.parse, Decimal.parse, inRange, whole, exact]
    rfl
  rw [Frontend.isAgent, field]
  exact decide_eq_decide.mpr Int.cast_inj

/-- The parameters of the agent among the items of the profile on display. -/
theorem shownOverride {shared : List (String × Json)} {items : List Json}
    {byAgent : List (Int × AgentPreparationParameters)} {agent : Int} {prepared : AgentPreparationParameters}
    (pairs : List.Forall₂ (PreparedAgent shared) items byAgent) (formed : ∀ item ∈ items, item.wellFormed = true)
    (found : forAgent agent byAgent = some prepared) :
    ∃ override, (((items.map Json.parse).find? (Frontend.isAgent agent)).bind (Frontend.fieldOf "parameters")) =
        some (.object (Fields.mapValues Json.parse override)) ∧
      (Json.object override).wellFormed = true ∧ AcceptedGroups shared override prepared.effectiveParameters := by
  rcases Option.map_eq_some_iff.mp found with ⟨row, isRow, rfl⟩
  have formedPairs : List.Forall₂ (fun item entry => item.wellFormed = true ∧ PreparedAgent shared item entry) items
      byAgent := (List.forall₂_and_left (p := fun item => item.wellFormed = true) items byAgent).mpr ⟨formed, pairs⟩
  have searched := @find?_of_forall₂ _ _ _ (Frontend.isAgent agent ∘ Json.parse)
    (fun entry => decide (entry.1 = agent)) _ _ formedPairs
    (fun item entry agrees => by
      rw [Function.comp_apply]
      exact isAgent_parse agrees.1 agrees.2)
  rw [isRow] at searched
  rw [List.find?_map]
  generalize items.find? (Frontend.isAgent agent ∘ Json.parse) = result at searched ⊢
  cases searched with
  | @some item _ agrees =>
      rcases agrees.2.item with ⟨fields, segment, override, rfl, _, _, isOverride, accepted⟩
      refine ⟨override, ?_, Json.wellFormed_lookup agrees.1 isOverride, accepted⟩
      rw [Option.map_some, Option.bind_some, Json.parse, Json.parseFields_eq, Frontend.fieldOf,
        Fields.lookup_mapValues, isOverride, Option.map_some, Json.parse, Json.parseFields_eq]

/-! ## One meaning of an override -/

/-- The parts of the profile that the snapshot of the task holds. -/
theorem workerParameterSnapshot_ok {platform : Queue.Platform} {versionId sha256 : String} {profile snapshot : Json}
    (sent : Queue.workerParameterSnapshot platform versionId sha256 profile = .ok snapshot) :
    ∃ fields shared agents fixed, profile.mapNumbers platform.float64Literal = .object fields ∧
      Fields.lookup "shared_parameters" fields = some (.object shared) ∧
      Fields.lookup "agents" fields = some (.array agents) ∧
      snapshot = .object
        [("version_id", .string versionId), ("sha256", .string sha256), ("shared_parameters", .object shared),
          ("agents", .array agents), ("fixed_items", .object fixed)] := by
  simp only [Queue.workerParameterSnapshot, bind_ok_iff] at sent
  rcases sent with ⟨fields, decoded, sent⟩
  split at sent
  · rename_i shared agents fixed isShared isAgents isFixed
    cases sent
    rcases Option.bind_eq_some_iff.mp isShared with ⟨sharedValue, sharedStored, sharedObject⟩
    rcases Option.bind_eq_some_iff.mp isAgents with ⟨agentsValue, agentsStored, agentsArray⟩
    cases sharedValue with
    | object sharedFields =>
        cases sharedObject
        cases agentsValue with
        | array items =>
            cases agentsArray
            refine ⟨fields, _, _, fixed, ?_, sharedStored, agentsStored, rfl⟩
            rw [Queue.rawJsonObject] at decoded
            split at decoded
            · rename_i same
              rw [same, Except.ok.inj decoded]
            · cases decoded
              cases sharedStored
            · cases decoded
        | null | bool _ | number _ | string _ | object _ => cases agentsArray
    | null | bool _ | number _ | string _ | array _ => cases sharedObject
  · cases sent

/-- What the worker accepts of the parameters of a task. -/
theorem simulationPreparationParameters_ok {raw : List (String × PyValue)} {versionId sha256 : String}
    {shared fixed : List (String × Json)} {items : List Json} {byAgent : List (Int × AgentPreparationParameters)}
    (given : get "parameter_snapshot" raw = (Json.object
      [("version_id", .string versionId), ("sha256", .string sha256), ("shared_parameters", .object shared),
        ("agents", .array items), ("fixed_items", .object fixed)]).loads)
    (accepted : simulationPreparationParameters raw = .ok byAgent) :
    items.length = 3 ∧ shared ≠ [] ∧ List.Forall₂ (PreparedAgent shared) items byAgent ∧
      (byAgent.map Prod.fst).Nodup ∧ ∀ agent ∈ ([1, 2, 3] : List Int), agent ∈ byAgent.map Prod.fst := by
  rw [Json.loads, Json.loadsFields_eq] at given
  have sharedRead : get "shared_parameters" (Fields.mapValues Json.loads
      [("version_id", .string versionId), ("sha256", .string sha256), ("shared_parameters", .object shared),
        ("agents", .array items), ("fixed_items", .object fixed)]) =
      .dict (Fields.mapValues Json.loads shared) := by
    rw [← Json.loadsFields_eq shared]
    rfl
  have agentsRead : get "agents" (Fields.mapValues Json.loads
      [("version_id", .string versionId), ("sha256", .string sha256), ("shared_parameters", .object shared),
        ("agents", .array items), ("fixed_items", .object fixed)]) = .list (items.map Json.loads) := by
    rw [← Json.loadsItems_eq items]
    rfl
  simp only [simulationPreparationParameters, given, validateAgentCollection, objectOf, sharedRead, agentsRead,
    bind_ok_iff, pure_ok_iff, require_ok_iff, exists_const, Except.ok.injEq, exists_eq_left', List.length_map]
    at accepted
  rcases accepted with ⟨⟨three, seen, valid, _⟩, sharedTree, sharedAccepted, seeds, _, results, converted, all, same⟩
  subst same
  have pairs := List.forall₂_map_left_iff.mp (mapM_ok_iff.mp converted)
  rcases preparedAgents sharedAccepted valid pairs with ⟨prepared, distinct, _⟩
  refine ⟨three, ?_, prepared, distinct, all⟩
  intro empty
  subst empty
  cases sharedAccepted

/-- The worker, the snapshot and the display have one tree for each agent. -/
theorem effective_parameters_agree {platform : Queue.Platform} {versionId sha256 : String} {profile snapshot : Json}
    {raw : List (String × PyValue)} {byAgent : List (Int × AgentPreparationParameters)}
    (formed : (profile.mapNumbers platform.float64Literal).wellFormed = true)
    (sent : Queue.workerParameterSnapshot platform versionId sha256 profile = .ok snapshot)
    (given : get "parameter_snapshot" raw = snapshot.loads)
    (accepted : simulationPreparationParameters raw = .ok byAgent) :
    ∃ effective, Queue.effectiveParameterSnapshot platform profile = .ok effective ∧
      ∀ agent ∈ ([1, 2, 3] : List Int), ∃ prepared frozen displayed,
        forAgent agent byAgent = some prepared ∧
        frozenParameters effective agent = some frozen ∧
        Frontend.shownParameters (profile.mapNumbers platform.float64Literal).parse agent = .ok displayed ∧
        FrozenTree frozen (.dict prepared.effectiveParameters) ∧
        ShownTree displayed (.dict prepared.effectiveParameters) := by
  rcases workerParameterSnapshot_ok sent with ⟨fields, shared, items, fixed, decoded, isShared, isAgents, rfl⟩
  rcases simulationPreparationParameters_ok given accepted with ⟨three, nonempty, pairs, distinct, all⟩
  rw [decoded] at formed ⊢
  have itemsFormed := Json.wellFormed_array (Json.wellFormed_lookup formed isAgents)
  have sharedFormed := Json.wellFormed_lookup formed isShared
  rcases effectiveAgents_ok pairs itemsFormed distinct (fun _ _ => List.not_mem_nil) with
    ⟨entries, merged, frozenPairs⟩
  let sorted := entries.insertionSort fun left right => left.1 ≤ right.1
  refine ⟨.object [("shared_parameters", .object shared), ("agents", .array (sorted.map Prod.snd))], ?_, ?_⟩
  · have sharedRead : (Json.lookup "shared_parameters" fields).bind Json.asObject? = some shared :=
      congrArg (fun stored => Option.bind stored Json.asObject?) isShared
    have agentsRead : (Json.lookup "agents" fields).bind Json.asArray? = some items :=
      congrArg (fun stored => Option.bind stored Json.asArray?) isAgents
    have isObject : Queue.rawJsonObject platform "parameter profile" profile = .ok fields := by
      rw [Queue.rawJsonObject, decoded]
    rcases List.exists_cons_of_ne_nil nonempty with ⟨first, rest, rfl⟩
    simp only [Queue.effectiveParameterSnapshot, isObject, sharedRead, agentsRead, if_pos three,
      bind_ok_iff, pure_ok_iff, Except.ok.injEq, exists_eq_left']
    exact ⟨entries, merged, rfl⟩
  · intro agent inRange
    rcases List.mem_map.mp (all agent inRange) with ⟨row, member, sameAgent⟩
    have found : forAgent agent byAgent = some row.2 :=
      congrArg (Option.map Prod.snd) (Keyed.find?_eq distinct member sameAgent)
    rcases find?_sorted frozenPairs distinct (List.perm_insertionSort (fun left right => left.1 ≤ right.1) entries) found with
      ⟨entry, selected, agrees⟩
    rcases agrees.parameters with ⟨frozen, isFrozen, sameFrozen⟩
    rcases shownOverride pairs itemsFormed found with ⟨override, isOverride, overrideFormed, groups⟩
    rcases shown_groups groups sharedFormed overrideFormed with ⟨displayed, done, sameDisplayed⟩
    refine ⟨row.2, frozen, displayed, found, ?_, ?_, sameFrozen, sameDisplayed⟩
    · change (((sorted.map Prod.snd).find? fun item => decide (agentOf item = some agent)).bind
        Json.asObject?).bind (Json.lookup "parameters") = some frozen
      rw [selected]
      exact isFrozen
    · have agentsField : Frontend.fieldOf "agents" (Json.object fields).parse = some (.array (items.map Json.parse)) := by
        rw [Json.parse, Json.parseFields_eq, Frontend.fieldOf, Fields.lookup_mapValues, isAgents, Option.map_some,
          Json.parse, Json.parseItems_eq]
      have sharedField : Frontend.fieldOf "shared_parameters" (Json.object fields).parse =
          some (Json.object shared).parse := by
        rw [Json.parse, Json.parseFields_eq, Frontend.fieldOf, Fields.lookup_mapValues, isShared, Option.map_some]
      simp only [Frontend.shownParameters, agentsField, sharedField, isOverride]
      exact done

/-! ## A task -/

def digits (mantissa : Int) (scale : Nat) : Json :=
  .number ⟨mantissa, scale⟩

def sampleTree : List (String × Json) :=
  [("feature_state", .object
      [("nLag", digits 8 0), ("speed_threshold", digits 1 2), ("current_threshold", digits 1 0)]),
    ("cleaning", .object
      [("median_window", digits 21 0), ("mad_factor", digits 5 0), ("smoothing_window", digits 5 0)]),
    ("split", .object
      [("training_ratio", digits 7 1), ("calibration_ratio", digits 15 2), ("minimum_training", digits 80 0),
        ("minimum_calibration", digits 30 0), ("minimum_testing", digits 30 0), ("agent_count", digits 3 0)]),
    ("local_gp", .object
      [("kNN", digits 100 0), ("adaptive_ratio", digits 1 1), ("ell", digits 5 0), ("sigma_f", digits 1 0),
        ("sigma_n", digits 1 1), ("minimum_regularization", digits 1 2)]),
    ("trend", .object
      [("threshold", digits 1 0), ("maximum_mixing", digits 75 2), ("gain", digits 1 0),
        ("maximum_step_change", digits 25 1)]),
    ("interval", .object
      [("confidence", digits 95 2), ("calibration_window", digits 300 0), ("minimum_scores", digits 20 0),
        ("std_floor", digits 2 1), ("calibration_scale_min", digits 5 1), ("calibration_scale_max", digits 10 0),
        ("half_width_min", digits 1 0), ("half_width_max", digits 8 0), ("coverage_window", digits 200 0),
        ("update_mode", .string "all_finite"), ("variance_floor", digits 1 8)]),
    ("anchors", .object
      [("base_centers", digits 100 0), ("transition_centers", digits 30 0), ("boundary_centers", digits 20 0),
        ("transition_quantile", digits 75 2), ("public_anchors", digits 300 0), ("iterations", digits 60 0),
        ("random_seed", digits 2026 0)]),
    ("support", .object
      [("scale_multiple", digits 25 1), ("minimum_weight", digits 1 5), ("minimum_query_support", digits 3 2),
        ("full_weight_reference", digits 35 2)]),
    ("global_surrogate", .object
      [("ell", digits 5 0), ("minimum_regularization", digits 1 4), ("noise_ratio", digits 25 2),
        ("cholesky_attempts", digits 10 0), ("leave_one_out", .bool true)]),
    ("fusion", .object
      [("maximum_global_weight", digits 98 2), ("initial_improvement", digits 1 3), ("error_window", digits 50 0),
        ("minimum_samples", digits 20 0), ("win_margin", digits 5 2), ("variance_weight", digits 25 2),
        ("winsor_quantile", digits 9 1), ("global_clear_threshold", digits 85 2), ("neutral_upper_limit", digits 7 1),
        ("persistence", digits 5 0), ("rise_smoothing", digits 85 2), ("fall_smoothing", digits 55 2),
        ("disagreement_kappa", digits 25 1), ("maximum_variance_ratio", digits 2 0)]),
    ("alarms", .object
      [("imbalance_threshold", digits 15 2), ("notice_count", digits 1 0), ("warning_count", digits 3 0),
        ("alarm_count", digits 5 0), ("absolute_current_threshold", .null),
        ("absolute_tension_threshold", .null)])]

/-- The last agent is listed first, and two agents have parameters of their own. -/
def sampleProfile : Json :=
  .object
    [("shared_parameters", .object sampleTree),
      ("agents", .array
        [.object [("agent", digits 3 0), ("segment", .string "LATE"), ("parameters", .object [("trend", .object [])])],
          .object [("agent", digits 1 0), ("segment", .string "EARLY"), ("parameters", .object [])],
          .object [("agent", digits 2 0), ("segment", .string "MIDDLE"), ("parameters", .object
            [("alarms", .object [("absolute_current_threshold", digits 90 0)]),
              ("feature_state", .object [("speed_threshold", digits 2 2)])])]]),
      ("fixed_items", .object [("agent_count", digits 3 0)])]

def sampleSnapshot : Json :=
  .object
    [("version_id", .string "reference-v1"), ("sha256", .string Queue.sampleDigest),
      ("shared_parameters", .object sampleTree),
      ("agents", ((sampleProfile.asObject?.bind (Json.lookup "agents")).getD .null)),
      ("fixed_items", .object [("agent_count", digits 3 0)])]

/-- The parts of a task that the preparation reads. -/
def sampleTask : List (String × PyValue) :=
  [("parameter_snapshot", sampleSnapshot.loads),
    ("runtime", (Queue.workerRuntime Queue.samplePlatform.runtime 7).loads)]

theorem ok_of_isOk {ε α : Type} {outcome : Except ε α} (succeeds : outcome.isOk = true) :
    ∃ value, outcome = .ok value := by
  cases outcome with
  | ok value => exact ⟨value, rfl⟩
  | error failure => cases succeeds

theorem effective_parameters_agree_sample :
    ∃ byAgent, simulationPreparationParameters sampleTask = .ok byAgent ∧
      ∃ effective, Queue.effectiveParameterSnapshot (Queue.platformWith []) sampleProfile = .ok effective ∧
        ∀ agent ∈ ([1, 2, 3] : List Int), ∃ prepared frozen displayed,
          forAgent agent byAgent = some prepared ∧
          frozenParameters effective agent = some frozen ∧
          Frontend.shownParameters (sampleProfile.mapNumbers (Queue.platformWith []).float64Literal).parse agent =
            .ok displayed ∧
          FrozenTree frozen (.dict prepared.effectiveParameters) ∧
          ShownTree displayed (.dict prepared.effectiveParameters) := by
  have succeeds : (simulationPreparationParameters sampleTask).isOk = true := by decide +kernel
  rcases ok_of_isOk succeeds with ⟨byAgent, accepted⟩
  exact ⟨byAgent, accepted, effective_parameters_agree (by decide +kernel)
    (show Queue.workerParameterSnapshot (Queue.platformWith []) "reference-v1" Queue.sampleDigest sampleProfile =
      .ok sampleSnapshot by decide +kernel) rfl accepted⟩

end Worker
end FederatedIot
