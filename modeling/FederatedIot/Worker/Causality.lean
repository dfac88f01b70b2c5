import FederatedIot.Worker.FusionRun
import FederatedIot.Worker.Pipeline

namespace FederatedIot
namespace Worker
namespace Simulation

open Foundation Foundation.Outcome Foundation.Positions

/-!
# Nothing is read before it is predicted

Two simulations whose agents differ in test targets only compute the same models, anchors,
estimates and windows, because no stage before the loop reads a test target.  In the loop a
target is read after its prediction, so two runs part only behind the first target that
differs, and only in what comes after its prediction.
-/

/-! ## Related lists -/

section Related

variable {First Second Value Fault : Type} {related : First -> Second -> Prop} {first : List First} {second : List Second}

/-- What is the same of related elements is the same of the lists. -/
theorem map_related {compute : First -> Value} {other : Second -> Value}
    (same : forall left right, related left right -> compute left = other right) (all : List.Forall₂ related first second) :
    first.map compute = second.map other := by
  induction all with
  | nil => rfl
  | cons here _ inductionHypothesis => rw [List.map_cons, List.map_cons, same _ _ here, inductionHypothesis]

theorem mapM_same {compute : First -> Except Fault Value} {other : Second -> Except Fault Value}
    (same : forall left right, related left right -> compute left = other right) (all : List.Forall₂ related first second) :
    first.mapM compute = second.mapM other := by
  induction all with
  | nil => rfl
  | cons here _ inductionHypothesis => rw [List.mapM_cons, List.mapM_cons, same _ _ here, inductionHypothesis]

/-- Related lists stay related beside the same values. -/
theorem zip_related (all : List.Forall₂ related first second) (values : List Value) :
    List.Forall₂ (fun left right => related left.1 right.1 ∧ left.2 = right.2) (first.zip values) (second.zip values) := by
  induction all generalizing values with
  | nil => exact List.Forall₂.nil
  | cons here _ inductionHypothesis =>
      cases values with
      | nil => exact List.Forall₂.nil
      | cons value values => exact List.Forall₂.cons ⟨here, rfl⟩ (inductionHypothesis values)

theorem forall_related {holds : First -> Prop} {other : Second -> Prop}
    (same : forall left right, related left right -> (holds left ↔ other right)) (all : List.Forall₂ related first second) :
    (∀ value ∈ first, holds value) ↔ ∀ value ∈ second, other value := by
  induction all with
  | nil => exact iff_of_true (fun _ => False.elim ∘ List.not_mem_nil) (fun _ => False.elim ∘ List.not_mem_nil)
  | cons here _ inductionHypothesis => rw [List.forall_mem_cons, List.forall_mem_cons, same _ _ here, inductionHypothesis]

theorem require_congr {condition other : Prop} [Decidable condition] [Decidable other] (same : condition ↔ other)
    (fault : Fault) : require condition fault = require other fault := by
  by_cases holds : condition
  · rw [require_of fault holds, require_of fault (same.mp holds)]
  · rw [require_refused fault holds, require_refused fault fun wrong => holds (same.mpr wrong)]

end Related

variable {K : Type} [Field K] [LinearOrder K] [FloorRing K] {functions : Fusion.Functions K} {sha256 : String -> List Nat}
  {first second : AgentContext K} {contexts others : List (AgentContext K)}

/-! ## The stages before the loop -/

/-- Two contexts that differ in test targets only. -/
structure AgreeBeforeTest (first second : AgentContext K) : Prop where
  agent : first.agent = second.agent
  parameters : first.parameters = second.parameters
  split : first.split = second.split
  standardization : first.standardization = second.standardization
  values : first.dataset.values = second.dataset.values
  trends : first.dataset.trends = second.dataset.trends
  transitionScores : first.dataset.transitionScores = second.dataset.transitionScores
  sourceRows : first.dataset.sourceRows = second.dataset.sourceRows
  train : ∀ index ∈ second.split.train, first.dataset.targets[index]? = second.dataset.targets[index]?
  calibration : ∀ index ∈ second.split.calibration, first.dataset.targets[index]? = second.dataset.targets[index]?

/-- A context with other targets. -/
def AgentContext.withTargets (context : AgentContext K) (targets : List K) : AgentContext K :=
  { context with dataset := { context.dataset with targets } }

omit [Field K] [LinearOrder K] [FloorRing K] in
theorem AgreeBeforeTest.eq_withTargets (agree : AgreeBeforeTest first second) :
    first = second.withTargets first.dataset.targets := by
  rcases first with ⟨agent, parameters, ⟨values, targets, trends, transitionScores, sourceRows⟩, split, standardization⟩
  rcases agree with ⟨rfl, rfl, rfl, rfl, rfl, rfl, rfl, rfl, _, _⟩
  rfl

theorem itemsOf_same {Item : Type} {values other : List Item} {indices : List Nat}
    (same : ∀ index ∈ indices, values[index]? = other[index]?) : itemsOf values indices = itemsOf other indices := by
  refine congrArg arithmetic ?_
  induction indices with
  | nil => rfl
  | cons index rest inductionHypothesis =>
      rw [List.mapM_cons, List.mapM_cons, inductionHypothesis fun other inside => same other (List.mem_cons_of_mem _ inside)]
      unfold readAt
      rw [same index List.mem_cons_self]

theorem fitLocal_same (agree : AgreeBeforeTest first second) : fitLocal functions first = fitLocal functions second := by
  rw [agree.eq_withTargets]
  have train : itemsOf first.dataset.targets second.split.train = itemsOf second.dataset.targets second.split.train :=
    itemsOf_same agree.train
  have calibration : itemsOf first.dataset.targets second.split.calibration =
      itemsOf second.dataset.targets second.split.calibration := itemsOf_same agree.calibration
  unfold fitLocal
  dsimp only [AgentContext.withTargets]
  rw [train, calibration]
  rfl

theorem fitGlobal_same (agree : AgreeBeforeTest first second) (fit : LocalFit K) (anchors : List (List K))
    (estimates : List (AnchorEstimate K)) :
    fitGlobal functions first fit anchors estimates = fitGlobal functions second fit anchors estimates := by
  rw [agree.eq_withTargets]
  have calibration : itemsOf first.dataset.targets second.split.calibration =
      itemsOf second.dataset.targets second.split.calibration := itemsOf_same agree.calibration
  unfold fitGlobal
  dsimp only [AgentContext.withTargets]
  rw [calibration]
  rfl

theorem localCenters_same (agree : AgreeBeforeTest first second) (fit : LocalFit K) :
    localCenters first fit = localCenters second fit := by
  rw [agree.eq_withTargets]
  rfl

omit [FloorRing K] in
theorem contribution_same (agree : AgreeBeforeTest first second) (fit : LocalFit K) (anchors : List (List K)) :
    contribution functions first fit anchors = contribution functions second fit anchors := by
  rw [agree.eq_withTargets]
  rfl

omit [Field K] [LinearOrder K] [FloorRing K] in
theorem validateFeatureWidths_same (all : List.Forall₂ AgreeBeforeTest contexts others) :
    validateFeatureWidths contexts = validateFeatureWidths others := by
  unfold validateFeatureWidths
  have present : (∀ context ∈ contexts, context.dataset.values ≠ []) ↔ ∀ context ∈ others, context.dataset.values ≠ [] :=
    forall_related (fun left right agree => by rw [agree.values]) all
  have widths : (∀ context ∈ contexts,
        (context.dataset.values.headD []).length = 4 * context.count "feature_state" "nLag" + 32) ↔
      ∀ context ∈ others, (context.dataset.values.headD []).length = 4 * context.count "feature_state" "nLag" + 32 :=
    forall_related (fun left right agree => by
      rw [agree.values, AgentContext.count, AgentContext.count, agree.parameters]) all
  rw [require_congr present, require_congr widths]

omit [FloorRing K] in
theorem publicAnchors_same (all : List.Forall₂ AgreeBeforeTest contexts others) (merged : List (List K)) :
    publicAnchors functions sha256 contexts merged = publicAnchors functions sha256 others merged := by
  have counts (group name : String) : (contexts.map fun context => context.count group name) =
      others.map fun context => context.count group name :=
    map_related (fun left right agree => congrArg (Fusion.countLeaf group name) agree.parameters) all
  unfold publicAnchors
  rw [counts, counts, counts]

/-- No stage before the loop reads a test target. -/
theorem prepare_same (all : List.Forall₂ AgreeBeforeTest contexts others) :
    prepare functions sha256 contexts = prepare functions sha256 others := by
  have agents : contexts.map AgentContext.agent = others.map AgentContext.agent :=
    map_related (fun left right agree => agree.agent) all
  have floors : sharedFloor contexts = sharedFloor others := by
    refine congrArg (fun floors => arithmetic (greatest floors)) (map_related (fun left right agree => ?_) all)
    exact congrArg (fun parameters => (Fusion.fusionSettings parameters : Fusion.FusionSettings K).varianceFloor)
      agree.parameters
  have fits : contexts.mapM (fitLocal functions) = others.mapM (fitLocal functions) :=
    mapM_same (fun left right agree => fitLocal_same agree) all
  have centers (fits : List (LocalFit K)) : ((contexts.zip fits).mapM fun entry => localCenters entry.1 entry.2) =
      (others.zip fits).mapM fun entry => localCenters entry.1 entry.2 :=
    mapM_same (fun left right agree => by rw [localCenters_same agree.1, agree.2]) (zip_related all fits)
  have contributions (anchors : List (List K)) (fits : List (LocalFit K)) :
      ((contexts.zip fits).mapM fun entry => contribution functions entry.1 entry.2 anchors) =
        (others.zip fits).mapM fun entry => contribution functions entry.1 entry.2 anchors :=
    mapM_same (fun left right agree => by rw [contribution_same agree.1, agree.2]) (zip_related all fits)
  have globals (anchors : List (List K)) (estimates : List (AnchorEstimate K)) (fits : List (LocalFit K)) :
      ((contexts.zip fits).mapM fun entry => fitGlobal functions entry.1 entry.2 anchors estimates) =
        (others.zip fits).mapM fun entry => fitGlobal functions entry.1 entry.2 anchors estimates :=
    mapM_same (fun left right agree => by rw [fitGlobal_same agree.1, agree.2]) (zip_related all fits)
  unfold prepare
  simp only [agents, validateFeatureWidths_same all, fits, centers, publicAnchors_same all, contributions, floors, globals]

/-! ## The order of the agents -/

omit [Field K] [LinearOrder K] [FloorRing K] in
theorem orderedInsert_related (agree : AgreeBeforeTest first second) (all : List.Forall₂ AgreeBeforeTest contexts others) :
    List.Forall₂ AgreeBeforeTest (contexts.orderedInsert (fun first second => first.agent ≤ second.agent) first)
      (others.orderedInsert (fun first second => first.agent ≤ second.agent) second) := by
  induction all with
  | nil => exact List.Forall₂.cons agree List.Forall₂.nil
  | @cons head other _ _ here rest inductionHypothesis =>
      rw [List.orderedInsert_cons, List.orderedInsert_cons, agree.agent, here.agent]
      by_cases before : second.agent ≤ other.agent
      · rw [if_pos before, if_pos before]
        exact List.Forall₂.cons agree (List.Forall₂.cons here rest)
      · rw [if_neg before, if_neg before]
        exact List.Forall₂.cons here inductionHypothesis

omit [Field K] [LinearOrder K] [FloorRing K] in
theorem inOrder_related (all : List.Forall₂ AgreeBeforeTest contexts others) :
    List.Forall₂ AgreeBeforeTest (inOrder contexts) (inOrder others) := by
  induction all with
  | nil => exact List.Forall₂.nil
  | cons here _ inductionHypothesis => exact orderedInsert_related here inductionHypothesis

/-! ## The loop -/

section Loop

variable {context other : Fusion.FusionContext K} {state : Fusion.FusionState K} {entries : List (Nat × Nat)}
  {rows otherRows : List (Fusion.FusionRow K)} {last otherLast : Fusion.FusionState K}

/-- Two contexts of the loop that differ in targets only. -/
structure AgreeBesideTargets (context other : Fusion.FusionContext K) : Prop where
  parameters : context.parameters = other.parameters
  sourceRows : context.sourceRows = other.sourceRows
  runtime : context.runtime = other.runtime

/-- The prediction of a point is settled before its target is read. -/
theorem fusePoint_prediction (agree : AgreeBesideTargets context other) {entry : Nat × Nat} {row otherRow : Fusion.FusionRow K}
    (made : Fusion.fusePoint functions context state entry = .ok (row, last))
    (otherMade : Fusion.fusePoint functions other state entry = .ok (otherRow, otherLast)) :
    row.prediction = otherRow.prediction := by
  unfold Fusion.fusePoint at made otherMade
  rw [agree.parameters, agree.runtime] at made
  simp only [bind_ok_iff, pure_ok_iff, Prod.mk.injEq] at made otherMade
  rcases made with ⟨point, read, prediction, predicted, _, _, _, _, _, _, rfl, _⟩
  rcases otherMade with ⟨otherPoint, otherRead, otherPrediction, otherPredicted, _, _, _, _, _, _, rfl, _⟩
  rw [read] at otherRead
  cases otherRead
  rw [predicted] at otherPredicted
  cases otherPredicted
  rfl

theorem fusePoint_same (agree : AgreeBesideTargets context other) {entry : Nat × Nat}
    (target : context.targets[entry.1]? = other.targets[entry.1]?) :
    Fusion.fusePoint functions context state entry = Fusion.fusePoint functions other state entry := by
  have read : Fusion.item context.targets entry.1 = Fusion.item other.targets entry.1 := by
    unfold Fusion.item
    rw [target]
  unfold Fusion.fusePoint
  rw [agree.parameters, agree.runtime, agree.sourceRows, read]

/-- Runs part only behind the first target that differs, and there after the prediction. -/
theorem fuseFrom_causal (agree : AgreeBesideTargets context other)
    (ran : Fusion.fuseFrom functions context state entries = .ok (rows, last))
    (otherRan : Fusion.fuseFrom functions other state entries = .ok (otherRows, otherLast)) (count : Nat)
    (before : ∀ entry ∈ entries.take count, context.targets[entry.1]? = other.targets[entry.1]?) :
    rows.take count = otherRows.take count ∧
      (rows.take (count + 1)).map Fusion.FusionRow.prediction = (otherRows.take (count + 1)).map Fusion.FusionRow.prediction := by
  induction entries generalizing state rows otherRows count with
  | nil =>
      cases ran
      cases otherRan
      exact ⟨rfl, rfl⟩
  | cons entry rest inductionHypothesis =>
      unfold Fusion.fuseFrom at ran otherRan
      simp only [bind_ok_iff, pure_ok_iff, Prod.mk.injEq] at ran otherRan
      rcases ran with ⟨⟨row, next⟩, made, ⟨tail, tailLast⟩, remaining, rfl, rfl⟩
      rcases otherRan with ⟨⟨otherRow, otherNext⟩, otherMade, ⟨otherTail, otherTailLast⟩, otherRemaining, rfl, rfl⟩
      have predicted := fusePoint_prediction agree made otherMade
      cases count with
      | zero => exact ⟨rfl, by simp only [List.take_succ_cons, List.take_zero, List.map_cons, List.map_nil, predicted]⟩
      | succ count =>
          have here := before entry (by rw [List.take_succ_cons]; exact List.mem_cons_self)
          rw [fusePoint_same agree here, otherMade] at made
          cases made
          rcases inductionHypothesis remaining otherRemaining count fun later inside =>
            before later (by rw [List.take_succ_cons]; exact List.mem_cons_of_mem _ inside) with ⟨same, predictions⟩
          constructor
          · rw [List.take_succ_cons, List.take_succ_cons, same]
          · rw [List.take_succ_cons, List.take_succ_cons, List.map_cons, List.map_cons, predictions]

theorem onlineFuse_causal (agree : AgreeBesideTargets context other) (tests : context.test = other.test)
    (ran : Fusion.onlineFuse functions context = .ok rows) (otherRan : Fusion.onlineFuse functions other = .ok otherRows)
    (count : Nat) (before : ∀ index ∈ context.test.take count, context.targets[index]? = other.targets[index]?) :
    rows.take count = otherRows.take count ∧
      (rows.take (count + 1)).map Fusion.FusionRow.prediction = (otherRows.take (count + 1)).map Fusion.FusionRow.prediction := by
  unfold Fusion.onlineFuse Fusion.fuseFirst at ran otherRan
  rw [agree.parameters, agree.runtime, tests] at ran
  simp only [bind_ok_iff, pure_ok_iff] at ran otherRan
  rcases ran with ⟨⟨_, _⟩, ⟨start, started, looped⟩, rfl⟩
  rcases otherRan with ⟨⟨_, _⟩, ⟨otherStart, otherStarted, otherLooped⟩, rfl⟩
  rw [started] at otherStarted
  cases otherStarted
  refine fuseFrom_causal agree looped otherLooped count fun entry inside => before entry.1 ?_
  rw [tests, ← List.zipIdx_map_fst 0 other.test, ← List.map_take]
  refine List.mem_map_of_mem ?_
  have whole : other.test.zipIdx.take other.test.length = other.test.zipIdx :=
    List.take_of_length_le (by rw [List.length_zipIdx])
  rw [whole] at inside
  exact inside

end Loop

/-! ## Whole simulations -/

/-- What a simulation has computed for an agent. -/
theorem executeSimulation_row {prepared : Prepared K} {rows : List (List (Fusion.FusionRow K))}
    (ran : executeSimulation functions sha256 contexts = .ok (prepared, rows)) :
    prepare functions sha256 (inOrder contexts) = .ok prepared ∧
      forall (position : Nat) own, rows[position]? = some own -> exists context fit made, (inOrder contexts)[position]? = some context ∧
        prepared.fits[position]? = some fit ∧ prepared.globals[position]? = some made ∧
        Fusion.onlineFuse functions (fusionContext context fit made) = .ok own := by
  unfold executeSimulation at ran
  simp only [bind_ok_iff, pure_ok_iff, Prod.mk.injEq] at ran
  rcases ran with ⟨_, isPrepared, _, looped, rfl, rfl⟩
  refine ⟨isPrepared, fun position own found => ?_⟩
  have each := mapM_ok_iff.mp looped
  rcases List.getElem?_eq_some_iff.mp found with ⟨within, rfl⟩
  have inside := each.length_eq.symm ▸ within
  have fused := each.get inside within
  simp only [List.get_eq_getElem, Prepared.contexts, List.getElem_map, List.getElem_zip] at fused
  simp only [Prepared.contexts, List.length_map, List.length_zip] at inside
  exact ⟨_, _, _, List.getElem?_eq_getElem (by omega), List.getElem?_eq_getElem (by omega),
    List.getElem?_eq_getElem (by omega), mapError_ok_iff.mp fused⟩

/-- An agent with three samples, the last of them for the test. -/
def sampleContext (agent : Nat) (testTarget : Rat) : AgentContext Rat where
  agent
  parameters := Fusion.Sample.parameters
  dataset :=
    { values := [[0], [1], [2]], targets := [1, 2, testTarget], trends := [1, 1, 2], transitionScores := [0, 1, 1]
      sourceRows := [] }
  split := { train := [0], calibration := [1], test := [2] }
  standardization := { means := [0], sampleStds := [1] }

theorem sampleContext_agree (agent : Nat) (first second : Rat) :
    AgreeBeforeTest (sampleContext agent first) (sampleContext agent second) := by
  constructor
  case train =>
    intro index inside
    rw [List.mem_singleton.mp inside]
    rfl
  case calibration =>
    intro index inside
    rw [List.mem_singleton.mp inside]
    rfl
  all_goals rfl

end Simulation
end Worker
end FederatedIot
