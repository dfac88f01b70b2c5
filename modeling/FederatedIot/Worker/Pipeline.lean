import FederatedIot.Worker.Surrogate

namespace FederatedIot
namespace Worker
namespace Simulation

open Foundation Foundation.Outcome Foundation.Positions Foundation.Clusters Foundation.Windows

/-!
# The stages of a simulation

Every agent trains a local model, the three are compared at public anchors, and what the
others say there trains a surrogate for each agent.  Each stage hands its results to the
next as values; the loop over the test part comes last.
-/

attribute [local instance] two_atLeastTwo ten_atLeastTwo

variable {K : Type} [Field K] [LinearOrder K]

/-! ## Contexts -/

/-- `Standardization` -/
structure Standardization (K : Type) where
  means : List K
  sampleStds : List K

/-- `transform` -/
def Standardization.transform (scales : Standardization K) (matrix : List (List K)) :
    Except AggregationError (List (List K)) :=
  matrix.mapM fun row => row.zipIdx.mapM fun entry => do
    let center ← readAt .indexError scales.means entry.2
    let std ← readAt .indexError scales.sampleStds entry.2
    divide (entry.1 - center) std

/-- `ChronologicalSplit` -/
structure Split where
  train : List Nat
  calibration : List Nat
  test : List Nat

/-- `FeatureDataset`, with what the alarms read of its rows -/
structure Dataset (K : Type) where
  values : List (List K)
  targets : List K
  trends : List K
  transitionScores : List K
  sourceRows : List (Fusion.SourceRow K)

/-- `AgentContext`, without its runtime state -/
structure AgentContext (K : Type) where
  agent : Nat
  parameters : List (String × PyValue)
  dataset : Dataset K
  split : Split
  standardization : Standardization K

/-- `values[index] for index in indices` -/
def itemsOf {Item : Type} (values : List Item) (indices : List Nat) : Except SimulationFailure (List Item) :=
  arithmetic (indices.mapM (readAt .indexError values))

/-- A number of the parameters of a context. -/
def AgentContext.number (context : AgentContext K) (group name : String) : K :=
  Fusion.numberLeaf group name context.parameters

/-- A count of the parameters of a context. -/
def AgentContext.count (context : AgentContext K) (group name : String) : Nat :=
  Fusion.countLeaf group name context.parameters

def AgentContext.settings (context : AgentContext K) : Fusion.FusionSettings K :=
  Fusion.fusionSettings context.parameters

/-! ## Predictions and their scores -/

/-- `_apply_transition_blend` -/
def applyTransitionBlend (threshold maximum : K) (values trend score : List K) : List K :=
  (values.zip (trend.zip score)).map fun entry =>
    let mixing := min (max (entry.2.2 / max threshold machineEpsilon) 0) maximum
    (1 - mixing) * entry.1 + mixing * entry.2.1

/-- What a context makes of predictions at some of its samples. -/
def AgentContext.blend (context : AgentContext K) (values trend score : List K) : List K :=
  applyTransitionBlend (context.number "trend" "threshold") (context.number "trend" "maximum_mixing") values trend score

def AgentContext.limit (context : AgentContext K) (values : List K) : List K :=
  applyRateLimit values (context.number "trend" "maximum_step_change")

/-- The deviations, none below the floor. -/
def AgentContext.effective (context : AgentContext K) (stds : List K) : List K :=
  stds.map fun value => max value (context.settings.stdFloor)

/-- `abs(target - prediction) / std` -/
def scores (targets predictions stds : List K) : Except AggregationError (List K) :=
  (targets.zip (predictions.zip stds)).mapM fun entry => divide |entry.1 - entry.2.1| entry.2.2

/-- `_rmse` -/
def rmse (functions : Fusion.Functions K) (actual predicted : List K) : Except AggregationError K := do
  let value ← mean ((actual.zip predicted).map fun entry => (entry.1 - entry.2) ^ 2)
  return functions.sqrt value

/-- `_initial_window` -/
def AgentContext.initialWindow (context : AgentContext K) (label : String) (values : List K) :
    Except SimulationFailure (List K) :=
  fusing (Fusion.initialWindow context.settings (toString context.agent) label (values.map some))

/-- `_initial_errors` -/
def AgentContext.initialErrors (context : AgentContext K) (label : String) (targets predictions : List K) :
    Except SimulationFailure (List K) :=
  fusing (Fusion.initialErrors context.settings (toString context.agent) label targets (predictions.map some))

/-! ## Local models -/

/-- How many neighbors a local model reads. -/
def neighborCount (requested : Nat) (adaptiveRatio : Rat) (count : Nat) : Nat :=
  let neighbors := min requested count
  if count < 5 * neighbors then min count (max 3 ⌊adaptiveRatio * count⌋.toNat) else neighbors

/-- The local model of a context for its training samples. -/
def AgentContext.localModel (context : AgentContext K) (xTrain : List (List K)) (yTrain : List K) : LocalGPModel K where
  xTrain
  yTrain
  kNeighbors := neighborCount (context.count "local_gp" "kNN")
    (leafNumber "local_gp" "adaptive_ratio" context.parameters) xTrain.length
  ell := context.number "local_gp" "ell"
  sigmaF := context.number "local_gp" "sigma_f"
  sigmaN := context.number "local_gp" "sigma_n"
  regularization := max (context.number "local_gp" "sigma_n" ^ 2) (context.number "local_gp" "minimum_regularization")

/-- What `_fit_local_contexts` leaves in the runtime state of a context. -/
structure LocalFit (K : Type) where
  model : LocalGPModel K
  fallbacks : Nat
  calibrationMean : List K
  calibrationStd : List K
  testMean : List K
  testStd : List K
  scoreWindow : List K
  initialQ : K

/-- Some samples in the units of the training. -/
def AgentContext.queriesAt (context : AgentContext K) (indices : List Nat) : Except SimulationFailure (List (List K)) := do
  let values ← itemsOf context.dataset.values indices
  arithmetic (context.standardization.transform values)

/-- The predictions at some samples, blended and limited. -/
def AgentContext.blendAt (context : AgentContext K) (means : List K) (indices : List Nat) : Except SimulationFailure (List K) := do
  let trends ← itemsOf context.dataset.trends indices
  let scores ← itemsOf context.dataset.transitionScores indices
  return context.limit (context.blend means trends scores)

variable [FloorRing K]

/-- One turn of the loop of `_fit_local_contexts`. -/
def fitLocal (functions : Fusion.Functions K) (context : AgentContext K) : Except SimulationFailure (LocalFit K) := do
  let xTrain ← context.queriesAt context.split.train
  let yTrain ← itemsOf context.dataset.targets context.split.train
  let model := context.localModel xTrain yTrain
  let calibrationX ← context.queriesAt context.split.calibration
  let testX ← context.queriesAt context.split.test
  let calibration ← arithmetic (localGpPredict functions model calibrationX)
  let test ← arithmetic (localGpPredict functions model testX)
  let calibrationMean ← context.blendAt calibration.1 context.split.calibration
  let testMean ← context.blendAt test.1 context.split.test
  let targets ← itemsOf context.dataset.targets context.split.calibration
  let calibrationStd := context.effective calibration.2.1
  let values ← arithmetic (scores targets calibrationMean calibrationStd)
  let scoreWindow ← context.initialWindow "local" values
  let initialQ ← fusing (Fusion.scoreQuantile context.settings scoreWindow)
  return {
    model, fallbacks := calibration.2.2 + test.2.2, calibrationMean, calibrationStd, testMean
    testStd := context.effective test.2.1, scoreWindow, initialQ }

/-! ## Contributions -/

/-- `_empirical_quantile`.  Without values it is not a number. -/
def empiricalQuantile (values : List K) (probability : K) : Except AggregationError (Option K) :=
  if values = [] then .ok none
  else do
    let position := max (⌈min (max probability 0) 1 * (values.length : K)⌉ - 1) 0
    let value ← readAt .indexError (values.insertionSort (· ≤ ·)) (min position (values.length - 1 : Int)).toNat
    return some value

/-- The positions so far, and the squared distance of each point to the nearest of theirs. -/
abbrev Choosing (K : Type) :=
  List Nat × List K

/-- Append the position of the point that is farthest from those so far. -/
def chooseOnce (points : List (List K)) (state : Choosing K) : Except AggregationError (Choosing K) := do
  let index ← farthestIndex state.2
  let chosen ← readAt .indexError points index
  return (state.1 ++ [index], List.zipWith (fun value point => min value (squaredDistance point chosen)) state.2 points)

/-- `while len(chosen) < count` -/
def chooseWhile (points : List (List K)) (count : Nat) : Nat -> Choosing K -> Except AggregationError (Choosing K)
  | 0, state => .ok state
  | fuel + 1, state =>
      if state.1.length < count then do
        let next ← chooseOnce points state
        chooseWhile points count fuel next
      else .ok state

/-- `_farthest_point_subset` -/
def farthestPointSubset (points : List (List K)) (count seed : Int) : Except AggregationError (List (List K)) :=
  if points = [] ∨ count ≤ 0 then .ok []
  else do
    let size := (min count points.length).toNat
    let first ← (ReferenceTwister.seeded seed).randi points.length
    let chosen ← readAt .indexError points first
    let final ← chooseWhile points size size ([first], points.map fun point => squaredDistance point chosen)
    final.1.mapM (readAt .indexError points)

/-- `_stable_unique_rows` -/
def stableUniqueRows (rows : List (List K)) : List (List K) :=
  rows.foldl (fun output row => if row ∈ output then output else output ++ [row]) []

/-- `_unstandardize` -/
def unstandardize (row means stds : List K) : List K :=
  (row.zip (means.zip stds)).map fun entry => entry.1 * entry.2.2 + entry.2.1

/-- The centers of the samples in transition, when there are any. -/
def transitionCenters (input : List (List K)) (count iterations seed : Int) : Except AggregationError (List (List K)) :=
  if input = [] then .ok [] else simpleKmeans false input (min count input.length) iterations seed

/-- The representative centers of a context. -/
def localCenters (context : AgentContext K) (fit : LocalFit K) : Except SimulationFailure (List (List K)) := do
  let train := fit.model.xTrain
  let scores ← itemsOf context.dataset.transitionScores context.split.train
  let seed : Int := context.count "anchors" "random_seed" + context.agent
  let iterations : Int := context.count "anchors" "iterations"
  let base ← arithmetic (simpleKmeans false train (context.count "anchors" "base_centers") iterations seed)
  let threshold ← arithmetic (empiricalQuantile scores (context.number "anchors" "transition_quantile"))
  let input := ((train.zip scores).filter fun entry => threshold.any fun least => least ≤ entry.2).map Prod.fst
  let transition ← arithmetic (transitionCenters input (context.count "anchors" "transition_centers") iterations (seed + 20))
  let boundary ← arithmetic (farthestPointSubset train (context.count "anchors" "boundary_centers") (seed + 40))
  return (stableUniqueRows (base ++ transition ++ boundary)).map fun point =>
    unstandardize point context.standardization.means context.standardization.sampleStds

/-- `_public_anchor_seed`, of a digest as its bytes -/
def publicAnchorSeed (sha256 : String -> List Nat) (seeds : List Nat) : Int :=
  if seeds.dedup.length = 1 then seeds.headD 0 + 100
  else ((sha256 (",".intercalate (seeds.map toString))).take 4).foldl (fun value byte => value * 256 + byte) 0

/-- The public anchors of the representative centers of all. -/
def publicAnchors (functions : Fusion.Functions K) (sha256 : String -> List Nat) (contexts : List (AgentContext K))
    (merged : List (List K)) : Except SimulationFailure (List (List K)) := do
  require (merged ≠ []) (.fusion (.worker "NUMERICAL_FAILURE" "No local representative centers were produced."
    "ANCHOR_AGGREGATING"))
  let scales ← arithmetic (standardization functions merged)
  let standardized ← arithmetic (merged.mapM fun point => standardizeRow point scales.1 scales.2)
  let count : Nat := (contexts.map fun context => context.count "anchors" "public_anchors").foldl max 0
  let iterations : Nat := (contexts.map fun context => context.count "anchors" "iterations").foldl max 0
  let seed := publicAnchorSeed sha256 (contexts.map fun context => context.count "anchors" "random_seed")
  let centers ← arithmetic (simpleKmeans false standardized (min count standardized.length) iterations seed)
  return centers.map fun point => unstandardize point scales.1 scales.2

/-- The support of an anchor with a position. -/
def anchorSupport (functions : Fusion.Functions K) (context : AgentContext K) (scale : K) (entry : K × Nat) :
    Except AggregationError K := do
  let value ← supportAt functions (max (context.number "support" "scale_multiple" * scale) (1 / 10 ^ 8)) entry.1
  return if context.count "anchors" "public_anchors" ≤ entry.2 ∨ value < context.number "support" "minimum_weight" then 0
    else value

/-- What a context contributes at the public anchors. -/
def contribution (functions : Fusion.Functions K) (context : AgentContext K) (fit : LocalFit K) (anchors : List (List K)) :
    Except SimulationFailure (AgentContribution K) := do
  let queries ← arithmetic (anchors.mapM fun point =>
    standardizeRow point context.standardization.means context.standardization.sampleStds)
  let predicted ← arithmetic (localGpPredict functions fit.model queries)
  let columns ← (Features.trendAndScoreColumns (context.count "feature_state" "nLag")).mapError SimulationFailure.features
  let trends ← arithmetic (anchors.mapM fun point => readAt .indexError point columns.1)
  let scores ← arithmetic (anchors.mapM fun point => readAt .indexError point columns.2)
  let variances ← fusing (predicted.2.1.mapM fun std => Fusion.calibratedVariance functions context.settings
    (Fusion.halfWidth context.settings fit.initialQ (max std context.settings.stdFloor)))
  let scale ← arithmetic (supportScale functions.sqrt middle false fit.model.xTrain 300)
  let distances ← arithmetic (nearestDistances functions fit.model.xTrain queries)
  let support ← arithmetic (distances.zipIdx.mapM (anchorSupport functions context scale))
  return {
    agent := context.agent, anchorMeans := context.blend predicted.1 trends scores
    anchorVariances := variances, anchorSupport := support }

/-! ## Global models -/

/-- `_optimize_alpha` -/
def optimizeAlpha (targets localMean globalMean : List K) (maximum : K) : K :=
  let delta := (globalMean.zip localMean).map fun entry => entry.1 - entry.2
  let residual := (targets.zip localMean).map fun entry => entry.1 - entry.2
  let denominator := dot delta delta
  if machineEpsilon < denominator then min (max (dot delta residual / denominator) 0) maximum else 0

/-- The predictions of the two models in one, by a weight and the gates of the support. -/
def blendModels (alpha : K) (localMean globalMean gates : List K) : List K :=
  (localMean.zip (globalMean.zip gates)).map fun entry =>
    (1 - alpha * entry.2.2) * entry.1 + alpha * entry.2.2 * entry.2.1

/-- `_calibrated_variances` -/
def calibratedVariances (functions : Fusion.Functions K) (settings : Fusion.FusionSettings K) (stds : List K) (q : K) :
    Except Fusion.FusionFailure (List K) :=
  stds.mapM fun std => Fusion.calibratedVariance functions settings (Fusion.halfWidth settings q std)

/-- The deviations of the mixtures.  The source binds the name of the global prediction a second
time, to the global variance, so the variance stands where the mean is meant. -/
def fusedDeviations (functions : Fusion.Functions K) (settings : Fusion.FusionSettings K) (alpha : K)
    (localMean globalMean localVariance globalVariance gates : List K) : List K :=
  (localMean.zip (globalMean.zip (localVariance.zip (globalVariance.zip gates)))).map fun entry =>
    functions.sqrt (Fusion.mixtureVariance settings entry.1 entry.2.2.2.1 entry.2.2.1 entry.2.2.2.1
      (alpha * entry.2.2.2.2))

/-- What `_fit_global_contexts` leaves in the runtime state of a context. -/
structure GlobalFit (K : Type) where
  model : SurrogateGPModel K
  testMean : List K
  testStd : List K
  testSupport : List K
  scoreWindow : List K
  fusedScoreWindow : List K
  localErrorWindow : List K
  globalErrorWindow : List K
  fusionAlpha : K

/-- The estimates of the other agents at the anchors. -/
def leftOut (context : AgentContext K) (field : AnchorEstimate K -> List K) (estimates : List (AnchorEstimate K)) :
    Except SimulationFailure (List K) :=
  arithmetic (estimates.mapM fun estimate => readAt .indexError (field estimate) (context.agent - 1))

/-- The weight of the global model, and the predictions with it.  It is given up when they are not
much better than the local ones. -/
def chooseAlpha (functions : Fusion.Functions K) (context : AgentContext K) (targets localMean globalMean gates : List K) :
    Except AggregationError (K × List K) := do
  let alpha := optimizeAlpha targets localMean globalMean context.settings.maximumGlobalWeight
  let blended := blendModels alpha localMean globalMean gates
  let localError ← rmse functions targets localMean
  let blendedError ← rmse functions targets blended
  return if localError * (1 - context.number "fusion" "initial_improvement") ≤ blendedError then (0, localMean)
    else (alpha, blended)

/-- One turn of the loop of `_fit_global_contexts`. -/
def fitGlobal (functions : Fusion.Functions K) (context : AgentContext K) (fit : LocalFit K) (anchors : List (List K))
    (estimates : List (AnchorEstimate K)) : Except SimulationFailure (GlobalFit K) := do
  let looMeans ← leftOut context AnchorEstimate.looMeans estimates
  let looVariances ← leftOut context AnchorEstimate.looVariances estimates
  let model ← trainSurrogate functions (surrogateSettings context.parameters) anchors looMeans looVariances
    context.settings.varianceFloor
  let calibration ← itemsOf context.dataset.values context.split.calibration
  let test ← itemsOf context.dataset.values context.split.test
  let calibrated ← arithmetic (surrogatePredict functions model calibration)
  let tested ← arithmetic (surrogatePredict functions model test)
  let calibrationMean := context.limit calibrated.1
  let calibrationStd := context.effective calibrated.2
  let targets ← itemsOf context.dataset.targets context.split.calibration
  let globalScores ← arithmetic (scores targets calibrationMean calibrationStd)
  let support ← arithmetic (surrogateSupport functions (context.number "support" "scale_multiple")
    (context.number "support" "minimum_weight") model calibration)
  let gates := support.map fun value => min 1 (value / max context.settings.fullWeightReference machineEpsilon)
  let chosen ← arithmetic (chooseAlpha functions context targets fit.calibrationMean calibrationMean gates)
  let globalWindow ← context.initialWindow "global" globalScores
  let globalQ ← fusing (Fusion.scoreQuantile context.settings globalWindow)
  let localVariances ← fusing (calibratedVariances functions context.settings fit.calibrationStd fit.initialQ)
  let globalVariances ← fusing (calibratedVariances functions context.settings calibrationStd globalQ)
  let fusedStds := fusedDeviations functions context.settings chosen.1 fit.calibrationMean calibrationMean localVariances
    globalVariances gates
  let fusedScores ← arithmetic (scores targets chosen.2 fusedStds)
  let testSupport ← arithmetic (surrogateSupport functions (context.number "support" "scale_multiple")
    (context.number "support" "minimum_weight") model test)
  let fusedWindow ← context.initialWindow "fused" fusedScores
  let localErrors ← context.initialErrors "local" targets fit.calibrationMean
  let globalErrors ← context.initialErrors "global" targets calibrationMean
  return {
    model, testMean := context.limit tested.1, testStd := context.effective tested.2, testSupport
    scoreWindow := globalWindow, fusedScoreWindow := fusedWindow, localErrorWindow := localErrors
    globalErrorWindow := globalErrors, fusionAlpha := chosen.1 }

/-! ## The simulation -/

/-- `_validate_feature_widths` -/
def validateFeatureWidths (contexts : List (AgentContext K)) : Except SimulationFailure PUnit := do
  require (∀ context ∈ contexts, context.dataset.values ≠ []) (.fusion (.worker "INSUFFICIENT_SAMPLES"
    "Agent feature data is empty." "PREPROCESSING"))
  require (∀ context ∈ contexts,
      (context.dataset.values.headD []).length = 4 * context.count "feature_state" "nLag" + 32)
    (.fusion (.worker "INPUT_INVALID" "Feature dimension does not match frozen nLag." "PREPROCESSING"))

/-- `_shared_floor` -/
def sharedFloor (contexts : List (AgentContext K)) : Except SimulationFailure K :=
  arithmetic (greatest (contexts.map fun context => context.settings.varianceFloor))

/-- What a context hands to the loop over its test part. -/
def fusionContext (context : AgentContext K) (fit : LocalFit K) (made : GlobalFit K) : Fusion.FusionContext K where
  agent := context.agent
  parameters := context.parameters
  targets := context.dataset.targets
  sourceRows := context.dataset.sourceRows
  test := context.split.test
  runtime :=
    { localTestMean := fit.testMean, localTestStd := fit.testStd, globalTestMean := made.testMean
      globalTestStd := made.testStd, globalTestSupport := made.testSupport, localScoreWindow := fit.scoreWindow
      globalScoreWindow := made.scoreWindow, fusedScoreWindow := made.fusedScoreWindow
      localErrorWindow := made.localErrorWindow, globalErrorWindow := made.globalErrorWindow
      fusionAlpha := made.fusionAlpha }

/-- What the stages before the loop have computed. -/
structure Prepared (K : Type) where
  fits : List (LocalFit K)
  centers : List (List (List K))
  anchors : List (List K)
  contributions : List (AgentContribution K)
  estimates : List (AnchorEstimate K)
  globals : List (GlobalFit K)

/-- The contexts in the order of their agents. -/
def inOrder (contexts : List (AgentContext K)) : List (AgentContext K) :=
  contexts.insertionSort fun first second => first.agent ≤ second.agent

/-- The stages of `execute_simulation` before the loop over the test parts. -/
def prepare (functions : Fusion.Functions K) (sha256 : String -> List Nat) (ordered : List (AgentContext K)) :
    Except SimulationFailure (Prepared K) := do
  require (ordered.map AgentContext.agent = [1, 2, 3]) (.fusion (.worker "INPUT_INVALID"
    "SIMULATION requires Agent 1, Agent 2, and Agent 3." "LOCAL_TRAINING"))
  validateFeatureWidths ordered
  let fits ← ordered.mapM (fitLocal functions)
  let centers ← (ordered.zip fits).mapM fun entry => localCenters entry.1 entry.2
  let anchors ← publicAnchors functions sha256 ordered centers.flatten
  let contributions ← (ordered.zip fits).mapM fun entry => contribution functions entry.1 entry.2 anchors
  let floor ← sharedFloor ordered
  let estimates ← arithmetic (aggregate floor contributions)
  let globals ← (ordered.zip fits).mapM fun entry => fitGlobal functions entry.1 entry.2 anchors estimates
  return { fits, centers, anchors, contributions, estimates, globals }

/-- The contexts of the loop. -/
def Prepared.contexts (prepared : Prepared K) (ordered : List (AgentContext K)) : List (Fusion.FusionContext K) :=
  (ordered.zip (prepared.fits.zip prepared.globals)).map fun entry => fusionContext entry.1 entry.2.1 entry.2.2

/-- `execute_simulation`: what the stages have computed, and the rows of every agent -/
def executeSimulation (functions : Fusion.Functions K) (sha256 : String -> List Nat) (contexts : List (AgentContext K)) :
    Except SimulationFailure (Prepared K × List (List (Fusion.FusionRow K))) := do
  let ordered := inOrder contexts
  let prepared ← prepare functions sha256 ordered
  let rows ← (prepared.contexts ordered).mapM fun context => fusing (Fusion.onlineFuse functions context)
  return (prepared, rows)

end Simulation
end Worker
end FederatedIot
