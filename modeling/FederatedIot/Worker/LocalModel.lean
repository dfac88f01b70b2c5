import FederatedIot.Foundation.Covering
import FederatedIot.Worker.Fusion
import FederatedIot.Worker.KernelSystems
import FederatedIot.Worker.RateLimit

namespace FederatedIot
namespace Worker
namespace Simulation

open Foundation Foundation.Outcome Foundation.Positions Foundation.Clusters Cholesky

/-!
# Local models

A local model answers a query from the training points nearest to it: by a Gaussian process
over them when that can be trusted, and by a weighted mean of their values otherwise.  The
arithmetic is exact, so every number is finite.
-/

variable {K : Type} [Field K] [LinearOrder K]

/-! ## Numerals

The numerals of a field rest on facts that have a name here, so that the definitions of every
module refer to the same ones.
-/

theorem two_atLeastTwo : Nat.AtLeastTwo 2 := inferInstance

theorem ten_atLeastTwo : Nat.AtLeastTwo 10 := inferInstance

attribute [local instance] two_atLeastTwo ten_atLeastTwo

/-! ## The functions of the source -/

/-- `_dot` -/
def dot (left right : List K) : K :=
  (List.zipWith (fun a b => a * b) left right).sum

/-- One entry of `_kernel_matrix`, at a squared distance -/
def kernelEntry (functions : Fusion.Functions K) (sigmaF ell distance : K) : Except AggregationError K := do
  let exponent ← divide (-(1 / 2) * distance) (ell ^ 2)
  return sigmaF ^ 2 * functions.exp exponent

/-- `_kernel_matrix` -/
def kernelMatrix (functions : Fusion.Functions K) (left right : List (List K)) (sigmaF ell : K) :
    Except AggregationError (List (List K)) :=
  left.mapM fun a => right.mapM fun b => kernelEntry functions sigmaF ell (squaredDistance a b)

/-- `matrix[index][index] += value`, for each value -/
def addToDiagonal (matrix : List (List K)) (values : List K) : Except AggregationError (List (List K)) :=
  values.zipIdx.foldlM (fun matrix entry => do
    let given ← entryAt matrix entry.2 entry.2
    setEntry matrix entry.2 entry.2 (given + entry.1)) matrix

/-- `max` -/
def greatest : List K -> Except AggregationError K
  | [] => .error emptySequence
  | head :: tail => .ok (tail.foldl max head)

/-- `_weighted_local_fallback` -/
def weightedLocalFallback (functions : Fusion.Functions K) (values distances : List K) (ell regularization : K) :
    Except AggregationError (K × K) := do
  let weights ← distances.mapM fun value => do
    let exponent ← divide (-(1 / 2) * value) (ell ^ 2)
    return functions.exp exponent
  let total := max weights.sum machineEpsilon
  let mean := dot weights values / total
  let spread := dot weights (values.map fun value => (value - mean) ^ 2) / total
  return (mean, max (spread + regularization) machineEpsilon)

/-- The position of a bound in the sorted values. -/
def boundIndex (share : Rat) (count : Nat) : Nat :=
  (min (max (exactRoundHalfAway (share * count) - 1) 0) ((count : Int) - 1)).toNat

/-- `_local_bounds` -/
def localBounds (values : List K) : Except AggregationError (K × K) := do
  let ordered := values.insertionSort (· ≤ ·)
  let low ← readAt .indexError ordered (boundIndex (1 / 100) values.length)
  let high ← readAt .indexError ordered (boundIndex (99 / 100) values.length)
  let largest ← greatest values
  let smallest ← least values
  let margin := max 2 (1 / 2 * (largest - smallest))
  return (low - margin, high + margin)

/-- `LocalGPModel`.  The noise is not read. -/
structure LocalGPModel (K : Type) where
  xTrain : List (List K)
  yTrain : List K
  kNeighbors : Nat
  ell : K
  sigmaF : K
  sigmaN : K
  regularization : K

/-- The nearest training points, each with its squared distance and its position. -/
def neighbors (model : LocalGPModel K) (query : List K) : List (K × Nat) :=
  let distances := (model.xTrain.map (squaredDistance query)).zipIdx
  (distances.insertionSort fun first second => first.1 < second.1 ∨ first.1 = second.1 ∧ first.2 ≤ second.2).take
    model.kNeighbors

/-- The mean and the variance of the process, unless they are not to be trusted. -/
def localCandidate (functions : Fusion.Functions K) (model : LocalGPModel K) (xLocal : List (List K))
    (yLocal distances : List K) : Except AggregationError (Option (K × K)) := do
  let kernel ← kernelMatrix functions xLocal xLocal model.sigmaF model.ell
  let regularized ← addToDiagonal kernel (kernel.map fun _ => model.regularization)
  let lower ← cholesky functions.sqrt regularized
  let center ← mean yLocal
  let alpha ← solveCholesky lower (yLocal.map fun value => value - center)
  let vector ← distances.mapM (kernelEntry functions model.sigmaF model.ell)
  let beta ← solveCholesky lower vector
  let candidate := center + dot vector alpha
  let variance := max (model.sigmaF ^ 2 - dot vector beta + model.regularization) machineEpsilon
  let bounds ← localBounds yLocal
  let diagonal ← (List.range lower.length).mapM fun index => entryAt lower index index
  let smallest ← least diagonal
  let largest ← greatest diagonal
  let condition ← divide smallest largest
  return if bounds.1 ≤ candidate ∧ candidate ≤ bounds.2 ∧ 1 / 10 ^ 10 ≤ condition ^ 2 then some (candidate, variance)
    else none

/-- What is predicted for a query, and whether the process was not used for it. -/
structure LocalAnswer (K : Type) where
  mean : K
  std : K
  fellBack : Bool

/-- One turn of the loop of `_local_gp_predict_python`.  An index out of range is the one error
that is not caught. -/
def localAnswer (functions : Fusion.Functions K) (model : LocalGPModel K) (query : List K) :
    Except AggregationError (LocalAnswer K) := do
  let chosen := neighbors model query
  let xLocal ← chosen.mapM fun point => readAt .indexError model.xTrain point.2
  let yLocal ← chosen.mapM fun point => readAt .indexError model.yTrain point.2
  let distances := chosen.map Prod.fst
  let weighted ← weightedLocalFallback functions yLocal distances model.ell model.regularization
  match localCandidate functions model xLocal yLocal distances with
  | .ok (some candidate) =>
      return { mean := candidate.1, std := functions.sqrt (max candidate.2 machineEpsilon), fellBack := false }
  | .error .indexError => .error .indexError
  | .ok none | .error (.valueError _) | .error .zeroDivision =>
      return { mean := weighted.1, std := functions.sqrt (max weighted.2 machineEpsilon), fellBack := true }

/-- `_local_gp_predict_python` -/
def localGpPredict (functions : Fusion.Functions K) (model : LocalGPModel K) (queries : List (List K)) :
    Except AggregationError (List K × List K × Nat) := do
  let answers ← queries.mapM (localAnswer functions model)
  return (answers.map LocalAnswer.mean, answers.map LocalAnswer.std, answers.countP LocalAnswer.fellBack)

end Simulation
end Worker
end FederatedIot
