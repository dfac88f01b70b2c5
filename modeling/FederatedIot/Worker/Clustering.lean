import FederatedIot.Foundation.Clusters
import FederatedIot.Foundation.Positions
import FederatedIot.Worker.Aggregation
import Mathlib.Data.List.Dedup

namespace FederatedIot
namespace Worker

open Foundation Foundation.Outcome Foundation.Positions Foundation.Clusters

/-!
# Representative centers

The clustering that chooses an agent's centers, in exact arithmetic.  The first
center is drawn from a seeded stream, and each further one is the point farthest
from those before it.  An iteration assigns the points to their nearest centers
and moves each center to the mean of its points; a center without points goes to
the point that was farthest from the centers before they moved.
-/

/-! ## The seeded stream -/

/-- `_ReferenceTwister`: the words of its state and the position among them. -/
structure ReferenceTwister where
  state : List Nat
  index : Nat

namespace ReferenceTwister

def mask : Nat := 0xFFFFFFFF

/-- The words of the state that follow a word, from an index on. -/
def wordsAfter : Nat -> Nat -> Nat -> List Nat
  | 0, _, _ => []
  | remaining + 1, index, previous =>
      let word := (1812433253 * (previous ^^^ (previous >>> 30)) + index) &&& mask
      word :: wordsAfter remaining (index + 1) word

/-- `__init__` -/
def seeded (seed : Int) : ReferenceTwister :=
  let first := (seed % 2 ^ 32).toNat
  { state := first :: wordsAfter 623 1 first, index := 624 }

/-- One turn of the loop that regenerates the state. -/
def regenerateWord (state : List Nat) (index : Nat) : List Nat :=
  let value := (state.getD index 0 &&& 0x80000000) ||| (state.getD ((index + 1) % 624) 0 &&& 0x7FFFFFFF)
  state.set index
    (state.getD ((index + 397) % 624) 0 ^^^ (value >>> 1) ^^^ (if value % 2 = 1 then 0x9908B0DF else 0))

def temper (value : Nat) : Nat :=
  let first := value ^^^ (value >>> 11)
  let second := first ^^^ ((first <<< 7) &&& 0x9D2C5680)
  let third := second ^^^ ((second <<< 15) &&& 0xEFC60000)
  (third ^^^ (third >>> 18)) &&& mask

/-- `_word` -/
def word (stream : ReferenceTwister) : Nat × ReferenceTwister :=
  let ready : ReferenceTwister :=
    if 624 ≤ stream.index then { state := (List.range 624).foldl regenerateWord stream.state, index := 0 } else stream
  (temper (ready.state.getD ready.index 0), { ready with index := ready.index + 1 })

/-- `uniform`, in units of `2 ^ -53` -/
def uniform (stream : ReferenceTwister) : Nat × ReferenceTwister :=
  let high := stream.word
  let low := high.2.word
  ((high.1 >>> 5) * 67108864 + (low.1 >>> 6), low.2)

/-- `randi` -/
def randi (stream : ReferenceTwister) (upper : Nat) : Except AggregationError Nat :=
  if upper < 1 then .error (.valueError "Random-index upper bound must be positive.")
  else .ok (min (stream.uniform.1 * upper / 9007199254740992) (upper - 1))

theorem randi_ok (stream : ReferenceTwister) {upper : Nat} (positive : 0 < upper) :
    ∃ index, stream.randi upper = .ok index ∧ index < upper :=
  ⟨_, if_neg (not_lt.mpr positive), lt_of_le_of_lt (min_le_right _ _) (Nat.sub_lt positive Nat.one_pos)⟩

end ReferenceTwister

/-! ## The clustering -/

variable {α : Type} [Field α] [LinearOrder α]

def emptySequence : AggregationError :=
  .valueError "iterable argument is empty"

/-- The position of the best value, and of several the first. -/
def bestIndex (better : α -> α -> Bool) (values : List α) : Except AggregationError Nat :=
  (firstBest (fun item best => better item.1 best.1 || (decide (item.1 = best.1) && decide (item.2 < best.2)))
    values.zipIdx).elim (.error emptySequence) fun best => .ok best.2

/-- `min(range(count), key=lambda item: (row[item], item))` -/
def nearestIndex (row : List α) : Except AggregationError Nat :=
  bestIndex (fun item best => decide (item < best)) row

/-- `max(range(len(points)), key=lambda item: (values[item], -item))` -/
def farthestIndex (values : List α) : Except AggregationError Nat :=
  bestIndex (fun item best => decide (best < item)) values

/-- `min` -/
def least : List α -> Except AggregationError α
  | [] => .error emptySequence
  | head :: tail => .ok (tail.foldl min head)

/-- `_mean` -/
def mean (values : List α) : Except AggregationError α :=
  divide values.sum values.length

/-- The centers so far, and the squared distance of each point to the nearest. -/
abbrev Growing (α : Type) :=
  List (List α) × List α

/-- Append the point that is farthest from the centers. -/
def growOnce (points : List (List α)) (state : Growing α) : Except AggregationError (Growing α) := do
  let index ← farthestIndex state.2
  let point ← readAt .indexError points index
  return (state.1 ++ [point], List.zipWith (fun value other => min value (squaredDistance other point)) state.2 points)

/-- `while len(centers) < count` -/
def growWhile (points : List (List α)) (count : Nat) : Nat -> Growing α -> Except AggregationError (Growing α)
  | 0, state => .ok state
  | fuel + 1, state =>
      if state.1.length < count then do
        let next ← growOnce points state
        growWhile points count fuel next
      else .ok state

/-- `for center_index in range(1, count)` -/
def growRange (points : List (List α)) (count : Nat) (state : Growing α) : Except AggregationError (Growing α) :=
  (List.range' 1 (count - 1)).foldlM (fun state _ => growOnce points state) state

/-- The further centers, on the path of `_simple_kmeans_numpy` or on that of
`_simple_kmeans_python`. -/
def growCenters (numpy : Bool) (points : List (List α)) (count : Nat) (start : Growing α) :
    Except AggregationError (Growing α) :=
  if numpy then growRange points count start else growWhile points count count start

/-- The centers before the first iteration. -/
def initialCenters (numpy : Bool) (points : List (List α)) (count : Nat) (seed : Int) :
    Except AggregationError (List (List α)) := do
  let first ← (ReferenceTwister.seeded seed).randi points.length
  let center ← readAt .indexError points first
  let start : Growing α := ([center], points.map fun point => squaredDistance point center)
  let grown ← growCenters numpy points count start
  return grown.1

/-- `distances` -/
def distances (points centers : List (List α)) : List (List α) :=
  points.map fun point => centers.map (squaredDistance point)

/-- The mean of points, column by column. -/
def meanPoint (width : Nat) (points : List (List α)) : Except AggregationError (List α) :=
  (List.range width).mapM fun column => do
    let values ← points.mapM fun point => readAt .indexError point column
    mean values

/-- Where a center goes. -/
def moveCenter (points centers : List (List α)) (assignment : List Nat) (index : Nat) :
    Except AggregationError (List α) :=
  if members points assignment index ≠ [] then meanPoint (centers.headD []).length (members points assignment index)
  else do
    let nearest ← (distances points centers).mapM least
    let farthest ← farthestIndex nearest
    readAt .indexError points farthest

/-- The loop over the iterations, which stops when the assignment stays. -/
def iterate (points : List (List α)) (count : Nat) :
    Nat -> Option (List Nat) -> List (List α) -> Except AggregationError (List (List α))
  | 0, _, centers => .ok centers
  | remaining + 1, assignment, centers => do
      let current ← (distances points centers).mapM nearestIndex
      if assignment = some current then .ok centers
      else do
        let moved ← (List.range count).mapM (moveCenter points centers current)
        iterate points count remaining (some current) moved

/-- `_simple_kmeans`; the iterations of both paths are the same. -/
def simpleKmeans (numpy : Bool) (points : List (List α)) (count iterations seed : Int) :
    Except AggregationError (List (List α)) :=
  if points = [] ∨ count ≤ 0 then .ok []
  else do
    let size := (min count points.length).toNat
    let centers ← initialCenters numpy points size seed
    iterate points size iterations.toNat none centers

end Worker
end FederatedIot
