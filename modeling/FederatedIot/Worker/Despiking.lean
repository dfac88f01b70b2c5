import FederatedIot.Foundation.Positions
import FederatedIot.Worker.Features
import FederatedIot.Worker.Preprocessing
import Mathlib.Data.List.Sort
import Mathlib.Data.Rat.Cast.Defs

namespace FederatedIot
namespace Worker

open Foundation Foundation.Outcome Foundation.Positions

/-!
# The repair of spikes

A sample is flagged when its residual against a running median is too large, and
the flags are spread to the neighbours.  What is flagged is replaced by the
straight line through the nearest samples without a flag.  The functions are
those of any arithmetic; which samples are kept and how many there are does not
depend on it.
-/

/-- The operations of the filters. -/
class SignalArithmetic (α : Type) extends Features.Arithmetic α, IntCast α where
  /-- a number that is written in the source -/
  literal : Rat -> α
  /-- `<` -/
  less : α -> α -> Bool
  /-- `== 0.0` -/
  isZero : α -> Bool
  /-- `sum` -/
  total : List α -> α
  /-- `sorted` -/
  sorted : List α -> List α

inductive SignalFailure where
  | preparation (failure : PreparationFailure)
  /-- `StatisticsError` -/
  | statistics
  | zeroDivision
  | indexError
  deriving DecidableEq

/-- The bound of a slice of a sequence with this length. -/
def sliceBound (length : Nat) (position : Int) : Nat :=
  (if position < 0 then position + length else position).toNat

/-- `values[start:stop]` -/
def slice {β : Type} (values : List β) (start stop : Int) : List β :=
  (values.take (sliceBound values.length stop)).drop (sliceBound values.length start)

section Filters

variable {α : Type} [SignalArithmetic α]

/-- `sys_float_epsilon` -/
def sysFloatEpsilon : α :=
  SignalArithmetic.literal (1 / 2 ^ 52)

/-- `statistics.median` -/
def median (values : List α) : Except SignalFailure α :=
  let data := SignalArithmetic.sorted values
  let half := data.length / 2
  if data.length = 0 then .error .statistics
  else if data.length % 2 = 1 then readAt .indexError data half
  else do
    let low ← readAt .indexError data (half - 1)
    let high ← readAt .indexError data half
    return (low + high) / ((2 : Nat) : α)

/-- `_moving_median` -/
def movingMedian (values : List α) (window : Int) : Except SignalFailure (List α) :=
  let half := window / 2
  (List.range values.length).mapM fun index : Nat =>
    median (slice values (max 0 (index - half)) (min values.length (index + half + 1)))

/-- The other path of `_median_filter`. -/
def zeroPaddedMedian (values : List α) (window : Int) : Except SignalFailure (List α) :=
  let padding := List.replicate (window / 2).toNat ((0 : Nat) : α)
  (List.range values.length).mapM fun index : Nat => median (slice (padding ++ values ++ padding) index (index + window))

/-- `_median_filter` -/
def medianFilter (values : List α) (window : Int) (path : String) : Except SignalFailure (List α) :=
  if path = "moving_median_compat_v1" then movingMedian values window
  else if path = "median_filter_zero_padded_v1" then zeroPaddedMedian values window
  else .error (.preparation (inputInvalid ("Unsupported explicit median filter path: " ++ path)))

/-- The residual against the baseline. -/
def residuals (source : List α) (window : Int) (path : String) : Except SignalFailure (List α) := do
  let baseline ← medianFilter source window path
  (List.range source.length).mapM fun index => do
    let value ← readAt .indexError source index
    let level ← readAt .indexError baseline index
    return value - level

/-- The spread of the residual that the threshold is a multiple of. -/
def deviation (residual : List α) : Except SignalFailure α := do
  let residualMedian ← median residual
  let mad ← median (residual.map fun value => Features.Arithmetic.abs (value - residualMedian))
  return if SignalArithmetic.less mad sysFloatEpsilon then Features.sampleStd residual else mad

def flagBefore (spikes : List Bool) (index : Nat) : Except SignalFailure (List Bool) :=
  if 0 < index then writeAt .indexError spikes (index - 1) true else .ok spikes

def flagAfter (count : Nat) (spikes : List Bool) (index : Nat) : Except SignalFailure (List Bool) :=
  if index + 1 < count then writeAt .indexError spikes (index + 1) true else .ok spikes

/-- One turn of the loop that spreads the marks. -/
def markAround (count : Nat) (spikes : List Bool) (entry : Bool × Nat) : Except SignalFailure (List Bool) :=
  if entry.1 then do
    let here ← writeAt .indexError spikes entry.2 true
    let left ← flagBefore here entry.2
    flagAfter count left entry.2
  else .ok spikes

/-- The loop that spreads the marks. -/
def spreadMarks (initial : List Bool) : Except SignalFailure (List Bool) :=
  initial.zipIdx.foldlM (markAround initial.length) (List.replicate initial.length false)

/-- `values[-offset]`, of a positive offset -/
def readBack {β : Type} (values : List β) (offset : Nat) : Except SignalFailure β :=
  if offset ≤ values.length then readAt .indexError values (values.length - offset) else .error .indexError

/-- `values[origin] + (values[second] - values[first]) * (index - origin) / (second - first)` -/
def alongLine (values : List α) (origin first second index : Nat) : Except SignalFailure α := do
  let atOrigin ← readAt .indexError values origin
  let atSecond ← readAt .indexError values second
  let atFirst ← readAt .indexError values first
  if second = first then .error .zeroDivision
  else return atOrigin + (atSecond - atFirst) * ((index - origin : Int) : α) / ((second - first : Int) : α)

/-- The value of `_linear_repair` at a flagged sample. -/
def repairAt (values : List α) (good : List Nat) (index : Nat) : Option Nat -> Option Nat -> Except SignalFailure α
  | some left, some right => alongLine values left left right index
  | none, _ => do
      let first ← readAt .indexError good 0
      let second ← readAt .indexError good 1
      alongLine values first first second index
  | some _, none => do
      let first ← readBack good 2
      let second ← readBack good 1
      alongLine values second first second index

/-- The positions without a flag. -/
def goodPositions (spikes : List Bool) : List Nat :=
  (spikes.zipIdx.filter fun entry => !entry.1).map Prod.snd

/-- One turn of the last loop of `_linear_repair`. -/
def repairEntry (values : List α) (spikes : List Bool) (entry : Bool × Nat) : Except SignalFailure α :=
  if entry.1 then do
    let left ← readAt .indexError (nearestBefore spikes) entry.2
    let right ← readAt .indexError (nearestAfter spikes) entry.2
    repairAt values (goodPositions spikes) entry.2 left right
  else readAt .indexError values entry.2

/-- `_linear_repair` -/
def linearRepair (values : List α) (spikes : List Bool) : Except SignalFailure (List α) :=
  spikes.zipIdx.mapM (repairEntry values spikes)

/-- `_despike_and_repair` -/
def despikeAndRepair (source : List α) (window : Int) (factor : α) (path : String) :
    Except SignalFailure (List α × List Bool) :=
  if (source.length : Int) < window + 5 then .ok (source, List.replicate source.length false)
  else do
    let residual ← residuals source (oddWindow window) path
    let mad ← deviation residual
    if SignalArithmetic.less mad sysFloatEpsilon then return (source, List.replicate source.length false)
    else do
      let threshold := factor * SignalArithmetic.literal (14826 / 10000) * mad
      let spikes ← spreadMarks (residual.map fun value =>
        SignalArithmetic.less threshold (Features.Arithmetic.abs value))
      if spikes.count false < 2 ∨ spikes.count true = 0 then return (source, spikes)
      else do
        let repaired ← linearRepair source spikes
        return (repaired, spikes)

end Filters

/-! ## The flags -/

/-- A mark at the position or beside it. -/
def NearMark (initial : List Bool) (index : Nat) : Prop :=
  ∃ marked, initial[marked]? = some true ∧ marked ≤ index + 1 ∧ index ≤ marked + 1

theorem set_true_iff {spikes : List Bool} {position index : Nat} (inside : index < spikes.length) :
    (spikes.set position true)[index]? = some true ↔ spikes[index]? = some true ∨ index = position := by
  rw [List.getElem?_set]
  by_cases same : position = index
  · rw [if_pos same, if_pos (same ▸ inside)]
    exact ⟨fun _ => Or.inr same.symm, fun _ => rfl⟩
  · rw [if_neg same]
    exact ⟨Or.inl, fun either => either.resolve_right fun equal => same equal.symm⟩

theorem flagBefore_ok {spikes : List Bool} {position : Nat} (inside : position < spikes.length) :
    ∃ flagged, flagBefore spikes position = .ok flagged ∧ flagged.length = spikes.length ∧
      forall index, index < spikes.length ->
        (flagged[index]? = some true ↔ spikes[index]? = some true ∨ index + 1 = position) := by
  by_cases first : 0 < position
  · refine ⟨spikes.set (position - 1) true, ?_, List.length_set, ?_⟩
    · rw [flagBefore, if_pos first]
      exact writeAt_of_inside _ (by omega) true
    · intro index below
      rw [set_true_iff below, show index = position - 1 ↔ index + 1 = position by omega]
  · refine ⟨spikes, if_neg first, rfl, ?_⟩
    intro index _
    exact ⟨Or.inl, fun either => either.resolve_right (by omega)⟩

theorem flagAfter_ok (spikes : List Bool) (position : Nat) :
    ∃ flagged, flagAfter spikes.length spikes position = .ok flagged ∧ flagged.length = spikes.length ∧
      forall index, index < spikes.length ->
        (flagged[index]? = some true ↔ spikes[index]? = some true ∨ index = position + 1) := by
  by_cases last : position + 1 < spikes.length
  · refine ⟨spikes.set (position + 1) true, ?_, List.length_set, ?_⟩
    · rw [flagAfter, if_pos last]
      exact writeAt_of_inside _ last true
    · intro index below
      exact set_true_iff below
  · refine ⟨spikes, if_neg last, rfl, ?_⟩
    intro index below
    exact ⟨Or.inl, fun either => either.resolve_right (by omega)⟩

/-- One mark flags itself and its neighbours. -/
theorem markAround_ok {spikes : List Bool} {entry : Bool × Nat} (inside : entry.2 < spikes.length) :
    ∃ next, markAround spikes.length spikes entry = .ok next ∧ next.length = spikes.length ∧
      forall index, index < spikes.length -> (next[index]? = some true ↔
        spikes[index]? = some true ∨ entry.1 = true ∧ entry.2 ≤ index + 1 ∧ index ≤ entry.2 + 1) := by
  rcases entry with ⟨marked, position⟩
  change position < spikes.length at inside
  cases marked with
  | false =>
      refine ⟨spikes, rfl, rfl, ?_⟩
      intro index _
      simp
  | true =>
      have hereLength : (spikes.set position true).length = spikes.length := List.length_set
      rcases flagBefore_ok (hereLength.symm ▸ inside) with ⟨left, leftWritten, leftLength, leftFlags⟩
      rcases flagAfter_ok left position with ⟨right, rightWritten, rightLength, rightFlags⟩
      rw [hereLength] at leftLength leftFlags
      rw [leftLength] at rightWritten rightLength rightFlags
      refine ⟨right, ?_, rightLength, ?_⟩
      · rw [markAround, if_pos rfl, writeAt_of_inside _ inside, ok_bind, leftWritten, ok_bind, rightWritten]
      · intro index below
        rw [rightFlags index below, leftFlags index below, set_true_iff below, or_assoc, or_assoc]
        apply or_congr_right
        change index = position ∨ index + 1 = position ∨ index = position + 1 ↔
          true = true ∧ position ≤ index + 1 ∧ index ≤ position + 1
        constructor
        · intro near
          exact ⟨rfl, by omega, by omega⟩
        · rintro ⟨_, after, before⟩
          omega

/-- The marks from a position on flag themselves and their neighbours. -/
theorem foldlM_markAround {count : Nat} {rest : List Bool} {start : Nat} (fits : start + rest.length ≤ count)
    {spikes : List Bool} (length : spikes.length = count) :
    ∃ final, (rest.zipIdx start).foldlM (markAround count) spikes = .ok final ∧ final.length = count ∧
      forall index, index < count -> (final[index]? = some true ↔ spikes[index]? = some true ∨
        ∃ marked, rest[marked]? = some true ∧ start + marked ≤ index + 1 ∧ index ≤ start + marked + 1) := by
  induction rest generalizing start spikes with
  | nil =>
      refine ⟨spikes, rfl, length, ?_⟩
      intro index _
      simp
  | cons marked rest inductionHypothesis =>
      rw [List.length_cons] at fits
      rcases @markAround_ok spikes (marked, start) (by change start < spikes.length; omega) with
        ⟨next, marks, nextLength, nextFlags⟩
      rw [length] at marks nextLength nextFlags
      rcases @inductionHypothesis (start + 1) (by omega) next nextLength with ⟨final, run, finalLength, finalFlags⟩
      refine ⟨final, ?_, finalLength, ?_⟩
      · rw [List.zipIdx_cons, List.foldlM_cons, marks, ok_bind, run]
      · intro index below
        rw [finalFlags index below, nextFlags index below, or_assoc]
        apply or_congr_right
        constructor
        · rintro (⟨isMarked, after, before⟩ | ⟨later, isMarked, after, before⟩)
          · exact ⟨0, congrArg some isMarked, after, before⟩
          · exact ⟨later + 1, isMarked, by omega, by omega⟩
        · rintro ⟨later, isMarked, after, before⟩
          cases later with
          | zero => exact Or.inl ⟨Option.some.inj isMarked, after, before⟩
          | succ later => exact Or.inr ⟨later, isMarked, by omega, by omega⟩

/-- The flags are the marks and their neighbours. -/
theorem spreadMarks_ok (initial : List Bool) :
    ∃ spikes, spreadMarks initial = .ok spikes ∧ spikes.length = initial.length ∧
      forall index, index < initial.length -> (spikes[index]? = some true ↔ NearMark initial index) := by
  rcases @foldlM_markAround initial.length initial 0 (by omega) (List.replicate initial.length false) List.length_replicate with
    ⟨spikes, run, length, flags⟩
  refine ⟨spikes, run, length, ?_⟩
  intro index below
  rw [flags index below, List.getElem?_replicate, if_pos below]
  simp [NearMark]

/-! ## The positions without a flag -/

theorem goodPositions_sorted (spikes : List Bool) : (goodPositions spikes).Pairwise (· < ·) := by
  have positions : (spikes.zipIdx.map Prod.snd).Pairwise (· < ·) := by
    rw [List.zipIdx_map_snd]
    exact List.pairwise_lt_range'
  exact positions.sublist (List.filter_sublist.map Prod.snd)

theorem mem_goodPositions {spikes : List Bool} {position : Nat} :
    position ∈ goodPositions spikes ↔ spikes[position]? = some false := by
  rw [goodPositions, List.mem_map]
  constructor
  · rintro ⟨⟨marked, index⟩, member, rfl⟩
    rcases List.mem_filter.mp member with ⟨listed, unmarked⟩
    have present := List.mk_mem_zipIdx_iff_getElem?.mp listed
    cases marked with
    | true => cases unmarked
    | false => exact present
  · intro present
    exact ⟨(false, position), List.mem_filter.mpr ⟨List.mk_mem_zipIdx_iff_getElem?.mpr present, rfl⟩, rfl⟩

theorem goodPositions_length (spikes : List Bool) : (goodPositions spikes).length = spikes.count false := by
  have firsts : (spikes.zipIdx.map Prod.fst).countP (fun marked => !marked) = spikes.countP fun marked => !marked := by
    rw [List.zipIdx_map_fst]
  rw [goodPositions, List.length_map, ← List.countP_eq_length_filter]
  rw [List.countP_map] at firsts
  refine firsts.trans (List.countP_congr ?_)
  intro marked _
  cases marked with
  | true => simp
  | false => simp

/-- Of two unflagged positions the lower one is listed first. -/
theorem goodPositions_order {spikes : List Bool} {first second : Nat} (firstInside : first < (goodPositions spikes).length)
    (secondInside : second < (goodPositions spikes).length)
    (lower : (goodPositions spikes)[first] < (goodPositions spikes)[second]) : first < second := by
  by_contra notBefore
  rcases Nat.lt_or_eq_of_le (not_lt.mp notBefore) with after | same
  · have greater := List.pairwise_iff_getElem.mp (goodPositions_sorted spikes) second first secondInside firstInside after
    omega
  · subst same
    omega

theorem flagged_or_good {spikes : List Bool} {position : Nat} (inside : position < spikes.length) :
    spikes[position]? = some true ∨ ∃ place, ∃ listed : place < (goodPositions spikes).length,
      (goodPositions spikes)[place] = position := by
  have present := List.getElem?_eq_getElem inside
  cases marked : spikes[position] with
  | true => exact Or.inl (by rw [present, marked])
  | false => exact Or.inr (List.mem_iff_getElem.mp (mem_goodPositions.mpr (by rw [present, marked])))

theorem good_inside {spikes : List Bool} {place : Nat} (listed : place < (goodPositions spikes).length) :
    (goodPositions spikes)[place] < spikes.length :=
  (List.getElem?_eq_some_iff.mp (mem_goodPositions.mp (List.getElem_mem listed))).1

/-- Between two unflagged positions that are listed one after the other there
are flags only. -/
theorem goodPositions_between {spikes : List Bool} {place : Nat} (listed : place + 1 < (goodPositions spikes).length)
    {middle : Nat} (after : (goodPositions spikes)[place] < middle) (before : middle < (goodPositions spikes)[place + 1]) :
    spikes[middle]? = some true := by
  rcases flagged_or_good (before.trans (good_inside listed)) with flagged | ⟨other, otherListed, same⟩
  · exact flagged
  · have lower := goodPositions_order (Nat.lt_of_succ_lt listed) otherListed (same.symm ▸ after)
    have upper := goodPositions_order otherListed listed (same.symm ▸ before)
    omega

theorem goodPositions_ascending {spikes : List Bool} {place : Nat} (listed : place + 1 < (goodPositions spikes).length) :
    (goodPositions spikes)[place] < (goodPositions spikes)[place + 1] :=
  List.pairwise_iff_getElem.mp (goodPositions_sorted spikes) place (place + 1) _ _ (Nat.lt_succ_self place)

/-- What stands before the first unflagged position is flagged. -/
theorem flagged_before_first {spikes : List Bool} (listed : 0 < (goodPositions spikes).length) {middle : Nat}
    (before : middle < (goodPositions spikes)[0]) : spikes[middle]? = some true := by
  rcases flagged_or_good (before.trans (good_inside listed)) with flagged | ⟨other, otherListed, same⟩
  · exact flagged
  · exact absurd (goodPositions_order otherListed listed (same.symm ▸ before)) (Nat.not_lt_zero other)

/-- What stands after the last unflagged position is flagged. -/
theorem flagged_after_last {spikes : List Bool} {last : Nat} (listed : last < (goodPositions spikes).length)
    (isLast : (goodPositions spikes).length = last + 1) {middle : Nat} (after : (goodPositions spikes)[last] < middle)
    (inside : middle < spikes.length) : spikes[middle]? = some true := by
  rcases flagged_or_good inside with flagged | ⟨other, otherListed, same⟩
  · exact flagged
  · have lower := goodPositions_order listed otherListed (same.symm ▸ after)
    omega

/-- Before the first unflagged position the next two are the first two of the
list. -/
theorem firstGood_next {spikes : List Bool} (two : 1 < (goodPositions spikes).length) {index : Nat}
    (here : spikes[index]? = some true) (edge : forall position, position < index -> spikes[position]? = some true) :
    ∃ first second, (goodPositions spikes)[0]? = some first ∧ (goodPositions spikes)[1]? = some second ∧
      IsNext spikes index first ∧ IsNext spikes first second := by
  have listed : 0 < (goodPositions spikes).length := Nat.zero_lt_of_lt two
  have unflagged := mem_goodPositions.mp (List.getElem_mem listed)
  refine ⟨(goodPositions spikes)[0], (goodPositions spikes)[1], List.getElem?_eq_getElem _,
    List.getElem?_eq_getElem _, ⟨?_, unflagged, ?_⟩, goodPositions_ascending two,
    mem_goodPositions.mp (List.getElem_mem _), ?_⟩
  · by_contra notAfter
    have flagged : spikes[(goodPositions spikes)[0]]? = some true := by
      rcases Nat.lt_or_eq_of_le (not_lt.mp notAfter) with before | same
      · exact edge _ before
      · exact same ▸ here
    rw [unflagged] at flagged
    cases flagged
  · intro middle _ before
    exact flagged_before_first listed before
  · intro middle after before
    exact goodPositions_between two after before

/-- After the last unflagged position the previous two are the last two of the
list. -/
theorem lastGood_previous {spikes : List Bool} (two : 1 < (goodPositions spikes).length) {index : Nat}
    (here : spikes[index]? = some true)
    (edge : forall position, index < position -> position < spikes.length -> spikes[position]? = some true) :
    ∃ first second, readBack (goodPositions spikes) 2 = .ok first ∧ readBack (goodPositions spikes) 1 = .ok second ∧
      IsPrevious spikes index second ∧ IsPrevious spikes second first := by
  obtain ⟨last, length⟩ : ∃ last, (goodPositions spikes).length = last + 1 + 1 :=
    ⟨(goodPositions spikes).length - 2, by omega⟩
  have lastListed : last + 1 < (goodPositions spikes).length := by omega
  have unflagged := mem_goodPositions.mp (List.getElem_mem lastListed)
  refine ⟨(goodPositions spikes)[last], (goodPositions spikes)[last + 1], ?_, ?_, ⟨?_, unflagged, ?_⟩,
    goodPositions_ascending lastListed, mem_goodPositions.mp (List.getElem_mem _), ?_⟩
  · rw [readBack, if_pos (show 2 ≤ (goodPositions spikes).length from two), readAt_ok_iff,
      show (goodPositions spikes).length - 2 = last by omega]
    exact List.getElem?_eq_getElem _
  · rw [readBack, if_pos (show 1 ≤ (goodPositions spikes).length by omega), readAt_ok_iff,
      show (goodPositions spikes).length - 1 = last + 1 by omega]
    exact List.getElem?_eq_getElem _
  · by_contra notBefore
    have flagged : spikes[(goodPositions spikes)[last + 1]]? = some true := by
      rcases Nat.lt_or_eq_of_le (not_lt.mp notBefore) with after | same
      · exact edge _ after (good_inside lastListed)
      · exact same ▸ here
    rw [unflagged] at flagged
    cases flagged
  · intro middle after before
    exact flagged_after_last lastListed length after (before.trans (List.getElem?_eq_some_iff.mp here).1)
  · intro middle after before
    exact goodPositions_between lastListed after before

/-! ## The repaired samples -/

section Structure

variable {α : Type} [SignalArithmetic α]

/-- How the sample at a position comes out of the repair. -/
inductive Repair (values : List α) (spikes : List Bool) (index : Nat) (value : α) : Prop
  | kept (unflagged : spikes[index]? = some false) (same : values[index]? = some value)
  | between (left right : Nat) (flagged : spikes[index]? = some true) (previous : IsPrevious spikes index left)
      (next : IsNext spikes index right) (line : alongLine values left left right index = .ok value)
  | leftEdge (first second : Nat) (flagged : spikes[index]? = some true)
      (edge : forall position, position < index -> spikes[position]? = some true)
      (nearest : IsNext spikes index first) (further : IsNext spikes first second)
      (line : alongLine values first first second index = .ok value)
  | rightEdge (first second : Nat) (flagged : spikes[index]? = some true)
      (edge : forall position, index < position -> position < spikes.length -> spikes[position]? = some true)
      (nearest : IsPrevious spikes index second) (further : IsPrevious spikes second first)
      (line : alongLine values second first second index = .ok value)

/-- A sample without a flag is kept. -/
theorem Repair.of_unflagged {values : List α} {spikes : List Bool} {index : Nat} {value : α}
    (repair : Repair values spikes index value) (unflagged : spikes[index]? = some false) :
    values[index]? = some value := by
  cases repair with
  | kept _ same => exact same
  | between _ _ flagged | leftEdge _ _ flagged | rightEdge _ _ flagged =>
      rw [unflagged] at flagged
      cases flagged

theorem alongLine_total {values : List α} {origin first second : Nat} (originInside : origin < values.length)
    (firstInside : first < values.length) (secondInside : second < values.length) (distinct : first < second)
    (index : Nat) : ∃ value, alongLine values origin first second index = .ok value := by
  rcases readAt_total SignalFailure.indexError originInside with ⟨atOrigin, _, originRead⟩
  rcases readAt_total SignalFailure.indexError firstInside with ⟨atFirst, _, firstRead⟩
  rcases readAt_total SignalFailure.indexError secondInside with ⟨atSecond, _, secondRead⟩
  rw [alongLine, originRead, ok_bind, secondRead, ok_bind, firstRead, ok_bind, if_neg distinct.ne']
  exact ⟨_, rfl⟩

/-- Every sample is repaired, when two of them have no flag. -/
theorem repairEntry_ok {values : List α} {spikes : List Bool} (same : values.length = spikes.length)
    (two : 2 ≤ spikes.count false) {entry : Bool × Nat} (listed : entry ∈ spikes.zipIdx) :
    ∃ value, repairEntry values spikes entry = .ok value ∧ Repair values spikes entry.2 value := by
  rcases entry with ⟨marked, index⟩
  have here : spikes[index]? = some marked := List.mk_mem_zipIdx_iff_getElem?.mp listed
  have inside : index < spikes.length := (List.getElem?_eq_some_iff.mp here).1
  rw [← goodPositions_length] at two
  cases marked with
  | false =>
      rcases readAt_total SignalFailure.indexError (same.symm ▸ inside) with ⟨value, present, read⟩
      exact ⟨value, read, .kept here present⟩
  | true =>
      rcases nearestBefore_answers inside with ⟨left, leftNoted, leftAnswer⟩
      rcases nearestAfter_answers inside with ⟨right, rightNoted, rightAnswer⟩
      have repairs : repairEntry values spikes (true, index) = repairAt values (goodPositions spikes) index left right := by
        rw [repairEntry, if_pos rfl, readAt_of_some leftNoted, ok_bind, readAt_of_some rightNoted, ok_bind]
      rw [repairs]
      cases left with
      | none =>
          rcases firstGood_next two here leftAnswer with ⟨first, second, firstRead, secondRead, nearest, further⟩
          have firstInside := (List.getElem?_eq_some_iff.mp nearest.unmarked).1
          have secondInside := (List.getElem?_eq_some_iff.mp further.unmarked).1
          rcases alongLine_total (same.symm ▸ firstInside) (same.symm ▸ firstInside) (same.symm ▸ secondInside)
            further.after index with ⟨value, line⟩
          refine ⟨value, ?_, .leftEdge first second here leftAnswer nearest further line⟩
          rw [repairAt, readAt_of_some firstRead, ok_bind, readAt_of_some secondRead, ok_bind, line]
      | some left =>
          cases right with
          | none =>
              rcases lastGood_previous two here rightAnswer with ⟨first, second, firstRead, secondRead, nearest, further⟩
              have secondInside := nearest.before.trans inside
              have firstInside := further.before.trans secondInside
              rcases alongLine_total (same.symm ▸ secondInside) (same.symm ▸ firstInside) (same.symm ▸ secondInside)
                further.before index with ⟨value, line⟩
              refine ⟨value, ?_, .rightEdge first second here rightAnswer nearest further line⟩
              rw [repairAt, firstRead, ok_bind, secondRead, ok_bind, line]
          | some right =>
              have leftInside := leftAnswer.before.trans inside
              have rightInside := (List.getElem?_eq_some_iff.mp rightAnswer.unmarked).1
              rcases alongLine_total (same.symm ▸ leftInside) (same.symm ▸ leftInside) (same.symm ▸ rightInside)
                (leftAnswer.before.trans rightAnswer.after) index with ⟨value, line⟩
              exact ⟨value, line, .between left right here leftAnswer rightAnswer line⟩

/-- With two samples without a flag the repair returns, whatever the flags. -/
theorem linearRepair_ok {values : List α} {spikes : List Bool} (same : values.length = spikes.length)
    (two : 2 ≤ spikes.count false) :
    ∃ repaired, linearRepair values spikes = .ok repaired ∧ repaired.length = values.length ∧
      forall index, index < values.length -> ∃ value, repaired[index]? = some value ∧ Repair values spikes index value := by
  rcases mapM_total fun entry (listed : entry ∈ spikes.zipIdx) =>
    (repairEntry_ok same two listed).imp fun _ => And.left with ⟨repaired, run⟩
  rcases List.forall₂_iff_get.mp (mapM_ok_iff.mp run) with ⟨length, each⟩
  have listedInside : (spikes.zipIdx).length = values.length := by rw [List.length_zipIdx, same]
  refine ⟨repaired, run, length.symm.trans listedInside, ?_⟩
  intro index inside
  have listed : index < (spikes.zipIdx).length := listedInside.symm ▸ inside
  have written := each index listed (length ▸ listed)
  rcases repairEntry_ok same two (List.getElem_mem listed) with ⟨value, returned, repair⟩
  rw [List.get_eq_getElem, returned] at written
  refine ⟨value, ?_, ?_⟩
  · rw [Except.ok.inj written]
    exact List.getElem?_eq_getElem _
  · rw [List.getElem_zipIdx, Nat.zero_add] at repair
    exact repair

theorem residuals_length {source residual : List α} {window : Int} {path : String}
    (computed : residuals source window path = .ok residual) : residual.length = source.length := by
  simp only [residuals, bind_ok_iff] at computed
  rcases computed with ⟨baseline, _, subtracted⟩
  rw [← (mapM_ok_iff.mp subtracted).length_eq, List.length_range]

theorem spreadMarks_length {initial spikes : List Bool} (spread : spreadMarks initial = .ok spikes) :
    spikes.length = initial.length := by
  rcases spreadMarks_ok initial with ⟨flags, run, length, _⟩
  rw [run] at spread
  exact Except.ok.inj spread ▸ length

theorem linearRepair_length {values repaired : List α} {spikes : List Bool}
    (run : linearRepair values spikes = .ok repaired) : repaired.length = spikes.length := by
  rw [← (mapM_ok_iff.mp run).length_eq, List.length_zipIdx]

/-- In any arithmetic the repaired samples and the flags are as many as the
samples. -/
theorem despikeAndRepair_lengths {source repaired : List α} {spikes : List Bool} {window : Int} {factor : α}
    {path : String} (returned : despikeAndRepair source window factor path = .ok (repaired, spikes)) :
    repaired.length = source.length ∧ spikes.length = source.length := by
  unfold despikeAndRepair at returned
  split at returned
  · cases returned
    exact ⟨rfl, List.length_replicate⟩
  · simp only [bind_ok_iff] at returned
    rcases returned with ⟨residual, computed, mad, _, returned⟩
    split at returned
    · cases returned
      exact ⟨rfl, List.length_replicate⟩
    · rcases bind_ok_iff.mp returned with ⟨flags, spread, returned⟩
      have length := (spreadMarks_length spread).trans (List.length_map _ |>.trans (residuals_length computed))
      split at returned
      · cases returned
        exact ⟨rfl, length⟩
      · rcases bind_ok_iff.mp returned with ⟨line, run, returned⟩
        cases returned
        exact ⟨(linearRepair_length run).trans length, length⟩

/-! ## The filter returns -/

/-- Sorting keeps the number of values. -/
def SortsAll (α : Type) [SignalArithmetic α] : Prop :=
  forall values : List α, (SignalArithmetic.sorted values).length = values.length

theorem median_total (sorts : SortsAll α) {values : List α} (present : 0 < values.length) :
    ∃ result, median values = .ok result := by
  have length := sorts values
  unfold median
  simp only [length]
  rw [if_neg present.ne']
  split
  · rcases readAt_total SignalFailure.indexError (show values.length / 2 < (SignalArithmetic.sorted values).length by omega)
      with ⟨middle, _, read⟩
    exact ⟨middle, read⟩
  · rcases readAt_total SignalFailure.indexError
      (show values.length / 2 - 1 < (SignalArithmetic.sorted values).length by omega) with ⟨low, _, lowRead⟩
    rcases readAt_total SignalFailure.indexError (show values.length / 2 < (SignalArithmetic.sorted values).length by omega)
      with ⟨high, _, highRead⟩
    rw [lowRead, ok_bind, highRead, ok_bind]
    exact ⟨_, rfl⟩

theorem slice_present {β : Type} {values : List β} {start stop : Int} (low : 0 ≤ start) (ordered : start < stop)
    (inside : start < values.length) : 0 < (slice values start stop).length := by
  rw [slice, List.length_drop, List.length_take, sliceBound, sliceBound, if_neg (by omega), if_neg (by omega)]
  omega

theorem movingMedian_total (sorts : SortsAll α) (values : List α) {window : Int} (positive : 0 < window) :
    ∃ baseline, movingMedian values window = .ok baseline ∧ baseline.length = values.length := by
  rcases mapM_total fun index (member : index ∈ List.range values.length) =>
    median_total sorts (@slice_present _ values (max 0 (index - window / 2)) (min values.length (index + window / 2 + 1))
      (le_max_left _ _) (by have := List.mem_range.mp member; omega) (by have := List.mem_range.mp member; omega)) with
    ⟨baseline, run⟩
  exact ⟨baseline, run, by rw [← (mapM_ok_iff.mp run).length_eq, List.length_range]⟩

theorem zeroPaddedMedian_total (sorts : SortsAll α) (values : List α) {window : Int} (positive : 0 < window) :
    ∃ baseline, zeroPaddedMedian values window = .ok baseline ∧ baseline.length = values.length := by
  rcases mapM_total fun index (member : index ∈ List.range values.length) =>
    median_total sorts (@slice_present _ (List.replicate (window / 2).toNat ((0 : Nat) : α) ++ values ++
      List.replicate (window / 2).toNat ((0 : Nat) : α)) index (index + window) (Int.natCast_nonneg index) (by omega)
      (by have := List.mem_range.mp member; simp only [List.length_append]; omega)) with ⟨baseline, run⟩
  exact ⟨baseline, run, by rw [← (mapM_ok_iff.mp run).length_eq, List.length_range]⟩

/-- The two paths that are supported. -/
def medianPaths : List String :=
  ["moving_median_compat_v1", "median_filter_zero_padded_v1"]

theorem medianFilter_total (sorts : SortsAll α) (values : List α) {window : Int} (positive : 0 < window) {path : String}
    (supported : path ∈ medianPaths) :
    ∃ baseline, medianFilter values window path = .ok baseline ∧ baseline.length = values.length := by
  unfold medianFilter
  by_cases moving : path = "moving_median_compat_v1"
  · rw [if_pos moving]
    exact movingMedian_total sorts values positive
  · have padded : path = "median_filter_zero_padded_v1" := by
      simpa [medianPaths, moving] using supported
    rw [if_neg moving, if_pos padded]
    exact zeroPaddedMedian_total sorts values positive

/-- The residual is the difference of the samples and their baseline. -/
theorem residuals_total (sorts : SortsAll α) (source : List α) {window : Int} (positive : 0 < window) {path : String}
    (supported : path ∈ medianPaths) :
    ∃ baseline residual, medianFilter source window path = .ok baseline ∧
      residuals source window path = .ok residual ∧ residual.length = source.length := by
  rcases medianFilter_total sorts source positive supported with ⟨baseline, filtered, length⟩
  have subtracted : forall index, index ∈ List.range source.length -> ∃ value, (do
      let value ← readAt SignalFailure.indexError source index
      let level ← readAt SignalFailure.indexError baseline index
      return value - level) = Except.ok value := by
    intro index member
    have inside := List.mem_range.mp member
    rcases readAt_total SignalFailure.indexError inside with ⟨value, _, valueRead⟩
    rcases readAt_total SignalFailure.indexError (length.symm ▸ inside) with ⟨level, _, levelRead⟩
    rw [valueRead, ok_bind, levelRead, ok_bind]
    exact ⟨_, rfl⟩
  rcases mapM_total subtracted with ⟨residual, run⟩
  have computed : residuals source window path = .ok residual := by
    rw [residuals, filtered, ok_bind, run]
  exact ⟨baseline, residual, filtered, computed, residuals_length computed⟩

theorem deviation_total (sorts : SortsAll α) {residual : List α} (present : 0 < residual.length) :
    ∃ mad, deviation residual = .ok mad := by
  rcases median_total sorts present with ⟨center, centerRead⟩
  rcases median_total sorts (show 0 < (residual.map fun value => Features.Arithmetic.abs (value - center)).length by
    rwa [List.length_map]) with ⟨mad, madRead⟩
  rw [deviation, centerRead, ok_bind, madRead, ok_bind]
  exact ⟨_, rfl⟩

end Structure

end Worker
end FederatedIot
