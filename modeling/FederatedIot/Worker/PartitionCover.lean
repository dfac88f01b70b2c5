import FederatedIot.Worker.FeatureLayout
import FederatedIot.Worker.Segments

namespace FederatedIot
namespace Worker

open Foundation Foundation.Outcome Features

/-!
# Partitions and splits cover their rows

In exact arithmetic the edges of the parts rise from the first row to the last, by
almost the same step, and the two counts of a split leave something for the test
part.  The definitions here are those of the source without the rounding of its
numbers to doubles.
-/

/-! ## Exact partitions and splits -/

/-- `_round_half_away_from_zero` -/
def exactRoundHalfAway (value : Rat) : Int :=
  if 0 ≤ value then ⌊value + 1 / 2⌋ else ⌈value - 1 / 2⌉

/-- One of the edges in `partition_contiguous_indices`, counted from one. -/
def exactEdge (totalRows parts index : Nat) : Int :=
  exactRoundHalfAway (1 + (index * totalRows : Nat) / (parts : Rat))

/-- The part with an index. -/
def exactRange (totalRows parts index : Nat) : List Int :=
  pyRange (exactEdge totalRows parts index - 1) (exactEdge totalRows parts (index + 1) - 1)

/-- `partition_contiguous_indices` -/
def exactPartitions (totalRows parts : Nat) (minimumPartLength : Int) :
    Except PreparationFailure (List (List Int)) := do
  require (0 < parts) (.valueError "parts must be positive.")
  (List.range parts).forM fun index =>
    require (minimumPartLength ≤ (exactRange totalRows parts index).length)
      (.valueError ("Partition " ++ toString (index + 1) ++ " has fewer rows than its minimum length."))
  return (List.range parts).map (exactRange totalRows parts)

/-- `ChronologicalSplit` -/
structure SplitIndices where
  train : List Int
  calibration : List Int
  test : List Int

/-- `chronological_split` -/
def exactSplit (totalSamples : Int) (trainRatio calibrationRatio : Rat) :
    Except PreparationFailure SplitIndices := do
  require (0 < totalSamples ∧ 0 < trainRatio ∧ 0 < calibrationRatio ∧ trainRatio + calibrationRatio < 1)
    (.valueError "Invalid chronological split input.")
  let trainCount := ⌊trainRatio * totalSamples⌋
  let calibrationCount := ⌊calibrationRatio * totalSamples⌋
  return { train := pyRange 0 trainCount
           calibration := pyRange trainCount (trainCount + calibrationCount)
           test := pyRange (trainCount + calibrationCount) totalSamples }

/-- `[items[index] for index in indices]`, of indices in range -/
def itemsAt {β : Type} (items : List β) (indices : List Int) : List β :=
  indices.filterMap fun index => items[index.toNat]?

/-! ## Ranges -/

theorem pyRange_append {start middle stop : Int} (first : start ≤ middle) (second : middle ≤ stop) :
    pyRange start middle ++ pyRange middle stop = pyRange start stop := by
  have length : (stop - start).toNat = (middle - start).toNat + (stop - middle).toNat := by omega
  rw [pyRange, pyRange, pyRange, length, List.range_add, List.map_append, List.map_map]
  congr 1
  apply List.map_congr_left
  intro step _
  change middle + (step : Int) = start + ((middle - start).toNat + step : Nat)
  omega

theorem pyRange_pairwise (start stop : Int) : (pyRange start stop).Pairwise (· < ·) := by
  rw [pyRange, List.pairwise_map]
  apply List.pairwise_lt_range.imp
  intro first second before
  omega

/-- Ranges between rising edges cover the range from the first edge to the last. -/
theorem flatten_ranges {edge : Nat -> Int} {parts : Nat}
    (rising : forall index, index < parts -> edge index ≤ edge (index + 1)) :
    edge 0 ≤ edge parts ∧
      ((List.range parts).map fun index => pyRange (edge index) (edge (index + 1))).flatten =
        pyRange (edge 0) (edge parts) := by
  induction parts with
  | zero =>
      refine ⟨Int.le_refl _, ?_⟩
      rw [pyRange, Int.sub_self]
      rfl
  | succ parts inductionHypothesis =>
      rcases inductionHypothesis fun index before => rising index (Nat.lt_succ_of_lt before) with ⟨below, covered⟩
      have last := rising parts (Nat.lt_succ_self parts)
      refine ⟨below.trans last, ?_⟩
      rw [List.range_succ, List.map_append, List.flatten_append, covered, List.map_cons, List.map_nil,
        List.flatten_cons, List.flatten_nil, List.append_nil, pyRange_append below last]

/-- The items at consecutive positions. -/
theorem itemsAt_pyRange {β : Type} (items : List β) {start stop : Nat} (order : start ≤ stop)
    (within : stop ≤ items.length) : itemsAt items (pyRange start stop) = (items.take stop).drop start := by
  induction stop, order using Nat.le_induction with
  | base =>
      rw [pyRange, Int.sub_self, List.drop_eq_nil_of_le (by rw [List.length_take]; exact Nat.min_le_left _ _)]
      rfl
  | succ stop order inductionHypothesis =>
      have earlier := inductionHypothesis (Nat.le_of_succ_le within)
      have grown := @pyRange_append start stop (stop + 1 : Nat) (by omega) (by omega)
      have single : pyRange stop (stop + 1 : Nat) = [(stop : Int)] := by
        rw [pyRange, show ((stop + 1 : Nat) - (stop : Int)).toNat = 1 by omega]
        exact congrArg (fun index => [index]) (Int.add_zero _)
      rw [← grown, single, itemsAt, List.filterMap_append, ← itemsAt, earlier, List.take_add_one,
        List.drop_append_of_le_length (by rw [List.length_take]; omega), List.getElem?_eq_getElem within]
      congr 1
      rw [List.filterMap_cons, Int.toNat_natCast, List.getElem?_eq_getElem within]
      rfl

theorem length_itemsAt {β : Type} {items : List β} {indices : List Int}
    (within : ∀ index ∈ indices, index.toNat < items.length) : (itemsAt items indices).length = indices.length := by
  induction indices with
  | nil => rfl
  | cons index rest inductionHypothesis =>
      have later := inductionHypothesis fun other member => within other (List.mem_cons_of_mem _ member)
      rw [itemsAt, List.filterMap_cons, List.getElem?_eq_getElem (within index List.mem_cons_self)]
      exact congrArg Nat.succ later

/-! ## Edges -/

theorem exactEdge_eq (totalRows parts index : Nat) :
    exactEdge totalRows parts index - 1 = ⌊((index * totalRows : Nat) / (parts : Rat) + 1 / 2 : Rat)⌋ := by
  have nonnegative : (0 : Rat) ≤ 1 + (index * totalRows : Nat) / (parts : Rat) := by positivity
  rw [exactEdge, exactRoundHalfAway, if_pos nonnegative, add_assoc, add_comm, Int.floor_add_one]
  omega

theorem exactEdge_first (totalRows parts : Nat) : exactEdge totalRows parts 0 - 1 = 0 := by
  rw [exactEdge_eq, Nat.zero_mul, Nat.cast_zero, zero_div, zero_add]
  decide +kernel

theorem exactEdge_last {totalRows parts : Nat} (positive : 0 < parts) :
    exactEdge totalRows parts parts - 1 = totalRows := by
  have nonzero : (parts : Rat) ≠ 0 := by exact_mod_cast positive.ne'
  rw [exactEdge_eq, Nat.cast_mul, mul_div_cancel_left₀ _ nonzero, Int.floor_natCast_add]
  have half : ⌊(1 / 2 : Rat)⌋ = 0 := by decide +kernel
  rw [half, add_zero]

/-- Two steps between neighbouring edges differ by at most one row. -/
theorem exactEdge_step (totalRows parts index : Nat) :
    exactEdge totalRows parts index + ⌊(totalRows / parts : Rat)⌋ ≤ exactEdge totalRows parts (index + 1) ∧
      exactEdge totalRows parts (index + 1) ≤ exactEdge totalRows parts index + ⌊(totalRows / parts : Rat)⌋ + 1 := by
  have next : ((index + 1) * totalRows : Nat) / (parts : Rat) + 1 / 2 =
      ((index * totalRows : Nat) / (parts : Rat) + 1 / 2) + totalRows / parts := by
    push_cast
    ring
  have here := exactEdge_eq totalRows parts index
  have there := exactEdge_eq totalRows parts (index + 1)
  rw [next] at there
  have least := Int.le_floor_add ((index * totalRows : Nat) / (parts : Rat) + 1 / 2) (totalRows / parts)
  have most := Int.le_floor_add_floor ((index * totalRows : Nat) / (parts : Rat) + 1 / 2) (totalRows / parts)
  omega

theorem exactEdge_rising (totalRows parts index : Nat) :
    exactEdge totalRows parts index - 1 ≤ exactEdge totalRows parts (index + 1) - 1 := by
  have step : 0 ≤ ⌊(totalRows / parts : Rat)⌋ := Int.floor_nonneg.mpr (by positivity)
  have least := (exactEdge_step totalRows parts index).1
  omega

/-! ## Covers -/

/-- The parts are consecutive ranges of almost the same length, which together are
all rows. -/
structure CoversRows (totalRows parts : Nat) (partitions : List (List Int)) : Prop where
  count : partitions.length = parts
  whole : partitions.flatten = pyRange 0 totalRows
  contiguous : ∀ part ∈ partitions, ∃ start stop, part = pyRange start stop
  ordered : partitions.Pairwise fun earlier later => ∀ first ∈ earlier, ∀ second ∈ later, first < second
  balanced : ∀ first ∈ partitions, ∀ second ∈ partitions, first.length ≤ second.length + 1

/-- The three parts are consecutive ranges, which together are all samples, and the
last one is not empty. -/
structure CoversSamples (totalSamples : Int) (split : SplitIndices) : Prop where
  whole : split.train ++ split.calibration ++ split.test = pyRange 0 totalSamples
  contiguous : ∀ part ∈ [split.train, split.calibration, split.test], ∃ start stop, part = pyRange start stop
  ordered : [split.train, split.calibration, split.test].Pairwise fun earlier later =>
    ∀ first ∈ earlier, ∀ second ∈ later, first < second
  tested : split.test ≠ []

/-- The blocks of a rising list are in order. -/
theorem blocks_pairwise {blocks : List (List Int)} {start stop : Int} (whole : blocks.flatten = pyRange start stop) :
    blocks.Pairwise fun earlier later => ∀ first ∈ earlier, ∀ second ∈ later, first < second := by
  have rising := pyRange_pairwise start stop
  rw [← whole, List.pairwise_flatten] at rising
  exact rising.2

theorem exactPartitions_covers {totalRows parts : Nat} {minimum : Int} {partitions : List (List Int)}
    (partitioned : exactPartitions totalRows parts minimum = .ok partitions) :
    CoversRows totalRows parts partitions := by
  simp only [exactPartitions, bind_ok_iff, require_ok_iff, exists_const, pure_ok_iff] at partitioned
  rcases partitioned with ⟨positive, _, _, rfl⟩
  have covered := (@flatten_ranges (fun index => exactEdge totalRows parts index - 1) parts
    fun index _ => exactEdge_rising totalRows parts index).2
  simp only [exactEdge_first, exactEdge_last positive] at covered
  constructor
  · rw [List.length_map, List.length_range]
  · exact covered
  · intro part member
    rcases List.mem_map.mp member with ⟨index, _, rfl⟩
    exact ⟨_, _, rfl⟩
  · exact blocks_pairwise covered
  · intro first isFirst second isSecond
    rcases List.mem_map.mp isFirst with ⟨left, _, rfl⟩
    rcases List.mem_map.mp isSecond with ⟨right, _, rfl⟩
    have leftStep := (exactEdge_step totalRows parts left).2
    have rightStep := (exactEdge_step totalRows parts right).1
    rw [exactRange, exactRange, pyRange_length, pyRange_length]
    omega

theorem exactSplit_covers {totalSamples : Int} {trainRatio calibrationRatio : Rat} (samples : 0 < totalSamples)
    (training : 0 < trainRatio) (calibrating : 0 < calibrationRatio) (testing : trainRatio + calibrationRatio < 1) :
    ∃ split, exactSplit totalSamples trainRatio calibrationRatio = .ok split ∧ CoversSamples totalSamples split := by
  have total : (0 : Rat) < totalSamples := by exact_mod_cast samples
  have trainCount : 0 ≤ ⌊trainRatio * totalSamples⌋ := Int.floor_nonneg.mpr (mul_nonneg training.le total.le)
  have calibrationCount : 0 ≤ ⌊calibrationRatio * totalSamples⌋ :=
    Int.floor_nonneg.mpr (mul_nonneg calibrating.le total.le)
  have remaining : ⌊trainRatio * totalSamples⌋ + ⌊calibrationRatio * totalSamples⌋ < totalSamples := by
    have trained := Int.floor_le (trainRatio * totalSamples)
    have calibrated := Int.floor_le (calibrationRatio * totalSamples)
    have less : (trainRatio + calibrationRatio) * totalSamples < 1 * totalSamples :=
      mul_lt_mul_of_pos_right testing total
    have sum : ((⌊trainRatio * totalSamples⌋ + ⌊calibrationRatio * totalSamples⌋ : Int) : Rat) < totalSamples := by
      push_cast
      linarith
    exact_mod_cast sum
  have whole : pyRange 0 ⌊trainRatio * totalSamples⌋ ++
      pyRange ⌊trainRatio * totalSamples⌋ (⌊trainRatio * totalSamples⌋ + ⌊calibrationRatio * totalSamples⌋) ++
      pyRange (⌊trainRatio * totalSamples⌋ + ⌊calibrationRatio * totalSamples⌋) totalSamples =
        pyRange 0 totalSamples := by
    rw [pyRange_append trainCount (by omega), pyRange_append (by omega) remaining.le]
  have accepted : 0 < totalSamples ∧ 0 < trainRatio ∧ 0 < calibrationRatio ∧ trainRatio + calibrationRatio < 1 :=
    ⟨samples, training, calibrating, testing⟩
  refine ⟨_, by rw [exactSplit, require_of _ accepted]; rfl, ?_⟩
  constructor
  · exact whole
  · simp only [List.mem_cons, List.not_mem_nil, or_false]
    rintro part (rfl | rfl | rfl) <;> exact ⟨_, _, rfl⟩
  · apply blocks_pairwise
    rw [List.flatten_cons, List.flatten_cons, List.flatten_cons, List.flatten_nil, List.append_nil,
      ← List.append_assoc, whole]
  · intro empty
    have length := congrArg List.length empty
    rw [pyRange_length, List.length_nil] at length
    omega

/-- The rows of the samples are those after the lags of the first one. -/
theorem datasetOf_sourceRows {α : Type} [Arithmetic α] {nLag : Nat} {gain : α} {rows : List (SignalRow α)}
    (enough : nLag ≤ rows.length) : (datasetOf nLag gain rows).sourceRows = rows.drop nLag := by
  have picked := itemsAt_pyRange rows enough (Nat.le_refl rows.length)
  rw [List.take_length] at picked
  rw [← picked, itemsAt, pyRange, List.filterMap_map, datasetOf, List.filterMap_map,
    show ((rows.length : Int) - nLag).toNat = rows.length - nLag by omega]
  rfl

/-- Exact parts and splits leave no row out and use none twice. -/
theorem partitions_and_splits_cover {α : Type} [Arithmetic α] {rows : List (SignalRow α)} {parts : Nat}
    {minimum : Int} {partitions : List (List Int)}
    (partitioned : exactPartitions rows.length parts minimum = .ok partitions) :
    CoversRows rows.length parts partitions ∧
    (forall totalSamples trainRatio calibrationRatio, 0 < totalSamples -> 0 < trainRatio -> 0 < calibrationRatio ->
      trainRatio + calibrationRatio < 1 ->
        ∃ split, exactSplit totalSamples trainRatio calibrationRatio = .ok split ∧
          CoversSamples totalSamples split) ∧
    ∀ part ∈ partitions, forall nLag gain trainRatio calibrationRatio, 5 ≤ nLag -> nLag < part.length ->
      0 < trainRatio -> 0 < calibrationRatio -> trainRatio + calibrationRatio < 1 ->
        ∃ data split, Features.buildTransitionDataset (itemsAt rows part) nLag gain = .ok data ∧
          exactSplit data.values.length trainRatio calibrationRatio = .ok split ∧
          itemsAt data.sourceRows (split.train ++ split.calibration ++ split.test) =
            (itemsAt rows part).drop nLag := by
  have covers := exactPartitions_covers partitioned
  refine ⟨covers, ?_, ?_⟩
  · intro totalSamples trainRatio calibrationRatio samples training calibrating testing
    exact exactSplit_covers samples training calibrating testing
  intro part member nLag gain trainRatio calibrationRatio atLeast enough training calibrating testing
  have sameLength : (itemsAt rows part).length = part.length := by
    apply length_itemsAt
    intro index inPart
    have inRows : index ∈ pyRange 0 rows.length := by
      rw [← covers.whole]
      exact List.mem_flatten.mpr ⟨part, member, inPart⟩
    rw [mem_pyRange] at inRows
    omega
  rw [← sameLength] at enough
  have built := @buildTransitionDataset_ok α _ nLag gain (itemsAt rows part) atLeast enough
  have count : (datasetOf nLag gain (itemsAt rows part)).values.length = (itemsAt rows part).length - nLag := by
    simp only [datasetOf, List.length_map, List.length_range]
  have samples : (0 : Int) < (datasetOf nLag gain (itemsAt rows part)).values.length := by omega
  rcases exactSplit_covers samples training calibrating testing with ⟨split, isSplit, splitCovers⟩
  refine ⟨_, split, built, isSplit, ?_⟩
  have sources : (datasetOf nLag gain (itemsAt rows part)).sourceRows = (itemsAt rows part).drop nLag :=
    datasetOf_sourceRows enough.le
  have all := itemsAt_pyRange ((itemsAt rows part).drop nLag) (Nat.zero_le _) (Nat.le_refl _)
  rw [List.take_length, List.drop_zero] at all
  rw [splitCovers.whole, sources, count, ← List.length_drop]
  exact all

/-- Twenty rows in three parts. -/
theorem partitions_and_splits_cover_sample :
    ∃ partitions, exactPartitions 20 3 6 = .ok partitions ∧ partitions.map List.length = [7, 6, 7] ∧
      CoversRows 20 3 partitions ∧
      ∀ part ∈ partitions, ∃ data split,
        @Features.buildTransitionDataset Rat exactArithmetic (itemsAt (List.replicate 20 steadyRow) part) 5 1 =
          .ok data ∧ exactSplit data.values.length (1 / 2) (1 / 4) = .ok split ∧
        itemsAt data.sourceRows (split.train ++ split.calibration ++ split.test) =
          (itemsAt (List.replicate 20 steadyRow) part).drop 5 := by
  have partitioned : exactPartitions 20 3 6 = .ok [pyRange 0 7, pyRange 7 13, pyRange 13 20] := by decide +kernel
  have long : ∀ part ∈ [pyRange 0 7, pyRange 7 13, pyRange 13 20], 5 < part.length := by decide
  rcases @partitions_and_splits_cover Rat exactArithmetic (List.replicate 20 steadyRow) 3 6 _ partitioned with
    ⟨covers, _, used⟩
  refine ⟨_, partitioned, by decide, covers, ?_⟩
  intro part member
  exact used part member 5 1 (1 / 2) (1 / 4) (by decide) (long part member) (by decide +kernel) (by decide +kernel)
    (by decide +kernel)

end Worker
end FederatedIot
