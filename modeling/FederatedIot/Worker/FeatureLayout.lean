import FederatedIot.Worker.Features
import Mathlib.Algebra.Order.Field.Rat
import Mathlib.Data.Rat.Sqrt

namespace FederatedIot
namespace Worker
namespace Features

open Foundation Foundation.Outcome

/-!
# The layout and the causality of the features

The row of a position is read off one list of named quantities, and each quantity
looks only at signals before the position, or at the tension and the speed of the
position itself.  Sequences that agree there have the same features.
-/

variable {α : Type} [Arithmetic α]

/-! ## Names -/

theorem prefix_of_mem_lagNames {stem name : String} {nLag : Nat} (member : name ∈ lagNames stem nLag) :
    stem.toList <+: name.toList := by
  rcases List.mem_map.mp member with ⟨index, _, rfl⟩
  rw [String.toList_append]
  exact List.prefix_append _ _

theorem lagNames_nodup (stem : String) (nLag : Nat) : (lagNames stem nLag).Nodup := by
  apply List.Nodup.map _ List.nodup_range
  intro first second same
  have sameText := congrArg String.toList same
  rw [String.toList_append, String.toList_append] at sameText
  have sameNumber := List.append_cancel_left sameText
  change (Nat.repr (first + 1)).toList = (Nat.repr (second + 1)).toList at sameNumber
  rw [Nat.repr_eq_ofList_toDigits, Nat.repr_eq_ofList_toDigits, String.toList_ofList, String.toList_ofList]
    at sameNumber
  exact Nat.succ.inj (toDigits_injective sameNumber)

/-- Names of lags under stems that do not begin alike differ. -/
theorem lagNames_disjoint {first second : String} (apart : ¬first.toList <+: second.toList)
    (apart' : ¬second.toList <+: first.toList) (nLag : Nat) :
    List.Disjoint (lagNames first nLag) (lagNames second nLag) := by
  intro name inFirst inSecond
  rcases List.prefix_or_prefix_of_prefix (prefix_of_mem_lagNames inFirst) (prefix_of_mem_lagNames inSecond) with
    begins | begins
  · exact apart begins
  · exact apart' begins

theorem lagNames_fresh {stem : String} {names : List String} (fresh : ∀ name ∈ names, ¬stem.toList <+: name.toList)
    (nLag : Nat) : List.Disjoint names (lagNames stem nLag) :=
  fun name member isLag => fresh name member (prefix_of_mem_lagNames isLag)

/-- No two columns have the same name. -/
theorem orderedNames_nodup (nLag : Nat) : (orderedNames nLag).Nodup := by
  have fresh : ∀ name ∈ ["current_sd", "current_zl"] ++ transitionNames,
      ∀ stem ∈ ["sd_lag_", "zl_lag_", "Iavg_lag_", "Isum_lag_"], ¬stem.toList <+: name.toList := by
    decide +kernel
  have apart : ["sd_lag_", "zl_lag_", "Iavg_lag_", "Isum_lag_"].Pairwise fun first second =>
      ¬first.toList <+: second.toList ∧ ¬second.toList <+: first.toList := by
    decide
  have fixed : (["current_sd", "current_zl"] ++ transitionNames).Nodup := by decide
  have lags : (["sd_lag_", "zl_lag_", "Iavg_lag_", "Isum_lag_"].flatMap fun stem => lagNames stem nLag).Nodup :=
    List.nodup_flatMap.mpr ⟨fun stem _ => lagNames_nodup stem nLag,
      apart.imp fun begins => lagNames_disjoint begins.1 begins.2 nLag⟩
  have whole := fixed.append lags fun name isFixed isLag => by
    rcases List.mem_flatMap.mp isLag with ⟨stem, isStem, inLags⟩
    exact fresh name isFixed stem isStem (prefix_of_mem_lagNames inLags)
  refine (List.Perm.nodup_iff ?_).mp whole
  simp only [orderedNames, List.flatMap_cons, List.flatMap_nil, List.append_nil, List.append_assoc]
  have moved := @List.perm_append_comm _ transitionNames (lagNames "sd_lag_" nLag ++ (lagNames "zl_lag_" nLag ++
    (lagNames "Iavg_lag_" nLag ++ lagNames "Isum_lag_" nLag)))
  simp only [List.append_assoc] at moved
  exact List.Perm.append_left _ moved

/-! ## Named quantities -/

/-- The lags of a signal with their names. -/
def namedLags (stem : String) (nLag current : Nat) (signal : List α) : List (String × α) :=
  (List.range nLag).map fun index => (stem ++ toString (index + 1), entry signal (current - (index + 1)))

/-- What each column of the row of a position stands for. -/
def namedFeatures (nLag : Nat) (gain : α) (signals : Signals α) (current : Nat) : List (String × α) :=
  let sd := signals.sd
  let zl := signals.zl
  let iavg := signals.iavg
  let isum := signals.isum
  [("current_sd", entry sd current), ("current_zl", entry zl current)] ++ namedLags "sd_lag_" nLag current sd ++
    namedLags "zl_lag_" nLag current zl ++ namedLags "Iavg_lag_" nLag current iavg ++
    namedLags "Isum_lag_" nLag current isum ++
    [("Iimb_last", entry signals.iimb (current - 1)), ("dIavg_last", difference current iavg),
      ("dzl_last", difference current zl), ("dsd_last", difference current sd),
      ("dIsum_last", difference current isum), ("Iavg_slope", windowSlope (window nLag current iavg)),
      ("Isum_slope", windowSlope (window nLag current isum)), ("zl_slope", windowSlope (window nLag current zl)),
      ("sd_slope", windowSlope (window nLag current sd)), ("Iavg_acc", acceleration current iavg),
      ("Isum_acc", acceleration current isum), ("zl_acc", acceleration current zl),
      ("sd_acc", acceleration current sd), ("Iavg_maxdiff", maxAdjacentDifference (window nLag current iavg)),
      ("Isum_maxdiff", maxAdjacentDifference (window nLag current isum)),
      ("zl_maxdiff", maxAdjacentDifference (window nLag current zl)),
      ("sd_maxdiff", maxAdjacentDifference (window nLag current sd)),
      ("Iavg_std", sampleStd (window nLag current iavg)), ("Isum_std", sampleStd (window nLag current isum)),
      ("zl_std", sampleStd (window nLag current zl)), ("sd_std", sampleStd (window nLag current sd)),
      ("Iavg_range", spread (window nLag current iavg)), ("Isum_range", spread (window nLag current isum)),
      ("zl_range", spread (window nLag current zl)), ("sd_range", spread (window nLag current sd)),
      ("Iavg_trend", trend gain current iavg), ("Isum_trend", trend gain current isum),
      ("current_zl_jump", entry zl current - entry zl (current - 1)),
      ("current_sd_jump", entry sd current - entry sd (current - 1)),
      ("transition_score", score nLag current iavg)]

variable (nLag : Nat) (gain : α) (signals : Signals α) (current : Nat)

theorem namedLags_names (stem : String) (signal : List α) :
    (namedLags stem nLag current signal).map Prod.fst = lagNames stem nLag := by
  rw [namedLags, List.map_map]
  rfl

theorem namedLags_values (stem : String) (signal : List α) :
    (namedLags stem nLag current signal).map Prod.snd = past nLag current signal := by
  rw [namedLags, List.map_map]
  rfl

theorem namedFeatures_names : (namedFeatures nLag gain signals current).map Prod.fst = orderedNames nLag := by
  simp only [namedFeatures, List.map_append, namedLags_names, List.map_cons, List.map_nil]
  rfl

theorem namedFeatures_values :
    (namedFeatures nLag gain signals current).map Prod.snd = featureRow nLag gain signals current := by
  simp only [namedFeatures, List.map_append, namedLags_values, List.map_cons, List.map_nil, featureRow,
    List.append_assoc, List.cons_append, List.nil_append]

theorem namedFeatures_length : (namedFeatures nLag gain signals current).length = 4 * nLag + 32 := by
  simp only [namedFeatures, namedLags, List.length_append, List.length_map, List.length_range, List.length_cons,
    List.length_nil]
  omega

theorem featureRow_length : (featureRow nLag gain signals current).length = 4 * nLag + 32 := by
  rw [← namedFeatures_values, List.length_map, namedFeatures_length]

theorem orderedNames_length : (orderedNames nLag).length = 4 * nLag + 32 := by
  simp only [orderedNames, lagNames, transitionNames, List.length_append, List.length_map, List.length_range,
    List.length_cons, List.length_nil]
  omega

/-- The column of a name holds the quantity of that name. -/
theorem featureRow_column {name : String} {value : α} (named : (name, value) ∈ namedFeatures nLag gain signals current) :
    (featureRow nLag gain signals current)[(orderedNames nLag).idxOf name]? = some value := by
  rcases List.getElem_of_mem named with ⟨index, inside, here⟩
  have inNames : index < (orderedNames nLag).length := by
    rw [← namedFeatures_names nLag gain signals current, List.length_map]
    exact inside
  have isName : (orderedNames nLag)[index] = name := by
    simp only [← namedFeatures_names nLag gain signals current, List.getElem_map, here]
  have position : (orderedNames nLag).idxOf name = index := by
    rw [← isName]
    exact (orderedNames_nodup nLag).idxOf_getElem index inNames
  rw [position, ← namedFeatures_values, List.getElem?_map, List.getElem?_eq_getElem inside, here]
  rfl

/-! ## Causality -/

/-- The signals show the same values before a position. -/
def AgreeBelow {β : Type} (bound : Nat) (first second : List β) : Prop :=
  ∀ index < bound, first[index]? = second[index]?

instance agreeBelowDecidable {β : Type} [DecidableEq β] (bound : Nat) (first second : List β) :
    Decidable (AgreeBelow bound first second) :=
  inferInstanceAs (Decidable (∀ index < bound, first[index]? = second[index]?))

section Agreement

variable {nLag current bound index : Nat} {gain : α} {first second : List α}

theorem AgreeBelow.entry (agree : AgreeBelow bound first second) (before : index < bound) :
    entry first index = entry second index := by
  rw [Features.entry, Features.entry, List.getD_eq_getElem?_getD, List.getD_eq_getElem?_getD, agree index before]

omit [Arithmetic α] in
theorem AgreeBelow.of_le {smaller : Nat} (agree : AgreeBelow bound first second) (within : smaller ≤ bound) :
    AgreeBelow smaller first second :=
  fun index before => agree index (Nat.lt_of_lt_of_le before within)

theorem AgreeBelow.past (agree : AgreeBelow current first second) (positive : 0 < current) :
    past nLag current first = past nLag current second :=
  List.map_congr_left fun index _ => agree.entry (by omega)

omit [Arithmetic α] in
theorem AgreeBelow.window (agree : AgreeBelow current first second) (enough : nLag ≤ current) :
    window nLag current first = window nLag current second := by
  apply List.ext_getElem?
  intro index
  rw [Features.window, Features.window, List.getElem?_take, List.getElem?_take]
  split
  · rw [List.getElem?_drop, List.getElem?_drop]
    exact agree _ (by omega)
  · rfl

theorem AgreeBelow.difference (agree : AgreeBelow current first second) (positive : 0 < current) :
    difference current first = difference current second := by
  rw [Features.difference, Features.difference, agree.entry (by omega), agree.entry (by omega)]

theorem AgreeBelow.acceleration (agree : AgreeBelow current first second) (positive : 0 < current) :
    acceleration current first = acceleration current second := by
  rw [Features.acceleration, Features.acceleration, agree.entry (by omega), agree.entry (by omega),
    agree.entry (by omega)]

theorem AgreeBelow.trend (agree : AgreeBelow current first second) (positive : 0 < current) :
    trend gain current first = trend gain current second := by
  rw [Features.trend, Features.trend, agree.entry (by omega), agree.difference positive]

theorem AgreeBelow.score (agree : AgreeBelow current first second) (positive : 0 < current) (enough : nLag ≤ current) :
    score nLag current first = score nLag current second := by
  rw [Features.score, Features.score, agree.difference positive, agree.window enough]

end Agreement

/-- The rows agree on tension and speed up to a position, and on the currents
before it. -/
structure AgreeAt (current : Nat) (first second : List (SignalRow α)) : Prop where
  length : first.length = second.length
  sd : AgreeBelow (current + 1) (first.map SignalRow.sd) (second.map SignalRow.sd)
  zl : AgreeBelow (current + 1) (first.map SignalRow.zl) (second.map SignalRow.zl)
  iavg : AgreeBelow current (first.map SignalRow.iavg) (second.map SignalRow.iavg)
  isum : AgreeBelow current (first.map SignalRow.isum) (second.map SignalRow.isum)
  iimb : AgreeBelow current (first.map SignalRow.iimb) (second.map SignalRow.iimb)

variable {nLag current gain} {rows other : List (SignalRow α)}

/-- The row of a position looks no further than the position. -/
theorem AgreeAt.featureRow (agree : AgreeAt current rows other) (positive : 0 < current) (enough : nLag ≤ current) :
    featureRow nLag gain (signalsOf rows) current = featureRow nLag gain (signalsOf other) current := by
  have sdPast := agree.sd.of_le (Nat.le_succ current)
  have zlPast := agree.zl.of_le (Nat.le_succ current)
  simp only [Features.featureRow, signalsOf, agree.sd.entry (Nat.lt_succ_self current),
    agree.zl.entry (Nat.lt_succ_self current), sdPast.past positive, zlPast.past positive, agree.iavg.past positive,
    agree.isum.past positive, agree.iimb.entry (Nat.sub_lt positive Nat.one_pos), agree.iavg.difference positive,
    agree.isum.difference positive, sdPast.difference positive, zlPast.difference positive,
    agree.iavg.window enough, agree.isum.window enough, sdPast.window enough, zlPast.window enough,
    agree.iavg.acceleration positive, agree.isum.acceleration positive, sdPast.acceleration positive,
    zlPast.acceleration positive, agree.iavg.trend positive, agree.isum.trend positive,
    agree.iavg.score positive enough, sdPast.entry (Nat.sub_lt positive Nat.one_pos),
    zlPast.entry (Nat.sub_lt positive Nat.one_pos)]

/-! ## The dataset -/

theorem featureNames_ok (atLeast : 5 ≤ nLag) : featureNames nLag = .ok (orderedNames nLag) := by
  rw [featureNames, require_of _ atLeast]
  rfl

/-- What a partition is turned into. -/
def datasetOf (nLag : Nat) (gain : α) (rows : List (SignalRow α)) : FeatureDataset α :=
  let positions := (List.range (rows.length - nLag)).map fun index => nLag + index
  { values := positions.map (Features.featureRow nLag gain (signalsOf rows))
    targets := positions.map (entry (signalsOf rows).iavg)
    trends := positions.map fun current => trend gain current (signalsOf rows).iavg
    transitionScores := positions.map fun current => score nLag current (signalsOf rows).iavg
    sourceRows := positions.filterMap fun current => rows[current]? }

/-- A partition that is long enough is turned into a dataset. -/
theorem buildTransitionDataset_ok (atLeast : 5 ≤ nLag) (enough : nLag < rows.length) :
    buildTransitionDataset rows nLag gain = .ok (datasetOf nLag gain rows) := by
  have sameLength : ∀ current ∈ (List.range (rows.length - nLag)).map fun index => nLag + index,
      (Features.featureRow nLag gain (signalsOf rows) current).length = (orderedNames nLag).length := by
    intro current _
    rw [featureRow_length, orderedNames_length]
  rw [buildTransitionDataset, featureNames_ok atLeast, ok_bind, require_of _ enough]
  simp only [require_of _ sameLength]
  rfl

theorem datasetOf_sample {index : Nat} (inRange : index < rows.length - nLag) :
    (datasetOf nLag gain rows).values[index]? =
        some (Features.featureRow nLag gain (signalsOf rows) (nLag + index)) ∧
      (datasetOf nLag gain rows).trends[index]? = some (trend gain (nLag + index) (signalsOf rows).iavg) ∧
      (datasetOf nLag gain rows).transitionScores[index]? =
        some (score nLag (nLag + index) (signalsOf rows).iavg) := by
  simp only [datasetOf, List.getElem?_map, List.getElem?_range inRange, Option.map_some, and_self]

/-- The two columns that the anchors read by name. -/
theorem trend_and_score_named (nLag : Nat) (gain : α) (signals : Signals α) (current : Nat) :
    ("Iavg_trend", trend gain current signals.iavg) ∈ namedFeatures nLag gain signals current ∧
      ("transition_score", score nLag current signals.iavg) ∈ namedFeatures nLag gain signals current := by
  simp [namedFeatures]

/-- Every row of the dataset follows the names, its trend and its score are the ones
that are returned beside it, and none of them depends on a current from its
position on. -/
theorem features_causal (atLeast : 5 ≤ nLag) (enough : nLag < rows.length) :
    ∃ names columns data, featureNames nLag = .ok names ∧ trendAndScoreColumns nLag = .ok columns ∧
      buildTransitionDataset rows nLag gain = .ok data ∧ names.Nodup ∧ names.length = 4 * nLag + 32 ∧
      ∀ index < rows.length - nLag, ∃ row trend score,
        data.values[index]? = some row ∧ data.trends[index]? = some trend ∧
        data.transitionScores[index]? = some score ∧ row.length = 4 * nLag + 32 ∧
        names.zip row = namedFeatures nLag gain (signalsOf rows) (nLag + index) ∧
        row[columns.1]? = some trend ∧ row[columns.2]? = some score ∧
        ∀ other otherData, AgreeAt (nLag + index) rows other ->
          buildTransitionDataset other nLag gain = .ok otherData ->
            otherData.values[index]? = some row ∧ otherData.trends[index]? = some trend ∧
            otherData.transitionScores[index]? = some score := by
  have named := featureNames_ok atLeast
  refine ⟨_, ((orderedNames nLag).idxOf "Iavg_trend", (orderedNames nLag).idxOf "transition_score"), _, named, ?_,
    buildTransitionDataset_ok atLeast enough, orderedNames_nodup nLag, orderedNames_length nLag, ?_⟩
  · rw [trendAndScoreColumns, named]
    rfl
  intro index inRange
  rcases @datasetOf_sample α _ nLag gain rows index inRange with ⟨isRow, isTrend, isScore⟩
  rcases trend_and_score_named nLag gain (signalsOf rows) (nLag + index) with ⟨trendNamed, scoreNamed⟩
  refine ⟨_, _, _, isRow, isTrend, isScore, featureRow_length nLag gain _ _, ?_,
    featureRow_column _ _ _ _ trendNamed, featureRow_column _ _ _ _ scoreNamed, ?_⟩
  · exact (List.zip_of_prod (namedFeatures_names nLag gain _ _) (namedFeatures_values nLag gain _ _)).symm
  · intro other otherData agree otherBuilt
    have otherEnough : nLag < other.length := agree.length ▸ enough
    have otherInRange : index < other.length - nLag := agree.length ▸ inRange
    rw [buildTransitionDataset_ok atLeast otherEnough] at otherBuilt
    rw [← Except.ok.inj otherBuilt]
    rcases @datasetOf_sample α _ nLag gain other index otherInRange with ⟨otherRow, otherTrend, otherScore⟩
    have positive : 0 < nLag + index := by omega
    have within : nLag ≤ nLag + index := Nat.le_add_right nLag index
    rw [otherRow, otherTrend, otherScore, agree.featureRow positive within]
    exact ⟨rfl, congrArg some (agree.iavg.trend positive).symm, congrArg some (agree.iavg.score positive within).symm⟩

/-! ## Two sequences that part at a position -/

/-- Exact arithmetic, with the root of a variance where it is a square. -/
@[reducible]
def exactArithmetic : Arithmetic Rat where
  abs value := |value|
  maximum values := values.foldl max (values.headD 0)
  minimum values := values.foldl min (values.headD 0)
  stdev values :=
    let mean := values.sum / values.length
    Rat.sqrt ((values.map fun value => (value - mean) ^ 2).sum / (values.length - 1))

/-- A load that stays as it is. -/
def steadyRow : SignalRow Rat :=
  { sd := 2, zl := 3, iavg := 10, isum := 30, iimb := 0 }

def steadyRows : List (SignalRow Rat) :=
  List.replicate 7 steadyRow

/-- The currents jump in the sixth row. -/
def jumpingRows : List (SignalRow Rat) :=
  List.replicate 5 steadyRow ++ [{ steadyRow with iavg := 25, isum := 75 }, steadyRow]

theorem features_causal_sample :
    ∃ names columns data, featureNames 5 = .ok names ∧ trendAndScoreColumns 5 = .ok columns ∧
      @buildTransitionDataset Rat exactArithmetic steadyRows 5 1 = .ok data ∧ names.length = 52 ∧
      ∃ otherData, @buildTransitionDataset Rat exactArithmetic jumpingRows 5 1 = .ok otherData ∧
        otherData.values[0]? = data.values[0]? ∧ otherData.values[1]? ≠ data.values[1]? := by
  have enough : 5 < jumpingRows.length := by decide
  have otherBuilt := @buildTransitionDataset_ok Rat exactArithmetic 5 1 jumpingRows (by decide) enough
  rcases @features_causal Rat exactArithmetic 5 1 steadyRows (by decide) (by decide) with
    ⟨names, columns, data, named, isColumns, built, _, length, samples⟩
  rcases samples 0 (by decide) with ⟨row, trend, score, isRow, _, _, _, _, _, _, causal⟩
  have agree : AgreeAt (5 + 0) steadyRows jumpingRows := by
    constructor <;> decide
  refine ⟨names, columns, data, named, isColumns, built, length, _, otherBuilt, ?_, ?_⟩
  · rw [(causal jumpingRows _ agree otherBuilt).1, isRow]
  · have isData := @buildTransitionDataset_ok Rat exactArithmetic 5 1 steadyRows (by decide) (by decide)
    rw [built] at isData
    rw [Except.ok.inj isData]
    decide

end Features
end Worker
end FederatedIot
