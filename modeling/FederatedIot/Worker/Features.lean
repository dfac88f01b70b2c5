import FederatedIot.Foundation.JsonInjective
import FederatedIot.Foundation.Outcome

namespace FederatedIot
namespace Worker
namespace Features

open Foundation Foundation.Outcome

/-!
# Transition features

A sample of a partition is computed from the rows before a position and from what
the position itself shows of tension and speed.  The numbers are those of any
arithmetic: no law of addition or of division is used, so that the results hold of
rounded numbers as well.

The names of the columns stand in a list of their own.  `namedFeatures` pairs each
name with the quantity it stands for, and the two lists of the source are compared
with it.
-/

/-- The operations that the features use. -/
class Arithmetic (α : Type) extends Add α, Sub α, Mul α, Div α, NatCast α where
  abs : α -> α
  /-- `max` and `min` of a sequence -/
  maximum : List α -> α
  minimum : List α -> α
  /-- `statistics.stdev` -/
  stdev : List α -> α

inductive FeatureFailure where
  | valueError (message : String)
  | assertionError (message : String)
  deriving DecidableEq

/-- What the features read of a `RunningRow`. -/
structure SignalRow (α : Type) where
  sd : α
  zl : α
  iavg : α
  isum : α
  iimb : α
  deriving DecidableEq

/-- `FeatureDataset` -/
structure FeatureDataset (α : Type) where
  values : List (List α)
  targets : List α
  trends : List α
  transitionScores : List α
  sourceRows : List (SignalRow α)

/-! ## Names -/

/-- The names of the lags of a signal. -/
def lagNames (stem : String) (nLag : Nat) : List String :=
  (List.range nLag).map fun index => stem ++ toString (index + 1)

/-- The names after those of the lags. -/
def transitionNames : List String :=
  ["Iimb_last", "dIavg_last", "dzl_last", "dsd_last", "dIsum_last", "Iavg_slope", "Isum_slope", "zl_slope",
    "sd_slope", "Iavg_acc", "Isum_acc", "zl_acc", "sd_acc", "Iavg_maxdiff", "Isum_maxdiff", "zl_maxdiff",
    "sd_maxdiff", "Iavg_std", "Isum_std", "zl_std", "sd_std", "Iavg_range", "Isum_range", "zl_range", "sd_range",
    "Iavg_trend", "Isum_trend", "current_zl_jump", "current_sd_jump", "transition_score"]

/-- The names that `feature_names` returns. -/
def orderedNames (nLag : Nat) : List String :=
  ["current_sd", "current_zl"] ++ lagNames "sd_lag_" nLag ++ lagNames "zl_lag_" nLag ++ lagNames "Iavg_lag_" nLag ++
    lagNames "Isum_lag_" nLag ++ transitionNames

/-- `feature_names` -/
def featureNames (nLag : Nat) : Except FeatureFailure (List String) := do
  require (5 ≤ nLag) (.valueError "n_lag must be at least 5.")
  return orderedNames nLag

/-- `_trend_and_score_columns` -/
def trendAndScoreColumns (nLag : Nat) : Except FeatureFailure (Nat × Nat) := do
  let names ← featureNames nLag
  return (names.idxOf "Iavg_trend", names.idxOf "transition_score")

/-! ## Rows -/

section

variable {α : Type} [Arithmetic α]

/-- `signal[index]`, of an index in range -/
def entry (signal : List α) (index : Nat) : α :=
  signal.getD index (0 : Nat)

/-- `[signal[current - offset] for offset in range(1, n_lag + 1)]` -/
def past (nLag current : Nat) (signal : List α) : List α :=
  (List.range nLag).map fun index => entry signal (current - (index + 1))

/-- `signal[current - n_lag : current]` -/
def window (nLag current : Nat) (signal : List α) : List α :=
  (signal.drop (current - nLag)).take nLag

/-- `_window_slope` -/
def windowSlope (values : List α) : α :=
  (entry values (values.length - 1) - entry values 0) / ((values.length - 1 : Nat) : α)

/-- `_max_adjacent_difference` -/
def maxAdjacentDifference (values : List α) : α :=
  Arithmetic.maximum ((List.range (values.length - 1)).map fun index =>
    Arithmetic.abs (entry values (index + 1) - entry values index))

/-- `_sample_std` -/
def sampleStd (values : List α) : α :=
  if 2 ≤ values.length then Arithmetic.stdev values else ((0 : Nat) : α)

/-- `signal[current - 1] - signal[current - 2]` -/
def difference (current : Nat) (signal : List α) : α :=
  entry signal (current - 1) - entry signal (current - 2)

/-- `signal[current - 1] - 2.0 * signal[current - 2] + signal[current - 3]` -/
def acceleration (current : Nat) (signal : List α) : α :=
  entry signal (current - 1) - ((2 : Nat) : α) * entry signal (current - 2) + entry signal (current - 3)

/-- `max(window) - min(window)` -/
def spread (values : List α) : α :=
  Arithmetic.maximum values - Arithmetic.minimum values

/-- `signal[current - 1] + trend_gain * d_signal` -/
def trend (gain : α) (current : Nat) (signal : List α) : α :=
  entry signal (current - 1) + gain * difference current signal

def score (nLag current : Nat) (iavg : List α) : α :=
  Arithmetic.abs (difference current iavg) + Arithmetic.abs (windowSlope (window nLag current iavg)) +
      maxAdjacentDifference (window nLag current iavg) +
    ((1 : Nat) : α) / ((2 : Nat) : α) * sampleStd (window nLag current iavg)

/-- The signals of the rows. -/
structure Signals (α : Type) where
  sd : List α
  zl : List α
  iavg : List α
  isum : List α
  iimb : List α

def signalsOf (rows : List (SignalRow α)) : Signals α where
  sd := rows.map SignalRow.sd
  zl := rows.map SignalRow.zl
  iavg := rows.map SignalRow.iavg
  isum := rows.map SignalRow.isum
  iimb := rows.map SignalRow.iimb

/-- One turn of the loop in `build_transition_dataset`. -/
def featureRow (nLag : Nat) (gain : α) (signals : Signals α) (current : Nat) : List α :=
  let sd := signals.sd
  let zl := signals.zl
  let iavg := signals.iavg
  let isum := signals.isum
  let base := [entry sd current, entry zl current] ++ past nLag current sd ++ past nLag current zl ++
    past nLag current iavg ++ past nLag current isum ++
    [entry signals.iimb (current - 1), difference current iavg, difference current zl, difference current sd]
  let transition := [
    difference current isum,
    windowSlope (window nLag current iavg),
    windowSlope (window nLag current isum),
    windowSlope (window nLag current zl),
    windowSlope (window nLag current sd),
    acceleration current iavg,
    acceleration current isum,
    acceleration current zl,
    acceleration current sd,
    maxAdjacentDifference (window nLag current iavg),
    maxAdjacentDifference (window nLag current isum),
    maxAdjacentDifference (window nLag current zl),
    maxAdjacentDifference (window nLag current sd),
    sampleStd (window nLag current iavg),
    sampleStd (window nLag current isum),
    sampleStd (window nLag current zl),
    sampleStd (window nLag current sd),
    spread (window nLag current iavg),
    spread (window nLag current isum),
    spread (window nLag current zl),
    spread (window nLag current sd),
    trend gain current iavg,
    trend gain current isum,
    entry zl current - entry zl (current - 1),
    entry sd current - entry sd (current - 1),
    score nLag current iavg]
  base ++ transition

/-- `build_transition_dataset` -/
def buildTransitionDataset (rows : List (SignalRow α)) (nLag : Nat) (gain : α) :
    Except FeatureFailure (FeatureDataset α) := do
  let names ← featureNames nLag
  require (nLag < rows.length) (.valueError "A partition must contain more rows than n_lag.")
  let signals := signalsOf rows
  let positions := (List.range (rows.length - nLag)).map fun index => nLag + index
  require (∀ current ∈ positions, (featureRow nLag gain signals current).length = names.length)
    (.assertionError "Transition feature dimension diverged from the frozen schema.")
  return { values := positions.map (featureRow nLag gain signals)
           targets := positions.map (entry signals.iavg)
           trends := positions.map fun current => trend gain current signals.iavg
           transitionScores := positions.map fun current => score nLag current signals.iavg
           sourceRows := positions.filterMap fun current => rows[current]? }

end

end Features
end Worker
end FederatedIot
