import FederatedIot.Worker.SpikeRepair
import FederatedIot.Worker.ZeroPhase

namespace FederatedIot
namespace Worker

open Foundation Foundation.Outcome

/-!
# The smoothing of signals

The filters that follow the repair of spikes, in any arithmetic.  Both paths keep
the number of samples.  Over the rationals the filter of the second path is the
zero-phase filter whose closed form is known.
-/

namespace Smoothing

variable {α : Type} [SignalArithmetic α]

/-- `_forward_fir_filter`, from a history on -/
def forwardFrom (coefficient : α) : List α -> List α -> List α
  | _, [] => []
  | history, value :: rest =>
      let shifted := value :: history.dropLast
      (SignalArithmetic.total shifted * coefficient) :: forwardFrom coefficient shifted rest

/-- `_forward_fir_filter` -/
def forwardFirFilter (source : List α) (window : Nat) : List α :=
  forwardFrom (((1 : Nat) : α) / ((window : Nat) : α)) (List.replicate window ((0 : Nat) : α)) source

/-- `_fir_filter_with_state` -/
def firFilterWithState (coefficient : α) : List α -> List α -> List α
  | _, [] => []
  | delay, value :: rest =>
      (coefficient * value + delay.headD ((0 : Nat) : α)) ::
        firFilterWithState coefficient
          ((delay.tail.map fun kept => coefficient * value + kept) ++ [coefficient * value]) rest

/-- The odd reflection of a signal at both of its ends. -/
def extendedBy (edge : Nat) (source : List α) : List α :=
  ((List.range edge).map fun step =>
      ((2 : Nat) : α) * Features.entry source 0 - Features.entry source (edge - step)) ++ source ++
    (List.range edge).map fun step =>
      ((2 : Nat) : α) * Features.entry source (source.length - 1) - Features.entry source (source.length - 2 - step)

/-- `_zero_phase_fir` -/
def zeroPhaseFir (source : List α) (window : Nat) : Except SignalFailure (List α) := do
  let edge := edgeOf window
  require (edge < source.length)
    (.preparation (.failed "INSUFFICIENT_SAMPLES" "Signal is too short for the frozen zero-phase FIR path."))
  let coefficient : α := ((1 : Nat) : α) / (window : α)
  let extended := extendedBy edge source
  let state := (List.range (window - 1)).map fun index => coefficient * ((window - index - 1 : Nat) : α)
  let forward := firFilterWithState coefficient (state.map fun kept => kept * Features.entry extended 0) extended
  let backwardReversed := firFilterWithState coefficient
    (state.map fun kept => kept * Features.entry forward (forward.length - 1)) forward.reverse
  return (backwardReversed.reverse.take (backwardReversed.length - edge)).drop edge

/-- `_smooth_signal` -/
def smoothSignal (source : List α) (window : Int) (path : String) : Except SignalFailure (List α) :=
  if window ≤ 1 ∨ (source.length : Int) < window + 5 then .ok source
  else
    let odd := (max (oddWindow window) 3).toNat
    if path = "filter_fir_v1" then .ok (forwardFirFilter source odd)
    else if path = "zero_phase_fir_v1" then zeroPhaseFir source odd
    else .error (.preparation (inputInvalid ("Unsupported explicit smoothing path: " ++ path)))

/-! ## Lengths -/

theorem forwardFrom_length (coefficient : α) (history values : List α) :
    (forwardFrom coefficient history values).length = values.length := by
  induction values generalizing history with
  | nil => rfl
  | cons value rest inductionHypothesis => exact congrArg Nat.succ (inductionHypothesis _)

theorem firFilterWithState_length (coefficient : α) (delay values : List α) :
    (firFilterWithState coefficient delay values).length = values.length := by
  induction values generalizing delay with
  | nil => rfl
  | cons value rest inductionHypothesis => exact congrArg Nat.succ (inductionHypothesis _)

theorem extendedBy_length (edge : Nat) (source : List α) :
    (extendedBy edge source).length = source.length + 2 * edge := by
  simp only [extendedBy, List.length_append, List.length_map, List.length_range]
  omega

theorem zeroPhaseFir_length {source output : List α} {window : Nat} (filtered : zeroPhaseFir source window = .ok output) :
    output.length = source.length := by
  simp only [zeroPhaseFir, bind_ok_iff, pure_ok_iff, require_ok_iff, exists_const] at filtered
  rcases filtered with ⟨_, rfl⟩
  simp only [List.length_drop, List.length_take, List.length_reverse, firFilterWithState_length, extendedBy_length]
  omega

/-- Smoothing keeps the number of samples. -/
theorem smoothSignal_length {source output : List α} {window : Int} {path : String}
    (smoothed : smoothSignal source window path = .ok output) : output.length = source.length := by
  unfold smoothSignal at smoothed
  split at smoothed
  · cases smoothed
    rfl
  · dsimp only at smoothed
    split at smoothed
    · cases smoothed
      exact forwardFrom_length _ _ source
    · split at smoothed
      · exact zeroPhaseFir_length smoothed
      · cases smoothed

/-! ## Over the rationals -/

theorem firFilterWithState_rat (squareRoot : Rat -> Rat) (coefficient : Rat) (delay values : List Rat) :
    @firFilterWithState Rat (exactArithmetic squareRoot) coefficient delay values =
      Worker.firFilterWithState values coefficient delay := by
  induction values generalizing delay with
  | nil => rfl
  | cons value rest inductionHypothesis =>
      exact congrArg (List.cons (coefficient * value + delay.headD 0)) (inductionHypothesis _)

/-- Over the rationals this is the filter of the closed form. -/
theorem zeroPhaseFir_rat (squareRoot : Rat -> Rat) (source : List Rat) (window : Nat) :
    @zeroPhaseFir Rat (exactArithmetic squareRoot) source window =
      (Worker.zeroPhaseFir source window).mapError .preparation := by
  by_cases long : edgeOf window < source.length
  · simp only [zeroPhaseFir, Worker.zeroPhaseFir, firFilterWithState_rat, require_of _ long, ok_bind]
    rfl
  · simp only [zeroPhaseFir, Worker.zeroPhaseFir, require_refused _ long, error_bind]
    rfl

end Smoothing

end Worker
end FederatedIot
