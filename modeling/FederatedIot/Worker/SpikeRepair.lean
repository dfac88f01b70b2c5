import FederatedIot.Foundation.Lines
import FederatedIot.Worker.Despiking
import Mathlib.Data.List.Sort

namespace FederatedIot
namespace Worker

open Foundation Foundation.Outcome Foundation.Positions

/-!
# The repair in exact arithmetic

Over an ordered field with some square root the repair returns for every signal.
The flags are the residuals above the threshold and their neighbours, samples
without a flag are kept, and the others lie on the lines of their neighbours.
-/

variable {α : Type} [Field α] [LinearOrder α]

/-- The operations of an ordered field, with a square root for the standard
deviation. -/
@[reducible]
def exactArithmetic (squareRoot : α -> α) : SignalArithmetic α where
  abs value := max value (-value)
  maximum values := values.tail.foldl max (values.headD 0)
  minimum values := values.tail.foldl min (values.headD 0)
  stdev values :=
    let mean := values.sum / values.length
    squareRoot ((values.map fun value => (value - mean) ^ 2).sum / (values.length - 1))
  literal value := value
  less left right := decide (left < right)
  isZero value := decide (value = 0)
  total values := values.sum
  sorted values := values.insertionSort (· ≤ ·)

/-- How the flags come about. -/
inductive FlaggedBy (squareRoot : α -> α) (values : List α) (window : Nat) (factor : α) (path : String)
    (spikes : List Bool) : Prop
  | short (few : values.length < window + 5) (quiet : ∀ flag ∈ spikes, flag = false)
  | flat (residual : List α) (mad : α) (long : window + 5 ≤ values.length)
      (computed : @residuals α (exactArithmetic squareRoot) values (oddWindow window) path = .ok residual)
      (spread : @deviation α (exactArithmetic squareRoot) residual = .ok mad) (small : mad < 1 / 2 ^ 52)
      (quiet : ∀ flag ∈ spikes, flag = false)
  | threshold (residual : List α) (mad : α) (long : window + 5 ≤ values.length)
      (computed : @residuals α (exactArithmetic squareRoot) values (oddWindow window) path = .ok residual)
      (spread : @deviation α (exactArithmetic squareRoot) residual = .ok mad) (large : 1 / 2 ^ 52 ≤ mad)
      (flags : forall index, index < values.length -> (spikes[index]? = some true ↔
        ∃ near value, near ≤ index + 1 ∧ index ≤ near + 1 ∧ residual[near]? = some value ∧
          factor * (14826 / 10000) * mad < |value|))

/-- The line on which a flagged sample is put. -/
inductive Interpolated (values : List α) (spikes : List Bool) (index : Nat) (value : α) : Prop
  | between (left right : Nat) (low high : α) (previous : IsPrevious spikes index left)
      (next : IsNext spikes index right) (atLeft : values[left]? = some low) (atRight : values[right]? = some high)
      (line : value = Lines.through (left : α) low right high index)
      (lower : min low high ≤ value) (upper : value ≤ max low high)
  | leftEdge (first second : Nat) (low high : α)
      (edge : forall position, position < index -> spikes[position]? = some true)
      (nearest : IsNext spikes index first) (further : IsNext spikes first second)
      (atFirst : values[first]? = some low) (atSecond : values[second]? = some high)
      (line : value = Lines.through (first : α) low second high index)
  | rightEdge (first second : Nat) (low high : α)
      (edge : forall position, index < position -> position < spikes.length -> spikes[position]? = some true)
      (nearest : IsPrevious spikes index second) (further : IsPrevious spikes second first)
      (atFirst : values[first]? = some low) (atSecond : values[second]? = some high)
      (line : value = Lines.through (first : α) low second high index)

variable {squareRoot : α -> α}

theorem exact_sortsAll : @SortsAll α (exactArithmetic squareRoot) :=
  fun values => List.length_insertionSort (· ≤ ·) values

variable [IsStrictOrderedRing α]

omit [IsStrictOrderedRing α] in
theorem alongLine_exact {values : List α} {origin first second index : Nat} {value : α}
    (returned : @alongLine α (exactArithmetic squareRoot) values origin first second index = .ok value) :
    ∃ atOrigin atFirst atSecond, values[origin]? = some atOrigin ∧ values[first]? = some atFirst ∧
      values[second]? = some atSecond ∧
        value = atOrigin + (atSecond - atFirst) * ((index : α) - origin) / ((second : α) - first) := by
  simp only [alongLine, bind_ok_iff, readAt_ok_iff] at returned
  rcases returned with ⟨atOrigin, originPresent, atSecond, secondPresent, atFirst, firstPresent, returned⟩
  split at returned
  · cases returned
  · refine ⟨atOrigin, atFirst, atSecond, originPresent, firstPresent, secondPresent, ?_⟩
    rw [← pure_ok_iff.mp returned]
    change atOrigin + (atSecond - atFirst) * (((index : Int) - (origin : Int) : Int) : α) /
      (((second : Int) - (first : Int) : Int) : α) = _
    push_cast
    rfl

/-- A flagged sample lies on its line. -/
theorem Interpolated.of_repair {values : List α} {spikes : List Bool} {index : Nat} {value : α}
    (flagged : spikes[index]? = some true)
    (repair : @Repair α (exactArithmetic squareRoot) values spikes index value) :
    Interpolated values spikes index value := by
  cases repair with
  | kept unflagged _ =>
      rw [unflagged] at flagged
      cases flagged
  | between left right _ previous next line =>
      rcases alongLine_exact line with ⟨atOrigin, low, high, originPresent, atLeft, atRight, rfl⟩
      cases (originPresent.symm.trans atLeft : some atOrigin = some low)
      have bounds := Lines.through_between (Nat.cast_lt.mpr previous.before : (left : α) < index)
        (Nat.cast_lt.mpr next.after) atOrigin high
      exact .between left right atOrigin high previous next atLeft atRight rfl bounds.1 bounds.2
  | leftEdge first second _ edge nearest further line =>
      rcases alongLine_exact line with ⟨atOrigin, low, high, originPresent, atFirst, atSecond, rfl⟩
      cases (originPresent.symm.trans atFirst : some atOrigin = some low)
      exact .leftEdge first second atOrigin high edge nearest further atFirst atSecond rfl
  | rightEdge first second _ edge nearest further line =>
      rcases alongLine_exact line with ⟨atOrigin, low, high, originPresent, atFirst, atSecond, rfl⟩
      cases (originPresent.symm.trans atSecond : some atOrigin = some high)
      have distinct : (second : α) ≠ first := Nat.cast_injective.ne further.before.ne'
      exact .rightEdge first second low atOrigin edge nearest further atFirst atSecond
        (Lines.through_second distinct low atOrigin index)

/-- When every kept sample is on an affine function, so is every sample on a
line of two of them. -/
theorem Interpolated.affine {values : List α} {spikes : List Bool} {level slope : α}
    (affine : forall (index : Nat) (value : α), spikes[index]? = some false -> values[index]? = some value ->
      value = level + slope * index) {index : Nat} {value : α} (interpolated : Interpolated values spikes index value) :
    value = level + slope * index := by
  have onLine {first second : Nat} {low high : α} (distinct : second ≠ first) (atFirst : values[first]? = some low)
      (atSecond : values[second]? = some high) (firstKept : spikes[first]? = some false)
      (secondKept : spikes[second]? = some false) :
      Lines.through (first : α) low second high index = level + slope * index := by
    rw [affine first low firstKept atFirst, affine second high secondKept atSecond]
    exact Lines.through_affine (Nat.cast_injective.ne distinct) level slope _
  cases interpolated with
  | between left right low high previous next atLeft atRight line _ _ =>
      rw [line]
      exact onLine (previous.before.trans next.after).ne' atLeft atRight previous.unmarked next.unmarked
  | leftEdge first second low high _ nearest further atFirst atSecond line =>
      rw [line]
      exact onLine further.after.ne' atFirst atSecond nearest.unmarked further.unmarked
  | rightEdge first second low high _ nearest further atFirst atSecond line =>
      rw [line]
      exact onLine further.before.ne' atFirst atSecond further.unmarked nearest.unmarked

/-- The outcome of the repair: how the flags come about, and where the samples
are. -/
structure Despiked (squareRoot : α -> α) (values : List α) (window : Nat) (factor : α) (path : String)
    (repaired : List α) (spikes : List Bool) : Prop where
  repairedLength : repaired.length = values.length
  spikesLength : spikes.length = values.length
  flagged : FlaggedBy squareRoot values window factor path spikes
  kept : forall index : Nat, spikes[index]? = some false -> repaired[index]? = values[index]?
  interpolated : 2 ≤ spikes.count false -> forall index : Nat, spikes[index]? = some true ->
    ∃ value, repaired[index]? = some value ∧ Interpolated values spikes index value
  unrepaired : spikes.count false < 2 -> repaired = values

omit [IsStrictOrderedRing α] in
/-- Without flags every sample is kept. -/
theorem Despiked.of_quiet {values : List α} {window : Nat} {factor : α} {path : String} {spikes : List Bool}
    (length : spikes.length = values.length) (flagged : FlaggedBy squareRoot values window factor path spikes)
    (quiet : spikes.count true = 0) : Despiked squareRoot values window factor path values spikes := by
  refine ⟨rfl, length, flagged, fun _ _ => rfl, ?_, fun _ => rfl⟩
  intro _ index marked
  exact absurd (List.mem_of_getElem? marked) (List.count_eq_zero.mp quiet)

theorem quiet_flags (count : Nat) : ∀ flag ∈ List.replicate count false, flag = false :=
  fun _ member => List.eq_of_mem_replicate member

theorem quiet_count (count : Nat) : (List.replicate count false).count true = 0 :=
  List.count_eq_zero.mpr fun member => Bool.noConfusion (List.eq_of_mem_replicate member)

theorem oddWindow_pos (window : Nat) : 0 < oddWindow window := by
  unfold oddWindow
  split
  · omega
  · omega

theorem less_epsilon (mad : α) :
    @SignalArithmetic.less α (exactArithmetic squareRoot) mad (@sysFloatEpsilon α (exactArithmetic squareRoot)) = true ↔
      mad < 1 / 2 ^ 52 := by
  change decide (mad < ((1 / 2 ^ 52 : Rat) : α)) = true ↔ _
  rw [decide_eq_true_eq]
  push_cast
  rfl

theorem less_threshold (factor mad value : α) :
    @SignalArithmetic.less α (exactArithmetic squareRoot)
      (factor * @SignalArithmetic.literal α (exactArithmetic squareRoot) (14826 / 10000) * mad)
      (@Features.Arithmetic.abs α (exactArithmetic squareRoot).toArithmetic value) = true ↔
        factor * (14826 / 10000) * mad < |value| := by
  change decide (factor * ((14826 / 10000 : Rat) : α) * mad < max value (-value)) = true ↔ _
  rw [decide_eq_true_eq, abs_eq_max_neg]
  push_cast
  rfl

/-- The flags are at the residuals above the threshold and beside them. -/
theorem nearMark_residual {factor mad : α} {residual : List α} {index : Nat} :
    NearMark (residual.map fun value => @SignalArithmetic.less α (exactArithmetic squareRoot)
      (factor * @SignalArithmetic.literal α (exactArithmetic squareRoot) (14826 / 10000) * mad)
      (@Features.Arithmetic.abs α (exactArithmetic squareRoot).toArithmetic value)) index ↔
        ∃ near value, near ≤ index + 1 ∧ index ≤ near + 1 ∧ residual[near]? = some value ∧
          factor * (14826 / 10000) * mad < |value| := by
  constructor
  · rintro ⟨near, marked, after, before⟩
    rw [List.getElem?_map, Option.map_eq_some_iff] at marked
    rcases marked with ⟨value, present, large⟩
    exact ⟨near, value, after, before, present, (less_threshold factor mad value).mp large⟩
  · rintro ⟨near, value, after, before, present, large⟩
    refine ⟨near, ?_, after, before⟩
    rw [List.getElem?_map, present, Option.map_some, (less_threshold factor mad value).mpr large]

/-- The repair returns, and repairs what it flags. -/
theorem despikeAndRepair_despiked (values : List α) (window : Nat) (factor : α) {path : String}
    (supported : path ∈ medianPaths) :
    ∃ repaired spikes,
      @despikeAndRepair α (exactArithmetic squareRoot) values window factor path = .ok (repaired, spikes) ∧
        Despiked squareRoot values window factor path repaired spikes := by
  unfold despikeAndRepair
  by_cases short : (values.length : Int) < window + 5
  · rw [if_pos short]
    refine ⟨values, _, rfl, .of_quiet List.length_replicate (.short (by omega) (quiet_flags _)) (quiet_count _)⟩
  · rw [if_neg short]
    rcases @residuals_total α (exactArithmetic squareRoot) exact_sortsAll values _ (oddWindow_pos window) path supported
      with ⟨_, residual, _, computed, length⟩
    rcases @deviation_total α (exactArithmetic squareRoot) exact_sortsAll residual (by omega) with ⟨mad, spread⟩
    rw [computed, ok_bind, spread, ok_bind]
    by_cases small : mad < 1 / 2 ^ 52
    · rw [if_pos ((less_epsilon mad).mpr small)]
      exact ⟨values, _, rfl, .of_quiet List.length_replicate
        (.flat residual mad (by omega) computed spread small (quiet_flags _)) (quiet_count _)⟩
    · rw [if_neg fun less => small ((less_epsilon mad).mp less)]
      rcases spreadMarks_ok (residual.map fun value => @SignalArithmetic.less α (exactArithmetic squareRoot)
        (factor * @SignalArithmetic.literal α (exactArithmetic squareRoot) (14826 / 10000) * mad)
        (@Features.Arithmetic.abs α (exactArithmetic squareRoot).toArithmetic value)) with ⟨spikes, run, spikesLength, flags⟩
      rw [List.length_map, length] at spikesLength flags
      have flagged : FlaggedBy squareRoot values window factor path spikes := by
        refine .threshold residual mad (by omega) computed spread (not_lt.mp small) ?_
        intro index inside
        exact (flags index inside).trans nearMark_residual
      dsimp only
      rw [run, ok_bind]
      by_cases none : spikes.count true = 0
      · rw [if_pos (Or.inr none)]
        exact ⟨values, spikes, rfl, .of_quiet spikesLength flagged none⟩
      · by_cases few : spikes.count false < 2
        · rw [if_pos (Or.inl few)]
          refine ⟨values, spikes, rfl, rfl, spikesLength, flagged, fun _ _ => rfl, ?_, fun _ => rfl⟩
          intro enough
          omega
        · rw [if_neg fun either => either.elim few none]
          rcases @linearRepair_ok α (exactArithmetic squareRoot) values spikes spikesLength.symm (not_lt.mp few) with
            ⟨repaired, repairs, repairedLength, each⟩
          rw [repairs, ok_bind]
          refine ⟨repaired, spikes, rfl, repairedLength, spikesLength, flagged, ?_, ?_, fun fewer => absurd fewer few⟩
          · intro index unflagged
            have inside : index < values.length := spikesLength ▸ (List.getElem?_eq_some_iff.mp unflagged).1
            rcases each index inside with ⟨value, present, repair⟩
            rw [present, @Repair.of_unflagged α (exactArithmetic squareRoot) _ _ _ _ repair unflagged]
          · intro _ index marked
            have inside : index < values.length := spikesLength ▸ (List.getElem?_eq_some_iff.mp marked).1
            rcases each index inside with ⟨value, present, repair⟩
            exact ⟨value, present, .of_repair marked repair⟩

/-- Despiking repairs what it flags and nothing else.  For every signal and
window, with either median path, it returns as many samples and flags as it was
given; the flags are the residuals above the threshold and their neighbours; the
samples without a flag are kept; and, unless fewer than two are left, the others
are on the lines through the nearest two of them. -/
theorem despiking_repairs_flagged (squareRoot : α -> α) (values : List α) (window : Nat) (factor : α) {path : String}
    (supported : path ∈ medianPaths) :
    ∃ repaired spikes,
      @despikeAndRepair α (exactArithmetic squareRoot) values window factor path = .ok (repaired, spikes) ∧
        Despiked squareRoot values window factor path repaired spikes ∧
          forall level slope : α, 2 ≤ spikes.count false ->
            (forall (index : Nat) (value : α), spikes[index]? = some false -> values[index]? = some value ->
              value = level + slope * index) ->
                forall (index : Nat) (value : α), repaired[index]? = some value -> value = level + slope * index := by
  rcases @despikeAndRepair_despiked α _ _ squareRoot _ values window factor path supported with
    ⟨repaired, spikes, returned, despiked⟩
  refine ⟨repaired, spikes, returned, despiked, ?_⟩
  intro level slope enough affine index value present
  have inside : index < spikes.length := by
    rw [despiked.spikesLength, ← despiked.repairedLength]
    exact (List.getElem?_eq_some_iff.mp present).1
  have here := List.getElem?_eq_getElem inside
  cases marked : spikes[index] with
  | false =>
      rw [marked] at here
      exact affine index value here (despiked.kept index here ▸ present)
  | true =>
      rw [marked] at here
      rcases despiked.interpolated enough index here with ⟨found, atIndex, interpolated⟩
      rw [present] at atIndex
      cases atIndex
      exact interpolated.affine affine

/-- Nine samples with a spike at either end, and an even window. -/
theorem despiking_repairs_flagged_sample :
    ∃ repaired spikes, @despikeAndRepair Rat (exactArithmetic id) [90, 2, 3, 4, 5, 6, 7, 8, 90] ((4 : Nat) : Int)
      1 "median_filter_zero_padded_v1" = .ok (repaired, spikes) ∧ repaired.length = 9 := by
  rcases despiking_repairs_flagged (id : Rat -> Rat) [90, 2, 3, 4, 5, 6, 7, 8, 90] 4 1
    (show "median_filter_zero_padded_v1" ∈ medianPaths by decide) with ⟨repaired, spikes, returned, despiked, _⟩
  exact ⟨repaired, spikes, returned, despiked.repairedLength⟩

end Worker
end FederatedIot
