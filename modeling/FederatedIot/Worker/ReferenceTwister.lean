import FederatedIot.Foundation.Doubles
import FederatedIot.Foundation.MersenneTwister
import FederatedIot.Worker.Clustering

namespace FederatedIot
namespace Worker

open Foundation

/-!
# The seeded stream

The stream keeps its words as unbounded integers and cuts them to 32 bits where a shift
could have made them longer.  Its words are those of the twister at every draw, however
often the state was regenerated in between.
-/

namespace ReferenceTwister

/-! ## Words of 32 bits -/

theorem and_mask (value : Nat) : value &&& mask = value % 2 ^ 32 :=
  Nat.and_two_pow_sub_one_eq_mod value 32

/-- A mask of 32 bits does not see what was shifted out. -/
theorem mod_and {value bits : Nat} (short : bits < 2 ^ 32) : value % 2 ^ 32 &&& bits = value &&& bits := by
  have cut : (value &&& bits) % 2 ^ 32 = value &&& bits := Nat.mod_eq_of_lt (Nat.and_lt_two_pow value short)
  rw [Nat.and_mod_two_pow, Nat.mod_eq_of_lt short] at cut
  exact cut

theorem temper_toNat (word : MersenneTwister.Word) : (MersenneTwister.temper word).toNat = temper word.toNat := by
  have cut : (MersenneTwister.temper word).toNat &&& mask = (MersenneTwister.temper word).toNat := by
    rw [and_mask, Nat.mod_eq_of_lt (BitVec.isLt _)]
  rw [← cut]
  unfold MersenneTwister.temper temper
  simp only [BitVec.toNat_xor, BitVec.toNat_and, BitVec.toNat_ushiftRight, BitVec.toNat_shiftLeft, BitVec.toNat_ofNat]
  rw [mod_and (by decide), mod_and (by decide)]

/-- One word of the state, made of three others. -/
def nextWord (oldest following lagged : Nat) : Nat :=
  let value := (oldest &&& 0x80000000) ||| (following &&& 0x7FFFFFFF)
  lagged ^^^ (value >>> 1) ^^^ (if value % 2 = 1 then 0x9908B0DF else 0)

def wordRecurrence : Recurrence Nat where
  width := 624
  lag := 397
  wide := MersenneTwister.recurrence.wide
  inside := MersenneTwister.recurrence.inside
  next := nextWord

/-- A turn of the loop replaces one position of the window. -/
theorem regenerateWord_eq : regenerateWord = wordRecurrence.replaceAt 0 :=
  rfl

theorem nextWord_toNat (oldest following lagged : MersenneTwister.Word) :
    (MersenneTwister.recurrence.next oldest following lagged).toNat =
      nextWord oldest.toNat following.toNat lagged.toNat := by
  have joined : ((oldest &&& 0x80000000#32) ||| (following &&& 0x7FFFFFFF#32)).toNat =
      (oldest.toNat &&& 0x80000000) ||| (following.toNat &&& 0x7FFFFFFF) := by
    rw [BitVec.toNat_or, BitVec.toNat_and, BitVec.toNat_and]
    rfl
  have lowest : ((oldest &&& 0x80000000#32) ||| (following &&& 0x7FFFFFFF#32)).getLsbD 0 =
      decide (((oldest.toNat &&& 0x80000000) ||| (following.toNat &&& 0x7FFFFFFF)) % 2 = 1) := by
    rw [BitVec.getLsbD, joined, Nat.testBit_zero]
  change (lagged ^^^ MersenneTwister.twist oldest following).toNat = _
  unfold MersenneTwister.twist nextWord
  simp only
  rw [← BitVec.xor_assoc, BitVec.toNat_xor, BitVec.toNat_xor, BitVec.toNat_ushiftRight, joined, lowest]
  by_cases odd : ((oldest.toNat &&& 0x80000000) ||| (following.toNat &&& 0x7FFFFFFF)) % 2 = 1
  · rw [if_pos (decide_eq_true odd), if_pos odd]
    rfl
  · rw [if_neg (by rw [decide_eq_false odd]; exact Bool.false_ne_true), if_neg odd]
    rfl

/-! ## The initial state -/

/-- The seed as a word. -/
def seedWord (seed : Int) : MersenneTwister.Word :=
  BitVec.ofInt 32 seed

theorem initial_succ_toNat (seed : MersenneTwister.Word) (index : Nat) :
    (MersenneTwister.initial seed (index + 1)).toNat =
      (1812433253 * ((MersenneTwister.initial seed index).toNat ^^^
        ((MersenneTwister.initial seed index).toNat >>> 30)) + (index + 1)) &&& mask := by
  rw [MersenneTwister.initial, and_mask]
  simp only [BitVec.toNat_add, BitVec.toNat_mul, BitVec.toNat_xor, BitVec.toNat_ushiftRight, BitVec.toNat_ofNat]
  rw [← Nat.add_mod]

theorem wordsAfter_getElem? (seed : MersenneTwister.Word) (remaining index position : Nat) (inside : position < remaining) :
    (wordsAfter remaining (index + 1) (MersenneTwister.initial seed index).toNat)[position]? =
      some (MersenneTwister.initial seed (index + 1 + position)).toNat := by
  induction remaining generalizing index position with
  | zero => exact absurd inside (Nat.not_lt_zero position)
  | succ remaining inductionHypothesis =>
      unfold wordsAfter
      simp only
      rw [← initial_succ_toNat]
      cases position with
      | zero => rfl
      | succ position =>
          rw [List.getElem?_cons_succ, inductionHypothesis (index + 1) position (Nat.lt_of_succ_lt_succ inside)]
          exact congrArg (fun index => some (MersenneTwister.initial seed index).toNat) (by omega)

theorem length_wordsAfter (remaining index previous : Nat) : (wordsAfter remaining index previous).length = remaining := by
  induction remaining generalizing index previous with
  | zero => rfl
  | succ remaining inductionHypothesis =>
      unfold wordsAfter
      rw [List.length_cons, inductionHypothesis]

/-- The state begins with the initial terms. -/
theorem seeded_isWindow (seed : Int) :
    Recurrence.IsWindow wordRecurrence (fun index => (MersenneTwister.initial (seedWord seed) index).toNat) 0
      (seeded seed).state := by
  have first : (seed % 2 ^ 32).toNat = (MersenneTwister.initial (seedWord seed) 0).toNat := (BitVec.toNat_ofInt seed).symm
  refine ⟨?_, ?_⟩
  · unfold seeded
    rw [List.length_cons, length_wordsAfter]
    rfl
  · intro position below
    rw [Recurrence.term_of_lt (by omega), Nat.zero_add]
    unfold seeded
    simp only
    rw [first]
    cases position with
    | zero => rfl
    | succ position =>
        have inside : position < 623 := Nat.lt_of_succ_lt_succ below
        rw [List.getElem?_cons_succ, wordsAfter_getElem? (seedWord seed) 623 0 position inside, Nat.zero_add, Nat.add_comm]

/-! ## Draws -/

/-- What the stream holds after some draws. -/
structure Holds (seed : Int) (drawn : Nat) (stream : ReferenceTwister) : Prop where
  window : exists first, Recurrence.IsWindow wordRecurrence
    (fun index => (MersenneTwister.initial (seedWord seed) index).toNat) first stream.state ∧
      first + stream.index = 624 + drawn
  index : stream.index ≤ 624

theorem seeded_holds (seed : Int) : Holds seed 0 (seeded seed) :=
  ⟨⟨0, seeded_isWindow seed, rfl⟩, Nat.le_refl 624⟩

theorem term_toNat (seed : Int) (index : Nat) :
    wordRecurrence.term (fun index => (MersenneTwister.initial (seedWord seed) index).toNat) index =
      (MersenneTwister.recurrence.term (MersenneTwister.initial (seedWord seed)) index).toNat :=
  (@Recurrence.map_term _ _ MersenneTwister.recurrence _ wordRecurrence BitVec.toNat rfl rfl nextWord_toNat index).symm

variable {seed : Int} {drawn : Nat} {stream : ReferenceTwister}

/-- A draw from a position inside of the state. -/
theorem Holds.temper_getD (holds : Holds seed drawn stream) (inside : stream.index < 624) :
    temper (stream.state.getD stream.index 0) = (MersenneTwister.output (seedWord seed) drawn).toNat := by
  rcases holds.window with ⟨first, window, counted⟩
  rw [List.getD_eq_getElem?_getD, window.terms _ inside, Option.getD_some, counted, term_toNat, ← temper_toNat]
  rfl

theorem Holds.next (holds : Holds seed drawn stream) (inside : stream.index < 624) :
    Holds seed (drawn + 1) { stream with index := stream.index + 1 } := by
  rcases holds.window with ⟨first, window, counted⟩
  refine ⟨⟨first, window, ?_⟩, inside⟩
  change first + (stream.index + 1) = 624 + (drawn + 1)
  omega

/-- A regenerated state holds the next window. -/
theorem Holds.regenerate (holds : Holds seed drawn stream) (exhausted : 624 ≤ stream.index) :
    Holds seed drawn { state := (List.range 624).foldl regenerateWord stream.state, index := 0 } := by
  rcases holds.window with ⟨first, window, counted⟩
  have atEnd := Nat.le_antisymm holds.index exhausted
  have width : wordRecurrence.width = 624 := rfl
  have next := @Recurrence.IsWindow.regenerate _ wordRecurrence _ _ _ 0 window
  rw [width, ← regenerateWord_eq] at next
  refine { window := ⟨first + 624, ?_, ?_⟩, index := Nat.zero_le 624 }
  · dsimp only
    exact next
  · dsimp only
    omega

theorem Holds.word (holds : Holds seed drawn stream) :
    stream.word.1 = (MersenneTwister.output (seedWord seed) drawn).toNat ∧ Holds seed (drawn + 1) stream.word.2 := by
  unfold ReferenceTwister.word
  simp only
  by_cases exhausted : 624 ≤ stream.index
  · rw [if_pos exhausted]
    have ready := holds.regenerate exhausted
    exact ⟨ready.temper_getD (Nat.zero_lt_succ _), ready.next (Nat.zero_lt_succ _)⟩
  · rw [if_neg exhausted]
    have inside := Nat.lt_of_not_le exhausted
    exact ⟨holds.temper_getD inside, holds.next inside⟩

/-- The stream after some draws. -/
def after (stream : ReferenceTwister) : Nat -> ReferenceTwister
  | 0 => stream
  | draws + 1 => (stream.after draws).word.2

theorem holds_after (seed : Int) (draws : Nat) : Holds seed draws ((seeded seed).after draws) := by
  induction draws with
  | zero => exact seeded_holds seed
  | succ draws inductionHypothesis => exact inductionHypothesis.word.2

/-! ## Doubles from words -/

/-- `uniform`, with the rounding of every operation -/
def roundedUniform (stream : ReferenceTwister) : Rat × ReferenceTwister :=
  let high := stream.word
  let low := high.2.word
  let scaled := Binary64.round ((high.1 >>> 5 : Nat) * 67108864)
  (Binary64.round (Binary64.round (scaled + (low.1 >>> 6 : Nat)) / 9007199254740992), low.2)

inductive RandiFailure where
  | valueError (message : String)
  | overflowError
  deriving DecidableEq

/-- `randi`, with the rounding of its bound and of the product.  An integer beyond the doubles is
not converted, and an infinite product has no floor. -/
def roundedRandi (stream : ReferenceTwister) (upper : Int) : Except RandiFailure (Int × ReferenceTwister) :=
  if upper < 1 then .error (.valueError "Random-index upper bound must be positive.")
  else
    let sample := stream.roundedUniform
    if Binary64.overflows upper then .error .overflowError
    else
      let product := sample.1 * Binary64.round upper
      if Binary64.overflows product then .error .overflowError
      else .ok (min ⌊Binary64.round product⌋ (upper - 1), sample.2)

variable (stream)

theorem word_lt : stream.word.1 < 2 ^ 32 :=
  Nat.and_lt_two_pow _ (by decide)

theorem uniform_lt : stream.uniform.1 < 2 ^ 53 := by
  have high : stream.word.1 >>> 5 < 2 ^ 27 := by
    rw [Nat.shiftRight_eq_div_pow]
    exact Nat.div_lt_of_lt_mul stream.word_lt
  have low : stream.word.2.word.1 >>> 6 < 2 ^ 26 := by
    rw [Nat.shiftRight_eq_div_pow]
    exact Nat.div_lt_of_lt_mul stream.word.2.word_lt
  unfold uniform
  dsimp only
  omega

/-- An integer of 53 bits is a double. -/
theorem round_natCast {value : Nat} (bits : value ≤ 2 ^ 53) : Binary64.round value = value := by
  refine Binary64.round_eq_self ⟨value, 0, ?_, by decide, by simp⟩
  rw [Nat.abs_cast]
  exact_mod_cast bits

/-- No operation of a sample is inexact. -/
theorem roundedUniform_eq :
    stream.roundedUniform = ((stream.uniform.1 : Rat) / 2 ^ 53, stream.uniform.2) := by
  have below := stream.uniform_lt
  unfold uniform at below
  dsimp only at below
  have scaled : Binary64.round ((stream.word.1 >>> 5 : Nat) * 67108864) = (stream.word.1 >>> 5 * 67108864 : Nat) := by
    have exactly := @round_natCast (stream.word.1 >>> 5 * 67108864) (by omega)
    rw [← exactly]
    push_cast
    rfl
  have summed : Binary64.round ((stream.word.1 >>> 5 * 67108864 : Nat) + (stream.word.2.word.1 >>> 6 : Nat) : Rat) =
      (stream.word.1 >>> 5 * 67108864 + stream.word.2.word.1 >>> 6 : Nat) := by
    rw [← Nat.cast_add]
    exact round_natCast below.le
  have divided : Binary64.round (((stream.word.1 >>> 5 * 67108864 + stream.word.2.word.1 >>> 6 : Nat) : Rat) / 2 ^ 53) =
      ((stream.word.1 >>> 5 * 67108864 + stream.word.2.word.1 >>> 6 : Nat) : Rat) / 2 ^ 53 := by
    refine Binary64.round_eq_self
      ⟨(stream.word.1 >>> 5 * 67108864 + stream.word.2.word.1 >>> 6 : Nat), -53, ?_, by decide, ?_⟩
    · rw [Nat.abs_cast]
      exact_mod_cast below.le
    · rw [div_eq_mul_inv, zpow_neg, Int.cast_natCast]
      rfl
  unfold roundedUniform uniform
  dsimp only
  rw [scaled, summed]
  exact Prod.ext ((congrArg (fun power : Rat => Binary64.round (_ / power)) (by norm_num)).trans divided) rfl

theorem roundedUniform_nonneg : 0 ≤ stream.roundedUniform.1 := by
  rw [roundedUniform_eq]
  positivity

theorem roundedUniform_lt : stream.roundedUniform.1 < 1 := by
  rw [roundedUniform_eq, div_lt_one (by positivity)]
  exact_mod_cast stream.uniform_lt

/-- An index below every bound that is converted to a double. -/
theorem roundedRandi_ok {upper : Int} (positive : 1 ≤ upper) (converts : Binary64.overflows upper = false) :
    exists index next, stream.roundedRandi upper = .ok (index, next) ∧ 0 ≤ index ∧ index < upper := by
  have nonnegative : (0 : Rat) ≤ Binary64.round upper :=
    Binary64.round_nonneg (by exact_mod_cast Int.le_trans (by decide) positive)
  have sample := stream.roundedUniform_nonneg
  have product : 0 ≤ stream.roundedUniform.1 * Binary64.round upper := mul_nonneg sample nonnegative
  have finite : Binary64.overflows (stream.roundedUniform.1 * Binary64.round upper) = false := by
    have below : stream.roundedUniform.1 * Binary64.round upper ≤ Binary64.round upper :=
      mul_le_of_le_one_left nonnegative stream.roundedUniform_lt.le
    have rounded := Binary64.round_le product below (Binary64.representable_round _)
    unfold Binary64.overflows at converts ⊢
    rw [decide_eq_false_iff_not, not_le, abs_of_nonneg nonnegative] at converts
    rw [decide_eq_false_iff_not, not_le, abs_of_nonneg (Binary64.round_nonneg product)]
    exact rounded.trans_lt converts
  refine ⟨min ⌊Binary64.round (stream.roundedUniform.1 * Binary64.round upper)⌋ (upper - 1), stream.roundedUniform.2,
    ?_, le_min (Int.floor_nonneg.mpr (Binary64.round_nonneg product)) (by omega), ?_⟩
  · unfold roundedRandi
    dsimp only
    rw [if_neg (by omega), converts, finite]
    rfl
  · exact lt_of_le_of_lt (min_le_right _ _) (by omega)

/-! ## The words of the twister -/

/-- Every draw hands out the word of the twister, and samples and indices are in their ranges. -/
theorem twister_stream (seed : Int) :
    (forall draws, ((seeded seed).after draws).word.1 = (MersenneTwister.output (seedWord seed) draws).toNat) ∧
      forall stream : ReferenceTwister, stream.word.1 < 2 ^ 32 ∧
        (0 ≤ stream.roundedUniform.1 ∧ stream.roundedUniform.1 < 1) ∧
        forall upper : Int, 1 ≤ upper -> Binary64.overflows upper = false ->
          exists index next, stream.roundedRandi upper = .ok (index, next) ∧ 0 ≤ index ∧ index < upper := by
  refine ⟨fun draws => (holds_after seed draws).word.1, fun stream => ⟨stream.word_lt, ?_, ?_⟩⟩
  · exact ⟨stream.roundedUniform_nonneg, stream.roundedUniform_lt⟩
  · intro upper positive converts
    exact stream.roundedRandi_ok positive converts

/-- A bound may be too large to become a double. -/
theorem randi_overflows : ¬forall (stream : ReferenceTwister) (upper : Int), 1 ≤ upper ->
    exists index next, stream.roundedRandi upper = .ok (index, next) ∧ 0 ≤ index ∧ index < upper := by
  intro always
  rcases always (seeded 0) (2 ^ 1024) (by decide +kernel) with ⟨index, next, drawn, _⟩
  have refused : (seeded 0).roundedRandi (2 ^ 1024) = .error .overflowError := by
    unfold roundedRandi
    dsimp only
    rw [if_neg (by decide +kernel), if_pos (by decide +kernel)]
  rw [refused] at drawn
  cases drawn

end ReferenceTwister

end Worker
end FederatedIot
