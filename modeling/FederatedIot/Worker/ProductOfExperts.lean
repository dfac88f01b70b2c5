import FederatedIot.Foundation.Means
import FederatedIot.Worker.Aggregation

namespace FederatedIot
namespace Worker

open Foundation Foundation.Outcome

/-!
# The product of experts as an aggregate

A generalized product of experts is a pair of weighted means.  The share of an
expert in the precision is its normalized weight divided by its guarded
variance.  The mean is the mean of the experts' means in these shares, and the
variance is the mean of the guarded variances in the same shares, provided that
the precision reaches the guard.
-/

variable {α : Type} [Field α] [LinearOrder α]

/-- One entry of the three lists that are aggregated. -/
structure Expert (α : Type) where
  mean : α
  variance : α
  weight : α

def Expert.guarded (varianceFloor : α) (expert : Expert α) : α :=
  max expert.variance varianceFloor

def Expert.scale (factor : α) (expert : Expert α) : Expert α :=
  { expert with weight := factor * expert.weight }

/-- The entries of three lists at the same positions. -/
def experts (means variances weights : List α) : List (Expert α) :=
  (means.zip (variances.zip weights)).map fun entry => ⟨entry.1, entry.2.1, entry.2.2⟩

def aggregateExperts (varianceFloor : α) (items : List (Expert α)) : Except AggregationError (α × α) :=
  gpoeAggregate (items.map Expert.mean) (items.map Expert.variance) (items.map Expert.weight) varianceFloor

/-- What an expert contributes to the precision when the weights have this
total. -/
def Expert.share (varianceFloor total : α) (expert : Expert α) : α :=
  expert.weight / total / expert.guarded varianceFloor

def totalWeight (items : List (Expert α)) : α :=
  (items.map Expert.weight).sum

/-- The weighted precision of the experts. -/
def precision (varianceFloor : α) (items : List (Expert α)) : α :=
  (items.map (Expert.share varianceFloor (totalWeight items))).sum

/-- The result lies within the values of the experts that have a weight. -/
structure WithinExperts (varianceFloor : α) (items : List (Expert α)) (result : α × α) : Prop where
  mean : Means.Between ((Means.contributors Expert.weight items).map Expert.mean) result.1
  variance : Means.Between ((Means.contributors Expert.weight items).map (Expert.guarded varianceFloor)) result.2

/-! ## The result in closed form -/

omit [Field α] [LinearOrder α] in
theorem experts_lists {means variances weights : List α} (sameVariances : variances.length = means.length)
    (sameWeights : weights.length = means.length) :
    (experts means variances weights).map Expert.mean = means ∧
      (experts means variances weights).map Expert.variance = variances ∧
        (experts means variances weights).map Expert.weight = weights := by
  have inner : weights.length = variances.length := sameWeights.trans sameVariances.symm
  have outer : (variances.zip weights).length = means.length := by
    rw [List.length_zip, inner, min_self, sameVariances]
  refine ⟨?_, ?_, ?_⟩
  · rw [experts, List.map_map]
    exact List.map_fst_zip outer.ge
  · rw [experts, List.map_map]
    calc (means.zip (variances.zip weights)).map (Expert.variance ∘ fun entry => ⟨entry.1, entry.2.1, entry.2.2⟩)
        = ((means.zip (variances.zip weights)).map Prod.snd).map Prod.fst := by rw [List.map_map]; rfl
      _ = variances := by rw [List.map_snd_zip outer.le, List.map_fst_zip inner.ge]
  · rw [experts, List.map_map]
    calc (means.zip (variances.zip weights)).map (Expert.weight ∘ fun entry => ⟨entry.1, entry.2.1, entry.2.2⟩)
        = ((means.zip (variances.zip weights)).map Prod.snd).map Prod.snd := by rw [List.map_map]; rfl
      _ = weights := by rw [List.map_snd_zip outer.le, List.map_snd_zip inner.le]

theorem divide_ok {left right : α} (nonzero : right ≠ 0) : divide left right = .ok (left / right) :=
  if_neg nonzero

theorem Expert.guarded_pos {varianceFloor : α} (floor : 0 < varianceFloor) (expert : Expert α) :
    0 < expert.guarded varianceFloor :=
  floor.trans_le (le_max_right expert.variance varianceFloor)

/-- Without a positive weight nothing is aggregated. -/
theorem aggregateExperts_weightless {varianceFloor : α} {items : List (Expert α)} (weightless : totalWeight items ≤ 0) :
    aggregateExperts varianceFloor items =
      .error (.valueError "Aggregation weights must contain a positive value.") := by
  have refused : normalize (items.map Expert.weight) =
      .error (.valueError "Aggregation weights must contain a positive value.") := if_pos weightless
  rw [aggregateExperts, gpoeAggregate, refused, error_bind]

/-- The variance and the mean as sums over the experts. -/
theorem aggregateExperts_eq {varianceFloor : α} (floor : 0 < varianceFloor) {items : List (Expert α)}
    (weighted : 0 < totalWeight items) :
    aggregateExperts varianceFloor items =
      let variance := max (1 / max (precision varianceFloor items) machineEpsilon) varianceFloor
      .ok (variance * (items.map fun expert =>
        expert.weight / totalWeight items * expert.mean / expert.guarded varianceFloor).sum, variance) := by
  have weights : normalize (items.map Expert.weight) =
      .ok (items.map fun expert => expert.weight / totalWeight items) := by
    rw [normalize, if_neg (show ¬(items.map Expert.weight).sum ≤ 0 from not_le.mpr weighted), List.map_map]
    rfl
  have guards : (items.map Expert.variance).map (max · varianceFloor) = items.map (Expert.guarded varianceFloor) :=
    List.map_map ..
  have shares : ((items.map fun expert => expert.weight / totalWeight items).zip
      (items.map (Expert.guarded varianceFloor))).mapM (fun pair => divide pair.1 pair.2) =
        .ok (items.map (Expert.share varianceFloor (totalWeight items))) := by
    rw [List.zip_map', mapM_ok_iff, List.forall₂_map_left_iff, List.forall₂_map_right_iff, List.forall₂_same]
    intro expert member
    exact divide_ok (expert.guarded_pos floor).ne'
  have terms : ((items.map fun expert => expert.weight / totalWeight items).zip
      ((items.map Expert.mean).zip (items.map (Expert.guarded varianceFloor)))).mapM
        (fun triple => divide (triple.1 * triple.2.1) triple.2.2) =
          .ok (items.map fun expert =>
            expert.weight / totalWeight items * expert.mean / expert.guarded varianceFloor) := by
    rw [List.zip_map', List.zip_map', mapM_ok_iff, List.forall₂_map_left_iff, List.forall₂_map_right_iff,
      List.forall₂_same]
    intro expert member
    exact divide_ok (expert.guarded_pos floor).ne'
  simp only [aggregateExperts, gpoeAggregate, guards]
  rw [weights, ok_bind, shares, ok_bind, terms, ok_bind]
  rfl

/-! ## What does not matter -/

/-- The order of the experts does not matter. -/
theorem aggregateExperts_perm {varianceFloor : α} (floor : 0 < varianceFloor) {first second : List (Expert α)}
    (permuted : first.Perm second) : aggregateExperts varianceFloor first = aggregateExperts varianceFloor second := by
  have total : totalWeight first = totalWeight second := (permuted.map Expert.weight).sum_eq
  by_cases weighted : 0 < totalWeight first
  · have shares : precision varianceFloor first = precision varianceFloor second := by
      rw [precision, precision, total]
      exact (permuted.map _).sum_eq
    rw [aggregateExperts_eq floor weighted, aggregateExperts_eq floor (total ▸ weighted), shares, total]
    rw [(permuted.map fun expert =>
      expert.weight / totalWeight second * expert.mean / expert.guarded varianceFloor).sum_eq]
  · have weightless := not_lt.mp weighted
    rw [aggregateExperts_weightless weightless, aggregateExperts_weightless (total ▸ weightless)]

/-- Experts of weight zero do not matter. -/
theorem aggregateExperts_drop {varianceFloor : α} (floor : 0 < varianceFloor) (items : List (Expert α)) :
    aggregateExperts varianceFloor (items.filter fun expert => decide (expert.weight ≠ 0)) =
      aggregateExperts varianceFloor items := by
  have dropped (part : Expert α -> α) (zero : forall expert : Expert α, expert.weight = 0 -> part expert = 0) :
      ((items.filter fun expert => decide (expert.weight ≠ 0)).map part).sum = (items.map part).sum := by
    apply Means.sum_filter_of_zero
    intro expert _ left
    exact zero expert (not_not.mp (of_decide_eq_false left))
  have total : totalWeight (items.filter fun expert => decide (expert.weight ≠ 0)) = totalWeight items :=
    dropped Expert.weight fun _ zero => zero
  by_cases weighted : 0 < totalWeight items
  · have shares : precision varianceFloor (items.filter fun expert => decide (expert.weight ≠ 0)) =
        precision varianceFloor items := by
      rw [precision, precision, total]
      exact dropped _ fun expert zero => by rw [Expert.share, zero, zero_div, zero_div]
    rw [aggregateExperts_eq floor (total.symm ▸ weighted), aggregateExperts_eq floor weighted, shares, total]
    rw [dropped _ fun expert zero => by rw [zero, zero_div, zero_mul, zero_div]]
  · have weightless := not_lt.mp weighted
    rw [aggregateExperts_weightless weightless, aggregateExperts_weightless (total.symm ▸ weightless)]

variable [IsStrictOrderedRing α]

omit [LinearOrder α] [IsStrictOrderedRing α] in
theorem totalWeight_scale (factor : α) (items : List (Expert α)) :
    totalWeight (items.map (Expert.scale factor)) = factor * totalWeight items := by
  rw [totalWeight, List.map_map]
  exact List.sum_map_mul_left items Expert.weight factor

/-- The scale of the weights does not matter. -/
theorem aggregateExperts_scale {varianceFloor factor : α} (floor : 0 < varianceFloor) (positive : 0 < factor)
    (items : List (Expert α)) :
    aggregateExperts varianceFloor (items.map (Expert.scale factor)) = aggregateExperts varianceFloor items := by
  have total := totalWeight_scale factor items
  by_cases weighted : 0 < totalWeight items
  · have same (expert : Expert α) : factor * expert.weight / (factor * totalWeight items) =
        expert.weight / totalWeight items := mul_div_mul_left _ _ positive.ne'
    have shares : precision varianceFloor (items.map (Expert.scale factor)) = precision varianceFloor items := by
      rw [precision, precision, total, List.map_map]
      congr 2
      funext expert
      exact congrArg (· / expert.guarded varianceFloor) (same expert)
    have terms : (fun expert : Expert α =>
        expert.weight / (factor * totalWeight items) * expert.mean / expert.guarded varianceFloor) ∘ Expert.scale factor =
          fun expert => expert.weight / totalWeight items * expert.mean / expert.guarded varianceFloor := by
      funext expert
      exact congrArg (fun weight => weight * expert.mean / expert.guarded varianceFloor) (same expert)
    rw [aggregateExperts_eq floor (total.symm ▸ mul_pos positive weighted), aggregateExperts_eq floor weighted,
      shares, total, List.map_map, terms]
  · have weightless := not_lt.mp weighted
    rw [aggregateExperts_weightless weightless,
      aggregateExperts_weightless (total.symm ▸ mul_nonpos_of_nonneg_of_nonpos positive.le weightless)]

/-! ## The bounds -/

theorem machineEpsilon_pos : 0 < (machineEpsilon : α) :=
  div_pos one_pos (by norm_num)

/-- An expert has a share exactly when it has a weight. -/
theorem contributors_share {varianceFloor : α} (floor : 0 < varianceFloor) {items : List (Expert α)}
    (weighted : 0 < totalWeight items) :
    Means.contributors (Expert.share varianceFloor (totalWeight items)) items =
      Means.contributors Expert.weight items := by
  apply List.filter_congr
  intro expert _
  rw [Expert.share, decide_eq_decide, div_pos_iff_of_pos_right (expert.guarded_pos floor),
    div_pos_iff_of_pos_right weighted]

omit [IsStrictOrderedRing α] in
/-- The variances weighted by the shares add up to 1. -/
theorem sum_share_guarded {varianceFloor : α} (floor : 0 < varianceFloor) {items : List (Expert α)}
    (weighted : 0 < totalWeight items) :
    (items.map fun expert => expert.share varianceFloor (totalWeight items) * expert.guarded varianceFloor).sum = 1 := by
  have cancel : (fun expert : Expert α =>
      expert.share varianceFloor (totalWeight items) * expert.guarded varianceFloor) =
        (· / totalWeight items) ∘ Expert.weight := by
    funext expert
    exact div_mul_cancel₀ _ (expert.guarded_pos floor).ne'
  rw [cancel, ← List.map_map, sum_map_div]
  exact div_self weighted.ne'

/-- When the precision reaches the guard, the result is within the experts that
have a weight. -/
theorem aggregateExperts_within {varianceFloor : α} (floor : 0 < varianceFloor) {items : List (Expert α)}
    (nonnegative : ∀ expert ∈ items, 0 ≤ expert.weight) (weighted : 0 < totalWeight items)
    (precise : machineEpsilon ≤ precision varianceFloor items) :
    ∃ result, aggregateExperts varianceFloor items = .ok result ∧ WithinExperts varianceFloor items result := by
  have positive : 0 < precision varianceFloor items := machineEpsilon_pos.trans_le precise
  have shares : ∀ expert ∈ items, 0 ≤ expert.share varianceFloor (totalWeight items) := by
    intro expert member
    exact div_nonneg (div_nonneg (nonnegative expert member) weighted.le) (expert.guarded_pos floor).le
  have variances : Means.Between ((Means.contributors Expert.weight items).map (Expert.guarded varianceFloor))
      (1 / precision varianceFloor items) := by
    rw [← contributors_share floor weighted]
    apply Means.between_of_mean shares positive
    rw [sum_share_guarded floor weighted]
    exact one_div_mul_cancel positive.ne'
  have floored : max (1 / max (precision varianceFloor items) machineEpsilon) varianceFloor =
      1 / precision varianceFloor items := by
    rcases variances with ⟨low, lowMember, _, _, lower, _⟩
    rcases List.mem_map.mp lowMember with ⟨expert, _, rfl⟩
    rw [max_eq_left precise]
    exact max_eq_left ((le_max_right expert.variance varianceFloor).trans lower)
  have terms : (fun expert : Expert α =>
      expert.weight / totalWeight items * expert.mean / expert.guarded varianceFloor) =
        fun expert => expert.share varianceFloor (totalWeight items) * expert.mean := by
    funext expert
    exact (div_mul_eq_mul_div _ _ _).symm
  refine ⟨_, aggregateExperts_eq floor weighted, ?_, ?_⟩
  · rw [floored, terms, ← contributors_share floor weighted]
    apply Means.between_of_mean shares positive
    have cancel : 1 / precision varianceFloor items *
        (items.map (Expert.share varianceFloor (totalWeight items))).sum = 1 := one_div_mul_cancel positive.ne'
    rw [mul_right_comm, cancel, one_mul]
  · rw [floored]
    exact variances

/-! ## The estimates at an anchor -/

/-- The experts of an anchor, with the support after the fallback. -/
def anchorExperts (raw means variances : List α) : List (Expert α) :=
  experts means variances (repairedSupport raw)

/-- The experts that are left, with the support after both fallbacks. -/
def otherExperts (raw means variances : List α) (leaveOut : Nat) : List (Expert α) :=
  experts (pick (others leaveOut) means) (pick (others leaveOut) variances)
    (otherSupport raw (repairedSupport raw) leaveOut)

/-- Normalized weights give what the weights themselves give. -/
theorem gpoeAggregate_normalized {varianceFloor : α} (floor : 0 < varianceFloor)
    {means variances support : List α} (sameVariances : variances.length = means.length)
    (sameSupport : support.length = means.length) (positive : 0 < support.sum) {weights : List α}
    (normalized : normalize support = .ok weights) :
    gpoeAggregate means variances weights varianceFloor =
      aggregateExperts varianceFloor (experts means variances support) := by
  have divided : support.map (· / support.sum) = weights := by
    rw [normalize, if_neg (not_le.mpr positive)] at normalized
    exact Except.ok.inj normalized
  rcases experts_lists sameVariances sameSupport with ⟨atMeans, atVariances, atSupport⟩
  have atWeights : ((experts means variances support).map (Expert.scale (support.sum)⁻¹)).map Expert.weight =
      weights := by
    calc ((experts means variances support).map (Expert.scale (support.sum)⁻¹)).map Expert.weight
        = ((experts means variances support).map Expert.weight).map ((support.sum)⁻¹ * ·) := by
          rw [List.map_map, List.map_map]
          rfl
      _ = support.map (· / support.sum) := by
          rw [atSupport]
          apply List.map_congr_left
          intro value _
          exact (div_eq_inv_mul value support.sum).symm
      _ = weights := divided
  rw [← aggregateExperts_scale floor (inv_pos.mpr positive) (experts means variances support), aggregateExperts,
    atWeights, List.map_map, List.map_map]
  congr 1
  · exact atMeans.symm
  · exact atVariances.symm

omit [IsStrictOrderedRing α] in
theorem repairedSupport_length (raw : List α) : (repairedSupport raw).length = raw.length := by
  simp only [repairedSupport]
  split
  · split
    · rw [List.length_set, List.length_map]
    · exact List.length_map _
  · exact List.length_map _

theorem nonnegative_set {values : List α} (nonnegative : ∀ value ∈ values, 0 ≤ value) (position : Nat) :
    ∀ value ∈ values.set position 1, 0 ≤ value := by
  intro value member
  rcases List.mem_or_eq_of_mem_set member with kept | one
  · exact nonnegative value kept
  · exact one ▸ zero_le_one

theorem repairedSupport_nonnegative (raw : List α) : ∀ value ∈ repairedSupport raw, 0 ≤ value := by
  have clipped : ∀ value ∈ raw.map (max 0), 0 ≤ value := by
    intro value member
    rcases List.mem_map.mp member with ⟨item, _, rfl⟩
    exact le_max_left 0 item
  simp only [repairedSupport]
  split
  · split
    · exact nonnegative_set clipped _
    · exact clipped
  · exact clipped

omit [Field α] [LinearOrder α] [IsStrictOrderedRing α] in
/-- Two of three are left. -/
theorem pick_others_length {β : Type} {values : List β} (three : values.length = 3) {leaveOut : Nat}
    (inside : leaveOut < 3) : (pick (others leaveOut) values).length = 2 := by
  rcases List.length_eq_three.mp three with ⟨a, b, c, rfl⟩
  rcases others_eq with ⟨others0, others1, others2⟩
  match leaveOut, inside with
  | 0, _ => simp [pick, others0]
  | 1, _ => simp [pick, others1]
  | 2, _ => simp [pick, others2]

omit [IsStrictOrderedRing α] in
theorem otherSupport_length (raw support : List α) (leaveOut : Nat) :
    (otherSupport raw support leaveOut).length = (pick (others leaveOut) support).length := by
  simp only [otherSupport]
  split
  · split
    · exact List.length_set
    · rfl
  · rfl

theorem otherSupport_nonnegative (raw : List α) {support : List α} (nonnegative : ∀ value ∈ support, 0 ≤ value)
    (leaveOut : Nat) : ∀ value ∈ otherSupport raw support leaveOut, 0 ≤ value := by
  have picked : ∀ value ∈ pick (others leaveOut) support, 0 ≤ value := by
    intro value member
    rcases List.mem_filterMap.mp member with ⟨position, _, present⟩
    exact nonnegative value (List.mem_of_getElem? present)
  simp only [otherSupport]
  split
  · split
    · exact nonnegative_set picked _
    · exact picked
  · exact picked

/-- Weights that are nonnegative and do not vanish put the result within the
experts, as soon as the precision reaches the guard. -/
theorem gpoeAggregate_within {varianceFloor : α} (floor : 0 < varianceFloor) {means variances support : List α}
    (sameVariances : variances.length = means.length) (sameSupport : support.length = means.length)
    (nonnegative : ∀ value ∈ support, 0 ≤ value) (positive : 0 < support.sum) {weights : List α}
    (normalized : normalize support = .ok weights) {result : α × α}
    (aggregated : gpoeAggregate means variances weights varianceFloor = .ok result)
    (precise : machineEpsilon ≤ precision varianceFloor (experts means variances support)) :
    WithinExperts varianceFloor (experts means variances support) result := by
  have atSupport := (experts_lists sameVariances sameSupport).2.2
  have weights : ∀ expert ∈ experts means variances support, 0 ≤ expert.weight := by
    intro expert member
    exact nonnegative _ (atSupport ▸ List.mem_map_of_mem member)
  have weighted : 0 < totalWeight (experts means variances support) := by
    rw [totalWeight, atSupport]
    exact positive
  rcases aggregateExperts_within floor weights weighted precise with ⟨value, returned, within⟩
  rw [gpoeAggregate_normalized floor sameVariances sameSupport positive normalized, returned] at aggregated
  exact Except.ok.inj aggregated ▸ within

/-- The estimates at an anchor are within the agents that contribute to them. -/
theorem aggregateAnchor_within {varianceFloor : α} (floor : 0 < varianceFloor) {raw means variances : List α}
    (three : raw.length = 3) (threeMeans : means.length = 3) (threeVariances : variances.length = 3)
    {estimate : AnchorEstimate α} (aggregated : aggregateAnchor varianceFloor raw means variances = .ok estimate) :
    (machineEpsilon ≤ precision varianceFloor (anchorExperts raw means variances) ->
      WithinExperts varianceFloor (anchorExperts raw means variances) (estimate.mean, estimate.variance)) ∧
    ∀ leaveOut < 3, ∃ mean variance, estimate.looMeans[leaveOut]? = some mean ∧
      estimate.looVariances[leaveOut]? = some variance ∧
        (machineEpsilon ≤ precision varianceFloor (otherExperts raw means variances leaveOut) ->
          WithinExperts varianceFloor (otherExperts raw means variances leaveOut) (mean, variance)) := by
  have supportLength : (repairedSupport raw).length = 3 := (repairedSupport_length raw).trans three
  constructor
  · intro precise
    simp only [aggregateAnchor, bind_ok_iff, pure_ok_iff] at aggregated
    rcases aggregated with ⟨beta, normalized, whole, returned, _, _, rfl⟩
    rcases List.length_eq_three.mp three with ⟨a, b, c, rfl⟩
    exact gpoeAggregate_within floor (threeVariances.trans threeMeans.symm) (supportLength.trans threeMeans.symm)
      (repairedSupport_nonnegative _) (repairedSupport_positive a b c) normalized returned precise
  · intro leaveOut inside
    rcases aggregateAnchor_leaveOneOut inside aggregated with ⟨loo, returned, atMean, atVariance⟩
    refine ⟨loo.1, loo.2, atMean, atVariance, ?_⟩
    intro precise
    simp only [leaveOneOut, bind_ok_iff] at returned
    rcases returned with ⟨weights, normalized, returned⟩
    have meansLength := pick_others_length threeMeans inside
    have variancesLength := pick_others_length threeVariances inside
    have otherLength := (otherSupport_length raw (repairedSupport raw) leaveOut).trans
      (pick_others_length supportLength inside)
    exact gpoeAggregate_within floor (variancesLength.trans meansLength.symm) (otherLength.trans meansLength.symm)
      (otherSupport_nonnegative raw (repairedSupport_nonnegative raw) leaveOut)
      (otherSupport_positive inside three) normalized returned precise

/-- Every estimate comes from the columns of its anchor, and is within the
agents that contribute to it. -/
theorem aggregate_within {varianceFloor : α} (floor : 0 < varianceFloor)
    {contributions : List (AgentContribution α)} {estimates : List (AnchorEstimate α)}
    (aggregated : aggregate varianceFloor contributions = .ok estimates) {anchor : Nat}
    {estimate : AnchorEstimate α} (present : estimates[anchor]? = some estimate) :
    ∃ raw means variances, column AgentContribution.anchorSupport contributions anchor = .ok raw ∧
      column AgentContribution.anchorMeans contributions anchor = .ok means ∧
      column AgentContribution.anchorVariances contributions anchor = .ok variances ∧
      (machineEpsilon ≤ precision varianceFloor (anchorExperts raw means variances) ->
        WithinExperts varianceFloor (anchorExperts raw means variances) (estimate.mean, estimate.variance)) ∧
      ∀ leaveOut < 3, ∃ mean variance, estimate.looMeans[leaveOut]? = some mean ∧
        estimate.looVariances[leaveOut]? = some variance ∧
          (machineEpsilon ≤ precision varianceFloor (otherExperts raw means variances leaveOut) ->
            WithinExperts varianceFloor (otherExperts raw means variances leaveOut) (mean, variance)) := by
  rcases aggregate_ok aggregated with ⟨three, anchors, _, converted⟩
  have each := mapM_ok_iff.mp converted
  rcases List.forall₂_iff_get.mp each with ⟨length, values⟩
  rcases List.getElem?_eq_some_iff.mp present with ⟨inside, rfl⟩
  have value := values anchor (length.symm ▸ inside) inside
  simp only [List.get_eq_getElem, List.getElem_range, bind_ok_iff] at value
  rcases value with ⟨raw, rawRead, means, meansRead, variances, variancesRead, returned⟩
  refine ⟨raw, means, variances, rawRead, meansRead, variancesRead, ?_⟩
  exact aggregateAnchor_within floor ((column_getElem? rawRead).1.trans three)
    ((column_getElem? meansRead).1.trans three) ((column_getElem? variancesRead).1.trans three) returned

/-- The generalized product of experts is within the experts that have a
weight, and depends neither on the order of the experts, nor on the scale of
the weights, nor on experts of weight zero.  The estimates at every anchor, of
all agents and with one left out, are within the agents that contribute. -/
theorem product_of_experts_bounded {varianceFloor : α} (floor : 0 < varianceFloor) :
    (forall items : List (Expert α), (∀ expert ∈ items, 0 ≤ expert.weight) -> 0 < totalWeight items ->
      machineEpsilon ≤ precision varianceFloor items ->
        ∃ result, aggregateExperts varianceFloor items = .ok result ∧ WithinExperts varianceFloor items result) ∧
    (forall first second : List (Expert α), first.Perm second ->
      aggregateExperts varianceFloor first = aggregateExperts varianceFloor second) ∧
    (forall (factor : α) (items : List (Expert α)), 0 < factor ->
      aggregateExperts varianceFloor (items.map (Expert.scale factor)) = aggregateExperts varianceFloor items) ∧
    (forall items : List (Expert α),
      aggregateExperts varianceFloor (items.filter fun expert => decide (expert.weight ≠ 0)) =
        aggregateExperts varianceFloor items) ∧
    (forall (contributions : List (AgentContribution α)) (anchors : Nat), Complete contributions anchors ->
      ∃ estimates, aggregate varianceFloor contributions = .ok estimates ∧ estimates.length = anchors) ∧
    forall (contributions : List (AgentContribution α)) (estimates : List (AnchorEstimate α)),
      aggregate varianceFloor contributions = .ok estimates ->
        forall (anchor : Nat) (estimate : AnchorEstimate α), estimates[anchor]? = some estimate ->
          ∃ raw means variances, column AgentContribution.anchorSupport contributions anchor = .ok raw ∧
            column AgentContribution.anchorMeans contributions anchor = .ok means ∧
            column AgentContribution.anchorVariances contributions anchor = .ok variances ∧
            (machineEpsilon ≤ precision varianceFloor (anchorExperts raw means variances) ->
              WithinExperts varianceFloor (anchorExperts raw means variances) (estimate.mean, estimate.variance)) ∧
            ∀ leaveOut < 3, ∃ mean variance, estimate.looMeans[leaveOut]? = some mean ∧
              estimate.looVariances[leaveOut]? = some variance ∧
                (machineEpsilon ≤ precision varianceFloor (otherExperts raw means variances leaveOut) ->
                  WithinExperts varianceFloor (otherExperts raw means variances leaveOut) (mean, variance)) := by
  refine ⟨?_, ?_, ?_, ?_, ?_, ?_⟩
  · intro items nonnegative weighted precise
    exact aggregateExperts_within floor nonnegative weighted precise
  · intro first second permuted
    exact aggregateExperts_perm floor permuted
  · intro factor items positive
    exact aggregateExperts_scale floor positive items
  · intro items
    exact aggregateExperts_drop floor items
  · intro contributions anchors complete
    exact aggregate_complete floor complete
  · intro contributions estimates aggregated anchor estimate present
    exact aggregate_within floor aggregated present

/-- Two experts of equal weight, and three contributions of which two have no
support. -/
theorem product_of_experts_bounded_sample :
    (∃ result, aggregateExperts (1 / 100 : Rat) [⟨1, 1, 1⟩, ⟨3, 2, 1⟩] = .ok result ∧
      WithinExperts (1 / 100) [⟨1, 1, 1⟩, ⟨3, 2, 1⟩] result) ∧
    ∃ estimates, aggregate (1 / 100) (sampleContributions 1) = .ok estimates ∧ estimates.length = 1 := by
  rcases @product_of_experts_bounded Rat _ _ _ (1 / 100) (by norm_num) with ⟨within, _, _, _, complete, _⟩
  constructor
  · exact within [⟨1, 1, 1⟩, ⟨3, 2, 1⟩] (by simp) (by decide +kernel) (by decide +kernel)
  · apply complete
    exact ⟨rfl, by simp [sampleContributions], by simp [sampleContributions], by simp [sampleContributions]⟩

end Worker
end FederatedIot
