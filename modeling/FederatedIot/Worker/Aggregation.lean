import FederatedIot.Foundation.Outcome
import Mathlib.Algebra.Order.BigOperators.Group.List
import Mathlib.Algebra.Order.Field.Basic
import Mathlib.Algebra.Order.Field.Rat
import Mathlib.Tactic.Linarith

namespace FederatedIot
namespace Worker

open Foundation Foundation.Outcome

/-!
# Federated aggregation

The aggregation of three agents' contributions at the public anchors, in exact
arithmetic.  Beside the estimate of all three there is one for every agent in
which its own contribution is left out.  The supports pass through a fallback
before the agent is left out, and through a second one afterwards.
-/

variable {α : Type} [Field α] [LinearOrder α]

inductive AggregationError where
  | valueError (message : String)
  | indexError
  | zeroDivision
deriving DecidableEq, Repr

/-- What an agent hands over, without its representative centers. -/
structure AgentContribution (α : Type) where
  agent : Nat
  anchorMeans : List α
  anchorVariances : List α
  anchorSupport : List α

/-- The estimates at one anchor. -/
structure AnchorEstimate (α : Type) where
  mean : α
  variance : α
  beta : List α
  looMeans : List α
  looVariances : List α

/-- The distance from 1 to the next double. -/
def machineEpsilon : α :=
  1 / 4503599627370496

def divide (left right : α) : Except AggregationError α :=
  if right = 0 then .error .zeroDivision else .ok (left / right)

def normalize (values : List α) : Except AggregationError (List α) :=
  if values.sum ≤ 0 then
    .error (.valueError "Aggregation weights must contain a positive value.")
  else .ok (values.map (· / values.sum))

/-- The generalized product of experts. -/
def gpoeAggregate (means variances beta : List α) (varianceFloor : α) :
    Except AggregationError (α × α) := do
  let weights ← normalize beta
  let guarded := variances.map (max · varianceFloor)
  let shares ← (weights.zip guarded).mapM fun pair => divide pair.1 pair.2
  let variance := max (1 / max shares.sum machineEpsilon) varianceFloor
  let terms ← (weights.zip (means.zip guarded)).mapM fun triple =>
    divide (triple.1 * triple.2.1) triple.2.2
  return (variance * terms.sum, variance)

/-- The first element that no later one is preferred to. -/
def firstBest {β : Type} (preferred : β -> β -> Bool) : List β -> Option β
  | [] => none
  | head :: tail => some (tail.foldl (fun best item => if preferred item best then item else best) head)

/-- The agent of the greatest support, and of several the first. -/
def stableNearestContribution (support : List α) : Option Nat :=
  (firstBest (fun item best => decide (best.1 < item.1) || (decide (item.1 = best.1) && decide (item.2 < best.2)))
    support.zipIdx).map Prod.snd

/-- The support without its negative parts.  When nothing is left, the nearest
agent gets all of it. -/
def repairedSupport (raw : List α) : List α :=
  let support := raw.map (max 0)
  if support.sum ≤ 0 then
    match stableNearestContribution raw with
    | some nearest => support.set nearest 1
    | none => support
  else support

/-- The values at the given positions. -/
def pick {β : Type} (positions : List Nat) (values : List β) : List β :=
  positions.filterMap (values[·]?)

def others (leaveOut : Nat) : List Nat :=
  (List.range 3).filter (· ≠ leaveOut)

/-- Of the agents that are left the one with the least distance, and of several
the first. -/
def nearestOther (raw : List α) (other : List Nat) : Option Nat :=
  firstBest
    (fun item best =>
      let distance := fun index : Nat => 1 - (raw[index]?).getD 0
      decide (distance item < distance best) || (decide (distance item = distance best) && decide (item < best)))
    other

/-- The support of the agents that are left, with a fallback of its own. -/
def otherSupport (raw support : List α) (leaveOut : Nat) : List α :=
  let other := others leaveOut
  let remaining := pick other support
  if remaining.sum ≤ 0 then
    match nearestOther raw other with
    | some nearest => remaining.set (other.idxOf nearest) 1
    | none => remaining
  else remaining

def leaveOneOut (varianceFloor : α) (raw support itemMeans itemVars : List α) (leaveOut : Nat) :
    Except AggregationError (α × α) := do
  let weights ← normalize (otherSupport raw support leaveOut)
  gpoeAggregate (pick (others leaveOut) itemMeans) (pick (others leaveOut) itemVars) weights varianceFloor

def aggregateAnchor (varianceFloor : α) (raw itemMeans itemVars : List α) :
    Except AggregationError (AnchorEstimate α) := do
  let support := repairedSupport raw
  let beta ← normalize support
  let estimate ← gpoeAggregate itemMeans itemVars beta varianceFloor
  let loo ← (List.range 3).mapM (leaveOneOut varianceFloor raw support itemMeans itemVars)
  return {
    mean := estimate.1, variance := estimate.2, beta := beta
    looMeans := loo.map Prod.fst, looVariances := loo.map Prod.snd
  }

/-- One value of every contribution. -/
def column (field : AgentContribution α -> List α) (contributions : List (AgentContribution α))
    (anchor : Nat) : Except AggregationError (List α) :=
  contributions.mapM fun item =>
    match (field item)[anchor]? with
    | some value => .ok value
    | none => .error .indexError

def aggregate (varianceFloor : α) (contributions : List (AgentContribution α)) :
    Except AggregationError (List (AnchorEstimate α)) :=
  match contributions with
  | [first, _, _] =>
      if contributions.any fun item => item.anchorMeans.length ≠ first.anchorMeans.length then
        .error (.valueError "Agent contributions must use the same public anchors.")
      else
        (List.range first.anchorMeans.length).mapM fun anchor => do
          let raw ← column AgentContribution.anchorSupport contributions anchor
          let itemMeans ← column AgentContribution.anchorMeans contributions anchor
          let itemVars ← column AgentContribution.anchorVariances contributions anchor
          aggregateAnchor varianceFloor raw itemMeans itemVars
  | _ => .error (.valueError "S1 aggregation requires exactly three contributions.")

/-! ## The agents that are left -/

/-- The support of two agents on their own. -/
def pairSupport (left right : α) : List α :=
  if max 0 left + max 0 right ≤ 0 then if left < right then [0, 1] else [1, 0]
  else [max 0 left, max 0 right]

omit [Field α] in
theorem stableNearestContribution_three (a b c : α) :
    stableNearestContribution [a, b, c] =
      some (if b ≤ a ∧ c ≤ a then 0 else if c ≤ b then 1 else 2) := by
  simp only [stableNearestContribution, List.zipIdx_cons, List.zipIdx_nil, firstBest, List.foldl_cons,
    List.foldl_nil, Option.map_some]
  congr 1
  rcases lt_or_ge a b with second | second
  · rcases lt_or_ge b c with last | last
    · simp [second, not_le.mpr second, last, not_le.mpr last]
    · simp [second, not_le.mpr second, not_lt.mpr last, last]
  · rcases lt_or_ge a c with last | last
    · simp [not_lt.mpr second, last, not_le.mpr last, not_le.mpr (second.trans_lt last)]
    · simp [not_lt.mpr second, second, not_lt.mpr last, last]

theorem others_eq : others 0 = [1, 2] ∧ others 1 = [0, 2] ∧ others 2 = [0, 1] := by
  decide

/-- Two supports that are both empty fall back to the greater one. -/
theorem pairSupport_of_empty {left right : α} (leftEmpty : left ≤ 0) (rightEmpty : right ≤ 0) :
    pairSupport left right = if left < right then [0, 1] else [1, 0] := by
  rw [pairSupport, max_eq_left leftEmpty, max_eq_left rightEmpty, add_zero, if_pos le_rfl]

theorem pairSupport_of_present {left right : α} (present : 0 < max 0 left + max 0 right) :
    pairSupport left right = [max 0 left, max 0 right] := by
  rw [pairSupport, if_neg (not_le.mpr present)]

/-- The support after the first fallback, when there was something to share. -/
theorem repairedSupport_of_present {raw : List α} (present : 0 < (raw.map (max 0)).sum) :
    repairedSupport raw = raw.map (max 0) := by
  simp only [repairedSupport]
  rw [if_neg (not_le.mpr present)]

theorem repairedSupport_of_empty {a b c : α} (aEmpty : a ≤ 0) (bEmpty : b ≤ 0) (cEmpty : c ≤ 0) :
    repairedSupport [a, b, c] =
      if b ≤ a ∧ c ≤ a then [1, 0, 0] else if c ≤ b then [0, 1, 0] else [0, 0, 1] := by
  have sum : ([a, b, c].map (max 0)).sum ≤ 0 := by
    simp [max_eq_left aEmpty, max_eq_left bEmpty, max_eq_left cEmpty]
  simp only [repairedSupport]
  rw [if_pos sum, stableNearestContribution_three]
  simp only [List.map_cons, List.map_nil, max_eq_left aEmpty, max_eq_left bEmpty, max_eq_left cEmpty]
  split
  · rfl
  · split <;> rfl

/-- What the two agents kept through the first fallback they keep. -/
theorem otherSupport_of_kept {raw support : List α} {leaveOut : Nat} {left right : α}
    (kept : pick (others leaveOut) support = [left, right]) (present : 0 < left + right) :
    otherSupport raw support leaveOut = [left, right] := by
  have sum : ¬ [left, right].sum ≤ 0 := by
    rw [List.sum_cons, List.sum_singleton]
    exact not_le.mpr present
  simp only [otherSupport]
  rw [kept, if_neg sum]

variable [IsStrictOrderedRing α]

theorem nearestOther_pair {raw : List α} {first second : Nat} {left right : α} (ordered : first < second)
    (atFirst : raw[first]? = some left) (atSecond : raw[second]? = some right) :
    nearestOther raw [first, second] = some (if left < right then second else first) := by
  simp only [nearestOther, firstBest, List.foldl_cons, List.foldl_nil, atFirst, atSecond,
    Option.getD_some, sub_lt_sub_iff_left, sub_right_inj, not_lt.mpr ordered.le, decide_false,
    Bool.and_false, Bool.or_false, decide_eq_true_eq]

theorem empty_of_sum {left right : α} (sum : max 0 left + max 0 right ≤ 0) : left ≤ 0 ∧ right ≤ 0 := by
  have leftNonneg : 0 ≤ max 0 left := le_max_left 0 left
  have rightNonneg : 0 ≤ max 0 right := le_max_left 0 right
  constructor
  · exact (le_max_right 0 left).trans (by linarith)
  · exact (le_max_right 0 right).trans (by linarith)

/-- When the two agents kept nothing, the greater one gets all. -/
theorem otherSupport_of_nothing {raw support : List α} {leaveOut first second : Nat} {left right : α}
    (pair : others leaveOut = [first, second]) (ordered : first < second)
    (kept : pick (others leaveOut) support = [0, 0])
    (atFirst : raw[first]? = some left) (atSecond : raw[second]? = some right) :
    otherSupport raw support leaveOut = if left < right then [0, 1] else [1, 0] := by
  have sum : ([0, 0] : List α).sum ≤ 0 := by simp
  simp only [otherSupport]
  rw [kept, if_pos sum, pair, nearestOther_pair ordered atFirst atSecond]
  by_cases less : left < right
  · simp [less, ordered.ne]
  · simp [less]

/-- Whatever the support of the agent that is left out, the others have the
support that they have as a pair. -/
theorem otherSupport_three (a b c : α) :
    otherSupport [a, b, c] (repairedSupport [a, b, c]) 0 = pairSupport b c ∧
      otherSupport [a, b, c] (repairedSupport [a, b, c]) 1 = pairSupport a c ∧
        otherSupport [a, b, c] (repairedSupport [a, b, c]) 2 = pairSupport a b := by
  have aNonneg : 0 ≤ max 0 a := le_max_left 0 a
  have bNonneg : 0 ≤ max 0 b := le_max_left 0 b
  have cNonneg : 0 ≤ max 0 c := le_max_left 0 c
  rcases others_eq with ⟨others0, others1, others2⟩
  by_cases total : max 0 a + (max 0 b + max 0 c) ≤ 0
  · -- the first fallback runs, and what it chose is what the pair would choose
    rcases @empty_of_sum α _ _ _ b c (by linarith) with ⟨bEmpty, cEmpty⟩
    rcases @empty_of_sum α _ _ _ a c (by linarith) with ⟨aEmpty, _⟩
    rw [repairedSupport_of_empty aEmpty bEmpty cEmpty, pairSupport_of_empty bEmpty cEmpty,
      pairSupport_of_empty aEmpty cEmpty, pairSupport_of_empty aEmpty bEmpty]
    split
    · next greatest =>
        refine ⟨otherSupport_of_nothing others0 (by decide) (by simp [pick, others0]) rfl rfl, ?_, ?_⟩
        · rw [if_neg (not_lt.mpr greatest.2)]
          exact otherSupport_of_kept (by simp [pick, others1]) (by simp)
        · rw [if_neg (not_lt.mpr greatest.1)]
          exact otherSupport_of_kept (by simp [pick, others2]) (by simp)
    · next notFirst =>
        split
        · next second =>
            have less : a < b := by
              by_contra notLess
              exact notFirst ⟨not_lt.mp notLess, second.trans (not_lt.mp notLess)⟩
            refine ⟨?_, otherSupport_of_nothing others1 (by decide) (by simp [pick, others1]) rfl rfl, ?_⟩
            · rw [if_neg (not_lt.mpr second)]
              exact otherSupport_of_kept (by simp [pick, others0]) (by simp)
            · rw [if_pos less]
              exact otherSupport_of_kept (by simp [pick, others2]) (by simp)
        · next third =>
            have bLess : b < c := not_le.mp third
            have aLess : a < c := by
              by_contra notLess
              exact notFirst ⟨bLess.le.trans (not_lt.mp notLess), not_lt.mp notLess⟩
            refine ⟨?_, ?_, otherSupport_of_nothing others2 (by decide) (by simp [pick, others2]) rfl rfl⟩
            · rw [if_pos bLess]
              exact otherSupport_of_kept (by simp [pick, others0]) (by simp)
            · rw [if_pos aLess]
              exact otherSupport_of_kept (by simp [pick, others1]) (by simp)
  · -- the first fallback does not run, so a pair keeps its support or falls back on its own
    have present : 0 < ([a, b, c].map (max 0)).sum := by
      simpa using not_le.mp total
    have keeps {leaveOut first second : Nat} {left right : α} (pair : others leaveOut = [first, second])
        (ordered : first < second) (atFirst : [a, b, c][first]? = some left)
        (atSecond : [a, b, c][second]? = some right) :
        otherSupport [a, b, c] ([a, b, c].map (max 0)) leaveOut = pairSupport left right := by
      have kept : pick (others leaveOut) ([a, b, c].map (max 0)) = [max 0 left, max 0 right] := by
        rw [pick, pair, List.filterMap_cons, List.filterMap_cons, List.getElem?_map, List.getElem?_map,
          atFirst, atSecond]
        rfl
      by_cases none : max 0 left + max 0 right ≤ 0
      · rcases empty_of_sum none with ⟨leftEmpty, rightEmpty⟩
        rw [max_eq_left leftEmpty, max_eq_left rightEmpty] at kept
        rw [pairSupport_of_empty leftEmpty rightEmpty]
        exact otherSupport_of_nothing pair ordered kept atFirst atSecond
      · rw [pairSupport_of_present (not_le.mp none)]
        exact otherSupport_of_kept kept (not_le.mp none)
    rw [repairedSupport_of_present present]
    exact ⟨keeps others0 (by decide) rfl rfl, keeps others1 (by decide) rfl rfl,
      keeps others2 (by decide) rfl rfl⟩

/-! ## Noninterference -/

/-- Two lists of one length that agree except at one position. -/
structure AgreeOff {β : Type} (position : Nat) (first second : List β) : Prop where
  length : first.length = second.length
  agree : forall index, index ≠ position -> first[index]? = second[index]?

omit [Field α] [LinearOrder α] [IsStrictOrderedRing α] in
theorem AgreeOff.pick {leaveOut : Nat} {first second : List α} (agrees : AgreeOff leaveOut first second) :
    pick (others leaveOut) first = pick (others leaveOut) second := by
  apply List.filterMap_congr
  intro index member
  have other := (List.mem_filter.mp member).2
  exact agrees.agree index (by simpa using other)

/-- The support of the others does not depend on the support of the agent that
is left out. -/
theorem otherSupport_agree {leaveOut : Nat} (inside : leaveOut < 3) {first second : List α}
    (three : first.length = 3) (agrees : AgreeOff leaveOut first second) :
    otherSupport first (repairedSupport first) leaveOut =
      otherSupport second (repairedSupport second) leaveOut := by
  rcases List.length_eq_three.mp three with ⟨a, b, c, rfl⟩
  rcases List.length_eq_three.mp (agrees.length.symm.trans three) with ⟨x, y, z, rfl⟩
  rcases otherSupport_three a b c with ⟨first0, first1, first2⟩
  rcases otherSupport_three x y z with ⟨second0, second1, second2⟩
  have at0 := agrees.agree 0
  have at1 := agrees.agree 1
  have at2 := agrees.agree 2
  simp only [List.getElem?_cons_zero, List.getElem?_cons_succ, Option.some.injEq] at at0 at1 at2
  match leaveOut, inside with
  | 0, _ => rw [first0, second0, at1 (by decide), at2 (by decide)]
  | 1, _ => rw [first1, second1, at0 (by decide), at2 (by decide)]
  | 2, _ => rw [first2, second2, at0 (by decide), at1 (by decide)]

theorem leaveOneOut_agree {varianceFloor : α} {leaveOut : Nat} (inside : leaveOut < 3)
    {raw raw' means means' vars vars' : List α} (three : raw.length = 3)
    (rawAgree : AgreeOff leaveOut raw raw') (meansAgree : AgreeOff leaveOut means means')
    (varsAgree : AgreeOff leaveOut vars vars') :
    leaveOneOut varianceFloor raw (repairedSupport raw) means vars leaveOut =
      leaveOneOut varianceFloor raw' (repairedSupport raw') means' vars' leaveOut := by
  simp only [leaveOneOut]
  rw [otherSupport_agree inside three rawAgree, meansAgree.pick, varsAgree.pick]

omit [IsStrictOrderedRing α] in
/-- What an estimate says about the agent that is left out. -/
theorem aggregateAnchor_leaveOneOut {varianceFloor : α} {leaveOut : Nat} (inside : leaveOut < 3)
    {raw means vars : List α} {estimate : AnchorEstimate α}
    (aggregated : aggregateAnchor varianceFloor raw means vars = .ok estimate) :
    ∃ loo, leaveOneOut varianceFloor raw (repairedSupport raw) means vars leaveOut = .ok loo ∧
      estimate.looMeans[leaveOut]? = some loo.1 ∧ estimate.looVariances[leaveOut]? = some loo.2 := by
  simp only [aggregateAnchor, bind_ok_iff, pure_ok_iff] at aggregated
  rcases aggregated with ⟨beta, _, whole, _, loo, converted, rfl⟩
  have each := mapM_ok_iff.mp converted
  rcases List.forall₂_iff_get.mp each with ⟨length, values⟩
  have within : leaveOut < loo.length := by
    rw [← length, List.length_range]
    exact inside
  have value := values leaveOut (by rwa [List.length_range]) within
  simp only [List.get_eq_getElem, List.getElem_range] at value
  refine ⟨loo[leaveOut], value, ?_, ?_⟩
  · rw [List.getElem?_map, List.getElem?_eq_getElem within, Option.map_some]
  · rw [List.getElem?_map, List.getElem?_eq_getElem within, Option.map_some]

omit [Field α] [LinearOrder α] [IsStrictOrderedRing α] in
theorem column_getElem? {field : AgentContribution α -> List α}
    {contributions : List (AgentContribution α)} {anchor : Nat} {values : List α}
    (read : column field contributions anchor = .ok values) :
    values.length = contributions.length ∧
      forall index : Nat, values[index]? = (contributions[index]?.map field).bind fun column => column[anchor]? := by
  have each := mapM_ok_iff.mp read
  clear read
  induction each with
  | nil => exact ⟨rfl, fun index => by simp⟩
  | cons headRead _ inductionHypothesis =>
      refine ⟨congrArg (· + 1) inductionHypothesis.1, ?_⟩
      rintro (_ | index)
      · simp only [List.getElem?_cons_zero, Option.map_some, Option.bind_some]
        split at headRead
        · next present => rw [present, Except.ok.inj headRead]
        · cases headRead
      · simpa only [List.getElem?_cons_succ] using inductionHypothesis.2 index

/-- Two triples of contributions agree except in one agent's anchor means,
variances and supports. -/
structure AgreeOnOthers (leaveOut : Nat) (first second : List (AgentContribution α)) : Prop where
  means : AgreeOff leaveOut (first.map AgentContribution.anchorMeans) (second.map AgentContribution.anchorMeans)
  variances : AgreeOff leaveOut (first.map AgentContribution.anchorVariances)
    (second.map AgentContribution.anchorVariances)
  support : AgreeOff leaveOut (first.map AgentContribution.anchorSupport)
    (second.map AgentContribution.anchorSupport)

omit [Field α] [LinearOrder α] [IsStrictOrderedRing α] in
theorem column_agree {field : AgentContribution α -> List α} {leaveOut anchor : Nat}
    {first second : List (AgentContribution α)} {values values' : List α}
    (agrees : AgreeOff leaveOut (first.map field) (second.map field))
    (firstRead : column field first anchor = .ok values)
    (secondRead : column field second anchor = .ok values') : AgreeOff leaveOut values values' := by
  rcases column_getElem? firstRead with ⟨firstLength, firstValues⟩
  rcases column_getElem? secondRead with ⟨secondLength, secondValues⟩
  have length := agrees.length
  rw [List.length_map, List.length_map] at length
  refine ⟨by rw [firstLength, secondLength, length], ?_⟩
  intro index other
  have same := agrees.agree index other
  rw [List.getElem?_map, List.getElem?_map] at same
  rw [firstValues, secondValues, same]

omit [IsStrictOrderedRing α] in
/-- An aggregation has three contributions with one number of anchors, and one
estimate for every anchor. -/
theorem aggregate_ok {varianceFloor : α} {contributions : List (AgentContribution α)}
    {estimates : List (AnchorEstimate α)} (aggregated : aggregate varianceFloor contributions = .ok estimates) :
    contributions.length = 3 ∧ ∃ anchors,
      (∀ means ∈ contributions.map AgentContribution.anchorMeans, means.length = anchors) ∧
        (List.range anchors).mapM (fun anchor => do
          let raw ← column AgentContribution.anchorSupport contributions anchor
          let itemMeans ← column AgentContribution.anchorMeans contributions anchor
          let itemVars ← column AgentContribution.anchorVariances contributions anchor
          aggregateAnchor varianceFloor raw itemMeans itemVars) = .ok estimates := by
  unfold aggregate at aggregated
  split at aggregated
  · next first second third =>
      split at aggregated
      · cases aggregated
      · next alike =>
          refine ⟨rfl, first.anchorMeans.length, ?_, aggregated⟩
          intro means member
          rcases List.mem_map.mp member with ⟨item, itemMember, rfl⟩
          by_contra different
          exact alike (List.any_eq_true.mpr ⟨item, itemMember, by simpa using different⟩)
  · cases aggregated

/-- The left out agent has no part in what is read from its position. -/
theorem aggregate_agree {varianceFloor : α} {leaveOut : Nat} (inside : leaveOut < 3)
    {first second : List (AgentContribution α)} (agrees : AgreeOnOthers leaveOut first second)
    {estimates estimates' : List (AnchorEstimate α)}
    (firstReturned : aggregate varianceFloor first = .ok estimates)
    (secondReturned : aggregate varianceFloor second = .ok estimates') :
    estimates.map (fun estimate => (estimate.looMeans[leaveOut]?, estimate.looVariances[leaveOut]?)) =
      estimates'.map fun estimate => (estimate.looMeans[leaveOut]?, estimate.looVariances[leaveOut]?) := by
  rcases aggregate_ok firstReturned with ⟨three, anchors, lengths, converted⟩
  rcases aggregate_ok secondReturned with ⟨_, anchors', lengths', converted'⟩
  have sameAnchors : anchors' = anchors := by
    -- an agent that is not left out has the same means in both
    have other : ∃ index, index ≠ leaveOut ∧ index < 3 := by
      by_cases zero : leaveOut = 0
      · exact ⟨1, by omega, by decide⟩
      · exact ⟨0, by omega, by decide⟩
    rcases other with ⟨index, different, within⟩
    have present := List.getElem?_eq_getElem
      (show index < (first.map AgentContribution.anchorMeans).length by rwa [List.length_map, three])
    have present' := (agrees.means.agree index different).symm.trans present
    exact (lengths' _ (List.mem_of_getElem? present')).symm.trans (lengths _ (List.mem_of_getElem? present))
  rw [sameAnchors] at converted'
  refine mapM_agree ?_ converted converted'
  intro anchor left right leftRead rightRead
  simp only [bind_ok_iff] at leftRead rightRead
  rcases leftRead with ⟨raw, rawRead, means, meansRead, vars, varsRead, leftAggregated⟩
  rcases rightRead with ⟨raw', rawRead', means', meansRead', vars', varsRead', rightAggregated⟩
  rcases aggregateAnchor_leaveOneOut inside leftAggregated with ⟨loo, looRead, meanAt, varianceAt⟩
  rcases aggregateAnchor_leaveOneOut inside rightAggregated with ⟨loo', looRead', meanAt', varianceAt'⟩
  have same := @leaveOneOut_agree _ _ _ _ varianceFloor _ inside _ _ _ _ _ _
    ((column_getElem? rawRead).1.trans three) (column_agree agrees.support rawRead rawRead')
    (column_agree agrees.means meansRead meansRead') (column_agree agrees.variances varsRead varsRead')
  rw [looRead, looRead'] at same
  rw [meanAt, varianceAt, meanAt', varianceAt', Except.ok.inj same]

/-! ## Aggregation returns -/

omit [IsStrictOrderedRing α] in
theorem gpoeAggregate_total {means variances beta : List α} {varianceFloor : α} (floor : 0 < varianceFloor)
    (weighted : 0 < beta.sum) : ∃ estimate, gpoeAggregate means variances beta varianceFloor = .ok estimate := by
  have guardedPositive : ∀ value ∈ variances.map (max · varianceFloor), value ≠ 0 := by
    intro value member
    rcases List.mem_map.mp member with ⟨variance, _, rfl⟩
    exact (floor.trans_le (le_max_right variance varianceFloor)).ne'
  have divides {left right : α} (nonzero : right ≠ 0) : ∃ result, divide left right = .ok result :=
    ⟨left / right, if_neg nonzero⟩
  rcases mapM_total fun pair (member : pair ∈ (beta.map (· / beta.sum)).zip (variances.map (max · varianceFloor))) =>
    @divides pair.1 pair.2 (guardedPositive _ (List.of_mem_zip member).2) with ⟨shares, sharesRead⟩
  rcases mapM_total fun triple (member : triple ∈ (beta.map (· / beta.sum)).zip
      (means.zip (variances.map (max · varianceFloor)))) =>
    @divides (triple.1 * triple.2.1) triple.2.2
      (guardedPositive _ (List.of_mem_zip (List.of_mem_zip member).2).2) with ⟨terms, termsRead⟩
  have weights : normalize beta = .ok (beta.map (· / beta.sum)) := if_neg (not_le.mpr weighted)
  simp only [gpoeAggregate]
  rw [weights, ok_bind, sharesRead, ok_bind, termsRead, ok_bind]
  exact ⟨_, rfl⟩

omit [LinearOrder α] [IsStrictOrderedRing α] in
theorem sum_map_div (values : List α) (total : α) : (values.map (· / total)).sum = values.sum / total := by
  induction values with
  | nil => simp
  | cons head tail inductionHypothesis =>
      rw [List.map_cons, List.sum_cons, List.sum_cons, inductionHypothesis, add_div]

omit [IsStrictOrderedRing α] in
/-- Weights that do not vanish are normalized to weights of sum 1. -/
theorem normalize_of_positive {values : List α} (positive : 0 < values.sum) :
    ∃ weights, normalize values = .ok weights ∧ weights.sum = 1 :=
  ⟨values.map (· / values.sum), if_neg (not_le.mpr positive), by
    rw [sum_map_div, div_self positive.ne']⟩

/-- After the fallback somebody has support. -/
theorem repairedSupport_positive (a b c : α) : 0 < (repairedSupport [a, b, c]).sum := by
  by_cases present : 0 < ([a, b, c].map (max 0)).sum
  · rwa [repairedSupport_of_present present]
  · have empty {x : α} (member : x ∈ [a, b, c]) : x ≤ 0 := by
      have nonnegative : ∀ y ∈ [a, b, c].map (max 0), 0 ≤ y := by
        intro y inside
        rcases List.mem_map.mp inside with ⟨z, _, rfl⟩
        exact le_max_left 0 z
      have bound := List.single_le_sum nonnegative _ (List.mem_map_of_mem member)
      exact (le_max_right 0 x).trans (bound.trans (not_lt.mp present))
    rw [repairedSupport_of_empty (empty (by simp)) (empty (by simp)) (empty (by simp))]
    split
    · simp
    · split <;> simp

theorem pairSupport_positive (left right : α) : 0 < (pairSupport left right).sum := by
  by_cases none : max 0 left + max 0 right ≤ 0
  · rcases empty_of_sum none with ⟨leftEmpty, rightEmpty⟩
    rw [pairSupport_of_empty leftEmpty rightEmpty]
    split <;> simp
  · rw [pairSupport_of_present (not_le.mp none)]
    simpa using not_le.mp none

/-- After both fallbacks somebody who is left has support. -/
theorem otherSupport_positive {leaveOut : Nat} (inside : leaveOut < 3) {raw : List α} (three : raw.length = 3) :
    0 < (otherSupport raw (repairedSupport raw) leaveOut).sum := by
  rcases List.length_eq_three.mp three with ⟨a, b, c, rfl⟩
  rcases otherSupport_three a b c with ⟨at0, at1, at2⟩
  match leaveOut, inside with
  | 0, _ => exact at0 ▸ pairSupport_positive b c
  | 1, _ => exact at1 ▸ pairSupport_positive a c
  | 2, _ => exact at2 ▸ pairSupport_positive a b

theorem leaveOneOut_total {varianceFloor : α} (floor : 0 < varianceFloor) {leaveOut : Nat}
    (inside : leaveOut < 3) {raw : List α} (three : raw.length = 3) (means vars : List α) :
    ∃ estimate, leaveOneOut varianceFloor raw (repairedSupport raw) means vars leaveOut = .ok estimate := by
  rcases normalize_of_positive (otherSupport_positive inside three) with ⟨weights, normalized, sum⟩
  rw [leaveOneOut, normalized, ok_bind]
  exact gpoeAggregate_total floor (by rw [sum]; exact one_pos)

theorem aggregateAnchor_total {varianceFloor : α} (floor : 0 < varianceFloor) {raw : List α}
    (three : raw.length = 3) (means vars : List α) :
    ∃ estimate, aggregateAnchor varianceFloor raw means vars = .ok estimate := by
  rcases List.length_eq_three.mp three with ⟨a, b, c, rfl⟩
  rcases normalize_of_positive (repairedSupport_positive a b c) with ⟨beta, normalized, sum⟩
  rcases @gpoeAggregate_total _ _ _ means vars beta varianceFloor floor (by rw [sum]; exact one_pos) with
    ⟨whole, aggregated⟩
  rcases mapM_total fun leaveOut (member : leaveOut ∈ List.range 3) =>
    leaveOneOut_total floor (List.mem_range.mp member) three means vars with ⟨loo, looRead⟩
  simp only [aggregateAnchor]
  rw [normalized, ok_bind, aggregated, ok_bind, looRead, ok_bind]
  exact ⟨_, rfl⟩

/-- Three contributions with one value of each kind for every anchor. -/
structure Complete (contributions : List (AgentContribution α)) (anchors : Nat) : Prop where
  three : contributions.length = 3
  means : ∀ item ∈ contributions, item.anchorMeans.length = anchors
  variances : ∀ item ∈ contributions, item.anchorVariances.length = anchors
  support : ∀ item ∈ contributions, item.anchorSupport.length = anchors

omit [Field α] [LinearOrder α] [IsStrictOrderedRing α] in
theorem column_total {field : AgentContribution α -> List α} {contributions : List (AgentContribution α)}
    {anchors anchor : Nat} (lengths : ∀ item ∈ contributions, (field item).length = anchors)
    (inside : anchor < anchors) : ∃ values, column field contributions anchor = .ok values := by
  apply mapM_total
  intro item member
  have within : anchor < (field item).length := by rwa [lengths item member]
  exact ⟨(field item)[anchor], by rw [List.getElem?_eq_getElem within]⟩

theorem aggregate_total {varianceFloor : α} (floor : 0 < varianceFloor)
    {contributions : List (AgentContribution α)} {anchors : Nat} (complete : Complete contributions anchors) :
    ∃ estimates, aggregate varianceFloor contributions = .ok estimates := by
  rcases List.length_eq_three.mp complete.three with ⟨first, second, third, rfl⟩
  have alike : ([first, second, third].any fun item =>
      item.anchorMeans.length ≠ first.anchorMeans.length) = false := by
    rw [List.any_eq_false]
    intro item member
    simp [complete.means item member, complete.means first List.mem_cons_self]
  simp only [aggregate]
  rw [alike]
  apply mapM_total
  intro anchor member
  have inside : anchor < anchors := by
    rw [← complete.means first List.mem_cons_self]
    exact List.mem_range.mp member
  rcases column_total complete.support inside with ⟨raw, rawRead⟩
  rcases column_total complete.means inside with ⟨means, meansRead⟩
  rcases column_total complete.variances inside with ⟨vars, varsRead⟩
  rw [rawRead, ok_bind, meansRead, ok_bind, varsRead, ok_bind]
  exact aggregateAnchor_total floor ((column_getElem? rawRead).1.trans complete.three) means vars

/-- The aggregation of complete contributions returns an estimate for every anchor. -/
theorem aggregate_complete {varianceFloor : α} (floor : 0 < varianceFloor)
    {contributions : List (AgentContribution α)} {anchors : Nat} (complete : Complete contributions anchors) :
    ∃ estimates, aggregate varianceFloor contributions = .ok estimates ∧ estimates.length = anchors := by
  rcases aggregate_total floor complete with ⟨estimates, returned⟩
  rcases aggregate_ok returned with ⟨_, count, lengths, converted⟩
  refine ⟨estimates, returned, ?_⟩
  rcases List.length_eq_three.mp complete.three with ⟨x, y, z, triple⟩
  have counted : count = anchors := by
    have member : x ∈ contributions := by simp [triple]
    exact (lengths _ (List.mem_map_of_mem member)).symm.trans (complete.means x member)
  rw [← (mapM_ok_iff.mp converted).length_eq, List.length_range, counted]

/-- When two triples of contributions agree on the other agents, the estimates
in which an agent is left out agree at every anchor.  With a positive floor the
aggregation of complete contributions returns. -/
theorem leave_one_out_noninterference {varianceFloor : α} {leaveOut : Nat} (inside : leaveOut < 3)
    {first second : List (AgentContribution α)} (agrees : AgreeOnOthers leaveOut first second) :
    (forall estimates estimates', aggregate varianceFloor first = .ok estimates ->
      aggregate varianceFloor second = .ok estimates' ->
        estimates.map (fun estimate => estimate.looMeans[leaveOut]?) =
            estimates'.map (fun estimate => estimate.looMeans[leaveOut]?) ∧
          estimates.map (fun estimate => estimate.looVariances[leaveOut]?) =
            estimates'.map fun estimate => estimate.looVariances[leaveOut]?) ∧
      forall anchors, 0 < varianceFloor -> Complete first anchors ->
        ∃ estimates, aggregate varianceFloor first = .ok estimates ∧ estimates.length = anchors := by
  constructor
  · intro estimates estimates' firstReturned secondReturned
    have same := aggregate_agree inside agrees firstReturned secondReturned
    have means := congrArg (List.map Prod.fst) same
    have variances := congrArg (List.map Prod.snd) same
    rw [List.map_map, List.map_map] at means variances
    exact ⟨means, variances⟩
  · intro anchors floor complete
    exact aggregate_complete floor complete

/-- Two rows of supports that differ for the first agent only, with the other
two at zero. -/
def sampleContributions (support : Rat) : List (AgentContribution Rat) :=
  [{ agent := 1, anchorMeans := [support], anchorVariances := [1 + support], anchorSupport := [support] },
    { agent := 2, anchorMeans := [3], anchorVariances := [2], anchorSupport := [0] },
    { agent := 3, anchorMeans := [5], anchorVariances := [4], anchorSupport := [0] }]

theorem leave_one_out_noninterference_sample :
    ∃ estimates estimates', aggregate (1 / 100) (sampleContributions 1) = .ok estimates ∧
      aggregate (1 / 100) (sampleContributions 0) = .ok estimates' ∧
        estimates.map (fun estimate => estimate.looMeans[0]?) =
          estimates'.map fun estimate => estimate.looMeans[0]? := by
  have agrees : AgreeOnOthers 0 (sampleContributions 1) (sampleContributions 0) := by
    refine ⟨⟨rfl, ?_⟩, ⟨rfl, ?_⟩, ⟨rfl, ?_⟩⟩ <;> rintro (_ | index) other
    · exact absurd rfl other
    · rfl
    · exact absurd rfl other
    · rfl
    · exact absurd rfl other
    · rfl
  have complete (support : Rat) : Complete (sampleContributions support) 1 :=
    ⟨rfl, by simp [sampleContributions], by simp [sampleContributions], by simp [sampleContributions]⟩
  have forth := @leave_one_out_noninterference Rat _ _ _ (1 / 100) 0 (by decide) _ _ agrees
  have back := @leave_one_out_noninterference Rat _ _ _ (1 / 100) 0 (by decide)
    (sampleContributions 0) (sampleContributions 0) ⟨⟨rfl, fun _ _ => rfl⟩, ⟨rfl, fun _ _ => rfl⟩, ⟨rfl, fun _ _ => rfl⟩⟩
  rcases forth.2 1 (by norm_num) (complete 1) with ⟨estimates, returned, _⟩
  rcases back.2 1 (by norm_num) (complete 0) with ⟨estimates', returned', _⟩
  exact ⟨estimates, estimates', returned, returned', (forth.1 _ _ returned returned').1⟩

end Worker
end FederatedIot
