import FederatedIot.Worker.ClusterCost
import FederatedIot.Worker.Pipeline

namespace FederatedIot
namespace Worker
namespace Simulation

open Foundation Foundation.Outcome Foundation.Positions Foundation.Clusters

/-!
# Representative points

The boundary points are chosen as the clustering chooses its initial centers: each is the
point that is farthest from those before it.  No as many places cover the points within less
than half their radius, a quarter of it in squared distances.
-/

variable {K : Type} [Field K] [LinearOrder K] {points : List (List K)} {state next : Growing K} {width : Nat}

/-! ## Centers that are apart -/

/-- The centers are as far from each other as any point is from the nearest of them. -/
def Apart (points : List (List K)) (centers : List (List K)) : Prop :=
  ∀ point ∈ points, centers.Pairwise fun left right => toNearest centers point ≤ squaredDistance left right

/-- The next center is the point that is farthest from the others. -/
theorem growOnce_farthest (grown : Grown points state) (step : growOnce points state = .ok next) :
    exists index farthest, farthestIndex state.2 = .ok index ∧ points[index]? = some farthest ∧
      next.1 = state.1 ++ [farthest] ∧ ∀ point ∈ points, toNearest state.1 point ≤ toNearest state.1 farthest := by
  simp only [growOnce, bind_ok_iff, pure_ok_iff] at step
  rcases step with ⟨index, found, farthest, read, rfl⟩
  have atIndex := readAt_ok_iff.mp read
  have nonempty : state.2 ≠ [] := by
    rw [grown.distances]
    exact fun empty => List.ne_nil_of_mem (List.mem_of_getElem? atIndex) (List.map_eq_nil_iff.mp empty)
  rcases farthestIndex_ok nonempty with ⟨other, value, otherFound, atOther, bound⟩
  rw [found] at otherFound
  cases otherFound
  rw [grown.distances, List.getElem?_map, atIndex] at atOther
  cases atOther
  refine ⟨index, farthest, found, atIndex, rfl, fun point inside => bound _ ?_⟩
  rw [grown.distances]
  exact List.mem_map_of_mem inside

theorem growOnce_apart (grown : Grown points state) (apart : Apart points state.1)
    (step : growOnce points state = .ok next) : Apart points next.1 := by
  rcases growOnce_farthest grown step with ⟨_, farthest, _, _, added, bound⟩
  intro point inside
  have nearer : toNearest next.1 point ≤ toNearest state.1 point := by
    rw [added, toNearest_concat grown.present]
    exact min_le_left _ _
  rw [added] at nearer ⊢
  rw [List.pairwise_append]
  refine ⟨(apart point inside).imp nearer.trans, List.pairwise_singleton _ _, fun center listed last isLast => ?_⟩
  rw [List.mem_singleton.mp isLast, squaredDistance_comm]
  exact nearer.trans ((bound point inside).trans (toNearest_le listed farthest))

variable [IsStrictOrderedRing K]

theorem growWhile_apart (uniform : UniformPoints points width) (grown : Grown points state) (apart : Apart points state.1)
    {count fuel : Nat} (run : growWhile points count fuel state = .ok next) : Grown points next ∧ Apart points next.1 := by
  induction fuel generalizing state with
  | zero =>
      cases run
      exact ⟨grown, apart⟩
  | succ fuel inductionHypothesis =>
      rw [growWhile] at run
      by_cases missing : state.1.length < count
      · rw [if_pos missing] at run
        rcases growOnce_ok uniform grown with ⟨middle, step, middleGrown, _⟩
        rw [step, ok_bind] at run
        exact inductionHypothesis middleGrown (growOnce_apart grown apart step) run
      · rw [if_neg missing] at run
        cases run
        exact ⟨grown, apart⟩

/-- The initial centers of a clustering are apart. -/
theorem initialCenters_apart (uniform : UniformPoints points width) {count : Nat} {seed : Int} {centers : List (List K)}
    (drawn : initialCenters false points count seed = .ok centers) :
    centers ≠ [] ∧ (∀ center ∈ centers, center ∈ points) ∧ Apart points centers := by
  simp only [initialCenters, bind_ok_iff, pure_ok_iff] at drawn
  rcases drawn with ⟨first, _, center, read, final, run, rfl⟩
  rw [growCenters, if_neg Bool.false_ne_true] at run
  have start := grown_start (List.mem_of_getElem? (readAt_ok_iff.mp read))
  rcases growWhile_apart uniform start (fun point _ => List.pairwise_singleton _ _) run with ⟨grown, apart⟩
  exact ⟨grown.present, grown.among, apart⟩

/-- No as many places cover the points much better than centers that are apart. -/
theorem apart_covers (widths : ∀ point ∈ points, point.length = width) {centers places : List (List K)} {bound : K}
    (among : ∀ center ∈ centers, center ∈ points) (apart : Apart points centers)
    (placeWidths : ∀ place ∈ places, place.length = width) (present : places ≠ []) (fewer : places.length ≤ centers.length)
    (covered : ∀ point ∈ points, toNearest places point ≤ bound) :
    ∀ point ∈ points, toNearest centers point ≤ 4 * bound := by
  intro point inside
  have all : ∀ other ∈ centers ++ [point], other ∈ points := by
    intro other listed
    rcases List.mem_append.mp listed with isCenter | isPoint
    · exact among other isCenter
    · exact List.mem_singleton.mp isPoint ▸ inside
  refine radius_le_of_covered (fun other listed => widths other (all other listed)) placeWidths present ?_ ?_
    fun other listed => covered other (all other listed)
  · rw [List.length_append, List.length_singleton]
    exact Nat.lt_succ_of_le fewer
  · rw [List.pairwise_append]
    refine ⟨apart point inside, List.pairwise_singleton _ _, fun center listed last isLast => ?_⟩
    rw [List.mem_singleton.mp isLast, squaredDistance_comm]
    exact toNearest_le listed point

/-! ## Boundary points -/

omit [IsStrictOrderedRing K] in
/-- The positions grow as the centers do. -/
theorem chooseOnce_ok {chosen : Choosing K} {centers : List (List K)}
    (read : chosen.1.mapM (readAt AggregationError.indexError points) = .ok centers)
    (step : growOnce points (centers, chosen.2) = .ok next) : exists following, chooseOnce points chosen = .ok following ∧
      following.1.mapM (readAt AggregationError.indexError points) = .ok next.1 ∧ following.2 = next.2 := by
  simp only [growOnce, bind_ok_iff, pure_ok_iff] at step
  rcases step with ⟨index, found, farthest, isFarthest, rfl⟩
  refine ⟨(chosen.1 ++ [index], List.zipWith (fun value point => min value (squaredDistance point farthest)) chosen.2 points),
    ?_, ?_, rfl⟩
  · rw [chooseOnce, found, ok_bind, isFarthest, ok_bind]
    rfl
  · rw [List.mapM_append, read, ok_bind, List.mapM_cons, isFarthest, ok_bind, List.mapM_nil]
    rfl

omit [IsStrictOrderedRing K] in
theorem chooseWhile_ok {count fuel : Nat} {chosen : Choosing K} {centers : List (List K)}
    (read : chosen.1.mapM (readAt AggregationError.indexError points) = .ok centers)
    (run : growWhile points count fuel (centers, chosen.2) = .ok next) : exists final,
      chooseWhile points count fuel chosen = .ok final ∧
        final.1.mapM (readAt AggregationError.indexError points) = .ok next.1 := by
  induction fuel generalizing chosen centers with
  | zero =>
      cases run
      exact ⟨chosen, rfl, read⟩
  | succ fuel inductionHypothesis =>
      have lengths : chosen.1.length = centers.length := (mapM_ok_iff.mp read).length_eq
      rw [growWhile] at run
      by_cases missing : centers.length < count
      · rw [if_pos missing] at run
        rcases bind_ok_iff.mp run with ⟨⟨grownCenters, distances⟩, step, rest⟩
        rcases chooseOnce_ok read step with ⟨following, chose, followingRead, same⟩
        dsimp only at followingRead same
        subst same
        rcases inductionHypothesis followingRead rest with ⟨final, remaining, finalRead⟩
        refine ⟨final, ?_, finalRead⟩
        rw [chooseWhile, if_pos (lengths ▸ missing), chose, ok_bind, remaining]
      · rw [if_neg missing] at run
        cases run
        refine ⟨chosen, ?_, read⟩
        rw [chooseWhile, if_neg (lengths ▸ missing)]

omit [IsStrictOrderedRing K] in
/-- The boundary points are the initial centers of the clustering with the same seed. -/
theorem farthestPointSubset_eq {count seed : Int} (positive : 0 < count) (nonempty : points ≠ []) {centers : List (List K)}
    (drawn : initialCenters false points (min count points.length).toNat seed = .ok centers) :
    farthestPointSubset points count seed = .ok centers := by
  simp only [initialCenters, bind_ok_iff, pure_ok_iff] at drawn
  rcases drawn with ⟨first, isFirst, center, read, final, run, rfl⟩
  rw [growCenters, if_neg Bool.false_ne_true] at run
  have start : [first].mapM (readAt AggregationError.indexError points) = .ok [center] := by
    rw [List.mapM_cons, read, ok_bind, List.mapM_nil]
    rfl
  rcases @chooseWhile_ok K _ _ points final (min count points.length).toNat (min count points.length).toNat
    ([first], points.map fun point => squaredDistance point center) [center] start run with ⟨chosen, chose, same⟩
  rw [farthestPointSubset, if_neg fun wrong => wrong.elim nonempty (not_le.mpr positive)]
  dsimp only
  rw [isFirst, ok_bind, read, ok_bind, chose, ok_bind, same]

/-- The clustering of points of one width. -/
theorem simpleKmeans_ok (uniform : UniformPoints points width) {count : Int} (positive : 0 < count) (iterations seed : Int) :
    exists centers, simpleKmeans false points count iterations seed = .ok centers ∧
      centers.length = min count.toNat points.length ∧ ∀ center ∈ centers, center.length = width := by
  have some : 0 < points.length := List.length_pos_iff.mpr uniform.present
  have size : (min count points.length).toNat = min count.toNat points.length := by omega
  have asked : 0 < (min count points.length).toNat := by omega
  rcases initialCenters_ok uniform asked false seed with ⟨initial, drawn, placed, _⟩
  rcases iterate_ok uniform placed asked iterations.toNat none with ⟨centers, _, run, _, final, _⟩
  refine ⟨centers, ?_, final.size.trans size, fun center listed => (final.within center listed).length⟩
  rw [simpleKmeans, if_neg fun wrong => wrong.elim uniform.present (not_le.mpr positive)]
  dsimp only
  rw [drawn, ok_bind, run]

omit [IsStrictOrderedRing K] [Field K] in
theorem mem_stableUniqueRows {rows : List (List K)} {row : List K} : row ∈ stableUniqueRows rows ↔ row ∈ rows := by
  have each (output : List (List K)) :
      row ∈ rows.foldl (fun output row => if row ∈ output then output else output ++ [row]) output ↔ row ∈ output ∨ row ∈ rows := by
    induction rows generalizing output with
    | nil => exact (or_iff_left List.not_mem_nil).symm
    | cons head tail inductionHypothesis =>
        rw [List.foldl_cons, inductionHypothesis, List.mem_cons]
        by_cases known : head ∈ output
        · rw [if_pos known]
          exact ⟨Or.imp_right Or.inr, fun either => either.elim Or.inl fun later =>
            later.elim (fun same => Or.inl (same ▸ known)) Or.inr⟩
        · rw [if_neg known, List.mem_append, List.mem_singleton, or_assoc]
  exact (each []).trans (or_iff_right List.not_mem_nil)

/-- The boundary points are as many points as asked for, different ones while there are enough, and
no as many places cover the points within less than half the radius. -/
theorem farthest_points_cover (uniform : UniformPoints points width) {count : Int} (positive : 0 < count) (seed : Int) :
    exists chosen, farthestPointSubset points count seed = .ok chosen ∧ chosen.length = min count.toNat points.length ∧
      (∀ point ∈ chosen, point ∈ points) ∧ (min count.toNat points.length ≤ points.dedup.length -> chosen.Nodup) ∧
      forall places bound, (∀ place ∈ places, place.length = width) -> places ≠ [] -> places.length ≤ chosen.length ->
        (∀ point ∈ points, toNearest places point ≤ bound) -> ∀ point ∈ points, toNearest chosen point ≤ 4 * bound := by
  have some : 0 < points.length := List.length_pos_iff.mpr uniform.present
  have size : (min count points.length).toNat = min count.toNat points.length := by omega
  rcases initialCenters_ok uniform (show 0 < (min count points.length).toNat by omega) false seed with
    ⟨centers, drawn, placed, distinct⟩
  rcases initialCenters_apart uniform drawn with ⟨_, among, apart⟩
  exact ⟨centers, farthestPointSubset_eq positive uniform.present drawn, placed.size.trans size, among, size ▸ distinct,
    fun places bound placeWidths present fewer covered =>
      apart_covers uniform.widths among apart placeWidths present fewer covered⟩

theorem farthest_points_cover_line : exists chosen, farthestPointSubset [[0], [1], [(10 : Rat)]] 2 7 = .ok chosen ∧
    chosen.length = 2 ∧ ∀ point ∈ [[0], [1], [(10 : Rat)]], toNearest chosen point ≤ 4 * 1 := by
  rcases farthest_points_cover (show UniformPoints [[0], [1], [(10 : Rat)]] 1 from ⟨by simp, by simp⟩)
    (show (0 : Int) < 2 by decide) 7 with ⟨chosen, made, length, _, _, covers⟩
  refine ⟨chosen, made, length, covers [[0], [10]] 1 (by decide) (by decide) ?_ (by decide +kernel)⟩
  rw [length]
  decide

end Simulation
end Worker
end FederatedIot
