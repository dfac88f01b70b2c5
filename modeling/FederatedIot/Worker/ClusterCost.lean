import FederatedIot.Worker.Clustering

namespace FederatedIot
namespace Worker

open Foundation Foundation.Outcome Foundation.Positions Foundation.Clusters

/-!
# The cost of the clustering

For points of one width the clustering returns.  Every iteration keeps the number
of centers and keeps them within the coordinates of the points, and none makes
the cost grow.
-/

variable {α : Type} [Field α] [LinearOrder α]

/-! ## Choices -/

omit [Field α] [LinearOrder α] in
/-- The element that is chosen is at least as good as every other. -/
theorem firstBest_best {β : Type} {preferred : β -> β -> Bool} {worse : β -> β -> Prop} (refl : forall item, worse item item)
    (trans : forall first second third, worse first second -> worse second third -> worse first third)
    (chosen : forall item best, preferred item best = true -> worse best item)
    (kept : forall item best, preferred item best = false -> worse item best) {items : List β} (present : items ≠ []) :
    ∃ best ∈ items, firstBest preferred items = some best ∧ ∀ item ∈ items, worse item best := by
  cases items with
  | nil => exact absurd rfl present
  | cons head tail =>
      clear present
      induction tail using List.reverseRecOn with
      | nil =>
          refine ⟨head, List.mem_cons_self, rfl, ?_⟩
          intro item member
          rw [List.mem_singleton.mp member]
          exact refl head
      | append_singleton tail item inductionHypothesis =>
          rcases inductionHypothesis with ⟨best, listed, found, bound⟩
          have foldsTo : tail.foldl (fun best item => if preferred item best then item else best) head = best :=
            Option.some.inj found
          have extended : firstBest preferred (head :: (tail ++ [item])) =
              some (if preferred item best then item else best) := by
            rw [firstBest, List.foldl_append, foldsTo]
            rfl
          rw [← List.cons_append] at extended ⊢
          cases prefers : preferred item best with
          | true =>
              rw [prefers, if_pos rfl] at extended
              refine ⟨item, by simp, extended, ?_⟩
              intro other member
              rcases List.mem_append.mp member with before | last
              · exact trans other best item (bound other before) (chosen item best prefers)
              · rw [List.mem_singleton.mp last]
                exact refl item
          | false =>
              rw [prefers, if_neg Bool.false_ne_true] at extended
              refine ⟨best, List.mem_append_left _ listed, extended, ?_⟩
              intro other member
              rcases List.mem_append.mp member with before | last
              · exact bound other before
              · rw [List.mem_singleton.mp last]
                exact kept item best prefers

omit [Field α] in
theorem nearestIndex_ok {row : List α} (present : row ≠ []) :
    ∃ index value, nearestIndex row = .ok index ∧ row[index]? = some value ∧ ∀ other ∈ row, value ≤ other := by
  rcases @firstBest_best (α × Nat)
    (fun item best => decide (item.1 < best.1) || (decide (item.1 = best.1) && decide (item.2 < best.2)))
    (fun item best => best.1 ≤ item.1) (fun item => le_rfl) (fun _ _ _ first second => second.trans first)
    (fun item best prefers => by
      rw [Bool.or_eq_true, Bool.and_eq_true, decide_eq_true_eq, decide_eq_true_eq] at prefers
      exact prefers.elim le_of_lt fun same => same.1.le)
    (fun item best keeps => by
      rw [Bool.or_eq_false_iff, decide_eq_false_iff_not, not_lt] at keeps
      exact keeps.1)
    row.zipIdx (fun empty => present (by simpa using empty)) with ⟨best, listed, found, bound⟩
  refine ⟨best.2, best.1, ?_, List.mk_mem_zipIdx_iff_getElem?.mp listed, ?_⟩
  · rw [nearestIndex, bestIndex, found]
    rfl
  · intro other member
    rcases List.mem_iff_getElem?.mp member with ⟨index, atIndex⟩
    exact bound (other, index) (List.mk_mem_zipIdx_iff_getElem?.mpr atIndex)

omit [Field α] in
theorem farthestIndex_ok {values : List α} (present : values ≠ []) :
    ∃ index value, farthestIndex values = .ok index ∧ values[index]? = some value ∧ ∀ other ∈ values, other ≤ value := by
  rcases @firstBest_best (α × Nat)
    (fun item best => decide (best.1 < item.1) || (decide (item.1 = best.1) && decide (item.2 < best.2)))
    (fun item best => item.1 ≤ best.1) (fun item => le_rfl) (fun _ _ _ first second => first.trans second)
    (fun item best prefers => by
      rw [Bool.or_eq_true, Bool.and_eq_true, decide_eq_true_eq, decide_eq_true_eq] at prefers
      exact prefers.elim le_of_lt fun same => same.1.ge)
    (fun item best keeps => by
      rw [Bool.or_eq_false_iff, decide_eq_false_iff_not, not_lt] at keeps
      exact keeps.1)
    values.zipIdx (fun empty => present (by simpa using empty)) with ⟨best, listed, found, bound⟩
  refine ⟨best.2, best.1, ?_, List.mk_mem_zipIdx_iff_getElem?.mp listed, ?_⟩
  · rw [farthestIndex, bestIndex, found]
    rfl
  · intro other member
    rcases List.mem_iff_getElem?.mp member with ⟨index, atIndex⟩
    exact bound (other, index) (List.mk_mem_zipIdx_iff_getElem?.mpr atIndex)

omit [Field α] in
theorem least_ok {values : List α} (present : values ≠ []) :
    least values = .ok (values.tail.foldl min (values.head present)) := by
  cases values with
  | nil => exact absurd rfl present
  | cons head tail => rfl

/-! ## One iteration -/

/-- Points of one width. -/
structure UniformPoints (points : List (List α)) (width : Nat) : Prop where
  present : points ≠ []
  widths : ∀ point ∈ points, point.length = width

/-- A place within the coordinates of the points. -/
structure WithinPoints (points : List (List α)) (width : Nat) (place : List α) : Prop where
  length : place.length = width
  between : ∀ column < width, Means.Between (points.map (·.getD column 0)) (place.getD column 0)

theorem WithinPoints.of_point {points : List (List α)} {width : Nat} (uniform : UniformPoints points width)
    {point : List α} (member : point ∈ points) : WithinPoints points width point := by
  refine ⟨uniform.widths point member, ?_⟩
  intro column _
  have listed : point.getD column 0 ∈ points.map (·.getD column 0) := List.mem_map_of_mem member
  exact ⟨_, listed, _, listed, le_rfl, le_rfl⟩

variable [IsStrictOrderedRing α] {points centers : List (List α)} {width count : Nat}

/-- The mean of values lies between two of them. -/
theorem between_of_plain_mean {values : List α} (present : values ≠ []) :
    Means.Between values (values.sum / values.length) := by
  have count : (0 : α) < values.length := Nat.cast_pos.mpr (List.length_pos_iff.mpr present)
  have ones : (values.map fun _ => (1 : α)).sum = values.length := by simp
  have between := @Means.between_of_mean α α _ _ _ (fun _ => 1) id values (values.sum / values.length)
    (fun _ _ => zero_le_one) (by rw [ones]; exact count)
    (by rw [ones, div_mul_cancel₀ _ count.ne']; simp)
  refine between.subset ?_
  intro value member
  rw [List.map_id] at member
  exact (Means.contributors_mem.mp member).1

omit [LinearOrder α] [IsStrictOrderedRing α] in
theorem readColumn {column : Nat} (inside : column < width) (widths : ∀ point ∈ points, point.length = width) :
    points.mapM (fun point => readAt AggregationError.indexError point column) = .ok (points.map (·.getD column 0)) := by
  rw [mapM_ok_iff, List.forall₂_map_right_iff, List.forall₂_same]
  intro point member
  have within : column < point.length := (widths point member).symm ▸ inside
  apply readAt_of_some
  rw [List.getD_eq_getElem?_getD, List.getElem?_eq_getElem within]
  rfl

/-- The mean of points is taken column by column. -/
theorem meanPoint_ok (present : points ≠ []) (widths : ∀ point ∈ points, point.length = width) :
    meanPoint width points =
      .ok ((List.range width).map fun column => (points.map (·.getD column 0)).sum / points.length) := by
  have nonzero : (points.length : α) ≠ 0 := Nat.cast_ne_zero.mpr (List.length_pos_iff.mpr present).ne'
  rw [meanPoint, mapM_ok_iff, List.forall₂_map_right_iff, List.forall₂_same]
  intro column member
  rw [readColumn (List.mem_range.mp member) widths, ok_bind, mean, List.length_map]
  exact if_neg nonzero

omit [LinearOrder α] [IsStrictOrderedRing α] in
theorem getD_range_map (part : Nat -> α) {column : Nat} (inside : column < width) :
    ((List.range width).map part).getD column 0 = part column := by
  rw [List.getD_eq_getElem?_getD, List.getElem?_map, List.getElem?_range inside]
  rfl

/-- Centers that the iterations start from and keep. -/
structure Placed (points : List (List α)) (width count : Nat) (centers : List (List α)) : Prop where
  size : centers.length = count
  within : ∀ center ∈ centers, WithinPoints points width center

omit [IsStrictOrderedRing α] in
theorem Placed.present (placed : Placed points width count centers) (positive : 0 < count) : centers ≠ [] := by
  intro empty
  rw [← placed.size, empty] at positive
  exact Nat.lt_irrefl 0 positive

omit [IsStrictOrderedRing α] in
/-- Every point has a nearest center. -/
theorem assign_ok (present : centers ≠ []) (points : List (List α)) :
    ∃ assignment, (distances points centers).mapM nearestIndex = .ok assignment ∧ assignment.length = points.length ∧
      ∀ pair ∈ points.zip assignment, pair.2 < centers.length ∧
        squaredDistance pair.1 (centers.getD pair.2 []) = toNearest centers pair.1 := by
  have nearest (point : List α) : ∃ index, nearestIndex (centers.map (squaredDistance point)) = .ok index ∧
      index < centers.length ∧ squaredDistance point (centers.getD index []) = toNearest centers point := by
    rcases @nearestIndex_ok α _ (centers.map (squaredDistance point)) (by simpa using present) with
      ⟨index, value, found, atIndex, bound⟩
    rw [List.getElem?_map, Option.map_eq_some_iff] at atIndex
    rcases atIndex with ⟨center, atCenter, rfl⟩
    have inside := (List.getElem?_eq_some_iff.mp atCenter).1
    have same : centers.getD index [] = center := by
      rw [List.getD_eq_getElem?_getD, atCenter]
      rfl
    refine ⟨index, found, inside, ?_⟩
    rw [same]
    rcases toNearest_attained present point with ⟨best, listed, attained⟩
    apply le_antisymm
    · rw [attained]
      exact bound _ (List.mem_map_of_mem listed)
    · exact toNearest_le (List.mem_of_getElem? atCenter) point
  rcases mapM_total fun row (member : row ∈ distances points centers) => by
    rcases List.mem_map.mp member with ⟨point, _, rfl⟩
    exact (nearest point).imp fun _ => And.left with ⟨assignment, run⟩
  have pairs := mapM_ok_iff.mp run
  rw [distances, List.forall₂_map_left_iff] at pairs
  refine ⟨assignment, run, pairs.length_eq.symm, ?_⟩
  intro pair member
  have assigned := (List.forall₂_iff_zip.mp pairs).2 member
  rcases nearest pair.1 with ⟨index, found, inside, same⟩
  rw [found] at assigned
  rw [← Except.ok.inj assigned]
  exact ⟨inside, same⟩

omit [IsStrictOrderedRing α] in
/-- A center without points goes to a point. -/
theorem farthest_ok (uniform : UniformPoints points width) (present : centers ≠ []) :
    ∃ nearest farthest point, (distances points centers).mapM least = .ok nearest ∧
      farthestIndex nearest = .ok farthest ∧ points[farthest]? = some point := by
  rcases mapM_total fun row (member : row ∈ distances points centers) => by
    rcases List.mem_map.mp member with ⟨point, _, rfl⟩
    exact ⟨_, least_ok (show centers.map (squaredDistance point) ≠ [] by simpa using present)⟩ with ⟨nearest, run⟩
  have length : nearest.length = points.length := by
    rw [← (mapM_ok_iff.mp run).length_eq, distances, List.length_map]
  rcases @farthestIndex_ok α _ nearest fun empty => uniform.present (by
    rw [empty] at length
    exact List.length_eq_zero_iff.mp length.symm) with ⟨farthest, value, found, atIndex, _⟩
  have inside : farthest < points.length := length ▸ (List.getElem?_eq_some_iff.mp atIndex).1
  exact ⟨nearest, farthest, points[farthest], run, found, List.getElem?_eq_getElem inside⟩

/-- Where a center goes: to the mean of its points, or to a point. -/
theorem moveCenter_ok (uniform : UniformPoints points width) (placed : Placed points width count centers)
    (positive : 0 < count) (assignment : List Nat) (index : Nat) :
    ∃ moved, moveCenter points centers assignment index = .ok moved ∧ WithinPoints points width moved ∧
      (members points assignment index ≠ [] -> ∀ column < width, moved.getD column 0 =
        ((members points assignment index).map (·.getD column 0)).sum / (members points assignment index).length) := by
  have first : (centers.headD []).length = width := by
    cases present : centers with
    | nil => exact absurd present (placed.present positive)
    | cons head tail => exact (placed.within head (present ▸ List.mem_cons_self)).length
  by_cases empty : members points assignment index = []
  · rcases farthest_ok uniform (placed.present positive) with ⟨nearest, farthest, point, nearestRead, found, present⟩
    refine ⟨point, ?_, .of_point uniform (List.mem_of_getElem? present), fun some => absurd empty some⟩
    rw [moveCenter, if_neg (not_not.mpr empty), nearestRead, ok_bind, found, ok_bind, readAt_of_some present]
  · have widths : ∀ point ∈ members points assignment index, point.length = width :=
      fun point member => uniform.widths point (members_subset member)
    have returned : moveCenter points centers assignment index =
        meanPoint (centers.headD []).length (members points assignment index) := if_pos empty
    rw [first, meanPoint_ok empty widths] at returned
    refine ⟨_, returned, ⟨?_, ?_⟩, ?_⟩
    · rw [List.length_map, List.length_range]
    · intro column inside
      rw [getD_range_map _ inside, ← List.length_map (·.getD column 0)]
      refine (between_of_plain_mean fun none => empty (List.map_eq_nil_iff.mp none)).subset ?_
      intro value member
      rcases List.mem_map.mp member with ⟨point, listed, rfl⟩
      exact List.mem_map_of_mem (members_subset listed)
    · intro _ column inside
      exact getD_range_map _ inside

/-- An iteration keeps the centers in place, and its cost does not exceed theirs. -/
theorem iteration_ok (uniform : UniformPoints points width) (placed : Placed points width count centers)
    (positive : 0 < count) :
    ∃ assignment moved, (distances points centers).mapM nearestIndex = .ok assignment ∧
      (List.range count).mapM (moveCenter points centers assignment) = .ok moved ∧
        Placed points width count moved ∧ cost points moved ≤ cost points centers := by
  rcases assign_ok (placed.present positive) points with ⟨assignment, assigned, length, nearest⟩
  have moves := moveCenter_ok uniform placed positive assignment
  rcases mapM_total fun index (_ : index ∈ List.range count) => (moves index).imp fun _ => And.left with ⟨moved, run⟩
  have size : moved.length = count := by
    rw [← (mapM_ok_iff.mp run).length_eq, List.length_range]
  have each {index : Nat} (inside : index < count) : moveCenter points centers assignment index = .ok (moved.getD index []) := by
    rcases List.forall₂_iff_get.mp (mapM_ok_iff.mp run) with ⟨_, every⟩
    have converted := every index (by rw [List.length_range]; exact inside) (size.symm ▸ inside)
    rw [List.get_eq_getElem, List.getElem_range, List.get_eq_getElem] at converted
    rw [converted, List.getD_eq_getElem?_getD, List.getElem?_eq_getElem (size.symm ▸ inside)]
    rfl
  have within : ∀ center ∈ moved, WithinPoints points width center := by
    intro center member
    rcases source_of_mapM_ok run member with ⟨index, _, converted⟩
    rcases moves index with ⟨result, returned, place, _⟩
    rw [returned] at converted
    exact Except.ok.inj converted ▸ place
  refine ⟨assignment, moved, assigned, run, ⟨size, within⟩, ?_⟩
  rw [placed.size] at nearest
  refine cost_le_of_move uniform.widths placed.size size (fun center member => (placed.within center member).length)
    (fun center member => (within center member).length) length nearest ?_
  intro index inside some
  rcases moves index with ⟨result, returned, _, isMean⟩
  rw [each inside] at returned
  rw [Except.ok.inj returned]
  exact isMean some

/-- The iterations return, and one more does not make the cost grow. -/
theorem iterate_ok (uniform : UniformPoints points width) (placed : Placed points width count centers)
    (positive : 0 < count) (iterations : Nat) (assignment : Option (List Nat)) :
    ∃ result next, iterate points count iterations assignment centers = .ok result ∧
      iterate points count (iterations + 1) assignment centers = .ok next ∧ Placed points width count result ∧
        Placed points width count next ∧ cost points next ≤ cost points result := by
  induction iterations generalizing centers assignment with
  | zero =>
      rcases iteration_ok uniform placed positive with ⟨current, moved, assigned, run, place, lower⟩
      by_cases same : assignment = some current
      · refine ⟨centers, centers, rfl, ?_, placed, placed, le_rfl⟩
        rw [iterate, assigned, ok_bind, if_pos same]
      · refine ⟨centers, moved, rfl, ?_, placed, place, lower⟩
        rw [iterate, assigned, ok_bind, if_neg same, run, ok_bind, iterate]
  | succ iterations inductionHypothesis =>
      rcases iteration_ok uniform placed positive with ⟨current, moved, assigned, run, place, lower⟩
      by_cases same : assignment = some current
      · refine ⟨centers, centers, ?_, ?_, placed, placed, le_rfl⟩
        · rw [iterate, assigned, ok_bind, if_pos same]
        · rw [iterate, assigned, ok_bind, if_pos same]
      · rcases inductionHypothesis place (some current) with ⟨result, next, resultRun, nextRun, rest⟩
        refine ⟨result, next, ?_, ?_, rest⟩
        · rw [iterate, assigned, ok_bind, if_neg same, run, ok_bind, resultRun]
        · rw [iterate, assigned, ok_bind, if_neg same, run, ok_bind, nextRun]

/-! ## The initial centers -/

/-- Centers among the points, with the distance of every point to the nearest. -/
structure Grown (points : List (List α)) (state : Growing α) : Prop where
  present : state.1 ≠ []
  among : ∀ center ∈ state.1, center ∈ points
  distances : state.2 = points.map (toNearest state.1)

omit [IsStrictOrderedRing α] in
theorem grown_start {center : List α} (member : center ∈ points) :
    Grown points ([center], points.map fun point => squaredDistance point center) := by
  refine ⟨List.cons_ne_nil _ _, ?_, rfl⟩
  intro other listed
  rw [List.mem_singleton.mp listed]
  exact member

omit [Field α] [LinearOrder α] [IsStrictOrderedRing α] in
theorem zipWith_map_self (part : List α -> α) (combine : α -> List α -> α) (points : List (List α)) :
    List.zipWith combine (points.map part) points = points.map fun point => combine (part point) point := by
  induction points with
  | nil => rfl
  | cons point points inductionHypothesis =>
      rw [List.map_cons, List.zipWith_cons_cons, inductionHypothesis, List.map_cons]

/-- As long as some point is not a center, the next center is new. -/
theorem growOnce_ok (uniform : UniformPoints points width) {state : Growing α} (grown : Grown points state) :
    ∃ next, growOnce points state = .ok next ∧ Grown points next ∧ next.1.length = state.1.length + 1 ∧
      (state.1.Nodup -> state.1.length < points.dedup.length -> next.1.Nodup) := by
  have nonempty : state.2 ≠ [] := by
    rw [grown.distances]
    exact fun empty => uniform.present (List.map_eq_nil_iff.mp empty)
  rcases farthestIndex_ok nonempty with ⟨index, value, found, atIndex, bound⟩
  rw [grown.distances, List.getElem?_map, Option.map_eq_some_iff] at atIndex
  rcases atIndex with ⟨point, atPoint, rfl⟩
  have member : point ∈ points := List.mem_of_getElem? atPoint
  have step : growOnce points state = .ok (state.1 ++ [point], points.map (toNearest (state.1 ++ [point]))) := by
    rw [growOnce, found, ok_bind, readAt_of_some atPoint, ok_bind, grown.distances, zipWith_map_self]
    refine congrArg (fun column => Except.ok (state.1 ++ [point], column)) (List.map_congr_left ?_)
    intro other _
    exact (toNearest_concat grown.present point other).symm
  refine ⟨_, step, ⟨by simp, ?_, rfl⟩, by simp, ?_⟩
  · intro center listed
    rcases List.mem_append.mp listed with before | last
    · exact grown.among center before
    · rw [List.mem_singleton.mp last]
      exact member
  · intro distinct fewer
    have other : ∃ place ∈ points, place ∉ state.1 := by
      by_contra none
      push Not at none
      have covered : points.dedup.length ≤ state.1.length :=
        (List.subperm_of_subset (List.nodup_dedup points) fun place listed =>
          none place (List.mem_dedup.mp listed)).length_le
      omega
    rcases other with ⟨place, placeMember, notCenter⟩
    have apart : 0 < toNearest state.1 point := by
      rcases toNearest_attained grown.present place with ⟨center, listed, attained⟩
      have positive : 0 < toNearest state.1 place := by
        rw [attained]
        refine lt_of_le_of_ne (squaredDistance_nonnegative place center) fun zero => notCenter ?_
        have same := eq_of_squaredDistance ((uniform.widths place placeMember).trans
          (uniform.widths center (grown.among center listed)).symm) zero.symm
        exact same ▸ listed
      refine positive.trans_le (bound _ ?_)
      rw [grown.distances]
      exact List.mem_map_of_mem placeMember
    rw [List.nodup_append]
    refine ⟨distinct, List.nodup_singleton point, ?_⟩
    intro center listed last isLast same
    rw [List.mem_singleton.mp isLast] at same
    have zero := toNearest_le listed point
    rw [same, squaredDistance_self] at zero
    exact absurd apart (not_lt.mpr zero)

/-- Growing by one center for each element of a list. -/
theorem growFold_ok (uniform : UniformPoints points width) (steps : List Nat) {state : Growing α}
    (grown : Grown points state) :
    ∃ final, steps.foldlM (fun state _ => growOnce points state) state = .ok final ∧ Grown points final ∧
      final.1.length = state.1.length + steps.length ∧
        (state.1.Nodup -> state.1.length + steps.length ≤ points.dedup.length -> final.1.Nodup) := by
  induction steps generalizing state with
  | nil => exact ⟨state, rfl, grown, rfl, fun distinct _ => distinct⟩
  | cons step steps inductionHypothesis =>
      rcases growOnce_ok uniform grown with ⟨next, once, nextGrown, length, distinct⟩
      rcases inductionHypothesis nextGrown with ⟨final, run, finalGrown, finalLength, finalDistinct⟩
      refine ⟨final, ?_, finalGrown, ?_, ?_⟩
      · rw [List.foldlM_cons, once, ok_bind, run]
      · rw [finalLength, length, List.length_cons]
        omega
      · intro start enough
        rw [List.length_cons] at enough
        exact finalDistinct (distinct start (by omega)) (by omega)

/-- The loop that grows while centers are missing is the loop over as many
positions. -/
theorem growWhile_eq (uniform : UniformPoints points width) (steps : List Nat) {fuel : Nat} {state : Growing α}
    (grown : Grown points state) (missing : state.1.length + steps.length = count) (enough : steps.length ≤ fuel) :
    growWhile points count fuel state = steps.foldlM (fun state _ => growOnce points state) state := by
  induction steps generalizing fuel state with
  | nil =>
      rw [List.length_nil, Nat.add_zero] at missing
      cases fuel with
      | zero => rfl
      | succ fuel =>
          rw [growWhile, if_neg (by omega)]
          rfl
  | cons step steps inductionHypothesis =>
      rw [List.length_cons] at missing enough
      cases fuel with
      | zero => omega
      | succ fuel =>
          rcases growOnce_ok uniform grown with ⟨next, once, nextGrown, length, _⟩
          rw [growWhile, if_pos (by omega), once, ok_bind, List.foldlM_cons, once, ok_bind]
          exact inductionHypothesis nextGrown (by omega) (by omega)

/-- On either path there are as many initial centers as asked for, all of them
points, and different ones as long as there are enough different points. -/
theorem initialCenters_ok (uniform : UniformPoints points width) (positive : 0 < count) (numpy : Bool) (seed : Int) :
    ∃ centers, initialCenters numpy points count seed = .ok centers ∧ Placed points width count centers ∧
      (count ≤ points.dedup.length -> centers.Nodup) := by
  rcases (ReferenceTwister.seeded seed).randi_ok (List.length_pos_iff.mpr uniform.present) with ⟨first, drawn, inside⟩
  have atFirst := List.getElem?_eq_getElem inside
  have start := grown_start (List.mem_of_getElem? atFirst)
  have steps : (List.range' 1 (count - 1)).length = count - 1 := List.length_range'
  rcases growFold_ok uniform (List.range' 1 (count - 1)) start with ⟨final, run, grown, length, distinct⟩
  have missing : ([points[first]] : List (List α)).length + (count - 1) = count := by
    rw [List.length_singleton]
    omega
  rw [steps, missing] at length distinct
  have either : growCenters numpy points count
      ([points[first]], points.map fun point => squaredDistance point points[first]) = .ok final := by
    cases numpy with
    | true => exact run
    | false =>
        rw [growCenters, if_neg Bool.false_ne_true, growWhile_eq uniform (List.range' 1 (count - 1)) start
          (by rw [steps]; exact missing) (by rw [steps]; omega)]
        exact run
  refine ⟨final.1, ?_, ⟨length, ?_⟩, distinct (List.nodup_singleton _)⟩
  · rw [initialCenters, drawn, ok_bind, readAt_of_some atFirst, ok_bind]
    dsimp only
    rw [either, ok_bind]
    rfl
  · intro center listed
    exact .of_point uniform (grown.among center listed)

/-- The clustering never gets worse.  It returns, with as many centers as asked for
or as there are points, each within the coordinates of the points; without an
iteration it returns the initial centers, and one iteration more does not make
the cost grow.  The initial centers are pairwise different when there are enough
different points. -/
theorem kmeans_never_worse (uniform : UniformPoints points width) {count : Int} (positive : 0 < count)
    (iterations seed : Int) (numpy : Bool) :
    ∃ initial centers next, initialCenters numpy points (min count points.length).toNat seed = .ok initial ∧
      simpleKmeans numpy points count 0 seed = .ok initial ∧
      simpleKmeans numpy points count iterations seed = .ok centers ∧
      (0 ≤ iterations -> simpleKmeans numpy points count (iterations + 1) seed = .ok next) ∧
      cost points next ≤ cost points centers ∧
      centers.length = min count.toNat points.length ∧
      (∀ center ∈ centers, WithinPoints points width center) ∧
      (min count.toNat points.length ≤ points.dedup.length -> initial.Nodup) := by
  have some : 0 < points.length := List.length_pos_iff.mpr uniform.present
  obtain ⟨size, sized⟩ : ∃ size, (min count points.length).toNat = size := ⟨_, rfl⟩
  have sizeEq : min count.toNat points.length = size := by omega
  rcases initialCenters_ok uniform (show 0 < size by omega) numpy seed with ⟨initial, drawn, placed, distinct⟩
  rcases iterate_ok uniform placed (show 0 < size by omega) iterations.toNat none with
    ⟨centers, next, run, nextRun, place, _, lower⟩
  have runs (turns : Int) : simpleKmeans numpy points count turns seed = iterate points size turns.toNat none initial := by
    have proper : ¬(points = [] ∨ count ≤ 0) :=
      fun either => either.elim uniform.present (not_le.mpr positive)
    rw [simpleKmeans, if_neg proper]
    dsimp only
    rw [sized, drawn, ok_bind]
  rw [sized, sizeEq]
  refine ⟨initial, centers, next, drawn, ?_, ?_, ?_, lower, place.size, place.within, distinct⟩
  · rw [runs]
    rfl
  · rw [runs, run]
  · intro forward
    rw [runs, show (iterations + 1).toNat = iterations.toNat + 1 by omega, nextRun]

/-- Three points on a line, of which two are the same. -/
theorem kmeans_never_worse_sample :
    ∃ centers next, simpleKmeans true [[1], [1], [(5 : Rat)]] 2 3 2027 = .ok centers ∧
      simpleKmeans true [[1], [1], [(5 : Rat)]] 2 4 2027 = .ok next ∧
        cost [[1], [1], [(5 : Rat)]] next ≤ cost [[1], [1], [(5 : Rat)]] centers := by
  rcases kmeans_never_worse (show UniformPoints [[1], [1], [(5 : Rat)]] 1 from ⟨by simp, by simp⟩)
    (show (0 : Int) < 2 by decide) 3 2027 true with ⟨_, centers, next, _, _, run, nextRun, lower, _⟩
  exact ⟨centers, next, run, nextRun (by decide), lower⟩

end Worker
end FederatedIot
