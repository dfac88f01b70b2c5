import FederatedIot.Foundation.Keyset
import FederatedIot.Results.ResultPage

namespace FederatedIot
namespace Results

open Foundation Foundation.NumberText Foundation.Keyset Foundation.Outcome

/-!
# Following the cursors of a result file

The rows that pass the filter of a query, in the order the query asks for, are
cut into pages.  A page of either order holds the first rows beyond its cursor:
the ascending scan keeps them directly, and the descending scan keeps the last
rows below the cursor and turns them around.  Since the indices of the file
increase strictly, the rows beyond the last index of a page are the rows that no
page has shown yet.
-/

/-! ## The cells of a point -/

theorem resultScalar_of_parseInt {cell : Cell} {value : Int} (parsed : parseInt cell = some value) :
    resultScalar cell = .integer value := by
  have notEmpty : cell ≠ [] := by
    rintro rfl
    have refused : parseInt [] = none := by decide
    exact absurd (parsed.symm.trans refused) (by simp)
  have notTrue : cell ≠ "true".toList := by
    rintro rfl
    have refused : parseInt "true".toList = none := by decide
    exact absurd (parsed.symm.trans refused) (by simp)
  have notFalse : cell ≠ "false".toList := by
    rintro rfl
    have refused : parseInt "false".toList = none := by decide
    exact absurd (parsed.symm.trans refused) (by simp)
  rw [resultScalar, if_neg notEmpty, if_neg notTrue, if_neg notFalse, parsed]

/-- A row shows the cell at the position of its column. -/
theorem find_zip_column {name : Cell} (header : List Cell) (values : List ResultScalar) {position : Nat}
    (located : header.idxOf? name = some position) :
    (((header.zip values).find? fun column => column.1 = name).map Prod.snd) = values[position]? := by
  induction header generalizing values position with
  | nil => cases located
  | cons head tail inductionHypothesis =>
      cases values with
      | nil => rfl
      | cons value rest =>
          rw [List.zip_cons_cons, List.find?_cons]
          rw [List.idxOf?_cons] at located
          by_cases same : head = name
          · rw [if_pos (beq_iff_eq.mpr same)] at located
            cases located
            rw [decide_eq_true same]
            rfl
          · rw [if_neg (fun equal => same (beq_iff_eq.mp equal))] at located
            rcases Option.map_eq_some_iff.mp located with ⟨before, locatedInTail, rfl⟩
            rw [decide_eq_false same]
            exact inductionHypothesis rest locatedInTail

theorem readColumns_ok {header : List Cell} {columns : Columns} (readHeader : readColumns header = Except.ok columns) :
    columns.header = header ∧ header.idxOf? "OriginalRunningIndex".toList = some columns.indexColumn := by
  simp only [readColumns] at readHeader
  split at readHeader
  · cases readHeader
  · split at readHeader
    · cases readHeader
    · split at readHeader
      · rename_i indexColumn timeColumn indexLocated _
        cases readHeader
        exact ⟨rfl, indexLocated⟩
      · cases readHeader

theorem resultPointFromCSV_ok {loadLocation : Dataset.Zones} {header row : List Cell}
    {indexColumn timeColumn : Nat} {agent : Int} {point : ResultPoint}
    (read : resultPointFromCSV loadLocation header row indexColumn timeColumn agent = Except.ok point) :
    (row[indexColumn]?).bind parseInt = some point.index ∧ 0 ≤ point.index ∧
      point.value = header.zip (row.map resultScalar) := by
  simp only [resultPointFromCSV] at read
  split at read
  · cases read
  · rename_i index indexRead
    split at read
    · cases read
    · rename_i notNegative
      split at read
      · cases read
      · split at read
        · split at read
          · cases read
            exact ⟨indexRead, not_lt.mp notNegative, rfl⟩
          · cases read
        · cases read
          exact ⟨indexRead, not_lt.mp notNegative, rfl⟩

/-- The index of a point is one of its own cells. -/
theorem readPoint_index {loadLocation : Dataset.Zones} {header : List Cell} {columns : Columns}
    (readHeader : readColumns header = Except.ok columns) {agent : Int} {record : Record} {point : ResultPoint}
    (readRecord : readPoint loadLocation columns agent record = Except.ok point) :
    point.value.get? "OriginalRunningIndex" = some (.integer point.index) ∧ 0 ≤ point.index := by
  rcases readColumns_ok readHeader with ⟨sameHeader, located⟩
  cases record with
  | none => cases readRecord
  | some row =>
      simp only [readPoint] at readRecord
      split at readRecord
      · cases readRecord
      · rcases resultPointFromCSV_ok readRecord with ⟨indexRead, notNegative, values⟩
        rcases Option.bind_eq_some_iff.mp indexRead with ⟨cell, cellAt, parsed⟩
        refine ⟨?_, notNegative⟩
        rw [values, sameHeader, ResultRow.get?, find_zip_column header _ located, List.getElem?_map, cellAt,
          Option.map_some, resultScalar_of_parseInt parsed]

/-! ## What a scan keeps -/

/-- The point lies beyond the cursor of the query. -/
def ResultQuery.beyondCursor (query : ResultQuery) (point : ResultPoint) : Bool :=
  match query.sort with
  | .indexAsc => !(query.after.any fun after => point.index ≤ after)
  | .indexDesc => !(query.after.any fun after => after ≤ point.index)

/-- The points that pass the filter of the query, in the order it asks for. -/
def ResultQuery.requested (query : ResultQuery) (points : List ResultPoint) : List ResultPoint :=
  let matching := points.filter fun point => matchesResultFilter point query
  match query.sort with
  | .indexAsc => matching
  | .indexDesc => matching.reverse

/-- The points that pass the filter and lie beyond the cursor. -/
def ResultQuery.selected (query : ResultQuery) (points : List ResultPoint) : List ResultPoint :=
  (points.filter fun point => matchesResultFilter point query).filter query.beyondCursor

/-- A point is selected when it passes the filter and lies beyond the cursor. -/
theorem ResultQuery.selected_cons (query : ResultQuery) (point : ResultPoint) (rest : List ResultPoint) :
    query.selected (point :: rest) =
      if matchesResultFilter point query && query.beyondCursor point then point :: query.selected rest
      else query.selected rest := by
  simp only [ResultQuery.selected, List.filter_cons]
  cases matchesResultFilter point query with
  | false => rfl
  | true =>
      rw [if_pos rfl, List.filter_cons, Bool.true_and]

theorem scanRecords_eq {loadLocation : Dataset.Zones} {columns : Columns} {query : ResultQuery}
    {records : List Record} {points : List ResultPoint}
    (read : records.mapM (readPoint loadLocation columns query.agent) = Except.ok points) (scan : Scan) :
    scanRecords loadLocation columns query scan records = Except.ok (points.foldl (Scan.step query) scan) := by
  have converted := mapM_ok_iff.mp read
  clear read
  induction converted generalizing scan with
  | nil => rfl
  | cons readHead _ inductionHypothesis =>
      rw [scanRecords, readHead, ok_bind, inductionHypothesis, List.foldl_cons]

theorem foldl_step_total (query : ResultQuery) (points : List ResultPoint) (scan : Scan) :
    (points.foldl (Scan.step query) scan).total =
      scan.total + (points.filter fun point => matchesResultFilter point query).length := by
  induction points generalizing scan with
  | nil => rfl
  | cons point rest inductionHypothesis =>
      rw [List.foldl_cons, inductionHypothesis, List.filter_cons]
      cases passes : matchesResultFilter point query with
      | false => simp [Scan.step, passes]
      | true =>
          have counted : (scan.step query point).total = scan.total + 1 := by
            simp only [Scan.step, passes, Bool.not_true, Bool.false_eq_true, if_false]
            split <;> split <;> first | rfl | (split <;> rfl)
          rw [counted, if_pos rfl, List.length_cons]
          omega

/-- An ascending scan keeps the first rows beyond the cursor. -/
theorem foldl_step_ascending {query : ResultQuery} (ascending : query.sort = .indexAsc) (points : List ResultPoint)
    (scan : Scan) :
    let scanned := points.foldl (Scan.step query) scan
    (scanned.items, scanned.hasMore) =
      ((query.selected points).map ResultPoint.value).foldl (keepFirst query.limit) (scan.items, scan.hasMore) := by
  induction points generalizing scan with
  | nil => rfl
  | cons point rest inductionHypothesis =>
      have beyond : query.beyondCursor point = !(query.after.any fun after => decide (point.index ≤ after)) := by
        rw [ResultQuery.beyondCursor, ascending]
      simp only [List.foldl_cons]
      rw [inductionHypothesis, query.selected_cons, beyond]
      cases passes : matchesResultFilter point query with
      | false => simp [Scan.step, passes]
      | true =>
          cases skipped : query.after.any fun after => decide (point.index ≤ after) with
          | true => simp [Scan.step, passes, ascending, skipped]
          | false =>
              simp only [Scan.step, passes, ascending, skipped, keepFirst, Bool.not_true, Bool.not_false,
                Bool.and_self, if_true, List.map_cons, List.foldl_cons, Bool.false_eq_true, if_false]
              split <;> rfl

/-- A descending scan keeps the last points below the cursor. -/
theorem foldl_step_descending {query : ResultQuery} (descending : query.sort = .indexDesc)
    (points : List ResultPoint) (scan : Scan) :
    let scanned := points.foldl (Scan.step query) scan
    (scanned.descendingRing, scanned.hasMore) =
        (query.selected points).foldl (keepLast query.limit) (scan.descendingRing, scan.hasMore) ∧
      scanned.items = scan.items := by
  induction points generalizing scan with
  | nil => exact ⟨rfl, rfl⟩
  | cons point rest inductionHypothesis =>
      have beyond : query.beyondCursor point = !(query.after.any fun after => decide (after ≤ point.index)) := by
        rw [ResultQuery.beyondCursor, descending]
      rcases inductionHypothesis (scan.step query point) with ⟨kept, sameItems⟩
      simp only [List.foldl_cons]
      rw [kept, sameItems, query.selected_cons, beyond]
      cases passes : matchesResultFilter point query with
      | false => simp [Scan.step, passes]
      | true =>
          cases skipped : query.after.any fun after => decide (after ≤ point.index) with
          | true => simp [Scan.step, passes, descending, skipped]
          | false =>
              simp only [Scan.step, passes, descending, skipped, keepLast, Bool.not_true, Bool.not_false,
                Bool.and_self, if_true, List.foldl_cons, Bool.false_eq_true, if_false]
              constructor <;> split <;> rfl

/-- In either order the scan keeps the first selected points of that order. -/
theorem kept_foldl_step (query : ResultQuery) (positive : 0 < query.limit) (points : List ResultPoint) :
    let scanned := points.foldl (Scan.step query) {}
    let beyond := (query.requested points).filter query.beyondCursor
    scanned.kept query = (beyond.take query.limit).map ResultPoint.value ∧
      scanned.hasMore = decide (query.limit < beyond.length) := by
  cases sorted : query.sort with
  | indexAsc =>
      have scanned := foldl_step_ascending sorted points {}
      have both := Prod.mk.inj (scanned.trans (keepFirst_all query.limit _))
      simp only [Scan.kept, ResultQuery.requested, sorted]
      constructor
      · rw [both.1, ← List.map_take]
        rfl
      · rw [both.2, List.length_map]
        rfl
  | indexDesc =>
      rcases foldl_step_descending sorted points {} with ⟨scanned, noItems⟩
      have both := Prod.mk.inj (scanned.trans (keepLast_all query.limit positive _))
      simp only [Scan.kept, ResultQuery.requested, sorted]
      rw [List.filter_reverse]
      constructor
      · rw [both.1, noItems, reverse_lastOf, List.nil_append]
        rfl
      · rw [both.2, List.length_reverse]
        rfl

/-! ## One page -/

/-- The page that shows the first of the points that remain. -/
def ResultQuery.slicePage (query : ResultQuery) (artifactSha : String) (total : Nat)
    (remaining : List ResultPoint) : ResultPage :=
  let slice := remaining.take query.limit
  let hasMore := decide (query.limit < remaining.length)
  { runId := query.runId, agent := query.agent, artifactSha
    items := slice.map ResultPoint.value
    hasMore
    nextCursor :=
      if hasMore then
        slice.getLast?.map fun point => encodeIndexedCursor "results.v1" query.binding point.index
      else none
    total
    windowStart := slice.head?.map fun point => .integer point.index
    windowEnd := slice.getLast?.map fun point => .integer point.index }

theorem page_of_kept {query : ResultQuery} {artifactSha : String} {scan : Scan} {remaining : List ResultPoint}
    (kept : scan.kept query = (remaining.take query.limit).map ResultPoint.value)
    (more : scan.hasMore = decide (query.limit < remaining.length))
    (indexed : ∀ point ∈ remaining, point.value.get? "OriginalRunningIndex" = some (.integer point.index)) :
    scan.page query artifactSha = Except.ok (query.slicePage artifactSha scan.total remaining) := by
  have sliceIndexed : ∀ point ∈ remaining.take query.limit,
      point.value.get? "OriginalRunningIndex" = some (.integer point.index) :=
    fun point member => indexed point (List.mem_of_mem_take member)
  simp only [Scan.page, ResultQuery.slicePage, kept, more]
  generalize remaining.take query.limit = slice at sliceIndexed
  cases first : slice.head? with
  | none =>
      rw [List.head?_eq_none_iff.mp first]
      simp
  | some firstPoint =>
      obtain ⟨last, lastAt⟩ : ∃ last, slice.getLast? = some last := by
        cases noLast : slice.getLast? with
        | some last => exact ⟨last, rfl⟩
        | none =>
            rw [List.getLast?_eq_none_iff.mp noLast] at first
            cases first
      have firstIndex := sliceIndexed firstPoint (List.mem_of_head? first)
      have lastIndex := sliceIndexed last (List.mem_of_getLast? lastAt)
      simp [List.head?_map, List.getLast?_map, first, lastAt, firstIndex, lastIndex, jsonInteger]

theorem mem_of_mem_requested {query : ResultQuery} {points : List ResultPoint} {point : ResultPoint}
    (member : point ∈ query.requested points) : point ∈ points := by
  simp only [ResultQuery.requested] at member
  split at member
  · exact List.mem_of_mem_filter member
  · exact List.mem_of_mem_filter (List.mem_reverse.mp member)

theorem readResultCSVPage_eq {loadLocation : Dataset.Zones} {header : List Cell} {columns : Columns}
    {query : ResultQuery} {records : List Record} {points : List ResultPoint}
    (readHeader : readColumns header = Except.ok columns)
    (readRecords : records.mapM (readPoint loadLocation columns query.agent) = Except.ok points)
    (positive : 0 < query.limit) (artifactSha : String) :
    readResultCSVPage loadLocation (some header :: records) query artifactSha =
      Except.ok (query.slicePage artifactSha (query.requested points).length
        ((query.requested points).filter query.beyondCursor)) := by
  rcases kept_foldl_step query positive points with ⟨kept, more⟩
  have total : (points.foldl (Scan.step query) {}).total = (query.requested points).length := by
    rw [foldl_step_total]
    simp only [ResultQuery.requested]
    split
    · exact Nat.zero_add _
    · rw [List.length_reverse]
      exact Nat.zero_add _
  have indexed : ∀ point ∈ (query.requested points).filter query.beyondCursor,
      point.value.get? "OriginalRunningIndex" = some (.integer point.index) := by
    intro point member
    have listed : point ∈ points := mem_of_mem_requested (List.mem_of_mem_filter member)
    rcases source_of_mapM_ok readRecords listed with ⟨record, _, readRecord⟩
    exact (readPoint_index readHeader readRecord).1
  rw [readResultCSVPage, readHeader, ok_bind, scanRecords_eq readRecords, ok_bind,
    page_of_kept kept more indexed, total]

/-! ## The chain of pages -/

/-- The order in which a query lists the indices. -/
def ResultSort.Precedes : ResultSort -> Int -> Int -> Prop
  | .indexAsc, left, right => left < right
  | .indexDesc, left, right => right < left

instance (sort : ResultSort) : DecidableRel sort.Precedes :=
  fun left right => match sort with
    | .indexAsc => inferInstanceAs (Decidable (left < right))
    | .indexDesc => inferInstanceAs (Decidable (right < left))

instance (sort : ResultSort) : Std.Irrefl sort.Precedes where
  irrefl index := by
    cases sort <;> exact lt_irrefl index

instance (sort : ResultSort) : IsTrans Int sort.Precedes where
  trans first second third := by
    cases sort with
    | indexAsc => exact lt_trans
    | indexDesc => exact fun before after => lt_trans after before

theorem requested_sorted (query : ResultQuery) {points : List ResultPoint}
    (increasing : points.Pairwise fun left right => left.index < right.index) :
    (query.requested points).Pairwise fun left right => query.sort.Precedes left.index right.index := by
  have filtered := increasing.filter fun point => matchesResultFilter point query
  simp only [ResultQuery.requested]
  cases query.sort with
  | indexAsc => exact filtered
  | indexDesc => exact List.pairwise_reverse.mpr filtered

theorem beyondCursor_resumed (query : ResultQuery) (last : Int) (point : ResultPoint) :
    ({ query with after := some last } : ResultQuery).beyondCursor point =
      decide (query.sort.Precedes last point.index) := by
  simp only [ResultQuery.beyondCursor, Option.any_some]
  cases query.sort with
  | indexAsc => exact (decide_not).symm.trans (decide_eq_decide.mpr not_le)
  | indexDesc => exact (decide_not).symm.trans (decide_eq_decide.mpr not_le)

/-- A cursor of the response is accepted with the query it was made for. -/
theorem resume_cursor (query : ResultQuery) {last : Int} (notNegative : 0 ≤ last) :
    query.resume (encodeIndexedCursor "results.v1" query.binding last) =
      Except.ok { query with after := some last } := by
  have accepted : ¬ last < 0 := not_lt.mpr notNegative
  simp [ResultQuery.resume, decodeIndexedCursor, encodeIndexedCursor, accepted, Except.map]

/-- The page shows a slice of the requested rows, and tells what lies around it. -/
structure ShowsSlice (requested earlier slice rest : List ResultPoint) (page : ResultPage) : Prop where
  split : requested = earlier ++ slice ++ rest
  items : page.items = slice.map ResultPoint.value
  total : page.total = requested.length
  hasMore : page.hasMore = true ↔ rest ≠ []
  windowStart : page.windowStart = slice.head?.map fun point => .integer point.index
  windowEnd : page.windowEnd = slice.getLast?.map fun point => .integer point.index

theorem slicePage_shows (query : ResultQuery) (artifactSha : String) (earlier remaining : List ResultPoint) :
    ShowsSlice (earlier ++ remaining) earlier (remaining.take query.limit) (remaining.drop query.limit)
      (query.slicePage artifactSha (earlier ++ remaining).length remaining) where
  split := by rw [List.append_assoc, List.take_append_drop]
  items := rfl
  total := rfl
  hasMore := by
    simp only [ResultQuery.slicePage, decide_eq_true_eq, ne_eq, List.drop_eq_nil_iff, not_le]
  windowStart := rfl
  windowEnd := rfl

/-- The pages show the requested rows behind the earlier ones, slice after slice. -/
def ShowsRest (requested earlier : List ResultPoint) : List ResultPage -> Prop
  | [] => earlier = requested
  | page :: later =>
      ∃ slice rest, ShowsSlice requested earlier slice rest page ∧ ShowsRest requested (earlier ++ slice) later

theorem ShowsRest.flatMap_items {requested earlier : List ResultPoint} {pages : List ResultPage}
    (shown : ShowsRest requested earlier pages) :
    earlier.map ResultPoint.value ++ pages.flatMap ResultPage.items = requested.map ResultPoint.value := by
  induction pages generalizing earlier with
  | nil =>
      rw [show earlier = requested from shown, List.flatMap_nil, List.append_nil]
  | cons page later inductionHypothesis =>
      rcases shown with ⟨slice, rest, pageShown, laterShown⟩
      have remaining := inductionHypothesis laterShown
      rw [List.map_append, List.append_assoc] at remaining
      rw [List.flatMap_cons, pageShown.items, remaining]

/-- Wherever the chain is cut, the page there continues what was shown before. -/
theorem ShowsRest.at_page {requested start : List ResultPoint} {before later : List ResultPage} {page : ResultPage}
    (shown : ShowsRest requested start (before ++ page :: later)) :
    ∃ earlier slice rest, start.map ResultPoint.value ++ before.flatMap ResultPage.items =
        earlier.map ResultPoint.value ∧ ShowsSlice requested earlier slice rest page := by
  induction before generalizing start with
  | nil =>
      rcases shown with ⟨slice, rest, pageShown, _⟩
      exact ⟨start, slice, rest, by rw [List.flatMap_nil, List.append_nil], pageShown⟩
  | cons first others inductionHypothesis =>
      rcases shown with ⟨slice, rest, firstShown, othersShown⟩
      rcases inductionHypothesis othersShown with ⟨earlier, pageSlice, pageRest, same, pageShown⟩
      refine ⟨earlier, pageSlice, pageRest, ?_, pageShown⟩
      rw [← same, List.flatMap_cons, firstShown.items, List.map_append, List.append_assoc]

/-- Resuming behind the last row of a page selects the rows the page left over. -/
theorem filter_resumed {query : ResultQuery} {points earlier shown left : List ResultPoint} {last : ResultPoint}
    (increasing : points.Pairwise fun left right => left.index < right.index)
    (split : query.requested points = earlier ++ shown ++ left) (isLast : shown.getLast? = some last) :
    (query.requested points).filter ({ query with after := some last.index } : ResultQuery).beyondCursor = left := by
  have sorted := requested_sorted query increasing
  have endsWith : shown = shown.dropLast ++ [last] := (List.dropLast_append_getLast? last isLast).symm
  have resumed : ({ query with after := some last.index } : ResultQuery).beyondCursor =
      fun point => decide (query.sort.Precedes last.index point.index) := by
    funext point
    exact beyondCursor_resumed query last.index point
  rw [split, endsWith, ← List.append_assoc earlier, List.append_assoc _ [last], List.singleton_append] at sorted ⊢
  rw [resumed]
  exact filter_beyond_eq query.sort.Precedes ResultPoint.index sorted

/-- From any cursor, the pages that follow show the rows beyond it. -/
theorem followCursors_shows {loadLocation : Dataset.Zones} {header : List Cell} {columns : Columns}
    {records : List Record} {points : List ResultPoint} {agent : Int}
    (readHeader : readColumns header = Except.ok columns)
    (readRecords : records.mapM (readPoint loadLocation columns agent) = Except.ok points)
    (increasing : points.Pairwise fun left right => left.index < right.index) (artifactSha : String)
    (fuel : Nat) (query : ResultQuery) (ofAgent : query.agent = agent) (positive : 0 < query.limit)
    (earlier remaining : List ResultPoint) (split : query.requested points = earlier ++ remaining)
    (beyond : (query.requested points).filter query.beyondCursor = remaining) (enough : remaining.length < fuel) :
    ∃ pages, followCursors loadLocation (some header :: records) artifactSha fuel query = Except.ok pages ∧
      ShowsRest (query.requested points) earlier pages := by
  induction fuel generalizing query earlier remaining with
  | zero => exact absurd enough (Nat.not_lt_zero _)
  | succ fuel inductionHypothesis =>
      subst ofAgent
      have page := readResultCSVPage_eq readHeader readRecords positive artifactSha
      rw [beyond, split] at page
      have shows := slicePage_shows query artifactSha earlier remaining
      rw [followCursors, page, ok_bind]
      by_cases more : query.limit < remaining.length
      · have notEmpty : remaining.take query.limit ≠ [] := by
          intro empty
          have none := congrArg List.length empty
          rw [List.length_take, List.length_nil] at none
          omega
        obtain ⟨last, isLast⟩ : ∃ last, (remaining.take query.limit).getLast? = some last :=
          ⟨_, List.getLast?_eq_getLast_of_ne_nil notEmpty⟩
        have cursor : (query.slicePage artifactSha (earlier ++ remaining).length remaining).nextCursor =
            some (encodeIndexedCursor "results.v1" query.binding last.index) := by
          simp [ResultQuery.slicePage, more, isLast]
        have listed : last ∈ points := by
          refine @mem_of_mem_requested query points last ?_
          rw [split]
          exact List.mem_append_right _ (List.mem_of_mem_take (List.mem_of_getLast? isLast))
        have notNegative : 0 ≤ last.index := by
          rcases source_of_mapM_ok readRecords listed with ⟨record, _, readRecord⟩
          exact (readPoint_index readHeader readRecord).2
        have slices : query.requested points =
            earlier ++ remaining.take query.limit ++ remaining.drop query.limit := by
          rw [split, List.append_assoc, List.take_append_drop]
        rcases inductionHypothesis { query with after := some last.index } rfl positive
            (earlier ++ remaining.take query.limit) (remaining.drop query.limit) slices
            (filter_resumed increasing slices isLast) (by rw [List.length_drop]; omega) with
          ⟨pages, followed, pagesShow⟩
        refine ⟨query.slicePage artifactSha (earlier ++ remaining).length remaining :: pages, ?_,
          remaining.take query.limit, remaining.drop query.limit, ?_, pagesShow⟩
        · rw [cursor]
          simp only [resume_cursor query notNegative, ok_bind, followed]
          rfl
        · rw [split]
          exact shows
      · have short : remaining.take query.limit = remaining := List.take_of_length_le (not_lt.mp more)
        refine ⟨[query.slicePage artifactSha (earlier ++ remaining).length remaining], ?_,
          remaining.take query.limit, remaining.drop query.limit, ?_, ?_⟩
        · have noCursor : (query.slicePage artifactSha (earlier ++ remaining).length remaining).nextCursor =
              none := by
            simp [ResultQuery.slicePage, more]
          rw [noCursor]
          rfl
        · rw [split]
          exact shows
        · rw [short]
          exact split.symm

/-- Following the cursors from the first page shows every row that passes the
filter exactly once and in the requested order.  Every page counts all matching
rows, tells whether one is left, and carries the indices at its two ends. -/
theorem result_paging_complete (loadLocation : Dataset.Zones) (header : List Cell) (columns : Columns)
    (records : List Record) (points : List ResultPoint) (query : ResultQuery) (artifactSha : String)
    (readHeader : readColumns header = Except.ok columns)
    (readRecords : records.mapM (readPoint loadLocation columns query.agent) = Except.ok points)
    (increasing : points.Pairwise fun left right => left.index < right.index) (positive : 1 ≤ query.limit)
    (firstPage : query.after = none) (fuel : Nat) (enough : (query.requested points).length < fuel) :
    ∃ pages, followCursors loadLocation (some header :: records) artifactSha fuel query = Except.ok pages ∧
      pages.flatMap ResultPage.items = (query.requested points).map ResultPoint.value ∧
      forall before page later, pages = before ++ page :: later ->
        ∃ earlier slice rest, before.flatMap ResultPage.items = earlier.map ResultPoint.value ∧
          ShowsSlice (query.requested points) earlier slice rest page := by
  have allBeyond : (query.requested points).filter query.beyondCursor = query.requested points := by
    rw [List.filter_eq_self]
    intro point _
    simp only [ResultQuery.beyondCursor, firstPage]
    cases query.sort <;> rfl
  rcases followCursors_shows readHeader readRecords increasing artifactSha fuel query rfl positive []
      (query.requested points) rfl allBeyond enough with ⟨pages, followed, shown⟩
  refine ⟨pages, followed, shown.flatMap_items, ?_⟩
  rintro before page later rfl
  rcases shown.at_page with ⟨earlier, slice, rest, same, pageShown⟩
  exact ⟨earlier, slice, rest, same, pageShown⟩

def sampleHeader : List Cell := ["OriginalRunningIndex".toList, "Time".toList, "Agent".toList]

def sampleRecords : List Record :=
  [some ["4".toList, "2024-03-01 08:00:00".toList, "1".toList],
    some ["7".toList, "2024-03-01 08:00:10".toList, "1".toList],
    some ["9".toList, "2024-03-01T08:00:20Z".toList, "1".toList]]

def samplePoint (index : Int) (time : Instant) (text : String) : ResultPoint :=
  { index, time, value := sampleHeader.zip [.integer index, .text text.toList, .integer 1] }

def samplePoints : List ResultPoint :=
  [samplePoint 4 ⟨1709251200, 0⟩ "2024-03-01 08:00:00", samplePoint 7 ⟨1709251210, 0⟩ "2024-03-01 08:00:10",
    samplePoint 9 ⟨1709280020, 0⟩ "2024-03-01T08:00:20Z"]

def sampleQuery : ResultQuery :=
  { runId := "run", agent := 1, limit := 1, indexFrom := some 5, indexTo := none, fromTime := none
    toTime := none, after := none, sort := .indexDesc, binding := "binding" }

theorem result_paging_complete_sample :
    ∃ pages, followCursors Dataset.sampleZones (some sampleHeader :: sampleRecords) "sha" 3 sampleQuery =
        Except.ok pages ∧
      pages.flatMap ResultPage.items = (sampleQuery.requested samplePoints).map ResultPoint.value ∧
      forall before page later, pages = before ++ page :: later ->
        ∃ earlier slice rest, before.flatMap ResultPage.items = earlier.map ResultPoint.value ∧
          ShowsSlice (sampleQuery.requested samplePoints) earlier slice rest page :=
  result_paging_complete Dataset.sampleZones sampleHeader ⟨sampleHeader, 0, 1⟩ sampleRecords samplePoints
    sampleQuery "sha" (by rfl) (by decide +kernel) (by decide) (by decide) rfl 3 (by decide)

end Results
end FederatedIot
