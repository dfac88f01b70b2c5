import FederatedIot.Queue.SimulationList
import Mathlib.Data.List.Infix

namespace FederatedIot
namespace Queue

open Foundation Foundation.Keyset

/-!
# The search of the history

A search text becomes a pattern between two percent signs.  Without the special
characters of a pattern it matches the texts that contain it.  With one of them
there is always a text that the pattern matches and that does not contain the
search text: the shortest text of the pattern is no longer than the search text,
and it is another one.
-/

/-! ## Patterns -/

/-- The character stands for itself in a pattern. -/
def Plain (char : Char) : Prop :=
  char ≠ '%' ∧ char ≠ '_' ∧ char ≠ '\\'

instance plainDecidable (char : Char) : Decidable (Plain char) :=
  inferInstanceAs (Decidable (_ ∧ _))

theorem like_plain {char : Char} (plain : Plain char) (pattern text : List Char) :
    like (char :: pattern) text = true ↔ ∃ rest, text = char :: rest ∧ like pattern rest = true := by
  cases text with
  | nil =>
      rw [like.eq_7 char pattern plain.1]
      constructor
      · intro wrong
        exact absurd wrong Bool.false_ne_true
      · rintro ⟨_, wrong, _⟩
        exact absurd wrong (List.cons_ne_nil _ _).symm
  | cons head tail =>
      rw [like.eq_6 char pattern head tail plain.1 plain.2.1 fun _ _ escape _ => plain.2.2 escape, Bool.and_eq_true,
        decide_eq_true_eq]
      constructor
      · rintro ⟨same, matched⟩
        exact ⟨tail, by rw [same], matched⟩
      · rintro ⟨rest, split, matched⟩
        rw [List.cons.injEq] at split
        exact ⟨split.1.symm, split.2 ▸ matched⟩

/-- A percent sign matches any text before the rest of the pattern. -/
theorem like_percent (pattern text : List Char) :
    like ('%' :: pattern) text = true ↔ ∃ rest, rest <:+ text ∧ like pattern rest = true := by
  induction text with
  | nil =>
      rw [like]
      constructor
      · intro matched
        exact ⟨[], List.suffix_refl [], matched⟩
      · rintro ⟨rest, ending, matched⟩
        rwa [List.suffix_nil.mp ending] at matched
  | cons head tail inductionHypothesis =>
      rw [like, Bool.or_eq_true, inductionHypothesis]
      constructor
      · rintro (matched | ⟨rest, ending, matched⟩)
        · exact ⟨head :: tail, List.suffix_refl _, matched⟩
        · exact ⟨rest, ending.trans (List.suffix_cons head tail), matched⟩
      · rintro ⟨rest, ending, matched⟩
        rcases List.suffix_cons_iff.mp ending with whole | later
        · exact Or.inl (whole ▸ matched)
        · exact Or.inr ⟨rest, later, matched⟩

theorem like_anything (text : List Char) : like ['%'] text = true :=
  (like_percent [] text).mpr ⟨[], List.nil_suffix, (like_nil []).mpr rfl⟩

/-- Plain characters before a last percent sign match a beginning. -/
theorem like_beginning {needle : List Char} (plain : ∀ char ∈ needle, Plain char) (text : List Char) :
    like (needle ++ ['%']) text = true ↔ needle <+: text := by
  induction needle generalizing text with
  | nil => exact ⟨fun _ => List.nil_prefix, fun _ => like_anything text⟩
  | cons char rest inductionHypothesis =>
      have restPlain := inductionHypothesis fun other member => plain other (List.mem_cons_of_mem char member)
      rw [List.cons_append, like_plain (plain char List.mem_cons_self)]
      constructor
      · rintro ⟨tail, split, matched⟩
        rw [split]
        exact List.cons_prefix_cons.mpr ⟨rfl, (restPlain tail).mp matched⟩
      · rintro ⟨tail, split⟩
        refine ⟨rest ++ tail, split.symm, (restPlain _).mpr (List.prefix_append rest tail)⟩

/-- A plain search text matches the texts that contain it. -/
theorem like_plain_search {needle : List Char} (plain : ∀ char ∈ needle, Plain char) (text : List Char) :
    like ('%' :: (needle ++ ['%'])) text = true ↔ needle <:+: text := by
  rw [like_percent, List.infix_iff_prefix_suffix]
  constructor
  · rintro ⟨rest, ending, matched⟩
    exact ⟨rest, (like_beginning plain rest).mp matched, ending⟩
  · rintro ⟨rest, beginning, ending⟩
    exact ⟨rest, ending, (like_beginning plain rest).mpr beginning⟩

/-! ## Texts that a search text misses -/

/-- The shortest text of the pattern of a search text, with some letter for a
character that may be any. -/
def shortest : List Char -> List Char
  | [] => []
  | '%' :: needle => shortest needle
  | '_' :: needle => 'a' :: shortest needle
  | '\\' :: literal :: needle => literal :: shortest needle
  | ['\\'] => ['%']
  | char :: needle => char :: shortest needle

theorem plain_of_cases {char : Char} {needle : List Char} (percent : char = '%' -> False)
    (underscore : char = '_' -> False)
    (escape : forall literal rest, char = '\\' -> needle = literal :: rest -> False)
    (final : char = '\\' -> needle = [] -> False) : Plain char := by
  refine ⟨percent, underscore, fun backslash => ?_⟩
  cases needle with
  | nil => exact final backslash rfl
  | cons literal rest => exact escape literal rest backslash rfl

theorem like_shortest (needle : List Char) : like (needle ++ ['%']) (shortest needle) = true := by
  fun_induction shortest needle with
  | case1 => exact like_anything []
  | case2 needle inductionHypothesis =>
      exact (like_percent _ _).mpr ⟨_, List.suffix_refl _, inductionHypothesis⟩
  | case3 needle inductionHypothesis => rwa [List.cons_append, like]
  | case4 literal needle inductionHypothesis =>
      rw [List.cons_append, List.cons_append, like, decide_eq_true rfl, Bool.true_and]
      exact inductionHypothesis
  | case5 => rw [List.cons_append, List.nil_append, like, decide_eq_true rfl, Bool.true_and, like_nil]
  | case6 char needle percent underscore escape final inductionHypothesis =>
      rw [List.cons_append, like_plain (plain_of_cases percent underscore escape final)]
      exact ⟨_, rfl, inductionHypothesis⟩

theorem shortest_length (needle : List Char) : (shortest needle).length ≤ needle.length := by
  fun_induction shortest needle with
  | case1 => exact Nat.le_refl 0
  | case2 needle inductionHypothesis => exact Nat.le_succ_of_le inductionHypothesis
  | case3 needle inductionHypothesis => exact Nat.succ_le_succ inductionHypothesis
  | case4 literal needle inductionHypothesis => exact Nat.le_succ_of_le (Nat.succ_le_succ inductionHypothesis)
  | case5 => exact Nat.le_refl 1
  | case6 char needle percent underscore escape final inductionHypothesis => exact Nat.succ_le_succ inductionHypothesis

/-- Only a plain search text is its own shortest text. -/
theorem plain_of_shortest {needle : List Char} (same : shortest needle = needle) : ∀ char ∈ needle, Plain char := by
  fun_induction shortest needle with
  | case1 => exact fun _ member => absurd member List.not_mem_nil
  | case2 needle _ =>
      have longer := congrArg List.length same
      have short := shortest_length needle
      rw [List.length_cons] at longer
      omega
  | case3 needle _ => exact absurd (List.cons.inj same).1 (by decide)
  | case4 literal needle _ =>
      have longer := congrArg List.length same
      have short := shortest_length needle
      rw [List.length_cons, List.length_cons, List.length_cons] at longer
      omega
  | case5 => exact absurd (List.cons.inj same).1 (by decide)
  | case6 char needle percent underscore escape final inductionHypothesis =>
      intro other member
      rcases List.mem_cons.mp member with first | later
      · subst first
        exact plain_of_cases percent underscore escape final
      · exact inductionHypothesis (List.cons.inj same).2 other later

/-- The text that tells a search text with special characters from its pattern. -/
theorem shortest_misses {needle : List Char} (special : ¬∀ char ∈ needle, Plain char) :
    like ('%' :: (needle ++ ['%'])) (shortest needle) = true ∧ ¬needle <:+: shortest needle := by
  constructor
  · exact (like_percent _ _).mpr ⟨_, List.suffix_refl _, like_shortest needle⟩
  · intro inside
    exact special (plain_of_shortest (inside.eq_of_length_le (shortest_length needle)).symm)

theorem mem_shortest {needle : List Char} {char : Char} (member : char ∈ shortest needle) :
    char ∈ needle ∨ char = 'a' ∨ char = '%' := by
  fun_induction shortest needle with
  | case1 => exact absurd member List.not_mem_nil
  | case2 needle inductionHypothesis => exact (inductionHypothesis member).imp_left (List.mem_cons_of_mem _)
  | case3 needle inductionHypothesis =>
      rcases List.mem_cons.mp member with first | later
      · exact Or.inr (Or.inl first)
      · exact (inductionHypothesis later).imp_left (List.mem_cons_of_mem _)
  | case4 literal needle inductionHypothesis =>
      rcases List.mem_cons.mp member with first | later
      · exact Or.inl (List.mem_cons_of_mem _ (List.mem_cons.mpr (Or.inl first)))
      · exact (inductionHypothesis later).imp_left fun inside => List.mem_cons_of_mem _ (List.mem_cons_of_mem _ inside)
  | case5 => exact Or.inr (Or.inr (List.mem_singleton.mp member))
  | case6 char needle percent underscore escape final inductionHypothesis =>
      rcases List.mem_cons.mp member with first | later
      · exact Or.inl (List.mem_cons.mpr (Or.inl first))
      · exact (inductionHypothesis later).imp_left (List.mem_cons_of_mem _)

/-! ## Lists of runs -/

/-- The texts of a run that are searched. -/
def searchedTexts (row : ListedRow) : List String :=
  [row.1.runId, row.1.displayName.getD "", snapshotDatasetName row.2]

/-- The search text in small letters is part of a text of the run in small
letters. -/
def occursLiterally (text : TextSearch) (search : String) (row : ListedRow) : Bool :=
  (searchedTexts row).any fun value => decide ((text.toLower search).toList <:+: (text.lower value).toList)

/-- The run passes the filter without its search, and the search text occurs. -/
def literalListWhere (text : TextSearch) (query : SimulationListQuery) (row : ListedRow) : Bool :=
  simulationListWhere text { query with search := "" } row && occursLiterally text query.search row

/-- The page shows the first of the matching runs beyond the cursor, and counts all
the matching ones. -/
structure ShowsMatching (matching : ListedRow -> Bool) (query : SimulationListQuery) (tables : Tables)
    (page : SimulationPage) : Prop where
  total : page.total = ((listedRows tables).filter matching).length
  items : page.items =
    (((((listedRows tables).filter matching).filter fun row =>
        query.cursor.all fun cursor => cursor.precedes query.view row).insertionSort fun first second =>
          listedBefore query.view first second = true).take query.limit.toNat).map
      fun row => simulationRow tables row.1 row.2
  hasMore : page.hasMore = decide (query.limit.toNat <
    (((listedRows tables).filter matching).filter fun row =>
      query.cursor.all fun cursor => cursor.precedes query.view row).length)

/-- Every list that is asked for with the search text shows the runs in which it
occurs. -/
def SearchesLiterally (text : TextSearch) (search : String) : Prop :=
  forall (query : SimulationListQuery) (tables : Tables) (page : SimulationPage), query.search = search ->
    listSimulations text query tables = .ok page -> ShowsMatching (literalListWhere text query) query tables page

/-- Both functions put small letters in the place of capitals, and a text of small
letters stays as it is. -/
structure LowersBy (text : TextSearch) (small : Char -> Char) : Prop where
  toLower : forall search, (text.toLower search).toList = search.toList.map small
  lower : forall value : String, (∀ char ∈ value.toList, small char = char) -> text.lower value = value
  again : forall char, small (small char) = small char
  letter : small 'a' = 'a'
  percent : small '%' = '%'

theorem listSimulations_shows {text : TextSearch} {query : SimulationListQuery} {tables : Tables}
    {page : SimulationPage} (listed : listSimulations text query tables = .ok page) :
    ShowsMatching (simulationListWhere text query) query tables page := by
  rw [listSimulations] at listed
  split at listed
  · cases listed
  · split at listed
    · cases listed
    · rw [Except.ok.injEq] at listed
      subst listed
      refine ⟨rfl, ?_, ?_⟩
      · rw [simulationPageFromRecords, keepFirst_all, ← List.map_take, List.take_take,
          Nat.min_eq_left (Nat.le_succ _)]
      · rw [simulationPageFromRecords, keepFirst_all, List.length_map, List.length_take,
          List.length_insertionSort]
        apply decide_eq_decide.mpr
        omega

/-- The clause of the search stands beside the other clauses. -/
theorem simulationListWhere_search (text : TextSearch) (query : SimulationListQuery) (row : ListedRow) :
    simulationListWhere text query row =
      (simulationListWhere text { query with search := "" } row &&
        (decide (query.search = "") || matchesSearch text query.search row)) := by
  rw [Bool.eq_iff_iff]
  simp only [simulationListWhere, Bool.and_eq_true, decide_true, Bool.true_or]
  constructor
  · rintro ⟨⟨⟨before, search⟩, after⟩, last⟩
    exact ⟨⟨⟨⟨before, trivial⟩, after⟩, last⟩, search⟩
  · rintro ⟨⟨⟨⟨before, _⟩, after⟩, last⟩, search⟩
    exact ⟨⟨⟨before, search⟩, after⟩, last⟩

theorem matchesSearch_any (text : TextSearch) (search : String) (row : ListedRow) :
    matchesSearch text search row = (searchedTexts row).any fun value =>
      like ('%' :: ((text.toLower search).toList ++ ['%'])) (text.lower value).toList := by
  have needle : ("%" ++ text.toLower search ++ "%").toList = '%' :: ((text.toLower search).toList ++ ['%']) := by
    rw [String.toList_append, String.toList_append]
    rfl
  rw [matchesSearch, needle, searchedTexts, List.any_cons, List.any_cons, List.any_cons, List.any_nil,
    Bool.or_false, Bool.or_assoc]

theorem literal_of_plain {text : TextSearch} {small : Char -> Char} (lowers : LowersBy text small) {search : String}
    (plain : ∀ char ∈ (text.toLower search).toList, Plain char) : SearchesLiterally text search := by
  rintro query tables page rfl listed
  have same : simulationListWhere text query = literalListWhere text query := by
    funext row
    rw [simulationListWhere_search, literalListWhere]
    congr 1
    by_cases empty : query.search = ""
    · have needle : (text.toLower query.search).toList = [] := by
        rw [lowers.toLower, empty]
        rfl
      rw [decide_eq_true empty, Bool.true_or, occursLiterally, searchedTexts, List.any_cons, needle,
        decide_eq_true List.nil_infix, Bool.true_or]
    · rw [decide_eq_false empty, Bool.false_or, matchesSearch_any, occursLiterally]
      congr 1
      funext value
      rw [Bool.eq_iff_iff, like_plain_search plain, decide_eq_true_eq]
  rw [← same]
  exact listSimulations_shows listed

/-! ## A run for every special search text -/

/-- The history without other filters. -/
def searchQuery (search : String) : SimulationListQuery :=
  { view := "history", runId := "", status := none, datasetId := "", parameterProfileVersionId := "", runMode := none
    search, createdFrom := none, createdTo := none, cursor := none, limit := 1 }

/-- A run that has ended, with a name of its own. -/
def namedRun (name : String) : Simulation :=
  { runId := "a", displayName := some name, datasetId := "dataset", parameterProfileVersionId := "profile"
    loadMappingVersionId := "mapping", runMode := .custom, status := .completed, currentStage := none, enqueueSeq := 1
    cancelRequestedAt := none, cancelReason := none, startedAt := none, finishedAt := none, errorJson := none
    artifactState := .committed, lastHeartbeatAt := none, attemptId := none, createdAt := 0, updatedAt := 0 }

def namedSnapshot : SimulationSnapshot :=
  { runId := "a", snapshotJson := .object [], snapshotSha256 := "sha" }

/-- The tables with this run only. -/
def namedTables (name : String) : Tables :=
  { schedulerControl := none, datasets := [], parameterProfiles := [], loadMappingProfiles := []
    simulations := [namedRun name], simulationSnapshots := [namedSnapshot], workerJobs := [], simulationEvents := []
    artifacts := [], alarmIndex := [], idempotencyKeys := [], workerInstances := [], workerJobEvents := [] }

theorem listedRows_named (name : String) : listedRows (namedTables name) = [(namedRun name, namedSnapshot)] :=
  rfl

theorem named_otherFilters (text : TextSearch) (search name : String) :
    simulationListWhere text { searchQuery search with search := "" } (namedRun name, namedSnapshot) = true :=
  rfl

/-- The count of the code for the only run. -/
theorem named_total {text : TextSearch} {search name : String}
    (matched : matchesSearch text search (namedRun name, namedSnapshot) = true) :
    ∃ page, listSimulations text (searchQuery search) (namedTables name) = .ok page ∧ page.total = 1 := by
  refine ⟨_, rfl, ?_⟩
  have passes : simulationListWhere text (searchQuery search) (namedRun name, namedSnapshot) = true := by
    rw [simulationListWhere_search, named_otherFilters, Bool.true_and, Bool.or_eq_true]
    exact Or.inr matched
  show ((listedRows (namedTables name)).filter (simulationListWhere text (searchQuery search))).length = 1
  rw [listedRows_named, List.filter_cons_of_pos passes]
  rfl

/-- With a special character in the search text there is a run that is listed and
that does not contain it. -/
theorem not_literal_of_special {text : TextSearch} {small : Char -> Char} (lowers : LowersBy text small)
    {search : String} (special : ¬∀ char ∈ (text.toLower search).toList, Plain char) :
    ¬SearchesLiterally text search := by
  intro literal
  have misses := shortest_misses special
  have stays : text.lower (String.ofList (shortest (text.toLower search).toList)) =
      String.ofList (shortest (text.toLower search).toList) := by
    apply lowers.lower
    intro char member
    rw [String.toList_ofList] at member
    rcases mem_shortest member with inside | letter | percent
    · rw [lowers.toLower] at inside
      rcases List.mem_map.mp inside with ⟨capital, _, rfl⟩
      exact lowers.again capital
    · rw [letter, lowers.letter]
    · rw [percent, lowers.percent]
  have single : "a".toList = ['a'] := rfl
  have letter : text.lower "a" = "a" := by
    apply lowers.lower
    intro char member
    rw [single] at member
    rw [List.mem_singleton.mp member, lowers.letter]
  have nothing : text.lower "" = "" := lowers.lower "" fun char member => absurd member List.not_mem_nil
  have matched : matchesSearch text search
      (namedRun (String.ofList (shortest (text.toLower search).toList)), namedSnapshot) = true := by
    rw [matchesSearch_any, searchedTexts, List.any_cons, List.any_cons]
    apply Bool.or_eq_true_iff.mpr
    right
    apply Bool.or_eq_true_iff.mpr
    left
    show like _ (text.lower (String.ofList (shortest (text.toLower search).toList))).toList = true
    rw [stays, String.toList_ofList]
    exact misses.1
  have absent : occursLiterally text search
      (namedRun (String.ofList (shortest (text.toLower search).toList)), namedSnapshot) = false := by
    rw [occursLiterally, List.any_eq_false]
    intro value member occurs
    have inside := of_decide_eq_true occurs
    rcases List.mem_cons.mp member with run | others
    · apply special
      intro char inNeedle
      have isLetter : char ∈ (text.lower value).toList := inside.subset inNeedle
      rw [run] at isLetter
      change char ∈ (text.lower "a").toList at isLetter
      rw [letter, single] at isLetter
      rw [List.mem_singleton.mp isLetter]
      decide
    · rcases List.mem_cons.mp others with name | last
      · rw [name] at inside
        change _ <:+: (text.lower (String.ofList (shortest (text.toLower search).toList))).toList at inside
        rw [stays, String.toList_ofList] at inside
        exact misses.2 inside
      · apply special
        intro char inNeedle
        have inEmpty : char ∈ (text.lower value).toList := inside.subset inNeedle
        rw [List.mem_singleton.mp last] at inEmpty
        change char ∈ (text.lower "").toList at inEmpty
        rw [nothing] at inEmpty
        exact absurd inEmpty List.not_mem_nil
  rcases named_total matched with ⟨page, listed, one⟩
  have counted := (literal (searchQuery search) _ page rfl listed).total
  rw [one, listedRows_named, List.filter_cons_of_neg] at counted
  · cases counted
  · rw [literalListWhere, named_otherFilters, Bool.true_and]
    exact fun occurs => Bool.false_ne_true (absent.symm.trans occurs)

/-- A search text is found literally exactly when no character of it is special in a
pattern. -/
theorem history_search_literal_iff (text : TextSearch) (small : Char -> Char) (lowers : LowersBy text small)
    (search : String) :
    SearchesLiterally text search ↔ ∀ char ∈ (text.toLower search).toList, char ≠ '%' ∧ char ≠ '_' ∧ char ≠ '\\' := by
  constructor
  · intro literal
    by_contra special
    exact not_literal_of_special lowers special literal
  · intro plain
    exact literal_of_plain lowers plain

def asciiLower (value : String) : String :=
  String.ofList (value.toList.map Char.toLower)

/-- Both functions for texts of ASCII characters. -/
def asciiSearch : TextSearch :=
  { lower := asciiLower, toLower := asciiLower }

theorem ascii_lowersBy : LowersBy asciiSearch Char.toLower where
  toLower := fun _ => String.toList_ofList
  lower := by
    intro value small
    have same : value.toList.map Char.toLower = value.toList :=
      (List.map_congr_left small).trans (List.map_id _)
    show String.ofList (value.toList.map Char.toLower) = value
    rw [same, String.ofList_toList]
  again := by
    intro char
    have ascii : forall code : Nat, code < 128 -> (Char.ofNat code).toLower.toLower = (Char.ofNat code).toLower := by
      decide +kernel
    by_cases inside : char.toNat < 128
    · have small := ascii char.toNat inside
      rwa [Char.ofNat_toNat] at small
    · have stays : char.toLower = char := by
        refine dif_neg ?_
        rintro ⟨_, below⟩
        exact inside (Nat.lt_of_le_of_lt (UInt32.le_iff_toNat_le.mp below) (by decide))
      rw [stays, stays]
  letter := rfl
  percent := rfl

theorem underscore_matches :
    matchesSearch asciiSearch "motor_1" (namedRun "Motor 12", namedSnapshot) = true := by
  have needle : (asciiSearch.toLower "motor_1").toList = "motor_1".toList := rfl
  have name : (asciiSearch.lower "Motor 12").toList = "motor 12".toList := rfl
  rw [matchesSearch_any, needle]
  simp [searchedTexts, namedRun, name, like]

/-- The run with another name than `motor_1` that is found by this search text. -/
theorem history_search_underscore :
    ¬SearchesLiterally asciiSearch "motor_1" ∧
      (∃ page, listSimulations asciiSearch (searchQuery "motor_1") (namedTables "Motor 12") = .ok page ∧
        page.total = 1) ∧
      literalListWhere asciiSearch (searchQuery "motor_1") (namedRun "Motor 12", namedSnapshot) = false := by
  have listed := named_total underscore_matches
  refine ⟨?_, listed, rfl⟩
  intro literal
  rcases listed with ⟨page, shown, one⟩
  have counted := (literal (searchQuery "motor_1") _ page rfl shown).total
  have none : ((listedRows (namedTables "Motor 12")).filter
      (literalListWhere asciiSearch (searchQuery "motor_1"))).length = 0 := rfl
  rw [one, none] at counted
  cases counted

theorem history_search_literal_iff_sample :
    SearchesLiterally asciiSearch "Motor" ↔
      ∀ char ∈ (asciiSearch.toLower "Motor").toList, char ≠ '%' ∧ char ≠ '_' ∧ char ≠ '\\' :=
  history_search_literal_iff asciiSearch Char.toLower ascii_lowersBy "Motor"

end Queue
end FederatedIot
