import FederatedIot.Worker.ArtifactCommit

namespace FederatedIot
namespace Worker
namespace Artifacts

open Foundation Foundation.Outcome Foundation.Files Foundation.Work

/-!
# Sessions that reach a commit

A write that succeeds, or whose failure is cleaned up, leaves no file that the inventory
does not know.  A session of such writes can build its manifest and commit, and what it
publishes is the manifest's.  Nothing keeps the manifest itself from being written once
more before the commit.
-/

variable {host : Host} {faults : Faults} {writer : Writer} {manifest : Manifest} {tree : Tree} {name : List Char}
  {data : Bytes} {mediaType : String} {required : Bool} {session : Session}

/-! ## Recorded files -/

/-- A write leaves an unknown file only by a failure after the move or in the clean-up. -/
theorem Recorded.write (recorded : Recorded writer) (opened : writer.closed = false) (cleans : CleansUp faults)
    (early : ¬FailsLate faults) :
    Leads (writeBytes host faults name data mediaType required) writer (fun _ later => Recorded later)
      fun _ later => Recorded later := by
  refine (writeBytes_leads opened).weaken ?_ ?_
  · rintro item later ⟨_, _, isItem, tree, placed, isLater⟩ path bytes found
    rw [isLater] at found ⊢
    have named : path = place manifestName ∨ ∃ other ∈ (writer.items.record item).entries.map ArtifactItem.name,
        path = place other := by
      by_cases same : path = place name
      · right
        rw [isItem]
        exact ⟨name, Inventory.mem_record_names.mpr (Or.inl rfl), same⟩
      · rcases recorded path bytes ((placed.files path same).symm.trans found) with isManifest | ⟨old, member, isPlace⟩
        · exact Or.inl isManifest
        · exact Or.inr ⟨_, Inventory.mem_record_names.mpr (Or.inr (List.mem_map_of_mem member)), isPlace⟩
    rcases named with isManifest | ⟨other, member, isPlace⟩
    · exact Or.inl isManifest
    · rcases List.mem_map.mp member with ⟨entry, inside, rfl⟩
      exact Or.inr ⟨entry, inside, isPlace⟩
  · rintro failure later (⟨same, _⟩ | ⟨_, tree, isLater, ⟨_, same⟩ | ⟨_, late, _⟩⟩)
    · rw [same]
      exact recorded
    · rw [isLater]
      intro path bytes found
      rw [Writer.withTree_tree, (same cleans).files path] at found
      exact recorded path bytes found
    · exact absurd late early

/-! ## Calls without a fault -/

theorem not_failsLate : ¬FailsLate noFaults := by
  rintro (fails | fails | fails)
  · cases fails
  · cases fails
  · cases fails

/-- A name of one part, with at most one dot. -/
def Flat (artifact : String) : Prop :=
  Admissible artifact.toList ∧ (PurePosixPath.parse artifact.toList).asPosix = artifact.toList ∧
    place artifact.toList = [artifact] ∧ artifact.toList.count '.' ≤ 1

instance admissibleDecidable (value : List Char) : Decidable (Admissible value) :=
  decidable_of_iff
    (value.length ≤ 512 ∧ ¬['/', '/'] <:+: value ∧ value.getLast? ≠ some '/' ∧ matchesPathPattern value = true ∧
      ∀ part ∈ Paths.components value, Paths.Forward part)
    ⟨fun ⟨short, single, closed, pattern, forward⟩ => ⟨short, single, closed, pattern, forward⟩,
      fun ⟨short, single, closed, pattern, forward⟩ => ⟨short, single, closed, pattern, forward⟩⟩

instance flatDecidable (artifact : String) : Decidable (Flat artifact) :=
  inferInstanceAs (Decidable (_ ∧ _))

/-- Only these names are in use at the top of the tree. -/
def Listing (names : List String) (tree : Tree) : Prop :=
  forall artifact, artifact ∉ names -> tree.get [artifact] = none

variable {names : List String} {artifact : String}

theorem Listing.placed (listing : Listing names writer.tree) (placed : Placed [artifact] data writer.tree tree) :
    Listing (artifact :: names) tree := by
  intro other fresh
  rw [List.mem_cons, not_or] at fresh
  rw [placed.beside [other] (fun same => fresh.1 (List.cons.inj same).1) (Nat.le_refl _)]
  exact listing other fresh.2

theorem Listing.mono {more : List String} (listing : Listing names tree) (grows : ∀ used ∈ names, used ∈ more) :
    Listing more tree :=
  fun artifact fresh => listing artifact fun member => fresh (grows artifact member)

/-- A temporary name has more dots than the names in use. -/
theorem Listing.temporary (listing : Listing names tree) (flat : ∀ used ∈ names, Flat used) (artifact : String) :
    tree.get (temporaryPath host 0 [artifact]) = none := by
  apply listing
  intro used
  have few := (flat _ used).2.2.2
  have marks : (".writing." : String).toList.count '.' = 2 := by decide
  have mark : ("." : String).toList.count '.' = 1 := by decide
  rw [String.toList_append, String.toList_append, String.toList_append, String.toList_append, List.count_append,
    List.count_append, List.count_append, List.count_append, marks, mark] at few
  omega

theorem not_stopped_flat (free : tree.get [artifact] ≠ some .directory)
    (temporary : tree.get (temporaryPath host 0 [artifact]) = none) : ¬Stopped host noFaults [artifact] tree := by
  rintro (⟨depth, below, _⟩ | ⟨stage, _, fails⟩ | ⟨parent, member, _⟩ | blocked | taken)
  · exact absurd below (Nat.not_lt.mpr (Nat.le_add_left 1 depth))
  · cases fails
  · cases member
  · exact free blocked
  · have candidate : temporaryPath host 0 [artifact] ∈
        (List.range 100).map fun sequence => temporaryPath host sequence [artifact] :=
      List.mem_map.mpr ⟨0, List.mem_range.mpr (by decide), rfl⟩
    have used := List.find?_eq_none.mp taken _ candidate
    rw [temporary] at used
    exact used rfl

/-- A write of a flat name succeeds where nothing is in the way. -/
theorem writeBytes_flat (opened : writer.closed = false) (flat : Flat artifact) (used : ∀ other ∈ names, Flat other)
    (listing : Listing names writer.tree) (free : writer.tree.get [artifact] ≠ some .directory) :
    Leads (writeBytes host noFaults artifact.toList data mediaType required) writer
      (fun item later => item = itemOf host artifact.toList data mediaType required ∧ exists tree,
        Placed [artifact] data writer.tree tree ∧
          later = { writer.withTree tree with items := writer.items.record item })
      fun _ _ => False := by
  have runs : ¬Stopped host noFaults (place artifact.toList) writer.tree := by
    rw [flat.2.2.1]
    exact not_stopped_flat free (listing.temporary used artifact)
  refine (writeBytes_leads opened).weaken ?_ ?_
  · rintro item later ⟨_, _, isItem, tree, placed, isLater⟩
    rw [flat.2.2.1] at placed
    exact ⟨isItem, tree, placed, isLater⟩
  · rintro failure later (⟨_, refused⟩ | ⟨_, tree, _, ⟨stopped, _⟩ | ⟨_, late, _⟩⟩)
    · exact refused flat.1
    · exact runs stopped
    · exact not_failsLate late

/-! ## From the writes to a commit -/

/-- The item of an empty required file. -/
def emptyItem (host : Host) (artifact : String) : ArtifactItem :=
  itemOf host artifact.toList [] "text/plain" true

/-- The writer has written empty files under these names, and nothing else. -/
structure Stocked (host : Host) (names : List String) (writer : Writer) : Prop where
  opened : writer.closed = false
  noPayload : writer.manifestPayload = none
  unpublished : writer.committedDirectory = none
  staged : writer.tmpDirectory = some writer.tree
  items : writer.items.entries = names.map (emptyItem host)
  listing : Listing names writer.tree
  files : ∀ artifact ∈ names, content? writer.tree [artifact] = some []
  recorded : Recorded writer

theorem Stocked.opened_writer (host : Host) : Stocked host [] Writer.opened where
  opened := rfl
  noPayload := rfl
  unpublished := rfl
  staged := rfl
  items := rfl
  listing := fun _ _ => rfl
  files := fun _ member => (by cases member)
  recorded := by
    intro path bytes found
    cases path with
    | nil => cases found
    | cons head rest => cases found

def emptyWrite (artifact : String) : Request :=
  .writeBytes artifact.toList [] "text/plain" true

theorem Stocked.write (stocked : Stocked host names session.writer) (flat : Flat artifact)
    (used : ∀ other ∈ names, Flat other) (fresh : artifact ∉ names) :
    Stocked host (names ++ [artifact]) (session.call host noFaults (emptyWrite artifact)).writer := by
  have free : session.writer.tree.get [artifact] ≠ some .directory := by
    rw [stocked.listing artifact fresh]
    rintro ⟨⟩
  apply @call_rule host noFaults session (emptyWrite artifact)
    fun later => Stocked host (names ++ [artifact]) later.writer
  have writes : Leads (writeBytes host noFaults artifact.toList [] "text/plain" true) session.writer _ _ :=
    Leads.both (writeBytes_flat stocked.opened flat used stocked.listing free)
      (stocked.recorded.write stocked.opened ⟨rfl, rfl⟩ not_failsLate)
  refine Leads.map (writes.weaken ?_ fun _ _ wrong => wrong.1.elim)
  rintro item later ⟨⟨isItem, tree, placed, isLater⟩, recorded⟩
  rw [isLater, isItem] at recorded ⊢
  have notRecorded : session.writer.items.contains artifact.toList = false := by
    rw [Bool.eq_false_iff, ne_eq, Inventory.contains_iff, stocked.items, List.map_map]
    intro member
    rcases List.mem_map.mp member with ⟨other, inside, same⟩
    rw [← String.toList_injective same] at fresh
    exact fresh inside
  refine ⟨stocked.opened, stocked.noPayload, stocked.unpublished, rfl, ?_, ?_, ?_, recorded⟩
  · change (session.writer.items.record _).entries = _
    rw [Inventory.record_fresh notRecorded, stocked.items, List.map_append]
    rfl
  · refine (stocked.listing.placed placed).mono fun other member => ?_
    rw [List.mem_append, List.mem_singleton, or_comm]
    exact List.mem_cons.mp member
  · intro other member
    rw [List.mem_append, List.mem_singleton] at member
    rcases member with inside | rfl
    · have different : [other] ≠ [artifact] := fun same => fresh ((List.cons.inj same).1 ▸ inside)
      exact (placed.files _ different).trans (stocked.files other inside)
    · exact content?_eq_some_iff.mpr placed.inPlace

def Session.calls (host : Host) (session : Session) (requests : List Request) : Session :=
  requests.foldl (fun session request => session.call host noFaults request) session

theorem reachable_call (reachable : ((sessions host).restrictSteps (Harmless host)).Reachable session)
    (request : Request) (harmless : Harmless host session (noFaults, request)) :
    ((sessions host).restrictSteps (Harmless host)).Reachable (session.call host noFaults request) :=
  @System.Reachable.step _ _ _ session _ (noFaults, request) reachable ⟨rfl, harmless⟩

theorem Stocked.writes {rest : List String} (stocked : Stocked host names session.writer)
    (reachable : ((sessions host).restrictSteps (Harmless host)).Reachable session)
    (flat : ∀ artifact ∈ names ++ rest, Flat artifact) (distinct : (names ++ rest).Nodup) :
    Stocked host (names ++ rest) (session.calls host (rest.map emptyWrite)).writer ∧
      ((sessions host).restrictSteps (Harmless host)).Reachable (session.calls host (rest.map emptyWrite)) := by
  induction rest generalizing names session with
  | nil =>
      rw [List.append_nil]
      exact ⟨stocked, reachable⟩
  | cons head rest inductionHypothesis =>
      have fresh : head ∉ names := fun member =>
        (List.nodup_append.mp distinct).2.2 head member head List.mem_cons_self rfl
      have next := stocked.write (flat head (List.mem_append_right _ List.mem_cons_self))
        (fun other member => flat other (List.mem_append_left _ member)) fresh
      have reached := reachable_call reachable (emptyWrite head) (Or.inr (Or.inl stocked.noPayload))
      rw [List.append_cons] at flat distinct ⊢
      exact inductionHypothesis next reached flat distinct

/-- The required files are flat. -/
theorem required_flat : ∀ artifact ∈ "artifact_manifest.json" :: requiredArtifactNames, Flat artifact := by
  decide +kernel

/-- The manifest of empty files. -/
def emptyManifest (host : Host) (items : List ArtifactItem) : Manifest where
  schemaVersion := artifactManifestVersion
  runId := "run_1"
  runMode := "CUSTOM"
  snapshotSha256 := host.sha256Hex []
  resultSchemaVersion := pointResultVersion
  createdAt := "2026-01-01T00:00:00.000+00:00"
  items := items

theorem parseItem_flat (flat : Flat artifact) (index : Nat) :
    parseItem (emptyItem host artifact) index = .ok (emptyItem host artifact) := by
  have text : matchesMediaType "text/plain" = true := by decide
  simp only [parseItem, bind_ok_iff, require_ok_iff, exists_const, pure_ok_iff, safeLogicalPath_ok_iff]
  exact ⟨artifact.toList, ⟨flat.1, flat.2.1.symm⟩, text, host.digest [], rfl⟩

theorem emptyManifest_accepted {items : List ArtifactItem}
    (required : items.Perm (requiredArtifactNames.map (emptyItem host))) :
    manifestItems (emptyManifest host items) = .ok items := by
  have each : ∀ item ∈ items, ∃ artifact ∈ requiredArtifactNames, item = emptyItem host artifact := by
    intro item member
    rcases List.mem_map.mp (required.mem_iff.mp member) with ⟨artifact, inside, rfl⟩
    exact ⟨artifact, inside, rfl⟩
  have parsed : items.zipIdx.mapM (fun entry => parseItem entry.1 entry.2) = .ok items := by
    rw [mapM_ok_iff]
    have shown : forall (entries : List ArtifactItem) (first : Nat), (∀ item ∈ entries, item ∈ items) ->
        List.Forall₂ (fun entry result => parseItem entry.1 entry.2 = .ok result) (entries.zipIdx first) entries := by
      intro entries
      induction entries with
      | nil => exact fun _ _ => List.Forall₂.nil
      | cons head rest inductionHypothesis =>
          intro first inside
          rcases List.forall_mem_cons.mp inside with ⟨headInside, restInside⟩
          rcases each head headInside with ⟨artifact, member, rfl⟩
          rw [List.zipIdx_cons]
          exact List.Forall₂.cons (parseItem_flat (required_flat artifact (List.mem_cons_of_mem _ member)) first)
            (inductionHypothesis (first + 1) restInside)
    exact shown items 0 fun _ member => member
  have names : (items.map ArtifactItem.name).Perm (requiredArtifactNames.map String.toList) := by
    have mapped := required.map ArtifactItem.name
    rw [List.map_map] at mapped
    exact mapped
  have distinct : (items.map ArtifactItem.name).Nodup := names.nodup_iff.mpr (by decide)
  have notListed : manifestName ∉ items.map ArtifactItem.name := by
    rw [names.mem_iff]
    decide
  have complete : absentNames items = [] := by
    refine List.filter_eq_nil_iff.mpr fun artifact member => ?_
    rw [Bool.not_eq_true, Bool.not_eq_false', List.any_eq_true]
    refine ⟨emptyItem host artifact, required.mem_iff.mpr (List.mem_map_of_mem member), ?_⟩
    rw [Bool.and_eq_true, decide_eq_true_eq]
    exact ⟨rfl, rfl⟩
  have identifier : Queue.isIdentifier "run_1" = true := by decide
  have mode : "CUSTOM" ∈ ["REFERENCE", "CUSTOM"] := by decide
  have time : matchesCreatedAt "2026-01-01T00:00:00.000+00:00" = true := by decide
  simp only [manifestItems, bind_ok_iff, require_ok_iff, exists_const, pure_ok_iff]
  exact ⟨rfl, identifier, mode, host.digest [], rfl, time, items, parsed, distinct, notListed, complete, rfl⟩

/-- The manifest of empty required files was built, and they are there. -/
structure Ready (host : Host) (manifest : Manifest) (writer : Writer) : Prop where
  opened : writer.closed = false
  unpublished : writer.committedDirectory = none
  staged : writer.tmpDirectory = some writer.tree
  payload : writer.manifestPayload = some manifest
  contains : writer.items.contains manifestName = true
  accepted : manifestItems manifest = .ok manifest.items
  files : ∀ item ∈ manifest.items, ∃ artifact ∈ requiredArtifactNames, item = emptyItem host artifact ∧
    content? writer.tree [artifact] = some []
  listing : Listing ("artifact_manifest.json" :: requiredArtifactNames) writer.tree
  free : writer.tree.get ["artifact_manifest.json"] ≠ some .directory

theorem validateStaged_total (staged : writer.tmpDirectory = some tree)
    (accepted : manifestItems manifest = .ok manifest.items)
    (files : ∀ item ∈ manifest.items, ∃ artifact ∈ requiredArtifactNames, item = emptyItem host artifact ∧
      content? tree [artifact] = some []) :
    Leads (validateStaged host noFaults manifest) writer (fun _ later => later = writer) fun _ _ => False := by
  have verified : verifyCommittedFiles host noFaults manifest.items (some tree) = .ok () := by
    refine forM_ok_iff.mpr fun item member => ?_
    rcases files item member with ⟨artifact, inside, rfl, found⟩
    have flat := required_flat artifact (List.mem_cons_of_mem _ inside)
    refine verifyFile_ok_iff.mpr ⟨rfl, [], ?_, rfl, rfl⟩
    rw [← found, ← flat.2.2.1]
    rfl
  have valid : validateArtifactManifest host noFaults manifest (some tree) = .ok manifest.items := by
    unfold validateArtifactManifest
    rw [mapError_ok_iff.mpr accepted, ok_bind, verified, ok_bind]
    rfl
  unfold Leads validateStaged
  rw [staged, valid]

theorem Ready.commit {writer : Writer} (ready : Ready host manifest writer) :
    Leads (commit host noFaults) writer (fun _ later => later = writer.publishing writer.tree) fun _ _ => False := by
  refine Leads.after_get (Leads.after_refuse ?_ fun _ => Leads.after_refuse ?_ fun _ => ?_)
  · rw [ready.opened]
    rintro ⟨⟩
  · rw [ready.contains]
    rintro ⟨⟩
  · rw [ready.payload]
    refine Leads.after_refuse ?_ fun _ => (validateStaged_total ready.staged ready.accepted ready.files).bind ?_
    · rw [ready.unpublished]
      rintro ⟨⟩
    · rintro _ current isCurrent
      rw [isCurrent]
      refine after_attempt (fun fails => (by cases fails)) fun _ => ?_
      have published : Leads (publishDirectory noFaults) writer
          (fun _ later => later = { writer with tmpDirectory := none, committedDirectory := some writer.tree })
          fun _ _ => False := by
        refine Leads.after_refuse (fun fails => (by cases fails)) fun _ => ?_
        rw [← ready.staged]
        exact Leads.modify rfl
      refine published.bind ?_
      rintro _ last isLast
      rw [isLast]
      exact Leads.after_modify (Leads.pure rfl)

def emptyBuild (host : Host) : Request :=
  .buildManifest "run_1" "CUSTOM" (host.sha256Hex []) "2026-01-01T00:00:00.000+00:00"

theorem Stocked.build (stocked : Stocked host requiredArtifactNames writer) :
    Leads (buildManifest host noFaults "run_1" "CUSTOM" (host.sha256Hex []) "2026-01-01T00:00:00.000+00:00") writer
      (fun manifest later => Ready host manifest later) fun _ _ => False := by
  have sorted : writer.items.sorted.Perm (requiredArtifactNames.map (emptyItem host)) := by
    rw [← stocked.items]
    exact Inventory.sorted_perm _
  have accepted := emptyManifest_accepted sorted
  have fresh : writer.items.contains manifestName = false := by
    rw [Bool.eq_false_iff, ne_eq, Inventory.contains_iff, stocked.items, List.map_map]
    change manifestName ∉ requiredArtifactNames.map String.toList
    decide
  have unused : "artifact_manifest.json" ∉ requiredArtifactNames := by decide
  have free : writer.tree.get ["artifact_manifest.json"] ≠ some .directory := by
    rw [stocked.listing _ unused]
    rintro ⟨⟩
  have files : ∀ item ∈ writer.items.sorted, ∃ artifact ∈ requiredArtifactNames, item = emptyItem host artifact ∧
      content? writer.tree [artifact] = some [] := by
    intro item member
    rcases List.mem_map.mp (sorted.mem_iff.mp member) with ⟨artifact, inside, rfl⟩
    exact ⟨artifact, inside, rfl, stocked.files artifact inside⟩
  have flat := List.forall_mem_cons.mp required_flat
  refine Leads.after_get (Leads.after_refuse ?_ fun _ => ?_)
  · rw [fresh]
    rintro ⟨⟩
  refine (validateStaged_total stocked.staged accepted files).bind ?_
  rintro _ current isCurrent
  rw [isCurrent]
  refine (writeBytes_flat stocked.opened flat.1 flat.2 stocked.listing free).bind ?_
  rintro item later ⟨isItem, tree, placed, isLater⟩
  rw [isLater, isItem]
  refine Leads.after_modify (Leads.pure ⟨stocked.opened, stocked.unpublished, rfl, rfl, ?_, accepted, ?_, ?_, ?_⟩)
  · exact Inventory.contains_iff.mpr (Inventory.mem_record_names.mpr (Or.inl rfl))
  · intro item member
    rcases files item member with ⟨artifact, inside, isEmpty, found⟩
    have different : [artifact] ≠ ["artifact_manifest.json"] := fun same => unused ((List.cons.inj same).1 ▸ inside)
    exact ⟨artifact, inside, isEmpty, (placed.files _ different).trans found⟩
  · exact stocked.listing.placed placed
  · change tree.get _ ≠ _
    rw [placed.inPlace]
    rintro ⟨⟩

/-- The session up to the manifest of empty files. -/
def readySession (host : Host) : Session :=
  (Session.opened.calls host (requiredArtifactNames.map emptyWrite)).call host noFaults (emptyBuild host)

theorem readySession_reachable (host : Host) :
    (exists manifest, Ready host manifest (readySession host).writer) ∧
      ((sessions host).restrictSteps (Harmless host)).Reachable (readySession host) := by
  have written := (Stocked.opened_writer host).writes (System.Reachable.of_initial rfl)
    (fun artifact member => required_flat artifact (List.mem_cons_of_mem _ member)) (by decide)
  refine ⟨?_, reachable_call written.2 _ (Or.inr (Or.inr written.1.recorded))⟩
  apply @call_rule host noFaults _ (emptyBuild host) fun later => exists manifest, Ready host manifest later.writer
  refine Leads.map (written.1.build.weaken ?_ fun _ _ wrong => wrong.elim)
  exact fun manifest _ ready => ⟨manifest, ready⟩

/-- A manifest that is ready is published. -/
theorem Ready.call_commit (ready : Ready host manifest session.writer) :
    (session.call host noFaults .commit).writer.committedDirectory = some session.writer.tree ∧
      exists items,
        { request := .commit, answer := .ok (.items items) } ∈ (session.call host noFaults .commit).log := by
  apply @call_rule host noFaults session .commit fun later =>
    later.writer.committedDirectory = some session.writer.tree ∧
      exists items, { request := .commit, answer := .ok (.items items) } ∈ later.log
  refine Leads.map (ready.commit.weaken ?_ fun _ _ wrong => wrong.elim)
  rintro items later isLater
  rw [isLater]
  exact ⟨rfl, items, List.mem_cons_self⟩

/-! ## The theorem -/

/-- A process whose hash function has the digests of no bytes and of the manifest below. -/
def sampleHost : Host where
  pid := 1
  sha256Hex data :=
    if data = [] then "e3b0c44298fc1c149afbf4c8996fb92427ae41e4649b934ca495991b7852b855"
    else "7e909d56cec299dbec63959f92b93c8c67ce3a51c2f2a7aa8fa6190ca070d268"
  digest data := by
    split
    · decide
    · decide

/-- A write of the manifest's own name after the manifest was built. -/
def rewrite : Request :=
  .writeBytes manifestName [] "text/plain" true

theorem Ready.rewritten (ready : Ready host manifest session.writer) :
    Ready host manifest (session.call host noFaults rewrite).writer ∧
      content? (session.call host noFaults rewrite).writer.tree (place manifestName) = some [] := by
  have flat := required_flat _ List.mem_cons_self
  apply @call_rule host noFaults session rewrite fun later =>
    Ready host manifest later.writer ∧ content? later.writer.tree (place manifestName) = some []
  refine Leads.map ((writeBytes_flat ready.opened flat required_flat ready.listing ready.free).weaken ?_
    fun _ _ wrong => wrong.elim)
  rintro item later ⟨isItem, tree, placed, isLater⟩
  rw [isLater]
  refine ⟨⟨ready.opened, ready.unpublished, rfl, ready.payload, ?_, ready.accepted, ?_, ?_, ?_⟩, ?_⟩
  · have known := Inventory.contains_iff.mp ready.contains
    exact Inventory.contains_iff.mpr (Inventory.mem_record_names.mpr (Or.inr known))
  · intro entry member
    rcases ready.files entry member with ⟨artifact, inside, isEmpty, found⟩
    have unused : "artifact_manifest.json" ∉ requiredArtifactNames := by decide
    have different : [artifact] ≠ ["artifact_manifest.json"] := fun same => unused ((List.cons.inj same).1 ▸ inside)
    exact ⟨artifact, inside, isEmpty, (placed.files _ different).trans found⟩
  · refine (ready.listing.placed placed).mono fun other member => ?_
    rcases List.mem_cons.mp member with rfl | inside
    · exact List.mem_cons_self
    · exact inside
  · change tree.get _ ≠ _
    rw [placed.inPlace]
    rintro ⟨⟩
  · change content? tree (place manifestName) = _
    rw [← flat.2.2.1] at placed
    exact content?_eq_some_iff.mpr placed.inPlace

end Artifacts
end Worker
end FederatedIot
