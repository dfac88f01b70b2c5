import FederatedIot.Worker.ArtifactFiles

namespace FederatedIot
namespace Worker
namespace Artifacts

open Foundation Foundation.Outcome Foundation.Files Foundation.JsonText Foundation.Paths Foundation.Work

/-!
# What a commit publishes

A commit checks the files that the manifest lists and not the others, and it does not
look at the file of the manifest.  The committed directory is the manifest's as long as
nothing changes the staged files once the manifest is built, and nothing lies beside the
recorded files before.
-/

variable {host : Host} {faults : Faults} {writer : Writer} {manifest : Manifest} {tree : Tree} {name : List Char}
  {data : Bytes} {mediaType : String} {required : Bool}

/-! ## The inventory -/

namespace Inventory

variable {items : Inventory} {item : ArtifactItem}

theorem contains_iff : items.contains name = true ↔ name ∈ items.entries.map ArtifactItem.name := by
  rw [contains, List.any_eq_true, List.mem_map]
  simp only [decide_eq_true_eq]

theorem sorted_perm (items : Inventory) : items.sorted.Perm items.entries :=
  List.perm_insertionSort _ _

theorem recordEntry_fresh {entries : List ArtifactItem} (fresh : item.name ∉ entries.map ArtifactItem.name) :
    recordEntry item entries = entries ++ [item] := by
  induction entries with
  | nil => rfl
  | cons head rest inductionHypothesis =>
      rw [List.map_cons, List.mem_cons, not_or] at fresh
      rw [recordEntry, if_neg (Ne.symm fresh.1), inductionHypothesis fresh.2, List.cons_append]

theorem recordEntry_known {entries : List ArtifactItem} (distinct : (entries.map ArtifactItem.name).Nodup)
    (known : item ∈ entries) : recordEntry item entries = entries := by
  induction entries with
  | nil => cases known
  | cons head rest inductionHypothesis =>
      rw [List.map_cons, List.nodup_cons] at distinct
      rw [recordEntry]
      rcases List.mem_cons.mp known with same | inRest
      · rw [if_pos (congrArg ArtifactItem.name same.symm), same]
      · have other : head.name ≠ item.name := by
          intro same
          rw [same] at distinct
          exact distinct.1 (List.mem_map_of_mem inRest)
        rw [if_neg other, inductionHypothesis distinct.2 inRest]

theorem mem_record_names {other : List Char} : other ∈ (items.record item).entries.map ArtifactItem.name ↔
    other = item.name ∨ other ∈ items.entries.map ArtifactItem.name := by
  change other ∈ (recordEntry item items.entries).map ArtifactItem.name ↔ _
  rw [recordEntry_names]
  split
  · next known =>
      refine (or_iff_right_of_imp ?_).symm
      rintro rfl
      exact known
  · rw [List.mem_append, List.mem_singleton, or_comm]

/-- Recording an item again changes nothing. -/
theorem record_known (known : item ∈ items.entries) : items.record item = items := by
  cases items with
  | mk entries distinct =>
      unfold record
      congr 1
      exact recordEntry_known distinct known

theorem record_fresh (fresh : items.contains item.name = false) :
    (items.record item).entries = items.entries ++ [item] :=
  recordEntry_fresh fun member => Bool.eq_false_iff.mp fresh (contains_iff.mpr member)

end Inventory

/-! ## Validation -/

/-- What the validation of a manifest has checked. -/
structure Validated (host : Host) (manifest : Manifest) (tree : Tree) : Prop where
  apart : (place manifestName :: manifest.items.map fun item => place item.name).Nodup
  listed : ∀ item ∈ manifest.items, exists bytes, content? tree (place item.name) = some bytes ∧
    bytes.length = item.sizeBytes ∧ host.sha256Hex bytes = item.sha256

theorem parseItem_ok {item parsed : ArtifactItem} {index : Nat} (accepted : parseItem item index = .ok parsed) :
    Admissible item.name ∧ parsed = { item with name := (PurePosixPath.parse item.name).asPosix } := by
  simp only [parseItem, bind_ok_iff, require_ok_iff, exists_const, pure_ok_iff, safeLogicalPath_ok_iff] at accepted
  rcases accepted with ⟨name, ⟨admissible, rfl⟩, _, _, rfl⟩
  exact ⟨admissible, rfl⟩

/-- The items that were validated are those of the manifest under their normal names. -/
theorem manifestItems_ok {items : List ArtifactItem} (accepted : manifestItems manifest = .ok items) :
    (∀ item ∈ manifest.items, Admissible item.name) ∧
      (items = manifest.items.map fun item => { item with name := (PurePosixPath.parse item.name).asPosix }) ∧
      (items.map ArtifactItem.name).Nodup ∧ manifestName ∉ items.map ArtifactItem.name := by
  simp only [manifestItems, bind_ok_iff, require_ok_iff, exists_const, pure_ok_iff] at accepted
  rcases accepted with ⟨_, _, _, _, _, _, parsed, isParsed, distinct, notListed, _, rfl⟩
  refine ⟨?_, ?_, distinct, notListed⟩
  · intro item member
    rcases List.mem_iff_getElem.mp member with ⟨index, below, rfl⟩
    have inside : (manifest.items[index], index) ∈ manifest.items.zipIdx := by
      rw [List.mem_zipIdx_iff_getElem?]
      exact List.getElem?_eq_getElem below
    rcases mem_of_mapM_ok isParsed inside with ⟨_, _, accepted⟩
    exact (parseItem_ok accepted).1
  · have pairs := mapM_ok_iff.mp isParsed
    have shown : forall (entries : List (ArtifactItem × Nat)) (results : List ArtifactItem),
        List.Forall₂ (fun entry result => parseItem entry.1 entry.2 = .ok result) entries results ->
          results = (entries.map Prod.fst).map
            fun item => { item with name := (PurePosixPath.parse item.name).asPosix } := by
      intro entries results each
      induction each with
      | nil => rfl
      | cons accepted _ inductionHypothesis =>
          rw [List.map_cons, List.map_cons, ← inductionHypothesis, ← (parseItem_ok accepted).2]
    have named := shown _ _ pairs
    rw [List.zipIdx_map_fst] at named
    exact named

theorem verifyFile_ok_iff {item : ArtifactItem} :
    verifyFile host faults tree item = .ok () ↔ faults.unread item.name = false ∧
      exists bytes, content? tree (place item.name) = some bytes ∧ bytes.length = item.sizeBytes ∧
        host.sha256Hex bytes = item.sha256 := by
  unfold verifyFile content?
  cases tree.get (place item.name) with
  | none => exact iff_of_false (by rintro ⟨⟩) (by rintro ⟨_, _, ⟨⟩, _⟩)
  | some node =>
      cases node with
      | directory => exact iff_of_false (by rintro ⟨⟩) (by rintro ⟨_, _, ⟨⟩, _⟩)
      | file bytes =>
          simp only [bind_ok_iff, require_ok_iff, exists_const, Option.some.injEq, exists_eq_left']

theorem validated_of_ok {root : Option Tree} {items : List ArtifactItem}
    (accepted : validateArtifactManifest host faults manifest root = .ok items) :
    exists tree, root = some tree ∧ Validated host manifest tree ∧ manifestItems manifest = .ok items := by
  simp only [validateArtifactManifest, bind_ok_iff, pure_ok_iff] at accepted
  rcases accepted with ⟨items, isParsed, _, verified, rfl⟩
  have parsed := mapError_ok_iff.mp isParsed
  rcases manifestItems_ok parsed with ⟨admissible, rfl, distinct, notListed⟩
  cases root with
  | none => cases verified
  | some tree =>
      refine ⟨tree, rfl, ⟨?_, ?_⟩, parsed⟩
      · rw [List.map_map] at distinct notListed
        have manifestPattern : matchesPathPattern manifestName = true := by decide
        have normal : (PurePosixPath.parse manifestName).asPosix = manifestName := by decide
        refine List.nodup_cons.mpr ⟨?_, ?_⟩
        · intro member
          rcases List.mem_map.mp member with ⟨item, inside, same⟩
          apply notListed
          refine List.mem_map.mpr ⟨item, inside, ?_⟩
          exact (asPosix_of_place (admissible item inside).pattern manifestPattern same).trans normal
        · refine List.Nodup.map_on ?_ (List.Nodup.of_map _ distinct)
          intro first firstInside second secondInside same
          have names :=
            asPosix_of_place (admissible first firstInside).pattern (admissible second secondInside).pattern same
          exact List.inj_on_of_nodup_map distinct firstInside secondInside names
      · intro item member
        have checked := forM_ok_iff.mp verified _ (List.mem_map_of_mem member)
        rcases verifyFile_ok_iff.mp checked with ⟨_, bytes, found, size, digest⟩
        rw [place_asPosix (admissible item member).pattern] at found
        exact ⟨bytes, found, size, digest⟩

/-! ## The calls of an open writer -/

/-- The writer with other staged files. -/
def Writer.withTree (writer : Writer) (tree : Tree) : Writer :=
  { writer with tmpDirectory := some tree }

/-- The writer after its files were published. -/
def Writer.publishing (writer : Writer) (tree : Tree) : Writer :=
  { writer with tmpDirectory := none, committedDirectory := some tree, closed := true }

@[simp]
theorem Writer.withTree_tree (writer : Writer) (tree : Tree) : (writer.withTree tree).tree = tree :=
  rfl

/-- A call fails after the file has reached its place. -/
def FailsLate (faults : Faults) : Prop :=
  faults.fails .targetMode = true ∨ faults.fails .measure = true ∨ faults.fails .digest = true

theorem writeBytes_closed (closed : writer.closed = true) :
    Leads (writeBytes host faults name data mediaType required) writer (fun _ _ => False)
      fun _ later => later = writer :=
  Leads.after_get (Leads.after_refuse (fun _ => rfl) fun notClosed => absurd closed notClosed)

/-- What a write does to an open writer. -/
theorem writeBytes_leads (opened : writer.closed = false) :
    Leads (writeBytes host faults name data mediaType required) writer
      (fun item later => Admissible name ∧ ¬Stopped host faults (place name) writer.tree ∧
        item = itemOf host name data mediaType required ∧ exists tree, Placed (place name) data writer.tree tree ∧
          later = { writer.withTree tree with items := writer.items.record item })
      fun _ later => (later = writer ∧ ¬Admissible name) ∨ (Admissible name ∧ exists tree, later = writer.withTree tree ∧
        ((Stopped host faults (place name) writer.tree ∧
            (CleansUp faults -> SameFiles (place name).length writer.tree tree)) ∨
          (¬Stopped host faults (place name) writer.tree ∧ FailsLate faults ∧
            Placed (place name) data writer.tree tree))) := by
  refine Leads.after_get (Leads.after_refuse (fun closed => ?_) fun _ => ?_)
  · rw [opened] at closed
    cases closed
  have targets : Leads (safeTarget name) writer (fun _ later => later = writer ∧ Admissible name)
      fun _ later => later = writer ∧ ¬Admissible name := by
    unfold safeTarget
    cases safe : safeLogicalPath name "artifact name" with
    | ok normal => exact Leads.pure ⟨rfl, (safeLogicalPath_ok_iff.mp safe).1⟩
    | error failure =>
        refine Leads.throw ⟨rfl, fun admissible => ?_⟩
        rw [safeLogicalPath_ok_iff.mpr ⟨admissible, rfl⟩] at safe
        cases safe
  refine (targets.weaken (fun _ _ done => done) fun _ _ refused => Or.inl refused).bind ?_
  rintro _ current ⟨isCurrent, admissible⟩
  rw [isCurrent]
  have writes : Leads (writeFile host faults name data) writer.tree _ _ :=
    writeFile_leads (place_ne_nil admissible.pattern)
  have places : Leads (within Writer.tree (fun tree writer => { writer with tmpDirectory := some tree })
      (writeFile host faults name data)) writer
      (fun _ later => ¬Stopped host faults (place name) writer.tree ∧ exists tree,
        Placed (place name) data writer.tree tree ∧ later = writer.withTree tree)
      fun _ later => (later = writer ∧ ¬Admissible name) ∨ (Admissible name ∧ exists tree, later = writer.withTree tree ∧
        ((Stopped host faults (place name) writer.tree ∧
            (CleansUp faults -> SameFiles (place name).length writer.tree tree)) ∨
          (¬Stopped host faults (place name) writer.tree ∧ FailsLate faults ∧
            Placed (place name) data writer.tree tree))) := by
    refine Leads.within (writes.weaken ?_ ?_)
    · rintro _ tree ⟨runs, placed⟩
      exact ⟨runs, tree, placed, rfl⟩
    · rintro _ tree (stopped | ⟨runs, fails, placed⟩)
      · exact Or.inr ⟨admissible, tree, rfl, Or.inl stopped⟩
      · exact Or.inr ⟨admissible, tree, rfl, Or.inr ⟨runs, Or.inl fails, placed⟩⟩
  refine places.bind ?_
  rintro _ between ⟨runs, tree, placed, isBetween⟩
  rw [isBetween]
  have measures : Leads (measuredItem host faults name mediaType required) (writer.withTree tree)
      (fun item later => item = itemOf host name data mediaType required ∧ later = writer.withTree tree)
      fun _ later => FailsLate faults ∧ later = writer.withTree tree := by
    refine after_attempt (fun fails => ⟨Or.inr (Or.inl fails), rfl⟩) fun _ =>
      after_attempt (fun fails => ⟨Or.inr (Or.inr fails), rfl⟩) fun _ => Leads.after_get ?_
    rw [Writer.withTree_tree, content?_eq_some_iff.mpr placed.inPlace]
    exact Leads.pure ⟨rfl, rfl⟩
  refine (measures.weaken (fun _ _ done => done) fun _ later unrecorded => ?_).bind ?_
  · exact Or.inr ⟨admissible, tree, unrecorded.2, Or.inr ⟨runs, unrecorded.1, placed⟩⟩
  · rintro item last ⟨isItem, isLast⟩
    rw [isLast]
    refine Leads.after_modify (Leads.pure ⟨admissible, runs, isItem, tree, placed, ?_⟩)
    rw [isItem]
    rfl

/-- Validation changes nothing. -/
theorem validateStaged_leads :
    Leads (validateStaged host faults manifest) writer
      (fun _ later => later = writer ∧ exists tree items, writer.tmpDirectory = some tree ∧
        Validated host manifest tree ∧ manifestItems manifest = .ok items)
      fun _ later => later = writer := by
  unfold Leads validateStaged
  cases outcome : validateArtifactManifest host faults manifest writer.tmpDirectory with
  | error failure =>
      cases failure with
      | contract reason => rfl
      | worker message => rfl
      | system => rfl
  | ok items =>
      rcases validated_of_ok outcome with ⟨tree, staged, validated, parsed⟩
      exact ⟨rfl, tree, items, staged, validated, parsed⟩

/-- A manifest is built at most once, and from the items of that moment. -/
theorem buildManifest_leads {runId runMode snapshotSha256 createdAt : String} :
    Leads (buildManifest host faults runId runMode snapshotSha256 createdAt) writer
      (fun manifest later => writer.closed = false ∧ writer.items.contains manifestName = false ∧
        manifest.items = writer.items.sorted ∧ (exists items, manifestItems manifest = .ok items) ∧ exists tree,
          Placed (place manifestName) (jsonBytes manifest.document) writer.tree tree ∧
          later = { writer.withTree tree with
            items := writer.items.record (itemOf host manifestName (jsonBytes manifest.document) "application/json" true)
            manifestPayload := some manifest })
      fun _ later => later = writer ∨
        (writer.closed = false ∧ writer.items.contains manifestName = false ∧
          exists tree, later = writer.withTree tree) := by
  refine Leads.after_get (Leads.after_refuse (fun _ => Or.inl rfl) fun fresh => ?_)
  rw [Bool.not_eq_true] at fresh
  refine (validateStaged_leads.weaken (fun _ _ done => done) fun _ _ same => Or.inl same).bind ?_
  rintro _ current ⟨isCurrent, _, items, _, _, parsed⟩
  rw [isCurrent]
  cases closed : writer.closed with
  | true =>
      refine ((writeBytes_closed closed).weaken (fun _ _ wrong => wrong) fun _ _ same => Or.inl same).bind ?_
      exact fun _ _ wrong => wrong.elim
  | false =>
      refine ((writeBytes_leads closed).weaken (fun _ _ done => done) ?_).bind ?_
      · rintro _ later (⟨same, _⟩ | ⟨_, tree, isLater, _⟩)
        · exact Or.inl same
        · exact Or.inr ⟨rfl, fresh, tree, isLater⟩
      · rintro item last ⟨_, _, isItem, tree, placed, isLast⟩
        rw [isLast, isItem]
        refine Leads.after_modify (Leads.pure ⟨rfl, fresh, rfl, ⟨items, parsed⟩, tree, placed, rfl⟩)

/-- A commit publishes the staged files of a writer whose manifest was built. -/
theorem commit_leads :
    Leads (commit host faults) writer
      (fun items later => writer.closed = false ∧ items = writer.items.sorted ∧ exists manifest tree,
        writer.manifestPayload = some manifest ∧ writer.tmpDirectory = some tree ∧ Validated host manifest tree ∧
          later = writer.publishing tree)
      fun _ later => later = writer := by
  refine Leads.after_get (Leads.after_refuse (fun _ => rfl) fun opened => ?_)
  refine Leads.after_refuse (fun _ => rfl) fun _ => ?_
  rw [Bool.not_eq_true] at opened
  cases payload : writer.manifestPayload with
  | none => exact Leads.throw rfl
  | some manifest =>
      refine Leads.after_refuse (fun _ => rfl) fun _ => validateStaged_leads.bind ?_
      rintro _ current ⟨isCurrent, tree, _, staged, validated, _⟩
      rw [isCurrent]
      refine after_attempt (fun _ => rfl) fun _ => ?_
      have published : Leads (publishDirectory faults) writer
          (fun _ later => later = { writer with tmpDirectory := none, committedDirectory := some tree })
          fun _ later => later = writer := by
        refine Leads.after_refuse (fun _ => rfl) fun _ => ?_
        rw [← staged]
        exact Leads.modify rfl
      refine published.bind ?_
      rintro _ last isLast
      rw [isLast]
      exact Leads.after_modify (Leads.pure ⟨opened, rfl, manifest, tree, rfl, staged, validated, rfl⟩)

/-! ## What a session promises -/

/-- The directory is the manifest's: its file, one file for each of its items, and no
other file.  The items returned are those of the manifest and that of its file. -/
structure Publishes (host : Host) (manifest : Manifest) (returned : List ArtifactItem) (tree : Tree) : Prop where
  accepted : exists items, manifestItems manifest = .ok items
  validated : Validated host manifest tree
  manifestFile : content? tree (place manifestName) = some (jsonBytes manifest.document)
  only : forall path bytes, content? tree path = some bytes ->
    path = place manifestName ∨ ∃ item ∈ manifest.items, path = place item.name
  items : returned.Perm
    (itemOf host manifestName (jsonBytes manifest.document) "application/json" true :: manifest.items)

/-- The call built the manifest. -/
def Built (manifest : Manifest) (log : List Entry) : Prop :=
  ∃ entry ∈ log, entry.answer = .ok (.manifest manifest)

/-- The call ended the writer. -/
def Entry.finishes (entry : Entry) : Prop :=
  (entry.request = .commit ∨ entry.request = .abandon) ∧ exists answer, entry.answer = .ok answer

/-- What the writer promises of a session. -/
structure Faithful (host : Host) (session : Session) : Prop where
  published : forall items, { request := .commit, answer := .ok (.items items) } ∈ session.log ->
    exists tree manifest, session.writer.committedDirectory = some tree ∧ Built manifest session.log ∧
      Publishes host manifest items tree
  unpublished : (forall items, { request := .commit, answer := .ok (.items items) } ∉ session.log) ->
    session.writer.committedDirectory = none
  final : session.log.Pairwise fun later earlier =>
    earlier.finishes -> later.request ≠ .abandon -> exists failure, later.answer = .error failure

/-! ## When it keeps the promise -/

/-- Every staged file is the place of a recorded item, or of the manifest. -/
def Recorded (writer : Writer) : Prop :=
  forall path bytes, content? writer.tree path = some bytes ->
    path = place manifestName ∨ ∃ item ∈ writer.items.entries, path = place item.name

/-- The write gives the file that is recorded, and the same bytes in the case of the
manifest. -/
def Repeats (host : Host) (writer : Writer) (name : List Char) (data : Bytes) (mediaType : String)
    (required : Bool) : Prop :=
  itemOf host name data mediaType required ∈ writer.items.entries ∧
    (name = manifestName -> ∀ manifest ∈ writer.manifestPayload, data = jsonBytes manifest.document)

/-- The write comes before the manifest, or it is refused, or it stops and cleans up, or
it repeats what is recorded. -/
def HarmlessWrite (host : Host) (faults : Faults) (writer : Writer) (name : List Char) (data : Bytes)
    (mediaType : String) (required : Bool) : Prop :=
  writer.closed = true ∨ writer.manifestPayload = none ∨ ¬Admissible name ∨
    (Stopped host faults (place name) writer.tree ∧ CleansUp faults) ∨
    (¬Stopped host faults (place name) writer.tree ∧ Repeats host writer name data mediaType required)

/-- A call after which the committed directory can still be the manifest's. -/
def Harmless (host : Host) (session : Session) (label : Faults × Request) : Prop :=
  match label.2 with
  | .writeJson name payload required =>
      HarmlessWrite host label.1 session.writer name (jsonBytes payload) "application/json" required
  | .writeBytes name data mediaType required =>
      HarmlessWrite host label.1 session.writer name data mediaType required
  | .buildManifest _ _ _ _ =>
      session.writer.closed = true ∨ session.writer.items.contains manifestName = true ∨ Recorded session.writer
  | .commit => True
  | .abandon =>
      session.writer.closed = true ∨ session.writer.manifestPayload = none ∨ label.1.fails .remove = false ∨
        label.1.kept (place manifestName) = true

/-- The staged files and the inventory are the manifest's, but for files that are gone. -/
structure Prepared (host : Host) (writer : Writer) (manifest : Manifest) : Prop where
  accepted : exists items, manifestItems manifest = .ok items
  manifestFile : content? writer.tree (place manifestName) = some (jsonBytes manifest.document)
  only : forall path bytes, content? writer.tree path = some bytes ->
    path = place manifestName ∨ ∃ item ∈ manifest.items, path = place item.name
  items : writer.items.entries.Perm
    (itemOf host manifestName (jsonBytes manifest.document) "application/json" true :: manifest.items)

namespace Prepared

theorem contains (prepared : Prepared host writer manifest) : writer.items.contains manifestName = true := by
  rw [Inventory.contains_iff]
  exact List.mem_map.mpr ⟨_, prepared.items.mem_iff.mpr List.mem_cons_self, rfl⟩

/-- Other staged files do as well when they are a part of those, with the manifest. -/
theorem part (prepared : Prepared host writer manifest)
    (manifestFile : content? tree (place manifestName) = content? writer.tree (place manifestName))
    (inside : forall path bytes, content? tree path = some bytes ->
      exists other, content? writer.tree path = some other) :
    Prepared host (writer.withTree tree) manifest where
  accepted := prepared.accepted
  manifestFile := manifestFile.trans prepared.manifestFile
  only path bytes found := by
    rcases inside path bytes found with ⟨other, isOther⟩
    exact prepared.only path other isOther
  items := prepared.items

theorem sameFiles (prepared : Prepared host writer manifest) {depth : Nat} (same : SameFiles depth writer.tree tree) :
    Prepared host (writer.withTree tree) manifest :=
  prepared.part (same.files _) fun path bytes found => ⟨bytes, (same.files path).symm.trans found⟩

/-- A name that is recorded has the place of the manifest only as the manifest. -/
theorem name_of_place (prepared : Prepared host writer manifest) {item : ArtifactItem}
    (member : item ∈ writer.items.entries) (same : place item.name = place manifestName) :
    item.name = manifestName := by
  rcases prepared.accepted with ⟨items, accepted⟩
  rcases manifestItems_ok accepted with ⟨admissible, rfl, _, notListed⟩
  rcases List.mem_cons.mp (prepared.items.mem_iff.mp member) with rfl | listed
  · rfl
  · have manifestPattern : matchesPathPattern manifestName = true := by decide
    have normal : (PurePosixPath.parse manifestName).asPosix = manifestName := by decide
    have named := (asPosix_of_place (admissible item listed).pattern manifestPattern same).trans normal
    rw [List.map_map] at notListed
    exact absurd (List.mem_map.mpr ⟨item, listed, named⟩) notListed

/-- A repeated write changes nothing of this. -/
theorem placed (prepared : Prepared host writer manifest) (payload : writer.manifestPayload = some manifest)
    (repeats : Repeats host writer name data mediaType required) (placed : Placed (place name) data writer.tree tree) :
    Prepared host (writer.withTree tree) manifest where
  accepted := prepared.accepted
  manifestFile := by
    rw [Writer.withTree_tree]
    by_cases same : place name = place manifestName
    · have isManifest : name = manifestName := prepared.name_of_place repeats.1 same
      rw [← same, content?_eq_some_iff.mpr placed.inPlace, repeats.2 isManifest manifest payload]
    · rw [placed.files _ (Ne.symm same)]
      exact prepared.manifestFile
  only path bytes found := by
    by_cases same : path = place name
    · rcases List.mem_cons.mp (prepared.items.mem_iff.mp repeats.1) with isManifest | listed
      · left
        rw [same]
        exact congrArg (fun item => place item.name) isManifest
      · exact Or.inr ⟨_, listed, same⟩
    · rw [Writer.withTree_tree, placed.files _ same] at found
      exact prepared.only path bytes found
  items := prepared.items

end Prepared

/-! ## The invariant of a session -/

/-- No call has ended the writer. -/
def Unfinished (log : List Entry) : Prop :=
  ∀ entry ∈ log, ¬entry.finishes

/-- No commit has returned. -/
def Uncommitted (log : List Entry) : Prop :=
  forall items, { request := .commit, answer := .ok (.items items) } ∉ log

/-- The writer still stages files, and a manifest that was built fits them. -/
structure Staging (host : Host) (session : Session) : Prop where
  opened : session.writer.closed = false
  unpublished : session.writer.committedDirectory = none
  unfinished : Unfinished session.log
  prepared : ∀ manifest ∈ session.writer.manifestPayload,
    Prepared host session.writer manifest ∧ Built manifest session.log

/-- The writer was ended, by a commit or without one. -/
structure Ended (host : Host) (session : Session) : Prop where
  closed : session.writer.closed = true
  abandoned : Uncommitted session.log -> session.writer.committedDirectory = none
  published : forall items, { request := .commit, answer := .ok (.items items) } ∈ session.log ->
    exists tree manifest, session.writer.committedDirectory = some tree ∧ Built manifest session.log ∧
      Publishes host manifest items tree

/-- After the end every call but one to abandon fails. -/
def Final (log : List Entry) : Prop :=
  log.Pairwise fun later earlier =>
    earlier.finishes -> later.request ≠ .abandon -> exists failure, later.answer = .error failure

def Sound (host : Host) (session : Session) : Prop :=
  (Staging host session ∨ Ended host session) ∧ Final session.log

theorem Sound.faithful {session : Session} (sound : Sound host session) : Faithful host session := by
  rcases sound with ⟨staging | ended, final⟩
  · refine ⟨?_, fun _ => staging.unpublished, final⟩
    intro items member
    exact absurd ⟨Or.inl rfl, _, rfl⟩ (staging.unfinished _ member)
  · exact ⟨ended.published, ended.abandoned, final⟩

variable {session : Session} {request : Request}

/-- A property of the session after a call. -/
theorem call_rule {property : Session -> Prop}
    (leads : Leads (perform host faults request) session.writer
      (fun answer writer =>
        property { writer := writer, log := { request := request, answer := .ok answer } :: session.log })
      fun failure writer =>
        property { writer := writer, log := { request := request, answer := .error failure } :: session.log }) :
    property (session.call host faults request) := by
  unfold Session.call
  cases done : perform host faults request session.writer with
  | ok answer writer => exact leads.of_ok done
  | error failure writer => exact leads.of_error done

theorem Built.later {log : List Entry} (built : Built manifest log) (entry : Entry) :
    Built manifest (entry :: log) := by
  rcases built with ⟨call, member, answer⟩
  exact ⟨call, List.mem_cons_of_mem _ member, answer⟩

theorem Final.unfinished {log : List Entry} (final : Final log) (unfinished : Unfinished log) (entry : Entry) :
    Final (entry :: log) :=
  List.pairwise_cons.mpr ⟨fun earlier member finishes => absurd finishes (unfinished earlier member), final⟩

theorem Unfinished.cons {log : List Entry} (unfinished : Unfinished log) {entry : Entry}
    (continues : ¬entry.finishes) : Unfinished (entry :: log) :=
  List.forall_mem_cons.mpr ⟨continues, unfinished⟩

theorem continues_error (request : Request) (failure : Failure) :
    ¬({ request := request, answer := .error failure } : Entry).finishes := by
  rintro ⟨_, _, ⟨⟩⟩

/-- The writer still stages files after a call that has not ended it. -/
theorem Staging.next (staging : Staging host session) (final : Final session.log) {writer : Writer} {entry : Entry}
    (opened : writer.closed = false) (unpublished : writer.committedDirectory = none) (continues : ¬entry.finishes)
    (prepared : ∀ manifest ∈ writer.manifestPayload,
      Prepared host writer manifest ∧ Built manifest (entry :: session.log)) :
    Sound host { writer := writer, log := entry :: session.log } :=
  ⟨Or.inl ⟨opened, unpublished, staging.unfinished.cons continues, prepared⟩,
    final.unfinished staging.unfinished entry⟩

/-- The writer is as it was after a call that failed. -/
theorem Staging.unchanged (staging : Staging host session) (final : Final session.log) {entry : Entry}
    (continues : ¬entry.finishes) : Sound host { writer := session.writer, log := entry :: session.log } := by
  refine staging.next final staging.opened staging.unpublished continues ?_
  intro manifest isPayload
  rcases staging.prepared manifest isPayload with ⟨prepared, built⟩
  exact ⟨prepared, built.later entry⟩

/-! ### Writes -/

/-- A harmless write keeps the staged files the manifest's. -/
theorem HarmlessWrite.prepared (staging : Staging host session)
    (harmless : HarmlessWrite host faults session.writer name data mediaType required) (admissible : Admissible name)
    (outcome : (Stopped host faults (place name) session.writer.tree ∧
        (CleansUp faults -> SameFiles (place name).length session.writer.tree tree)) ∨
      (¬Stopped host faults (place name) session.writer.tree ∧ Placed (place name) data session.writer.tree tree)) :
    ∀ manifest ∈ session.writer.manifestPayload, Prepared host (session.writer.withTree tree) manifest ∧
      (¬Stopped host faults (place name) session.writer.tree ->
        itemOf host name data mediaType required ∈ session.writer.items.entries) := by
  intro manifest isPayload
  have prepared := (staging.prepared manifest isPayload).1
  rcases harmless with closed | none | refused | ⟨stopped, cleans⟩ | ⟨runs, repeats⟩
  · rw [staging.opened] at closed
    cases closed
  · rw [none] at isPayload
    cases isPayload
  · exact absurd admissible refused
  · refine ⟨?_, fun runs => absurd stopped runs⟩
    rcases outcome with ⟨_, same⟩ | ⟨runs, _⟩
    · exact prepared.sameFiles (same cleans)
    · exact absurd stopped runs
  · refine ⟨?_, fun _ => repeats.1⟩
    rcases outcome with ⟨stopped, _⟩ | ⟨_, placed⟩
    · exact absurd stopped runs
    · exact prepared.placed isPayload repeats placed

theorem writeBytes_sound (staging : Staging host session) (final : Final session.log)
    (harmless : HarmlessWrite host faults session.writer name data mediaType required)
    (performs : perform host faults request = Answer.item <$> writeBytes host faults name data mediaType required)
    (writes : request ≠ .commit ∧ request ≠ .abandon) : Sound host (session.call host faults request) := by
  have continues : forall answer, ¬({ request := request, answer := answer } : Entry).finishes := by
    rintro answer ⟨isCommit | isAbandon, _⟩
    · exact writes.1 isCommit
    · exact writes.2 isAbandon
  apply call_rule
  rw [performs]
  refine Leads.map ((writeBytes_leads staging.opened).weaken ?_ ?_)
  · rintro item later ⟨admissible, runs, isItem, tree, placed, isLater⟩
    rw [isLater]
    refine staging.next final staging.opened staging.unpublished (continues _) ?_
    intro manifest isPayload
    have keeps := harmless.prepared staging admissible (Or.inr ⟨runs, placed⟩) manifest isPayload
    refine ⟨?_, (staging.prepared manifest isPayload).2.later _⟩
    rw [isItem, Inventory.record_known (keeps.2 runs)]
    exact keeps.1
  · rintro failure later (⟨same, _⟩ | ⟨admissible, tree, isLater, outcome⟩)
    · rw [same]
      exact staging.unchanged final (continues _)
    · rw [isLater]
      refine staging.next final staging.opened staging.unpublished (continues _) ?_
      intro manifest isPayload
      have happened := outcome.imp_right fun late => And.intro late.1 late.2.2
      exact ⟨(harmless.prepared staging admissible happened manifest isPayload).1,
        (staging.prepared manifest isPayload).2.later _⟩

/-! ### The other calls -/

theorem buildManifest_sound (staging : Staging host session) (final : Final session.log)
    {runId runMode snapshotSha256 createdAt : String}
    (harmless : Harmless host session (faults, .buildManifest runId runMode snapshotSha256 createdAt)) :
    Sound host (session.call host faults (.buildManifest runId runMode snapshotSha256 createdAt)) := by
  have continues : forall answer, ¬({ request := .buildManifest runId runMode snapshotSha256 createdAt
                                      answer := answer } : Entry).finishes := by
    rintro answer ⟨isCommit | isAbandon, _⟩
    · cases isCommit
    · cases isAbandon
  have noPayload : session.writer.items.contains manifestName = false -> session.writer.manifestPayload = none := by
    intro fresh
    cases isPayload : session.writer.manifestPayload with
    | none => rfl
    | some manifest =>
        rw [(staging.prepared manifest isPayload).1.contains] at fresh
        cases fresh
  apply call_rule
  refine Leads.map (buildManifest_leads.weaken ?_ ?_)
  · rintro manifest later ⟨_, fresh, isItems, accepted, tree, placed, isLater⟩
    have recorded : Recorded session.writer := by
      rcases harmless with closed | known | recorded
      · rw [staging.opened] at closed
        cases closed
      · rw [known] at fresh
        cases fresh
      · exact recorded
    rw [isLater]
    refine staging.next final staging.opened staging.unpublished (continues _) ?_
    rintro _ ⟨⟩
    refine ⟨⟨accepted, content?_eq_some_iff.mpr placed.inPlace, ?_, ?_⟩, _, List.mem_cons_self, rfl⟩
    · intro path bytes found
      by_cases same : path = place manifestName
      · exact Or.inl same
      · rcases recorded path bytes ((placed.files path same).symm.trans found) with isManifest | ⟨item, member, isPlace⟩
        · exact Or.inl isManifest
        · refine Or.inr ⟨item, ?_, isPlace⟩
          rw [isItems]
          exact (Inventory.sorted_perm _).mem_iff.mpr member
    · change (session.writer.items.record _).entries.Perm _
      rw [Inventory.record_fresh fresh, isItems]
      exact List.perm_append_singleton _ _ |>.trans ((Inventory.sorted_perm _).symm.cons _)
  · rintro failure later (same | ⟨_, fresh, tree, isLater⟩)
    · rw [same]
      exact staging.unchanged final (continues _)
    · rw [isLater]
      refine staging.next final staging.opened staging.unpublished (continues _) ?_
      intro manifest isPayload
      have isNone := noPayload fresh
      change session.writer.manifestPayload = some manifest at isPayload
      rw [isNone] at isPayload
      cases isPayload

theorem commit_sound (staging : Staging host session) (final : Final session.log) :
    Sound host (session.call host faults .commit) := by
  apply call_rule
  refine Leads.map (commit_leads.weaken ?_ ?_)
  · rintro items later ⟨_, isItems, manifest, tree, isPayload, staged, validated, isLater⟩
    rcases staging.prepared manifest isPayload with ⟨prepared, built⟩
    have isTree : session.writer.tree = tree := by
      rw [Writer.tree, staged]
      rfl
    rw [isLater]
    refine ⟨Or.inr ⟨rfl, ?_, ?_⟩, final.unfinished staging.unfinished _⟩
    · intro uncommitted
      exact absurd List.mem_cons_self (uncommitted items)
    · intro returned member
      rcases List.mem_cons.mp member with isThis | earlier
      · cases isThis
        refine ⟨tree, manifest, rfl, built.later _, prepared.accepted, validated, ?_, ?_, ?_⟩
        · rw [← isTree]
          exact prepared.manifestFile
        · rw [← isTree]
          exact prepared.only
        · rw [isItems]
          exact (Inventory.sorted_perm _).trans prepared.items
      · exact absurd ⟨Or.inl rfl, _, rfl⟩ (staging.unfinished _ earlier)
  · rintro failure later same
    rw [same]
    exact staging.unchanged final (continues_error _ _)

theorem content?_keepEntries {kept : Path -> Bool} {path : Path} (inside : path ≠ []) :
    content? (keepEntries kept tree) path = if kept path then content? tree path else none := by
  unfold content? keepEntries FileTree.get
  rw [if_neg inside, if_neg inside]
  dsimp only
  rw [List.find?_filter]
  by_cases keeps : kept path = true
  · rw [if_pos keeps]
    congr 3
    funext entry
    by_cases same : entry.1 = path
    · simp [same, keeps]
    · simp [same]
  · rw [if_neg keeps, List.find?_eq_none.mpr]
    · rfl
    · intro entry _ selected
      simp only [decide_eq_true_eq] at selected
      rw [selected.2] at selected
      exact keeps selected.1

theorem abandon_leads (opened : writer.closed = false) :
    Leads (abandon faults) writer (fun _ later => later = { writer with tmpDirectory := none, closed := true })
      fun _ later => faults.fails .remove = true ∧ later = writer.withTree (keepEntries faults.kept writer.tree) := by
  have removes : Leads (removeStaged faults) writer (fun _ later => later = { writer with tmpDirectory := none })
      fun _ later => faults.fails .remove = true ∧ later = writer.withTree (keepEntries faults.kept writer.tree) := by
    unfold Leads removeStaged
    cases staged : writer.tmpDirectory with
    | none =>
        change writer = _
        rw [← staged]
    | some tree =>
        have isTree : writer.tree = tree := by
          rw [Writer.tree, staged]
          rfl
        rw [isTree]
        cases fails : faults.fails .remove with
        | false => rfl
        | true => exact ⟨rfl, rfl⟩
  refine Leads.after_get ?_
  rw [opened]
  refine removes.bind ?_
  rintro _ later isLater
  rw [isLater]
  exact Leads.modify rfl

theorem abandon_sound (staging : Staging host session) (final : Final session.log)
    (harmless : Harmless host session (faults, .abandon)) : Sound host (session.call host faults .abandon) := by
  apply call_rule
  refine Leads.map ((abandon_leads staging.opened).weaken ?_ ?_)
  · rintro _ later isLater
    rw [isLater]
    refine ⟨Or.inr ⟨rfl, fun _ => staging.unpublished, ?_⟩, final.unfinished staging.unfinished _⟩
    intro items member
    rcases List.mem_cons.mp member with isThis | earlier
    · cases isThis
    · exact absurd ⟨Or.inl rfl, _, rfl⟩ (staging.unfinished _ earlier)
  · rintro failure later ⟨fails, isLater⟩
    rw [isLater]
    refine staging.next final staging.opened staging.unpublished (continues_error _ _) ?_
    intro manifest isPayload
    rcases staging.prepared manifest isPayload with ⟨prepared, built⟩
    refine ⟨prepared.part ?_ ?_, built.later _⟩
    · have kept : faults.kept (place manifestName) = true := by
        rcases harmless with closed | noPayload | removes | kept
        · rw [staging.opened] at closed
          cases closed
        · change session.writer.manifestPayload = some manifest at isPayload
          rw [noPayload] at isPayload
          cases isPayload
        · rw [fails] at removes
          cases removes
        · exact kept
      rw [content?_keepEntries (place_ne_nil (by decide)), if_pos kept]
    · intro path bytes found
      have inside : path ≠ [] := by
        rintro rfl
        cases found
      rw [content?_keepEntries inside] at found
      split at found
      · exact ⟨bytes, found⟩
      · cases found

/-- A writer that was ended stays as it is, and only a call to abandon it returns. -/
theorem perform_closed (closed : writer.closed = true) :
    Leads (perform host faults request) writer
      (fun answer later => request = .abandon ∧ answer = .nothing ∧ later = writer)
      fun _ later => later = writer := by
  cases request with
  | writeJson name payload required =>
      exact Leads.map ((writeBytes_closed closed).weaken (fun _ _ wrong => wrong.elim) fun _ _ same => same)
  | writeBytes name data mediaType required =>
      exact Leads.map ((writeBytes_closed closed).weaken (fun _ _ wrong => wrong.elim) fun _ _ same => same)
  | buildManifest runId runMode snapshotSha256 createdAt =>
      refine Leads.map (buildManifest_leads.weaken ?_ ?_)
      · rintro manifest later ⟨opened, _⟩
        rw [closed] at opened
        cases opened
      · rintro failure later (same | ⟨opened, _⟩)
        · exact same
        · rw [closed] at opened
          cases opened
  | commit =>
      refine Leads.map (commit_leads.weaken ?_ fun _ _ same => same)
      rintro items later ⟨opened, _⟩
      rw [closed] at opened
      cases opened
  | abandon =>
      refine Leads.map (Leads.after_get ?_)
      rw [closed]
      exact Leads.pure ⟨rfl, rfl, rfl⟩

theorem ended_sound (ended : Ended host session) (final : Final session.log) :
    Sound host (session.call host faults request) := by
  have later : forall answer, (request ≠ .abandon -> exists failure, answer = .error failure) ->
      (forall items, ({ request := request, answer := answer } : Entry) ≠
        { request := .commit, answer := .ok (.items items) }) ->
      Sound host { writer := session.writer, log := { request := request, answer := answer } :: session.log } := by
    intro answer fails other
    refine ⟨Or.inr ⟨ended.closed, ?_, ?_⟩, List.pairwise_cons.mpr ⟨fun _ _ _ => fails, final⟩⟩
    · intro uncommitted
      exact ended.abandoned fun items member => uncommitted items (List.mem_cons_of_mem _ member)
    · intro items member
      rcases List.mem_cons.mp member with isThis | earlier
      · exact absurd isThis.symm (other items)
      · rcases ended.published items earlier with ⟨tree, manifest, isTree, built, publishes⟩
        exact ⟨tree, manifest, isTree, built.later _, publishes⟩
  apply call_rule
  refine (perform_closed ended.closed).weaken ?_ ?_
  · rintro answer _ ⟨isAbandon, isNothing, same⟩
    rw [same]
    refine later _ (fun other => absurd isAbandon other) ?_
    rw [isAbandon]
    rintro items ⟨⟩
  · rintro failure _ same
    rw [same]
    refine later _ (fun _ => ⟨failure, rfl⟩) ?_
    rintro items ⟨⟩

theorem call_sound (sound : Sound host session) (harmless : Harmless host session (faults, request)) :
    Sound host (session.call host faults request) := by
  rcases sound with ⟨staging | ended, final⟩
  · cases request with
    | writeJson name payload required =>
        exact writeBytes_sound staging final harmless rfl ⟨Request.noConfusion, Request.noConfusion⟩
    | writeBytes name data mediaType required =>
        exact writeBytes_sound staging final harmless rfl ⟨Request.noConfusion, Request.noConfusion⟩
    | buildManifest runId runMode snapshotSha256 createdAt => exact buildManifest_sound staging final harmless
    | commit => exact commit_sound staging final
    | abandon => exact abandon_sound staging final harmless
  · exact ended_sound ended final

end Artifacts
end Worker
end FederatedIot
