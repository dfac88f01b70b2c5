import FederatedIot.Dataset.Import

namespace FederatedIot
namespace Dataset

open Foundation Foundation.Files Foundation.Reading Foundation.Files.Task

/-!
# An import is all or nothing

While the rows are read, the temporary file has exactly what was read of the stream.
The last record is followed by the end of the stream or by the end of the limit, and a
file of the permitted size has not reached the limit.  So a committed file has the
whole stream.

Before the commit the tree differs from the tree after the check only by the
directories for the worker and by the temporary file, and the clean-ups take them away
in the opposite order.
-/

/-! ## What the reader has written -/

section Reading

variable {location : Location} {original : List UInt8} {limit : Int}

/-- The rows are followed by the end of the input. -/
theorem importRows_ends (result : ImportResult) (reader : Buffered UInt8) (sound : reader.Sound original limit)
    {counted : ImportResult} (accepted : (importRows location result reader).1 = .ok counted) :
    (importRows location result reader).2.Sound original limit ∧ (importRows location result reader).2.tee.Spent ∧
      (importRows location result reader).2.error = none := by
  fun_induction importRows location result reader with
  | case1 result reader next isRead =>
      have leaves := Csv.readRecord_leaves none reader sound
      rw [isRead] at leaves
      rcases leaves with wrong | leaves
      · cases wrong
      · exact ⟨leaves.sound, leaves.ended rfl⟩
  | case2 result reader next isRead => cases accepted
  | case3 result reader record next isRead error _ => cases accepted
  | case4 result reader record next isRead extended _ inductionHypothesis =>
      have leaves := Csv.readRecord_leaves none reader sound
      rw [isRead] at leaves
      rcases leaves with wrong | leaves
      · cases wrong
      · exact inductionHypothesis leaves.sound accepted

theorem importRows_le (result : ImportResult) (reader : Buffered UInt8) :
    (importRows location result reader).2.left ≤ reader.left := by
  have record_le : forall {before after : Buffered UInt8} {outcome : Csv.Outcome},
      Csv.readRecord none before = (outcome, after) -> after.left ≤ before.left := by
    intro before after outcome isRead
    have fewer := Csv.readRecord_le none before
    rwa [isRead] at fewer
  fun_induction importRows location result reader with
  | case1 result reader next isRead => exact record_le isRead
  | case2 result reader next isRead => exact record_le isRead
  | case3 result reader record next isRead error _ => exact record_le isRead
  | case4 result reader record next isRead extended _ inductionHypothesis =>
      exact Nat.le_trans inductionHypothesis (record_le isRead)

/-- Accepted records are followed by the end of the input, and they are not empty. -/
theorem importRecords_ends {result counted : ImportResult} {reader : Buffered UInt8}
    (sound : reader.Sound original limit) (accepted : (importRecords location result reader).1 = .ok counted) :
    (importRecords location result reader).2.Sound original limit ∧
      (importRecords location result reader).2.tee.Spent ∧ (importRecords location result reader).2.error = none ∧
      (importRecords location result reader).2.left < reader.left := by
  have leaves := Csv.readRecord_leaves none reader sound
  have shorter := @Csv.readRecord_left none reader
  unfold importRecords at *
  cases isRead : Csv.readRecord none reader with
  | mk outcome next =>
      rw [isRead] at leaves shorter accepted
      cases outcome with
      | ended => cases accepted
      | failed => cases accepted
      | record header =>
          have after := leaves.resolve_left Csv.Outcome.noConfusion
          dsimp only at accepted ⊢
          cases checked : validateHeader header with
          | error error =>
              rw [checked] at accepted
              cases accepted
          | ok _ =>
              rw [checked] at accepted
              dsimp only at accepted ⊢
              cases rows : (importRows location result next).1 with
              | error error =>
                  rw [rows] at accepted
                  cases accepted
              | ok counted =>
                  have ends := importRows_ends result next after.sound rows
                  have fewer := @importRows_le location result next
                  exact ⟨ends.1, ends.2.1, ends.2.2, Nat.lt_of_le_of_lt fewer (shorter rfl)⟩

/-- The limit of the reader is one more than the size that is permitted, unless that
is no number of 64 bits. -/
theorem limit_of_positive (maxBytes : Int64) (positive : 0 < (maxBytes + 1).toInt) (permits : 0 < maxBytes.toInt) :
    (maxBytes + 1).toInt = maxBytes.toInt + 1 := by
  have sum : (maxBytes + 1).toInt = (maxBytes.toInt + 1).bmod (2 ^ 64) := Int64.toInt_add maxBytes 1
  have bound := maxBytes.toInt_lt
  by_cases last : maxBytes.toInt + 1 < 2 ^ 63
  · rw [sum]
    exact Int.bmod_eq_of_le (by omega) (by omega)
  · have wrapped : maxBytes.toInt + 1 = 2 ^ 63 := by omega
    rw [sum, wrapped] at positive
    exact absurd positive (by decide)

/-- A stream that was accepted and does not exceed the limit is in the file as a
whole. -/
theorem accepted_whole (request : ImportRequest) {result counted : ImportResult}
    (accepted : (importRecords location result request.reader).1 = .ok counted)
    (small : ((importRecords location result request.reader).2.tee.written.length : Int) ≤ request.maxBytes.toInt) :
    (importRecords location result request.reader).2.tee.written = request.source.bytes ∧
      (importRecords location result request.reader).2.tee.digested = request.source.bytes := by
  have start : request.reader.Sound request.source.bytes (request.maxBytes + 1).toInt :=
    Csv.sound_start request.source (request.maxBytes + 1).toInt request.writes
  rcases importRecords_ends start accepted with ⟨sound, spent, fine, fewer⟩
  have faithful := sound.faithful (by rw [fine]; exact (Option.some_ne_none _).symm)
  have lengths := congrArg List.length faithful.split
  have within := faithful.within
  have remaining := faithful.remaining
  have left : request.reader.left = request.source.bytes.length := Nat.zero_add _
  rw [List.length_append] at lengths
  rw [left, Buffered.left] at fewer
  have limit := limit_of_positive request.maxBytes (by omega) (by omega)
  have ended : (importRecords location result request.reader).2.tee.source.Ended := by
    rcases spent with none | ended
    · omega
    · exact ended
  have whole := faithful.split
  rw [ended.bytes, List.append_nil] at whole
  exact ⟨whole, faithful.digested.trans whole⟩

end Reading

/-! ## Directories -/

section Directories

variable {tree next : Tree} {path other : Path} {condition : Tree -> Prop} {committed : Bool}

theorem isDirectory_iff : isDirectory tree path = true ↔ tree.get path = some .directory := by
  unfold isDirectory
  constructor
  · intro directory
    split at directory
    · next found => exact found
    · cases directory
  · intro found
    rw [found]

theorem mkdir_some (made : mkdir path tree = some next) :
    tree.get path = none ∧ path ≠ [] ∧ next = tree.put path .directory := by
  unfold mkdir at made
  split at made
  · next absent =>
      rw [Bool.and_eq_true, Option.isNone_iff_eq_none] at absent
      refine ⟨absent.1, ?_, (Option.some.inj made).symm⟩
      intro isRoot
      rw [isRoot] at absent
      cases absent.1
  · cases made

/-- Directories are made where there is nothing yet, at the path and above it. -/
theorem mkdirAll_triple (error : ImportError)
    (stable : forall tree above, condition tree -> above <:+ path -> tree.get above = none ->
      condition (tree.put above .directory)) :
    Triple (On condition committed) (mkdirAll error path)
      (fun _ => On (fun tree => condition tree ∧ tree.get path = some .directory) committed)
      (On condition committed) := by
  induction path with
  | nil => exact Triple.pure fun world holds => ⟨⟨holds.1, rfl⟩, holds.2⟩
  | cons name parent inductionHypothesis =>
      refine Triple.bind (Triple.look fun _ holds => holds) fun present => ?_
      cases present with
      | true => exact Triple.pure fun world holds => ⟨⟨holds.1.1, isDirectory_iff.mp (Option.some.inj holds.1.2)⟩, holds.2⟩
      | false =>
          have above := inductionHypothesis fun tree above holds suffix absent =>
            stable tree above holds (suffix.trans (List.suffix_cons name parent)) absent
          refine Triple.bind ⟨fun world value later start done => above.returns world value later ⟨start.1.1, start.2⟩ done,
            fun world reason later start done => above.fails world reason later ⟨start.1.1, start.2⟩ done⟩ fun _ => ?_
          refine Triple.call (fun _ holds => holds.1) fun tree next holds made => ?_
          rcases mkdir_some made with ⟨absent, nonempty, rfl⟩
          exact ⟨stable tree _ holds.1 (List.suffix_refl _) absent, FileTree.get_put nonempty _⟩

theorem chmod_triple (error : ImportError) (path : Path) :
    Triple (On condition committed) (chmod error path) (fun _ => On condition committed) (On condition committed) := by
  refine Triple.call (fun _ holds => holds) fun tree next holds changed => ?_
  split at changed
  · rwa [← Option.some.inj changed]
  · cases changed

theorem makeDirectory_triple (error : ImportError)
    (stable : forall tree above, condition tree -> above <:+ path -> tree.get above = none ->
      condition (tree.put above .directory)) :
    Triple (On condition committed) (makeDirectory error path)
      (fun _ => On (fun tree => condition tree ∧ tree.get path = some .directory) committed)
      (On condition committed) := by
  refine Triple.bind (mkdirAll_triple error stable) fun _ => ?_
  have changed := @chmod_triple (fun tree => condition tree ∧ tree.get path = some .directory) committed error path
  exact ⟨changed.returns, fun world reason later start done =>
    ⟨(changed.fails world reason later start done).1.1, (changed.fails world reason later start done).2⟩⟩

theorem remove_get_of_ne (different : other ≠ path) : (remove path tree).get other = tree.get other := by
  unfold remove
  split
  · exact FileTree.get_erase_of_ne different
  · split
    · rfl
    · exact FileTree.get_erase_of_ne different
  · rfl

/-- What is removed with nothing in it is gone. -/
theorem remove_get (nonempty : path ≠ []) (empty : forall name, tree.get (name :: path) = none) :
    (remove path tree).get path = none := by
  unfold remove
  split
  · exact FileTree.get_erase nonempty
  · rw [FileTree.hasChild_of_get empty, Bool.or_false, decide_eq_false nonempty]
    exact FileTree.get_erase nonempty
  · next absent => exact absent

end Directories

/-! ## Up to the check -/

section Import

variable {host : Host} {request : ImportRequest}

/-- Nothing has changed in the directory of the dataset. -/
def SameBelow (request : ImportRequest) (start tree : Tree) : Prop :=
  forall names, names ≠ [] -> tree.get (names ++ request.directory) = start.get (names ++ request.directory)

theorem sameBelow_put {start tree : Tree} {above : Path} (same : SameBelow request start tree)
    (suffix : above <:+ request.directory) : SameBelow request start (tree.put above .directory) := by
  intro names nonempty
  have longer := List.length_pos_iff.mpr nonempty
  have shorter := suffix.length_le
  rw [FileTree.get_put_of_ne]
  · exact same names nonempty
  · intro equal
    have lengths := congrArg List.length equal
    rw [List.length_append] at lengths
    omega

theorem directory_eq (request : ImportRequest) : request.directory = request.datasetID :: request.root :=
  rfl

/-- What is known of the tree after the check. -/
structure Prepared (request : ImportRequest) (start tree : Tree) : Prop where
  below : SameBelow request start tree
  directory : tree.get request.directory = some .directory
  absent : tree.get request.target = none

theorem prepareImport_triple (start : Tree) (committed : Bool) :
    Triple (On (fun tree => tree = start) committed) (prepareImport host request)
      (fun _ => On (Prepared request start) committed) (On (SameBelow request start) committed) := by
  have unchanged : forall world : World (List UInt8), On (fun tree => tree = start) committed world ->
      On (SameBelow request start) committed world := by
    rintro world ⟨rfl, open_⟩
    exact ⟨fun _ _ => rfl, open_⟩
  unfold prepareImport
  split
  · exact Triple.throw unchanged
  · split
    · exact Triple.throw unchanged
    · next zone _ =>
        split
        · have root : Triple (On (SameBelow request start) committed)
              (makeDirectory (.system "create dataset root") request.root)
              (fun _ => On (fun tree => SameBelow request start tree ∧ tree.get request.root = some .directory) committed)
              (On (SameBelow request start) committed) :=
            makeDirectory_triple _ fun tree above same suffix _ =>
              sameBelow_put same (suffix.trans (List.suffix_cons request.datasetID request.root))
          have directory : Triple (On (SameBelow request start) committed)
              (makeDirectory (.system "create dataset directory") request.directory)
              (fun _ => On (fun tree => SameBelow request start tree ∧ tree.get request.directory = some .directory) committed)
              (On (SameBelow request start) committed) :=
            makeDirectory_triple _ fun tree above same suffix _ => sameBelow_put same suffix
          refine Triple.bind (Triple.start unchanged root) fun _ => ?_
          refine Triple.bind (Triple.start (fun _ holds => ⟨holds.1.1, holds.2⟩) directory) fun _ => ?_
          refine Triple.bind (Triple.look fun _ holds => holds.1) fun present => ?_
          cases present with
          | true => exact Triple.throw fun _ holds => ⟨holds.1.1.1, holds.2⟩
          | false =>
              refine Triple.pure fun world holds => ⟨⟨holds.1.1.1, holds.1.1.2, ?_⟩, holds.2⟩
              have absent := Option.some.inj holds.1.2
              exact Option.isNone_iff_eq_none.mp (by rw [← Option.not_isSome, absent]; rfl)
        · exact Triple.throw unchanged

/-! ## After the check -/

/-- The entry is as it was, or it is a directory for the worker that was not there. -/
def GrownAt (request : ImportRequest) (base tree : Tree) (path : Path) : Prop :=
  tree.get path = base.get path ∨
    ((path = preflightDirectory request.root request.datasetID ∨
        path = preflightTemporaryPath request.root request.datasetID) ∧
      tree.get path = some .directory ∧ base.get path = none)

/-- In the dataset's directory only the directories for the worker are new. -/
def Grown (request : ImportRequest) (base tree : Tree) : Prop :=
  forall names, GrownAt request base tree (names ++ request.directory)

/-- The temporary file is new as well. -/
structure Holding (request : ImportRequest) (base : Tree) (temporary : Path) (tree : Tree) : Prop where
  inside : exists name, temporary = name :: request.directory
  fresh : base.get temporary = none
  file : exists content, tree.get temporary = some (.file content)
  others : forall names, names ++ request.directory ≠ temporary ->
    GrownAt request base tree (names ++ request.directory)

/-- The source file has the stream, and the result describes it. -/
structure Stored (host : Host) (request : ImportRequest) (result : ImportResult) (tree : Tree) : Prop where
  content : tree.get request.target = some (.file request.source.bytes)
  permitted : (request.source.bytes.length : Int) ≤ request.maxBytes.toInt
  sizeBytes : result.sizeBytes = request.source.bytes.length
  sha256 : result.sha256 = host.sha256Hex request.source.bytes

section AfterCheck

variable {start base tree : Tree} {path temporary : Path}

theorem GrownAt.absent (grown : GrownAt request base tree path) (absent : tree.get path = none) :
    base.get path = none := by
  rcases grown with same | ⟨_, present, _⟩
  · exact same.symm.trans absent
  · rw [present] at absent
    cases absent

theorem GrownAt.other (grown : GrownAt request base tree path)
    (notPreflight : path ≠ preflightDirectory request.root request.datasetID)
    (notTemporary : path ≠ preflightTemporaryPath request.root request.datasetID) :
    tree.get path = base.get path := by
  rcases grown with same | ⟨isPreflight | isTemporary, _⟩
  · exact same
  · exact absurd isPreflight notPreflight
  · exact absurd isTemporary notTemporary

/-- A path in the directory is one of the worker's only if it has its names. -/
theorem grown_other (grown : Grown request base tree) (names : Path) (notPreflight : names ≠ ["preflight"])
    (notTemporary : names ≠ ["tmp", "preflight"]) :
    tree.get (names ++ request.directory) = base.get (names ++ request.directory) := by
  apply (grown names).other
  · intro same
    have named : names ++ request.directory = ["preflight"] ++ request.directory := same
    exact notPreflight (List.append_cancel_right named)
  · intro same
    have named : names ++ request.directory = ["tmp", "preflight"] ++ request.directory := same
    exact notTemporary (List.append_cancel_right named)

/-- A directory for the worker, or one on the way to it, is made. -/
theorem grown_put (there : base.get request.directory = some .directory) (grown : Grown request base tree)
    {above : Path} (suffix : above <:+ preflightTemporaryPath request.root request.datasetID)
    (absent : tree.get above = none) : Grown request base (tree.put above .directory) := by
  intro names
  have known : above = preflightTemporaryPath request.root request.datasetID ∨
      above = preflightDirectory request.root request.datasetID ∨ above <:+ request.directory := by
    rcases List.suffix_cons_iff.mp suffix with isTemporary | below
    · exact Or.inl isTemporary
    · exact Or.inr (List.suffix_cons_iff.mp below)
  by_cases same : names ++ request.directory = above
  · have nonempty : above ≠ [] := by
      rintro rfl
      cases absent
    have free := (grown names).absent (by rw [same]; exact absent)
    refine Or.inr ⟨?_, by rw [same]; exact FileTree.get_put nonempty _, free⟩
    rcases known with isTemporary | isPreflight | short
    · exact Or.inr (same.trans isTemporary)
    · exact Or.inl (same.trans isPreflight)
    · have lengths := short.length_le
      rw [← same, List.length_append] at lengths
      have empty : names = [] := List.length_eq_zero_iff.mp (by omega)
      rw [empty, List.nil_append, there] at free
      cases free
  · unfold GrownAt
    rw [FileTree.get_put_of_ne same]
    exact grown names

theorem makeDirectory_grown (there : base.get request.directory = some .directory) (error : ImportError)
    (suffix : path <:+ preflightTemporaryPath request.root request.datasetID) :
    Triple (On (Grown request base) false) (makeDirectory error path) (fun _ => On (Grown request base) false)
      (On (Grown request base) false) := by
  have made := @makeDirectory_triple path (Grown request base) false error fun tree above grown short absent =>
    grown_put there grown (short.trans suffix) absent
  exact ⟨fun world value later holds done =>
    ⟨(made.returns world value later holds done).1.1, (made.returns world value later holds done).2⟩, made.fails⟩

theorem createTemp_holding (error : ImportError) (names : List String) :
    Triple (On (Grown request base) false) (createTemp error request.directory names)
      (fun temporary => On (Holding request base temporary) false) (On (Grown request base) false) := by
  refine Triple.bind (Triple.look fun _ holds => holds) fun name => ?_
  have created : forall tree next : Tree,
      Grown request base tree ∧ ((names.map fun token => ".upload-" ++ token ++ ".tmp").find? fun name =>
        (tree.get (name :: request.directory)).isNone) = some name ->
      (if isDirectory tree request.directory then some (tree.put (name :: request.directory) (.file [])) else none) =
        some next ->
      Holding request base (name :: request.directory) next := by
    intro tree next holds changed
    split at changed
    · rw [← Option.some.inj changed]
      have free : tree.get (name :: request.directory) = none := by
        have found := List.find?_some holds.2
        exact Option.isNone_iff_eq_none.mp found
      refine ⟨⟨name, rfl⟩, (holds.1 [name]).absent free, ⟨[], FileTree.get_put (List.cons_ne_nil _ _) _⟩, ?_⟩
      intro names different
      unfold GrownAt
      rw [FileTree.get_put_of_ne different]
      exact holds.1 names
    · cases changed
  exact Triple.bind (Triple.call (fun _ holds => holds.1) created) fun _ => Triple.pure fun _ holds => holds

/-! ### The temporary file -/

theorem Holding.put (holding : Holding request base temporary tree) (content : List UInt8) :
    Holding request base temporary (tree.put temporary (.file content)) := by
  rcases holding.inside with ⟨name, isName⟩
  refine ⟨holding.inside, holding.fresh, ⟨content, ?_⟩, ?_⟩
  · exact FileTree.get_put (by rw [isName]; exact List.cons_ne_nil _ _) _
  · intro names different
    unfold GrownAt
    rw [FileTree.get_put_of_ne different]
    exact holding.others names different

/-- Removing the temporary file leaves the directories for the worker. -/
theorem Holding.removed (holding : Holding request base temporary tree) :
    Grown request base (remove temporary tree) := by
  intro names
  by_cases same : names ++ request.directory = temporary
  · rcases holding.file with ⟨content, present⟩
    rcases holding.inside with ⟨name, isName⟩
    refine Or.inl ?_
    rw [same, remove, present, holding.fresh]
    exact FileTree.get_erase (by rw [isName]; exact List.cons_ne_nil _ _)
  · unfold GrownAt
    rw [remove_get_of_ne same]
    exact holding.others names same

/-- The temporary file with what was read. -/
def Filled (request : ImportRequest) (base : Tree) (temporary : Path) (written : List UInt8) (tree : Tree) : Prop :=
  Holding request base temporary tree ∧ tree.get temporary = some (.file written)

theorem onFile_filled (error : ImportError) (written : List UInt8) :
    Triple (On (Filled request base temporary written) false) (onFile error)
      (fun _ => On (Filled request base temporary written) false) (On (Holding request base temporary) false) := by
  refine Triple.call (fun _ filled => filled.1) fun tree next filled changed => ?_
  rwa [← Option.some.inj changed]

theorem fileSize_filled (error : ImportError) (written : List UInt8) :
    Triple (On (Filled request base temporary written) false) (fileSize error temporary)
      (fun size => On (fun tree => Filled request base temporary written tree ∧ size = written.length) false)
      (On (Holding request base temporary) false) := by
  have looked : Triple _ (fileSize error temporary) _ _ :=
    @Triple.look (List UInt8) ImportError Nat (Filled request base temporary written) (Holding request base temporary)
      false error _ fun _ filled => filled.1
  refine ⟨?_, looked.fails⟩
  intro world size later holds done
  rcases looked.returns world size later holds done with ⟨⟨filled, isSize⟩, open_⟩
  rw [filled.2] at isSize
  exact ⟨⟨filled, (Option.some.inj isSize).symm⟩, open_⟩

theorem rename_filled (error : ImportError) (written : List UInt8) :
    Triple (On (Filled request base temporary written) false) (rename error temporary request.target)
      (fun _ => On (fun tree => tree.get request.target = some (.file written)) false)
      (On (Holding request base temporary) false) := by
  refine Triple.call (fun _ filled => filled.1) fun tree next filled changed => ?_
  rw [filled.2] at changed
  dsimp only at changed
  split at changed
  · cases changed
  · rw [← Option.some.inj changed]
    exact FileTree.get_put (List.cons_ne_nil _ _) _

/-- The stream is received as a whole, or the temporary file is left for the clean-up. -/
theorem receive_stored (zone : Location × String × String) :
    Triple (On (Holding request base temporary) false) (receive host request zone temporary)
      (fun result => On (Stored host request result) true) (On (Holding request base temporary) false) := by
  refine Triple.bind (chmod_triple _ _) fun _ => ?_
  let read := importRecords zone.1 (emptyResult request zone) request.reader
  have fill : Triple (ε := ImportError) (On (Holding request base temporary) false)
      (Task.update fun tree => tree.put temporary (.file read.2.tee.written))
      (fun _ => On (Filled request base temporary read.2.tee.written) false) (On (Holding request base temporary) false) :=
    Triple.update fun tree holding => by
      have put := holding.put read.2.tee.written
      rcases holding.inside with ⟨name, isName⟩
      exact ⟨put, FileTree.get_put (by rw [isName]; exact List.cons_ne_nil _ _) _⟩
  refine Triple.bind fill fun _ => ?_
  cases checked : (importRecords zone.1 (emptyResult request zone) request.reader).1 with
  | error error => exact Triple.throw fun _ holds => ⟨holds.1.1, holds.2⟩
  | ok counted =>
      refine Triple.bind (onFile_filled _ _) fun _ => ?_
      refine Triple.bind (fileSize_filled _ _) fun size => ?_
      refine Triple.known (fun _ holds => holds.1.2) fun isSize => ?_
      split
      · exact Triple.throw fun _ holds => ⟨holds.1.1.1, holds.2⟩
      · next small =>
          refine Triple.bind (Triple.start (fun _ holds => ⟨holds.1.1, holds.2⟩) (onFile_filled _ _)) fun _ => ?_
          refine Triple.bind (onFile_filled _ _) fun _ => ?_
          refine Triple.bind (rename_filled _ _) fun _ => ?_
          refine Triple.bind Triple.commit fun _ => ?_
          refine Triple.pure fun world holds => ⟨?_, holds.2⟩
          have whole := accepted_whole request checked (by rw [← isSize]; exact Int.not_lt.mp small)
          refine ⟨?_, ?_, ?_, congrArg host.sha256Hex whole.2⟩
          · rw [← whole.1]
            exact holds.1
          · rw [← whole.1, ← isSize]
            exact Int.not_lt.mp small
          · rw [← whole.1]
            exact isSize

/-! ### The clean-ups -/

/-- What the clean-ups leave of the directory. -/
structure Cleaned (request : ImportRequest) (base tree : Tree) : Prop where
  others : forall names, names ≠ [] -> names ≠ ["preflight"] -> names ≠ ["tmp", "preflight"] ->
    tree.get (names ++ request.directory) = base.get (names ++ request.directory)
  gone : (forall names, names ≠ [] -> base.get (names ++ request.directory) = none) ->
    tree.get request.directory = none

theorem removeImportedDataset_cleaned (absent : base.get request.target = none) (grown : Grown request base tree) :
    Cleaned request base (removeImportedDataset request.root request.datasetID tree) := by
  have noSource : tree.get request.target = none :=
    (grown_other grown ["source.csv"] (by decide) (by decide)).trans absent
  have source : remove (sourcePath request.root request.datasetID) tree = tree := by
    unfold remove
    rw [show tree.get (sourcePath request.root request.datasetID) = none from noSource]
  unfold removeImportedDataset
  rw [source]
  have apart : forall {names others : Path}, names ≠ others -> names ++ request.directory ≠ others ++ request.directory :=
    fun different same => different (List.append_cancel_right same)
  have keeps : forall (names others : Path) (before : Tree), names ≠ others ->
      (remove (others ++ request.directory) before).get (names ++ request.directory) =
        before.get (names ++ request.directory) :=
    fun names others before different => remove_get_of_ne (apart different)
  let first := remove (["tmp", "preflight"] ++ request.directory) tree
  let second := remove (["preflight"] ++ request.directory) first
  change Cleaned request base (remove ([] ++ request.directory) second)
  refine ⟨?_, ?_⟩
  · intro names nonempty notPreflight notTemporary
    rw [keeps names [] second nonempty, keeps names ["preflight"] first notPreflight,
      keeps names ["tmp", "preflight"] tree notTemporary]
    exact grown_other grown names notPreflight notTemporary
  · intro nothing
    have below : forall names, names ≠ [] -> names ≠ ["preflight"] -> names ≠ ["tmp", "preflight"] ->
        tree.get (names ++ request.directory) = none := by
      intro names nonempty notPreflight notTemporary
      rw [grown_other grown names notPreflight notTemporary]
      exact nothing names nonempty
    have noTemporary : first.get (["tmp", "preflight"] ++ request.directory) = none := by
      apply remove_get (List.cons_ne_nil _ _)
      intro name
      exact below [name, "tmp", "preflight"] (List.cons_ne_nil _ _) (by simp) (by simp)
    have noPreflight : second.get (["preflight"] ++ request.directory) = none := by
      apply remove_get (List.cons_ne_nil _ _)
      intro name
      by_cases isTemporary : name = "tmp"
      · rw [isTemporary]
        exact noTemporary
      · have different : [name, "preflight"] ≠ ["tmp", "preflight"] := by simp [isTemporary]
        exact (keeps [name, "preflight"] ["tmp", "preflight"] tree different).trans
          (below [name, "preflight"] (List.cons_ne_nil _ _) (by simp) different)
    apply remove_get (List.cons_ne_nil _ _)
    intro name
    by_cases isPreflight : name = "preflight"
    · rw [isPreflight]
      exact noPreflight
    · have different : [name] ≠ ["preflight"] := by simp [isPreflight]
      exact ((keeps [name] ["preflight"] first different).trans (keeps [name] ["tmp", "preflight"] tree (by simp))).trans
        (below [name] (List.cons_ne_nil _ _) different (by simp))

/-- After the check the import stores the stream, or the clean-ups have run. -/
theorem storeImport_triple (there : base.get request.directory = some .directory) (absent : base.get request.target = none)
    (zone : Location × String × String) (committed : Bool) :
    Triple (On (fun tree => tree = base) committed) (storeImport host request zone)
      (fun result => On (Stored host request result) true) (On (Cleaned request base) false) := by
  refine Triple.bind Triple.begun fun _ => ?_
  refine Triple.guarded ?_ fun tree (grown : Grown request base tree) => removeImportedDataset_cleaned absent grown
  have start : forall world : World (List UInt8), On (fun tree => tree = base) false world ->
      On (Grown request base) false world := by
    rintro world ⟨rfl, open_⟩
    exact ⟨fun _ => Or.inl rfl, open_⟩
  refine Triple.start start (Triple.bind (makeDirectory_grown there _ (List.suffix_cons _ _)) fun _ => ?_)
  refine Triple.bind (makeDirectory_grown there _ (List.suffix_refl _)) fun _ => ?_
  refine Triple.bind (createTemp_holding _ _) fun temporary => ?_
  exact Triple.guarded (receive_stored zone) fun tree holding => holding.removed

end AfterCheck

/-! ## The import -/

/-- Nothing lies below a path without an entry. -/
theorem nothing_below {tree : Tree} (rooted : tree.Rooted) {path : Path} (absent : tree.get path = none) (names : Path) :
    tree.get (names ++ path) = none := by
  induction names with
  | nil => exact absent
  | cons name rest inductionHypothesis =>
      cases found : tree.get (name :: (rest ++ path)) with
      | none => exact found
      | some node =>
          have parent := rooted name (rest ++ path) node found
          rw [inductionHypothesis] at parent
          cases parent

/-- What a failure after the check leaves. -/
structure NothingLeft (request : ImportRequest) (before after : Tree) : Prop where
  source : after.get request.target = none
  uploads : forall name, name ≠ "preflight" -> after.get (name :: request.directory) = before.get (name :: request.directory)
  directory : before.get request.directory = none -> after.get request.directory = none

theorem Prepared.nothingLeft {start base tree : Tree} (prepared : Prepared request start base) (rooted : start.Rooted)
    (cleaned : Cleaned request base tree) : NothingLeft request start tree where
  source :=
    (cleaned.others ["source.csv"] (by decide) (by decide) (by decide)).trans prepared.absent
  uploads := by
    intro name different
    exact (cleaned.others [name] (List.cons_ne_nil _ _) (by simp [different]) (by simp)).trans
      (prepared.below [name] (List.cons_ne_nil _ _))
  directory := by
    intro absent
    apply cleaned.gone
    intro names nonempty
    exact (prepared.below names nonempty).trans (nothing_below rooted absent names)

theorem importCSV_of_prepared {world checked : World (List UInt8)} {zone : Location × String × String}
    (prepared : prepareImport host request world = .ok zone checked) :
    importCSV host request world = storeImport host request zone checked := by
  change EStateM.bind _ _ world = _
  rw [EStateM.bind, prepared]

theorem importCSV_of_refused {world after : World (List UInt8)} {error : ImportError}
    (refused : prepareImport host request world = .error error after) :
    importCSV host request world = .error error after := by
  change EStateM.bind _ _ world = _
  rw [EStateM.bind, refused]

end Import

/-! ### A small upload -/

/-- A header, a row of 33 bytes, and its digest. -/
def sampleHost : Host where
  loadLocation _ := none
  localLocation := fixedZone 0
  localName := "UTC"
  now := 0
  sha256Hex _ := "c5699c44b36dbc527e450b988a1d97cb8e042cfaa768b85f469d47e82beb9506"
  temporaryNames := ["1"]

def sampleRequest (maxBytes : Int64) : ImportRequest where
  source :=
    { chunks := [Utf8.encode "Time_base,dzdl_1,dzdl_2,dzdl_3,dzdl_4,zl,sd\n".toList,
        Utf8.encode "2024-01-01T00:00:00Z,1,2,3,4,5,6\n".toList]
      fails := false }
  writes := []
  root := ["data"]
  datasetID := "d1"
  timezone := ""
  maxBytes := maxBytes

/-- A tree whose entries lie in directories that are its entries. -/
theorem rooted_of_entries {tree : Tree}
    (closed : forall entry, entry ∈ tree.entries -> tree.get entry.1.tail = some .directory) : tree.Rooted := by
  intro name path node found
  rw [FileTree.get, if_neg (List.cons_ne_nil _ _), Option.map_eq_some_iff] at found
  rcases found with ⟨entry, isFound, _⟩
  have located : entry.1 = name :: path := by
    have isHere := List.find?_some isFound
    exact of_decide_eq_true isHere
  have parent := closed entry (List.mem_of_find?_eq_some isFound)
  rwa [located] at parent

def emptyWorld : World (List UInt8) where
  tree := { entries := [], distinct := List.nodup_nil }
  faults _ := false
  calls := 0
  committed := false

/-- The source file is there already. -/
def occupiedWorld : World (List UInt8) where
  tree :=
    { entries := [(["source.csv", "d1", "data"], .file [1]), (["d1", "data"], .directory), (["data"], .directory)]
      distinct := by decide }
  faults _ := false
  calls := 0
  committed := false

def succeeds (outcome : EStateM.Result ImportError (World (List UInt8)) ImportResult) : Bool :=
  match outcome with
  | .ok _ _ => true
  | .error _ _ => false

end Dataset
end FederatedIot
