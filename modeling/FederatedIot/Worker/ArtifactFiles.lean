import FederatedIot.Worker.ArtifactWriter

namespace FederatedIot
namespace Worker
namespace Artifacts

open Foundation Foundation.Files Foundation.Paths Foundation.Work

/-!
# Placing a file

A write either puts its bytes in their place and touches no other file, or it stops
before that and no file is touched, provided that its clean-up works.  Which of the two
happens is decided by the system calls that fail and by what lies in the way.
-/

variable {host : Host} {faults : Faults} {tree middle later : Tree} {path tempPath other : Path} {data : Bytes}

/-! ## Trees -/

theorem content?_congr (same : later.get path = tree.get path) : content? later path = content? tree path := by
  rw [content?, content?, same]

theorem content?_eq_some_iff : content? tree path = some data ↔ tree.get path = some (.file data) := by
  unfold content?
  cases tree.get path with
  | none => exact iff_of_false (by rintro ⟨⟩) (by rintro ⟨⟩)
  | some node =>
      cases node with
      | directory => exact iff_of_false (by rintro ⟨⟩) (by rintro ⟨⟩)
      | file bytes =>
          rw [Option.some.injEq, Option.some.injEq, Node.file.injEq]

/-- No file has changed, and nothing at paths of a length from `depth` on. -/
structure SameFiles (depth : Nat) (tree later : Tree) : Prop where
  files : forall other, content? later other = content? tree other
  beside : forall other, depth ≤ other.length -> later.get other = tree.get other

/-- The file is in its place, and otherwise only directories above it are new. -/
structure Placed (path : Path) (data : Bytes) (tree later : Tree) : Prop where
  inPlace : later.get path = some (.file data)
  files : forall other, other ≠ path -> content? later other = content? tree other
  beside : forall other, other ≠ path -> path.length ≤ other.length -> later.get other = tree.get other

/-- The file is in its place, and all else is as it was. -/
def Replaced (path : Path) (data : Bytes) (tree later : Tree) : Prop :=
  later.get path = some (.file data) ∧ forall other, other ≠ path -> later.get other = tree.get other

theorem SameFiles.refl (depth : Nat) (tree : Tree) : SameFiles depth tree tree :=
  ⟨fun _ => rfl, fun _ _ => rfl⟩

theorem SameFiles.trans {depth : Nat} (first : SameFiles depth tree middle) (second : SameFiles depth middle later) :
    SameFiles depth tree later where
  files other := (second.files other).trans (first.files other)
  beside other long := (second.beside other long).trans (first.beside other long)

theorem SameFiles.of_get {depth : Nat} (same : forall other, later.get other = tree.get other) :
    SameFiles depth tree later :=
  ⟨fun other => content?_congr (same other), fun other _ => same other⟩

theorem SameFiles.placed (above : SameFiles path.length tree middle) (replaced : Replaced path data middle later) :
    Placed path data tree later where
  inPlace := replaced.1
  files other different := (content?_congr (replaced.2 other different)).trans (above.files other)
  beside other different long := (replaced.2 other different).trans (above.beside other long)

/-! ## Places -/

variable {name : List Char}

theorem parse_root (relative : name.head? ≠ some '/') : (PurePosixPath.parse name).root = [] := by
  change PurePosixPath.rootOf name = []
  unfold PurePosixPath.rootOf
  split
  · exact absurd rfl relative
  · exact absurd rfl relative
  · exact absurd rfl relative
  · rfl

theorem parse_relative (relative : name.head? ≠ some '/') : (PurePosixPath.parse name).parts = entered name := by
  rw [PurePosixPath.parts, if_pos (parse_root relative)]
  rfl

/-- A name of the pattern begins with a component that it enters. -/
theorem entered_ne_nil (pattern : matchesPathPattern name = true) : entered name ≠ [] := by
  cases name with
  | nil => cases pattern
  | cons first rest =>
      rw [matchesPathPattern, Bool.and_eq_true] at pattern
      have notSlash : first ≠ '/' := fun same => (by rw [same] at pattern; cases pattern.1)
      have notDot : first ≠ '.' := fun same => (by rw [same] at pattern; cases pattern.1)
      cases parts : components rest with
      | nil => exact absurd parts (List.splitOn_ne_nil _ _)
      | cons next more =>
          apply List.ne_nil_of_mem (a := first :: next)
          rw [entered, components_other notSlash, parts, List.modifyHead_cons]
          refine List.mem_filter.mpr ⟨List.mem_cons_self, ?_⟩
          simp [notDot]

theorem place_ne_nil (pattern : matchesPathPattern name = true) : place name ≠ [] := by
  rw [place, parse_relative (pattern_relative pattern)]
  intro empty
  rw [List.reverse_eq_nil_iff, List.map_eq_nil_iff] at empty
  exact entered_ne_nil pattern empty

theorem asPosix_relative (pattern : matchesPathPattern name = true) :
    (PurePosixPath.parse name).asPosix = ['/'].intercalate (entered name) := by
  have root := parse_root (pattern_relative pattern)
  rw [PurePosixPath.asPosix, root, List.nil_append]
  change (if ['/'].intercalate (entered name) = [] then _ else _) = _
  refine if_neg fun empty => ?_
  have same := entered_intercalate (entered_ne_nil pattern)
  rw [empty] at same
  exact entered_ne_nil pattern same.symm

/-- The normal form of a name has the same place. -/
theorem place_asPosix (pattern : matchesPathPattern name = true) :
    place (PurePosixPath.parse name).asPosix = place name := by
  have inside := entered_ne_nil pattern
  have again := entered_intercalate inside
  have relative : (['/'].intercalate (entered name)).head? ≠ some '/' := by
    intro starts
    rcases List.head?_eq_some_iff.mp starts with ⟨rest, split⟩
    have parts := congrArg components split
    rw [components_slash] at parts
    have plain : components (['/'].intercalate (entered name)) = entered name :=
      List.splitOn_intercalate '/' (fun part member => slash_notMem name part (List.mem_of_mem_filter member)) inside
    rw [plain] at parts
    have empty : [] ∈ entered name := by
      rw [parts]
      exact List.mem_cons_self
    have refused := (List.mem_filter.mp empty).2
    cases refused
  rw [asPosix_relative pattern, place, parse_relative relative, again, place,
    parse_relative (pattern_relative pattern)]

/-- Names with one place have one normal form. -/
theorem asPosix_of_place {other : List Char} (pattern : matchesPathPattern name = true)
    (otherPattern : matchesPathPattern other = true) (same : place name = place other) :
    (PurePosixPath.parse name).asPosix = (PurePosixPath.parse other).asPosix := by
  rw [place, place, parse_relative (pattern_relative pattern), parse_relative (pattern_relative otherPattern),
    List.reverse_inj] at same
  rw [asPosix_relative pattern, asPosix_relative otherPattern,
    List.map_injective_iff.mpr (fun _ _ => String.ofList_injective) same]

/-! ## The directories above a file -/

theorem attempt_leads {State : Type} {stage : Stage} {start : State} {failed : Failure -> State -> Prop}
    (refused : faults.fails stage = true -> failed .system start) :
    Leads (attempt faults stage) start (fun _ state => faults.fails stage = false ∧ state = start) failed :=
  Leads.refuse refused fun passed => ⟨Bool.eq_false_iff.mpr passed, rfl⟩

theorem after_attempt {State Value : Type} {stage : Stage} {start : State} {next : Unit -> EStateM Failure State Value}
    {returned : Value -> State -> Prop} {failed : Failure -> State -> Prop}
    (refused : faults.fails stage = true -> failed .system start)
    (rest : faults.fails stage = false -> Leads (next ()) start returned failed) :
    Leads (attempt faults stage >>= next) start returned failed :=
  Leads.after_refuse refused fun passed => rest (Bool.eq_false_iff.mpr passed)

theorem directories_short (path : Path) : ∀ parent ∈ directories path, parent ≠ [] ∧ parent.length ≤ path.length := by
  induction path with
  | nil =>
      intro parent member
      cases member
  | cons name above inductionHypothesis =>
      intro parent member
      rcases List.mem_append.mp member with earlier | last
      · rcases inductionHypothesis parent earlier with ⟨nonempty, short⟩
        exact ⟨nonempty, Nat.le_succ_of_le short⟩
      · rw [List.mem_singleton.mp last]
        exact ⟨List.cons_ne_nil _ _, Nat.le_refl _⟩

theorem directories_length (path : Path) : (directories path).length = path.length := by
  induction path with
  | nil => rfl
  | cons name above inductionHypothesis =>
      rw [directories, List.length_append, inductionHypothesis]
      rfl

theorem makeDirectory_leads {depth : Nat} (nonempty : path ≠ []) (short : path.length < depth) :
    Leads (makeDirectory path) tree (fun _ later => SameFiles depth tree later ∧ content? tree path = none)
      fun _ later => later = tree ∧ (content? tree path).isSome = true := by
  unfold Leads makeDirectory
  cases found : tree.get path with
  | none =>
      have noFile : content? tree path = none := by
        rw [content?, found]
      refine ⟨⟨?_, ?_⟩, noFile⟩
      · intro other
        by_cases same : other = path
        · rw [same, noFile, content?, FileTree.get_put nonempty]
        · exact content?_congr (FileTree.get_put_of_ne same _)
      · intro other long
        apply FileTree.get_put_of_ne
        rintro rfl
        exact absurd long (Nat.not_le.mpr short)
  | some node =>
      cases node with
      | directory =>
          refine ⟨SameFiles.refl depth tree, ?_⟩
          rw [content?, found]
      | file bytes =>
          refine ⟨rfl, ?_⟩
          rw [content?, found]
          rfl

/-- The directories are made, or a call fails, or a file is in the way of one. -/
theorem makeDirectories_leads {depth first : Nat} {paths : List Path}
    (short : ∀ parent ∈ paths, parent ≠ [] ∧ parent.length < depth) :
    Leads (makeDirectories faults first paths) tree
      (fun _ later => SameFiles depth tree later ∧ (forall index, index < paths.length ->
        faults.fails (.parents (first + index)) = false) ∧ ∀ parent ∈ paths, content? tree parent = none)
      fun _ later => SameFiles depth tree later ∧
        ((exists index, index < paths.length ∧ faults.fails (.parents (first + index)) = true) ∨
          ∃ parent ∈ paths, (content? tree parent).isSome = true) := by
  induction paths generalizing first tree with
  | nil =>
      refine Leads.pure ⟨SameFiles.refl depth tree, ?_, ?_⟩
      · rintro index ⟨⟩
      · rintro parent ⟨⟩
  | cons head rest inductionHypothesis =>
      rcases List.forall_mem_cons.mp short with ⟨⟨nonempty, headShort⟩, restShort⟩
      refine after_attempt ?_ fun allowed => ?_
      · intro fails
        exact ⟨SameFiles.refl depth tree, Or.inl ⟨0, Nat.succ_pos _, fails⟩⟩
      · refine Leads.bind ((makeDirectory_leads nonempty headShort).weaken (fun _ _ done => done) ?_) ?_
        · rintro _ later ⟨rfl, blocked⟩
          exact ⟨SameFiles.refl depth later, Or.inr ⟨head, List.mem_cons_self, blocked⟩⟩
        · rintro _ middle ⟨made, free⟩
          refine (inductionHypothesis restShort).weaken ?_ ?_
          · rintro _ later ⟨madeRest, passed, freeRest⟩
            refine ⟨made.trans madeRest, ?_, ?_⟩
            · intro index below
              cases index with
              | zero => exact allowed
              | succ index =>
                  rw [← Nat.add_assoc, Nat.add_right_comm]
                  exact passed index (Nat.lt_of_succ_lt_succ below)
            · intro parent member
              rcases List.mem_cons.mp member with rfl | inRest
              · exact free
              · rw [← made.files parent]
                exact freeRest parent inRest
          · rintro _ later ⟨madeRest, ⟨index, below, fails⟩ | ⟨parent, inRest, blocked⟩⟩
            · refine ⟨made.trans madeRest, Or.inl ⟨index + 1, Nat.succ_lt_succ below, ?_⟩⟩
              rw [← Nat.add_assoc, Nat.add_right_comm]
              exact fails
            · rw [made.files parent] at blocked
              exact ⟨made.trans madeRest, Or.inr ⟨parent, List.mem_cons_of_mem head inRest, blocked⟩⟩

/-! ## The file itself -/

/-- The system calls from the temporary file on to the move. -/
def movingStages : List Stage :=
  [.openTemp, .tempMode, .handle, .data, .replace]

/-- One of these calls fails, or a directory is in the place of the file. -/
def Halted (faults : Faults) (path : Path) (tree : Tree) : Prop :=
  (∃ stage ∈ movingStages, faults.fails stage = true) ∨ tree.get path = some .directory

/-- Only the temporary file differs, and only when it was created. -/
structure Staged (tempPath : Path) (tree : Tree) (state : Attempt) : Prop where
  others : forall other, other ≠ tempPath -> state.tree.get other = tree.get other
  fresh : state.created = false -> state.tree = tree

theorem Staged.put {state : Attempt} (staged : Staged tempPath tree state)
    (created : state.created = true) (descriptor : Bool) (bytes : Bytes) :
    Staged tempPath tree { state with tree := state.tree.put tempPath (.file bytes), descriptor := descriptor } where
  others other different := (FileTree.get_put_of_ne different _).trans (staged.others other different)
  fresh isFresh := by
    rw [created] at isFresh
    cases isFresh

theorem halted_of {stage : Stage} (member : stage ∈ movingStages) (fails : faults.fails stage = true) :
    Halted faults path tree :=
  Or.inl ⟨stage, member, fails⟩

theorem replaceFile_leads (nonempty : path ≠ []) (apart : tempPath ≠ path) (absent : tree.get tempPath = none)
    {state : Attempt} (staged : Staged tempPath tree state) (filled : state.tree.get tempPath = some (.file data)) :
    Leads (replaceFile tempPath path) state
      (fun _ later => tree.get path ≠ some .directory ∧ later.descriptor = state.descriptor ∧
        Replaced path data tree later.tree)
      fun _ later => Halted faults path tree ∧ Staged tempPath tree later := by
  unfold Leads replaceFile
  rw [content?_eq_some_iff.mpr filled, staged.others path apart.symm]
  dsimp only
  by_cases blocked : tree.get path = some .directory
  · rw [if_pos blocked]
    exact ⟨Or.inr blocked, staged⟩
  · rw [if_neg blocked]
    refine ⟨blocked, rfl, FileTree.get_put nonempty _, ?_⟩
    intro other different
    dsimp only
    rw [FileTree.get_put_of_ne different]
    by_cases same : other = tempPath
    · rw [same, absent]
      exact FileTree.get_erase fun isRoot => (by rw [isRoot] at absent; cases absent)
    · rw [FileTree.get_erase_of_ne same]
      exact staged.others other same

theorem placeFile_leads (nonempty : path ≠ []) (apart : tempPath ≠ path) (absent : tree.get tempPath = none) :
    Leads (placeFile faults tempPath path data) { tree := tree, descriptor := false, created := false }
      (fun _ later => ¬Halted faults path tree ∧ Replaced path data tree later.tree)
      fun _ later => (Halted faults path tree ∧ Staged tempPath tree later) ∨
        (¬Halted faults path tree ∧ faults.fails .targetMode = true ∧ later.descriptor = false ∧
          Replaced path data tree later.tree) := by
  have inside : tempPath ≠ [] := by
    rintro rfl
    cases absent
  have begun : Staged tempPath tree { tree := tree, descriptor := false, created := false } :=
    ⟨fun _ _ => rfl, fun _ => rfl⟩
  have created : Staged tempPath tree { tree := tree.put tempPath (.file []), descriptor := true, created := true } :=
    ⟨fun other different => FileTree.get_put_of_ne different _, fun wrong => (by cases wrong)⟩
  have closed : Staged tempPath tree { tree := tree.put tempPath (.file []), descriptor := false, created := true } :=
    ⟨created.others, fun wrong => (by cases wrong)⟩
  refine after_attempt (fun fails => Or.inl ⟨halted_of (by decide) fails, begun⟩) fun opens => ?_
  refine Leads.after_modify ?_
  refine after_attempt (fun fails => Or.inl ⟨halted_of (by decide) fails, created⟩) fun modes => ?_
  refine after_attempt (fun fails => Or.inl ⟨halted_of (by decide) fails, created⟩) fun handles => ?_
  refine Leads.after_modify ?_
  have fills : Leads (fillTemp faults tempPath data)
      { tree := tree.put tempPath (.file []), descriptor := false, created := true }
      (fun _ later => faults.fails .data = false ∧ later.descriptor = false ∧ Staged tempPath tree later ∧
        later.tree.get tempPath = some (.file data))
      fun _ later => (Halted faults path tree ∧ Staged tempPath tree later) ∨
        (¬Halted faults path tree ∧ faults.fails .targetMode = true ∧ later.descriptor = false ∧
          Replaced path data tree later.tree) := by
    unfold Leads fillTemp
    cases fails : faults.fails .data with
    | true => exact Or.inl ⟨halted_of (by decide) fails, closed.put rfl false _⟩
    | false => exact ⟨rfl, rfl, closed.put rfl false _, FileTree.get_put inside _⟩
  refine fills.bind ?_
  rintro _ state ⟨writes, noDescriptor, staged, filled⟩
  refine after_attempt (fun fails => Or.inl ⟨halted_of (by decide) fails, staged⟩) fun replaces => ?_
  have moves : Leads (replaceFile tempPath path) state _
      fun _ later => Halted faults path tree ∧ Staged tempPath tree later :=
    replaceFile_leads nonempty apart absent staged filled
  refine (moves.weaken (fun _ _ done => done) fun _ _ halted => Or.inl halted).bind ?_
  rintro _ later ⟨free, descriptor, replaced⟩
  have runs : ¬Halted faults path tree := by
    rintro (⟨stage, member, fails⟩ | blocked)
    · simp only [movingStages, List.mem_cons, List.not_mem_nil, or_false] at member
      rcases member with rfl | rfl | rfl | rfl | rfl
      · exact absurd fails (Bool.eq_false_iff.mp opens)
      · exact absurd fails (Bool.eq_false_iff.mp modes)
      · exact absurd fails (Bool.eq_false_iff.mp handles)
      · exact absurd fails (Bool.eq_false_iff.mp writes)
      · exact absurd fails (Bool.eq_false_iff.mp replaces)
    · exact free blocked
  refine (attempt_leads fun fails => Or.inr ⟨runs, fails, descriptor.trans noDescriptor, replaced⟩).weaken ?_
    fun _ _ failed => failed
  rintro _ _ ⟨_, rfl⟩
  exact ⟨runs, replaced⟩

/-- The clean-up of a failed write works. -/
def CleansUp (faults : Faults) : Prop :=
  faults.fails .closeTemp = false ∧ faults.fails .unlinkTemp = false

theorem unlinkTemp_leads {state : Attempt}
    (others : forall other, other ≠ tempPath -> state.tree.get other = tree.get other) (absent : tree.get tempPath = none) :
    Leads (unlinkTemp faults tempPath) state
      (fun _ cleaned => forall other, cleaned.tree.get other = tree.get other) fun _ _ => ¬CleansUp faults := by
  have inside : tempPath ≠ [] := by
    rintro rfl
    cases absent
  unfold Leads unlinkTemp
  cases found : state.tree.get tempPath with
  | none =>
      intro other
      by_cases same : other = tempPath
      · rw [same, found, absent]
      · exact others other same
  | some node =>
      cases fails : faults.fails .unlinkTemp with
      | true =>
          intro cleans
          rw [cleans.2] at fails
          cases fails
      | false =>
          intro other
          by_cases same : other = tempPath
          · rw [same, absent]
            exact FileTree.get_erase inside
          · exact (FileTree.get_erase_of_ne same).trans (others other same)

/-- After a failure before the move, a clean-up that works leaves the tree as it was. -/
theorem discardTemp_staged {state : Attempt} (staged : Staged tempPath tree state) (absent : tree.get tempPath = none) :
    Leads (discardTemp faults tempPath) state
      (fun _ cleaned => forall other, cleaned.tree.get other = tree.get other) fun _ _ => ¬CleansUp faults := by
  refine Leads.after_get (Leads.after_refuse ?_ fun _ => ?_)
  · rintro ⟨_, fails⟩ cleans
    rw [cleans.1] at fails
    cases fails
  · cases created : state.created with
    | false => exact Leads.pure fun other => (by rw [staged.fresh created])
    | true => exact unlinkTemp_leads staged.others absent

/-- After the move there is nothing to clean up. -/
theorem discardTemp_replaced {state : Attempt} (missing : state.tree.get tempPath = none)
    (noDescriptor : state.descriptor = false) :
    Leads (discardTemp faults tempPath) state (fun _ cleaned => cleaned.tree = state.tree) fun _ _ => False := by
  refine Leads.after_get (Leads.after_refuse ?_ fun _ => ?_)
  · rintro ⟨open_, _⟩
    rw [noDescriptor] at open_
    cases open_
  · cases created : state.created with
    | false => exact Leads.pure rfl
    | true =>
        change Leads (unlinkTemp faults tempPath) state _ _
        unfold Leads unlinkTemp
        rw [missing]
        rfl

/-! ## The whole write -/

/-- The calls from the directories on to the move. -/
def earlyStages : List Stage :=
  .parentMode :: .probe :: movingStages

/-- The write of a file stops before the file reaches its place: a call fails, or a file
or a directory is in the way, or the temporary names are taken. -/
def Stopped (host : Host) (faults : Faults) (path : Path) (tree : Tree) : Prop :=
  (exists depth, depth + 1 < path.length ∧ faults.fails (.parents depth) = true) ∨
    (∃ stage ∈ earlyStages, faults.fails stage = true) ∨
    (∃ parent ∈ directories path.tail, (content? tree parent).isSome = true) ∨
    tree.get path = some .directory ∨ reserveTempPath host path tree = none

theorem temporaryPath_length (sequence : Nat) (path : Path) :
    (temporaryPath host sequence path).length = path.length := by
  cases path with
  | nil => rfl
  | cons name parent => rfl

theorem temporaryPath_ne (nonempty : path ≠ []) (sequence : Nat) : temporaryPath host sequence path ≠ path := by
  cases path with
  | nil => exact absurd rfl nonempty
  | cons name parent =>
      intro same
      have longer := congrArg String.length (List.cons.inj same).1
      rw [String.length_append, String.length_append, String.length_append, String.length_append] at longer
      have mark : (".writing." : String).length = 9 := rfl
      omega

theorem reserveTempPath_congr (beside : forall other, path.length ≤ other.length -> later.get other = tree.get other) :
    reserveTempPath host path later = reserveTempPath host path tree := by
  unfold reserveTempPath
  rw [List.find?_map, List.find?_map]
  congr 2
  funext sequence
  change (later.get (temporaryPath host sequence path)).isNone = (tree.get (temporaryPath host sequence path)).isNone
  rw [beside _ (Nat.le_of_eq (temporaryPath_length sequence path).symm)]

theorem reserveTempPath_some (nonempty : path ≠ []) (reserved : reserveTempPath host path tree = some tempPath) :
    tempPath ≠ path ∧ tree.get tempPath = none := by
  refine ⟨?_, ?_⟩
  · rcases List.mem_map.mp (List.mem_of_find?_eq_some reserved) with ⟨sequence, _, rfl⟩
    exact temporaryPath_ne nonempty sequence
  · have missing := @List.find?_some _ (fun candidate => (tree.get candidate).isNone) _ _ reserved
    exact Option.isNone_iff_eq_none.mp missing

/-- What a write of a file does. -/
theorem writeFile_leads {name : List Char} (nonempty : place name ≠ []) :
    Leads (writeFile host faults name data) tree
      (fun _ later => ¬Stopped host faults (place name) tree ∧ Placed (place name) data tree later)
      fun _ later =>
        (Stopped host faults (place name) tree ∧ (CleansUp faults -> SameFiles (place name).length tree later)) ∨
          (¬Stopped host faults (place name) tree ∧ faults.fails .targetMode = true ∧
            Placed (place name) data tree later) := by
  generalize isPath : place name = path at nonempty
  have shorter : path.tail.length < path.length := by
    rw [List.length_tail]
    exact Nat.sub_one_lt (fun empty => nonempty (List.eq_nil_of_length_eq_zero empty))
  have short : ∀ parent ∈ directories path.tail, parent ≠ [] ∧ parent.length < path.length := by
    intro parent member
    rcases directories_short path.tail parent member with ⟨inside, below⟩
    exact ⟨inside, Nat.lt_of_le_of_lt below shorter⟩
  have depths : forall index, index < (directories path.tail).length ↔ index + 1 < path.length := by
    intro index
    rw [directories_length, List.length_tail]
    omega
  have made : Leads (makeDirectories faults 0 (directories path.tail)) tree _ _ := makeDirectories_leads short
  unfold writeFile
  rw [isPath]
  refine (made.weaken (fun _ _ done => done) ?_).bind ?_
  · rintro _ later ⟨same, ⟨index, below, fails⟩ | blocked⟩
    · rw [Nat.zero_add] at fails
      exact Or.inl ⟨Or.inl ⟨index, (depths index).mp below, fails⟩, fun _ => same⟩
    · exact Or.inl ⟨Or.inr (Or.inr (Or.inl blocked)), fun _ => same⟩
  rintro _ middle ⟨same, passed, free⟩
  have early : ∀ stage ∈ earlyStages, faults.fails stage = true -> Stopped host faults path tree :=
    fun stage member fails => Or.inr (Or.inl ⟨stage, member, fails⟩)
  refine after_attempt (fun fails => Or.inl ⟨early _ (by decide) fails, fun _ => same⟩) fun modes => ?_
  refine after_attempt (fun fails => Or.inl ⟨early _ (by decide) fails, fun _ => same⟩) fun probes => ?_
  refine Leads.after_get ?_
  cases reserved : reserveTempPath host path middle with
  | none =>
      rw [reserveTempPath_congr same.beside] at reserved
      exact Leads.throw (Or.inl ⟨Or.inr (Or.inr (Or.inr (Or.inr reserved))), fun _ => same⟩)
  | some tempPath =>
      rcases reserveTempPath_some nonempty reserved with ⟨apart, absent⟩
      rw [reserveTempPath_congr same.beside] at reserved
      have there : middle.get path = tree.get path := same.beside path (Nat.le_refl _)
      have halts : Halted faults path middle -> Stopped host faults path tree := by
        rintro (⟨stage, member, fails⟩ | blocked)
        · exact early stage (List.mem_cons_of_mem _ (List.mem_cons_of_mem _ member)) fails
        · exact Or.inr (Or.inr (Or.inr (Or.inl (there ▸ blocked))))
      have runs : ¬Halted faults path middle -> ¬Stopped host faults path tree := by
        rintro runs (⟨index, below, fails⟩ | ⟨stage, member, fails⟩ | ⟨parent, member, blocked⟩ | blocked | taken)
        · have allowed := passed index ((depths index).mpr below)
          rw [Nat.zero_add] at allowed
          exact absurd fails (Bool.eq_false_iff.mp allowed)
        · rcases List.mem_cons.mp member with rfl | member
          · exact absurd fails (Bool.eq_false_iff.mp modes)
          · rcases List.mem_cons.mp member with rfl | member
            · exact absurd fails (Bool.eq_false_iff.mp probes)
            · exact runs (Or.inl ⟨stage, member, fails⟩)
        · rw [free parent member] at blocked
          cases blocked
        · exact runs (Or.inr (there.trans blocked))
        · rw [taken] at reserved
          cases reserved
      refine Leads.within (Leads.caught ((placeFile_leads nonempty apart absent).weaken ?_ fun _ _ failed => failed) ?_)
      · rintro _ later ⟨moved, replaced⟩
        exact ⟨runs moved, same.placed replaced⟩
      · rintro state (⟨halted, staged⟩ | ⟨moved, fails, noDescriptor, replaced⟩)
        · refine (discardTemp_staged staged absent).weaken ?_ ?_
          · intro _ cleaned restored
            exact Or.inl ⟨halts halted, fun _ => same.trans (.of_get restored)⟩
          · intro _ left broken
            exact Or.inl ⟨halts halted, fun cleans => absurd cleans broken⟩
        · have missing : state.tree.get tempPath = none := (replaced.2 tempPath apart).trans absent
          refine (discardTemp_replaced missing noDescriptor).weaken ?_ fun _ _ wrong => wrong.elim
          intro _ cleaned unchanged
          rw [unchanged]
          exact Or.inr ⟨runs moved, fails, same.placed replaced⟩

end Artifacts
end Worker
end FederatedIot
