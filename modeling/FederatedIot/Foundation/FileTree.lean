import Mathlib.Data.List.Nodup

namespace Foundation
namespace Files

universe u

variable {β : Type u}

/-!
# File trees

A tree has directories and files by path.  The path of an entry begins with its own
name, followed by the path of the directory it lies in, and the root has no entry of
its own.
-/

abbrev Path := List String

inductive Node (β : Type u) where
  | directory
  | file (content : β)
  deriving DecidableEq

structure FileTree (β : Type u) where
  entries : List (Path × Node β)
  distinct : (entries.map Prod.fst).Nodup

namespace FileTree

def get (tree : FileTree β) (path : Path) : Option (Node β) :=
  if path = [] then some .directory else (tree.entries.find? fun entry => entry.1 = path).map Prod.snd

def erase (tree : FileTree β) (path : Path) : FileTree β where
  entries := tree.entries.filter fun entry => entry.1 ≠ path
  distinct := tree.distinct.sublist (List.filter_sublist.map Prod.fst)

def put (tree : FileTree β) (path : Path) (node : Node β) : FileTree β where
  entries := (path, node) :: (tree.erase path).entries
  distinct := by
    rw [List.map_cons, List.nodup_cons]
    refine ⟨?_, (tree.erase path).distinct⟩
    intro member
    rcases List.mem_map.mp member with ⟨entry, kept, same⟩
    exact of_decide_eq_true (List.mem_filter.mp kept).2 same

/-- Whether something lies in the directory. -/
def hasChild (tree : FileTree β) (path : Path) : Bool :=
  tree.entries.any fun entry => entry.1 ≠ [] && entry.1.tail = path

variable {tree : FileTree β} {path other : Path}

theorem get_put (nonempty : path ≠ []) (node : Node β) : (tree.put path node).get path = some node := by
  rw [get, if_neg nonempty, put]
  dsimp only
  rw [List.find?_cons_of_pos (by exact decide_eq_true rfl)]
  rfl

theorem find_erase (different : other ≠ path) :
    (tree.erase path).entries.find? (fun entry => entry.1 = other) = tree.entries.find? fun entry => entry.1 = other := by
  rw [erase, List.find?_filter]
  congr 1
  funext entry
  by_cases same : entry.1 = other
  · have kept : entry.1 ≠ path := fun isPath => different (same.symm.trans isPath)
    simp [same, different]
  · simp [same]

theorem get_erase_of_ne (different : other ≠ path) : (tree.erase path).get other = tree.get other := by
  rw [get, get, find_erase different]

theorem get_put_of_ne (different : other ≠ path) (node : Node β) : (tree.put path node).get other = tree.get other := by
  have head : ¬decide (path = other) = true := fun same => different (of_decide_eq_true same).symm
  rw [get, get, put]
  dsimp only
  rw [List.find?_cons_of_neg (by exact head), find_erase different]

theorem get_erase (nonempty : path ≠ []) : (tree.erase path).get path = none := by
  rw [get, if_neg nonempty, Option.map_eq_none_iff, List.find?_eq_none]
  intro entry member same
  exact of_decide_eq_true (List.mem_filter.mp member).2 (of_decide_eq_true same)

/-- A directory without entries by any name has nothing in it. -/
theorem hasChild_of_get (empty : forall name, tree.get (name :: path) = none) : tree.hasChild path = false := by
  rw [hasChild, List.any_eq_false]
  intro entry member inside
  rw [Bool.and_eq_true, decide_eq_true_eq, decide_eq_true_eq] at inside
  rcases inside with ⟨nonempty, parent⟩
  cases location : entry.1 with
  | nil => exact nonempty location
  | cons name rest =>
      rw [location, List.tail_cons] at parent
      have absent := empty name
      rw [get, if_neg (List.cons_ne_nil _ _), Option.map_eq_none_iff, List.find?_eq_none] at absent
      apply absent entry member
      rw [location, parent]
      exact decide_eq_true rfl

/-- Every entry lies in a directory. -/
def Rooted (tree : FileTree β) : Prop :=
  forall name path node, tree.get (name :: path) = some node -> tree.get path = some .directory

end FileTree

/-! ## Work on a tree -/

/-- The tree, which of the system calls fail, and how many were made.  A flag tells
whether the work was committed. -/
structure World (β : Type u) where
  tree : FileTree β
  faults : Nat -> Bool
  calls : Nat
  committed : Bool

/-- Work that may fail, and that leaves the tree as it is then. -/
abbrev Task (β ε : Type) := EStateM ε (World β)

variable {β ε : Type}

namespace Task

/-- A system call that changes the tree, or fails. -/
def call (error : ε) (change : FileTree β -> Option (FileTree β)) : Task β ε Unit := fun world =>
  let asked : World β := { world with calls := world.calls + 1 }
  if world.faults world.calls then .error error asked
  else
    match change world.tree with
    | some tree => .ok () { asked with tree := tree }
    | none => .error error asked

/-- A system call that only looks at the tree. -/
def look {α : Type} (error : ε) (question : FileTree β -> Option α) : Task β ε α := fun world =>
  let asked : World β := { world with calls := world.calls + 1 }
  if world.faults world.calls then .error error asked
  else
    match question world.tree with
    | some answer => .ok answer asked
    | none => .error error asked

/-- A change of the tree that is not refused. -/
def update (change : FileTree β -> FileTree β) : Task β ε Unit := fun world =>
  .ok () { world with tree := change world.tree }

def throw {α : Type} (error : ε) : Task β ε α := fun world =>
  .error error world

/-- Nothing is committed yet. -/
def begun : Task β ε Unit := fun world =>
  .ok () { world with committed := false }

/-- The rest of the function runs in the scope of a deferred clean-up, which does
nothing once the work is committed. -/
def guarded {α : Type} (cleanUp : FileTree β -> FileTree β) (body : Task β ε α) : Task β ε α := fun world =>
  match body world with
  | .ok value after => .ok value (if after.committed then after else { after with tree := cleanUp after.tree })
  | .error error after =>
      .error error (if after.committed then after else { after with tree := cleanUp after.tree })

def commit : Task β ε Unit := fun world =>
  .ok () { world with committed := true }

/-! ### Rules -/

/-- A condition on the tree, and whether the work is committed. -/
def On (condition : FileTree β -> Prop) (committed : Bool) (world : World β) : Prop :=
  condition world.tree ∧ world.committed = committed

/-- What holds before the work, after it, and after its failure. -/
structure Triple {α : Type} (before : World β -> Prop) (task : Task β ε α) (after : α -> World β -> Prop)
    (failed : World β -> Prop) : Prop where
  returns : forall world value later, before world -> task world = .ok value later -> after value later
  fails : forall world error later, before world -> task world = .error error later -> failed later

variable {α γ : Type} {before failed : World β -> Prop} {middle : α -> World β -> Prop} {after : γ -> World β -> Prop}
  {condition result broken : FileTree β -> Prop} {committed : Bool}

theorem Triple.bind {first : Task β ε α} {next : α -> Task β ε γ} (start : Triple before first middle failed)
    (rest : forall value, Triple (middle value) (next value) after failed) :
    Triple before (first >>= next) after failed where
  returns := by
    intro world value later holds done
    change EStateM.bind first next world = _ at done
    rw [EStateM.bind] at done
    split at done
    · next found between stepped => exact (rest found).returns _ _ _ (start.returns _ _ _ holds stepped) done
    · cases done
  fails := by
    intro world error later holds done
    change EStateM.bind first next world = _ at done
    rw [EStateM.bind] at done
    split at done
    · next found between stepped => exact (rest found).fails _ _ _ (start.returns _ _ _ holds stepped) done
    · next reason between stepped =>
        cases done
        exact start.fails _ _ _ holds stepped

/-- More may be known before the work. -/
theorem Triple.start {earlier : World β -> Prop} {task : Task β ε γ} (known : forall world, earlier world -> before world)
    (rest : Triple before task after failed) : Triple earlier task after failed where
  returns := fun world value later holds done => rest.returns world value later (known world holds) done
  fails := fun world error later holds done => rest.fails world error later (known world holds) done

/-- What holds of every world before the work is known of it. -/
theorem Triple.known {fact : Prop} {task : Task β ε γ} (holds : forall world, before world -> fact)
    (rest : fact -> Triple before task after failed) : Triple before task after failed where
  returns := fun world value later start done => (rest (holds world start)).returns world value later start done
  fails := fun world error later start done => (rest (holds world start)).fails world error later start done

theorem Triple.pure {value : γ} (holds : forall world, before world -> after value world) :
    Triple before (Pure.pure value : Task β ε γ) after failed where
  returns := by
    rintro world _ _ start ⟨⟩
    exact holds world start
  fails := by
    rintro _ _ _ _ ⟨⟩

theorem Triple.throw {error : ε} (holds : forall world, before world -> failed world) :
    Triple before (throw error : Task β ε γ) after failed where
  returns := by
    rintro _ _ _ _ ⟨⟩
  fails := by
    rintro world _ _ start ⟨⟩
    exact holds world start

theorem Triple.call {error : ε} {change : FileTree β -> Option (FileTree β)}
    (refused : forall tree, condition tree -> broken tree)
    (changed : forall tree next, condition tree -> change tree = some next -> result next) :
    Triple (On condition committed) (Task.call error change) (fun _ => On result committed) (On broken committed) where
  returns := by
    intro world value later start done
    rw [Task.call] at done
    split at done
    · cases done
    · split at done
      · next next isNext =>
          cases done
          exact ⟨changed _ next start.1 isNext, start.2⟩
      · cases done
  fails := by
    intro world reason later start done
    rw [Task.call] at done
    split at done
    · cases done
      exact ⟨refused _ start.1, start.2⟩
    · split at done
      · cases done
      · cases done
        exact ⟨refused _ start.1, start.2⟩

theorem Triple.look {error : ε} {question : FileTree β -> Option α}
    (refused : forall tree, condition tree -> broken tree) :
    Triple (On condition committed) (Task.look error question)
      (fun answer => On (fun tree => condition tree ∧ question tree = some answer) committed) (On broken committed) where
  returns := by
    intro world value later start done
    rw [Task.look] at done
    split at done
    · cases done
    · split at done
      · next answer isAnswer =>
          cases done
          exact ⟨⟨start.1, isAnswer⟩, start.2⟩
      · cases done
  fails := by
    intro world reason later start done
    rw [Task.look] at done
    split at done
    · cases done
      exact ⟨refused _ start.1, start.2⟩
    · split at done
      · cases done
      · cases done
        exact ⟨refused _ start.1, start.2⟩

theorem Triple.update {change : FileTree β -> FileTree β} (changed : forall tree, condition tree -> result (change tree)) :
    Triple (On condition committed) (update change : Task β ε Unit) (fun _ => On result committed) failed where
  returns := by
    rintro world _ _ start ⟨⟩
    exact ⟨changed _ start.1, start.2⟩
  fails := by
    rintro _ _ _ _ ⟨⟩

/-- Committed work keeps its result, and after a failure the clean-up has run. -/
theorem Triple.guarded {cleanUp : FileTree β -> FileTree β} {body : Task β ε γ} {done : γ -> FileTree β -> Prop}
    {cleaned : FileTree β -> Prop} (scope : Triple before body (fun value => On (done value) true) (On broken false))
    (cleans : forall tree, broken tree -> cleaned (cleanUp tree)) :
    Triple before (guarded cleanUp body) (fun value => On (done value) true) (On cleaned false) where
  returns := by
    intro world value later start ended
    rw [Task.guarded] at ended
    split at ended
    · next found reached stepped =>
        cases ended
        have holds := scope.returns _ _ _ start stepped
        rw [if_pos holds.2]
        exact holds
    · cases ended
  fails := by
    intro world error later start ended
    rw [Task.guarded] at ended
    split at ended
    · cases ended
    · next reason reached stepped =>
        cases ended
        have holds := scope.fails _ _ _ start stepped
        rw [if_neg (by rw [holds.2]; exact Bool.false_ne_true)]
        exact ⟨cleans _ holds.1, holds.2⟩

theorem Triple.begun : Triple (On condition committed) (begun : Task β ε Unit) (fun _ => On condition false) failed where
  returns := by
    rintro world _ _ start ⟨⟩
    exact ⟨start.1, rfl⟩
  fails := by
    rintro _ _ _ _ ⟨⟩

theorem Triple.commit : Triple (On condition false) (commit : Task β ε Unit) (fun _ => On condition true) failed where
  returns := by
    rintro world _ _ start ⟨⟩
    exact ⟨start.1, rfl⟩
  fails := by
    rintro _ _ _ _ ⟨⟩

end Task

end Files
end Foundation
