import FederatedIot.Foundation.Outcome
import FederatedIot.Foundation.Paths
import FederatedIot.Queue.Schema
import Mathlib.Algebra.GroupWithZero.Nat

namespace FederatedIot
namespace Worker

open Foundation Foundation.Outcome Foundation.Paths

/-!
# Safe relative paths

Three validators guard the paths that the backend and the worker exchange: two of
the worker, for task envelopes and for artifact names, and one of the backend.
The worker looks for dots among the parts of a `PurePosixPath`, which has dropped
them, so a dot between slashes passes the worker and not the backend.
-/

/-! ## The validators -/

/-- `ContractFailure` -/
structure ContractFailure where
  message : String
  deriving DecidableEq

/-- `PurePosixPath` -/
structure PurePosixPath where
  root : List Char
  tail : List (List Char)
  deriving DecidableEq

namespace PurePosixPath

/-- The root of a text: two leading slashes are kept, three or more are one. -/
def rootOf : List Char -> List Char
  | '/' :: '/' :: '/' :: _ => ['/']
  | '/' :: '/' :: _ => ['/', '/']
  | '/' :: _ => ['/']
  | _ => []

def parse (text : List Char) : PurePosixPath where
  root := rootOf text
  tail := entered text

def isAbsolute (path : PurePosixPath) : Bool :=
  path.root != []

def parts (path : PurePosixPath) : List (List Char) :=
  if path.root = [] then path.tail else path.root :: path.tail

def asPosix (path : PurePosixPath) : List Char :=
  let text := path.root ++ ['/'].intercalate path.tail
  if text = [] then ['.'] else text

end PurePosixPath

/-- The pattern of the validators: a letter or a digit, then letters, digits, dots,
underscores, slashes and hyphens. -/
def matchesPathPattern : List Char -> Bool
  | [] => false
  | first :: rest =>
      Queue.isAsciiAlphanumeric first &&
        rest.all fun char => Queue.isAsciiAlphanumeric char || char ∈ ['.', '_', '/', '-']

/-- The last check of both validators of the worker. -/
def hasSafeParts (value : List Char) : Prop :=
  (PurePosixPath.parse value).isAbsolute = false ∧
    (∀ part ∈ (PurePosixPath.parse value).parts, part ≠ ['.'] ∧ part ≠ ['.', '.']) ∧
    matchesPathPattern value = true

instance hasSafePartsDecidable (value : List Char) : Decidable (hasSafeParts value) :=
  inferInstanceAs (Decidable (_ ∧ _ ∧ _))

/-- `_safe_relative_path`, of a text -/
def safeRelativePath (value : List Char) (field : String) : Except ContractFailure (List Char) := do
  require (value ≠ [] ∧ value.length ≤ 512) ⟨field ++ " must be a non-empty relative path."⟩
  require ('\\' ∉ value ∧ ¬['/', '/'] <:+: value ∧ value.getLast? ≠ some '/')
    ⟨field ++ " is not a normalized relative path."⟩
  require (hasSafeParts value) ⟨field ++ " is not a safe relative path."⟩
  return (PurePosixPath.parse value).asPosix

/-- `_safe_logical_path`, of a text -/
def safeLogicalPath (value : List Char) (field : String) : Except ContractFailure (List Char) := do
  require (value ≠ [] ∧ value.length ≤ 512 ∧ '\\' ∉ value ∧ ¬['/', '/'] <:+: value ∧ value.getLast? ≠ some '/')
    ⟨field ++ " is not a normalized safe relative path."⟩
  require (hasSafeParts value) ⟨field ++ " is not a safe relative path."⟩
  return (PurePosixPath.parse value).asPosix

/-- The bytes of a text. -/
def utf8Length (value : List Char) : Nat :=
  (value.map Char.utf8Size).sum

/-- `safeWorkerRelativePath` -/
def safeWorkerRelativePath (value : List Char) : Bool :=
  if value = [] || 512 < utf8Length value || value.head? = some '/' || '\\' ∈ value ||
      ['/', '/'] <:+: value || value.getLast? = some '/' then false
  else if !matchesPathPattern value then false
  else (components value).all fun part => !(part = ['.'] || part = ['.', '.'])

/-! ## What each of them accepts -/

/-- The checks that the three share. -/
structure Admissible (value : List Char) : Prop where
  short : value.length ≤ 512
  single : ¬['/', '/'] <:+: value
  closed : value.getLast? ≠ some '/'
  pattern : matchesPathPattern value = true
  forward : ∀ part ∈ components value, Forward part

/-- A text that the other checks let pass, with a dot between its slashes. -/
def Dotted (value : List Char) : Prop :=
  Admissible value ∧ ['.'] ∈ components value

variable {value other : List Char}

/-- A character that the pattern admits takes one byte and is no backslash. -/
theorem pattern_char {char : Char} (admitted : Queue.isAsciiAlphanumeric char = true ∨
    char ∈ ['.', '_', '/', '-']) : char.utf8Size = 1 ∧ char ≠ '\\' := by
  have small : char.toNat ≤ 127 ∧ char.toNat ≠ 92 := by
    rcases admitted with letter | mark
    · simp only [Queue.isAsciiAlphanumeric, Bool.or_eq_true, Bool.and_eq_true, decide_eq_true_eq, Char.le_def,
        UInt32.le_iff_toNat_le] at letter
      change (65 ≤ char.toNat ∧ char.toNat ≤ 90 ∨ 97 ≤ char.toNat ∧ char.toNat ≤ 122) ∨
        48 ≤ char.toNat ∧ char.toNat ≤ 57 at letter
      omega
    · simp only [List.mem_cons, List.not_mem_nil, or_false] at mark
      rcases mark with rfl | rfl | rfl | rfl <;> decide
  refine ⟨Char.utf8Size_eq_one_iff.mpr ?_, ?_⟩
  · exact UInt32.le_iff_toNat_le.mpr small.1
  · rintro rfl
    exact small.2 rfl

theorem pattern_mem (pattern : matchesPathPattern value = true) {char : Char} (member : char ∈ value) :
    char.utf8Size = 1 ∧ char ≠ '\\' := by
  cases value with
  | nil => cases member
  | cons first rest =>
      rw [matchesPathPattern, Bool.and_eq_true, List.all_eq_true] at pattern
      apply pattern_char
      rcases List.mem_cons.mp member with rfl | later
      · exact Or.inl pattern.1
      · have admitted := pattern.2 char later
        rw [Bool.or_eq_true, decide_eq_true_eq] at admitted
        exact admitted

theorem pattern_ne_nil (pattern : matchesPathPattern value = true) : value ≠ [] := by
  rintro rfl
  cases pattern

theorem pattern_relative (pattern : matchesPathPattern value = true) : value.head? ≠ some '/' := by
  cases value with
  | nil => cases pattern
  | cons first rest =>
      intro starts
      cases starts
      cases pattern

theorem utf8Length_eq (pattern : matchesPathPattern value = true) : utf8Length value = value.length := by
  have sizes : value.map Char.utf8Size = value.map fun _ => 1 :=
    List.map_congr_left fun char member => (pattern_mem pattern member).1
  rw [utf8Length, sizes, List.map_const', List.sum_replicate_nat, Nat.mul_one]

theorem Admissible.components_ne_nil (admissible : Admissible value) : ∀ part ∈ components value, part ≠ [] :=
  Paths.components_ne_nil (pattern_ne_nil admissible.pattern) (pattern_relative admissible.pattern)
    admissible.single admissible.closed

/-- What the backend accepts. -/
theorem safeWorkerRelativePath_iff :
    safeWorkerRelativePath value = true ↔ Admissible value ∧ ['.'] ∉ components value := by
  simp only [safeWorkerRelativePath, Bool.if_false_left, Bool.and_eq_true, Bool.not_eq_true', Bool.or_eq_false_iff,
    decide_eq_false_iff_not, List.all_eq_true, Bool.not_eq_true, Bool.not_eq_false, Nat.not_lt]
  constructor
  · rintro ⟨⟨⟨⟨⟨⟨_, short⟩, _⟩, _⟩, single⟩, closed⟩, pattern, plain⟩
    rw [utf8Length_eq pattern] at short
    refine ⟨⟨short, single, closed, pattern, fun part member => (plain part member).2⟩, ?_⟩
    intro member
    exact (plain _ member).1 rfl
  · rintro ⟨admissible, undotted⟩
    have nonempty := pattern_ne_nil admissible.pattern
    have relative := pattern_relative admissible.pattern
    have noBackslash : '\\' ∉ value := fun member => (pattern_mem admissible.pattern member).2 rfl
    refine ⟨⟨⟨⟨⟨⟨nonempty, ?_⟩, relative⟩, noBackslash⟩, admissible.single⟩, admissible.closed⟩,
      admissible.pattern, ?_⟩
    · rw [utf8Length_eq admissible.pattern]
      exact admissible.short
    · intro part member
      refine ⟨?_, admissible.forward part member⟩
      rintro rfl
      exact undotted member

/-- A text of the pattern has no root, and its parts are what it enters. -/
theorem parse_parts (pattern : matchesPathPattern value = true) :
    (PurePosixPath.parse value).root = [] ∧ (PurePosixPath.parse value).parts = entered value := by
  have noRoot : (PurePosixPath.parse value).root = [] := by
    have relative := pattern_relative pattern
    change PurePosixPath.rootOf value = []
    unfold PurePosixPath.rootOf
    split
    · exact absurd rfl relative
    · exact absurd rfl relative
    · exact absurd rfl relative
    · rfl
  refine ⟨noRoot, ?_⟩
  rw [PurePosixPath.parts, if_pos noRoot]
  rfl

/-- The parts of a `PurePosixPath` show the steps back and none of the dots. -/
theorem hasSafeParts_iff :
    hasSafeParts value ↔ matchesPathPattern value = true ∧ ∀ part ∈ components value, Forward part := by
  constructor
  · rintro ⟨_, plain, pattern⟩
    refine ⟨pattern, ?_⟩
    rintro part member rfl
    rw [(parse_parts pattern).2] at plain
    exact (plain ['.', '.'] (List.mem_filter.mpr ⟨member, rfl⟩)).2 rfl
  · rintro ⟨pattern, forward⟩
    refine ⟨?_, ?_, pattern⟩
    · rw [PurePosixPath.isAbsolute, (parse_parts pattern).1]
      rfl
    · rw [(parse_parts pattern).2]
      intro part member
      rcases List.mem_filter.mp member with ⟨isComponent, shown⟩
      rw [Bool.and_eq_true, decide_eq_true_eq, decide_eq_true_eq] at shown
      exact ⟨shown.2, forward part isComponent⟩

theorem safeRelativePath_ok_iff {field : String} {result : List Char} :
    safeRelativePath value field = .ok result ↔
      Admissible value ∧ result = (PurePosixPath.parse value).asPosix := by
  simp only [safeRelativePath, bind_ok_iff, require_ok_iff, exists_const, pure_ok_iff, hasSafeParts_iff]
  constructor
  · rintro ⟨⟨_, short⟩, ⟨_, single, closed⟩, ⟨pattern, forward⟩, same⟩
    exact ⟨⟨short, single, closed, pattern, forward⟩, same.symm⟩
  · rintro ⟨admissible, same⟩
    have noBackslash : '\\' ∉ value := fun member => (pattern_mem admissible.pattern member).2 rfl
    exact ⟨⟨pattern_ne_nil admissible.pattern, admissible.short⟩, ⟨noBackslash, admissible.single, admissible.closed⟩,
      ⟨admissible.pattern, admissible.forward⟩, same.symm⟩

theorem safeLogicalPath_ok_iff {field : String} {result : List Char} :
    safeLogicalPath value field = .ok result ↔
      Admissible value ∧ result = (PurePosixPath.parse value).asPosix := by
  simp only [safeLogicalPath, bind_ok_iff, require_ok_iff, exists_const, pure_ok_iff, hasSafeParts_iff]
  constructor
  · rintro ⟨⟨_, short, _, single, closed⟩, ⟨pattern, forward⟩, same⟩
    exact ⟨⟨short, single, closed, pattern, forward⟩, same.symm⟩
  · rintro ⟨admissible, same⟩
    have noBackslash : '\\' ∉ value := fun member => (pattern_mem admissible.pattern member).2 rfl
    exact ⟨⟨pattern_ne_nil admissible.pattern, admissible.short, noBackslash, admissible.single, admissible.closed⟩,
      ⟨admissible.pattern, admissible.forward⟩, same.symm⟩

/-! ## The language of the three -/

/-- A text is accepted by the three or by none, and the worker returns it as it is. -/
def Agrees (value : List Char) : Prop :=
  forall field,
    ((∃ result, safeRelativePath value field = .ok result) ↔ safeWorkerRelativePath value = true) ∧
    ((∃ result, safeLogicalPath value field = .ok result) ↔ safeWorkerRelativePath value = true) ∧
    forall result, safeRelativePath value field = .ok result ∨ safeLogicalPath value field = .ok result ->
      result = value

/-- One of the three accepts the text. -/
def Accepted (value : List Char) : Prop :=
  safeWorkerRelativePath value = true ∨
    ∃ field result, safeRelativePath value field = .ok result ∨ safeLogicalPath value field = .ok result

/-- The three agree on two texts, and the files of the two under a root are two
files below it. -/
structure SafePair (first second : List Char) : Prop where
  agrees : Agrees first ∧ Agrees second
  inside : forall root, (Accepted first -> root <+: resolve root first) ∧
    (Accepted second -> root <+: resolve root second)
  apart : Accepted first -> Accepted second -> first ≠ second -> forall root,
    resolve root first ≠ resolve root second

theorem Accepted.admissible (accepted : Accepted value) : Admissible value := by
  rcases accepted with backend | ⟨field, result, relative | logical⟩
  · exact (safeWorkerRelativePath_iff.mp backend).1
  · exact (safeRelativePath_ok_iff.mp relative).1
  · exact (safeLogicalPath_ok_iff.mp logical).1

/-- Without a dot between its slashes a text is made of plain components. -/
theorem Admissible.plain (admissible : Admissible value) (undotted : ¬Dotted value) :
    ∀ part ∈ components value, Plain part := by
  intro part member
  refine ⟨admissible.components_ne_nil part member, ?_, admissible.forward part member⟩
  rintro rfl
  exact undotted ⟨admissible, member⟩

theorem asPosix_eq (admissible : Admissible value) (undotted : ¬Dotted value) :
    (PurePosixPath.parse value).asPosix = value := by
  have tail : (PurePosixPath.parse value).tail = components value :=
    entered_of_plain (admissible.plain undotted)
  rw [PurePosixPath.asPosix, (parse_parts admissible.pattern).1, tail, List.nil_append, intercalate_components]
  exact if_neg (pattern_ne_nil admissible.pattern)

/-- The worker and the backend agree on a text exactly when it has no dot between
its slashes, or another check refuses it. -/
theorem agrees_iff : Agrees value ↔ ¬Dotted value := by
  constructor
  · rintro agrees ⟨admissible, dot⟩
    have accepted := (agrees "").1.mp ⟨_, safeRelativePath_ok_iff.mpr ⟨admissible, rfl⟩⟩
    exact (safeWorkerRelativePath_iff.mp accepted).2 dot
  · intro undotted field
    have backend : safeWorkerRelativePath value = true ↔ Admissible value := by
      rw [safeWorkerRelativePath_iff]
      exact ⟨And.left, fun admissible => ⟨admissible, fun dot => undotted ⟨admissible, dot⟩⟩⟩
    simp only [safeRelativePath_ok_iff, safeLogicalPath_ok_iff, backend, exists_and_left, exists_eq, and_true,
      true_and, or_self]
    rintro result ⟨admissible, rfl⟩
    exact asPosix_eq admissible undotted

theorem Admissible.resolve (admissible : Admissible value) (root : List (List Char)) :
    Paths.resolve root value = root ++ entered value :=
  resolve_forward (pattern_relative admissible.pattern) admissible.forward

/-- The validators agree on texts without a dot between the slashes, and such texts
name different files below the root. -/
theorem safe_pair_iff (first second : List Char) :
    SafePair first second ↔ ¬Dotted first ∧ ¬Dotted second := by
  constructor
  · rintro ⟨⟨firstAgrees, secondAgrees⟩, _, _⟩
    exact ⟨agrees_iff.mp firstAgrees, agrees_iff.mp secondAgrees⟩
  · rintro ⟨firstUndotted, secondUndotted⟩
    refine ⟨⟨agrees_iff.mpr firstUndotted, agrees_iff.mpr secondUndotted⟩, ?_, ?_⟩
    · intro root
      constructor
      · intro accepted
        rw [accepted.admissible.resolve]
        exact List.prefix_append root _
      · intro accepted
        rw [accepted.admissible.resolve]
        exact List.prefix_append root _
    · intro firstAccepted secondAccepted different root same
      have firstAdmissible := firstAccepted.admissible
      have secondAdmissible := secondAccepted.admissible
      exact different (resolve_plain_injective (pattern_relative firstAdmissible.pattern)
        (pattern_relative secondAdmissible.pattern) (firstAdmissible.plain firstUndotted)
        (secondAdmissible.plain secondUndotted) same)

/-- A dot between two slashes passes the worker, which then gives the file another
name, and not the backend. -/
theorem dot_between_slashes :
    ¬SafePair "a/./b".toList "a/b".toList ∧
      safeRelativePath "a/./b".toList "path" = .ok "a/b".toList ∧
      safeLogicalPath "a/./b".toList "path" = .ok "a/b".toList ∧
      safeWorkerRelativePath "a/./b".toList = false ∧ safeWorkerRelativePath "a/b".toList = true ∧
      forall root, resolve root "a/./b".toList = resolve root "a/b".toList := by
  have dotted : Dotted "a/./b".toList :=
    ⟨⟨by decide, by decide, by decide, by decide, by decide⟩, by decide⟩
  refine ⟨?_, by decide, by decide, by decide, by decide, fun root => rfl⟩
  intro pair
  exact agrees_iff.mp pair.agrees.1 dotted

end Worker
end FederatedIot
