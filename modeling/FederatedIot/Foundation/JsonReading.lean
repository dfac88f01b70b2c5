import FederatedIot.Foundation.JsonText

namespace Foundation
namespace JsonText

/-!
# Printed documents are read back

A property of documents that arrays and objects inherit from what they hold is
a property of all of them.  By this rule every printed document is read back,
whatever follows it, and consists of visible characters.
-/

/-! ## Documents are read back -/

theorem stops_cons {char : Char} {rest : List Char} (other : isNumeralChar char = false) :
    Stops (char :: rest) := by
  intro first isFirst
  rw [List.head?_cons, Option.mem_some] at isFirst
  rw [← isFirst]
  exact other

theorem skipSpace_cons {char : Char} {rest : List Char} (visible : isSpace char = false) :
    skipSpace (char :: rest) = char :: rest :=
  List.dropWhile_cons_of_neg (by rw [visible]; decide)

/-- The characters that a printed document does not begin with. -/
structure Opens (char : Char) : Prop where
  visible : isSpace char = false
  notBracket : char ≠ ']'
  notBrace : char ≠ '\x7d'

theorem opens_of_numeral {char : Char} (numeral : isNumeralChar char = true) : Opens char where
  visible := by
    unfold isSpace
    simp only [Bool.or_eq_false_iff, decide_eq_false_iff_not]
    refine ⟨⟨⟨?_, ?_⟩, ?_⟩, ?_⟩ <;>
    · intro same
      rw [same] at numeral
      cases numeral
  notBracket := by
    intro same
    rw [same] at numeral
    cases numeral
  notBrace := by
    intro same
    rw [same] at numeral
    cases numeral

theorem print_opens (document : Document Numeral) :
    ∃ char rest, print document = char :: rest ∧ Opens char := by
  cases document with
  | null => exact ⟨_, _, rfl, by decide, by decide, by decide⟩
  | bool value => cases value <;> exact ⟨_, _, rfl, by decide, by decide, by decide⟩
  | number value =>
      rcases List.exists_cons_of_ne_nil value.text_ne_nil with ⟨first, others, begins⟩
      refine ⟨first, others, begins, opens_of_numeral ?_⟩
      exact value.isNumeralChar first (by rw [begins]; exact List.mem_cons_self)
  | string value => exact ⟨'"', _, rfl, by decide, by decide, by decide⟩
  | array items => exact ⟨'[', _, rfl, by decide, by decide, by decide⟩
  | object members => exact ⟨'\x7b', _, rfl, by decide, by decide, by decide⟩

/-- A text that begins like a number or a word is read as one. -/
theorem readValue_atom {fuel : Nat} {char : Char} {rest : List Char} (visible : isSpace char = false)
    (notQuote : char ≠ '"') (notBracket : char ≠ '[') (notBrace : char ≠ '\x7b') :
    readValue (fuel + 1) (char :: rest) = readAtom (char :: rest) := by
  unfold readValue
  rw [skipSpace_cons visible]
  split
  · rename_i same
    exact absurd (List.cons.inj same).1 notQuote
  · rename_i same
    exact absurd (List.cons.inj same).1 notBracket
  · rename_i same
    exact absurd (List.cons.inj same).1 notBrace
  · rfl

theorem readValue_string {fuel : Nat} (value rest : List Char) :
    readValue (fuel + 1) (printString value ++ rest) = some (.string value, rest) := by
  have read := readString_encodeText value rest
  unfold printString
  rw [List.cons_append, List.append_assoc]
  change (readString (Json.encodeText value ++ '"' :: rest)).map _ = _
  rw [read, Option.map_some]

theorem printItems_opens (first : Document Numeral) (items : List (Document Numeral)) (rest : List Char) :
    ∃ char others, printItems (first :: items) ++ rest = char :: others ∧ Opens char := by
  rcases print_opens first with ⟨char, others, begins, opens⟩
  cases items with
  | nil =>
      refine ⟨char, others ++ rest, ?_, opens⟩
      change print first ++ rest = _
      rw [begins, List.cons_append]
  | cons next more =>
      refine ⟨char, others ++ (',' :: printItems (next :: more)) ++ rest, ?_, opens⟩
      change (print first ++ ',' :: printItems (next :: more)) ++ rest = _
      rw [begins, List.cons_append, List.cons_append]

theorem readValue_array {fuel : Nat} {text : List Char} {char : Char} {others : List Char}
    (begins : text = char :: others) (opens : Opens char) :
    readValue (fuel + 1) ('[' :: text) =
      (readItems fuel text).map fun read => (.array read.1, read.2) := by
  unfold readValue
  rw [skipSpace_cons (by decide)]
  simp only [begins, skipSpace_cons opens.visible]
  split
  · rename_i same
    exact absurd (List.cons.inj same).1 opens.notBracket
  · rfl

theorem readValue_object {fuel : Nat} {text : List Char} {char : Char} {others : List Char}
    (begins : text = char :: others) (opens : Opens char) :
    readValue (fuel + 1) ('\x7b' :: text) =
      (readMembers fuel text).map fun read => (.object read.1, read.2) := by
  unfold readValue
  rw [skipSpace_cons (by decide)]
  simp only [begins, skipSpace_cons opens.visible]
  split
  · rename_i same
    exact absurd (List.cons.inj same).1 opens.notBrace
  · rfl

/-- Reading the text of the document gives the document and what follows it. -/
def ReadsBack (document : Document Numeral) : Prop :=
  forall {fuel : Nat} {rest : List Char}, 2 * (print document).length ≤ fuel -> Stops rest ->
    readValue fuel (print document ++ rest) = some (document, rest)

theorem readsBack_atom {document : Document Numeral} (atom : forall {rest : List Char}, Stops rest ->
      readAtom (print document ++ rest) = some (document, rest))
    {char : Char} {others : List Char} (begins : print document = char :: others)
    (opens : isSpace char = false ∧ char ≠ '"' ∧ char ≠ '[' ∧ char ≠ '\x7b') : ReadsBack document := by
  intro fuel rest enough stops
  rw [begins, List.length_cons] at enough
  cases fuel with
  | zero => omega
  | succ fuel =>
      have read := atom stops
      rw [begins, List.cons_append] at read ⊢
      rw [readValue_atom opens.1 opens.2.1 opens.2.2.1 opens.2.2.2, read]

theorem readsBack_number (value : Numeral) : ReadsBack (.number value) := by
  rcases List.exists_cons_of_ne_nil value.text_ne_nil with ⟨first, others, begins⟩
  have numeral := value.isNumeralChar first (by rw [begins]; exact List.mem_cons_self)
  refine @readsBack_atom (.number value) (fun stops => readAtom_number value stops) first others begins
    ⟨(opens_of_numeral numeral).visible, ?_, ?_, ?_⟩ <;>
  · intro same
    rw [same] at numeral
    cases numeral

theorem readsBack_string (value : List Char) : ReadsBack (.string value) := by
  intro fuel rest enough _
  cases fuel with
  | zero =>
      change 2 * (Json.encodeText value ++ ['"']).length.succ ≤ 0 at enough
      omega
  | succ fuel => exact readValue_string value rest

/-- The items of a printed array are read one after the other. -/
theorem readItems_print {first : Document Numeral} {items : List (Document Numeral)}
    (readsBack : ∀ item ∈ first :: items, ReadsBack item) {fuel : Nat} (rest : List Char)
    (enough : 2 * (printItems (first :: items)).length + 1 ≤ fuel) :
    readItems fuel (printItems (first :: items) ++ ']' :: rest) = some (first :: items, rest) := by
  induction items generalizing first fuel with
  | nil =>
      change 2 * (print first).length + 1 ≤ fuel at enough
      change readItems fuel (print first ++ ']' :: rest) = _
      cases fuel with
      | zero => omega
      | succ fuel =>
          unfold readItems
          rw [readsBack first List.mem_cons_self (by omega) (stops_cons (by decide)), Option.bind_some,
            skipSpace_cons (by decide)]
          rfl
  | cons next more inductionHypothesis =>
      change 2 * (print first ++ ',' :: printItems (next :: more)).length + 1 ≤ fuel at enough
      change readItems fuel ((print first ++ ',' :: printItems (next :: more)) ++ ']' :: rest) = _
      rw [List.length_append, List.length_cons] at enough
      rw [List.append_assoc, List.cons_append]
      cases fuel with
      | zero => omega
      | succ fuel =>
          have later := @inductionHypothesis next
            (fun item member => readsBack item (List.mem_cons_of_mem first member)) fuel (by omega)
          unfold readItems
          rw [readsBack first List.mem_cons_self (by omega) (stops_cons (by decide)), Option.bind_some,
            skipSpace_cons (by decide)]
          simp only [later, Option.map_some]

theorem readsBack_array {items : List (Document Numeral)} (readsBack : ∀ item ∈ items, ReadsBack item) :
    ReadsBack (.array items) := by
  intro fuel rest enough stops
  change 2 * (printItems items ++ [']']).length.succ ≤ fuel at enough
  change readValue fuel ('[' :: ((printItems items ++ [']']) ++ rest)) = _
  rw [List.length_append, List.length_singleton] at enough
  rw [List.append_assoc]
  cases fuel with
  | zero => omega
  | succ fuel =>
      cases items with
      | nil => rfl
      | cons first items =>
          rcases printItems_opens first items (']' :: rest) with ⟨char, others, begins, opens⟩
          change readValue (fuel + 1) ('[' :: (printItems (first :: items) ++ ']' :: rest)) = _
          rw [readValue_array begins opens, readItems_print readsBack rest (by omega), Option.map_some]

theorem printMembers_opens (name : List Char) (value : Document Numeral)
    (members : List (List Char × Document Numeral)) (rest : List Char) :
    ∃ others, printMembers ((name, value) :: members) ++ rest = '"' :: others := by
  cases members with
  | nil => exact ⟨_, rfl⟩
  | cons next more => exact ⟨_, rfl⟩

/-- A member is read up to what follows its value. -/
theorem readMembers_member {name : List Char} {value : Document Numeral} (readsBack : ReadsBack value)
    {fuel : Nat} {char : Char} {rest : List Char} (enough : 2 * (print value).length ≤ fuel)
    (stops : isNumeralChar char = false) (visible : isSpace char = false) :
    readMembers (fuel + 1) (printString name ++ ':' :: (print value ++ char :: rest)) =
      if char = ',' then (readMembers fuel rest).map fun read => ((name, value) :: read.1, read.2)
      else if char = '\x7d' then some ([(name, value)], rest) else none := by
  have named : readString (Json.encodeText name ++ ['"'] ++ ':' :: (print value ++ char :: rest)) =
      some (name, ':' :: (print value ++ char :: rest)) := by
    rw [List.append_assoc]
    exact readString_encodeText name _
  unfold printString
  conv_lhs => unfold readMembers
  rw [List.cons_append, skipSpace_cons (by decide)]
  simp only [named, Option.bind_some]
  rw [skipSpace_cons (by decide)]
  simp only [readsBack enough (stops_cons stops), Option.bind_some]
  rw [skipSpace_cons visible]
  split
  · rename_i same
    cases same
    rfl
  · rename_i same
    cases same
    rfl
  · rename_i notComma notBrace
    rw [if_neg fun same => notComma rest (by rw [same]), if_neg fun same => notBrace rest (by rw [same])]

/-- The members of a printed object are read one after the other. -/
theorem readMembers_print {first : List Char × Document Numeral} {members : List (List Char × Document Numeral)}
    (readsBack : ∀ member ∈ first :: members, ReadsBack member.2) {fuel : Nat} (rest : List Char)
    (enough : 2 * (printMembers (first :: members)).length + 1 ≤ fuel) :
    readMembers fuel (printMembers (first :: members) ++ '\x7d' :: rest) =
      some (first :: members, rest) := by
  induction members generalizing first fuel with
  | nil =>
      change 2 * (printString first.1 ++ ':' :: print first.2).length + 1 ≤ fuel at enough
      change readMembers fuel ((printString first.1 ++ ':' :: print first.2) ++ '\x7d' :: rest) = _
      rw [List.length_append, List.length_cons] at enough
      rw [List.append_assoc, List.cons_append]
      cases fuel with
      | zero => omega
      | succ fuel =>
          rw [readMembers_member (readsBack first List.mem_cons_self) (by omega) (by decide) (by decide)]
          rfl
  | cons next more inductionHypothesis =>
      change 2 * (printString first.1 ++
        ':' :: (print first.2 ++ ',' :: printMembers (next :: more))).length + 1 ≤ fuel at enough
      change readMembers fuel ((printString first.1 ++
        ':' :: (print first.2 ++ ',' :: printMembers (next :: more))) ++ '\x7d' :: rest) = _
      rw [List.length_append, List.length_cons, List.length_append, List.length_cons] at enough
      rw [List.append_assoc, List.cons_append, List.append_assoc, List.cons_append]
      cases fuel with
      | zero => omega
      | succ fuel =>
          have later := @inductionHypothesis next
            (fun member inside => readsBack member (List.mem_cons_of_mem first inside)) fuel (by omega)
          rw [readMembers_member (readsBack first List.mem_cons_self) (by omega) (by decide) (by decide),
            if_pos rfl, later, Option.map_some]

theorem readsBack_object {members : List (List Char × Document Numeral)}
    (readsBack : ∀ member ∈ members, ReadsBack member.2) : ReadsBack (.object members) := by
  intro fuel rest enough stops
  change 2 * (printMembers members ++ ['\x7d']).length.succ ≤ fuel at enough
  change readValue fuel ('\x7b' :: ((printMembers members ++ ['\x7d']) ++ rest)) = _
  rw [List.length_append, List.length_singleton] at enough
  rw [List.append_assoc]
  cases fuel with
  | zero => omega
  | succ fuel =>
      cases members with
      | nil => rfl
      | cons first members =>
          rcases printMembers_opens first.1 first.2 members ('\x7d' :: rest) with ⟨others, begins⟩
          change readValue (fuel + 1)
            ('\x7b' :: (printMembers (first :: members) ++ '\x7d' :: rest)) = _
          rw [readValue_object begins ⟨by decide, by decide, by decide⟩,
            readMembers_print readsBack rest (by omega), Option.map_some]

/-! ## Induction over documents -/

/-- A property that the items of an array and the values of an object hand on
to the array and the object. -/
structure Hereditary {Number : Type*} (property : Document Number -> Prop) : Prop where
  null : property .null
  bool : forall value, property (.bool value)
  number : forall value, property (.number value)
  string : forall value, property (.string value)
  array : forall items, (∀ item ∈ items, property item) -> property (.array items)
  object : forall members, (∀ member ∈ members, property (Prod.snd member)) ->
    property (.object members)

namespace Hereditary

variable {Number : Type*} {property : Document Number -> Prop}

mutual

/-- A hereditary property holds of every document. -/
theorem all (hereditary : Hereditary property) : forall document, property document
  | .null => hereditary.null
  | .bool value => hereditary.bool value
  | .number value => hereditary.number value
  | .string value => hereditary.string value
  | .array items => hereditary.array items (hereditary.items items)
  | .object members => hereditary.object members (hereditary.members members)

theorem items (hereditary : Hereditary property) :
    forall items : List (Document Number), ∀ item ∈ items, property item
  | [], _, member => (by cases member)
  | first :: rest, item, member => by
      rcases List.mem_cons.mp member with same | later
      · rw [same]
        exact hereditary.all first
      · exact hereditary.items rest item later

theorem members (hereditary : Hereditary property) :
    forall members : List (List Char × Document Number), ∀ member ∈ members, property (Prod.snd member)
  | [], _, inside => (by cases inside)
  | (_, first) :: rest, member, inside => by
      rcases List.mem_cons.mp inside with same | later
      · rw [same]
        exact hereditary.all first
      · exact hereditary.members rest member later

end
end Hereditary

theorem hereditary_readsBack : Hereditary ReadsBack where
  null := @readsBack_atom .null (fun _ => rfl) 'n' _ rfl (by decide)
  bool value := by
    cases value with
    | true => exact @readsBack_atom (.bool true) (fun _ => rfl) 't' _ rfl (by decide)
    | false => exact @readsBack_atom (.bool false) (fun _ => rfl) 'f' _ rfl (by decide)
  number := readsBack_number
  string := readsBack_string
  array _ := readsBack_array
  object _ := readsBack_object

/-- Reading what was printed gives the document back. -/
theorem parse_print (document : Document Numeral) : parse (print document) = some document := by
  have stops : Stops [] := fun _ member => by cases member
  have read := hereditary_readsBack.all document (Nat.le_add_right _ 2) stops
  unfold parse
  rw [List.append_nil] at read
  rw [read]
  rfl

theorem print_injective {document other : Document Numeral} (same : print document = print other) :
    document = other := by
  have read := parse_print document
  rw [same, parse_print] at read
  exact (Option.some.inj read).symm

/-! ## The characters of a printed document -/

/-- A character that no line break or other control is. -/
def Printable (text : List Char) : Prop :=
  ∀ char ∈ text, 32 ≤ char.toNat

instance decidablePrintable (text : List Char) : Decidable (Printable text) :=
  @List.decidableBAll Char (fun char => 32 ≤ char.toNat) (fun char => Nat.decLe 32 char.toNat) text

theorem isDigit_bounds {char : Char} (digit : char.isDigit = true) :
    48 ≤ char.toNat ∧ char.toNat ≤ 57 :=
  Char.isDigit_iff_toNat.mp digit

theorem Printable.append {first second : List Char} (firstPrintable : Printable first)
    (secondPrintable : Printable second) : Printable (first ++ second) := by
  intro char member
  rcases List.mem_append.mp member with before | after
  · exact firstPrintable char before
  · exact secondPrintable char after

theorem Printable.cons {char : Char} {text : List Char} (visible : 32 ≤ char.toNat)
    (printable : Printable text) : Printable (char :: text) := by
  intro other member
  rcases List.mem_cons.mp member with same | later
  · rw [same]
    exact visible
  · exact printable other later

theorem printable_numeral (value : Numeral) : Printable value.text := by
  have numeral : forall {char : Char}, JsonText.isNumeralChar char = true -> 32 ≤ char.toNat := by
    intro char isNumeral
    unfold JsonText.isNumeralChar at isNumeral
    simp only [Bool.or_eq_true, decide_eq_true_eq] at isNumeral
    rcases isNumeral with ((((digit | same) | same) | same) | same) | same
    · have bounds := isDigit_bounds digit
      omega
    all_goals
      rw [same]
      decide
  exact fun char member => numeral (value.isNumeralChar char member)

theorem printable_hexDigit : ∀ value < 16, 32 ≤ (Json.hexDigit value).toNat := by
  decide

theorem printable_encodeChar (char : Char) : Printable (Json.encodeChar char) := by
  have digit : forall value : Nat, 32 ≤ (Json.hexDigit (value % 16)).toNat :=
    fun value => printable_hexDigit (value % 16) (Nat.mod_lt value (by omega))
  by_cases short : isShort char
  · rcases short with same | same | same | same | same | code | code
    · rw [same]
      decide
    · rw [same]
      decide
    · rw [same]
      decide
    · rw [same]
      decide
    · rw [same]
      decide
    · rw [show char = Char.ofNat 8 by rw [← code, Char.ofNat_toNat]]
      decide
    · rw [show char = Char.ofNat 12 by rw [← code, Char.ofNat_toNat]]
      decide
  · rw [encodeChar_long short]
    split
    · exact Printable.cons (by decide) (Printable.cons (by decide) (Printable.cons (digit _)
        (Printable.cons (digit _) (Printable.cons (digit _) (Printable.cons (digit _)
          fun _ member => by cases member)))))
    · rename_i plain
      intro other member
      rw [List.mem_singleton.mp member]
      by_contra control
      apply plain
      unfold Json.needsHexEscape
      rw [decide_eq_true (show char.toNat < 32 by omega)]
      rfl

theorem printable_string (value : List Char) : Printable (printString value) := by
  have body : Printable (Json.encodeText value) := by
    intro char member
    rcases List.mem_flatMap.mp member with ⟨original, _, inside⟩
    exact printable_encodeChar original char inside
  exact Printable.cons (by decide) (body.append (by decide))

theorem hereditary_printable : Hereditary fun document : Document Numeral => Printable (print document) where
  null := by
    change Printable ['n', 'u', 'l', 'l']
    decide
  bool value := by
    cases value
    · change Printable ['f', 'a', 'l', 's', 'e']
      decide
    · change Printable ['t', 'r', 'u', 'e']
      decide
  number value := printable_numeral value
  string value := printable_string value
  array items printable := by
    refine Printable.cons (by decide) (Printable.append ?_ (by decide))
    induction items with
    | nil => exact fun _ member => by cases member
    | cons item rest inductionHypothesis =>
        have later := inductionHypothesis fun other member => printable other (List.mem_cons_of_mem _ member)
        have first := printable item List.mem_cons_self
        cases rest with
        | nil => exact first
        | cons next more => exact first.append (Printable.cons (by decide) later)
  object members printable := by
    refine Printable.cons (by decide) (Printable.append ?_ (by decide))
    induction members with
    | nil => exact fun _ member => by cases member
    | cons member rest inductionHypothesis =>
        have later := inductionHypothesis fun other inside => printable other (List.mem_cons_of_mem _ inside)
        have first := printable member List.mem_cons_self
        have name := printable_string member.1
        cases rest with
        | nil => exact name.append (Printable.cons (by decide) first)
        | cons next more =>
            exact name.append (Printable.cons (by decide) (first.append (Printable.cons (by decide) later)))

/-- No printed document contains a control character. -/
theorem printable_print (document : Document Numeral) : Printable (print document) :=
  hereditary_printable.all document

/-- A printed document begins with a visible ASCII character. -/
theorem print_begins (document : Document Numeral) :
    ∃ char rest, print document = char :: rest ∧ 32 < char.toNat ∧ char.toNat < 128 := by
  cases document with
  | null => exact ⟨_, _, rfl, by decide, by decide⟩
  | bool value => cases value <;> exact ⟨_, _, rfl, by decide, by decide⟩
  | number value =>
      rcases List.exists_cons_of_ne_nil value.text_ne_nil with ⟨first, others, begins⟩
      have numeral := value.isNumeralChar first (by rw [begins]; exact List.mem_cons_self)
      refine ⟨first, others, begins, ?_⟩
      unfold JsonText.isNumeralChar at numeral
      simp only [Bool.or_eq_true, decide_eq_true_eq] at numeral
      rcases numeral with ((((digit | same) | same) | same) | same) | same
      · have bounds := isDigit_bounds digit
        omega
      all_goals
        rw [same]
        decide
  | string value => exact ⟨'"', _, rfl, by decide, by decide⟩
  | array items => exact ⟨'[', _, rfl, by decide, by decide⟩
  | object members => exact ⟨'\x7b', _, rfl, by decide, by decide⟩

end JsonText
end Foundation
