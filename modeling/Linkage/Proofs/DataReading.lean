import Linkage.Yaml.Reading
import Linkage.Yaml.Value.Reader
import Linkage.Proofs.TypedReading

/-! Typed reading of data, in place of the nodes of a document. A document whose scalars are written as the texts of
their data is read as that data is. -/

namespace Linkage.Yaml

namespace Scalar
variable {text : String} {scalar : Scalar}

/-- The texts that stand for nothing stand for neither a truth value nor a number. -/
theorem ofPlain?_of_isNullWord (blank : text.isEmpty || isNullWord text) :
    boolean? text = none ∧ naturalValue? text.toList = none := by
  have texts : text = "" ∨ text = "null" ∨ text = "Null" ∨ text = "NULL" ∨ text = "~" := by
    simpa [isNullWord, or_assoc] using blank
  rcases texts with rfl | rfl | rfl | rfl | rfl <;> decide +kernel

theorem naturalValue?_of_boolean? {flag : Bool} (read : boolean? text = some flag) : naturalValue? text.toList = none := by
  have texts : text = "true" ∨ text = "True" ∨ text = "TRUE" ∨ text = "false" ∨ text = "False" ∨ text = "FALSE" := by
    unfold boolean? at read
    grind
  rcases texts with rfl | rfl | rfl | rfl | rfl | rfl <;> decide +kernel

def truth? : Scalar → Option Bool
  | boolean flag => some flag
  | _ => none

def natural? : Scalar → Option UInt64
  | number (.natural value) => Text.wordOf? value
  | _ => none

/-- What a plain scalar stands for tells how it answers each question. -/
structure Answered (text : String) (scalar : Scalar) : Prop where
  null_iff : (text.isEmpty || isNullWord text) ↔ scalar = .null
  truth : boolean? text = scalar.truth?
  natural : (naturalValue? text.toList).bind Text.wordOf? = scalar.natural?

variable {chars : List Char} {value : Nat} {magnitude : Nat}

theorem natural_of_whole?_eq_none (nowhere : whole? chars = none) :
    (naturalValue? chars).bind Text.wordOf? = none := by
  unfold whole? at nowhere
  split at nowhere
  next value found =>
    have beyond : ¬ value < Text.wordLimit := by
      intro fits
      simp [fits] at nowhere
    rw [found, Option.bind_some, Text.wordOf?, if_neg beyond]
  next absent => rw [absent, Option.bind_none]

theorem naturalValue?_of_whole? (found : whole? chars = some (some (.natural value))) :
    naturalValue? chars = some value ∨ value = 0 := by
  unfold whole? at found
  split at found
  next other given =>
    split at found
    · obtain rfl : other = value := by simpa using found
      exact .inl given
    · split at found <;> simp at found
  next =>
    split at found
    · exact .inr (by simpa using found.symm)
    · split at found
      · simp at found
      · split at found <;> simp at found
    · simp at found

theorem naturalValue?_of_whole?_negative (found : whole? chars = some (some (.negative magnitude))) :
    naturalValue? chars = none := by
  unfold whole? at found
  split at found
  next other given =>
    split at found
    · simp at found
    · split at found <;> simp at found
  next absent => exact absent

theorem whole?_ne_decimal (decimal : Binary64) : whole? chars ≠ some (some (.decimal decimal)) := by
  unfold whole?
  grind

/-- A number is only read as natural from the text of that number: a negated zero is natural too, in other digits. -/
theorem answered (reads : ofPlain? text = some scalar)
    (own : ∀ value, scalar = .number (.natural value) → toString value = text) : Answered text scalar := by
  unfold ofPlain? at reads
  split at reads
  next blank =>
    obtain rfl := Option.some.inj reads
    obtain ⟨boolean, natural⟩ := ofPlain?_of_isNullWord blank
    exact ⟨iff_of_true blank rfl, boolean, by rw [natural]; rfl⟩
  next full =>
    split at reads
    next flag truth =>
      obtain rfl := Option.some.inj reads
      exact ⟨iff_of_false full (by simp), truth, by rw [naturalValue?_of_boolean? truth]; rfl⟩
    next untrue =>
      dsimp only at reads
      split at reads
      next whole found =>
        cases whole with
        | none => cases reads
        | some number =>
          obtain rfl := Option.some.inj reads
          refine ⟨iff_of_false full (by simp), untrue, ?_⟩
          cases number with
          | natural value =>
            rcases naturalValue?_of_whole? found with given | rfl
            · rw [given]
              rfl
            · obtain rfl := own 0 rfl
              decide +kernel
          | negative magnitude =>
            rw [naturalValue?_of_whole?_negative found]
            rfl
          | decimal value => exact absurd found (whole?_ne_decimal value)
      next nowhere =>
        have natural := natural_of_whole?_eq_none nowhere
        split at reads
        · obtain rfl := Option.some.inj reads
          exact ⟨iff_of_false full (by simp), untrue, natural⟩
        · split at reads
          · obtain rfl := Option.some.inj reads
            exact ⟨iff_of_false full (by simp), untrue, natural⟩
          · obtain rfl := Option.some.inj reads
            exact ⟨iff_of_false full (by simp), untrue, natural⟩

end Scalar

namespace Value

/-- The value apart from its tag. -/
def untagged : Value → Value
  | tagged _ value => value
  | value => value

/-- The text of a scalar. -/
def text? (value : Value) : Option String :=
  match value.untagged with
  | null => some "null"
  | boolean flag => some (if flag then "true" else "false")
  | number found => some found.text
  | string text => some text
  | _ => none

def truth? (value : Value) : Option Bool :=
  match value.untagged with
  | boolean flag => some flag
  | _ => none

def natural? (value : Value) : Option UInt64 :=
  match value.untagged with
  | number (.natural value) => Text.wordOf? value
  | _ => none

/-- A word is the text of a scalar, or the tag of a null. -/
def word? : Value → Option String
  | tagged tag null => some tag
  | tagged _ _ => none
  | value => value.text?

def items? (value : Value) : Option (List Value) :=
  match value.untagged with
  | list items => some items
  | _ => none

/-- The entries of a mapping whose keys are all scalars. -/
def textEntries? (value : Value) : Option (List (String × Value)) :=
  match value.untagged with
  | mapping entries => entries.mapM fun (key, value) => do return (← key.text?, value)
  | _ => none

/-- Typed reading of data. Nothing is left out but an explicit null. -/
def reading : Reading Option Value where
  refuse := none
  text := text?
  boolean := truth?
  natural := natural?
  word := word?
  present?
    | null => some none
    | value => some (some value)
  items := items?
  entries := textEntries?
  fields names value := do
    let fields := (← value.textEntries?).filter fun entry => names.contains entry.1
    if (fields.map (·.1)).Nodup then return fields else none

/-- The value with a tag of the document's own, if there is one. -/
def under (tag : Option String) (value : Value) : Value :=
  tag.elim value fun tag => tagged tag value

end Value

/-- How a node has a tag of the document's own. -/
def ownTag (tag : Option String) : Option String :=
  tag.map ("!" ++ ·)

/-- The node is written as its data would be: a plain scalar is the text of what it stands for, or of a decimal number
that is taken as that text. -/
inductive Spells : Node → Value → Prop where
  | plain (tag : Option String) {text : String} {value : Value} (reads : Value.ofPlain text = some value)
    (own : value.text? = some text) : Spells (.scalar (ownTag tag) .plain text) (value.under tag)
  | decimal {text : String} {decimal : Binary64} (reads : Value.ofPlain text = some (.number (.decimal decimal))) :
    Spells (.scalar none .plain text) (.string text)
  | quoted (tag : Option String) {style : ScalarStyle} {text : String} (marked : style ≠ .plain) :
    Spells (.scalar (ownTag tag) style text) ((Value.string text).under tag)
  | sequence (tag : Option String) {nodes : List Node} {items : List Value} (each : List.Forall₂ Spells nodes items) :
    Spells (.sequence (ownTag tag) nodes) ((Value.list items).under tag)
  | mapping (tag : Option String) {nodes : List (Node × Node)} {entries : List (Value × Value)}
    (keys : List.Forall₂ (fun node entry => Spells node.1 entry.1) nodes entries)
    (values : List.Forall₂ (fun node entry => Spells node.2 entry.2) nodes entries) :
    Spells (.mapping (ownTag tag) nodes) ((Value.mapping entries).under tag)

namespace Value
variable {tag : Option String} {value : Value}

theorem under_none : value.under none = value :=
  rfl

theorem under_some (tag : String) : value.under (some tag) = tagged tag value :=
  rfl

theorem untagged_under (bare : value.untagged = value) (tag : Option String) : (value.under tag).untagged = value := by
  cases tag with
  | none => exact bare
  | some tag => rfl

theorem word?_tagged {tag : String} (other : value ≠ .null) : (tagged tag value).word? = none := by
  cases value <;> first | rfl | exact absurd rfl other

theorem present?_of_ne_null (other : value ≠ .null) : reading.present? value = some (some value) := by
  cases value <;> first | rfl | exact absurd rfl other

theorem text?_under (bare : value.untagged = value) (tag : Option String) : (value.under tag).text? = value.text? := by
  rw [text?, text?, untagged_under bare, bare]

theorem truth?_under (bare : value.untagged = value) (tag : Option String) :
    (value.under tag).truth? = value.truth? := by
  rw [truth?, truth?, untagged_under bare, bare]

theorem natural?_under (bare : value.untagged = value) (tag : Option String) :
    (value.under tag).natural? = value.natural? := by
  rw [natural?, natural?, untagged_under bare, bare]

theorem items?_under (bare : value.untagged = value) (tag : Option String) :
    (value.under tag).items? = value.items? := by
  rw [items?, items?, untagged_under bare, bare]

theorem textEntries?_under (bare : value.untagged = value) (tag : Option String) :
    (value.under tag).textEntries? = value.textEntries? := by
  rw [textEntries?, textEntries?, untagged_under bare, bare]

end Value

namespace Document
variable (document : Document) (tag : Option String) (style : ScalarStyle) (text : String)

/-- An answer, or a failure. -/
def give {α : Type} : Option α → Walk α
  | some value => return value
  | none => failure

theorem readText_scalar : document.readText (.scalar tag style text) = pure text :=
  rfl

theorem readText_sequence (nodes : List Node) : document.readText (.sequence tag nodes) = failure :=
  rfl

theorem readText_mapping (nodes : List (Node × Node)) : document.readText (.mapping tag nodes) = failure :=
  rfl

theorem readBoolean_scalar : document.readBoolean (.scalar tag style text) =
    if mayBe "bool" tag style then give (boolean? text) else failure := by
  unfold readBoolean
  show (if mayBe "bool" tag style then _ else _) = _
  cases boolean? text <;> rfl

theorem readNatural_scalar : document.readNatural (.scalar tag style text) =
    if mayBe "int" tag style then give ((naturalValue? text.toList).bind Text.wordOf?) else failure := by
  unfold readNatural
  show (if mayBe "int" tag style then _ else _) = _
  cases (naturalValue? text.toList).bind Text.wordOf? <;> rfl

theorem agree_give {α : Type} (answer : Option α) : Agree Eq (give answer) answer := by
  cases answer with
  | none => exact .none
  | some value => exact .pure rfl

theorem readPresent_scalar : document.readPresent (.scalar none style text) =
    if style = .plain && (text.isEmpty || isNullWord text) then pure none else pure (some (.scalar none style text)) := by
  cases style <;> try rfl
  show (pure (if text.isEmpty || isNullWord text then none else some _) : Walk (Option Node)) = _
  simp only [decide_true, Bool.true_and]
  split <;> rfl

theorem readPresent_scalar_own (own : tag ≠ some (coreTag "null")) (tagged : tag ≠ none) :
    document.readPresent (.scalar tag style text) = pure (some (.scalar tag style text)) := by
  cases tag with
  | none => exact absurd rfl tagged
  | some tag =>
    have apart : tag ≠ coreTag "null" := fun same => own (congrArg some same)
    cases style <;> try rfl
    show (if tag ≠ coreTag "null" then _ else _) = _
    rw [if_pos apart]

theorem resolve_scalar : document.resolve (.scalar tag style text) = pure (.scalar tag style text) :=
  rfl

theorem readItems_scalar (filled : style = .plain → text ≠ "") :
    document.readItems (.scalar tag style text) = failure := by
  rw [readItems, resolve_scalar, pure_bind]
  split
  next same => cases same
  next same =>
    cases same
    exact absurd rfl (filled rfl)
  next => rfl

theorem readEntries_scalar (filled : style = .plain → text ≠ "") :
    document.readEntries (.scalar tag style text) = failure := by
  rw [readEntries, resolve_scalar, pure_bind]
  split
  next same => cases same
  next same =>
    cases same
    exact absurd rfl (filled rfl)
  next => rfl

theorem readWord_scalar : document.readWord (.scalar tag style text) =
    match localTag? tag with
    | none => pure text
    | some word => if style = .plain && (text.isEmpty || isNullWord text) then pure word else failure :=
  rfl

end Document

/-- A scalar of a style answers as a value without a tag does. -/
structure AnswersAs (style : ScalarStyle) (text : String) (value : Value) : Prop where
  bare : value.untagged = value
  own : value.text? = some text
  null_iff : (style = .plain && (text.isEmpty || isNullWord text)) ↔ value = .null
  truth : value.truth? = if style = .plain then boolean? text else none
  natural : value.natural? = if style = .plain then (naturalValue? text.toList).bind Text.wordOf? else none
  items : value.items? = none
  entries : value.textEntries? = none
  filled : style = .plain → text ≠ ""

namespace AnswersAs
variable {text : String} {style : ScalarStyle} {value : Value}

theorem plain (reads : Value.ofPlain text = some value) (own : value.text? = some text) :
    AnswersAs .plain text value := by
  obtain ⟨scalar, found, rfl⟩ := Option.map_eq_some_iff.mp reads
  have answered := Scalar.answered found <| by
    rintro whole rfl
    exact Option.some.inj own
  refine ⟨?_, own, ?_, ?_, ?_, ?_, ?_, ?_⟩
  · cases scalar <;> rfl
  · simp only [decide_true, Bool.true_and, answered.null_iff]
    cases scalar <;> simp
  · rw [if_pos rfl, answered.truth]
    cases scalar <;> rfl
  · rw [if_pos rfl, answered.natural]
    cases scalar with
    | number whole => cases whole <;> rfl
    | null => rfl
    | boolean flag => rfl
    | text text => rfl
  · cases scalar <;> rfl
  · cases scalar <;> rfl
  · rintro - rfl
    obtain rfl := answered.null_iff.mp rfl
    simp [Value.text?, Value.untagged] at own

theorem decimal {decimal : Binary64} (reads : Value.ofPlain text = some (.number (.decimal decimal))) :
    AnswersAs .plain text (.string text) := by
  obtain ⟨scalar, found, number⟩ := Option.map_eq_some_iff.mp reads
  obtain rfl : scalar = .number (.decimal decimal) := by
    cases scalar <;> simp_all
  have answered := Scalar.answered found (by simp)
  refine ⟨rfl, rfl, ?_, ?_, ?_, rfl, rfl, ?_⟩
  · simp [answered.null_iff]
  · rw [if_pos rfl, answered.truth]
    rfl
  · rw [if_pos rfl, answered.natural]
    rfl
  · rintro - rfl
    simpa using answered.null_iff

theorem word_eq (answers : AnswersAs style text value) : value.word? = some text := by
  rw [← answers.own]
  cases value with
  | tagged tag inner =>
    have size := congrArg sizeOf answers.bare
    simp [Value.untagged] at size
  | _ => rfl

theorem quoted (marked : style ≠ .plain) : AnswersAs style text (.string text) := by
  refine ⟨rfl, rfl, ?_, ?_, ?_, rfl, rfl, ?_⟩
  · simp [marked]
  · rw [if_neg marked]
    rfl
  · rw [if_neg marked]
    rfl
  · intro plain
    exact absurd plain marked

end AnswersAs

namespace Spells
variable {document : Document} {node : Node} {value : Value}

theorem localTag?_ownTag (tag : Option String) : localTag? (ownTag tag) = tag := by
  cases tag with
  | none => rfl
  | some tag => simp [localTag?, ownTag]

theorem head?_coreTag (kind : String) : (coreTag kind).toList.head? = some 't' := by
  have written : coreTag kind = "tag:yaml.org,2002:" ++ kind := rfl
  rw [written, String.toList_append]
  rfl

theorem ownTag_ne_coreTag (tag : Option String) (kind : String) : ownTag tag ≠ some (coreTag kind) := by
  intro same
  obtain ⟨name, -, written⟩ := Option.map_eq_some_iff.mp same
  have start := head?_coreTag kind
  simp [← written] at start

theorem mayBe_ownTag (kind : String) (tag : Option String) (style : ScalarStyle) :
    mayBe kind (ownTag tag) style = decide (style = .plain) := by
  simp [mayBe, ownTag_ne_coreTag]

theorem agree_mayBe {α : Type} {kind : String} {tag : Option String} {style : ScalarStyle} {answer : Option α} :
    Agree Eq (if mayBe kind (ownTag tag) style then Document.give answer else failure)
      (if style = .plain then answer else none) := by
  rw [mayBe_ownTag]
  by_cases plain : style = .plain
  · rw [if_pos plain, if_pos (decide_eq_true plain)]
    exact Document.agree_give answer
  · rw [if_neg plain, if_neg (by simpa using plain)]
    exact .none

theorem forall₂_and {α β : Type} {r s : α → β → Prop} {xs : List α} {ys : List β} (first : List.Forall₂ r xs ys)
    (second : List.Forall₂ s xs ys) : List.Forall₂ (fun x y => r x y ∧ s x y) xs ys := by
  induction first with
  | nil => exact .nil
  | cons head _ ih =>
    cases second with
    | cons other rest => exact .cons ⟨head, other⟩ (ih rest)

/-- A node is a scalar, a sequence or a mapping, under a tag or not. -/
theorem cases (spelled : Spells node value) :
    (∃ tag style text inner, node = .scalar (ownTag tag) style text ∧ value = Value.under tag inner ∧
      AnswersAs style text inner) ∨
    (∃ tag nodes items, node = .sequence (ownTag tag) nodes ∧ value = (Value.list items).under tag ∧
      List.Forall₂ Spells nodes items) ∨
    ∃ tag nodes entries, node = .mapping (ownTag tag) nodes ∧ value = (Value.mapping entries).under tag ∧
      List.Forall₂ (fun node entry => Spells node.1 entry.1 ∧ Spells node.2 entry.2) nodes entries := by
  cases spelled with
  | plain tag reads own => exact .inl ⟨tag, _, _, _, rfl, rfl, .plain reads own⟩
  | decimal reads => exact .inl ⟨none, _, _, _, rfl, rfl, .decimal reads⟩
  | quoted tag marked => exact .inl ⟨tag, _, _, _, rfl, rfl, .quoted marked⟩
  | sequence tag each => exact .inr (.inl ⟨tag, _, _, rfl, rfl, each⟩)
  | mapping tag keys values => exact .inr (.inr ⟨tag, _, _, rfl, rfl, forall₂_and keys values⟩)

theorem text (spelled : Spells node value) : Agree Eq (document.readText node) value.text? := by
  obtain ⟨tag, style, text, inner, rfl, rfl, answers⟩ | ⟨tag, nodes, items, rfl, rfl, -⟩ |
    ⟨tag, nodes, entries, rfl, rfl, -⟩ := spelled.cases
  · rw [Value.text?_under answers.bare, answers.own, Document.readText_scalar]
    exact .some rfl
  · rw [Value.text?_under rfl, Document.readText_sequence]
    exact .none
  · rw [Value.text?_under rfl, Document.readText_mapping]
    exact .none

theorem boolean (spelled : Spells node value) : Agree Eq (document.readBoolean node) value.truth? := by
  obtain ⟨tag, style, text, inner, rfl, rfl, answers⟩ | ⟨tag, nodes, items, rfl, rfl, -⟩ |
    ⟨tag, nodes, entries, rfl, rfl, -⟩ := spelled.cases
  · rw [Value.truth?_under answers.bare, answers.truth, Document.readBoolean_scalar]
    exact agree_mayBe
  · rw [Value.truth?_under rfl]
    exact .none
  · rw [Value.truth?_under rfl]
    exact .none

theorem natural (spelled : Spells node value) : Agree Eq (document.readNatural node) value.natural? := by
  obtain ⟨tag, style, text, inner, rfl, rfl, answers⟩ | ⟨tag, nodes, items, rfl, rfl, -⟩ |
    ⟨tag, nodes, entries, rfl, rfl, -⟩ := spelled.cases
  · rw [Value.natural?_under answers.bare, answers.natural, Document.readNatural_scalar]
    exact agree_mayBe
  · rw [Value.natural?_under rfl]
    exact .none
  · rw [Value.natural?_under rfl]
    exact .none

theorem word (spelled : Spells node value) : Agree Eq (document.readWord node) value.word? := by
  obtain ⟨tag, style, text, inner, rfl, rfl, answers⟩ | ⟨tag, nodes, items, rfl, rfl, -⟩ |
    ⟨tag, nodes, entries, rfl, rfl, -⟩ := spelled.cases
  · rw [Document.readWord_scalar, localTag?_ownTag]
    cases tag with
    | none =>
      rw [Value.under_none, answers.word_eq]
      exact .pure rfl
    | some tag =>
      dsimp only
      split
      next blank =>
        obtain rfl := answers.null_iff.mp blank
        exact .pure rfl
      next full =>
        have other : inner ≠ .null := fun same => full (answers.null_iff.mpr same)
        rw [Value.under_some, Value.word?_tagged other]
        exact .none
  · cases tag <;> exact .none
  · cases tag <;> exact .none

theorem present (spelled : Spells node value) :
    Agree (Option.Rel Spells) (document.readPresent node) (Value.reading.present? value) := by
  obtain ⟨tag, style, text, inner, rfl, rfl, answers⟩ | ⟨tag, nodes, items, rfl, rfl, -⟩ |
    ⟨tag, nodes, entries, rfl, rfl, -⟩ := spelled.cases
  · cases tag with
    | none =>
      rw [ownTag, Option.map_none, Document.readPresent_scalar]
      split
      next blank =>
        obtain rfl := answers.null_iff.mp blank
        exact .pure .none
      next full =>
        have other : inner ≠ .null := fun same => full (answers.null_iff.mpr same)
        rw [Value.under_none, Value.present?_of_ne_null other]
        exact .pure (.some spelled)
    | some tag =>
      rw [Document.readPresent_scalar_own _ _ _ _ (ownTag_ne_coreTag _ _) (by simp [ownTag])]
      exact .pure (.some spelled)
  · cases tag <;> exact .pure (.some spelled)
  · cases tag <;> exact .pure (.some spelled)

theorem items (spelled : Spells node value) :
    Agree (List.Forall₂ Spells) (document.readItems node) value.items? := by
  obtain ⟨tag, style, text, inner, rfl, rfl, answers⟩ | ⟨tag, nodes, items, rfl, rfl, each⟩ |
    ⟨tag, nodes, entries, rfl, rfl, -⟩ := spelled.cases
  · rw [Value.items?_under answers.bare, answers.items, Document.readItems_scalar _ _ _ _ answers.filled]
    exact .none
  · rw [Value.items?_under rfl]
    exact .pure each
  · rw [Value.items?_under rfl]
    exact .none

theorem entries (spelled : Spells node value) :
    Agree (List.Forall₂ (SameField Spells)) (document.readEntries node) value.textEntries? := by
  obtain ⟨tag, style, text, inner, rfl, rfl, answers⟩ | ⟨tag, nodes, items, rfl, rfl, -⟩ |
    ⟨tag, nodes, entries, rfl, rfl, each⟩ := spelled.cases
  · rw [Value.textEntries?_under answers.bare, answers.entries,
      Document.readEntries_scalar _ _ _ _ answers.filled]
    exact .none
  · rw [Value.textEntries?_under rfl]
    exact .none
  · rw [Value.textEntries?_under rfl]
    refine Agree.mapM ?_ each
    rintro ⟨key, node⟩ ⟨name, value⟩ ⟨named, bound⟩
    exact named.text.bind_eq fun text => .pure ⟨rfl, bound⟩

theorem fields (names : List String) (spelled : Spells node value) :
    Agree (List.Forall₂ (SameField Spells)) (document.readFields names node) (Value.reading.fields names value) := by
  refine spelled.entries.bind fun entries others all => ?_
  have known := SameField.filter all names
  dsimp only
  rw [SameField.names known]
  split
  · exact .pure known
  · exact .none

end Spells

theorem Document.answers (document : Document) : document.reading.Answers Value.reading Spells where
  refuse := .none
  text := Spells.text
  boolean := Spells.boolean
  natural := Spells.natural
  word := Spells.word
  present := Spells.present
  items := Spells.items
  entries := Spells.entries
  fields := Spells.fields

end Linkage.Yaml
