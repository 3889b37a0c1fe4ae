import Linkage.Repository.Cache

/-! Fields that a structure does not know. Their values are passed over as they are written, even if they stand for
nothing. Where a text can be read as a whole, this makes no difference. -/

namespace Linkage

namespace Json
variable {names : List String} {fields : List (List Char × Raw)} {decoded : List (String × Json)} {text : String}
  {value : Json}

theorem Raw.decodeFields?_cons_eq_some_iff {key : List Char} {raw : Raw} :
    decodeFields? ((key, raw) :: fields) = some decoded ↔ ∃ name value rest, textOf? key = some name ∧
      decode? raw = some value ∧ decodeFields? fields = some rest ∧ decoded = (name, value) :: rest := by
  simp only [decodeFields?, Option.bind_eq_bind, Option.bind_eq_some_iff, Option.pure_def, Option.some.injEq]
  grind

theorem Raw.decodeKnown?_of_decodeFields? (whole : decodeFields? fields = some decoded) :
    decodeKnown? names fields = some (decoded.filter fun entry => names.contains entry.1) := by
  induction fields generalizing decoded with
  | nil =>
    rw [decodeFields?] at whole
    obtain rfl := Option.some.inj whole
    rfl
  | cons field fields ih =>
    obtain ⟨name, value, rest, named, valued, others, rfl⟩ := decodeFields?_cons_eq_some_iff.mp whole
    rw [decodeKnown?, named, valued, ih others, List.filter_cons]
    exact (apply_ite some _ _ _).symm

/-- Names are chosen once more, to no effect. -/
theorem structureFields_filter (fields : List (String × Json)) :
    structureFields names (.object (fields.filter fun entry => names.contains entry.1)) =
      structureFields names (.object fields) := by
  rw [structureFields, structureFields, List.filter_filter]
  simp only [Bool.and_self]

theorem readStructure?_of_read? (names : List String) (whole : read? text = some value) :
    (readStructure? names text).bind (structureFields names) = structureFields names value := by
  obtain ⟨raw, written, decoded⟩ := Option.bind_eq_some_iff.mp whole
  unfold readStructure?
  rw [written]
  cases raw with
  | object fields =>
    rw [Raw.decode?] at decoded
    obtain ⟨all, each, rfl⟩ := Option.map_eq_some_iff.mp decoded
    rw [← structureFields_filter all]
    simp only [Option.bind_eq_bind, Option.bind_some, Raw.decodeKnown?_of_decodeFields? each, Option.map_some]
  | _ => simp only [Option.bind_eq_bind, Option.bind_some, decoded]

end Json

theorem Listing.read?_of_read? {text : String} {value : Json} (whole : Json.read? text = some value) :
    Listing.read? text = Listing.ofJson? value := by
  have known := Json.readStructure?_of_read? fieldNames whole
  exact (Option.bind_assoc _ _ _).symm.trans (congrArg (Option.bind · _) known)

/-- Half a pair of code units in a field that nobody asks for does no harm. -/
example :
    let text := "\x7b\"module\": \"g:m\", \"cached_at\": \"2001-01-01T00:00:00Z\", \"versions\": [\"2\"], \"note\": " ++
      "\"\\ud800\"\x7d"
    Json.read? text = none ∧ (Listing.read? text).map (·.module) = some "g:m" := by
  decide +kernel

end Linkage
