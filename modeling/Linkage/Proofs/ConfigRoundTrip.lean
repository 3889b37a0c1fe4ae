import Mathlib.Data.List.Nodup
import Linkage.Config.Json

/-! A configuration is read back from the data that it is written as. Some twenty fields are left out under conditions of
their own and filled in with defaults of their own; nothing is lost, since a field is left out just when it has the value
that is filled in. -/

namespace Linkage

namespace TextMap
variable {key value : String} {entries : List (String × String)} {map other : TextMap}

theorem eq_of_entries (same : map.entries = other.entries) : map = other := by
  cases map
  cases other
  cases same
  rfl

/-- A key above all others is bound at the end. -/
theorem insertEntry_of_above (above : ∀ entry ∈ entries, entry.1 < key) :
    insertEntry key value entries = entries ++ [(key, value)] := by
  induction entries with
  | nil => rfl
  | cons first rest ih =>
    have below : first.1 < key := above first List.mem_cons_self
    have notAbove : ¬ key < first.1 := String.lt_asymm below
    have different : key ≠ first.1 := (String.ne_of_lt below).symm
    have tail : insertEntry key value rest = rest ++ [(key, value)] := by
      apply ih
      intro entry member
      exact above entry (List.mem_cons_of_mem first member)
    rw [insertEntry, if_neg notAbove, if_neg different, tail]
    rfl

theorem entries_foldl_insert (ascending : (map.entries ++ entries).Pairwise (·.1 < ·.1)) :
    (entries.foldl (fun map entry => map.insert entry.1 entry.2) map).entries = map.entries ++ entries := by
  induction entries generalizing map with
  | nil => exact (List.append_nil _).symm
  | cons entry rest ih =>
    have bound : (map.insert entry.1 entry.2).entries = map.entries ++ [entry] := by
      apply insertEntry_of_above
      intro held member
      exact (List.pairwise_append.mp ascending).2.2 held member entry List.mem_cons_self
    rw [List.foldl_cons, ih, bound, ← List.append_cons]
    rwa [bound, ← List.append_cons]

/-- Binding the entries of a map one after the other gives the map again. -/
theorem ofList_entries (map : TextMap) : ofList map.entries = map :=
  eq_of_entries (entries_foldl_insert map.ascending)

end TextMap

namespace Json
variable {α β : Type} {slots rest : List (String × Option Json)} {names : List String} {name : String} {slot : Option Json}
  {isDefault : Bool} {default value : α} {read : Json → Option α} {data : Json} {result : β}

/-- The fields of a structure, without those that are left out. -/
def written (slots : List (String × Option Json)) : List (String × Json) :=
  slots.flatMap fun (name, slot) => slot.toList.map fun data => (name, data)

/-- The data of a field, unless its value is the one that is left out. -/
def kept (isDefault : Bool) (data : Json) : Option Json :=
  if isDefault then none else some data

/-- What is written for a field gives its value back. When nothing is written, the value is the default. -/
def Restores (default : α) (read : Json → Option α) (slot : Option Json) (value : α) : Prop :=
  slot.elim (some default) read = some value

@[simp]
theorem written_nil : written [] = [] :=
  rfl

@[simp]
theorem written_none : written ((name, none) :: rest) = written rest :=
  rfl

@[simp]
theorem written_some : written ((name, some data) :: rest) = (name, data) :: written rest :=
  rfl

theorem names_written : ((written slots).map (·.1)).Sublist (slots.map (·.1)) := by
  induction slots with
  | nil => exact .slnil
  | cons first rest ih =>
    obtain ⟨name, _ | data⟩ := first
    · exact ih.cons name
    · exact ih.cons_cons name

theorem lookup_written (distinct : (slots.map (·.1)).Nodup) (found : slots.lookup name = some slot) :
    (written slots).lookup name = slot := by
  induction slots with
  | nil => cases found
  | cons first rest ih =>
    obtain ⟨other, held⟩ := first
    obtain ⟨fresh, apart⟩ := List.nodup_cons.mp distinct
    by_cases same : name = other
    · subst same
      obtain rfl : held = slot := by simpa using found
      cases held with
      | some data => simp
      | none =>
        -- No later field has the name.
        rw [written_none, List.lookup_eq_none_iff]
        intro entry member
        rw [bne_iff_ne]
        rintro rfl
        exact fresh (names_written.subset (List.mem_map_of_mem member))
    · have differs : (name == other) = false := beq_false_of_ne same
      have later : rest.lookup name = some slot := by simpa [List.lookup_cons, differs] using found
      cases held with
      | none => exact ih apart later
      | some data => simpa [List.lookup_cons, differs] using ih apart later

/-- Each field has a known name, and none is given twice. -/
theorem structureFields_written (named : slots.map (·.1) = names) (distinct : names.Nodup) :
    structureFields names (.object (written slots)) = some (written slots) := by
  have sublist : ((written slots).map (·.1)).Sublist names := named ▸ names_written
  have known : (written slots).filter (fun entry => names.contains entry.1) = written slots := by
    rw [List.filter_eq_self]
    intro entry member
    exact List.contains_iff_mem.mpr (sublist.subset (List.mem_map_of_mem member))
  simp only [structureFields, known, if_pos (sublist.nodup distinct)]

theorem bind_fields {next : List (String × Json) → Option β} (named : slots.map (·.1) = names) (distinct : names.Nodup)
    (rest : (slots.map (·.1)).Nodup → next (written slots) = some result) :
    (reading.fields names (.object (written slots)) >>= next) = some result := by
  have fields : reading.fields names (.object (written slots)) = some (written slots) :=
    structureFields_written named distinct
  exact Option.bind_eq_some_iff.mpr ⟨written slots, fields, rest (named ▸ distinct)⟩

theorem bind_field {next : α → Option β} (distinct : (slots.map (·.1)).Nodup) (found : slots.lookup name = some slot)
    (restored : Restores default read slot value) (rest : next value = some result) :
    (Reading.field (written slots) name default read >>= next) = some result := by
  have answered : Reading.field (written slots) name default read = some value := by
    rw [Reading.field, lookup_written distinct found]
    cases slot with
    | none => exact restored
    | some data => exact restored
  exact Option.bind_eq_some_iff.mpr ⟨value, answered, rest⟩

theorem bind_required {next : α → Option β} (distinct : (slots.map (·.1)).Nodup)
    (found : slots.lookup name = some (some data)) (reads : read data = some value) (rest : next value = some result) :
    (reading.required (written slots) name read >>= next) = some result := by
  rw [Reading.required, lookup_written distinct found]
  exact Option.bind_eq_some_iff.mpr ⟨value, reads, rest⟩

theorem restores_kept (filled : isDefault → default = value) (reads : read data = some value) :
    Restores default read (kept isDefault data) value := by
  cases isDefault with
  | false => exact reads
  | true => exact congrArg some (filled rfl)

theorem restores_default [DecidableEq α] (reads : read data = some value) :
    Restores default read (kept (value = default) data) value := by
  apply restores_kept
  · intro same
    exact (of_decide_eq_true same).symm
  · exact reads

theorem mapM_map_eq_some {write : α → β} {read : β → Option α} (restored : ∀ value, read (write value) = some value)
    (values : List α) : (values.map write).mapM read = some values := by
  induction values with
  | nil => rfl
  | cons value rest ih => simp [restored, ih]

theorem listOf_map {write : α → Json} (restored : ∀ value, read (write value) = some value) (values : List α) :
    reading.listOf read (.list (values.map write)) = some values :=
  mapM_map_eq_some restored values

theorem texts_strings (items : List String) : reading.texts (strings items) = some items := by
  apply listOf_map
  intro item
  rfl

theorem restores_list {values : List α} {read : Json → Option (List α)} (reads : read data = some values) :
    Restores [] read (kept values.isEmpty data) values := by
  apply restores_kept
  · intro empty
    exact (List.isEmpty_iff.mp empty).symm
  · exact reads

theorem restores_optional {write : α → Json} (filled : ∀ value, write value ≠ .null)
    (reads : ∀ value, read (write value) = some value) (value? : Option α) :
    Restores none (reading.optional read) (value?.map write) value? := by
  cases value? with
  | none => rfl
  | some value =>
    have present : reading.present? (write value) = some (some (write value)) := by
      have other := filled value
      generalize write value = data at other ⊢
      cases data with
      | null => contradiction
      | _ => rfl
    rw [Restores, Option.map_some, Option.elim_some, Reading.optional, present]
    simp [reads]

theorem restores_text (text? : Option String) :
    Restores none (reading.optional reading.text) (text?.map string) text? := by
  have filled (text : String) : string text ≠ .null := nofun
  exact restores_optional filled (fun _ => rfl) text?

theorem restores_texts (items? : Option (List String)) :
    Restores none (reading.optional reading.texts) (items?.map strings) items? := by
  have filled (items : List String) : strings items ≠ .null := nofun
  exact restores_optional filled texts_strings items?

theorem restores_flag (flag : Bool) : Restores false reading.boolean (kept (!flag) (.boolean flag)) flag := by
  cases flag <;> rfl

theorem natural_ofNat (word : UInt64) : reading.natural (ofNat word.toNat) = some word := by
  have fits : word.toNat < Text.wordLimit := word.toNat_lt
  have whole : Text.wordOf? word.toNat = some (.ofNat word.toNat) := if_pos fits
  rwa [UInt64.ofNat_toNat] at whole

theorem outputMode_word (mode : OutputMode) : reading.outputMode (string mode.word) = some mode := by
  cases mode <;> rfl

theorem expectation_word (expectation : Expectation) :
    reading.expectation (string expectation.word) = some expectation := by
  cases expectation <;> rfl

theorem restores_map (map : TextMap) :
    Restores ∅ reading.textMap (kept map.isEmpty (.object (map.entries.map fun (key, held) => (key, .string held)))) map := by
  apply restores_kept
  · intro empty
    exact TextMap.eq_of_entries (List.isEmpty_iff.mp empty).symm
  · have entries : (map.entries.map fun (key, held) => (key, string held)).mapM
        (fun (key, data) => do return (key, ← reading.text data)) = some map.entries := by
      apply mapM_map_eq_some
      intro entry
      rfl
    exact Option.bind_eq_some_iff.mpr ⟨map.entries, entries, congrArg some map.ofList_entries⟩

end Json

namespace Config
open Json
variable {name : String}

theorem unlessDefault_eq (isDefault : Bool) (data : Json) :
    unlessDefault name isDefault data = written [(name, kept isDefault data)] := by
  cases isDefault <;> rfl

theorem optionalText_eq (text? : Option String) : optionalText name text? = written [(name, text?.map string)] := by
  cases text? <;> rfl

theorem textList_eq (items : List String) :
    textList name items = written [(name, kept items.isEmpty (strings items))] :=
  unlessDefault_eq items.isEmpty (strings items)

namespace Settings

def slots (settings : Settings) : List (String × Option Json) :=
  [("default_output", some (.string settings.defaultOutput.word)),
    ("parallel", kept (!settings.parallel) (.boolean settings.parallel)),
    ("max_parallel", kept (settings.maxParallel = 4) (.ofNat settings.maxParallel.toNat)),
    ("repository_url", kept (settings.repositoryUrl = defaultRepositoryUrl) (.string settings.repositoryUrl)),
    ("cache_ttl_secs", kept (settings.cacheTtlSeconds = 86400) (.ofNat settings.cacheTtlSeconds.toNat))]

theorem toJson_eq (settings : Settings) : settings.toJson = .object (written settings.slots) := by
  simp only [toJson, unlessDefault_eq]
  simp [written, slots]

theorem reading_toJson (settings : Settings) : reading.settings settings.toJson = some settings := by
  rw [toJson_eq, Reading.settings]
  refine bind_fields rfl (by decide) fun distinct => ?_
  refine bind_field distinct rfl (outputMode_word settings.defaultOutput) ?_
  refine bind_field distinct rfl (restores_flag settings.parallel) ?_
  refine bind_field distinct rfl (restores_default (natural_ofNat settings.maxParallel)) ?_
  refine bind_field distinct rfl (restores_default rfl) ?_
  refine bind_field distinct rfl (restores_default (natural_ofNat settings.cacheTtlSeconds)) ?_
  rfl

end Settings

namespace Instrumentation

def slots (instrumentation : Instrumentation) : List (String × Option Json) :=
  [("helper_prefixes", kept instrumentation.helperPrefixes.isEmpty (strings instrumentation.helperPrefixes)),
    ("bootstrap_prefixes", instrumentation.bootstrapPrefixes.map strings),
    ("class_loader_matcher", kept instrumentation.classLoaderMatcher.isEmpty (strings instrumentation.classLoaderMatcher)),
    ("exclusions", kept instrumentation.exclusions.isEmpty (strings instrumentation.exclusions)),
    ("references", some (strings instrumentation.references))]

theorem toJson_eq (instrumentation : Instrumentation) :
    instrumentation.toJson = .object (written instrumentation.slots) := by
  simp only [toJson, textList_eq]
  cases starts : instrumentation.bootstrapPrefixes <;> simp [written, slots, starts]

theorem reading_toJson (instrumentation : Instrumentation) :
    reading.instrumentation instrumentation.toJson = some instrumentation := by
  rw [toJson_eq, Reading.instrumentation]
  refine bind_fields rfl (by decide) fun distinct => ?_
  refine bind_field distinct rfl (restores_list (texts_strings _)) ?_
  refine bind_field distinct rfl (restores_texts instrumentation.bootstrapPrefixes) ?_
  refine bind_field distinct rfl (restores_list (texts_strings _)) ?_
  refine bind_field distinct rfl (restores_list (texts_strings _)) ?_
  refine bind_field distinct rfl (texts_strings _) ?_
  rfl

end Instrumentation

namespace RuleEntry

def slots (entry : RuleEntry) : List (String × Option Json) :=
  [("name", entry.name.map string), ("group", some (.string entry.group)), ("module", some (.string entry.module)),
    ("versions", some (.string entry.versions)),
    ("extra_dependencies", kept entry.extraDependencies.isEmpty (strings entry.extraDependencies)),
    ("excluded_dependencies", kept entry.excludedDependencies.isEmpty (strings entry.excludedDependencies)),
    ("assert", some (.string entry.assertion.word)),
    ("assert_inverse", kept (!entry.assertInverse) (.boolean entry.assertInverse)),
    ("skip_versions", kept entry.skipVersions.isEmpty (strings entry.skipVersions))]

theorem toJson_eq (entry : RuleEntry) : entry.toJson = .object (written entry.slots) := by
  simp only [toJson, unlessDefault_eq, optionalText_eq, textList_eq]
  simp [written, slots]

theorem reading_toJson (entry : RuleEntry) : reading.ruleEntry entry.toJson = some entry := by
  rw [toJson_eq, Reading.ruleEntry]
  refine bind_fields rfl (by decide) fun distinct => ?_
  refine bind_field distinct rfl (restores_text entry.name) ?_
  refine bind_field distinct rfl rfl ?_
  refine bind_field distinct rfl rfl ?_
  refine bind_field distinct rfl rfl ?_
  refine bind_field distinct rfl (restores_list (texts_strings _)) ?_
  refine bind_field distinct rfl (restores_list (texts_strings _)) ?_
  refine bind_field distinct rfl (expectation_word entry.assertion) ?_
  refine bind_field distinct rfl (restores_flag entry.assertInverse) ?_
  refine bind_field distinct rfl (restores_list (texts_strings _)) ?_
  rfl

end RuleEntry

namespace SymbolEntry

def slots (entry : SymbolEntry) : List (String × Option Json) :=
  [("symbol", some (.string entry.symbol)), ("since", entry.since.map string), ("until", entry.until.map string)]

theorem toJson_eq (entry : SymbolEntry) : entry.toJson = .object (written entry.slots) := by
  simp only [toJson, optionalText_eq]
  simp [written, slots]

theorem reading_toJson (entry : SymbolEntry) : reading.symbolEntry entry.toJson = some entry := by
  rw [toJson_eq, Reading.symbolEntry]
  refine bind_fields rfl (by decide) fun distinct => ?_
  refine bind_required distinct rfl rfl ?_
  refine bind_field distinct rfl (restores_text entry.since) ?_
  refine bind_field distinct rfl (restores_text entry.until) ?_
  rfl

end SymbolEntry

namespace CatalogEntry

def slots (entry : CatalogEntry) : List (String × Option Json) :=
  [("artifact", some (.string entry.artifact)), ("releases", kept entry.releases.isEmpty (strings entry.releases)),
    ("dependencies", kept entry.dependencies.isEmpty (strings entry.dependencies)),
    ("symbols", some (.list (entry.symbols.map SymbolEntry.toJson)))]

theorem toJson_eq (entry : CatalogEntry) : entry.toJson = .object (written entry.slots) := by
  simp only [toJson, textList_eq]
  simp [written, slots]

theorem reading_toJson (entry : CatalogEntry) : reading.catalogEntry entry.toJson = some entry := by
  rw [toJson_eq, Reading.catalogEntry]
  refine bind_fields rfl (by decide) fun distinct => ?_
  refine bind_field distinct rfl rfl ?_
  refine bind_field distinct rfl (restores_list (texts_strings _)) ?_
  refine bind_field distinct rfl (restores_list (texts_strings _)) ?_
  refine bind_field distinct rfl (listOf_map SymbolEntry.reading_toJson entry.symbols) ?_
  rfl

end CatalogEntry

def slots (config : Config) : List (String × Option Json) :=
  [("name", config.name.map string), ("settings", some config.settings.toJson),
    ("instrumentation", some config.instrumentation.toJson), ("rules", some (.list (config.rules.map RuleEntry.toJson))),
    ("catalog", kept config.catalog.isEmpty (.list (config.catalog.map CatalogEntry.toJson))),
    ("resolved", kept config.resolved.isEmpty
      (.object (config.resolved.entries.map fun (key, version) => (key, .string version))))]

theorem toJson_eq (config : Config) : config.toJson = .object (written config.slots) := by
  simp only [toJson, unlessDefault_eq, optionalText_eq]
  simp [written, slots]

/-- Whatever a configuration holds, it is read back as it was written; so no two configurations are written alike. -/
theorem config_round_trip (config other : Config) :
    ofJson? config.toJson = some config ∧ (config.toJson = other.toJson ↔ config = other) := by
  have restored (config : Config) : ofJson? config.toJson = some config := by
    rw [toJson_eq, ofJson?, Reading.config]
    refine bind_fields rfl (by decide) fun distinct => ?_
    refine bind_field distinct rfl (restores_text config.name) ?_
    refine bind_field distinct rfl config.settings.reading_toJson ?_
    refine bind_field distinct rfl config.instrumentation.reading_toJson ?_
    refine bind_field distinct rfl (listOf_map RuleEntry.reading_toJson config.rules) ?_
    refine bind_field distinct rfl (restores_list (listOf_map CatalogEntry.reading_toJson config.catalog)) ?_
    refine bind_field distinct rfl (restores_map config.resolved) ?_
    rfl
  refine ⟨restored config, ?_⟩
  constructor
  · intro same
    apply Option.some.inj
    rw [← restored config, ← restored other, same]
  · intro same
    rw [same]

end Config
end Linkage
