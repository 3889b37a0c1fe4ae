import Mathlib.Data.List.Forall2
import Mathlib.Data.List.Induction
import Mathlib.Data.List.Nodup
import Linkage.Diagnostic.Sarif

/-! The table of rules in a log, and the results that refer to it by name. Kinds of diagnostics share a name when a check
of the configuration is called like one of the others. The table has each name once, at the first diagnostic that uses
it and with the description of that one, so every reference leads to one place. -/

namespace Linkage.Diagnostic.Sarif
variable {diagnostics rest : List Diagnostic} {diagnostic last other : Diagnostic} {places : List Nat} {place : Nat}
  {name : String} {value : Json} {codes : List Code} {results table : List Json}

/-- The name of a diagnostic's kind. -/
def nameOf (diagnostic : Diagnostic) : String :=
  diagnostic.code.text

theorem rules_concat (diagnostics : List Diagnostic) (last : Diagnostic) : rules (diagnostics ++ [last]) =
    if (rules diagnostics).any (·.text = nameOf last) then rules diagnostics else rules diagnostics ++ [last.code] := by
  rw [rules, List.foldl_concat]
  rfl

theorem mem_names_rules : name ∈ (rules diagnostics).map Code.text ↔ name ∈ diagnostics.map nameOf := by
  induction diagnostics using List.reverseRecOn with
  | nil => rfl
  | append_singleton diagnostics last ih =>
    rw [rules_concat, List.map_append, List.mem_append, ← ih]
    split
    next known =>
      have present : nameOf last ∈ (rules diagnostics).map Code.text := by
        simpa using known
      constructor
      · exact Or.inl
      · intro found
        apply found.elim id
        intro same
        rw [List.map_singleton, List.mem_singleton] at same
        rwa [same]
    next => rw [List.map_append, List.mem_append]; rfl

/-- A name that is used before is known. -/
theorem any_rules_iff :
    (rules diagnostics).any (·.text = name) ↔ ∃ diagnostic ∈ diagnostics, nameOf diagnostic = name := by
  have known : name ∈ (rules diagnostics).map Code.text ↔ name ∈ diagnostics.map nameOf := mem_names_rules
  rw [List.mem_map, List.mem_map] at known
  simpa using known

theorem nodup_names_rules (diagnostics : List Diagnostic) : ((rules diagnostics).map Code.text).Nodup := by
  induction diagnostics using List.reverseRecOn with
  | nil => exact .nil
  | append_singleton diagnostics last ih =>
    rw [rules_concat]
    split
    next => exact ih
    next fresh =>
      rw [List.map_append, List.map_singleton, List.nodup_append]
      refine ⟨ih, List.nodup_singleton _, ?_⟩
      intro text listed name appended same
      rw [List.mem_singleton.mp appended] at same
      apply fresh
      obtain ⟨code, member, rfl⟩ := List.mem_map.mp listed
      exact List.any_eq_true.mpr ⟨code, member, decide_eq_true same⟩

/-- The diagnostic at a place is the first one with its name. -/
structure FirstUse (diagnostics : List Diagnostic) (place : Nat) (diagnostic : Diagnostic) : Prop where
  found : diagnostics[place]? = some diagnostic
  fresh : ∀ earlier ∈ diagnostics.take place, nameOf earlier ≠ nameOf diagnostic

theorem FirstUse.lt_length (first : FirstUse diagnostics place diagnostic) : place < diagnostics.length :=
  (List.getElem?_eq_some_iff.mp first.found).1

theorem firstUse_concat : FirstUse (diagnostics ++ [last]) place diagnostic ↔
    FirstUse diagnostics place diagnostic ∨
      place = diagnostics.length ∧ diagnostic = last ∧ ∀ earlier ∈ diagnostics, nameOf earlier ≠ nameOf last := by
  constructor
  · intro first
    rcases Nat.lt_or_ge place diagnostics.length with within | beyond
    · left
      constructor
      · rw [← first.found, List.getElem?_append_left within]
      · have fresh := first.fresh
        rwa [List.take_append_of_le_length (Nat.le_of_lt within)] at fresh
    · right
      have bound := first.lt_length
      rw [List.length_append, List.length_singleton] at bound
      obtain rfl : place = diagnostics.length := by omega
      have found := first.found
      rw [List.getElem?_concat_length] at found
      obtain rfl := Option.some.inj found
      have fresh := first.fresh
      rw [List.take_left] at fresh
      exact ⟨rfl, rfl, fresh⟩
  · intro either
    rcases either with first | ⟨rfl, rfl, fresh⟩
    · constructor
      · rw [List.getElem?_append_left first.lt_length, first.found]
      · rw [List.take_append_of_le_length (Nat.le_of_lt first.lt_length)]
        exact first.fresh
    · constructor
      · exact List.getElem?_concat_length
      · rw [List.take_left]
        exact fresh

/-- The places of the first uses in their order, and the kinds of the diagnostics that stand there. -/
structure FirstUses (diagnostics : List Diagnostic) (places : List Nat) (codes : List Code) : Prop where
  ascending : places.Pairwise (· < ·)
  complete : ∀ place, place ∈ places ↔ ∃ diagnostic, FirstUse diagnostics place diagnostic
  kinds : List.Forall₂ (fun place code => ∃ diagnostic, FirstUse diagnostics place diagnostic ∧ diagnostic.code = code)
    places codes

/-- The name of the last diagnostic has been used before. -/
theorem FirstUses.repeated (uses : FirstUses diagnostics places codes)
    (known : ∃ other ∈ diagnostics, nameOf other = nameOf last) : FirstUses (diagnostics ++ [last]) places codes := by
  have same (place : Nat) (diagnostic : Diagnostic) :
      FirstUse (diagnostics ++ [last]) place diagnostic ↔ FirstUse diagnostics place diagnostic := by
    rw [firstUse_concat]
    apply or_iff_left
    intro new
    obtain ⟨other, member, equal⟩ := known
    exact new.2.2 other member equal
  constructor
  · exact uses.ascending
  · simpa only [same] using uses.complete
  · simpa only [same] using uses.kinds

/-- The last diagnostic is the first one with its name. -/
theorem FirstUses.new (uses : FirstUses diagnostics places codes)
    (fresh : ∀ other ∈ diagnostics, nameOf other ≠ nameOf last) :
    FirstUses (diagnostics ++ [last]) (places ++ [diagnostics.length]) (codes ++ [last.code]) := by
  constructor
  · rw [List.pairwise_append]
    refine ⟨uses.ascending, List.pairwise_singleton _ _, ?_⟩
    intro place listed next appended
    rw [List.mem_singleton.mp appended]
    obtain ⟨diagnostic, first⟩ := (uses.complete place).mp listed
    exact first.lt_length
  · intro place
    simp only [firstUse_concat, List.mem_append, List.mem_singleton, uses.complete, exists_or]
    apply or_congr_right
    constructor
    · intro same
      exact ⟨last, same, rfl, fresh⟩
    · intro new
      obtain ⟨diagnostic, same, -⟩ := new
      exact same
  · apply List.rel_append
    · apply uses.kinds.imp
      intro place code use
      obtain ⟨diagnostic, first, kind⟩ := use
      exact ⟨diagnostic, firstUse_concat.mpr (.inl first), kind⟩
    · refine .cons ⟨last, firstUse_concat.mpr (.inr ⟨rfl, rfl, fresh⟩), rfl⟩ .nil

theorem exists_firstUses (diagnostics : List Diagnostic) : ∃ places, FirstUses diagnostics places (rules diagnostics) := by
  induction diagnostics using List.reverseRecOn with
  | nil =>
    refine ⟨[], .nil, ?_, .nil⟩
    intro place
    simp only [List.not_mem_nil, false_iff, not_exists]
    intro diagnostic first
    exact absurd first.lt_length (Nat.not_lt_zero place)
  | append_singleton diagnostics last ih =>
    obtain ⟨places, uses⟩ := ih
    rw [rules_concat]
    split
    next known => exact ⟨places, uses.repeated (any_rules_iff.mp known)⟩
    next fresh =>
      rw [any_rules_iff] at fresh
      push Not at fresh
      exact ⟨_, uses.new fresh⟩

/-- What a diagnostic is about, under the name of the property that tells it. -/
def property? (diagnostic : Diagnostic) (name : String) : Option String :=
  if name = "rule" then diagnostic.rule
  else if name = "module" then diagnostic.module
  else if name = "version" then diagnostic.version
  else none

structure Describes (diagnostic : Diagnostic) (result : Json) : Prop where
  ruleId : result.field? "ruleId" = some (.string (nameOf diagnostic))
  message : (result.field? "message").bind (Json.field? "text") =
    some (.string (diagnostic.message ++ diagnostic.suggestion.elim "" fun help => " (" ++ help ++ ")"))
  properties : ∃ fields : List (String × Json),
    result.field? "properties" = (if fields.isEmpty then none else some (.object fields)) ∧
      (fields.map (·.1)).Nodup ∧
      ∀ name value, (name, value) ∈ fields ↔ ∃ text, property? diagnostic name = some text ∧ value = .string text

structure Explains (rule : Json) (code : Code) : Prop where
  id : rule.field? "id" = some (.string code.text)
  description : (rule.field? "shortDescription").bind (Json.field? "text") = some (.string code.description)

theorem mem_jsonField {field : String} {text : Option String} :
    (name, value) ∈ jsonField field text ↔ name = field ∧ ∃ told, text = some told ∧ value = .string told := by
  cases text <;> simp [jsonField]

theorem mem_properties : (name, value) ∈ properties diagnostic ↔
    ∃ text, property? diagnostic name = some text ∧ value = .string text := by
  simp only [properties, List.mem_append, mem_jsonField, property?]
  by_cases isRule : name = "rule"
  · subst isRule
    simp
  · by_cases isModule : name = "module"
    · subst isModule
      simp
    · by_cases isVersion : name = "version"
      · subst isVersion
        simp
      · simp [isRule, isModule, isVersion]

theorem nodup_names_properties (diagnostic : Diagnostic) : ((properties diagnostic).map (·.1)).Nodup := by
  unfold properties
  cases diagnostic.module <;> cases diagnostic.rule <;> cases diagnostic.version <;> simp [jsonField]

theorem describes_result (diagnostic : Diagnostic) : Describes diagnostic (result diagnostic) := by
  constructor
  · rfl
  · cases help : diagnostic.suggestion with
    | none => simp [result, message, Json.field?, help]
    | some text => simp [result, message, Json.field?, help, String.append_assoc]
  · refine ⟨properties diagnostic, ?_, nodup_names_properties diagnostic, fun name value => mem_properties⟩
    unfold result
    cases empty : (properties diagnostic).isEmpty <;> simp [Json.field?, empty]

theorem explains_rule (code : Code) : Explains (rule code) code :=
  ⟨rfl, rfl⟩

/-- The name of the rule at a place in the table. -/
theorem idAt_iff {number : Nat} : ((codes.map rule)[number]?).bind (Json.field? "id") = some (.string name) ↔
    (codes.map Code.text)[number]? = some name := by
  rw [List.getElem?_map, List.getElem?_map]
  cases codes[number]? with
  | none => simp
  | some code =>
    simp only [Option.map_some, Option.bind_some, (explains_rule code).id, Option.some.injEq, Json.string.injEq]

/-- Results for the diagnostics, and a table to which they can refer. -/
structure Consistent (diagnostics : List Diagnostic) (results table : List Json) : Prop where
  described : List.Forall₂ Describes diagnostics results
  distinct : table.Pairwise fun first second => first.field? "id" ≠ second.field? "id"
  referred : ∀ result ∈ results, ∃ id, result.field? "ruleId" = some id ∧
    ∃! number : Nat, table[number]?.bind (Json.field? "id") = some id
  used : ∀ rule ∈ table, ∃ result ∈ results, result.field? "ruleId" = rule.field? "id"
  ordered : ∃ places codes, FirstUses diagnostics places codes ∧ List.Forall₂ Explains table codes

theorem existsUnique_idAt (member : diagnostic ∈ diagnostics) : ∃! number : Nat,
    (((rules diagnostics).map rule)[number]?).bind (Json.field? "id") = some (.string (nameOf diagnostic)) := by
  have known : nameOf diagnostic ∈ (rules diagnostics).map Code.text :=
    mem_names_rules.mpr (List.mem_map_of_mem member)
  obtain ⟨number, found⟩ := List.mem_iff_getElem?.mp known
  refine ⟨number, idAt_iff.mpr found, ?_⟩
  intro another same
  rw [idAt_iff, ← found] at same
  have within : number < ((rules diagnostics).map Code.text).length := (List.getElem?_eq_some_iff.mp found).1
  exact ((List.getElem?_inj within (nodup_names_rules diagnostics)).mp same.symm).symm

theorem consistent (diagnostics : List Diagnostic) :
    Consistent diagnostics (diagnostics.map result) ((rules diagnostics).map rule) := by
  constructor
  · rw [List.forall₂_map_right_iff, List.forall₂_same]
    intro diagnostic _
    exact describes_result diagnostic
  · apply List.pairwise_map.mpr
    apply (List.pairwise_map.mp (nodup_names_rules diagnostics)).imp
    intro first second different same
    rw [(explains_rule first).id, (explains_rule second).id, Option.some.injEq, Json.string.injEq] at same
    exact different same
  · intro told member
    obtain ⟨diagnostic, listed, rfl⟩ := List.mem_map.mp member
    exact ⟨_, (describes_result diagnostic).ruleId, existsUnique_idAt listed⟩
  · intro entry member
    obtain ⟨code, listed, rfl⟩ := List.mem_map.mp member
    obtain ⟨diagnostic, user, same⟩ := List.mem_map.mp (mem_names_rules.mp (List.mem_map_of_mem listed))
    refine ⟨result diagnostic, List.mem_map_of_mem user, ?_⟩
    rw [(describes_result diagnostic).ruleId, (explains_rule code).id, same]
  · obtain ⟨places, uses⟩ := exists_firstUses diagnostics
    refine ⟨places, rules diagnostics, uses, ?_⟩
    rw [List.forall₂_map_left_iff, List.forall₂_same]
    intro code _
    exact explains_rule code

/-- The only run in a log has these results, and a tool with this table of rules. -/
def Logs (log : Json) (results table : List Json) : Prop :=
  ∃ run, log.field? "runs" = some (.list [run]) ∧ run.field? "results" = some (.list results) ∧
    ((run.field? "tool").bind (Json.field? "driver")).bind (Json.field? "rules") = some (.list table)

theorem logs_log (diagnostics : List Diagnostic) (summary : Summary) :
    Logs (log diagnostics summary) (diagnostics.map result) ((rules diagnostics).map rule) :=
  ⟨_, rfl, rfl, rfl⟩

/-- A report is the text of a log with a result for each diagnostic, in their order, and every result refers to one entry
of the table of rules. The table has the names that are used, each where it comes first. -/
theorem log_refers_once (diagnostics : List Diagnostic) (summary : Summary) :
    sarif diagnostics summary = (log diagnostics summary).pretty ++ "\n" ∧ ∃ results table,
      Logs (log diagnostics summary) results table ∧ Consistent diagnostics results table :=
  ⟨rfl, _, _, logs_log diagnostics summary, consistent diagnostics⟩

/-- A check with the name of another kind takes the place of that kind in the table. -/
example : (rules [⟨.config "missing-symbol", .error, "", none, none, none, none⟩,
    ⟨.missingSymbol, .error, "", none, none, none, none⟩]).map Code.description = ["Configuration problem"] := by
  decide

end Linkage.Diagnostic.Sarif
