import Linkage.Config.Display
import Linkage.Proofs.FindingPlaces
import Linkage.Proofs.ListedNumbers
import Linkage.Proofs.SeparatedTexts

/-! What the check of a configuration tells. The errors are put together into the reason of one refusal, and this is
taken apart again. An error that quotes a text with the separator within comes apart with it, so it is told in several
pieces. All others are told as they are. -/

namespace Linkage.Config
open Session
variable {config : Config} {text problem : String} {texts : List String}

/-- A text that a reason cannot take for several problems. -/
def Unbroken (text : String) : Prop :=
  ¬ "; ".toList <:+: text.toList

private theorem separator_ne_nil : "; ".toList ≠ [] :=
  List.cons_ne_nil _ _

theorem unbroken_of_mem_problems (member : problem ∈ problems text) : Unbroken problem := by
  obtain ⟨part, between, rfl⟩ := List.mem_map.mp member
  have whole := Text.not_infix_of_mem_fieldsBetween separator_ne_nil between
  simpa [Unbroken] using whole

theorem problems_of_unbroken (whole : Unbroken text) : problems text = [text] := by
  rw [problems, Text.fieldsBetween_of_not_infix whole, List.map_singleton, String.ofList_toList]

theorem join_problems (text : String) : Text.join "; " (problems text) = text := by
  apply String.toList_injective
  have parts : (problems text).map String.toList = Text.fieldsBetween "; ".toList 0 text.toList := by
    simp [problems, Function.comp_def]
  rw [Text.toList_join, parts, Text.intercalate_fieldsBetween separator_ne_nil]

theorem problems_append (text rest : String) : problems (text ++ "; " ++ rest) = problems text ++ problems rest := by
  have parts := Text.fieldsBetween_append (a := ';') (b := ' ') (by decide) text.toList rest.toList
  rw [problems, String.toList_append, String.toList_append, problems, problems, ← List.map_append]
  exact congrArg (List.map String.ofList) parts

theorem problems_join (some : texts ≠ []) : problems (Text.join "; " texts) = texts.flatMap problems := by
  induction texts with
  | nil => exact absurd rfl some
  | cons text rest ih =>
    cases rest with
    | nil => simp [Text.join]
    | cons next rest =>
      rw [Text.join_cons_cons, problems_append, ih (List.cons_ne_nil next rest)]
      rfl

theorem flatMap_problems_eq_self_iff : texts.flatMap problems = texts ↔ ∀ text ∈ texts, Unbroken text := by
  constructor
  · intro same text member
    rw [← same] at member
    obtain ⟨whole, -, inside⟩ := List.mem_flatMap.mp member
    exact unbroken_of_mem_problems inside
  · intro unbroken
    rw [List.flatMap_congr fun text member => problems_of_unbroken (unbroken text member), List.flatMap_singleton']

/-- The findings that refuse the configuration. -/
def errors (config : Config) : List Finding :=
  config.findings.filter (·.isError)

/-- What a check tells about them. -/
def errorLines (config : Config) : List String :=
  config.errors.flatMap fun finding => problems finding.text

theorem validate_of_no_errors (none : config.errors = []) : config.validate = .ok () := by
  rw [errors] at none
  rw [validate, none]
  rfl

theorem validate_of_errors (some : config.errors ≠ []) :
    config.validate = .error (.configInvalid (Text.join "; " (config.errors.map (·.text)))) := by
  rw [validate]
  split
  next none => exact absurd none some
  next => rfl

theorem errorLines_eq_iff : config.errorLines = config.errors.map (·.text) ↔
    ∀ finding ∈ config.errors, Unbroken finding.text := by
  have lines : config.errorLines = (config.errors.map (·.text)).flatMap problems :=
    (List.flatMap_map ..).symm
  rw [lines, flatMap_problems_eq_self_iff, List.forall_mem_map]

variable {session later : Session}

theorem perform_check_of_no_errors (none : config.errors = []) :
    session.perform config.check = (.ok (), session.telling .success ["Configuration is valid"]) := by
  rw [check, validate_of_no_errors none, perform_tell]

theorem perform_check_of_errors (some : config.errors ≠ []) :
    session.perform config.check = (.error (.exit 1), session.telling .error config.errorLines) := by
  have texts : config.errors.map (·.text) ≠ [] := mt List.map_eq_nil_iff.mp some
  rw [check, validate_of_errors some]
  dsimp only
  rw [problems_join texts, List.flatMap_map, perform_bind_of_ok (perform_tellAll _), perform_stop]
  rfl

variable {project : Project}

/-- The check of a configuration that loads tells its errors in turn, each with its place in front, and each falls apart
where a semicolon stands before a space. There is one line for each error just if none has these within. -/
theorem check_tells_errors (loaded : session.perform project.load = (.ok config, later)) :
    (∀ asJson, session.perform (display project asJson true) =
      if config.errors = [] then (.ok (), later.telling .success ["Configuration is valid"])
      else (.error (.exit 1), later.telling .error config.errorLines)) ∧
    (config.errorLines = config.errors.map (·.text) ↔ ∀ finding ∈ config.errors, Unbroken finding.text) ∧
    (∀ finding ∈ config.errors, ∃ location, finding.location = some location ∧
      finding.text = location ++ ": " ++ finding.message) ∧
    ∀ text, Text.join "; " (problems text) = text ∧ ∀ problem ∈ problems text, Unbroken problem := by
  refine ⟨?_, errorLines_eq_iff, ?_, ?_⟩
  · intro asJson
    rw [display, perform_bind_of_ok loaded, if_pos rfl]
    split
    next none => exact perform_check_of_no_errors none
    next some => exact perform_check_of_errors some
  · intro finding member
    exact text_of_mem_findings (List.mem_of_mem_filter member)
  · intro text
    exact ⟨join_problems text, fun problem => unbroken_of_mem_problems⟩

section
private def checkedProject : Project := { root := "/p" }

private def checkedSession (text : String) : Session :=
  { files := { entries := [(["p", ".muzzle", "config.yml"], .text text)] } }

/-- A rule that is about a library and excludes it, with versions that cannot be read. -/
private def refusedText : String :=
  "rules: [\x7bgroup: g, module: a, versions: \"[2,1]\", excluded_dependencies: [g:a]\x7d]"

private def refusedConfig : Config :=
  { rules := [{ group := "g", module := "a", versions := "[2,1]", excludedDependencies := ["g:a"] }] }

private theorem refused_loaded : (checkedSession refusedText).perform checkedProject.load =
    (.ok refusedConfig, checkedSession refusedText) := by
  decide +kernel

theorem check_tells_errors_refused :
    (checkedSession refusedText).perform checkedProject.load = (.ok refusedConfig, checkedSession refusedText) ∧
      (checkedSession refusedText).perform (display checkedProject false true) =
        (.error (.exit 1), (checkedSession refusedText).telling .error
          ["rules[0]: Rule for 'g:a' excludes its own module",
            "rules[0]: Malformed version range '[2,1]': bounds are inverted"]) := by
  obtain ⟨told, -⟩ := check_tells_errors refused_loaded
  refine ⟨refused_loaded, (told false).trans ?_⟩
  decide +kernel

/-- A rule whose versions hold a semicolon and a space. -/
private def quotedText : String :=
  "rules: [\x7bgroup: g, module: a, versions: \"1; 2\"\x7d]"

private def quotedConfig : Config :=
  { rules := [{ group := "g", module := "a", versions := "1; 2" }] }

/-- The only error quotes the versions twice, so the check tells it in three lines. A verification tells it in one. -/
theorem quoted_separator_breaks_error :
    (checkedSession quotedText).perform checkedProject.load = (.ok quotedConfig, checkedSession quotedText) ∧
      quotedConfig.errors.map (·.text) =
        ["rules[0]: Malformed version range '1; 2': bad bound '1; 2': version contains whitespace"] ∧
      (checkedSession quotedText).perform (display checkedProject false true) =
        (.error (.exit 1), (checkedSession quotedText).telling .error
          ["rules[0]: Malformed version range '1", "2': bad bound '1", "2': version contains whitespace"]) ∧
      (checkedSession quotedText).perform (checkedProject.loadValid false) =
        (.error (.exit 1), (checkedSession quotedText).telling .error
          ["rules[0] [malformed-range]: Malformed version range '1; 2': bad bound '1; 2': version contains whitespace"])
      := by
  decide +kernel

end

end Linkage.Config
