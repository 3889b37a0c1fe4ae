import Linkage.Verification
import Linkage.Proofs.ReportCounts
import Linkage.Proofs.RuleTables
import Linkage.Proofs.TextLines
import Linkage.Proofs.TextSplitting

/-! What is told of a report. Programs get one value, which holds the diagnostics and their counts, or a log with a result
for each diagnostic. For people the report is told line by line: each error begins a line that is told as an error, and
the last line counts them. -/

namespace Linkage

/-- The closing brace is the last character, so that trimming takes just the line feed away. -/
theorem Json.trimEnd_pretty (fields : List (String × Json)) :
    String.ofList (Text.trimEnd ((object fields).pretty ++ "\n").toList) = (object fields).pretty := by
  obtain ⟨front, whole⟩ : ∃ front, (object fields).pretty = front ++ "\x7d" := by
    cases fields with
    | nil => exact ⟨"\x7b", rfl⟩
    | cons field fields =>
      apply Exists.intro
      rw [pretty, prettyAt]
      exact nofun
  have closes : ∀ c ∈ (front ++ "\x7d").toList.getLast?, Text.isBlank c = false := by
    have last : (front ++ "\x7d").toList.getLast? = some '\x7d' := by simp
    rw [last]
    rintro c ⟨⟩
    decide
  have ended : (front ++ "\x7d" ++ "\n").toList = (front ++ "\x7d").toList ++ ['\n'] := String.toList_append
  rw [whole, ended, Text.trimEnd_append (by decide), Text.trimEnd_eq_self closes, String.ofList_toList]

namespace Verification
variable {diagnostics : List Diagnostic} {summary : Summary} {mode : OutputMode} {texts : List String}

/-- The lines of a text as they are told. -/
def lineNotices (mode : OutputMode) (text : String) : List (OutputMode × Notice) :=
  ((Text.lines text.toList).map String.ofList).map fun line => (mode, ⟨lineKind line, line⟩)

theorem lineNotices_join (texts : List String) :
    lineNotices mode (String.join (texts.map (· ++ "\n"))) = texts.flatMap fun text => lineNotices mode (text ++ "\n") := by
  induction texts with
  | nil => rfl
  | cons text rest ih =>
    have split : (String.join ((text :: rest).map (· ++ "\n"))).toList =
        text.toList ++ '\n' :: (String.join (rest.map (· ++ "\n"))).toList := by
      simp
    have single : (text ++ "\n").toList = text.toList ++ ['\n'] := String.toList_append
    rw [List.flatMap_cons, ← ih, lineNotices, split, Text.lines_append, lineNotices, single, Text.lines_finished,
      lineNotices, ← List.map_append, ← List.map_append]

theorem infix_lineNotices_join (mode : OutputMode) {text : String} (member : text ∈ texts) :
    lineNotices mode (text ++ "\n") <:+: lineNotices mode (String.join (texts.map (· ++ "\n"))) := by
  obtain ⟨before, after, rfl⟩ := List.append_of_mem member
  rw [lineNotices_join, List.flatMap_append, List.flatMap_cons]
  exact List.infix_append' _ _ _

/-- The line that a diagnostic begins with; a message with line feeds goes on in others. -/
def heading (diagnostic : Diagnostic) : String :=
  diagnostic.severity.word ++ "[" ++ diagnostic.code.text ++ "]: " ++ diagnostic.message

theorem lineKind_error {line : List Char} (starts : "error".toList <+: line) : lineKind (.ofList line) = .error := by
  rw [lineKind, if_pos]
  simpa [String.startsWith_string_iff] using starts

theorem lineNotices_heading (mode : OutputMode) (diagnostic : Diagnostic) (severe : diagnostic.severity = .error) :
    ∃ line others, lineNotices mode (heading diagnostic ++ "\n") = (mode, ⟨.error, line⟩) :: others := by
  have single : '\n' ∉ "error".toList := by decide +kernel
  have stays : "error".toList.getLast? ≠ some '\r' := by decide +kernel
  obtain ⟨first, others, split, starts⟩ := Text.exists_lines_append single stays
    ("[" ++ diagnostic.code.text ++ "]: " ++ diagnostic.message).toList
  have whole : (heading diagnostic ++ "\n").toList =
      "error".toList ++ ("[" ++ diagnostic.code.text ++ "]: " ++ diagnostic.message).toList ++ ['\n'] := by
    rw [heading, severe]
    simp [Severity.word]
  refine ⟨.ofList first, (others.map String.ofList).map fun line => (mode, ⟨lineKind line, line⟩), ?_⟩
  rw [lineNotices, whole, split, List.map_cons, List.map_cons, lineKind_error starts]

/-- The line that counts the problems. -/
def counting (diagnostics : List Diagnostic) : String :=
  "Found " ++ toString (Diagnostic.count .error diagnostics) ++ " error(s) and " ++
    toString (Diagnostic.count .warning diagnostics) ++ " warning(s)"

theorem lineNotices_counting (diagnostics : List Diagnostic) :
    lineNotices mode (counting diagnostics ++ "\n") = [(mode, ⟨.message, counting diagnostics⟩)] := by
  have single : '\n' ∉ (counting diagnostics).toList := by
    simp only [counting, String.toList_append, List.mem_append, Text.not_mem_number (c := '\n') rfl, or_false]
    decide +kernel
  have kind : lineKind (counting diagnostics) = .message := by
    simp [lineKind, String.startsWith_string_iff, counting]
  have ended : Text.ended (counting diagnostics).toList = (counting diagnostics).toList := by
    have last : " warning(s)".toList.getLast? = some ')' := by decide +kernel
    rw [Text.ended, if_neg]
    rw [counting, String.toList_append, List.getLast?_append, last, Option.some_or]
    decide
  have whole : (counting diagnostics ++ "\n").toList = (counting diagnostics).toList ++ ['\n'] := String.toList_append
  rw [lineNotices, whole, Text.lines_finished, Text.fields_of_not_mem single, List.map_singleton, ended,
    List.map_singleton, List.map_singleton, String.ofList_toList, kind]

def reportNotices (format : ReportFormat) (verdicts : List Verdict) (summary : Summary) (mode : OutputMode) :
    List (OutputMode × Notice) :=
  let text := format.render (Diagnostic.ofVerdicts verdicts) summary false mode.showsHints
  if format = .human then lineNotices mode text
  else [(mode, ⟨.message, .ofList (Text.trimEnd text.toList)⟩)]

/-- What is told of diagnostics and a summary in each format. -/
inductive Shows (diagnostics : List Diagnostic) (summary : Summary) (mode : OutputMode) :
    ReportFormat → List (OutputMode × Notice) → Prop where
  | human {told : List (OutputMode × Notice)}
    (errors : ∀ diagnostic ∈ diagnostics, diagnostic.severity = .error → ∃ line others,
      lineNotices mode (heading diagnostic ++ "\n") = (mode, ⟨.error, line⟩) :: others ∧
      (mode, ⟨.error, line⟩) :: others <:+: told)
    (counted : 0 < Diagnostic.count .error diagnostics → (mode, ⟨.message, counting diagnostics⟩) ∈ told) :
    Shows diagnostics summary mode .human told
  | json {report : Json} (listed : report.field? "diagnostics" = some (.list (diagnostics.map Diagnostic.toJson)))
    (counted : report.field? "summary" = some (Diagnostic.summaryJson diagnostics summary)) :
    Shows diagnostics summary mode .json [(mode, ⟨.message, report.pretty⟩)]
  | sarif {results table : List Json}
    (logged : Diagnostic.Sarif.Logs (Diagnostic.Sarif.log diagnostics summary) results table)
    (levels : List.Forall₂ (fun diagnostic result =>
      result.field? "level" = some (.string (Diagnostic.Sarif.level diagnostic.severity))) diagnostics results) :
    Shows diagnostics summary mode .sarif [(mode, ⟨.message, (Diagnostic.Sarif.log diagnostics summary).pretty⟩)]

theorem shows_human (diagnostics : List Diagnostic) (summary : Summary) (hints : Bool) :
    Shows diagnostics summary mode .human (lineNotices mode (Diagnostic.human diagnostics summary false hints)) := by
  unfold Diagnostic.human
  refine .human (fun diagnostic member severe => ?_) fun some => ?_
  · obtain ⟨line, others, begins⟩ := lineNotices_heading mode diagnostic severe
    refine ⟨line, others, begins, ?_⟩
    rw [← begins]
    apply infix_lineNotices_join
    apply List.mem_append_left
    -- Hints may be left out, errors never.
    exact List.mem_flatMap_of_mem (by simp [member, severe]) List.mem_cons_self
  · have problems : ¬ (Diagnostic.count .error diagnostics = 0 && Diagnostic.count .warning diagnostics = 0) = true := by
      simp [Nat.ne_of_gt some]
    have last : counting diagnostics ∈ Diagnostic.summaryLines summary (Diagnostic.count .error diagnostics)
        (Diagnostic.count .warning diagnostics) := by
      rw [Diagnostic.summaryLines, if_neg problems]
      exact List.mem_append_right _ List.mem_cons_self
    refine List.IsInfix.subset ?_ (List.mem_singleton_self _)
    rw [← lineNotices_counting]
    exact infix_lineNotices_join mode (List.mem_append_right _ last)

theorem shows_reportNotices (format : ReportFormat) (verdicts : List Verdict) (summary : Summary) (mode : OutputMode) :
    Shows (Diagnostic.ofVerdicts verdicts) summary mode format (reportNotices format verdicts summary mode) := by
  cases format with
  | human => exact shows_human _ _ _
  | json =>
    have told : reportNotices .json verdicts summary mode = [(mode, ⟨.message, _⟩)] :=
      congrArg (fun text => [(mode, (⟨.message, text⟩ : Notice))]) (Json.trimEnd_pretty _)
    rw [told]
    exact .json rfl rfl
  | sarif =>
    have told : reportNotices .sarif verdicts summary mode =
        [(mode, ⟨.message, (Diagnostic.Sarif.log (Diagnostic.ofVerdicts verdicts) summary).pretty⟩)] :=
      congrArg (fun text => [(mode, (⟨.message, text⟩ : Notice))]) (Json.trimEnd_pretty _)
    rw [told]
    refine .sarif (Diagnostic.Sarif.logs_log _ summary) ?_
    rw [List.forall₂_map_right_iff, List.forall₂_same]
    exact fun _ _ => rfl

end Verification
end Linkage
