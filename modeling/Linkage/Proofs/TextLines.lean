import Linkage.Proofs.TextCutting

/-! The lines of texts that are written one behind the other. A text that is empty or ends with a line feed keeps its lines
whatever follows, and ending the last line of another text changes no line. All this is up to the white space around
lines, since a carriage return at the end of a text joins the line feed that is written behind it. -/

namespace Linkage.Text
variable {text front rest line : List Char} {separator : Char}

/-- A line as it ends with a line feed. -/
def ended (line : List Char) : List Char :=
  if line.getLast? = some '\r' then line.dropLast else line

/-- The lines of a text without the white space around each. -/
def trimmedLines (text : List Char) : List (List Char) :=
  (lines text).map trim

theorem trim_ended (line : List Char) : trim (ended line) = trim line := by
  unfold ended
  split
  next returns =>
    obtain ⟨front, rfl⟩ := List.getLast?_eq_some_iff.mp returns
    rw [List.dropLast_concat, trim_append_end]
    simp [AllBlank, isBlank]
  next => rfl

private theorem map_trim_ended (parts : List (List Char)) : (parts.map ended).map trim = parts.map trim := by
  rw [List.map_map]
  exact List.map_congr_left fun line _ => trim_ended line

/-- What is behind the last line feed is a line unless it is empty. -/
theorem lines_of_fields {fronts : List (List Char)} (split : fields '\n' text = fronts ++ [line]) :
    lines text = fronts.map ended ++ if line = [] then [] else [line] := by
  rw [lines]
  simp only [split, List.dropLast_concat, List.getLast?_concat]
  cases line with
  | nil => simp [ended]
  | cons c others => simp [ended]

private theorem exists_fields_concat (separator : Char) (text : List Char) :
    ∃ fronts line, fields separator text = fronts ++ [line] :=
  ⟨_, _, (List.dropLast_concat_getLast (fields_ne_nil separator text)).symm⟩

theorem fields_append_front (single : separator ∉ front) (rest : List Char) :
    ∃ first others, fields separator (front ++ rest) = (front ++ first) :: others := by
  induction front with
  | nil => exact List.exists_cons_of_ne_nil (fields_ne_nil separator rest)
  | cons c front ih =>
    obtain ⟨different, single⟩ := not_or.mp (mt List.mem_cons.mpr single)
    obtain ⟨first, others, split⟩ := ih single
    obtain ⟨line, lines, found, joined⟩ := fields_cons (front ++ rest) (Ne.symm different)
    rw [split] at found
    obtain ⟨rfl, rfl⟩ := List.cons.inj found
    exact ⟨first, others, joined⟩

theorem lines_append (front rest : List Char) :
    lines (front ++ '\n' :: rest) = (fields '\n' front).map ended ++ lines rest := by
  obtain ⟨fronts, line, split⟩ := exists_fields_concat '\n' rest
  have whole : fields '\n' (front ++ '\n' :: rest) = (fields '\n' front ++ fronts) ++ [line] := by
    rw [fields_append_fields, split, List.append_assoc]
  rw [lines_of_fields whole, lines_of_fields split, List.map_append, List.append_assoc]

theorem lines_finished (text : List Char) : lines (text ++ ['\n']) = (fields '\n' text).map ended := by
  have nothing : lines [] = [] := rfl
  rw [lines_append, nothing, List.append_nil]

theorem prefix_ended (starts : front <+: line) (stays : front.getLast? ≠ some '\r') : front <+: ended line := by
  obtain ⟨rest, rfl⟩ := starts
  unfold ended
  split
  next returns =>
    cases rest with
    | nil => exact absurd (by simpa using returns) stays
    | cons c rest =>
      rw [List.dropLast_append_of_ne_nil (List.cons_ne_nil c rest)]
      exact List.prefix_append _ _
  next => exact List.prefix_append _ _

/-- What has no line feed stands in the first line. -/
theorem exists_lines_append (single : '\n' ∉ front) (stays : front.getLast? ≠ some '\r') (rest : List Char) :
    ∃ first others, lines (front ++ rest ++ ['\n']) = first :: others ∧ front <+: first := by
  obtain ⟨first, others, split⟩ := fields_append_front single rest
  refine ⟨ended (front ++ first), others.map ended, ?_, prefix_ended (List.prefix_append _ _) stays⟩
  rw [lines_finished, split, List.map_cons]

theorem trimmedLines_append (front rest : List Char) :
    trimmedLines (front ++ '\n' :: rest) = (fields '\n' front).map trim ++ trimmedLines rest := by
  rw [trimmedLines, lines_append, List.map_append, map_trim_ended, trimmedLines]

/-- The last field is empty only if nothing follows the last separator. -/
theorem of_getLast?_fields (empty : (fields separator text).getLast? = some []) :
    text = [] ∨ text.getLast? = some separator := by
  induction text with
  | nil => exact .inl rfl
  | cons c rest ih =>
    right
    by_cases same : c = separator
    · rw [fields, if_pos same, List.getLast?_cons_of_ne_nil (fields_ne_nil separator rest)] at empty
      rcases ih empty with rfl | ends
      · rw [same]
        rfl
      · rw [List.getLast?_cons, ends]
        rfl
    · obtain ⟨first, others, split, joined⟩ := fields_cons rest same
      rw [joined] at empty
      rw [split] at ih
      cases others with
      | nil => simp at empty
      | cons next others =>
        rw [List.getLast?_cons_cons] at empty ih
        rcases ih empty with rfl | ends
        · simp [fields] at split
        · rw [List.getLast?_cons, ends]
          rfl

/-- A text that goes on where it ends would go on with a new line. -/
def Closed (text : List Char) : Prop :=
  text = [] ∨ text.getLast? = some '\n'

theorem trimmedLines_closed_append (closed : Closed text) (rest : List Char) :
    trimmedLines (text ++ rest) = trimmedLines text ++ trimmedLines rest := by
  rcases closed with rfl | ends
  · rfl
  · obtain ⟨front, rfl⟩ := List.getLast?_eq_some_iff.mp ends
    have nothing : trimmedLines [] = [] := rfl
    rw [List.append_assoc, List.singleton_append, trimmedLines_append, trimmedLines_append, nothing, List.append_nil]

theorem trimmedLines_of_open (unfinished : ¬ Closed text) : trimmedLines text = (fields '\n' text).map trim := by
  obtain ⟨fronts, line, split⟩ := exists_fields_concat '\n' text
  have filled : line ≠ [] := by
    rintro rfl
    have empty : (fields '\n' text).getLast? = some [] := by rw [split, List.getLast?_concat]
    exact unfinished (of_getLast?_fields empty)
  rw [trimmedLines, lines_of_fields split, if_neg filled, split, List.map_append, map_trim_ended, List.map_append]

theorem trimmedLines_finished (unfinished : ¬ Closed text) : trimmedLines (text ++ ['\n']) = trimmedLines text := by
  have nothing : trimmedLines [] = [] := rfl
  rw [trimmedLines_append, nothing, List.append_nil, trimmedLines_of_open unfinished]

end Linkage.Text
