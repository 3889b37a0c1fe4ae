import Linkage.Proofs.Installation
import Linkage.Proofs.TextLines

/-! The list of ignored files after an installation. The missing entries become lines of their own behind the lines that
were there, whatever ended the list, so that nothing is missing in the new list and a further installation leaves it as
it is. -/

namespace Linkage.Starter
open Session
variable {session later : Session} {root ignored updated rest entry : String} {entries : List String}
  {template : Option String} {force : Bool} {result : Except Stop Unit}

/-- The lines of a list of ignored files, as they are compared with entries. -/
def listed (ignored : String) : List String :=
  (Text.trimmedLines ignored.toList).map String.ofList

theorem missingEntries_eq (ignored : String) : missingEntries ignored = privateEntries.filter (· ∉ listed ignored) := by
  have lines : (Text.lines ignored.toList).map (fun line => String.ofList (Text.trim line)) = listed ignored := by
    rw [listed, Text.trimmedLines, List.map_map]
    rfl
  rw [missingEntries, lines]
  refine List.filter_congr fun entry _ => ?_
  rw [List.contains_eq_mem, decide_not]

/-- An entry that is read again as it is written. -/
def FitsLine (entry : String) : Prop :=
  '\n' ∉ entry.toList ∧ Text.trim entry.toList = entry.toList

instance : Decidable (FitsLine entry) :=
  inferInstanceAs (Decidable (_ ∧ _))

theorem fitsLine_of_private : ∀ entry ∈ privateEntries, FitsLine entry := by
  decide

/-- The list up to where a further entry is written. -/
def finished (ignored : String) : String :=
  if ignored.isEmpty || ignored.endsWith "\n" then ignored else ignored ++ "\n"

theorem withEntries_eq (ignored : String) (entries : List String) :
    withEntries ignored entries = finished ignored ++ String.join (entries.map (· ++ "\n")) :=
  rfl

theorem closed_iff : Text.Closed ignored.toList ↔ (ignored.isEmpty || ignored.endsWith "\n") = true := by
  rw [Bool.or_eq_true, Text.endsWith_iff, Text.Closed, List.getLast?_eq_some_iff]
  refine or_congr (by simp) (exists_congr fun front => ?_)
  rw [eq_comm]
  rfl

theorem listed_append (closed : Text.Closed ignored.toList) : listed (ignored ++ rest) = listed ignored ++ listed rest := by
  rw [listed, String.toList_append, Text.trimmedLines_closed_append closed, List.map_append, listed, listed]

theorem closed_append_newline (text : String) : Text.Closed (text ++ "\n").toList := by
  right
  simp

theorem closed_finished (ignored : String) : Text.Closed (finished ignored).toList := by
  rw [finished]
  split
  next closed => exact closed_iff.mpr closed
  next => exact closed_append_newline ignored

theorem listed_finished (ignored : String) : listed (finished ignored) = listed ignored := by
  rw [finished]
  split
  next => rfl
  next unfinished =>
    rw [listed, String.toList_append, listed]
    exact congrArg _ (Text.trimmedLines_finished (mt closed_iff.mp unfinished))

theorem listed_line (fits : FitsLine entry) : listed (entry ++ "\n") = [entry] := by
  obtain ⟨whole, plain⟩ := fits
  have split : (entry ++ "\n").toList = entry.toList ++ '\n' :: [] := by simp
  rw [listed, split, Text.trimmedLines_append, Text.fields_of_not_mem whole, List.map_singleton, plain]
  simp [Text.trimmedLines, Text.lines, Text.fields]

theorem listed_lines (fit : ∀ entry ∈ entries, FitsLine entry) :
    listed (String.join (entries.map (· ++ "\n"))) = entries := by
  induction entries with
  | nil => rfl
  | cons entry others ih =>
    obtain ⟨fits, fit⟩ := List.forall_mem_cons.mp fit
    rw [List.map_cons, String.join_cons, listed_append (closed_append_newline entry), listed_line fits, ih fit]
    rfl

/-- Entries that are added are lines of their own behind all others. -/
theorem listed_withEntries (fit : ∀ entry ∈ entries, FitsLine entry) :
    listed (withEntries ignored entries) = listed ignored ++ entries := by
  rw [withEntries_eq, listed_append (closed_finished ignored), listed_finished, listed_lines fit]

/-- A list of ignored files with the private entries that it lacks. -/
def completed (ignored : String) : String :=
  if missingEntries ignored = [] then ignored else withEntries ignored (missingEntries ignored)

theorem listed_completed (ignored : String) : listed (completed ignored) = listed ignored ++ missingEntries ignored := by
  rw [completed]
  split
  next nothing => rw [nothing, List.append_nil]
  next =>
    refine listed_withEntries fun entry member => fitsLine_of_private entry ?_
    rw [missingEntries] at member
    exact (List.mem_filter.mp member).1

theorem mem_listed_completed (member : entry ∈ privateEntries) : entry ∈ listed (completed ignored) := by
  rw [listed_completed, List.mem_append, missingEntries_eq]
  by_cases there : entry ∈ listed ignored
  · exact .inl there
  · exact .inr (List.mem_filter.mpr ⟨member, by simpa using there⟩)

theorem missingEntries_completed (ignored : String) : missingEntries (completed ignored) = [] := by
  rw [missingEntries_eq, List.filter_eq_nil_iff]
  intro entry member
  simpa using mem_listed_completed member

theorem completed_completed (ignored : String) : completed (completed ignored) = completed ignored :=
  if_pos (missingEntries_completed ignored)

/-- A list that was only added to, and only what it lacked. -/
structure Extends (ignored updated : String) : Prop where
  start : ∃ added, updated = ignored ++ added
  entries : ∀ entry ∈ privateEntries, entry ∈ listed updated
  lines : ∀ line ∈ listed ignored, line ∈ listed updated
  listed_eq : listed updated = listed ignored ++ privateEntries.filter (· ∉ listed ignored)

theorem extends_completed (ignored : String) : Extends ignored (completed ignored) where
  start := by
    rw [completed]
    split
    · exact ⟨"", String.append_empty.symm⟩
    · rw [withEntries_eq, finished]
      split
      · exact ⟨_, rfl⟩
      · exact ⟨_, String.append_assoc⟩
  entries := fun _ member => mem_listed_completed member
  lines := by
    intro line member
    rw [listed_completed]
    exact List.mem_append_left _ member
  listed_eq := by rw [listed_completed, missingEntries_eq]

@[simp]
theorem files_concluding (session : Session) (name : String) : (concluding session name).files = session.files :=
  rfl

theorem read_completing (there : session.files.read (ignoredPath root) = .ok ignored) :
    (completing session root ignored).files.read (ignoredPath root) = .ok (completed ignored) := by
  rw [completing, completed]
  split
  · exact there
  · exact Files.read_put

/-- Only an installation that succeeds changes the list of ignored files. -/
theorem read_ignored_of_installs (installs : Installs session root template force result later)
    (there : session.files.read (ignoredPath root) = .ok ignored) :
    later.files.read (ignoredPath root) = .ok (if result = .ok () then completed ignored else ignored) := by
  have found := Files.contains_of_read there
  cases installs with
  | kept => exact there
  | unknown => exact there
  | unwritten => exact there
  | stranded strands =>
    rw [strands.unreadable] at there
    contradiction
  | unlisted admits known written absent =>
    rw [absent] at found
    contradiction
  | listed admits known written listed =>
    rw [listed] at there
    obtain rfl := Except.ok.inj there
    rw [files_concluding, if_pos rfl]
    refine read_completing ?_
    rw [Files.read_congr (configured_spec written).ignored found, listed]

theorem contains_ignored_of_installs (installs : Installs session root template force result later)
    (absent : session.files.contains (ignoredPath root) = false) :
    later.files.contains (ignoredPath root) = false := by
  cases installs with
  | kept => exact absent
  | unknown => exact absent
  | unwritten => exact absent
  | stranded strands => rwa [Files.contains, (configured_spec strands.written).ignored]
  | unlisted admits known written missing =>
    rwa [files_concluding, Files.contains, (configured_spec written).ignored]
  | listed admits known written listed =>
    rw [Files.contains_of_read listed] at absent
    contradiction

theorem absent_or_text_of_installs (installs : Installs session root template force (.ok ()) later) :
    session.files.contains (ignoredPath root) = false ∨ ∃ ignored, session.files.read (ignoredPath root) = .ok ignored := by
  cases installs with
  | unlisted admits known written absent => exact .inl absent
  | listed admits known written listed => exact .inr ⟨_, listed⟩

/-- A further update finds nothing to do. -/
theorem perform_updateIgnored_of_completed (session : Session)
    (there : session.files.read (ignoredPath root) = .ok (completed ignored)) :
    session.perform (updateIgnored root) = (.ok (), session) := by
  rw [perform_updateIgnored_of_text session there, completing, if_pos (missingEntries_completed ignored)]

/-- A successful installation adds to the list of ignored files what it lacks and nothing else, so that a further update
does nothing at all and no further installation changes the list, whatever becomes of it. It makes no new list. -/
theorem install_completes_ignored (installed : session.perform (install root template force) = (.ok (), later)) :
    (∀ ignored, session.files.read (ignoredPath root) = .ok ignored →
      ∃ updated, later.files.read (ignoredPath root) = .ok updated ∧ Extends ignored updated ∧
        ∀ again forced, (later.perform (install root again forced)).2.files.read (ignoredPath root) = .ok updated) ∧
    (session.files.contains (ignoredPath root) = false → later.files.contains (ignoredPath root) = false) ∧
    later.perform (updateIgnored root) = (.ok (), later) := by
  have installs := perform_install session root template force
  rw [installed] at installs
  refine ⟨?_, contains_ignored_of_installs installs, ?_⟩
  · intro ignored there
    have read := read_ignored_of_installs installs there
    rw [if_pos rfl] at read
    refine ⟨completed ignored, read, extends_completed ignored, fun again forced => ?_⟩
    rw [read_ignored_of_installs (perform_install later root again forced) read, completed_completed, ite_self]
  · rcases absent_or_text_of_installs installs with absent | ⟨ignored, there⟩
    · exact perform_updateIgnored_of_absent later (contains_ignored_of_installs installs absent)
    · exact perform_updateIgnored_of_completed later (read_ignored_of_installs installs there)

section
/-- One of the private entries is there, with white space around it, and the last line has no line feed. -/
private def spacedList : String :=
  "target\r\n\t.muzzle/cache/ \r"

/-- The new entry is behind a line feed, which takes the carriage return along. -/
private def updatedList : String :=
  "target\r\n\t.muzzle/cache/ \r\n.muzzle/config.local.yml\n"

private def spacedSession : Session :=
  { files := { entries := [(["p", ".muzzle", "config.yml"], .text "name: mine\n"), (["p", ".gitignore"], .text spacedList)] } }

theorem install_completes_ignored_spaced : ∃ later,
    spacedSession.perform (install "/p" (some "aws-lambda-events") true) = (.ok (), later) ∧
    spacedSession.files.read (ignoredPath "/p") = .ok spacedList ∧
    later.files.read (ignoredPath "/p") = .ok updatedList ∧ Extends spacedList updatedList ∧
    later.perform (updateIgnored "/p") = (.ok (), later) := by
  have spaced : spacedSession.files.read (ignoredPath "/p") = .ok spacedList := by decide +kernel
  have there : spacedSession.files.makeDirectory (Path.join "/p" Config.directory) = .ok spacedSession.files := by
    decide +kernel
  have mine : spacedSession.files.read (Config.sharedPath "/p") = .ok "name: mine\n" := by decide +kernel
  obtain ⟨content, known⟩ : ∃ content, text ((some "aws-lambda-events").getD defaultName) = .ok content := ⟨_, rfl⟩
  obtain ⟨after, written⟩ : ∃ after, configured spacedSession.files "/p" content = .ok after := by
    refine ⟨spacedSession.files.put (spacedSession.files.place (Config.sharedPath "/p")) (.text content), ?_⟩
    rw [configured, there, ← Files.write_of_read mine]
    rfl
  have kept : after.read (ignoredPath "/p") = .ok spacedList := by
    rw [Files.read_congr (configured_spec written).ignored (Files.contains_of_read spaced), spaced]
  have admits : Admits spacedSession.files "/p" true := .inr rfl
  have installed := perform_install_of_known admits known
  rw [written] at installed
  dsimp only at installed
  rw [perform_updateIgnored_of_text { spacedSession with files := after } kept] at installed
  obtain ⟨update, -, again⟩ := install_completes_ignored installed
  obtain ⟨updated, read, added, -⟩ := update spacedList spaced
  have completes : completed spacedList = updatedList := by decide +kernel
  have same : updated = updatedList := by
    refine Except.ok.inj (read.symm.trans ?_)
    rw [files_concluding, ← completes]
    exact read_completing kept
  rw [same] at read added
  exact ⟨_, installed, spaced, read, added, again⟩

end

end Linkage.Starter
