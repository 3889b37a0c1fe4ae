import Linkage.Starter.Installation
import Linkage.Proofs.Acceptance
import Linkage.Proofs.FileChanges
import Linkage.Proofs.SessionRuns

/-! Giving a project its first configuration. An installation that stops has changed nothing, with one exception: the
configuration is written before the list of ignored files is looked at, so it stays behind when this list is there and is
no text. -/

namespace Linkage.Starter
open Session
variable {session later : Session} {root ignored content : String} {template : Option String} {force : Bool}
  {files after : Files} {failure : AccessFailure} {error : Error}

/-- Where the list of ignored files of a project is. -/
def ignoredPath (root : String) : String :=
  Path.join root ".gitignore"

/-- The session after the list of ignored files was completed. -/
def completing (session : Session) (root ignored : String) : Session :=
  if missingEntries ignored = [] then session
  else
    let path := session.files.place (ignoredPath root)
    { session with files := session.files.put path (.text (withEntries ignored (missingEntries ignored))) }.telling .message
      ["Added " ++ Text.join ", " (missingEntries ignored) ++ " to .gitignore"]

theorem perform_updateIgnored_of_absent (session : Session)
    (absent : session.files.contains (ignoredPath root) = false) :
    session.perform (updateIgnored root) = (.ok (), session) := by
  rw [updateIgnored, perform_bind_of_ok perform_get, ← ignoredPath]
  dsimp only
  rw [absent, if_neg Bool.false_ne_true, perform_pure]

theorem perform_updateIgnored_of_unreadable (session : Session) (there : session.files.contains (ignoredPath root))
    (unreadable : session.files.read (ignoredPath root) = .error failure) :
    session.perform (updateIgnored root) = (.error (.failure (.inputOutput failure.reason)), session) := by
  rw [updateIgnored, perform_bind_of_ok perform_get, ← ignoredPath]
  dsimp only
  rw [if_pos there, unreadable, perform_bind]
  rfl

theorem perform_updateIgnored_of_text (session : Session)
    (listed : session.files.read (ignoredPath root) = .ok ignored) :
    session.perform (updateIgnored root) = (.ok (), completing session root ignored) := by
  rw [updateIgnored, perform_bind_of_ok perform_get, ← ignoredPath]
  dsimp only
  rw [if_pos (Files.contains_of_read listed), listed]
  dsimp only [Except.mapError]
  rw [perform_bind_of_ok (perform_require_ok ignored), completing]
  by_cases complete : missingEntries ignored = []
  · rw [complete, if_pos rfl]
    rfl
  · have lacking : (!(missingEntries ignored).isEmpty) = true := by simpa using complete
    rw [if_pos lacking, if_neg complete, Files.write_of_read listed, perform_bind_of_ok (perform_change_ok _), perform_tell]

/-- The files with a starter as configuration. -/
def configured (files : Files) (root content : String) : Except AccessFailure Files := do
  let made ← files.makeDirectory (Path.join root Config.directory)
  made.write (Config.sharedPath root) content

/-- What stands in the way of a configuration that could be written at first: nothing, or another one without force. -/
def Admits (files : Files) (root : String) (force : Bool) : Prop :=
  files.contains (Config.sharedPath root) = false ∨ force = true

/-- The session at the end of an installation. -/
def concluding (session : Session) (name : String) : Session :=
  (session.telling .success ["Created .muzzle/config.yml from template '" ++ name ++ "'"]).telling .message nextSteps

theorem perform_install_of_kept (there : session.files.contains (Config.sharedPath root)) :
    session.perform (install root template false) =
      (.error (.exit 1), session.telling .warning ["Configuration already exists. Use --force to overwrite."]) := by
  rw [install]
  dsimp only
  have asked : (session.files.contains (Config.sharedPath root) && !false) = true := by simpa using there
  rw [perform_bind_of_ok perform_get, if_pos asked, perform_bind_of_ok (perform_tell _ _), perform_stop_bind]

/-- Past the first question. -/
private theorem not_kept (admits : Admits files root force) :
    ¬ (files.contains (Config.sharedPath root) && !force) = true := by
  rcases admits with absent | rfl
  · simp [absent]
  · simp

theorem perform_install_of_unknown (admits : Admits session.files root force)
    (unknown : text (template.getD defaultName) = .error error) :
    session.perform (install root template force) = (.error (.exit 1), session.telling .error [error.message]) := by
  rw [install]
  dsimp only
  rw [perform_bind_of_ok perform_get, if_neg (not_kept admits), unknown]
  dsimp only
  rw [perform_bind_of_ok (perform_tell _ _), perform_stop]

/-- The configuration is written before the list of ignored files is completed. When it cannot be written, no directory
was made for it. -/
theorem perform_install_of_known (admits : Admits session.files root force)
    (known : text (template.getD defaultName) = .ok content) :
    session.perform (install root template force) = match configured session.files root content with
      | .error failure => (.error (.failure (.inputOutput failure.reason)), session)
      | .ok files => match { session with files }.perform (updateIgnored root) with
        | (.ok _, later) => (.ok (), concluding later (template.getD defaultName))
        | (.error stop, later) => (.error stop, later) := by
  rw [install, configured]
  dsimp only
  rw [perform_bind_of_ok perform_get, if_neg (not_kept admits), known]
  dsimp only
  rw [perform_bind_of_ok perform_get]
  cases making : session.files.makeDirectory (Path.join root Config.directory) with
  | error failure => rfl
  | ok made =>
    rw [perform_bind_of_ok (perform_change_ok made), perform_bind_of_ok perform_get]
    have second : (Except.ok made >>= fun made : Files => made.write (Config.sharedPath root) content) =
        made.write (Config.sharedPath root) content := rfl
    rw [second]
    dsimp only
    cases writing : made.write (Config.sharedPath root) content with
    | error failure =>
      have here : session.files.place (Config.sharedPath root) =
          session.files.place (Path.join root Config.directory) ++ ["config.yml"] := Files.place_join (by decide)
      obtain rfl := Files.eq_of_write_below_error making here writing
      rfl
    | ok files =>
      rw [perform_bind_of_ok (perform_change_ok files), perform_bind]
      dsimp only
      cases updating : { session with files }.perform (updateIgnored root) with
      | mk result later =>
        cases result with
        | error stop => rfl
        | ok value =>
          dsimp only
          rw [perform_bind_of_ok (perform_tell _ _), perform_tellAll, concluding]

theorem place_ignoredPath (files : Files) (root : String) :
    files.place (ignoredPath root) = files.place root ++ [".gitignore"] :=
  Files.place_join (by decide)

theorem place_directory (files : Files) (root : String) :
    files.place (Path.join root Config.directory) = files.place root ++ [".muzzle"] :=
  Files.place_join (by decide)

theorem place_sharedPath (files : Files) (root : String) :
    files.place (Config.sharedPath root) = files.place root ++ [".muzzle", "config.yml"] := by
  rw [Config.sharedPath, Files.place_join (by decide), place_directory, List.append_assoc]
  rfl

/-- What differs when a configuration was written. -/
structure Configured (files : Files) (root content : String) (later : Files) : Prop where
  place_eq : ∀ path, later.place path = files.place path
  shared : later.read (Config.sharedPath root) = .ok content
  others : ∀ place, place ≠ files.place (Config.sharedPath root) → later.file? place = files.file? place
  ignored : later.entry? (ignoredPath root) = files.entry? (ignoredPath root)

theorem configured_spec (written : configured files root content = .ok after) :
    Configured files root content after := by
  obtain ⟨made, making, writing⟩ := Acceptance.bind_eq_ok_iff.mp written
  obtain ⟨free, -, made⟩ := Files.made_of_makeDirectory making
  obtain rfl := Files.eq_of_write writing
  have aside (names : List String) (other : ¬ [".gitignore"] <+: names) :
      ¬ files.place (ignoredPath root) <+: files.place root ++ names := by
    rwa [place_ignoredPath, List.prefix_append_right_inj]
  refine ⟨made.place_eq, Files.read_put, ?_, ?_⟩
  · intro place different
    rw [made.place_eq, Files.file?_put_of_ne different, made.file?_eq free]
  · have apart := aside [".muzzle", "config.yml"] (by decide)
    have beside := aside [".muzzle"] (by decide)
    rw [← place_sharedPath] at apart
    rw [← place_directory] at beside
    rw [Files.entry?, Files.entry?, Files.place_put, made.place_eq, made.place_eq, Files.entryAt?_put_of_apart apart,
      made.entryAt?_eq beside]

/-- A configuration that is written, and then the list of ignored files is there and is no text. -/
structure Strands (files : Files) (root : String) (template : Option String) (force : Bool) (content : String)
    (after : Files) (failure : AccessFailure) : Prop where
  admits : Admits files root force
  known : text (template.getD defaultName) = .ok content
  written : configured files root content = .ok after
  there : files.contains (ignoredPath root)
  unreadable : files.read (ignoredPath root) = .error failure

/-- What an installation may do. -/
inductive Installs (session : Session) (root : String) (template : Option String) (force : Bool) :
    Except Stop Unit → Session → Prop where
  | kept (there : session.files.contains (Config.sharedPath root)) (unforced : force = false) :
    Installs session root template force (.error (.exit 1))
      (session.telling .warning ["Configuration already exists. Use --force to overwrite."])
  | unknown {error : Error} (admits : Admits session.files root force)
      (unknown : text (template.getD defaultName) = .error error) :
    Installs session root template force (.error (.exit 1)) (session.telling .error [error.message])
  | unwritten {content : String} {failure : AccessFailure} (admits : Admits session.files root force)
      (known : text (template.getD defaultName) = .ok content)
      (failed : configured session.files root content = .error failure) :
    Installs session root template force (.error (.failure (.inputOutput failure.reason))) session
  | stranded {content : String} {after : Files} {failure : AccessFailure}
      (strands : Strands session.files root template force content after failure) :
    Installs session root template force (.error (.failure (.inputOutput failure.reason))) { session with files := after }
  | unlisted {content : String} {after : Files} (admits : Admits session.files root force)
      (known : text (template.getD defaultName) = .ok content)
      (written : configured session.files root content = .ok after)
      (absent : session.files.contains (ignoredPath root) = false) :
    Installs session root template force (.ok ()) (concluding { session with files := after } (template.getD defaultName))
  | listed {content ignored : String} {after : Files} (admits : Admits session.files root force)
      (known : text (template.getD defaultName) = .ok content)
      (written : configured session.files root content = .ok after)
      (listed : session.files.read (ignoredPath root) = .ok ignored) :
    Installs session root template force (.ok ())
      (concluding (completing { session with files := after } root ignored) (template.getD defaultName))

theorem perform_install (session : Session) (root : String) (template : Option String) (force : Bool) :
    Installs session root template force (session.perform (install root template force)).1
      (session.perform (install root template force)).2 := by
  by_cases admits : Admits session.files root force
  · cases known : text (template.getD defaultName) with
    | error error =>
      rw [perform_install_of_unknown admits known]
      exact .unknown admits known
    | ok content =>
      rw [perform_install_of_known admits known]
      cases written : configured session.files root content with
      | error failure => exact .unwritten admits known written
      | ok after =>
        have spec := configured_spec written
        dsimp only
        cases there : session.files.contains (ignoredPath root) with
        | false =>
          have absent : after.contains (ignoredPath root) = false := by rwa [Files.contains, spec.ignored]
          rw [perform_updateIgnored_of_absent { session with files := after } absent]
          exact .unlisted admits known written there
        | true =>
          have present : after.contains (ignoredPath root) := by rwa [Files.contains, spec.ignored]
          have same := Files.read_congr spec.ignored there
          cases listed : session.files.read (ignoredPath root) with
          | error failure =>
            rw [listed] at same
            rw [perform_updateIgnored_of_unreadable { session with files := after } present same]
            exact .stranded ⟨admits, known, written, there, listed⟩
          | ok ignored =>
            rw [listed] at same
            rw [perform_updateIgnored_of_text { session with files := after } same]
            exact .listed admits known written listed
  · rw [Admits, not_or, Bool.not_eq_false, Bool.not_eq_true] at admits
    obtain ⟨there, rfl⟩ := admits
    rw [perform_install_of_kept there]
    exact .kept there rfl

variable {stop : Stop}

theorem files_of_stopped (stopped : session.perform (install root template force) = (.error stop, later)) :
    later.files = session.files ∨ ∃ content failure,
      Strands session.files root template force content later.files failure ∧
      stop = .failure (.inputOutput failure.reason) := by
  have installs := perform_install session root template force
  rw [stopped] at installs
  cases installs with
  | kept there unforced => exact .inl rfl
  | unknown admits unknown => exact .inl rfl
  | unwritten admits known failed => exact .inl rfl
  | stranded strands => exact .inr ⟨_, _, strands, rfl⟩

theorem perform_install_of_strands (strands : Strands session.files root template force content after failure) :
    session.perform (install root template force) =
      (.error (.failure (.inputOutput failure.reason)), { session with files := after }) := by
  have spec := configured_spec strands.written
  have there : after.contains (ignoredPath root) := by
    rw [Files.contains, spec.ignored]
    exact strands.there
  have unreadable := Files.read_congr spec.ignored strands.there
  rw [strands.unreadable] at unreadable
  rw [perform_install_of_known strands.admits strands.known, strands.written]
  dsimp only
  rw [perform_updateIgnored_of_unreadable { session with files := after } there unreadable]

/-- An installation that stops has changed nothing, unless the list of ignored files is there and is no text. Then, if
nothing else is in the way, the configuration has been written, in place of the one that was there, and no other file has
changed. -/
theorem stopped_install_changes (session : Session) (root : String) (template : Option String) (force : Bool) :
    (∀ stop later, session.perform (install root template force) = (.error stop, later) →
      later.files = session.files ∨ ∃ content failure,
        Strands session.files root template force content later.files failure ∧
        stop = .failure (.inputOutput failure.reason)) ∧
    ∀ content after failure, Strands session.files root template force content after failure →
      session.perform (install root template force) =
        (.error (.failure (.inputOutput failure.reason)), { session with files := after }) ∧
      Configured session.files root content after :=
  ⟨fun _ _ stopped => files_of_stopped stopped,
    fun _ _ _ strands => ⟨perform_install_of_strands strands, configured_spec strands.written⟩⟩

section
/-- A project with a configuration, and a directory where its list of ignored files should be. -/
private def strandedSession : Session :=
  { files := { entries := [(["p", ".muzzle", "config.yml"], .text "name: mine\n"), (["p", ".gitignore"], .directory)] } }

private def coreText : String :=
  String.join (coreLines.map (· ++ "\n"))

private def strandedFiles : Files :=
  strandedSession.files.put (strandedSession.files.place (Config.sharedPath "/p")) (.text coreText)

private theorem strands_force : Strands strandedSession.files "/p" none true coreText strandedFiles .isDirectory where
  admits := .inr rfl
  known := rfl
  written := by
    have there : strandedSession.files.makeDirectory (Path.join "/p" Config.directory) = .ok strandedSession.files := by
      decide +kernel
    have mine : strandedSession.files.read (Config.sharedPath "/p") = .ok "name: mine\n" := by decide +kernel
    rw [configured, there, strandedFiles, ← Files.write_of_read mine]
    rfl
  there := by decide +kernel
  unreadable := by decide +kernel

/-- Without force the run stops before anything is written. With it, the run fails when the configuration is written. -/
theorem stopped_install_changes_forced :
    (∃ later, strandedSession.perform (install "/p" none false) = (.error (.exit 1), later) ∧
      later.files = strandedSession.files) ∧
    Strands strandedSession.files "/p" none true coreText strandedFiles .isDirectory ∧
    strandedSession.perform (install "/p" none true) =
      (.error (.failure (.inputOutput "Is a directory (os error 21)")), { strandedSession with files := strandedFiles }) ∧
    Configured strandedSession.files "/p" coreText strandedFiles := by
  have there : strandedSession.files.contains (Config.sharedPath "/p") := by decide +kernel
  have kept := @perform_install_of_kept strandedSession "/p" none there
  have unchanged := (stopped_install_changes strandedSession "/p" none false).1 _ _ kept
  have left := (stopped_install_changes strandedSession "/p" none true).2 _ _ _ strands_force
  refine ⟨⟨_, kept, ?_⟩, strands_force, left⟩
  rcases unchanged with same | ⟨content, failure, -, other⟩
  · exact same
  · contradiction

/-- The installation fails, and the configuration of the user is gone. -/
theorem failed_install_replaces_configuration :
    strandedSession.files.read (Config.sharedPath "/p") = .ok "name: mine\n" ∧
      strandedSession.perform (install "/p" none true) =
        (.error (.failure (.inputOutput "Is a directory (os error 21)")), { strandedSession with files := strandedFiles }) ∧
      strandedFiles.read (Config.sharedPath "/p") = .ok coreText ∧ coreText ≠ "name: mine\n" := by
  refine ⟨by decide +kernel, perform_install_of_strands strands_force, Files.read_put, ?_⟩
  intro same
  have start : coreText.toList.head? = some '#' := by
    rw [coreText, coreLines, List.map_cons, String.join_cons, String.toList_append, List.head?_append]
    decide +kernel
  rw [same] at start
  revert start
  decide +kernel

end

end Linkage.Starter
