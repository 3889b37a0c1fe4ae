import Linkage.Proofs.ListedNumbers
import Linkage.Proofs.VersionBindings

/-! The versions that a verification uses come in layers: those of the configuration, those of a file over them, and single
assignments over both. Within the configuration and the file the greatest of the texts that name a library counts, and of
the assignments the last one. If the file or an assignment cannot be read, the run ends right there, with nothing told
about any rule. -/

namespace Linkage
open Session

namespace Session
variable {α β : Type} {action : Action α} {next : α → Action β}

/-- The action leaves all files as they are. -/
def KeepsFiles (action : Action α) : Prop :=
  ∀ session : Session, (session.perform action).2.files = session.files

theorem keepsFiles_pure (value : α) : KeepsFiles (pure value) :=
  fun _ => rfl

theorem keepsFiles_tell (kind : NoticeKind) (text : String) : KeepsFiles (tell kind text) :=
  fun _ => rfl

theorem keepsFiles_stop (code : Nat) : KeepsFiles (stop code : Action α) :=
  fun _ => rfl

theorem KeepsFiles.bind (first : KeepsFiles action) (second : ∀ value, KeepsFiles (next value)) :
    KeepsFiles (action >>= next) := by
  intro session
  have kept := first session
  rw [perform_bind]
  split
  next value later done =>
    rw [done] at kept
    exact (second value later).trans kept
  next stop later done =>
    rw [done] at kept
    exact kept

theorem keepsFiles_forM {xs : List α} {each : α → Action PUnit} (keeps : ∀ x, KeepsFiles (each x)) :
    KeepsFiles (xs.forM each) := by
  induction xs with
  | nil => exact keepsFiles_pure _
  | cons x rest ih => exact (keeps x).bind fun _ => ih

end Session

namespace Project

theorem keepsFiles_load (project : Project) : KeepsFiles project.load := by
  intro session
  rw [load, perform_bind_of_ok perform_get]
  split
  · rfl
  · exact ((keepsFiles_tell _ _).bind fun _ => keepsFiles_stop 2) session
  · exact ((keepsFiles_tell _ _).bind fun _ => keepsFiles_stop 1) session
  · rfl

theorem keepsFiles_loadValid (project : Project) (showWarnings : Bool) : KeepsFiles (project.loadValid showWarnings) := by
  refine (keepsFiles_load project).bind fun config => ?_
  refine (keepsFiles_forM fun finding => ?_).bind fun _ => ?_
  · unfold tellFinding
    split
    · exact keepsFiles_tell _ _
    · split
      · exact keepsFiles_tell _ _
      · exact keepsFiles_pure _
  · dsimp only
    split
    · exact (keepsFiles_stop 1).bind fun _ => keepsFiles_pure config
    · exact keepsFiles_pure config

end Project

namespace DependencySet
open Acceptance
variable {files : Files} {path : String} {dependencies : DependencySet} {key : ModuleKey} {version : Version}

theorem load_eq_ok_iff : load files path = .ok dependencies ↔ ∃ text texts, files.read path = .ok text ∧
    Yaml.readAs (fun reading => reading.textMap) text = .ok texts ∧ parse texts.entries = .ok dependencies := by
  simp only [load, bind_eq_ok_iff, mapError_eq_ok_iff]
  constructor
  · rintro ⟨text, read, texts, listed, given⟩
    exact ⟨text, texts, read, listed, given⟩
  · rintro ⟨text, texts, read, listed, given⟩
    exact ⟨text, read, texts, listed, given⟩

/-- Assignments are bound one after the other. -/
theorem foldlM_assign (assignments : List String) (start : DependencySet) :
    (assignments.foldlM (fun all assignment => do
      let (key, version) ← parseAssignment assignment
      return all.insert key version) start : Except Error DependencySet) =
        assignments.mapM parseAssignment >>= fun pairs => return ModuleMap.bindAll pairs start := by
  induction assignments generalizing start with
  | nil => rfl
  | cons assignment rest ih =>
    rw [List.foldlM_cons, List.mapM_cons]
    cases parseAssignment assignment with
    | error error => rfl
    | ok pair =>
      have next := ih (ModuleMap.insert pair.1 pair.2 start)
      refine Eq.trans next ?_
      cases rest.mapM parseAssignment <;> rfl

end DependencySet

namespace Verification
open Acceptance DependencySet
variable {files : Files} {config : Config} {options : VerifyOptions} {dependencies : DependencySet} {key : ModuleKey}
  {version : Version}

/-- The texts of a file with resolved versions. Where no file is given there are none. -/
inductive Lists (files : Files) : Option String → TextMap → Prop where
  | nothing : Lists files none ∅
  | file {path text : String} {texts : TextMap} (read : files.read path = .ok text)
      (listed : Yaml.readAs (fun reading => reading.textMap) text = .ok texts) : Lists files (some path) texts

/-- The version that the layers give a library. -/
inductive Settles (config : Config) (listed : TextMap) (assignments : List String) (key : ModuleKey) (version : Version) :
    Prop where
  /-- The last assignment that names the library counts most, -/
  | assigned (decides : Decides parseAssignment assignments key version)
  /-- then the greatest text in the file that names it, -/
  | loaded (unassigned : ¬ Names parseAssignment assignments key) (pins : Pins listed key version)
  /-- and then the greatest one in the configuration. -/
  | configured (unassigned : ¬ Names parseAssignment assignments key) (unlisted : ¬ Mentions listed key)
      (pins : Pins config.resolved key version)

/-- The file and all assignments can be read. -/
structure Readable (files : Files) (options : VerifyOptions) : Prop where
  file : ∀ path ∈ options.resolved, (DependencySet.load files path).isOk
  assignments : ∀ assignment ∈ options.assignments, (parseAssignment assignment).isOk

/-- Without a file, nothing is laid over the configuration by one. -/
theorem laidOver_eq (files : Files) (options : VerifyOptions) (configured : DependencySet) :
    laidOver files options configured = do
      let loaded ← options.resolved.elim (pure []) (DependencySet.load files)
      let assigned ← options.assignments.mapM parseAssignment
      return ModuleMap.bindAll assigned (ModuleMap.bindAll loaded configured) := by
  unfold laidOver
  cases options.resolved with
  | none => exact foldlM_assign options.assignments configured
  | some path =>
    dsimp only [Option.elim_some]
    cases DependencySet.load files path with
    | error error => rfl
    | ok loaded => exact foldlM_assign options.assignments (ModuleMap.bindAll loaded configured)

theorem isOk_laidOver_iff {configured : DependencySet} :
    (laidOver files options configured).isOk ↔ Readable files options := by
  have assigned (loaded : DependencySet) : (options.assignments.mapM parseAssignment >>= fun assigned =>
      return ModuleMap.bindAll assigned (ModuleMap.bindAll loaded configured) : Except Error DependencySet).isOk ↔
        ∀ assignment ∈ options.assignments, (parseAssignment assignment).isOk := by
    rw [← isOk_mapM_iff]
    cases options.assignments.mapM parseAssignment <;> rfl
  rw [laidOver_eq, isOk_bind_and assigned]
  constructor
  · rintro ⟨file, assignments⟩
    refine ⟨fun path given => ?_, assignments⟩
    rwa [Option.mem_def.mp given] at file
  · rintro ⟨file, assignments⟩
    refine ⟨?_, assignments⟩
    cases given : options.resolved with
    | none => rfl
    | some path => exact file path given

theorem exists_layers {configured : DependencySet} (given : laidOver files options configured = .ok dependencies) :
    ∃ listed loaded assigned, Lists files options.resolved listed ∧ DependencySet.parse listed.entries = .ok loaded ∧
      options.assignments.mapM parseAssignment = .ok assigned ∧
      ModuleMap.bindAll assigned (ModuleMap.bindAll loaded configured) = dependencies := by
  rw [laidOver_eq, bind_eq_ok_iff] at given
  obtain ⟨loaded, file, given⟩ := given
  obtain ⟨assigned, all, given⟩ := bind_eq_ok_iff.mp given
  obtain ⟨listed, lists, parsed⟩ :
      ∃ listed, Lists files options.resolved listed ∧ DependencySet.parse listed.entries = .ok loaded := by
    cases named : options.resolved with
    | none =>
      rw [named] at file
      exact ⟨∅, .nothing, file⟩
    | some path =>
      rw [named] at file
      obtain ⟨text, listed, found, shown, parsed⟩ := DependencySet.load_eq_ok_iff.mp file
      exact ⟨listed, .file found shown, parsed⟩
  exact ⟨listed, loaded, assigned, lists, parsed, all, Except.ok.inj given⟩

section
variable {listed : TextMap} {configured loaded : DependencySet} {assigned : List (ModuleKey × Version)}
  (read : config.dependencySet = .ok configured) (parsed : DependencySet.parse listed.entries = .ok loaded)
  (all : options.assignments.mapM parseAssignment = .ok assigned)
include read parsed all

theorem find?_layers_iff : (ModuleMap.bindAll assigned (ModuleMap.bindAll loaded configured)).find? key = some version ↔
    Settles config listed options.assignments key version := by
  rw [ModuleMap.find?_bindAll, ModuleMap.find?_bindAll, ModuleMap.find?_ofList_of_strict (strict_of_parse parsed)]
  simp only [Option.or_eq_some_iff, find?_ofList_read all, find?_ofList_read_eq_none all, find?_of_parse parsed,
    find?_of_parse_eq_none parsed, find?_of_parse read]
  constructor
  · rintro (decides | ⟨unassigned, pins | ⟨unlisted, pins⟩⟩)
    · exact .assigned decides
    · exact .loaded unassigned pins
    · exact .configured unassigned unlisted pins
  · rintro (decides | ⟨unassigned, pins⟩ | ⟨unassigned, unlisted, pins⟩)
    · exact .inl decides
    · exact .inr ⟨unassigned, .inl pins⟩
    · exact .inr ⟨unassigned, .inr ⟨unlisted, pins⟩⟩

theorem find?_layers_eq_none_iff : (ModuleMap.bindAll assigned (ModuleMap.bindAll loaded configured)).find? key = none ↔
    ¬ Names parseAssignment options.assignments key ∧ ¬ Mentions listed key ∧ ¬ Mentions config.resolved key := by
  rw [ModuleMap.find?_bindAll, ModuleMap.find?_bindAll, ModuleMap.find?_ofList_of_strict (strict_of_parse parsed)]
  simp only [Option.or_eq_none_iff, find?_ofList_read_eq_none all, find?_of_parse_eq_none parsed,
    find?_of_parse_eq_none read]

end

variable {project : Project} {session later : Session} {error : Error}

theorem perform_verify_unread (loaded : session.perform (project.loadValid (options.format = .human)) = (.ok config, later))
    (unread : Verification.dependencies later.files config options = .error error) :
    session.perform (verify project options) = (.error (.failure error), later) := by
  rw [verify, perform_bind_of_ok loaded, perform_bind_of_ok perform_get, unread]
  rfl

/-- A verification uses for each library the version of the last assignment that names it, or else that of the file, or
else that of the configuration, and none if the library is named nowhere. Where the file or an assignment cannot be read
it fails as soon as the configuration is loaded, before any rule is evaluated. -/
theorem verifies_laid_over (loaded : (session.perform project.load).1 = .ok config) (verifiable : config.Verifiable) :
    ∃ verifier, config.verifier = .ok verifier ∧ ∀ options : VerifyOptions, ∃ later,
      session.perform (project.loadValid (options.format = .human)) = (.ok config, later) ∧
      (Readable session.files options → ∃ listed dependencies, Lists session.files options.resolved listed ∧
        Verification.dependencies session.files config options = .ok dependencies ∧
        (∀ key version, dependencies.find? key = some version ↔
          Settles config listed options.assignments key version) ∧
        (∀ key, dependencies.find? key = none ↔ ¬ Names parseAssignment options.assignments key ∧
          ¬ Mentions listed key ∧ ¬ Mentions config.resolved key) ∧
        ∀ verdicts, verdicts? verifier dependencies options.rule = some verdicts →
          session.perform (verify project options) = later.perform (conclude config options.format verdicts)) ∧
      (¬ Readable session.files options → ∃ error,
        session.perform (verify project options) = (.error (.failure error), later)) := by
  obtain ⟨verifier, built⟩ := isOk_iff.mp verifiable.verifier
  obtain ⟨configured, read⟩ := isOk_iff.mp verifiable.dependencies
  refine ⟨verifier, built, fun options => ?_⟩
  obtain ⟨later, done⟩ := Project.exists_loadValid loaded verifiable (options.format = .human)
  have kept : later.files = session.files := by
    have kept := Project.keepsFiles_loadValid project (options.format = .human) session
    rwa [done] at kept
  have same : Verification.dependencies session.files config options = laidOver later.files options configured := by
    rw [dependencies_eq, read, kept]
    rfl
  rw [← kept] at same ⊢
  refine ⟨later, done, fun readable => ?_, fun unreadable => ?_⟩
  · obtain ⟨dependencies, given⟩ := isOk_iff.mp (isOk_laidOver_iff.mpr readable)
    obtain ⟨listed, loaded, assigned, lists, parsed, all, rfl⟩ := exists_layers given
    exact ⟨listed, _, lists, same.trans given, fun key version => find?_layers_iff read parsed all,
      fun key => find?_layers_eq_none_iff read parsed all,
      fun verdicts found => perform_verify options done built (same.trans given) found⟩
  · cases given : laidOver later.files options configured with
    | ok dependencies => exact absurd (isOk_laidOver_iff.mp (isOk_iff.mpr ⟨dependencies, given⟩)) unreadable
    | error error => exact ⟨error, perform_verify_unread done (same.trans given)⟩

section
private def layeredProject : Project := { root := "/p" }

private def layeredText : String :=
  "rules: [\x7bgroup: g, module: a, versions: 1\x7d]\nresolved: \x7bg:b: 1, g:c: 1, 'g:c ': 2\x7d"

private def layeredSession : Session :=
  { files := { entries := [(["p", ".muzzle", "config.yml"], .text layeredText),
      (["p", "set.yml"], .text "\x7bg:b: 3\x7d")] } }

private def layeredConfig : Config :=
  { rules := [{ group := "g", module := "a", versions := "1" }]
    resolved := .ofList [("g:b", "1"), ("g:c", "1"), ("g:c ", "2")] }

private def layeredOptions : VerifyOptions :=
  { resolved := some "/p/set.yml"
    assignments := ["g:a=4", "g:a:5"] }

private def assignedKey : ModuleKey := ⟨"g", "a", by decide, by decide⟩

private def loadedKey : ModuleKey := ⟨"g", "b", by decide, by decide⟩

private def configuredKey : ModuleKey := ⟨"g", "c", by decide, by decide⟩

private theorem layered_dependencies :
    Verification.dependencies layeredSession.files layeredConfig layeredOptions =
      .ok [(assignedKey, ⟨"5", [5], none⟩), (loadedKey, ⟨"3", [3], none⟩), (configuredKey, ⟨"2", [2], none⟩)] := by
  decide +kernel

/-- Each library has its version from another layer. The first assignment, and all spellings of a key but the greatest,
do not count. -/
theorem verifies_laid_over_layered :
    (layeredSession.perform layeredProject.load).1 = .ok layeredConfig ∧ layeredConfig.Verifiable ∧
      ∃ verifier later listed dependencies, layeredConfig.verifier = .ok verifier ∧
        Lists layeredSession.files layeredOptions.resolved listed ∧
        Settles layeredConfig listed layeredOptions.assignments assignedKey ⟨"5", [5], none⟩ ∧
        Settles layeredConfig listed layeredOptions.assignments loadedKey ⟨"3", [3], none⟩ ∧
        Settles layeredConfig listed layeredOptions.assignments configuredKey ⟨"2", [2], none⟩ ∧
        layeredSession.perform (verify layeredProject layeredOptions) =
          Session.perform later (conclude layeredConfig .human (verifier.verify dependencies)) ∧
        ∃ error last, layeredSession.perform (verify layeredProject { assignments := ["g:a"] }) =
          (.error (.failure error), last) := by
  have loaded : (layeredSession.perform layeredProject.load).1 = .ok layeredConfig := by decide +kernel
  have verifiable : layeredConfig.Verifiable := Config.isOk_validate_iff.mp (by decide +kernel)
  obtain ⟨verifier, built, runs⟩ := verifies_laid_over loaded verifiable
  obtain ⟨configured, read⟩ := isOk_iff.mp verifiable.dependencies
  obtain ⟨later, -, readable, -⟩ := runs layeredOptions
  obtain ⟨last, -, -, unreadable⟩ := runs { assignments := ["g:a"] }
  have given := layered_dependencies
  rw [dependencies_eq, read] at given
  obtain ⟨listed, dependencies, lists, resolved, settles, -, verified⟩ :=
    readable (isOk_laidOver_iff.mp (isOk_iff.mpr ⟨_, given⟩))
  obtain rfl := Except.ok.inj (layered_dependencies.symm.trans resolved)
  have failed : ¬ Readable layeredSession.files { assignments := ["g:a"] } := by
    intro readable
    have cut : (parseAssignment "g:a").isOk := readable.assignments _ List.mem_cons_self
    have refused : (parseAssignment "g:a").isOk = false := by decide +kernel
    exact Bool.false_ne_true (refused.symm.trans cut)
  obtain ⟨error, ended⟩ := unreadable failed
  exact ⟨loaded, verifiable, verifier, later, listed, _, built, lists, (settles _ _).mp (by decide +kernel),
    (settles _ _).mp (by decide +kernel), (settles _ _).mp (by decide +kernel), verified _ rfl, error, last, ended⟩

end

end Verification
end Linkage
