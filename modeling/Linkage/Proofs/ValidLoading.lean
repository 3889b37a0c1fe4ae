import Linkage.RuleListing
import Linkage.Proofs.ConfigValidation
import Linkage.Proofs.SessionRuns

/-! The commands that verify something load their configuration and tell what was found in it. They go on with a
configuration just if it can be verified, so that what they build from it is always there. What may still fail is the
loading itself and what the options give, never the configuration. -/

namespace Linkage
open Session

namespace Project
variable {project : Project} {showWarnings : Bool} {session later : Session} {config : Config} {error : Error}

theorem goesOn_tellFinding (showWarnings : Bool) (finding : Config.Finding) :
    GoesOn (tellFinding showWarnings finding) := by
  unfold tellFinding
  split
  · exact goesOn_tell _ _
  · split
    · exact goesOn_tell _ _
    · exact goesOn_pure _

theorem goesOn_tellFindings (showWarnings : Bool) (findings : List Config.Finding) :
    GoesOn (findings.forM (tellFinding showWarnings)) :=
  goesOn_forM fun finding _ => goesOn_tellFinding showWarnings finding

/-- Telling the findings stops nothing. Then the run stops just if there are errors among them. -/
theorem perform_loadValid_iff : (session.perform (project.loadValid showWarnings)).1 = .ok config ↔
    (session.perform project.load).1 = .ok config ∧ config.Verifiable := by
  rw [loadValid, perform_bind]
  split
  next loaded loading done =>
    obtain ⟨told, telling, finished⟩ := goesOn_tellFindings showWarnings loaded.findings loading
    rw [perform_bind_of_ok finished, done, Except.ok.injEq]
    have stops : loaded.findings.any (·.isError) ↔ ¬ loaded.Verifiable :=
      Config.Finding.any_isError_iff.trans (not_congr Config.clean_findings)
    by_cases verifiable : loaded.Verifiable
    · rw [if_neg (stops.not.mpr (not_not_intro verifiable))]
      simp only [perform_pure, Except.ok.injEq]
      constructor
      · rintro rfl
        exact ⟨rfl, verifiable⟩
      · exact And.left
    · rw [if_pos (stops.mpr verifiable), perform_bind, perform_stop]
      constructor
      · intro stopped
        contradiction
      · rintro ⟨rfl, accepted⟩
        exact absurd accepted verifiable
  next stop loading done => simp [done]

/-- Findings end a run with an exit code, so only the loading fails. -/
theorem fails_loadValid_iff : session.Fails (project.loadValid showWarnings) error ↔
    session.Fails project.load error := by
  rw [loadValid, fails_bind_iff]
  refine or_iff_left ?_
  rintro ⟨config, later, -, failed⟩
  refine absurd failed (Unfailing.not_fails ?_)
  refine (goesOn_tellFindings showWarnings config.findings).unfailing.bind fun _ => ?_
  exact (unfailing_stop 1).optional (goesOn_pure config).unfailing

/-- Once a configuration is loaded as valid, there is a verifier for it. -/
theorem exists_verifier (loaded : session.perform (project.loadValid showWarnings) = (.ok config, later)) :
    ∃ verifier, config.verifier = .ok verifier :=
  Acceptance.isOk_iff.mp (perform_loadValid_iff.mp (congrArg Prod.fst loaded)).2.verifier

theorem exists_dependencySet (loaded : session.perform (project.loadValid showWarnings) = (.ok config, later)) :
    ∃ dependencies, config.dependencySet = .ok dependencies :=
  Acceptance.isOk_iff.mp (perform_loadValid_iff.mp (congrArg Prod.fst loaded)).2.dependencies

end Project

namespace Verification
variable {project : Project} {session : Session}

theorem goesOn_tellTable (table : Table) : GoesOn (tellTable table) :=
  (goesOn_tellAll _ _).bind fun _ => goesOn_tell _ _

theorem goesOn_tellReport (format : ReportFormat) (verdicts : List Verdict) (summary : Summary) :
    GoesOn (tellReport format verdicts summary) := by
  refine goesOn_get.bind fun state => ?_
  dsimp only
  split
  · exact goesOn_forM fun line _ => goesOn_tell _ _
  · exact goesOn_tell _ _

theorem goesOn_fetchInto (surroundings : Surroundings) (repository : Repository) (candidates : Candidates)
    (key : ModuleKey) : GoesOn (fetchInto surroundings repository candidates key) := by
  refine (goesOn_tell _ _).bind fun _ => goesOn_get.bind fun state => (goesOn_modify _).bind fun _ => ?_
  split
  · exact (goesOn_tell _ _).bind fun _ => goesOn_pure _
  · exact (goesOn_tell _ _).bind fun _ => (goesOn_tell _ _).bind fun _ => goesOn_pure _

theorem fails_candidates_iff {surroundings : Surroundings} {repository : Repository} {verifier : Verifier}
    {options : MatrixOptions} {error : Error} : session.Fails (candidates surroundings repository verifier options) error ↔
      options.candidates.foldlM Candidates.addSpec {} = .error error := by
  rw [candidates, fails_bind_iff, fails_require_iff]
  refine or_iff_left ?_
  rintro ⟨given, later, read, failed⟩
  refine absurd failed (GoesOn.unfailing ?_).not_fails
  split
  · exact goesOn_foldlM (goesOn_fetchInto surroundings repository) _ given
  · exact goesOn_pure given

/-- A matrix run fails where loading does, or at candidates that cannot be read. -/
theorem fails_matrix_iff {surroundings : Surroundings} {options : MatrixOptions} {error : Error} :
    session.Fails (matrix surroundings project options) error ↔
      session.Fails project.load error ∨
      (∃ config later, session.perform (project.loadValid (options.format = .human)) = (.ok config, later)) ∧
        options.candidates.foldlM Candidates.addSpec {} = .error error := by
  rw [matrix, fails_bind_iff, Project.fails_loadValid_iff]
  refine or_congr_right ?_
  constructor
  · rintro ⟨config, later, loaded, failed⟩
    obtain ⟨verifier, built⟩ := Project.exists_verifier loaded
    rw [built, fails_bind_of_ok (perform_require_ok verifier), fails_bind_iff] at failed
    rcases failed with refused | ⟨candidates, last, -, failed⟩
    · exact ⟨⟨config, later, loaded⟩, fails_candidates_iff.mp refused⟩
    · refine absurd failed (Unfailing.not_fails ?_)
      refine (goesOn_tell _ _).unfailing.optional ?_
      refine (goesOn_tell _ _).unfailing.bind fun _ => goesOn_get.unfailing.bind fun state => ?_
      refine (goesOn_tellTable _).unfailing.optional ((goesOn_tellReport _ _ _).unfailing.bind fun _ => ?_)
      refine (unfailing_stop 1).optional ?_
      split
      · exact (goesOn_tell _ _).unfailing
      · exact (goesOn_pure _).unfailing
  · rintro ⟨⟨config, later, loaded⟩, refused⟩
    obtain ⟨verifier, built⟩ := Project.exists_verifier loaded
    refine ⟨config, later, loaded, ?_⟩
    rw [built, fails_bind_of_ok (perform_require_ok verifier), fails_bind_iff]
    exact .inl (fails_candidates_iff.mpr refused)

/-- The rest of the versions to verify, once those of the configuration are read. -/
def laidOver (files : Files) (options : VerifyOptions) (configured : DependencySet) : Except Error DependencySet := do
  let loaded ← match options.resolved with
    | none => pure configured
    | some path => pure ((← DependencySet.load files path).foldl (fun all (key, version) => all.insert key version)
        configured)
  options.assignments.foldlM (fun all assignment => do
    let (key, version) ← DependencySet.parseAssignment assignment
    return all.insert key version) loaded

theorem dependencies_eq (files : Files) (config : Config) (options : VerifyOptions) :
    dependencies files config options = config.dependencySet >>= laidOver files options :=
  rfl

/-- A verification fails where loading does, or at versions that the options give and that cannot be read. -/
theorem fails_verify_iff {options : VerifyOptions} {error : Error} : session.Fails (verify project options) error ↔
    session.Fails project.load error ∨
      ∃ config later configured, session.perform (project.loadValid (options.format = .human)) = (.ok config, later) ∧
        config.dependencySet = .ok configured ∧ laidOver later.files options configured = .error error := by
  rw [verify, fails_bind_iff, Project.fails_loadValid_iff]
  refine or_congr_right ?_
  constructor
  · rintro ⟨config, later, loaded, failed⟩
    obtain ⟨verifier, built⟩ := Project.exists_verifier loaded
    obtain ⟨configured, read⟩ := Project.exists_dependencySet loaded
    have given : dependencies later.files config options = laidOver later.files options configured := by
      rw [dependencies_eq, read]
      rfl
    rw [fails_bind_of_ok perform_get, given, fails_bind_iff, fails_require_iff] at failed
    rcases failed with refused | ⟨resolved, last, -, failed⟩
    · exact ⟨config, later, configured, loaded, read, refused⟩
    · rw [built, fails_bind_of_ok (perform_require_ok verifier)] at failed
      refine absurd failed (Unfailing.not_fails ?_)
      split
      · exact (goesOn_tell _ _).unfailing.bind fun _ => unfailing_stop 2
      · refine (goesOn_tell _ _).unfailing.optional ((goesOn_tellReport _ _ _).unfailing.bind fun _ => ?_)
        refine (unfailing_stop 1).optional ?_
        split
        · split <;> exact (goesOn_tell _ _).unfailing
        · exact (goesOn_pure _).unfailing
  · rintro ⟨config, later, configured, loaded, read, refused⟩
    refine ⟨config, later, loaded, ?_⟩
    rw [fails_bind_of_ok perform_get, dependencies_eq, read, fails_bind_iff]
    exact .inl (fails_require_iff.mpr refused)

end Verification

namespace RuleListing
variable {project : Project} {session : Session}

/-- Listing rules fails where loading does. -/
theorem fails_list_iff {asJson : Bool} {error : Error} : session.Fails (list project asJson) error ↔
    session.Fails project.load error := by
  rw [list, fails_bind_iff, Project.fails_loadValid_iff]
  refine or_iff_left ?_
  rintro ⟨config, later, loaded, failed⟩
  obtain ⟨verifier, built⟩ := Project.exists_verifier loaded
  rw [built, fails_bind_of_ok (perform_require_ok verifier)] at failed
  refine absurd failed (GoesOn.unfailing ?_).not_fails
  split
  · exact goesOn_tell _ _
  · exact (Verification.goesOn_tellTable _).bind fun _ => goesOn_tell _ _

end RuleListing

/-- Validation refuses just the configurations that cannot be verified, and so does loading. No command that goes on
from there fails at the verifier or at the resolved versions of the configuration. -/
theorem Config.validation_exact :
    (∀ config : Config, config.validate.isOk ↔ config.Verifiable) ∧
    ∀ (project : Project) (session : Session),
      (∀ showWarnings config, (session.perform (project.loadValid showWarnings)).1 = .ok config ↔
        (session.perform project.load).1 = .ok config ∧ config.Verifiable) ∧
      ∀ error,
        (∀ asJson, session.Fails (RuleListing.list project asJson) error ↔ session.Fails project.load error) ∧
        (∀ surroundings options, session.Fails (Verification.matrix surroundings project options) error ↔
          session.Fails project.load error ∨
          (∃ config later, session.perform (project.loadValid (options.format = .human)) = (.ok config, later)) ∧
            options.candidates.foldlM Candidates.addSpec {} = .error error) ∧
        ∀ options, session.Fails (Verification.verify project options) error ↔
          session.Fails project.load error ∨
          ∃ config later configured,
            session.perform (project.loadValid (options.format = .human)) = (.ok config, later) ∧
            config.dependencySet = .ok configured ∧
            Verification.laidOver later.files options configured = .error error := by
  refine ⟨fun config => isOk_validate_iff, fun project session => ⟨fun showWarnings config => ?_, fun error => ?_⟩⟩
  · exact Project.perform_loadValid_iff
  · refine ⟨fun asJson => ?_, fun surroundings options => ?_, fun options => ?_⟩
    · exact RuleListing.fails_list_iff
    · exact Verification.fails_matrix_iff
    · exact Verification.fails_verify_iff

end Linkage
