import Linkage.Proofs.CandidateHistory
import Linkage.Proofs.ExitCodes
import Linkage.Proofs.FileChanges
import Linkage.Proofs.VersionLayers

/-! What happens when no request brings a document. Then the listings that are kept serve, however old they are, and files
stay as they are. A matrix run that fetches goes on from library to library; with all its other notices it ends as a run does
that is given the kept versions from the start. -/

namespace Linkage
open Session

namespace Cache
variable {cache : Cache} {files : Files} {now : Instant} {key : ModuleKey} {listing : Listing}

/-- The listing that the file of a library holds, if there is one. -/
def listing? (cache : Cache) (files : Files) (key : ModuleKey) : Option Listing :=
  (files.read (cache.path key)).toOption.bind fun text => Listing.read? text

theorem load_eq_some_iff : cache.load files key = .ok (some listing) ↔ cache.listing? files key = some listing := by
  unfold load listing?
  dsimp only
  cases found : files.read (cache.path key) with
  | error failure =>
    apply iff_of_false
    · split
      · exact nofun
      · exact nofun
    · exact nofun
  | ok text =>
    have kept : (Except.ok text : Except AccessFailure String).toOption = some text := rfl
    rw [Files.contains_of_read found, Bool.not_true, if_neg Bool.false_ne_true, kept, Option.bind_some]
    dsimp only
    cases Listing.read? text with
    | none => exact iff_of_false nofun nofun
    | some held => exact ⟨Except.ok.inj, congrArg Except.ok⟩

/-- What is fresh is kept. -/
theorem listing?_of_loadFresh (fresh : cache.loadFresh files now key = .ok (some listing)) :
    cache.listing? files key = some listing := by
  obtain ⟨held, loaded, chosen⟩ := Acceptance.bind_eq_ok_iff.mp fresh
  obtain ⟨kept, -⟩ := Option.filter_eq_some_iff.mp (Except.ok.inj chosen)
  rw [← load_eq_some_iff, loaded, kept]

/-- The versions that are kept for libraries; some may have none. -/
def stored (cache : Cache) (files : Files) (keys : List ModuleKey) : List (ModuleKey × List Version) :=
  keys.filterMap fun key => (cache.listing? files key).map fun listing => (key, listing.versions)

theorem stored_append (keys others : List ModuleKey) :
    cache.stored files (keys ++ others) = cache.stored files keys ++ cache.stored files others :=
  List.filterMap_append

end Cache

namespace Repository
variable {repository : Repository} {cache : Cache} {send : Request} {files : Files} {now : Instant} {key : ModuleKey}
  {url : String} {failure : Error}

/-- A request fails in one of three ways. -/
theorem document_eq_error_iff : document send url = .error failure ↔
    (∃ reason, send url = .error reason ∧ failure = .other ("Failed to fetch " ++ url) (some reason)) ∨
    (∃ response, send url = .ok response ∧ response.isSuccess = false ∧
      failure = .other ("HTTP " ++ response.status ++ " fetching " ++ url) none) ∨
    ∃ response reason, send url = .ok response ∧ response.isSuccess = true ∧ response.body = .error reason ∧
      failure = .other ("Failed to read response from " ++ url) (some reason) := by
  unfold document
  cases send url with
  | error reason => simp [throw, throwThe, MonadExceptOf.throw, @eq_comm _ failure]
  | ok response =>
    cases success : response.isSuccess with
    | false => simp [throw, throwThe, MonadExceptOf.throw, success, @eq_comm _ failure]
    | true => cases read : response.body <;> simp [Except.mapError, success, read, @eq_comm _ failure]

/-- No request brings a document; this is how each of them fails. -/
def Unanswered (send : Request) (failure : String → Error) : Prop :=
  ∀ url, document send url = .error (failure url)

/-- The listing that is kept for a library, or else the failure of the request. -/
def fallBack (cache : Cache) (files : Files) (key : ModuleKey) (failure : Error) : Except Error (List Version) :=
  match cache.listing? files key with
  | some listing => .ok listing.versions
  | none => .error failure

/-- A listing that is not fresh is loaded a second time, and then its age does not count. -/
theorem fetch_unanswered (cached : repository.cache = some cache)
    (failed : document send (repository.metadataUrl key) = .error failure) :
    repository.fetch send files now key = (files, fallBack cache files key failure) := by
  have refused : repository.request send key = .error failure := by
    rw [request, failed]
    rfl
  unfold fetch fallBack
  rw [cached, refused]
  dsimp only
  split
  next listing fresh => rw [Cache.listing?_of_loadFresh fresh]
  next =>
    split
    next listing loaded => rw [Cache.load_eq_some_iff.mp loaded]
    next missing =>
      cases kept : cache.listing? files key with
      | none => rfl
      | some listing => exact absurd (Cache.load_eq_some_iff.mpr kept) (missing listing)

/-- The listing that is kept for a library serves, whatever its age is, and files stay as they are. -/
structure ServesKept (repository : Repository) (cache : Cache) (send : Request) (failure : String → Error) (files : Files)
    (now : Instant) (key : ModuleKey) : Prop where
  load_iff : ∀ listing, cache.load files key = .ok (some listing) ↔ cache.listing? files key = some listing
  fetch_eq : repository.fetch send files now key =
    (files, fallBack cache files key (failure (repository.metadataUrl key)))

end Repository

namespace Candidates
variable {candidates : Candidates} {cache : Cache} {files : Files} {key : ModuleKey} {keys : List ModuleKey}
  {listing : Listing}

theorem extended_append (first second : List (ModuleKey × List Version)) :
    candidates.extended (first ++ second) = (candidates.extended first).extended second :=
  List.foldl_append

theorem versionsFor_stored_of_none (nothing : key ∉ keys ∨ cache.listing? files key = none) :
    versionsFor key (cache.stored files keys) = [] := by
  have apart : (cache.stored files keys).filter (·.1 = key) = [] := by
    apply List.filter_eq_nil_iff.mpr
    intro call given same
    obtain ⟨other, member, kept⟩ := List.mem_filterMap.mp given
    obtain ⟨listing, found, whole⟩ := Option.map_eq_some_iff.mp kept
    rw [decide_eq_true_eq, ← whole] at same
    subst same
    rcases nothing with absent | missing
    · exact absent member
    · rw [missing] at found
      cases found
  rw [versionsFor, apart, List.flatMap_nil]

theorem versionsFor_stored (each : keys.Nodup) (member : key ∈ keys) (kept : cache.listing? files key = some listing) :
    versionsFor key (cache.stored files keys) = listing.versions := by
  induction keys with
  | nil => exact absurd member List.not_mem_nil
  | cons first rest ih =>
    obtain ⟨fresh, each⟩ := List.nodup_cons.mp each
    rcases List.mem_cons.mp member with same | later
    · subst same
      rw [Cache.stored, List.filterMap_cons, kept, Option.map_some]
      refine (versionsFor_cons_of_eq rfl).trans ?_
      rw [← Cache.stored, versionsFor_stored_of_none (.inl fresh), List.append_nil]
    · have apart : first ≠ key := by
        intro same
        subst same
        exact fresh later
      rw [← ih each later, Cache.stored, List.filterMap_cons]
      cases cache.listing? files first with
      | none => rfl
      | some other =>
        rw [Option.map_some]
        exact versionsFor_cons_of_ne apart

/-- A library without a listing, or one that nothing is fetched for, keeps its candidates. -/
theorem get_extended_stored_of_none (nothing : key ∉ keys ∨ cache.listing? files key = none) :
    (candidates.extended (cache.stored files keys)).get key = candidates.get key := by
  rw [get_extended, versionsFor_stored_of_none nothing, List.foldl_nil]

theorem get_extended_stored (each : keys.Nodup) (member : key ∈ keys) (kept : cache.listing? files key = some listing) :
    (candidates.extended (cache.stored files keys)).get key = (candidates.extend key listing.versions).get key := by
  rw [get_extended, versionsFor_stored each member kept, get_extend, if_pos rfl]

end Candidates

namespace Session
variable {α β : Type} {action : Action α} {next : α → Action β}

theorem perform_tell_logging (kind : NoticeKind) (text : String) {session : Session} :
    session.perform (tell kind text) = (.ok (), session.logging [(session.mode, ⟨kind, text⟩)]) :=
  rfl

/-- The action only tells things, and what it tells and how it ends depend on nothing but the mode. -/
def Recites (action : Action α) : Prop :=
  ∀ mode, ∃ result notices, ∀ session : Session, session.mode = mode →
    session.perform action = (result, session.logging notices)

theorem recites_pure (value : α) : Recites (pure value) := by
  intro mode
  refine ⟨.ok value, [], ?_⟩
  intro session _
  rw [perform_pure, logging_nil]

theorem recites_stop (code : Nat) : Recites (stop code : Action α) := by
  intro mode
  refine ⟨.error (.exit code), [], ?_⟩
  intro session _
  rw [perform_stop, logging_nil]

theorem recites_tell (kind : NoticeKind) (text : String) : Recites (tell kind text) := by
  intro mode
  refine ⟨.ok (), [(mode, ⟨kind, text⟩)], ?_⟩
  intro session same
  rw [← same]
  rfl

theorem Recites.bind (first : Recites action) (second : ∀ value, Recites (next value)) : Recites (action >>= next) := by
  intro mode
  obtain ⟨result, notices, told⟩ := first mode
  cases result with
  | error stop =>
    refine ⟨.error stop, notices, ?_⟩
    intro session same
    rw [perform_bind, told session same]
  | ok value =>
    obtain ⟨last, others, finished⟩ := second value mode
    refine ⟨last, notices ++ others, ?_⟩
    intro session same
    rw [perform_bind_of_ok (told session same), finished (session.logging notices) same, logging_append]

/-- The first step is only taken sometimes. -/
theorem Recites.optional {p : Prop} [Decidable p] {action : Action PUnit} {next : PUnit → Action β}
    (first : Recites action) (second : Recites (next ⟨⟩)) : Recites (if p then action >>= next else next ⟨⟩) := by
  split
  · exact first.bind fun _ => second
  · exact second

/-- Of the session only the mode is looked at. -/
theorem recites_get_bind {next : Session → Action β} (alike : ∀ a b : Session, a.mode = b.mode → next a = next b)
    (each : ∀ session, Recites (next session)) : Recites (get >>= next) := by
  intro mode
  obtain ⟨result, notices, told⟩ := each { mode } mode
  refine ⟨result, notices, ?_⟩
  intro session same
  rw [perform_bind_of_ok perform_get, alike session { mode } same]
  exact told session same

end Session

namespace Verification
variable {surroundings : Surroundings} {session : Session} {candidates given : Candidates} {options : MatrixOptions}

/-- What a run tells about one library when the request for it fails. -/
def fetchNotices (repository : Repository) (cache : Cache) (failure : String → Error) (files : Files) (mode : OutputMode)
    (key : ModuleKey) : List (OutputMode × Notice) :=
  match cache.listing? files key with
  | some listing =>
    [(mode, ⟨.spinner, "Fetching versions of " ++ key.text⟩),
      (mode, ⟨.spinnerSuccess, key.text ++ ": " ++ toString listing.versions.length ++ " version(s)"⟩)]
  | none =>
    [(mode, ⟨.spinner, "Fetching versions of " ++ key.text⟩),
      (mode, ⟨.spinnerError, key.text ++ ": fetch failed"⟩),
      (mode, ⟨.warning, "Could not fetch versions of " ++ key.text ++ ": " ++
        (failure (repository.metadataUrl key)).message⟩)]

section
variable {repository : Repository} {cache : Cache} {failure : String → Error} (cached : repository.cache = some cache)
  (unanswered : Repository.Unanswered surroundings.send failure)
include cached unanswered

/-- Files are written back as they were read. -/
theorem perform_fetchInto (candidates : Candidates) (key : ModuleKey) :
    session.perform (fetchInto surroundings repository candidates key) =
      (.ok (candidates.extended (cache.stored session.files [key])),
        session.logging (fetchNotices repository cache failure session.files session.mode key)) := by
  have files (notices : List (OutputMode × Notice)) : (session.logging notices).files = session.files := rfl
  rw [fetchInto, perform_bind_of_ok (perform_tell_logging _ _), perform_bind_of_ok perform_get, files,
    Repository.fetch_unanswered cached (unanswered _), Repository.fallBack, fetchNotices, Cache.stored,
    List.filterMap_cons, List.filterMap_nil]
  cases cache.listing? session.files key with
  | none =>
    refine Eq.trans (b := (.ok candidates, ((session.logging [_]).logging [_]).logging [_])) rfl ?_
    rw [logging_append, logging_append]
    rfl
  | some listing =>
    refine Eq.trans (b := (.ok (candidates.extend key listing.versions), (session.logging [_]).logging [_])) rfl ?_
    rw [logging_append]
    rfl

theorem perform_foldlM_fetchInto (candidates : Candidates) (keys : List ModuleKey) :
    session.perform (keys.foldlM (fetchInto surroundings repository) candidates) =
      (.ok (candidates.extended (cache.stored session.files keys)),
        session.logging (keys.flatMap (fetchNotices repository cache failure session.files session.mode))) := by
  induction keys generalizing session candidates with
  | nil => exact Prod.ext rfl logging_nil.symm
  | cons key rest ih =>
    have split : cache.stored session.files (key :: rest) =
        cache.stored session.files [key] ++ cache.stored session.files rest :=
      Cache.stored_append [key] rest
    rw [List.foldlM_cons, perform_bind_of_ok (perform_fetchInto cached unanswered candidates key), ih, logging_append,
      split, Candidates.extended_append, List.flatMap_cons]
    rfl

/-- A failure ends neither the run nor the fetching. -/
theorem perform_candidates_fetch {verifier : Verifier} {files : Files} (held : session.files = files)
    (fetches : options.fetch = true) (read : options.candidates.foldlM Candidates.addSpec {} = .ok given) :
    session.perform (Verification.candidates surroundings repository verifier options) =
      (.ok (given.extended (cache.stored files (libraries verifier))),
        session.logging ((libraries verifier).flatMap (fetchNotices repository cache failure files session.mode))) := by
  rw [Verification.candidates, read, perform_bind_of_ok (perform_require_ok given), if_pos fetches, ← held]
  exact perform_foldlM_fetchInto cached unanswered given (libraries verifier)

end

/-- A matrix run that is given its candidates as they are. -/
def matrixOn (surroundings : Surroundings) (project : Project) (format : ReportFormat) (candidates : Candidates) :
    Action Unit := do
  let config ← project.loadValid (format = .human)
  let verifier ← require config.verifier
  concludeMatrix surroundings config verifier format candidates

/-- Without fetching, a matrix run uses just the candidates of its options. -/
theorem matrix_eq_matrixOn {project : Project} (stays : options.fetch = false)
    (read : options.candidates.foldlM Candidates.addSpec {} = .ok given) :
    matrix surroundings project options = matrixOn surroundings project options.format given := by
  have taken (repository : Repository) (verifier : Verifier) :
      Verification.candidates surroundings repository verifier options = pure given := by
    rw [Verification.candidates, read, stays]
    rfl
  rw [matrix, matrixOn]
  simp only [taken, pure_bind]
  rfl

theorem recites_tellReport (format : ReportFormat) (verdicts : List Verdict) (summary : Summary) :
    Recites (tellReport format verdicts summary) := by
  intro mode
  refine ⟨.ok (), reportNotices format verdicts summary mode, ?_⟩
  intro session same
  rw [perform_tellReport, same]

theorem recites_tellTable (table : Table) : Recites (tellTable table) := by
  intro mode
  let texts := (Text.lines table.text.toList).map String.ofList ++ [""]
  refine ⟨.ok (), texts.map fun text => (mode, ⟨.message, text⟩), ?_⟩
  intro session same
  rw [perform_tellTable, ← same]
  rfl

theorem recites_concludeMatrix (surroundings : Surroundings) (config : Config) (verifier : Verifier)
    (format : ReportFormat) (candidates : Candidates) :
    Recites (concludeMatrix surroundings config verifier format candidates) := by
  unfold concludeMatrix
  refine Recites.optional (recites_tell _ _) ?_
  refine (recites_tell _ _).bind fun _ => recites_get_bind ?_ ?_
  · intro a b same
    dsimp only
    rw [same]
  · intro session
    refine Recites.optional (recites_tellTable _) ?_
    refine (recites_tellReport _ _ _).bind fun _ => ?_
    refine Recites.optional (recites_stop 1) ?_
    split
    · exact recites_tell _ _
    · exact recites_pure _

/-- A run that is given its candidates tells its report and ends as this says. -/
theorem infix_of_recited {mode : OutputMode} {config : Config} {verifier : Verifier} {format : ReportFormat}
    {result : Except Stop Unit} {told : List (OutputMode × Notice)}
    (recited : ∀ session : Session, session.mode = mode →
      session.perform (concludeMatrix surroundings config verifier format candidates) = (result, session.logging told)) :
    reportNotices format (verifier.matrix candidates).verdicts (.ofReport (verifier.matrix candidates)) mode
      <:+: told := by
  have reported : Reported format _ _ (Session.perform { mode } _) :=
    reported_concludeMatrix surroundings config verifier format candidates
  rw [recited { mode } rfl] at reported
  exact reported.told

/-- The listings that are kept in a project. -/
def listings (project : Project) (config : Config) : Cache :=
  ⟨project.listingsPath, config.settings.cacheTtlSeconds.toNat⟩

/-- The candidates that were given, with the versions that are kept for the libraries of the rules. -/
def withKept (project : Project) (config : Config) (verifier : Verifier) (files : Files) (given : Candidates) :
    Candidates :=
  given.extended ((listings project config).stored files (libraries verifier))

/-- What a run tells that fetches when all requests fail. -/
def fetching (project : Project) (config : Config) (verifier : Verifier) (failure : String → Error) (session : Session) :
    List (OutputMode × Notice) :=
  (libraries verifier).flatMap
    (fetchNotices (repository project config) (listings project config) failure session.files session.mode)

/-- A matrix run that fetches ends as one does that is given its candidates. Its notices tell in front what came of the
fetching, and the report is among the others. -/
structure EndsAlike (surroundings : Surroundings) (project : Project) (options : MatrixOptions) (config : Config)
    (verifier : Verifier) (failure : String → Error) (candidates : Candidates) (session later : Session)
    (result : Except Stop Unit) (told : List (OutputMode × Notice)) : Prop where
  given : session.perform (matrixOn surroundings project options.format candidates) = (result, later.logging told)
  fetched : session.perform (matrix surroundings project options) =
    (result, later.logging (fetching project config verifier failure later ++ told))
  report : reportNotices options.format (verifier.matrix candidates).verdicts (.ofReport (verifier.matrix candidates))
    later.mode <:+: told

section
variable {project : Project} {config : Config} {verifier : Verifier} {later : Session}
  (loaded : session.perform (project.loadValid (options.format = .human)) = (.ok config, later))
  (built : config.verifier = .ok verifier)
include loaded built

theorem perform_matrixOn (candidates : Candidates) :
    session.perform (matrixOn surroundings project options.format candidates) =
      later.perform (concludeMatrix surroundings config verifier options.format candidates) := by
  rw [matrixOn, perform_bind_of_ok loaded, built, perform_bind_of_ok (perform_require_ok verifier)]

/-- Both runs go on alike, since nothing but the mode counts for what they tell. -/
theorem perform_matrix_unanswered {failure : String → Error}
    (unanswered : Repository.Unanswered surroundings.send failure) (fetches : options.fetch = true)
    (read : options.candidates.foldlM Candidates.addSpec {} = .ok given) : ∃ result told,
      EndsAlike surroundings project options config verifier failure (withKept project config verifier later.files given)
        session later result told := by
  obtain ⟨result, told, recited⟩ := recites_concludeMatrix surroundings config verifier options.format
    (withKept project config verifier later.files given) later.mode
  have gathered : later.perform (Verification.candidates surroundings (repository project config) verifier options) =
      (.ok (withKept project config verifier later.files given),
        later.logging (fetching project config verifier failure later)) :=
    perform_candidates_fetch rfl unanswered rfl fetches read
  refine ⟨result, told, ?_, ?_, infix_of_recited recited⟩
  · rw [perform_matrixOn loaded built, recited later rfl]
  · rw [perform_matrix loaded built gathered]
    refine (recited (later.logging _) rfl).trans ?_
    rw [logging_append]

end

/-- The matrix runs of a project when all requests fail. One that fetches goes on as if the kept versions had been given
from the start, which one does that does not fetch. -/
structure RunsOnKept (project : Project) (session : Session) (config : Config) (verifier : Verifier) : Prop where
  nodup : (libraries verifier).Nodup
  mem_libraries_iff : ∀ key, key ∈ libraries verifier ↔ ∃ rule ∈ verifier.rules, rule.key = key
  kept : ∀ given, ∀ key ∈ libraries verifier, ∀ listing,
    (listings project config).listing? session.files key = some listing →
    (withKept project config verifier session.files given).get key = (given.extend key listing.versions).get key
  missing : ∀ given key, key ∉ libraries verifier ∨ (listings project config).listing? session.files key = none →
    (withKept project config verifier session.files given).get key = given.get key
  given : ∀ surroundings (options : MatrixOptions) given, options.fetch = false →
    options.candidates.foldlM Candidates.addSpec {} = .ok given →
    matrix surroundings project options = matrixOn surroundings project options.format given
  fetched : ∀ surroundings failure (options : MatrixOptions) given, Repository.Unanswered surroundings.send failure →
    options.fetch = true → options.candidates.foldlM Candidates.addSpec {} = .ok given →
    ∃ later result told, later.files = session.files ∧ EndsAlike surroundings project options config verifier failure
      (withKept project config verifier session.files given) session later result told

/-- When no request brings a document, as when none connects, the kept versions of a library serve, and a matrix run that
fetches ends as if they had been given. -/
theorem unanswered_requests :
    (∀ (send : Repository.Request) (reason : String → String), (∀ url, send url = .error (reason url)) →
      Repository.Unanswered send fun url => .other ("Failed to fetch " ++ url) (some (reason url))) ∧
    (∀ (repository : Repository) cache send failure files now key, repository.cache = some cache →
      Repository.Unanswered send failure → repository.ServesKept cache send failure files now key) ∧
    ∀ (project : Project) (session : Session) config, (session.perform project.load).1 = .ok config → config.Verifiable →
      ∃ verifier, config.verifier = .ok verifier ∧ RunsOnKept project session config verifier := by
  refine ⟨?_, ?_, ?_⟩
  · intro send reason silent url
    exact Repository.document_eq_error_iff.mpr (.inl ⟨reason url, silent url, rfl⟩)
  · intro repository cache send failure files now key cached unanswered
    exact ⟨fun listing => Cache.load_eq_some_iff, Repository.fetch_unanswered cached (unanswered _)⟩
  · intro project session config loaded verifiable
    obtain ⟨verifier, built⟩ := Acceptance.isOk_iff.mp verifiable.verifier
    have each : (libraries verifier).Nodup := (Ascending.foldl_insert_strict _ .nil).nodup
    refine ⟨verifier, built, ?_⟩
    constructor
    case nodup => exact each
    case mem_libraries_iff =>
      intro key
      rw [libraries, ModuleSet.mem_ofList, List.mem_map]
    case kept =>
      intro given key member listing kept
      exact Candidates.get_extended_stored each member kept
    case missing =>
      intro given key nothing
      exact Candidates.get_extended_stored_of_none nothing
    case given =>
      intro surroundings options given stays read
      exact matrix_eq_matrixOn stays read
    case fetched =>
      intro surroundings failure options given unanswered fetches read
      obtain ⟨later, done⟩ := Project.exists_loadValid loaded verifiable (options.format = .human)
      have files : later.files = session.files := by
        have kept := Project.keepsFiles_loadValid project (options.format = .human) session
        rwa [done] at kept
      obtain ⟨result, told, alike⟩ := perform_matrix_unanswered done built unanswered fetches read
      rw [files] at alike
      exact ⟨later, result, told, files, alike⟩

section
private def offlineProject : Project := { root := "/p" }

private def sensor : ModuleKey := ⟨"org.sample", "sensor", isKeyPart_sample, by decide⟩

private def valve : ModuleKey := ⟨"org.sample", "valve", isKeyPart_sample, by decide⟩

private def offlineText : String :=
  "rules: [\x7bgroup: org.sample, module: sensor, versions: '[1,3)'\x7d, " ++
    "\x7bgroup: org.sample, module: valve, versions: 1\x7d]"

private def oldText : String :=
  "\x7b\"module\": \"org.sample:sensor\", \"cached_at\": \"2001-01-01T00:00:00Z\", " ++
    "\"versions\": [\"2.0\", \"1.5\"]\x7d"

private def listingPlace (key : ModuleKey) : Place :=
  ["p", ".muzzle", "cache", "metadata", Sha256.hexOf key.text ++ ".json"]

private def offlineSession : Session :=
  { files := { entries := [(["p", ".muzzle", "config.yml"], .text offlineText), (listingPlace sensor, .text oldText),
      (listingPlace valve, .text "no listing")] } }

private def offlineConfig : Config :=
  { rules := [{ group := "org.sample", module := "sensor", versions := "[1,3)" },
      { group := "org.sample", module := "valve", versions := "1" }] }

private def offlineOptions : MatrixOptions :=
  { candidates := ["org.sample:sensor=1.5.0", "org.sample:valve=1"], fetch := true }

private def respelled : Version := ⟨"1.5.0", [1, 5, 0], none⟩
private def short : Version := ⟨"1.5", [1, 5], none⟩
private def second : Version := ⟨"2.0", [2, 0], none⟩
private def first : Version := ⟨"1", [1], none⟩

private def offlineGiven : Candidates :=
  (({} : Candidates).extend sensor [respelled]).extend valve [first]

private theorem sensor_listing : ((listings offlineProject offlineConfig).listing? offlineSession.files sensor).map
    (·.versions) = some [second, short] := by
  decide +kernel

private theorem valve_listing : (listings offlineProject offlineConfig).listing? offlineSession.files valve = none := by
  decide +kernel

private theorem offline_libraries : offlineConfig.verifier.toOption.map libraries = some [sensor, valve] := by
  decide +kernel

/-- How requests fail when the repository cannot be reached. -/
private def offlineFailure (url : String) : Error :=
  .other ("Failed to fetch " ++ url) (some "the repository does not answer")

/-- A listing of long ago is used, and one that cannot be read is not. Of equal versions the one that the caller has
given stays. -/
theorem unanswered_requests_offline :
    (offlineSession.perform offlineProject.load).1 = .ok offlineConfig ∧ offlineConfig.Verifiable ∧
      offlineOptions.candidates.foldlM Candidates.addSpec {} = .ok offlineGiven ∧
      Repository.Unanswered Repository.unreachable offlineFailure ∧ ∀ now,
        (repository offlineProject offlineConfig).fetch Repository.unreachable offlineSession.files now sensor =
          (offlineSession.files, .ok [second, short]) ∧
        ∃ verifier extended later result told, offlineConfig.verifier = .ok verifier ∧
          Candidates.get extended sensor = [respelled, second] ∧ Candidates.get extended valve = [first] ∧
          offlineSession.perform (matrixOn { now } offlineProject .human extended) =
            (result, Session.logging later told) ∧
          offlineSession.perform (matrix { now } offlineProject offlineOptions) =
            (result, later.logging (fetching offlineProject offlineConfig verifier offlineFailure later ++ told)) := by
  have loaded : (offlineSession.perform offlineProject.load).1 = .ok offlineConfig := by decide +kernel
  have verifiable : offlineConfig.Verifiable := Config.isOk_validate_iff.mp (by decide +kernel)
  have read : offlineOptions.candidates.foldlM Candidates.addSpec {} = .ok offlineGiven := by decide +kernel
  obtain ⟨listing, kept, versions⟩ := Option.map_eq_some_iff.mp sensor_listing
  obtain ⟨unconnected, serves, runs⟩ := unanswered_requests
  have unanswered : Repository.Unanswered Repository.unreachable offlineFailure :=
    unconnected Repository.unreachable _ fun _ => rfl
  obtain ⟨verifier, built, run⟩ := runs offlineProject offlineSession offlineConfig loaded verifiable
  have known := offline_libraries
  rw [built] at known
  have known : libraries verifier = [sensor, valve] := Option.some.inj known
  refine ⟨loaded, verifiable, read, unanswered, ?_⟩
  intro now
  have fetched := (serves (repository offlineProject offlineConfig) (listings offlineProject offlineConfig)
    Repository.unreachable offlineFailure offlineSession.files now sensor rfl unanswered).fetch_eq
  rw [Repository.fallBack, kept] at fetched
  obtain ⟨later, result, told, -, alike⟩ := run.fetched { now } offlineFailure offlineOptions offlineGiven unanswered rfl read
  refine ⟨?_, verifier, _, later, result, told, built, ?_, ?_, alike.given, alike.fetched⟩
  · rw [fetched, ← versions]
  · rw [run.kept offlineGiven sensor (known ▸ List.mem_cons_self) listing kept, versions]
    decide +kernel
  · rw [run.missing offlineGiven valve (.inr valve_listing)]
    decide +kernel

end

end Verification
end Linkage
