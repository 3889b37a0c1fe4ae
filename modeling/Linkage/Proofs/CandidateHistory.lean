import Mathlib.Data.List.Dedup
import Linkage.Proofs.Assignments
import Linkage.Proofs.Fingerprints
import Linkage.Proofs.VersionBindings

/-! Candidates that are collected in place. A text that names a library and its versions is read as a whole before the
first version is added, so one that is refused leaves nothing behind. What is there for a library are the versions that
accepted calls have given for it, equal ones once and in the spelling that came first. -/

namespace Linkage

namespace Text

theorem isEmpty_trim_iff {text : List Char} : (trim text).isEmpty ↔ AllBlank text := by
  rw [List.isEmpty_iff]
  constructor
  · intro empty
    obtain ⟨before, after, start, stop, whole⟩ := exists_trim text
    rw [empty, List.append_nil] at whole
    rw [whole]
    intro c member
    rcases List.mem_append.mp member with first | last
    · exact start c first
    · exact stop c last
  · intro blank
    have nothing : trim ([] ++ text) = trim [] := trim_append_end blank
    exact nothing

end Text

namespace Candidates
open Acceptance Ascending

variable {α β : Type} {candidates : Candidates} {key : ModuleKey} {version : Version} {versions : List Version}
  {spec : String} {error : Error} {front list item : List Char} {items : List (List Char)}

/-- A program that may change candidates and may give up; what it has changed by then stays changed. -/
abbrev InPlace := ExceptT Error (StateM Candidates)

namespace InPlace

def on (program : InPlace α) (candidates : Candidates) : Except Error α × Candidates :=
  program.run.run candidates

/-- Goes on with what has been read. -/
def reading (result : Except Error α) : InPlace α :=
  ExceptT.mk (pure result)

theorem reading_bind_on (result : Except Error α) (next : α → InPlace β) (candidates : Candidates) :
    on (reading result >>= next) candidates = match result with
      | .ok value => on (next value) candidates
      | .error error => (.error error, candidates) := by
  cases result <;> rfl

theorem mapM_reading (f : α → Except Error β) (xs : List α) :
    xs.mapM (fun x => reading (f x)) = reading (xs.mapM f) := by
  induction xs with
  | nil => rfl
  | cons x rest ih =>
    rw [List.mapM_cons, List.mapM_cons, ih]
    cases f x with
    | error error => rfl
    | ok first => cases rest.mapM f <;> rfl

end InPlace

/-- The items of a list of versions that are not passed over. -/
def filled (items : List (List Char)) : List (List Char) :=
  (items.map Text.trim).filter (!·.isEmpty)

/-- The library and the versions that a text names. -/
def readSpec (spec : String) : Except Error (ModuleKey × List Version) :=
  match Text.cut '=' spec.toList with
  | none => throw (.invalidCoordinate spec "expected group:module=version[,version...]")
  | some (key, list) => do
    let key ← ModuleKey.parse (.ofList (Text.trim key))
    let versions ← (filled (Text.fields ',' list)).mapM fun item => Version.parse (.ofList item)
    return (key, versions)

open InPlace in
/-- Adds the versions that a text names. -/
def enter (spec : String) : InPlace Unit :=
  match Text.cut '=' spec.toList with
  | none => throw (.invalidCoordinate spec "expected group:module=version[,version...]")
  | some (key, list) => do
    let key ← reading (ModuleKey.parse (.ofList (Text.trim key)))
    let versions ← (filled (Text.fields ',' list)).mapM fun item => reading (Version.parse (.ofList item))
    modify (·.extend key versions)

inductive Call where
  | add (key : ModuleKey) (version : Version)
  | extend (key : ModuleKey) (versions : List Version)
  | addSpec (spec : String)

def Call.act : Call → InPlace Unit
  | add key version => modify (·.add key version)
  | extend key versions => modify (·.extend key versions)
  | addSpec spec => enter spec

/-- The library and the versions that a call gives, whatever is there already. -/
def Call.gives : Call → Except Error (ModuleKey × List Version)
  | add key version => .ok (key, [version])
  | extend key versions => .ok (key, versions)
  | addSpec spec => readSpec spec

def perform (candidates : Candidates) (call : Call) : Except Error Unit × Candidates :=
  call.act.on candidates

/-- The candidates after a sequence of calls. The caller goes on when one of them is refused. -/
def collect (candidates : Candidates) (calls : List Call) : Candidates :=
  calls.foldl (fun candidates call => (candidates.perform call).2) candidates

variable {call : Call} {calls : List Call}

/-- The text is read as a whole before anything is added. -/
theorem enter_eq (spec : String) :
    enter spec = InPlace.reading (readSpec spec) >>= fun given => modify (·.extend given.1 given.2) := by
  unfold enter readSpec
  cases Text.cut '=' spec.toList with
  | none => rfl
  | some halves =>
    dsimp only
    rw [InPlace.mapM_reading]
    cases ModuleKey.parse (.ofList (Text.trim halves.1)) with
    | error error => rfl
    | ok key => cases (filled (Text.fields ',' halves.2)).mapM fun item => Version.parse (.ofList item) <;> rfl

theorem perform_eq (candidates : Candidates) (call : Call) : candidates.perform call = match call.gives with
    | .ok given => (.ok (), candidates.extend given.1 given.2)
    | .error error => (.error error, candidates) := by
  cases call with
  | add key version => rfl
  | extend key versions => rfl
  | addSpec spec =>
    rw [perform, Call.act, enter_eq, InPlace.reading_bind_on, Call.gives]
    cases readSpec spec <;> rfl

theorem perform_of_gives (given : call.gives = .ok (key, versions)) :
    candidates.perform call = (.ok (), candidates.extend key versions) := by
  rw [perform_eq, given]

theorem perform_of_refusal (given : call.gives = .error error) :
    candidates.perform call = (.error error, candidates) := by
  rw [perform_eq, given]

theorem addSpec_eq (candidates : Candidates) (spec : String) :
    candidates.addSpec spec = (readSpec spec).map fun given => candidates.extend given.1 given.2 := by
  unfold addSpec readSpec
  cases Text.cut '=' spec.toList with
  | none => rfl
  | some halves =>
    dsimp only
    rw [← filled]
    cases ModuleKey.parse (.ofList (Text.trim halves.1)) with
    | error error => rfl
    | ok key => cases (filled (Text.fields ',' halves.2)).mapM fun item => Version.parse (.ofList item) <;> rfl

/-- In place there is afterwards what a call on values gives, if it gives anything. -/
theorem perform_addSpec (candidates : Candidates) (spec : String) :
    candidates.perform (.addSpec spec) = match candidates.addSpec spec with
      | .ok next => (.ok (), next)
      | .error error => (.error error, candidates) := by
  rw [addSpec_eq, perform_eq, Call.gives]
  cases readSpec spec <;> rfl

/-- The items of a list and the versions in them, with white space around them. Items of white space alone are passed
over. -/
inductive Lists : List (List Char) → List Version → Prop where
  | nil : Lists [] []
  | empty {item : List Char} {items : List (List Char)} {versions : List Version} (blank : Text.AllBlank item)
      (rest : Lists items versions) : Lists (item :: items) versions
  | version {before word after : List Char} {items : List (List Char)} {version : Version} {versions : List Version}
      (start : Text.AllBlank before) (read : Version.parse (.ofList word) = .ok version) (stop : Text.AllBlank after)
      (rest : Lists items versions) : Lists ((before ++ word ++ after) :: items) (version :: versions)

theorem parse_trim_iff :
    Version.parse (.ofList (Text.trim item)) = .ok version ↔ Version.parse (.ofList item) = .ok version := by
  rw [Version.parse_eq_ok_iff, Version.parse_eq_ok_iff, String.toList_ofList, String.toList_ofList, Version.read_trim]

theorem not_allBlank_of_parse (read : Version.parse (.ofList item) = .ok version) : ¬ Text.AllBlank item := by
  rw [Version.parse_eq_ok_iff, String.toList_ofList, Version.read_eq_ok_iff] at read
  rw [← Text.isEmpty_trim_iff, List.isEmpty_iff]
  exact read.1

theorem filled_cons_of_blank (blank : Text.AllBlank item) : filled (item :: items) = filled items := by
  rw [filled, List.map_cons, List.filter_cons_of_neg, ← filled]
  rw [Text.isEmpty_trim_iff.mpr blank]
  decide

theorem filled_cons_of_not_blank (word : ¬ Text.AllBlank item) :
    filled (item :: items) = Text.trim item :: filled items := by
  rw [filled, List.map_cons, List.filter_cons_of_pos, ← filled]
  rw [← Text.isEmpty_trim_iff, Bool.not_eq_true] at word
  rw [word]
  rfl

theorem lists_iff :
    Lists items versions ↔ (filled items).mapM (fun item => Version.parse (.ofList item)) = .ok versions := by
  constructor
  · intro lists
    induction lists with
    | nil => rfl
    | empty blank _ ih => rwa [filled_cons_of_blank blank]
    | version start read stop _ ih =>
      rw [← parse_trim_iff, ← Text.trim_surround start stop] at read
      rw [filled_cons_of_not_blank (not_allBlank_of_parse (parse_trim_iff.mp read)), List.mapM_cons, read, ih]
      rfl
  · intro read
    induction items generalizing versions with
    | nil =>
      obtain rfl : [] = versions := Except.ok.inj read
      exact .nil
    | cons item items ih =>
      by_cases blank : Text.AllBlank item
      · rw [filled_cons_of_blank blank] at read
        exact .empty blank (ih read)
      · rw [filled_cons_of_not_blank blank, List.mapM_cons, bind_eq_ok_iff] at read
        obtain ⟨first, head, read⟩ := read
        obtain ⟨others, tail, same⟩ := bind_eq_ok_iff.mp read
        obtain rfl : first :: others = versions := Except.ok.inj same
        obtain ⟨before, after, start, stop, whole⟩ := Text.exists_trim item
        rw [whole]
        exact .version start head stop (ih tail)

/-- A list can be read if its items can. -/
theorem exists_lists_iff : (∃ versions, Lists items versions) ↔
    ∀ item ∈ items, ¬ Text.AllBlank item → (Version.parse (.ofList item)).isOk := by
  simp only [lists_iff, ← isOk_iff, isOk_mapM_iff]
  constructor
  · intro read item member word
    have listed : Text.trim item ∈ filled items := by
      apply List.mem_filter.mpr ⟨List.mem_map_of_mem member, ?_⟩
      rw [← Text.isEmpty_trim_iff] at word
      simpa using word
    obtain ⟨version, given⟩ := isOk_iff.mp (read _ listed)
    exact isOk_iff.mpr ⟨version, parse_trim_iff.mp given⟩
  · intro read text chosen
    obtain ⟨member, word⟩ := List.mem_filter.mp chosen
    obtain ⟨item, listed, rfl⟩ := List.mem_map.mp member
    have word : ¬ Text.AllBlank item := by
      rw [← Text.isEmpty_trim_iff]
      simpa using word
    obtain ⟨version, given⟩ := isOk_iff.mp (read item listed word)
    exact isOk_iff.mpr ⟨version, parse_trim_iff.mpr given⟩

theorem parseKey_trim_iff :
    ModuleKey.parse (.ofList (Text.trim front)) = .ok key ↔ ModuleKey.parse (.ofList front) = .ok key := by
  rw [ModuleKey.parse_eq_ok_iff, ModuleKey.parse_eq_ok_iff, String.toList_ofList, String.toList_ofList, Text.trim_trim]

theorem readSpec_eq_ok_iff (plain : '=' ∉ front) : readSpec (.ofList (front ++ '=' :: list)) = .ok (key, versions) ↔
    ModuleKey.parse (.ofList front) = .ok key ∧ Lists (Text.fields ',' list) versions := by
  rw [readSpec, String.toList_ofList, Text.cut_append plain]
  simp only [bind_eq_ok_iff, parseKey_trim_iff, ← lists_iff]
  constructor
  · intro read
    obtain ⟨other, named, others, listed, same⟩ := read
    cases same
    exact ⟨named, listed⟩
  · intro read
    exact ⟨key, read.1, versions, read.2, rfl⟩

/-- An equals sign is missing, or what stands on one side of the first one cannot be read. -/
inductive Refused (spec : String) : Prop where
  | whole (plain : '=' ∉ spec.toList)
  | library (front list : List Char) (split : spec.toList = front ++ '=' :: list) (first : '=' ∉ front)
      (unreadable : ¬ (ModuleKey.parse (.ofList front)).isOk)
  | version (front list item : List Char) (split : spec.toList = front ++ '=' :: list) (first : '=' ∉ front)
      (member : item ∈ Text.fields ',' list) (word : ¬ Text.AllBlank item)
      (unreadable : ¬ (Version.parse (.ofList item)).isOk)

theorem isOk_readSpec_of_split (split : spec.toList = front ++ '=' :: list) (first : '=' ∉ front) :
    (readSpec spec).isOk ↔ (ModuleKey.parse (.ofList front)).isOk ∧
      ∀ item ∈ Text.fields ',' list, ¬ Text.AllBlank item → (Version.parse (.ofList item)).isOk := by
  rw [← exists_lists_iff, isOk_iff, isOk_iff, ← String.ofList_toList (s := spec), split, Prod.exists]
  simp only [readSpec_eq_ok_iff first, exists_and_left, exists_and_right]

theorem not_isOk_readSpec_iff : ¬ (readSpec spec).isOk ↔ Refused spec := by
  by_cases plain : '=' ∈ spec.toList
  · obtain ⟨front, list, split, first⟩ := List.eq_append_cons_of_mem plain
    constructor
    · intro failed
      rw [isOk_readSpec_of_split split first] at failed
      by_cases named : (ModuleKey.parse (.ofList front)).isOk
      · push Not at failed
        obtain ⟨item, member, word, unreadable⟩ := failed named
        exact .version front list item split first member word unreadable
      · exact .library front list split first named
    · intro refused
      cases refused with
      | whole absent => exact absurd plain absent
      | library front list split first unreadable =>
        rw [isOk_readSpec_of_split split first]
        exact fun read => unreadable read.1
      | version front list item split first member word unreadable =>
        rw [isOk_readSpec_of_split split first]
        exact fun read => unreadable (read.2 item member word)
  · refine iff_of_true ?_ (.whole plain)
    rw [readSpec, Text.cut_eq_none_iff.mpr plain]
    exact Bool.false_ne_true

theorem perform_addSpec_of_refused (refused : Refused spec) :
    ∃ error, candidates.perform (.addSpec spec) = (.error error, candidates) := by
  rw [← not_isOk_readSpec_iff] at refused
  rw [perform_eq, Call.gives]
  cases given : readSpec spec with
  | ok pair =>
    rw [given] at refused
    exact absurd rfl refused
  | error error => exact ⟨error, rfl⟩

theorem refused_of_perform (failed : (candidates.perform (.addSpec spec)).1 = .error error) : Refused spec := by
  rw [← not_isOk_readSpec_iff]
  intro readable
  obtain ⟨given, read⟩ := isOk_iff.mp readable
  rw [perform_eq, Call.gives, read] at failed
  cases failed

/-- A text that is put together of a key and of items, with a comma between them. -/
def written (front : List Char) (items : List (List Char)) : String :=
  .ofList (front ++ '=' :: [','].intercalate items)

theorem perform_written (plain : '=' ∉ front) (apart : ∀ item ∈ items, ',' ∉ item)
    (named : ModuleKey.parse (.ofList front) = .ok key) (lists : Lists items versions) :
    candidates.perform (.addSpec (written front items)) = (.ok (), candidates.extend key versions) := by
  apply perform_of_gives
  apply (readSpec_eq_ok_iff plain).mpr ⟨named, ?_⟩
  cases items with
  | nil =>
    -- Nothing between commas is one empty item.
    cases lists
    exact .empty (fun _ member => absurd member List.not_mem_nil) .nil
  | cons item others =>
    have cut : Text.fields ',' ([','].intercalate (item :: others)) = item :: others :=
      Text.fields_eq_iff.mpr ⟨List.cons_ne_nil item others, rfl, apart⟩
    rwa [cut]

/-- What the accepted calls give, in the order of the calls. -/
def accepted (calls : List Call) : List (ModuleKey × List Version) :=
  calls.filterMap (·.gives.toOption)

/-- All versions that are given for a library. -/
def versionsFor (key : ModuleKey) (given : List (ModuleKey × List Version)) : List Version :=
  (given.filter (·.1 = key)).flatMap (·.2)

/-- The libraries that versions are given for, each once. -/
def libraries (given : List (ModuleKey × List Version)) : List ModuleKey :=
  (given.map (·.1)).dedup

/-- The number of versions of which no two are equal. -/
def different (versions : List Version) : Nat :=
  (versions.map Version.identity).dedup.length

theorem collect_eq (candidates : Candidates) (calls : List Call) :
    candidates.collect calls = candidates.extended (accepted calls) := by
  induction calls generalizing candidates with
  | nil => rfl
  | cons call rest ih =>
    rw [collect, List.foldl_cons, ← collect, ih]
    cases given : call.gives with
    | ok pair =>
      have chosen : accepted (call :: rest) = pair :: accepted rest := by
        rw [accepted, List.filterMap_cons, given]
        rfl
      rw [perform_of_gives given, chosen]
      rfl
    | error error =>
      have chosen : accepted (call :: rest) = accepted rest := by
        rw [accepted, List.filterMap_cons, given]
        rfl
      rw [perform_of_refusal given, chosen]

theorem get_extend (candidates : Candidates) (place key : ModuleKey) (added : List Version) :
    (candidates.extend place added).get key =
      if place = key then added.foldl (fun set version => Version.insert version set) (candidates.get key)
      else candidates.get key := by
  unfold extend get
  rw [ModuleMap.find?_insert]
  split
  next same =>
    subst same
    rfl
  next => rfl

variable {given rest : List (ModuleKey × List Version)} {pair : ModuleKey × List Version}

theorem versionsFor_cons_of_eq (same : pair.1 = key) :
    versionsFor key (pair :: rest) = pair.2 ++ versionsFor key rest := by
  rw [versionsFor, List.filter_cons_of_pos (by simpa using same), List.flatMap_cons, ← versionsFor]

theorem versionsFor_cons_of_ne (other : pair.1 ≠ key) : versionsFor key (pair :: rest) = versionsFor key rest := by
  rw [versionsFor, List.filter_cons_of_neg (by simpa using other), ← versionsFor]

/-- The versions of a library are inserted one after the other, wherever they stand between those of others. -/
theorem get_extended (candidates : Candidates) (given : List (ModuleKey × List Version)) (key : ModuleKey) :
    (candidates.extended given).get key =
      (versionsFor key given).foldl (fun set version => Version.insert version set) (candidates.get key) := by
  induction given generalizing candidates with
  | nil => rfl
  | cons call rest ih =>
    rw [extended, List.foldl_cons, ← extended, ih, get_extend]
    split
    next same => rw [versionsFor_cons_of_eq same, List.foldl_append]
    next other => rw [versionsFor_cons_of_ne other]

theorem mem_get_iff : version ∈ (({} : Candidates).extended given).get key ↔
    Ascending.First Version.compare (versionsFor key given) version := by
  have empty : ({} : Candidates).get key = [] := rfl
  rw [get_extended, empty]
  exact mem_ofList_iff

theorem holds_get_iff : Holds Version.compare ((({} : Candidates).extended given).get key) version ↔
    Holds Version.compare (versionsFor key given) version := by
  have empty : ({} : Candidates).get key = [] := rfl
  rw [get_extended, empty]
  exact holds_ofList

theorem versions_strict (strict : Strict ModuleMap.compareKeys candidates.versions) :
    Strict ModuleMap.compareKeys (candidates.extended given).versions :=
  List.foldlRecOn (motive := fun candidates : Candidates => Strict ModuleMap.compareKeys candidates.versions) given _
    strict fun _ strict _ _ => ModuleMap.insert_strict strict

theorem mem_keys_extended :
    key ∈ (candidates.extended given).versions.keys ↔ key ∈ given.map (·.1) ∨ key ∈ candidates.versions.keys := by
  induction given generalizing candidates with
  | nil => simp [extended]
  | cons call rest ih =>
    rw [extended, List.foldl_cons, ← extended, ih, extend, ModuleMap.mem_keys_insert, List.map_cons, List.mem_cons,
      or_left_comm, or_assoc]

theorem compare_eq_iff_identity {a b : Version} : Version.compare a b = .eq ↔ a.identity = b.identity :=
  Version.same_iff.symm.trans Version.same_iff_identity

theorem mem_identities_iff :
    version.identity ∈ versions.map Version.identity ↔ Holds Version.compare versions version := by
  rw [List.mem_map]
  apply exists_congr
  intro twin
  rw [compare_eq_iff_identity]

/-- A set has as many elements as there are different ones among those that it holds. -/
theorem length_eq_different {set : List Version} (strict : Strict Version.compare set)
    (held : ∀ version, Holds Version.compare set version ↔ Holds Version.compare versions version) :
    set.length = different versions := by
  have distinct : (set.map Version.identity).Nodup := by
    apply List.pairwise_map.mpr
    apply strict.imp
    intro a b below same
    rw [compare_eq_iff_identity.mpr same] at below
    cases below
  have known : (set.map Version.identity).Perm (versions.map Version.identity).dedup := by
    rw [List.perm_ext_iff_of_nodup distinct (List.nodup_dedup _)]
    intro identity
    rw [List.mem_dedup]
    constructor
    · intro member
      obtain ⟨version, -, rfl⟩ := List.mem_map.mp member
      rwa [mem_identities_iff, held, ← mem_identities_iff] at member
    · intro member
      obtain ⟨version, -, rfl⟩ := List.mem_map.mp member
      rwa [mem_identities_iff, ← held, ← mem_identities_iff] at member
  rw [different, ← known.length_eq, List.length_map]

theorem size_eq_sum (strict : Strict ModuleMap.compareKeys candidates.versions) :
    candidates.size = (candidates.versions.keys.map fun key => (candidates.get key).length).sum := by
  have counted : candidates.size = (candidates.versions.map (·.2.length)).sum := by
    rw [size, List.sum_eq_foldl, List.foldl_map]
  rw [counted, ModuleMap.keys, List.map_map]
  congr 1
  apply List.map_congr_left
  intro entry member
  have found : candidates.versions.find? entry.1 = some entry.2 := (ModuleMap.find?_eq_some_iff strict).mpr member
  rw [Function.comp_apply, get, found, Option.getD_some]

theorem size_extended (given : List (ModuleKey × List Version)) : (({} : Candidates).extended given).size =
    ((libraries given).map fun key => different (versionsFor key given)).sum := by
  have strict : Strict ModuleMap.compareKeys (({} : Candidates).extended given).versions := versions_strict .nil
  have known : (({} : Candidates).extended given).versions.keys.Perm (libraries given) := by
    rw [libraries, List.perm_ext_iff_of_nodup (ModuleMap.keys_nodup strict) (List.nodup_dedup _)]
    intro key
    rw [List.mem_dedup, mem_keys_extended]
    exact or_iff_left List.not_mem_nil
  rw [size_eq_sum strict, (known.map _).sum_eq]
  congr 1
  apply List.map_congr_left
  intro key _
  exact length_eq_different (strict_get_fresh given key) fun _ => holds_get_iff

/-- What candidates hold, and what a further text does to them, when the given versions were accepted. -/
structure Collected (candidates : Candidates) (given : List (ModuleKey × List Version)) : Prop where
  refused : ∀ spec, Refused spec → ∃ error, candidates.perform (.addSpec spec) = (.error error, candidates)
  failed : ∀ spec error, (candidates.perform (.addSpec spec)).1 = .error error → Refused spec
  performed : ∀ spec, candidates.perform (.addSpec spec) = match candidates.addSpec spec with
    | .ok next => (.ok (), next)
    | .error error => (.error error, candidates)
  ascending : ∀ key, Strict Version.compare (candidates.get key)
  held : ∀ key version,
    Holds Version.compare (candidates.get key) version ↔ Holds Version.compare (versionsFor key given) version
  members : ∀ key version, version ∈ candidates.get key ↔ First Version.compare (versionsFor key given) version
  size : candidates.size = ((libraries given).map fun key => different (versionsFor key given)).sum
  written : ∀ front items key versions, '=' ∉ front → (∀ item ∈ items, ',' ∉ item) →
    ModuleKey.parse (.ofList front) = .ok key → Lists items versions →
    candidates.perform (.addSpec (written front items)) = candidates.perform (.extend key versions)

/-- Whatever calls there were, and whichever of them were refused: a further text is refused just if it cannot be read,
and then it changes nothing; a text that is put together of readable items adds these, as if they were given as values.
What is there for a library ascends strictly and holds what the accepted calls have given for it, and nothing else; of
equal versions the one that came first. As many candidates are there as these are different. -/
theorem collect_history (calls : List Call) : Collected (({} : Candidates).collect calls) (accepted calls) := by
  constructor
  case refused => exact fun _ => perform_addSpec_of_refused
  case failed => exact fun _ _ => refused_of_perform
  case performed => exact perform_addSpec _
  case written =>
    intro front items key versions plain apart named lists
    rw [perform_written plain apart named lists]
    rfl
  all_goals rw [collect_eq {} calls]
  case ascending => exact strict_get_fresh _
  case held => exact fun _ _ => holds_get_iff
  case members => exact fun _ _ => mem_get_iff
  case size => exact size_extended _

section
private def gauge : ModuleKey := ⟨"org.sample", "gauge", isKeyPart_sample, by decide⟩

private def one : Version := ⟨"1.0", [1, 0], none⟩
private def two : Version := ⟨"2.0", [2, 0], none⟩
private def respelled : Version := ⟨"1.0.0", [1, 0, 0], none⟩

private def gaugeItems : List (List Char) := [" 2.0".toList, [], "\t1.0.0 ".toList, [' ']]

private def broken : String := "org.sample:gauge=3.0,4 0"

private def gaugeCalls : List Call :=
  [.add gauge one, .addSpec broken, .addSpec (written " org.sample:gauge ".toList gaugeItems)]

/-- Of a text with one bad version nothing is added; a version that comes again keeps its first spelling. -/
theorem collect_history_gauge :
    Refused broken ∧ ('=' ∉ " org.sample:gauge ".toList ∧ ∀ item ∈ gaugeItems, ',' ∉ item) ∧
      ModuleKey.parse (.ofList " org.sample:gauge ".toList) = .ok gauge ∧ Lists gaugeItems [two, respelled] ∧
      (({} : Candidates).collect gaugeCalls).get gauge = [one, two] ∧
      (({} : Candidates).collect gaugeCalls).size = 2 ∧
      (({} : Candidates).collect gaugeCalls).perform (.addSpec (written " org.sample:gauge ".toList gaugeItems)) =
        (({} : Candidates).collect gaugeCalls).perform (.extend gauge [two, respelled]) := by
  have plain : '=' ∉ " org.sample:gauge ".toList := by decide
  have apart : ∀ item ∈ gaugeItems, ',' ∉ item := by decide
  have named : ModuleKey.parse (.ofList " org.sample:gauge ".toList) = .ok gauge := by decide +kernel
  have lists : Lists gaugeItems [two, respelled] := lists_iff.mpr (by decide +kernel)
  have history := collect_history gaugeCalls
  have failed : ∃ error, ((({} : Candidates).collect gaugeCalls).perform (.addSpec broken)).1 = .error error :=
    ⟨_, rfl⟩
  obtain ⟨error, failed⟩ := failed
  refine ⟨history.failed broken error failed, ⟨plain, apart⟩, named, lists, ?_, ?_,
    history.written _ _ _ _ plain apart named lists⟩
  · decide +kernel
  · decide +kernel

end

end Candidates
end Linkage
