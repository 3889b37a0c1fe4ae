import Linkage.Files
import Linkage.Proofs.TextCutting

/-! What becomes of files that are changed. A name leads from a directory to the place right below it, however the
directory is written. Listing an entry shows at its own place and at the directories above, and nowhere else. A directory
that could be made is there afterwards, and writing a file right below it then fails only if a directory stands in the
way; in that case nothing had to be made. -/

namespace Linkage

namespace Text
variable {text part : String}

theorem startsWith_slash_iff : text.startsWith "/" ↔ text.toList.head? = some '/' := by
  rw [String.startsWith_string_iff]
  cases text.toList with
  | nil => simp
  | cons c rest => simp [eq_comm]

theorem endsWith_iff : text.endsWith part ↔ part.toList <:+ text.toList := by
  rw [String.endsWith_eq_endsWith_toSlice, String.Slice.endsWith_string_iff, String.copy_toSlice]

end Text

namespace Path
variable {base name rest : String}

/-- A name that leads one step further. -/
def IsName (name : String) : Prop :=
  name ≠ "" ∧ name ≠ "." ∧ name ≠ ".." ∧ '/' ∉ name.toList

instance : Decidable (IsName name) :=
  inferInstanceAs (Decidable (_ ∧ _ ∧ _ ∧ _))

theorem names_slash (base rest : String) : names (base ++ "/" ++ rest) = names base ++ names rest := by
  have split : (base ++ "/" ++ rest).toList = base.toList ++ '/' :: rest.toList := by simp
  rw [names, split, Text.fields_append_fields, List.filterMap_append, names, names]

theorem names_empty : names "" = [] :=
  rfl

theorem names_of_isName (named : IsName name) : names name = [name] := by
  obtain ⟨filled, step, -, whole⟩ := named
  have further : name.toList ≠ ['.'] := by
    intro same
    exact step (String.toList_inj.mp same)
  simp [names, Text.fields_of_not_mem whole, filled, further]

theorem IsName.relative (named : IsName name) : name.startsWith "/" = false := by
  rw [Bool.eq_false_iff, ne_eq, Text.startsWith_slash_iff]
  intro first
  exact named.2.2.2 (List.mem_of_mem_head? first)

theorem names_join (named : IsName name) : names (join base name) = names base ++ [name] := by
  rw [join, named.relative, Bool.false_or]
  split
  next empty =>
    rw [String.isEmpty_iff.mp empty, names_empty, names_of_isName named]
    rfl
  next =>
    split
    next slash =>
      obtain ⟨front, whole⟩ := Text.endsWith_iff.mp slash
      have split : base = String.ofList front ++ "/" ++ "" := by
        rw [← String.toList_inj, ← whole]
        simp
      have again : base ++ name = String.ofList front ++ "/" ++ name := by
        rw [split, String.append_empty]
      rw [again, names_slash, split, names_slash, names_empty, List.append_nil, names_of_isName named]
    next => rw [names_slash, names_of_isName named]

theorem startsWith_join (named : IsName name) : (join base name).startsWith "/" = base.startsWith "/" := by
  rw [join, named.relative, Bool.false_or]
  split
  next empty =>
    rw [String.isEmpty_iff.mp empty, named.relative]
    rfl
  next filled =>
    have nonempty : base.toList ≠ [] := by simpa using filled
    obtain ⟨c, others, whole⟩ := List.exists_cons_of_ne_nil nonempty
    split <;> rw [Bool.eq_iff_iff, Text.startsWith_slash_iff, Text.startsWith_slash_iff] <;> simp [whole]

end Path

namespace Files
variable {files later : Files} {path directory name content : String} {place other : Place} {entry : Entry}
  {failure : AccessFailure}

theorem place_join (named : Path.IsName name) : files.place (Path.join path name) = files.place path ++ [name] := by
  rw [place, Path.startsWith_join named, Path.names_join named, List.foldl_append, ← place]
  exact if_neg named.2.2.1

@[simp]
theorem place_put : (files.put place entry).place path = files.place path :=
  rfl

theorem lookup_put : (files.put place entry).entries.lookup other =
    if other = place then some entry else files.entries.lookup other := by
  rw [put]
  dsimp only
  induction files.entries with
  | nil =>
    by_cases same : other = place
    · simp [same]
    · simp [same, List.lookup_cons, beq_false_of_ne same]
  | cons first rest ih =>
    obtain ⟨listed, held⟩ := first
    by_cases replaced : listed = place
    · rw [List.filter_cons_of_neg (by simpa using replaced), ih]
      by_cases same : other = place
      · simp [same]
      · simp [same, List.lookup_cons, replaced, beq_false_of_ne same]
    · rw [List.filter_cons_of_pos (by simpa using replaced), List.cons_append, List.lookup_cons, List.lookup_cons, ih]
      by_cases found : other = listed
      · simp [found, replaced]
      · simp [beq_false_of_ne found]

theorem entryAt?_put_self : (files.put place entry).entryAt? place = some entry := by
  rw [entryAt?, lookup_put, if_pos rfl]

/-- A change shows at its place and above, where there is a directory now. -/
theorem entryAt?_put_of_apart (apart : ¬ other <+: place) :
    (files.put place entry).entryAt? other = files.entryAt? other := by
  have different : other ≠ place := by
    rintro rfl
    exact apart List.prefix_rfl
  have own : other.isPrefixOf place = false := by
    rwa [Bool.eq_false_iff, ne_eq, List.isPrefixOf_iff_prefix]
  have below : (files.put place entry).entries.any (fun entry => other.isPrefixOf entry.1) =
      files.entries.any fun entry => other.isPrefixOf entry.1 := by
    rw [put, List.any_append, List.any_filter, List.any_cons, List.any_nil, own, Bool.or_false, Bool.or_false]
    refine congrArg files.entries.any (funext fun listed => ?_)
    by_cases same : listed.1 = place <;> simp [same, own]
  rw [entryAt?, lookup_put, if_neg different, below, entryAt?]

/-- Only directories need not be listed themselves. -/
theorem lookup_of_entryAt? (found : files.entryAt? place = some entry) (plain : entry ≠ .directory) :
    files.entries.lookup place = some entry := by
  rw [entryAt?] at found
  split at found
  next listed there => rwa [there]
  next =>
    split at found
    · exact absurd (Option.some.inj found).symm plain
    · contradiction

theorem entryAt?_eq_none_iff : files.entryAt? place = none ↔
    place ≠ [] ∧ ∀ entry ∈ files.entries, ¬ place <+: entry.1 := by
  have unlisted (nothing : ∀ entry ∈ files.entries, ¬ place <+: entry.1) : files.entries.lookup place = none := by
    rw [List.lookup_eq_none_iff]
    intro entry member
    rw [bne_iff_ne]
    rintro rfl
    exact nothing entry member List.prefix_rfl
  rw [entryAt?]
  constructor
  · intro absent
    split at absent
    next => contradiction
    next => simpa [List.isPrefixOf_iff_prefix] using absent
  · rintro ⟨inside, nothing⟩
    rw [unlisted nothing]
    simpa [List.isPrefixOf_iff_prefix] using ⟨inside, fun held listed member => nothing (held, listed) member⟩

/-- What is not there has nothing below it. -/
theorem entryAt?_below_eq_none (absent : files.entryAt? place = none) (below : place <+: other) :
    files.entryAt? other = none := by
  obtain ⟨inside, nothing⟩ := entryAt?_eq_none_iff.mp absent
  refine entryAt?_eq_none_iff.mpr ⟨?_, fun entry member further => nothing entry member (below.trans further)⟩
  rintro rfl
  exact inside (List.prefix_nil.mp below)

/-- The file at a place; a directory is none. -/
def file? (files : Files) (place : Place) : Option Entry :=
  (files.entries.lookup place).filter (· ≠ .directory)

theorem isFile_eq (files : Files) (place : Place) : files.isFile place = (files.file? place).isSome := by
  rw [isFile, file?]
  cases files.entries.lookup place with
  | none => rfl
  | some entry => cases entry <;> rfl

theorem file?_put_of_ne (different : other ≠ place) : (files.put place entry).file? other = files.file? other := by
  rw [file?, lookup_put, if_neg different, file?]

/-- Making a directory leaves all files alone. -/
theorem file?_put_directory (free : files.isFile place = false) (other : Place) :
    (files.put place .directory).file? other = files.file? other := by
  by_cases same : other = place
  · rw [isFile_eq, Option.isSome_eq_false_iff, Option.isNone_iff_eq_none] at free
    rw [same, free, file?, lookup_put, if_pos rfl]
    rfl
  · exact file?_put_of_ne same

theorem isBlocked_eq_false_iff : files.isBlocked place = false ↔
    ∀ count, count < place.length → files.isFile (place.take count) = false := by
  simp [isBlocked]

theorem isBlocked_below (unblocked : files.isBlocked place = false) (free : files.isFile place = false) :
    files.isBlocked (place ++ [name]) = false := by
  rw [isBlocked_eq_false_iff] at unblocked ⊢
  intro count within
  rw [List.length_append, List.length_singleton, Nat.lt_succ_iff] at within
  rw [List.take_append_of_le_length within]
  rcases within.lt_or_eq with above | same
  · exact unblocked count above
  · rwa [same, List.take_length]

/-- A change blocks nothing at its own place. -/
theorem isBlocked_put (unblocked : files.isBlocked place = false) : (files.put place entry).isBlocked place = false := by
  rw [isBlocked_eq_false_iff] at unblocked ⊢
  intro count above
  have different : place.take count ≠ place := by
    intro same
    have shorter := congrArg List.length same
    rw [List.length_take] at shorter
    omega
  rw [isFile_eq, file?_put_of_ne different, ← isFile_eq]
  exact unblocked count above

/-- A directory that can be made is there already or is listed now. -/
inductive Made (files : Files) (place : Place) : Files → Prop where
  | there (found : files.entryAt? place = some .directory) : Made files place files
  | listed (absent : files.entryAt? place = none) : Made files place (files.put place .directory)

theorem isFile_of_entryAt? (found : files.entryAt? place = some entry) (plain : entry ≠ .directory) :
    files.isFile place := by
  rw [isFile_eq, file?, lookup_of_entryAt? found plain]
  simpa using plain

theorem made_of_makeDirectory (made : files.makeDirectory directory = .ok later) :
    files.isFile (files.place directory) = false ∧ files.isBlocked (files.place directory) = false ∧
      Made files (files.place directory) later := by
  rw [makeDirectory] at made
  split at made
  next => contradiction
  next free =>
    split at made
    next => contradiction
    next unblocked =>
      refine ⟨Bool.eq_false_iff.mpr free, Bool.eq_false_iff.mpr unblocked, ?_⟩
      split at made
      next found =>
        obtain rfl := Except.ok.inj made
        exact .there found
      next missing =>
        obtain rfl := Except.ok.inj made
        refine .listed (Option.eq_none_iff_forall_ne_some.mpr fun entry found => ?_)
        refine free (isFile_of_entryAt? found ?_)
        rintro rfl
        exact missing found

namespace Made

theorem place_eq (made : Made files place later) (path : String) : later.place path = files.place path := by
  cases made <;> rfl

theorem entryAt?_eq (made : Made files place later) (apart : ¬ other <+: place) :
    later.entryAt? other = files.entryAt? other := by
  cases made with
  | there found => rfl
  | listed absent => exact entryAt?_put_of_apart apart

theorem file?_eq (made : Made files place later) (free : files.isFile place = false) (other : Place) :
    later.file? other = files.file? other := by
  cases made with
  | there found => rfl
  | listed absent => exact file?_put_directory free other

end Made

theorem eq_of_write (written : files.write path content = .ok later) :
    later = files.put (files.place path) (.text content) := by
  rw [write] at written
  split at written
  next => contradiction
  next => exact (Except.ok.inj written).symm
  next =>
    split at written
    next => contradiction
    next =>
      split at written
      next => exact (Except.ok.inj written).symm
      next => contradiction

/-- Only a directory in its place keeps a file out of a directory. -/
theorem entryAt?_of_write_below {below : Place} (here : files.place path = below ++ [name])
    (unblocked : files.isBlocked below = false) (free : files.isFile below = false)
    (found : files.entryAt? below = some .directory) (failed : files.write path content = .error failure) :
    files.entryAt? (files.place path) = some .directory := by
  rw [write] at failed
  split at failed
  next there => exact there
  next => contradiction
  next absent =>
    rw [here, isBlocked_below unblocked free, if_neg Bool.false_ne_true, List.dropLast_concat, if_pos found] at failed
    contradiction

/-- When a directory had to be made, nothing is in the way of a file in it. -/
theorem eq_of_write_below_error (made : files.makeDirectory directory = .ok later)
    (here : files.place path = files.place directory ++ [name]) (failed : later.write path content = .error failure) :
    later = files := by
  obtain ⟨free, unblocked, made⟩ := made_of_makeDirectory made
  cases made with
  | there found => rfl
  | listed absent =>
    have fresh : (files.put (files.place directory) .directory).isFile (files.place directory) = false := by
      rwa [isFile_eq, file?_put_directory free, ← isFile_eq]
    have behind : (files.put (files.place directory) .directory).place path = files.place directory ++ [name] := here
    have blocking := entryAt?_of_write_below behind (isBlocked_put unblocked) fresh entryAt?_put_self failed
    have apart : ¬ files.place path <+: files.place directory := by
      intro shorter
      have bound := shorter.length_le
      rw [here, List.length_append, List.length_singleton] at bound
      omega
    have nothing : files.entryAt? (files.place path) = none :=
      entryAt?_below_eq_none absent (here ▸ List.prefix_append _ _)
    rw [behind, ← here, entryAt?_put_of_apart apart, nothing] at blocking
    contradiction

theorem read_eq_ok_iff : files.read path = .ok content ↔ files.entry? path = some (.text content) := by
  rw [read]
  split
  next text found => simp [found, pure, Except.pure]
  next found => simp [found]
  next found => simp [found]
  next missing => simp [missing]

theorem contains_of_read (found : files.read path = .ok content) : files.contains path := by
  rw [contains, read_eq_ok_iff.mp found]
  rfl

theorem read_congr (same : later.entry? path = files.entry? path) (there : files.contains path) :
    later.read path = files.read path := by
  obtain ⟨entry, found⟩ := Option.isSome_iff_exists.mp there
  rw [read, read, same, found]
  cases entry <;> rfl

theorem write_of_read {text : String} (found : files.read path = .ok text) :
    files.write path content = .ok (files.put (files.place path) (.text content)) := by
  have entry : files.entryAt? (files.place path) = some (.text text) := read_eq_ok_iff.mp found
  rw [write, entry]
  rfl

theorem read_put : (files.put (files.place path) (.text content)).read path = .ok content :=
  read_eq_ok_iff.mpr entryAt?_put_self

end Files
end Linkage
