import Mathlib.Data.List.TakeWhile
import Linkage.Text.Blank

/-! Cutting texts. Trimming sees only what is between the outer white space, and leaves a text alone that has none at its
ends. The fields of a text hold its characters, separators apart, and joining them gives the text again. A part between
two byte offsets is found where the encoding of a text really splits. -/

namespace Linkage.Text
variable {text before after part rest : List Char} {separator c : Char} {parts : List (List Char)}

def AllBlank (text : List Char) : Prop :=
  ∀ c ∈ text, isBlank c

instance : Decidable (AllBlank text) :=
  List.decidableBAll (fun c => isBlank c) text

theorem trimStart_append (blank : AllBlank before) : trimStart (before ++ text) = trimStart text :=
  List.dropWhile_append_of_pos blank

theorem trimStart_eq_self (first : ∀ c ∈ text.head?, isBlank c = false) : trimStart text = text := by
  cases text with
  | nil => rfl
  | cons c rest => simp [trimStart, first c rfl]

/-- Nothing but white space is cut off. -/
theorem exists_trimStart (text : List Char) : ∃ before, AllBlank before ∧ before ++ trimStart text = text :=
  ⟨text.takeWhile isBlank, fun _ member => List.mem_takeWhile_imp member, List.takeWhile_append_dropWhile⟩

theorem trimEnd_append (blank : AllBlank after) : trimEnd (text ++ after) = trimEnd text := by
  have reversed : ∀ c ∈ after.reverse, isBlank c := by
    intro c member
    exact blank c (List.mem_reverse.mp member)
  rw [trimEnd, List.reverse_append, List.dropWhile_append_of_pos reversed, trimEnd]

theorem trim_surround (first : AllBlank before) (last : AllBlank after) : trim (before ++ text ++ after) = trim text := by
  rw [trim, List.append_assoc, trimStart_append first, trimStart, List.dropWhile_append]
  split
  next empty =>
    have blank : text.dropWhile isBlank = [] := List.isEmpty_iff.mp empty
    have nothing : after.dropWhile isBlank = [] := List.dropWhile_eq_nil_iff.mpr last
    rw [nothing, trim, trimStart, blank]
  next => exact trimEnd_append last

theorem trim_append_start (blank : AllBlank before) : trim (before ++ text) = trim text := by
  rw [trim, trimStart_append blank, trim]

theorem trim_append_end (blank : AllBlank after) : trim (text ++ after) = trim text :=
  trim_surround (List.forall_mem_nil _) blank

theorem not_mem_of_allBlank (blank : AllBlank text) (filled : isBlank c = false) : c ∉ text := by
  intro member
  rw [blank c member] at filled
  contradiction

theorem trimEnd_eq_self (last : ∀ c ∈ text.getLast?, isBlank c = false) : trimEnd text = text := by
  have stop : text.reverse.dropWhile isBlank = text.reverse := by
    rw [← List.head?_reverse] at last
    cases reversed : text.reverse with
    | nil => rfl
    | cons c rest => simp [last c (by simp [reversed])]
  rw [trimEnd, stop, List.reverse_reverse]

theorem trim_eq_self (first : ∀ c ∈ text.head?, isBlank c = false) (last : ∀ c ∈ text.getLast?, isBlank c = false) :
    trim text = text := by
  rw [trim, trimStart_eq_self first, trimEnd_eq_self last]

theorem trim_eq_self_of_forall (filled : ∀ c ∈ text, isBlank c = false) : trim text = text :=
  trim_eq_self (fun c first => filled c (List.mem_of_mem_head? first))
    (fun c last => filled c (List.mem_of_mem_getLast? last))

private theorem mem_dropWhile_iff (filled : isBlank c = false) : c ∈ text.dropWhile isBlank ↔ c ∈ text := by
  constructor
  · exact fun member => (List.dropWhile_sublist _).mem member
  · intro member
    rw [← List.takeWhile_append_dropWhile (p := isBlank) (l := text), List.mem_append] at member
    refine member.resolve_left fun blank => ?_
    simp [List.mem_takeWhile_imp blank] at filled

/-- Trimming takes away nothing but white space. -/
theorem mem_trim_iff (filled : isBlank c = false) : c ∈ trim text ↔ c ∈ text := by
  rw [trim, trimEnd, trimStart, List.mem_reverse, mem_dropWhile_iff filled, List.mem_reverse, mem_dropWhile_iff filled]

theorem mem_of_mem_trim (member : c ∈ trim text) : c ∈ text := by
  simp only [trim, trimEnd, trimStart, List.mem_reverse] at member
  have inner := (List.dropWhile_sublist _).mem member
  exact (List.dropWhile_sublist _).mem (List.mem_reverse.mp inner)

theorem exists_trim (text : List Char) :
    ∃ before after, AllBlank before ∧ AllBlank after ∧ text = before ++ trim text ++ after := by
  obtain ⟨before, first, start⟩ := exists_trimStart text
  have stop : trimStart text = trim text ++ ((trimStart text).reverse.takeWhile isBlank).reverse := by
    rw [trim, trimEnd, ← List.reverse_append, List.takeWhile_append_dropWhile, List.reverse_reverse]
  refine ⟨before, ((trimStart text).reverse.takeWhile isBlank).reverse, first, ?_, ?_⟩
  · exact fun c member => List.mem_takeWhile_imp (List.mem_reverse.mp member)
  · rw [List.append_assoc, ← stop, start]

theorem trim_trim (text : List Char) : trim (trim text) = trim text := by
  obtain ⟨before, after, first, last, split⟩ := exists_trim text
  have inner : trim (before ++ trim text ++ after) = trim (trim text) := trim_surround first last
  rw [← split] at inner
  exact inner.symm

theorem cut_append (absent : separator ∉ before) :
    cut separator (before ++ separator :: after) = some (before, after) := by
  induction before with
  | nil => simp [cut]
  | cons c rest ih =>
    obtain ⟨different, absent⟩ := not_or.mp (mt List.mem_cons.mpr absent)
    rw [List.cons_append, cut, if_neg (Ne.symm different), ih absent, Option.map_some]

/-- A text is cut at the first separator. -/
theorem cut_eq_some_iff :
    cut separator text = some (before, after) ↔ text = before ++ separator :: after ∧ separator ∉ before := by
  constructor
  · intro found
    induction text generalizing before with
    | nil => cases found
    | cons c rest ih =>
      unfold cut at found
      split at found
      next same =>
        obtain ⟨rfl, rfl⟩ := Prod.mk.inj (Option.some.inj found)
        exact ⟨by rw [same, List.nil_append], List.not_mem_nil⟩
      next different =>
        obtain ⟨⟨inner, behind⟩, later, same⟩ := Option.map_eq_some_iff.mp found
        obtain ⟨rfl, rfl⟩ := Prod.mk.inj same
        obtain ⟨rfl, absent⟩ := ih later
        exact ⟨rfl, mt List.mem_cons.mp (not_or.mpr ⟨Ne.symm different, absent⟩)⟩
  · rintro ⟨rfl, absent⟩
    exact cut_append absent

theorem cut_eq_none_iff : cut separator text = none ↔ separator ∉ text := by
  induction text with
  | nil => simp [cut]
  | cons c rest ih =>
    by_cases same : c = separator
    · simp [cut, same]
    · simp [cut, same, ih, Ne.symm same]

theorem cutLast_append (absent : separator ∉ after) :
    cutLast separator (before ++ separator :: after) = some (before, after) := by
  have mirrored : (before ++ separator :: after).reverse = after.reverse ++ separator :: before.reverse := by simp
  rw [cutLast, mirrored, cut_append (mt List.mem_reverse.mp absent), Option.map_some]
  simp only [List.reverse_reverse]

theorem fields_eq_splitOn (separator : Char) (text : List Char) : fields separator text = text.splitOn separator := by
  rw [List.splitOn_eq_splitOnP]
  induction text with
  | nil => simp [fields]
  | cons c rest ih =>
    rw [List.splitOnP_cons_eq_if_modifyHead, fields, ih]
    obtain ⟨first, others, split⟩ := List.exists_cons_of_ne_nil (List.splitOnP_ne_nil (· == separator) rest)
    by_cases same : c = separator <;> simp [same, split]

theorem fields_ne_nil (separator : Char) (text : List Char) : fields separator text ≠ [] := by
  cases text with
  | nil => simp [fields]
  | cons c rest =>
    unfold fields
    split
    · simp
    · split <;> simp

/-- A character other than the separator joins the first field of what follows. -/
theorem fields_cons (rest : List Char) (other : c ≠ separator) : ∃ first others,
    fields separator rest = first :: others ∧ fields separator (c :: rest) = (c :: first) :: others := by
  obtain ⟨first, others, split⟩ := List.exists_cons_of_ne_nil (fields_ne_nil separator rest)
  exact ⟨first, others, split, by simp [fields, other, split]⟩

theorem fields_of_not_mem (absent : separator ∉ text) : fields separator text = [text] := by
  induction text with
  | nil => rfl
  | cons c rest ih =>
    obtain ⟨different, absent⟩ := not_or.mp (mt List.mem_cons.mpr absent)
    obtain ⟨first, others, split, joined⟩ := fields_cons rest (Ne.symm different)
    rw [ih absent] at split
    obtain ⟨rfl, rfl⟩ := List.cons.inj split
    exact joined

theorem fields_append (absent : separator ∉ before) :
    fields separator (before ++ separator :: after) = before :: fields separator after := by
  induction before with
  | nil => simp [fields]
  | cons c rest ih =>
    obtain ⟨different, absent⟩ := not_or.mp (mt List.mem_cons.mpr absent)
    obtain ⟨first, others, split, joined⟩ := fields_cons (rest ++ separator :: after) (Ne.symm different)
    rw [ih absent] at split
    obtain ⟨rfl, rfl⟩ := List.cons.inj split
    exact joined

theorem not_mem_of_mem_fields (member : part ∈ fields separator text) : separator ∉ part := by
  induction text generalizing part with
  | nil => simp_all [fields]
  | cons c rest ih =>
    by_cases same : c = separator
    · rw [fields, if_pos same] at member
      rcases List.mem_cons.mp member with rfl | member
      · exact List.not_mem_nil
      · exact ih member
    · obtain ⟨first, others, split, joined⟩ := fields_cons rest same
      rw [joined] at member
      rw [split] at ih
      rcases List.mem_cons.mp member with rfl | member
      · exact mt List.mem_cons.mp (not_or.mpr ⟨Ne.symm same, ih List.mem_cons_self⟩)
      · exact ih (List.mem_cons_of_mem _ member)

/-- The fields in front of a separator are kept apart from those behind it. -/
theorem fields_append_fields (before after : List Char) :
    fields separator (before ++ separator :: after) = fields separator before ++ fields separator after := by
  induction before with
  | nil => simp [fields]
  | cons c rest ih =>
    by_cases same : c = separator
    · rw [List.cons_append, fields, fields, if_pos same, if_pos same, ih, List.cons_append]
    · obtain ⟨first, others, split, joined⟩ := fields_cons rest same
      obtain ⟨start, further, parted, whole⟩ := fields_cons (rest ++ separator :: after) same
      rw [ih, split, List.cons_append] at parted
      obtain ⟨rfl, rfl⟩ := List.cons.inj parted
      rw [List.cons_append, whole, joined, List.cons_append]

theorem intercalate_fields (text : List Char) : [separator].intercalate (fields separator text) = text := by
  rw [fields_eq_splitOn, List.intercalate_splitOn]

/-- The fields of a text are the parts from which it is put together. -/
theorem fields_eq_iff : fields separator text = parts ↔
    parts ≠ [] ∧ text = [separator].intercalate parts ∧ ∀ part ∈ parts, separator ∉ part := by
  constructor
  · rintro rfl
    exact ⟨fields_ne_nil separator text, (intercalate_fields text).symm, fun part => not_mem_of_mem_fields⟩
  · rintro ⟨some, rfl, absent⟩
    rw [fields_eq_splitOn, List.splitOn_intercalate separator absent some]

theorem mem_iff_mem_fields (other : c ≠ separator) : c ∈ text ↔ ∃ part ∈ fields separator text, c ∈ part := by
  induction text with
  | nil => simp [fields]
  | cons d rest ih =>
    by_cases same : d = separator
    · subst same
      simp [fields, ih, other]
    · obtain ⟨first, others, split, joined⟩ := fields_cons rest same
      rw [split] at ih
      simp [joined, ih, or_assoc]

theorem mem_intercalate_iff (other : c ≠ separator) : c ∈ [separator].intercalate parts ↔ ∃ part ∈ parts, c ∈ part := by
  induction parts with
  | nil => simp
  | cons part rest ih =>
    cases rest with
    | nil => simp
    | cons next rest =>
      rw [List.intercalate_cons_cons]
      simp only [List.mem_append, ih, List.mem_cons, List.not_mem_nil, other, or_false, or_and_right, exists_or,
        exists_eq_left]

/-- The part of a text between two offsets in its encoding. There is none if an offset lies beyond the end or within a
character, or if the second one lies before the first. -/
def between? (text : String) (first last : Nat) : Option String := do
  let first ← text.pos? ⟨first⟩
  let last ← text.pos? ⟨last⟩
  let slice ← text.slice? first last
  return slice.copy

/-- An offset that the encoding of the front of a text takes up is a position between the front and the rest. -/
private theorem pos?_append {text before after : String} (split : text = before ++ after) :
    ∃ position, text.pos? ⟨before.utf8ByteSize⟩ = some position ∧ position.Splits before after := by
  subst split
  have valid : (⟨before.utf8ByteSize⟩ : String.Pos.Raw).IsValid (before ++ after) :=
    String.Pos.Raw.isValid_rawEndPos.append_right after
  refine ⟨(before ++ after).pos _ valid, ?_, String.Pos.splits_append_rawEndPos⟩
  have inSlice := String.Pos.Raw.isValidForSlice_eq_true_iff.mpr valid.toSlice
  simp only [String.pos?, String.Slice.pos?, inSlice, dite_true, Option.map_some, String.pos]

theorem between?_append (before part after : String) :
    between? (before ++ part ++ after) before.utf8ByteSize (before ++ part).utf8ByteSize = some part := by
  obtain ⟨first, found, start⟩ := pos?_append (@String.append_assoc before part after)
  obtain ⟨last, reached, stop⟩ := pos?_append (rfl : before ++ part ++ after = (before ++ part) ++ after)
  obtain ⟨ordered, same⟩ := String.copy_slice_eq_iff_splits.mpr ⟨before, after, start, stop⟩
  simp only [between?, found, reached, String.slice?, ordered, same, dite_true, Option.bind_eq_bind, Option.bind_some]
  rfl

end Linkage.Text
