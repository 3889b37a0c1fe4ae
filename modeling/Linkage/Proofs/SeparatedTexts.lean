import Linkage.Proofs.TextSplitting

/-! The parts between the separators of a text, where the separator may have several characters. No part has the
separator within, and joined again the parts are the text. -/

namespace Linkage.Text
variable {separator text rest part : List Char} {c : Char}

theorem fieldsBetween_skip (separator text : List Char) (skip : Nat) :
    fieldsBetween separator skip text = fieldsBetween separator 0 (text.drop skip) := by
  induction text generalizing skip with
  | nil => simp [fieldsBetween]
  | cons c rest ih =>
    cases skip with
    | zero => rfl
    | succ skip => exact ih skip

theorem fieldsBetween_ne_nil (separator text : List Char) : fieldsBetween separator 0 text ≠ [] := by
  cases text with
  | nil => exact List.cons_ne_nil _ _
  | cons c rest =>
    unfold fieldsBetween
    dsimp only
    split
    · exact List.cons_ne_nil _ _
    · split <;> exact List.cons_ne_nil _ _

theorem fieldsBetween_separator (some : separator ≠ []) (rest : List Char) :
    fieldsBetween separator 0 (separator ++ rest) = [] :: fieldsBetween separator 0 rest := by
  obtain ⟨c, others, rfl⟩ := List.exists_cons_of_ne_nil some
  have starts : (c :: others).isPrefixOf (c :: (others ++ rest)) = true :=
    List.isPrefixOf_iff_prefix.mpr (List.prefix_append (c :: others) rest)
  rw [List.cons_append, fieldsBetween, if_pos starts, fieldsBetween_skip]
  simp

theorem fieldsBetween_cons (other : ¬ separator <+: c :: rest) : ∃ first others,
    fieldsBetween separator 0 rest = first :: others ∧ fieldsBetween separator 0 (c :: rest) = (c :: first) :: others := by
  obtain ⟨first, others, parts⟩ := List.exists_cons_of_ne_nil (fieldsBetween_ne_nil separator rest)
  refine ⟨first, others, parts, ?_⟩
  rw [fieldsBetween, if_neg (mt List.isPrefixOf_iff_prefix.mp other), parts]

/-- A text is empty, or it starts with the separator, or with a character that is not the start of one. -/
theorem separated_induction (some : separator ≠ []) {motive : List Char → Prop} (nil : motive [])
    (separated : ∀ rest, motive rest → motive (separator ++ rest))
    (character : ∀ c rest, ¬ separator <+: c :: rest → motive rest → motive (c :: rest)) (text : List Char) :
    motive text := by
  -- On the length, since a separator takes several characters at once.
  induction size : text.length using Nat.strongRecOn generalizing text with
  | ind n ih =>
    subst size
    cases text with
    | nil => exact nil
    | cons c rest =>
      by_cases found : separator <+: c :: rest
      · obtain ⟨behind, same⟩ := found
        have shorter : behind.length < (c :: rest).length := by
          rw [← same, List.length_append]
          exact Nat.lt_add_of_pos_left (List.length_pos_iff.mpr some)
        rw [← same]
        exact separated behind (ih _ shorter behind rfl)
      · exact character c rest found (ih _ (Nat.lt_succ_self _) rest rfl)

theorem intercalate_fieldsBetween (some : separator ≠ []) (text : List Char) :
    separator.intercalate (fieldsBetween separator 0 text) = text := by
  induction text using separated_induction some with
  | nil => rfl
  | separated rest ih =>
    obtain ⟨first, others, parts⟩ := List.exists_cons_of_ne_nil (fieldsBetween_ne_nil separator rest)
    rw [fieldsBetween_separator some, parts, List.intercalate_cons_cons, ← parts, ih, List.nil_append]
  | character c rest other ih =>
    obtain ⟨first, others, parts, whole⟩ := fieldsBetween_cons other
    rw [parts] at ih
    rw [whole]
    cases others with
    | nil => simpa using ih
    | cons next others =>
      rw [List.intercalate_cons_cons, List.cons_append, List.cons_append, ← List.intercalate_cons_cons, ih]

/-- The first part stands at the start of the text. -/
theorem prefix_of_fieldsBetween (some : separator ≠ []) {others : List (List Char)}
    (parts : fieldsBetween separator 0 text = part :: others) : part <+: text := by
  have joined := intercalate_fieldsBetween some text
  rw [parts] at joined
  cases others with
  | nil => simp [← joined]
  | cons next others =>
    rw [List.intercalate_cons_cons, List.append_assoc] at joined
    exact ⟨_, joined⟩

theorem not_infix_of_mem_fieldsBetween (some : separator ≠ []) (member : part ∈ fieldsBetween separator 0 text) :
    ¬ separator <:+: part := by
  have blank : ¬ separator <:+: [] := mt List.eq_nil_of_infix_nil some
  induction text using separated_induction some generalizing part with
  | nil =>
    obtain rfl := List.mem_singleton.mp member
    exact blank
  | separated rest ih =>
    rw [fieldsBetween_separator some] at member
    rcases List.mem_cons.mp member with rfl | member
    · exact blank
    · exact ih member
  | character c rest other ih =>
    obtain ⟨first, others, parts, whole⟩ := fieldsBetween_cons other
    rw [whole] at member
    rw [parts] at ih
    rcases List.mem_cons.mp member with rfl | member
    · rw [List.infix_cons_iff]
      rintro (starts | within)
      · exact other (starts.trans (List.cons_prefix_cons.mpr ⟨rfl, prefix_of_fieldsBetween some parts⟩))
      · exact ih List.mem_cons_self within
    · exact ih (List.mem_cons_of_mem first member)

theorem fieldsBetween_of_not_infix (absent : ¬ separator <:+: text) : fieldsBetween separator 0 text = [text] := by
  induction text with
  | nil => rfl
  | cons c rest ih =>
    rw [List.infix_cons_iff, not_or] at absent
    obtain ⟨first, others, parts, whole⟩ := fieldsBetween_cons absent.1
    rw [ih absent.2] at parts
    obtain ⟨rfl, rfl⟩ := List.cons.inj parts
    exact whole

/-- A separator of two different characters cannot begin in a text and end in the separator behind it. -/
theorem fieldsBetween_append {a b : Char} (different : a ≠ b) (text rest : List Char) :
    fieldsBetween [a, b] 0 (text ++ [a, b] ++ rest) = fieldsBetween [a, b] 0 text ++ fieldsBetween [a, b] 0 rest := by
  have some : [a, b] ≠ [] := List.cons_ne_nil a [b]
  induction text using separated_induction some with
  | nil => exact fieldsBetween_separator some rest
  | separated text ih =>
    rw [List.append_assoc, List.append_assoc, fieldsBetween_separator some, fieldsBetween_separator some,
      ← List.append_assoc, ih, List.cons_append]
  | character c text other ih =>
    -- If the text ends here, its last character would be followed by the second one of a separator.
    have apart : ¬ [a, b] <+: c :: (text ++ [a, b] ++ rest) := by
      intro starts
      apply other
      cases text with
      | nil =>
        obtain ⟨-, begins⟩ := List.cons_prefix_cons.mp starts
        exact absurd (List.cons_prefix_cons.mp begins).1.symm different
      | cons next text =>
        obtain ⟨rfl, begins⟩ := List.cons_prefix_cons.mp starts
        obtain ⟨rfl, -⟩ := List.cons_prefix_cons.mp begins
        exact List.prefix_append [a, b] text
    obtain ⟨first, others, parts, whole⟩ := fieldsBetween_cons other
    obtain ⟨start, further, split, joined⟩ := fieldsBetween_cons apart
    rw [ih, parts, List.cons_append] at split
    obtain ⟨rfl, rfl⟩ := List.cons.inj split
    rw [List.cons_append, List.cons_append, joined, whole, List.cons_append]

end Linkage.Text
