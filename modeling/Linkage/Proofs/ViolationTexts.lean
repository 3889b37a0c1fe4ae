import Linkage.Verdict
import Linkage.Proofs.KeyTexts
import Linkage.Proofs.SymbolReading
import Linkage.Proofs.TextSplitting

/-! Violations from the detail of a verdict, where their texts are joined by semicolons. A symbol may hold semicolons
too. But it has no white space, and a violation starts with a word that has white space and no parenthesis behind it, so
that the semicolons between violations can be told from those within them. -/

namespace Linkage

namespace Violation
open Text
variable {first second rest others : List Char} {violation other : Violation}

/-- What may stand behind a symbol or a key. Either its word ends there, and nothing follows or a remark in parentheses;
or a semicolon adds another word to it, and then something else follows. -/
inductive Continues : List Char → Prop where
  | ended {tail : List Char} (ends : EndsWord tail) (last : tail[1]? ∈ [none, some '(']) : Continues tail
  | glued {word tail : List Char} (spaceless : ' ' ∉ word) (single : ';' ∉ word) (ends : EndsWord tail)
      (more : tail[1]? ∉ [none, some '(']) : Continues (';' :: word ++ tail)

private theorem space_not_mem_glued {word : List Char} (absent : ' ' ∉ first) (spaceless : ' ' ∉ word) :
    ' ' ∉ first ++ ';' :: word := by
  simp [absent, spaceless]

theorem Continues.append_inj (absent : ' ' ∉ first) (missing : ' ' ∉ second) (continues : Continues rest)
    (follows : Continues others) (same : first ++ rest = second ++ others) : first = second ∧ rest = others := by
  -- What comes after the first space tells if a semicolon before it sets off another word.
  cases continues with
  | ended ends last =>
    cases follows with
    | ended stops least => exact append_inj_word absent missing ends stops same
    | glued spaceless single stops more =>
      rw [← List.append_assoc] at same
      obtain ⟨-, tails⟩ := append_inj_word absent (space_not_mem_glued missing spaceless) ends stops same
      exact absurd (tails ▸ last) more
  | glued spaceless single ends more =>
    rw [← List.append_assoc] at same
    cases follows with
    | ended stops last =>
      obtain ⟨-, tails⟩ := append_inj_word (space_not_mem_glued absent spaceless) missing ends stops same
      exact absurd (tails ▸ last) more
    | glued spacefree alone stops going =>
      rw [← List.append_assoc] at same
      obtain ⟨words, rfl⟩ := append_inj_word (space_not_mem_glued absent spaceless)
        (space_not_mem_glued missing spacefree) ends stops same
      obtain ⟨fronts, rfl⟩ := append_inj_last single alone words
      exact ⟨fronts, rfl⟩

/-- What is said about the library that a missing symbol would be in. -/
def remark : Option ModuleKey → List Char
  | none => []
  | some key => ' ' :: '(' :: ("only provided by excluded ".toList ++ (key.text.toList ++ [')']))

theorem toList_missingSymbol (symbol : Symbol) (excludedBy : Option ModuleKey) :
    (missingSymbol symbol excludedBy).text.toList =
      "missing".toList ++ ' ' :: (symbol.kind.toList ++ ' ' :: (symbol.text.toList ++ remark excludedBy)) := by
  have start : "missing ".toList = "missing".toList ++ [' '] := by decide +kernel
  have gap : " ".toList = [' '] := by decide +kernel
  have aside : " (only provided by excluded ".toList = ' ' :: '(' :: "only provided by excluded ".toList := by
    decide +kernel
  have close : ")".toList = [')'] := by decide +kernel
  cases excludedBy with
  | none =>
    show ("missing " ++ symbol.kind ++ " " ++ symbol.text).toList = _
    simp only [remark, String.toList_append, start, gap, List.append_assoc, List.append_nil, List.cons_append,
      List.nil_append]
  | some key =>
    show ("missing " ++ symbol.kind ++ " " ++ symbol.text ++ " (only provided by excluded " ++ key.text ++ ")").toList = _
    simp only [remark, String.toList_append, start, gap, aside, close, List.append_assoc, List.cons_append,
      List.nil_append]

theorem toList_matcherAbsent (name : String) : (matcherAbsent name).text.toList =
    "class-loader".toList ++ (" matcher class ".toList ++ (name.toList ++ ' ' :: "is absent".toList)) := by
  have start : "class-loader matcher class ".toList = "class-loader".toList ++ " matcher class ".toList := by
    decide +kernel
  have stop : " is absent".toList = ' ' :: "is absent".toList := by decide +kernel
  show ("class-loader matcher class " ++ name ++ " is absent").toList = _
  simp only [String.toList_append, start, stop, List.append_assoc]

theorem toList_unexpectedPass :
    unexpectedPass.text.toList = "expected".toList ++ " a failure but every symbol resolved".toList := by
  decide +kernel

/-- The first word of a violation holds no separator, and no remark comes next. -/
theorem starts (violation : Violation) : ∃ word tail, violation.text.toList = word ++ tail ∧
    (' ' ∉ word ∧ ';' ∉ word ∧ '|' ∉ word) ∧ EndsWord tail ∧ tail[1]? ∉ [none, some '('] := by
  cases violation with
  | missingSymbol symbol excludedBy =>
    refine ⟨_, _, toList_missingSymbol symbol excludedBy, by decide +kernel, by simp [EndsWord], ?_⟩
    cases symbol <;> simp [Symbol.kind]
  | matcherAbsent name => exact ⟨_, _, toList_matcherAbsent name, by decide +kernel, by simp [EndsWord], by simp⟩
  | unexpectedPass => exact ⟨_, _, toList_unexpectedPass, by decide +kernel, by simp [EndsWord], by simp⟩

/-- Its texts were all read. -/
def WasRead : Violation → Prop
  | missingSymbol symbol _ => symbol.WasRead
  | matcherAbsent name => (Symbol.ofClass name).WasRead
  | unexpectedPass => True

/-- What stands behind a violation: nothing, or the next one. -/
def Behind (rest : List Char) : Prop :=
  rest = [] ∨ ∃ (violation : Violation) (more : List Char), rest = ';' :: (violation.text.toList ++ more)

theorem continues_behind (behind : Behind rest) : Continues rest := by
  rcases behind with rfl | ⟨violation, more, rfl⟩
  · exact .ended (by simp [EndsWord]) (by simp)
  · obtain ⟨word, tail, text, ⟨spaceless, single, -⟩, ends, going⟩ := violation.starts
    rw [text, List.append_assoc, ← List.cons_append]
    apply Continues.glued spaceless single
    · cases tail with
      | nil => simp at going
      | cons c tail => exact ends
    · cases tail with
      | nil => simp at going
      | cons c tail => cases tail <;> simp_all

theorem continues_remark (excludedBy : Option ModuleKey) (behind : Behind rest) :
    Continues (remark excludedBy ++ rest) := by
  cases excludedBy with
  | none => exact continues_behind behind
  | some key => exact .ended (by simp [remark, EndsWord]) (by simp [remark])

theorem remark_append_inj {excludedBy blamed : Option ModuleKey} (behind : Behind rest) (following : Behind others)
    (same : remark excludedBy ++ rest = remark blamed ++ others) : excludedBy = blamed ∧ rest = others := by
  have apart {rest : List Char} (key : ModuleKey) (more : List Char) (behind : Behind rest) :
      remark (some key) ++ more ≠ rest := by
    rintro rfl
    rcases behind with nothing | ⟨violation, other, next⟩
    · simp [remark] at nothing
    · simp [remark] at next
  cases excludedBy with
  | none =>
    cases blamed with
    | none => exact ⟨rfl, same⟩
    | some key => exact absurd same.symm (apart key others behind)
  | some key =>
    cases blamed with
    | none => exact absurd same (apart key rest following)
    | some other =>
      simp only [remark, List.cons_append, List.append_assoc, List.cons.injEq, true_and, List.append_cancel_left_eq,
        List.nil_append] at same
      rw [List.append_cons, List.append_cons _ ')' others] at same
      have closed (key : ModuleKey) : ' ' ∉ key.text.toList ++ [')'] := by
        simp [blank_not_mem ' ' rfl key.filled_text]
      obtain ⟨keys, rests⟩ := Continues.append_inj (closed key) (closed other) (continues_behind behind)
        (continues_behind following) same
      rw [ModuleKey.text_inj.mp (String.toList_inj.mp (List.append_cancel_right keys))]
      exact ⟨rfl, rests⟩

theorem filled_kind (symbol : Symbol) : ∀ c ∈ symbol.kind.toList, isBlank c = false := by
  cases symbol <;> simp [Symbol.kind] <;> decide

/-- The text of a violation shows which one it is and where it ends. -/
theorem text_append_inj (known : violation.WasRead) (found : other.WasRead) (behind : Behind rest)
    (following : Behind others) (same : violation.text.toList ++ rest = other.text.toList ++ others) :
    violation = other ∧ rest = others := by
  cases violation with
  | missingSymbol symbol excludedBy =>
    cases other with
    | missingSymbol twin blamed =>
      rw [toList_missingSymbol, toList_missingSymbol] at same
      simp only [List.append_assoc, List.cons_append, List.append_cancel_left_eq, List.cons.injEq, true_and] at same
      obtain ⟨-, same⟩ := append_inj_first (blank_not_mem ' ' rfl (filled_kind symbol))
        (blank_not_mem ' ' rfl (filled_kind twin)) same
      obtain ⟨texts, same⟩ := Continues.append_inj (blank_not_mem ' ' rfl known.filled) (blank_not_mem ' ' rfl found.filled)
        (continues_remark excludedBy behind) (continues_remark blamed following) same
      obtain ⟨rfl, rests⟩ := remark_append_inj behind following same
      rw [Symbol.WasRead.eq_of_text known found texts]
      exact ⟨rfl, rests⟩
    | matcherAbsent name => simp [toList_missingSymbol, toList_matcherAbsent] at same
    | unexpectedPass => simp [toList_missingSymbol, toList_unexpectedPass] at same
  | matcherAbsent name =>
    cases other with
    | missingSymbol twin blamed => simp [toList_missingSymbol, toList_matcherAbsent] at same
    | matcherAbsent twin =>
      rw [toList_matcherAbsent, toList_matcherAbsent] at same
      simp only [List.append_assoc, List.cons_append, List.append_cancel_left_eq] at same
      obtain ⟨names, rests⟩ := append_inj_first (blank_not_mem ' ' rfl known.filled) (blank_not_mem ' ' rfl found.filled) same
      obtain rfl : name = twin := String.toList_inj.mp names
      exact ⟨rfl, List.append_cancel_left rests⟩
    | unexpectedPass => simp [toList_matcherAbsent, toList_unexpectedPass] at same
  | unexpectedPass =>
    cases other with
    | missingSymbol twin blamed => simp [toList_missingSymbol, toList_unexpectedPass] at same
    | matcherAbsent twin => simp [toList_matcherAbsent, toList_unexpectedPass] at same
    | unexpectedPass => exact ⟨rfl, List.append_cancel_left same⟩

/-- What follows the first of some violations that are joined. -/
def tail (violations : List Violation) : List Char :=
  if violations = [] then [] else ';' :: (join ";" (violations.map Violation.text)).toList

theorem toList_join_violations (violation : Violation) (violations : List Violation) :
    (join ";" ((violation :: violations).map Violation.text)).toList = violation.text.toList ++ tail violations := by
  rw [List.map_cons, toList_join_cons, tail]
  cases violations <;> simp

theorem join_eq_of_tail {violations others : List Violation} (same : tail violations = tail others) :
    (join ";" (violations.map Violation.text)).toList = (join ";" (others.map Violation.text)).toList := by
  cases violations with
  | nil =>
    cases others with
    | nil => rfl
    | cons other others => simp [tail] at same
  | cons violation violations =>
    cases others with
    | nil => simp [tail] at same
    | cons other others => simpa [tail] using same

theorem behind_tail (violations : List Violation) : Behind (tail violations) := by
  cases violations with
  | nil => exact .inl rfl
  | cons violation violations =>
    refine .inr ⟨violation, tail violations, ?_⟩
    rw [← toList_join_violations]
    rfl

theorem text_ne_nil (violation : Violation) : violation.text.toList ≠ [] := by
  obtain ⟨word, tail, text, -, -, going⟩ := violation.starts
  rw [text]
  cases tail with
  | nil => simp at going
  | cons c tail => simp

theorem join_inj {violations others : List Violation} (known : ∀ violation ∈ violations, violation.WasRead)
    (found : ∀ violation ∈ others, violation.WasRead)
    (same : (join ";" (violations.map Violation.text)).toList = (join ";" (others.map Violation.text)).toList) :
    violations = others := by
  induction violations generalizing others with
  | nil =>
    cases others with
    | nil => rfl
    | cons other others =>
      rw [toList_join_violations] at same
      exact absurd (List.append_eq_nil_iff.mp same.symm).1 other.text_ne_nil
  | cons violation violations ih =>
    cases others with
    | nil =>
      rw [toList_join_violations] at same
      exact absurd (List.append_eq_nil_iff.mp same).1 violation.text_ne_nil
    | cons other others =>
      rw [toList_join_violations, toList_join_violations] at same
      obtain ⟨first, later⟩ := List.forall_mem_cons.mp known
      obtain ⟨second, rivals⟩ := List.forall_mem_cons.mp found
      obtain ⟨rfl, rests⟩ := text_append_inj first second (behind_tail violations) (behind_tail others) same
      rw [ih later rivals (join_eq_of_tail rests)]

/-- A violation is told on one line. -/
theorem feed_not_mem_text (known : violation.WasRead) : '\n' ∉ violation.text.toList := by
  cases violation with
  | missingSymbol symbol excludedBy =>
    have aside : '\n' ∉ remark excludedBy := by
      cases excludedBy with
      | none => exact List.not_mem_nil
      | some key => simp [remark, blank_not_mem '\n' rfl key.filled_text]
    rw [toList_missingSymbol]
    simp [aside, blank_not_mem '\n' rfl (filled_kind symbol), blank_not_mem '\n' rfl known.filled]
  | matcherAbsent name =>
    have absent : '\n' ∉ name.toList := blank_not_mem '\n' rfl known.filled
    rw [toList_matcherAbsent]
    simp [absent]
  | unexpectedPass =>
    rw [toList_unexpectedPass]
    simp

theorem feed_not_mem_join {violations : List Violation} (known : ∀ violation ∈ violations, violation.WasRead) :
    '\n' ∉ (join ";" (violations.map Violation.text)).toList := by
  induction violations with
  | nil => simp [join]
  | cons violation violations ih =>
    obtain ⟨first, later⟩ := List.forall_mem_cons.mp known
    rw [toList_join_violations, List.mem_append, tail]
    split
    · simp [feed_not_mem_text first]
    · simp [feed_not_mem_text first, ih later]

end Violation
end Linkage
