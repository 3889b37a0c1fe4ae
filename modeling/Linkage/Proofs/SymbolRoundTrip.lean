import Linkage.Proofs.SymbolReading
import Linkage.Proofs.TextSplitting

/-! The texts of symbols. A text without white space is read just if it is written as a symbol, and what it is read as
follows from the first `#` and the first parenthesis behind it. The symbol shows this very text, so it is read again
from what it shows, and the class that it belongs to can be read as well. -/

namespace Linkage.Symbol
open Acceptance
variable {text owner name parameters member : List Char} {symbol : Symbol} {value : String}

/-- Segments between dots, none of them empty, and no parentheses. -/
structure IsClassName (name : List Char) : Prop where
  segmented : ∃ segments, name = ['.'].intercalate segments ∧ segments ≠ [] ∧
    ∀ segment ∈ segments, segment ≠ [] ∧ '.' ∉ segment
  unparenthesized : '(' ∉ name ∧ ')' ∉ name

theorem IsClassName.ne_nil (named : IsClassName name) : name ≠ [] := by
  obtain ⟨segments, rfl, listed, filled⟩ := named.segmented
  obtain ⟨first, others, rfl⟩ := List.exists_cons_of_ne_nil listed
  have start := (filled first List.mem_cons_self).1
  cases others <;> simp [start]

theorem any_isParenthesis_iff : text.any isParenthesis = false ↔ '(' ∉ text ∧ ')' ∉ text := by
  simp only [List.any_eq_false, isParenthesis, Bool.or_eq_true, decide_eq_true_eq]
  grind

theorem checkClass_eq_ok_iff : checkClass name = .ok ⟨⟩ ↔ IsClassName name := by
  have segments : (Text.fields '.' name).any (·.isEmpty) = false ↔ ∀ segment ∈ Text.fields '.' name, segment ≠ [] := by
    simp
  constructor
  · intro accepted
    unfold checkClass at accepted
    split at accepted
    · cases accepted
    split at accepted
    · cases accepted
    split at accepted
    · cases accepted
    next filled plain =>
    simp only [Bool.not_eq_true] at filled plain
    refine ⟨⟨Text.fields '.' name, ?_, Text.fields_ne_nil '.' name, ?_⟩, any_isParenthesis_iff.mp plain⟩
    · rw [Text.fields_eq_splitOn, List.intercalate_splitOn]
    · intro segment member
      exact ⟨segments.mp filled segment member, Text.not_mem_of_mem_fields member⟩
  · intro named
    obtain ⟨parts, joined, listed, each⟩ := named.segmented
    have split : Text.fields '.' name = parts := by
      rw [Text.fields_eq_splitOn, joined]
      exact List.splitOn_intercalate '.' (fun part member => (each part member).2) listed
    have filled : (Text.fields '.' name).any (·.isEmpty) = false := by
      apply segments.mpr
      intro part member
      exact (each part (split ▸ member)).1
    have plain := any_isParenthesis_iff.mpr named.unparenthesized
    simp only [checkClass, List.isEmpty_iff, named.ne_nil, filled, plain, if_false, Bool.false_eq_true]
    rfl

theorem readMember_opened (opens : '(' ∉ name) : readMember owner (name ++ '(' :: parameters) = .ok symbol ↔
    name ≠ [] ∧ ∃ inner, parameters = inner ++ [')'] ∧ ('(' ∉ inner ∧ ')' ∉ inner) ∧
      symbol = .method (.ofList owner) (.ofList name) (.ofList inner) := by
  unfold readMember
  rw [refuse_eq_ok_iff, Text.cut_append opens]
  simp only [refuse_eq_ok_iff, ne_eq, not_not, List.getLast?_eq_some_iff, Bool.not_eq_true, any_isParenthesis_iff,
    List.isEmpty_iff]
  constructor
  · rintro ⟨-, ⟨inner, rfl⟩, called, flat, same⟩
    rw [List.dropLast_concat] at flat same
    exact ⟨called, inner, rfl, flat, (Except.ok.inj same).symm⟩
  · rintro ⟨called, inner, rfl, flat, rfl⟩
    rw [List.dropLast_concat]
    exact ⟨by simp, ⟨inner, rfl⟩, called, flat, rfl⟩

theorem readMember_unopened (absent : '(' ∉ member) : readMember owner member = .ok symbol ↔
    member ≠ [] ∧ (')' ∉ member ∧ '#' ∉ member) ∧ symbol = .field (.ofList owner) (.ofList member) := by
  have plain : ¬ (member.any fun c => c = ')' || c = '#') ↔ ')' ∉ member ∧ '#' ∉ member := by
    simp only [Bool.not_eq_true, List.any_eq_false, Bool.or_eq_true, decide_eq_true_eq]
    grind
  unfold readMember
  rw [refuse_eq_ok_iff, Text.cut_eq_none_iff.mpr absent]
  simp only [refuse_eq_ok_iff, plain, List.isEmpty_iff]
  refine and_congr_right fun _ => and_congr_right fun _ => ?_
  exact ⟨fun same => (Except.ok.inj same).symm, fun same => congrArg Except.ok same.symm⟩

theorem read_whole (whole : '#' ∉ text) : Symbol.read text = .ok symbol ↔
    (∀ c ∈ text, Text.isBlank c = false) ∧ IsClassName text ∧ symbol = .ofClass (.ofList text) := by
  unfold Symbol.read
  rw [refuse_eq_ok_iff, refuse_eq_ok_iff, Text.cut_eq_none_iff.mpr whole]
  simp only [bind_eq_ok_iff, List.isEmpty_iff, Bool.not_eq_true, List.any_eq_false]
  constructor
  · rintro ⟨-, filled, ⟨⟩, named, same⟩
    exact ⟨filled, checkClass_eq_ok_iff.mp named, (Except.ok.inj same).symm⟩
  · rintro ⟨filled, named, rfl⟩
    exact ⟨named.ne_nil, filled, ⟨⟩, checkClass_eq_ok_iff.mpr named, rfl⟩

theorem read_member (whole : '#' ∉ owner) : Symbol.read (owner ++ '#' :: member) = .ok symbol ↔
    (∀ c ∈ owner ++ '#' :: member, Text.isBlank c = false) ∧ IsClassName owner ∧ readMember owner member = .ok symbol := by
  unfold Symbol.read
  rw [refuse_eq_ok_iff, refuse_eq_ok_iff, Text.cut_append whole]
  simp only [bind_eq_ok_iff, List.isEmpty_iff, Bool.not_eq_true, List.any_eq_false]
  constructor
  · rintro ⟨-, filled, ⟨⟩, named, read⟩
    exact ⟨filled, checkClass_eq_ok_iff.mp named, read⟩
  · rintro ⟨filled, named, read⟩
    exact ⟨by simp, filled, ⟨⟩, checkClass_eq_ok_iff.mpr named, read⟩

/-- How symbols are written: the class name ends at the first `#`, and the name of a method at the first parenthesis. -/
inductive Spells : List Char → Symbol → Prop where
  | ofClass {name : List Char} (named : IsClassName name) (whole : '#' ∉ name) : Spells name (.ofClass (.ofList name))
  | method {owner name parameters : List Char} (named : IsClassName owner) (whole : '#' ∉ owner) (called : name ≠ [])
      (opens : '(' ∉ name) (flat : '(' ∉ parameters ∧ ')' ∉ parameters) :
      Spells (owner ++ '#' :: (name ++ '(' :: (parameters ++ [')'])))
        (.method (.ofList owner) (.ofList name) (.ofList parameters))
  | field {owner name : List Char} (named : IsClassName owner) (whole : '#' ∉ owner) (called : name ≠ [])
      (unopened : '(' ∉ name) (plain : ')' ∉ name ∧ '#' ∉ name) :
      Spells (owner ++ '#' :: name) (.field (.ofList owner) (.ofList name))

theorem read_eq_ok_iff : Symbol.read text = .ok symbol ↔ (∀ c ∈ text, Text.isBlank c = false) ∧ Spells text symbol := by
  constructor
  · intro read
    cases found : Text.cut '#' text with
    | none =>
      have whole := Text.cut_eq_none_iff.mp found
      obtain ⟨filled, named, rfl⟩ := (read_whole whole).mp read
      exact ⟨filled, .ofClass named whole⟩
    | some halves =>
      obtain ⟨owner, member⟩ := halves
      obtain ⟨rfl, whole⟩ := Text.cut_eq_some_iff.mp found
      obtain ⟨filled, named, read⟩ := (read_member whole).mp read
      refine ⟨filled, ?_⟩
      cases opened : Text.cut '(' member with
      | none =>
        have unopened := Text.cut_eq_none_iff.mp opened
        obtain ⟨called, plain, rfl⟩ := (readMember_unopened unopened).mp read
        exact .field named whole called unopened plain
      | some halves =>
        obtain ⟨name, parameters⟩ := halves
        obtain ⟨rfl, opens⟩ := Text.cut_eq_some_iff.mp opened
        obtain ⟨called, inner, rfl, flat, rfl⟩ := (readMember_opened opens).mp read
        exact .method named whole called opens flat
  · rintro ⟨filled, spells⟩
    cases spells with
    | ofClass named whole => exact (read_whole whole).mpr ⟨filled, named, rfl⟩
    | method named whole called opens flat =>
      apply (read_member whole).mpr
      exact ⟨filled, named, (readMember_opened opens).mpr ⟨called, _, rfl, flat, rfl⟩⟩
    | field named whole called unopened plain =>
      apply (read_member whole).mpr
      exact ⟨filled, named, (readMember_unopened unopened).mpr ⟨called, plain, rfl⟩⟩

namespace Spells

theorem owner_named (spells : Spells text symbol) : IsClassName symbol.owner.toList ∧ '#' ∉ symbol.owner.toList := by
  cases spells with
  | ofClass named whole | method named whole | field named whole =>
    simp only [Symbol.owner, String.toList_ofList]
    exact ⟨named, whole⟩

theorem owner_eq (spells : Spells text symbol) : symbol.owner.toList = text.takeWhile (· != '#') := by
  cases spells with
  | ofClass named whole => simp [Symbol.owner, Text.takeWhile_first_of_not_mem whole]
  | method named whole | field named whole => simp [Symbol.owner, Text.takeWhile_first whole]

theorem isClass_iff (spells : Spells text symbol) : (∃ name, symbol = .ofClass name) ↔ '#' ∉ text := by
  cases spells with
  | ofClass named whole => simp [whole]
  | method | field => simp

theorem isMethod_iff (spells : Spells text symbol) :
    (∃ owner name parameters, symbol = .method owner name parameters) ↔ '(' ∈ text.dropWhile (· != '#') := by
  cases spells with
  | ofClass named whole => simp [Text.dropWhile_first_of_not_mem whole]
  | method named whole => simp [Text.dropWhile_first whole]
  | field named whole called unopened => simp [Text.dropWhile_first whole, unopened]

theorem isField_iff (spells : Spells text symbol) :
    (∃ owner name, symbol = .field owner name) ↔ '#' ∈ text ∧ '(' ∉ text.dropWhile (· != '#') := by
  cases spells with
  | ofClass named whole => simp [whole]
  | method named whole => simp [Text.dropWhile_first whole]
  | field named whole called unopened => simp [Text.dropWhile_first whole, unopened]

end Spells

theorem parse_text (parsed : Symbol.parse value = .ok symbol) : Symbol.parse symbol.text = .ok symbol := by
  have read := parse_eq_ok_iff.mp parsed
  apply parse_eq_ok_iff.mpr
  rw [text_of_read read, Text.trim_eq_self_of_forall (filled_of_read read)]
  exact read

theorem parse_ownerClass (parsed : Symbol.parse value = .ok symbol) :
    Symbol.parse symbol.ownerClass.text = .ok symbol.ownerClass := by
  have read := parse_eq_ok_iff.mp parsed
  obtain ⟨filled, spells⟩ := read_eq_ok_iff.mp read
  obtain ⟨named, whole⟩ := spells.owner_named
  have part : ∀ c ∈ symbol.owner.toList, Text.isBlank c = false := by
    intro c member
    rw [spells.owner_eq] at member
    exact filled c (List.takeWhile_subset _ member)
  apply parse_eq_ok_iff.mpr
  change Symbol.read (Text.trim symbol.owner.toList) = _
  rw [Text.trim_eq_self_of_forall part]
  apply (read_whole whole).mpr
  exact ⟨part, named, by rw [String.ofList_toList, ownerClass]⟩

/-- A symbol that a text was read as: what the text shows of it, and that it is read again. -/
structure ReadFrom (value : String) (symbol : Symbol) : Prop where
  text : symbol.text = Text.trimmed value
  again : Symbol.parse symbol.text = .ok symbol
  apart : ∀ other rival, Symbol.parse other = .ok rival → rival ≠ symbol → rival.text ≠ symbol.text
  ofClass : (∃ name, symbol = .ofClass name) ↔ '#' ∉ (Text.trimmed value).toList
  /-- A parenthesis follows the first `#`. -/
  method : (∃ owner name parameters, symbol = .method owner name parameters) ↔
    '(' ∈ (Text.trimmed value).toList.dropWhile (· != '#')
  field : (∃ owner name, symbol = .field owner name) ↔
    '#' ∈ (Text.trimmed value).toList ∧ '(' ∉ (Text.trimmed value).toList.dropWhile (· != '#')
  owner : symbol.owner.toList = (Text.trimmed value).toList.takeWhile (· != '#')
  named : symbol.owner ≠ "" ∧ IsClassName symbol.owner.toList
  ownerClass : Symbol.parse symbol.ownerClass.text = .ok symbol.ownerClass

theorem symbol_round_trip (value : String) (symbol : Symbol) (parsed : Symbol.parse value = .ok symbol) :
    ReadFrom value symbol := by
  have read := parse_eq_ok_iff.mp parsed
  obtain ⟨-, spells⟩ := read_eq_ok_iff.mp read
  have shown : symbol.text = Text.trimmed value := by
    rw [← String.toList_inj, text_of_read read, Text.trimmed, String.toList_ofList]
  have apart : ∀ other rival, Symbol.parse other = .ok rival → rival ≠ symbol → rival.text ≠ symbol.text := by
    intro other rival known different same
    have again := parse_text known
    rw [same, parse_text parsed] at again
    exact different (Except.ok.inj again).symm
  have named := spells.owner_named.1
  have filled : symbol.owner ≠ "" := by
    intro empty
    exact named.ne_nil (by rw [empty, String.toList_empty])
  rw [← String.toList_ofList (l := Text.trim value.toList)] at spells
  exact ⟨shown, parse_text parsed, apart, spells.isClass_iff, spells.isMethod_iff, spells.isField_iff, spells.owner_eq,
    ⟨filled, named⟩, parse_ownerClass parsed⟩

/-- Only the first `#` and the first parenthesis behind it count. -/
theorem symbol_round_trip_handler :
    Symbol.parse "\t a.b.Outer$Inner#on#x)y(int,java.util.List)\n" =
        .ok (.method "a.b.Outer$Inner" "on#x)y" "int,java.util.List") ∧
      ReadFrom "\t a.b.Outer$Inner#on#x)y(int,java.util.List)\n" (.method "a.b.Outer$Inner" "on#x)y" "int,java.util.List") := by
  have parsed : Symbol.parse "\t a.b.Outer$Inner#on#x)y(int,java.util.List)\n" =
      .ok (.method "a.b.Outer$Inner" "on#x)y" "int,java.util.List") := by decide +kernel
  exact ⟨parsed, symbol_round_trip _ _ parsed⟩

end Linkage.Symbol
