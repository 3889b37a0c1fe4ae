import Linkage.Symbol
import Linkage.Proofs.Acceptance
import Linkage.Proofs.VersionReading

/-! Reading symbols. A symbol that was read shows the very text it was read from, so texts tell such symbols apart, and
there is no white space in them. -/

namespace Linkage.Symbol
open Acceptance
variable {text owner member : List Char} {symbol other : Symbol}

private theorem text_of_readMember (read : readMember owner member = .ok symbol) :
    symbol.text.toList = owner ++ '#' :: member := by
  unfold readMember at read
  obtain ⟨-, read⟩ := refuse_eq_ok_iff.mp read
  cases found : Text.cut '(' member with
  | some halves =>
    obtain ⟨name, rest⟩ := halves
    rw [found] at read
    obtain ⟨closed, read⟩ := refuse_eq_ok_iff.mp read
    obtain ⟨-, read⟩ := refuse_eq_ok_iff.mp read
    obtain ⟨-, read⟩ := refuse_eq_ok_iff.mp read
    cases read
    obtain ⟨parameters, rfl⟩ := List.getLast?_eq_some_iff.mp (not_not.mp closed)
    rw [(Text.cut_eq_some_iff.mp found).1]
    simp [Symbol.text]
  | none =>
    rw [found] at read
    obtain ⟨-, read⟩ := refuse_eq_ok_iff.mp read
    cases read
    simp [Symbol.text]

theorem text_of_read (read : Symbol.read text = .ok symbol) : symbol.text.toList = text := by
  unfold Symbol.read at read
  obtain ⟨-, read⟩ := refuse_eq_ok_iff.mp read
  obtain ⟨-, read⟩ := refuse_eq_ok_iff.mp read
  cases found : Text.cut '#' text with
  | none =>
    rw [found] at read
    obtain ⟨-, -, read⟩ := bind_eq_ok_iff.mp read
    cases read
    exact String.toList_ofList
  | some halves =>
    rw [found] at read
    obtain ⟨-, -, read⟩ := bind_eq_ok_iff.mp read
    rw [(Text.cut_eq_some_iff.mp found).1]
    exact text_of_readMember read

theorem filled_of_read (read : Symbol.read text = .ok symbol) : ∀ c ∈ text, Text.isBlank c = false := by
  unfold Symbol.read at read
  obtain ⟨-, read⟩ := refuse_eq_ok_iff.mp read
  obtain ⟨filled, -⟩ := refuse_eq_ok_iff.mp read
  simpa using filled

/-- A symbol that some text reads as. -/
def WasRead (symbol : Symbol) : Prop :=
  ∃ text, Symbol.read text = .ok symbol

namespace WasRead

theorem filled (known : WasRead symbol) : ∀ c ∈ symbol.text.toList, Text.isBlank c = false := by
  obtain ⟨text, read⟩ := known
  rw [text_of_read read]
  exact filled_of_read read

theorem eq_of_text (known : WasRead symbol) (found : WasRead other) (same : symbol.text.toList = other.text.toList) :
    symbol = other := by
  obtain ⟨text, read⟩ := known
  obtain ⟨rest, again⟩ := found
  rw [text_of_read read, text_of_read again] at same
  subst same
  exact Except.ok.inj (read.symm.trans again)

end WasRead

theorem parse_eq_ok_iff {value : String} :
    Symbol.parse value = .ok symbol ↔ Symbol.read (Text.trim value.toList) = .ok symbol :=
  mapError_eq_ok_iff

theorem wasRead_of_parse {value : String} (parsed : Symbol.parse value = .ok symbol) : symbol.WasRead :=
  ⟨_, parse_eq_ok_iff.mp parsed⟩

end Linkage.Symbol
