import Linkage.Repository.Metadata
import Linkage.Proofs.TextCutting
import Linkage.Proofs.TextSplitting
import Linkage.Proofs.VersionOrder
import Linkage.Proofs.AscendingLists

/-! The versions that a repository lists. A document is read from left to right: where an element stands it is taken as a
whole, and anything else is passed over one character at a time. So no element is missed and none is found across the
borders of another one. The versions that were read come in strict order, the first spelling of each. -/

namespace Linkage.Repository
open Ascending
variable {document after rest gap word : List Char} {words : List (List Char)} {c : Char}

/-- A `version` element with one word in it. -/
structure Element where
  start : List Char := []
  word : List Char
  stop : List Char := []
  start_blank : Text.AllBlank start
  word_ne_nil : word ≠ []
  word_filled : ∀ c ∈ word, c ≠ '<' ∧ Text.isBlank c = false
  stop_blank : Text.AllBlank stop

namespace Element

def opening : List Char :=
  "<version>".toList

def closing : List Char :=
  "</version>".toList

def text (element : Element) : List Char :=
  opening ++ (element.start ++ (element.word ++ (element.stop ++ closing)))

theorem exists_text (element : Element) : ∃ rest, element.text = '<' :: rest :=
  ⟨_, rfl⟩

theorem opening_prefix (element : Element) : opening <+: element.text :=
  List.prefix_append _ _

end Element

theorem word_eq (filled : ∀ c ∈ word, c ≠ '<' ∧ Text.isBlank c = false) (stops : ∀ c ∈ rest.head?, c = '<' ∨ Text.isBlank c) :
    (word ++ rest).takeWhile (fun c => c ≠ '<' && !Text.isBlank c) = word := by
  refine Text.takeWhile_append (fun c member => ?_) fun c first => ?_
  · simp [filled c member]
  · rcases stops c first with rfl | blank
    · simp
    · simp [blank]

private theorem guard_bind_eq_some_iff {α : Type} {p : Prop} [Decidable p] {next : Unit → Option α} {value : α} :
    (guard p >>= next) = some value ↔ p ∧ next () = some value := by
  by_cases holds : p <;> simp [guard, holds]

/-- What stands behind the opening tag, from the first character that is no white space on. -/
private def inside (document : List Char) : List Char :=
  Text.trimStart (document.drop Element.opening.length)

theorem element?_steps : element? document = some (word, after) ↔
    Element.opening <+: document ∧ (inside document).takeWhile (fun c => c ≠ '<' && !Text.isBlank c) = word ∧ word ≠ [] ∧
      Text.trimStart ((inside document).drop word.length) = Element.closing ++ after := by
  have steps : element? document = (do
      guard (Element.opening.isPrefixOf document)
      let word := (inside document).takeWhile fun c => c ≠ '<' && !Text.isBlank c
      guard !word.isEmpty
      let rest := Text.trimStart ((inside document).drop word.length)
      guard (Element.closing.isPrefixOf rest)
      return (word, rest.drop Element.closing.length)) := rfl
  rw [steps, guard_bind_eq_some_iff, guard_bind_eq_some_iff, guard_bind_eq_some_iff, List.isPrefixOf_iff_prefix,
    List.isPrefixOf_iff_prefix]
  constructor
  · rintro ⟨starts, filled, ends, same⟩
    obtain ⟨rfl, rfl⟩ := Prod.mk.inj (Option.some.inj same)
    obtain ⟨closed, whole⟩ := ends
    refine ⟨starts, rfl, by simpa using filled, ?_⟩
    rw [← whole, List.drop_left]
  · rintro ⟨starts, rfl, filled, whole⟩
    refine ⟨starts, by simpa using filled, ?_, ?_⟩
    · rw [whole]
      exact List.prefix_append _ _
    · rw [whole, List.drop_left]
      rfl

private theorem inside_text (element : Element) (after : List Char) :
    inside (element.text ++ after) = element.word ++ (element.stop ++ (Element.closing ++ after)) := by
  have whole : element.text ++ after =
      Element.opening ++ (element.start ++ (element.word ++ (element.stop ++ (Element.closing ++ after)))) := by
    simp only [Element.text, List.append_assoc]
  rw [inside, whole, List.drop_left, Text.trimStart_append element.start_blank]
  refine Text.trimStart_eq_self fun c first => ?_
  obtain ⟨c, rest, named⟩ := List.exists_cons_of_ne_nil element.word_ne_nil
  rw [named, List.cons_append, List.head?_cons, Option.mem_some_iff] at first
  have member : c ∈ element.word := by simp [named]
  exact first ▸ (element.word_filled c member).2

private theorem trimStart_closing (blank : Text.AllBlank gap) (after : List Char) :
    Text.trimStart (gap ++ (Element.closing ++ after)) = Element.closing ++ after := by
  rw [Text.trimStart_append blank]
  rfl

theorem element?_eq_some_iff : element? document = some (word, after) ↔
    ∃ element : Element, element.word = word ∧ element.text ++ after = document := by
  rw [element?_steps]
  constructor
  · rintro ⟨⟨behind, rfl⟩, rfl, filled, ends⟩
    obtain ⟨start, start_blank, front⟩ := Text.exists_trimStart behind
    have same : inside (Element.opening ++ behind) = Text.trimStart behind := by
      rw [inside, List.drop_left]
    rw [same] at filled ends ⊢
    generalize Text.trimStart behind = input at front filled ends
    obtain ⟨stop, stop_blank, last⟩ := Text.exists_trimStart
      (input.drop (input.takeWhile fun c => c ≠ '<' && !Text.isBlank c).length)
    refine ⟨⟨start, _, stop, start_blank, filled, ?_, stop_blank⟩, rfl, ?_⟩
    · intro c member
      simpa using List.mem_takeWhile_imp member
    · have word : (input.takeWhile fun c => c ≠ '<' && !Text.isBlank c) <+: input := List.takeWhile_prefix _
      rw [List.prefix_iff_eq_append] at word
      rw [ends] at last
      simp only [Element.text, List.append_assoc]
      rw [last, word, front]
  · rintro ⟨element, rfl, rfl⟩
    have stops : ∀ c ∈ (element.stop ++ (Element.closing ++ after)).head?, c = '<' ∨ Text.isBlank c := by
      intro c first
      cases stopped : element.stop with
      | nil =>
        rw [stopped] at first
        exact .inl (Option.some.inj first).symm
      | cons blank rest =>
        rw [stopped] at first
        obtain rfl : blank = c := Option.some.inj first
        exact .inr (element.stop_blank blank (by simp [stopped]))
    have starts : Element.opening <+: element.text ++ after := element.opening_prefix.trans (List.prefix_append _ _)
    refine ⟨starts, ?_, element.word_ne_nil, ?_⟩
    · rw [inside_text, word_eq element.word_filled stops]
    · rw [inside_text, List.drop_left, trimStart_closing element.stop_blank]

theorem elementsAfter_skip (skip : Nat) (document : List Char) :
    elementsAfter skip document = elementsAfter 0 (document.drop skip) := by
  induction document generalizing skip with
  | nil => simp [elementsAfter]
  | cons c rest ih =>
    cases skip with
    | zero => rfl
    | succ skip => exact ih skip

theorem elementsAfter_text (element : Element) (after : List Char) :
    elementsAfter 0 (element.text ++ after) = element.word :: elementsAfter 0 after := by
  obtain ⟨rest, starts⟩ := element.exists_text
  have found : element? ('<' :: (rest ++ after)) = some (element.word, after) := by
    rw [← List.cons_append, ← starts]
    exact element?_eq_some_iff.mpr ⟨element, rfl, rfl⟩
  have behind : (rest ++ after).drop ((rest ++ after).length - after.length) = after := by
    rw [List.length_append, Nat.add_sub_cancel, List.drop_left]
  rw [starts, List.cons_append, elementsAfter, found]
  dsimp only
  rw [elementsAfter_skip, behind]

theorem elementsAfter_cons (other : ∀ element : Element, ¬ element.text <+: c :: rest) :
    elementsAfter 0 (c :: rest) = elementsAfter 0 rest := by
  cases found : element? (c :: rest) with
  | none => rw [elementsAfter, found]
  | some answer =>
    obtain ⟨element, -, whole⟩ := element?_eq_some_iff.mp found
    exact absurd ⟨answer.2, whole⟩ (other element)

/-- The words of a document, read from left to right. An element is taken where it stands first, and reading goes on
behind it. -/
inductive Finds : List Char → List (List Char) → Prop where
  | nothing : Finds [] []
  | element (element : Element) {after : List Char} {words : List (List Char)} (found : Finds after words) :
    Finds (element.text ++ after) (element.word :: words)
  | character {c : Char} {rest : List Char} {words : List (List Char)}
    (other : ∀ element : Element, ¬ element.text <+: c :: rest) (found : Finds rest words) : Finds (c :: rest) words

theorem Finds.elementsAfter_eq (found : Finds document words) : elementsAfter 0 document = words := by
  induction found with
  | nothing => rfl
  | element element _ ih => rw [elementsAfter_text, ih]
  | character other _ ih => rw [elementsAfter_cons other, ih]

/-- On the length, since an element takes several characters at once. -/
theorem finds_elementsAfter (document : List Char) : Finds document (elementsAfter 0 document) := by
  induction size : document.length using Nat.strongRecOn generalizing document with
  | ind n ih =>
    subst size
    cases document with
    | nil => exact .nothing
    | cons c rest =>
      by_cases other : ∀ element : Element, ¬ element.text <+: c :: rest
      · rw [elementsAfter_cons other]
        exact .character other (ih _ (Nat.lt_succ_self _) rest rfl)
      · obtain ⟨element, after, whole⟩ : ∃ element : Element, element.text <+: c :: rest := by simpa using other
        have shorter : after.length < (c :: rest).length := by
          obtain ⟨behind, starts⟩ := element.exists_text
          rw [← whole, List.length_append, starts, List.length_cons]
          omega
        rw [← whole, elementsAfter_text]
        exact .element element (ih _ shorter after rfl)

theorem finds_iff : Finds document words ↔ elementsAfter 0 document = words := by
  constructor
  · exact Finds.elementsAfter_eq
  · rintro rfl
    exact finds_elementsAfter document

/-- A tag may start only at its first character, so none starts in a gap and goes on behind it. -/
theorem Element.opening_of_prefix (gap : List Char) (ends : ∀ c ∈ rest.head?, c = '<')
    (starts : Element.opening <+: c :: (gap ++ rest)) : Element.opening <+: c :: gap := by
  rcases List.prefix_or_prefix_of_prefix starts (List.prefix_append (c :: gap) rest) with within | across
  · exact within
  · obtain ⟨missing, tag⟩ := across
    obtain ⟨behind, whole⟩ := starts
    cases missing with
    | nil => exact ⟨[], by simpa using tag.symm⟩
    | cons d missing =>
      have split : d :: missing ++ behind = rest := by
        refine (List.append_right_inj (c :: gap)).mp ?_
        rw [← List.append_assoc, tag, whole, List.cons_append]
      obtain rfl : d = '<' := ends d (by rw [← split]; rfl)
      have inner : '<' ∈ Element.opening.tail := by
        rw [← tag, List.cons_append, List.tail_cons]
        simp
      exact absurd inner (by decide)

theorem Finds.behind_gap (free : ¬ Element.opening <:+: gap) (ends : ∀ c ∈ rest.head?, c = '<') (found : Finds rest words) :
    Finds (gap ++ rest) words := by
  induction gap with
  | nil => exact found
  | cons c gap ih =>
    rw [List.infix_cons_iff, not_or] at free
    refine .character (fun element starts => ?_) (ih free.2)
    exact free.1 (Element.opening_of_prefix gap ends (element.opening_prefix.trans starts))

/-- A document of elements and of what stands around them, which has no opening tags. -/
structure Listing where
  front : List Char
  parts : List (Element × List Char)
  front_free : ¬ Element.opening <:+: front
  parts_free : ∀ part ∈ parts, ¬ Element.opening <:+: part.2

namespace Listing

def text (listing : Listing) : List Char :=
  listing.front ++ listing.parts.flatMap fun part => part.1.text ++ part.2

def contents (listing : Listing) : List (List Char) :=
  listing.parts.map fun part => part.1.word

/-- The versions that can be read, in the order of the document. -/
def spelled (listing : Listing) : List Version :=
  listing.contents.filterMap fun word => (Version.parse (.ofList word)).toOption

/-- The induction goes through the elements; each gap ends at the next of them, or with the document. -/
theorem finds (listing : Listing) : Finds listing.text listing.contents := by
  obtain ⟨front, parts, front_free, parts_free⟩ := listing
  show Finds (front ++ parts.flatMap fun part => part.1.text ++ part.2) (parts.map fun part => part.1.word)
  induction parts generalizing front with
  | nil => exact .behind_gap front_free (by simp) .nothing
  | cons part parts ih =>
    obtain ⟨free, others⟩ := List.forall_mem_cons.mp parts_free
    obtain ⟨rest, starts⟩ := part.1.exists_text
    rw [List.flatMap_cons, List.map_cons, List.append_assoc]
    exact .behind_gap front_free (by simp [starts]) (.element part.1 (ih part.2 free others))

end Listing

/-- The versions in a document are in strict order. In a document of elements they are the words that can be read as
versions, and of equal ones the first. -/
theorem versionsIn_listing :
    (∀ document, Strict Version.compare (versionsIn document)) ∧
      ∀ listing : Listing,
        (∀ version, version ∈ versionsIn (.ofList listing.text) ↔ First Version.compare listing.spelled version) ∧
        ∀ version, Holds Version.compare (versionsIn (.ofList listing.text)) version ↔
          Holds Version.compare listing.spelled version := by
  refine ⟨fun document => ofList_strict _, fun listing => ?_⟩
  have read : versionsIn (.ofList listing.text) = ofList Version.compare listing.spelled := by
    rw [versionsIn, String.toList_ofList, listing.finds.elementsAfter_eq, Listing.spelled]
  rw [read]
  exact ⟨fun version => mem_ofList_iff, fun version => holds_ofList⟩

section
private def element (start word stop : String) (start_blank : Text.AllBlank start.toList := by decide +kernel)
    (word_ne_nil : word.toList ≠ [] := by decide +kernel)
    (word_filled : word.toList.all (fun c => c ≠ '<' && !Text.isBlank c) = true := by decide +kernel)
    (stop_blank : Text.AllBlank stop.toList := by decide +kernel) : Element :=
  ⟨start.toList, word.toList, stop.toList, start_blank, word_ne_nil, by simpa using word_filled, stop_blank⟩

private def published : Listing where
  front := "<versions> ".toList
  parts := [(element "" "2.0" "", " ".toList), (element " " "draft!" "", []), (element "" "1.4" "\n", " <vers".toList),
    (element "" "2.0.0" "", " </versions>".toList)]
  front_free := by decide +kernel
  parts_free := by decide +kernel

/-- The draft is no version, and the last element spells the first one again. -/
theorem versionsIn_listing_published :
    String.ofList published.text = "<versions> <version>2.0</version> <version> draft!</version><version>1.4\n</version> " ++
      "<vers<version>2.0.0</version> </versions>" ∧
    published.spelled.map (·.text) = ["2.0", "1.4", "2.0.0"] ∧
    (versionsIn (.ofList published.text)).map (·.text) = ["1.4", "2.0"] ∧
    (∀ version, version ∈ versionsIn (.ofList published.text) ↔ First Version.compare published.spelled version) ∧
    ∀ version, Holds Version.compare (versionsIn (.ofList published.text)) version ↔
      Holds Version.compare published.spelled version :=
  ⟨by decide +kernel, by decide +kernel, by decide +kernel, versionsIn_listing.2 published⟩

end

/-- A tag that is cut off hides no element behind it, and a word that is no version is left out. -/
example : (versionsIn "<vers<version> 2.0\n</version><version>x</version><version>2</version>").map (·.text) =
    ["2.0"] := by
  decide +kernel

end Linkage.Repository
