import Linkage.Ascending
import Linkage.Version

/-! The listing of a library's versions that a repository publishes. -/

namespace Linkage.Repository

/-- The text of a `version` element at the front of a document, and what comes after the element. The text is one word,
maybe with white space around it. -/
def element? (document : List Char) : Option (List Char × List Char) := do
  let opening := "<version>".toList
  let closing := "</version>".toList
  guard (opening.isPrefixOf document)
  let input := Text.trimStart (document.drop opening.length)
  let word := input.takeWhile fun c => c ≠ '<' && !Text.isBlank c
  guard !word.isEmpty
  let rest := Text.trimStart (input.drop word.length)
  guard (closing.isPrefixOf rest)
  return (word, rest.drop closing.length)

/-- The texts of the `version` elements of a document, whatever is around them; `skip` characters belong to the element
that was found last. -/
def elementsAfter (skip : Nat) : List Char → List (List Char)
  | [] => []
  | c :: rest =>
    match skip with
    | skip + 1 => elementsAfter skip rest
    | 0 =>
      match element? (c :: rest) with
      | some (word, after) => word :: elementsAfter (rest.length - after.length) rest
      | none => elementsAfter 0 rest

/-- The versions in a document, ascending. Those that cannot be read are left out, and of equal ones the first is
taken. -/
def versionsIn (document : String) : List Version :=
  Ascending.ofList Version.compare
    ((elementsAfter 0 document.toList).filterMap fun word => (Version.parse (.ofList word)).toOption)

end Linkage.Repository
