import Linkage.Yaml.Token.Quoted

/-! Block scalars. A literal one keeps its line breaks and a folded one joins lines; the header may tell how deep the
lines are indented and whether the breaks at the end are dropped or kept. -/

namespace Linkage.Yaml

inductive Chomping where
  | clip
  | strip
  | keep
  deriving DecidableEq, Repr

structure BlockHeader where
  chomping : Chomping := .clip
  /-- The indentation beyond that of the parent. -/
  increment : Option Nat := none

private def chomping? : Char → Option Chomping
  | '+' => some .keep
  | '-' => some .strip
  | _ => none

private def increment? (c : Char) : Option Nat :=
  if '1' ≤ c && c ≤ '9' then some (c.toNat - '0'.toNat) else none

/-- The header of a block scalar and the number of characters it takes. -/
def blockHeader (position : Position) : List Char → Except Fault (BlockHeader × Nat)
  | [] => return ({}, 0)
  | c :: rest =>
    match chomping? c with
    | some chomping =>
      match rest with
      | [] => return ({ chomping }, 1)
      | d :: _ =>
        if d = '0' then throw ⟨.unexpected "indentation indicator equal to 0", position⟩
        else match increment? d with
          | some increment => return ({ chomping, increment := some increment }, 2)
          | none => return ({ chomping }, 1)
    | none =>
      if c = '0' then throw ⟨.unexpected "indentation indicator equal to 0", position⟩
      else match increment? c with
        | none => return ({}, 0)
        | some increment =>
          match rest.head?.bind chomping? with
          | some chomping => return ({ chomping, increment := some increment }, 2)
          | none => return ({ increment := some increment }, 1)

/-- Empty lines in front of a line: their breaks, the latest first, the deepest column met, and what follows. -/
structure Leading where
  breaks : List Char
  deepest : Nat
  position : Position
  rest : List Char

/-- Passes over indentation, up to a column when one is known, and over empty lines. -/
def scanLeading (indent : Option Nat) (position : Position) (breaks : List Char) (deepest : Nat) :
    List Char → Except Fault Leading
  | [] => return ⟨breaks, max deepest position.column, position, []⟩
  | '\r' :: '\n' :: rest =>
    scanLeading indent (position.nextLine 2) ('\n' :: breaks) (max deepest position.column) rest
  | c :: rest =>
    let inside := indent.all (position.column < ·)
    if inside && c = ' ' then scanLeading indent (position.skip 1) breaks deepest rest
    else if inside && c = '\t' then throw ⟨.unexpected "tab character where an indentation space is expected", position⟩
    else if c = '\u2028' || c = '\u2029' then
      scanLeading indent (position.nextLine 1) (c :: breaks) (max deepest position.column) rest
    else if isBreak c then
      scanLeading indent (position.nextLine 1) ('\n' :: breaks) (max deepest position.column) rest
    else return ⟨breaks, max deepest position.column, position, c :: rest⟩

/-- What was read of a block scalar: the text, the break after the last line, and the breaks of the empty lines after
that, all with the latest first. -/
structure BlockState where
  text : List Char := []
  lineBreak : Option Char := none
  breaks : List Char := []
  /-- Whether the last line started with a blank. -/
  leadingBlank : Bool := false

/-- Adds the breaks between two lines. Those of a folded scalar join to a space, unless a line is indented further. -/
def BlockState.joined (state : BlockState) (folding startsBlank : Bool) : List Char :=
  if folding && state.lineBreak = some '\n' && !state.leadingBlank && !startsBlank then
    if state.breaks.isEmpty then ' ' :: state.text else state.breaks ++ state.text
  else state.breaks ++ state.lineBreak.toList ++ state.text

/-- Reads lines for as long as they start at the given column, for a number of lines. -/
def scanLines (folding : Bool) (indent : Nat) :
    Nat → BlockState → Position → List Char → Except Fault (BlockState × Position × List Char)
  | 0, state, position, rest => return (state, position, rest)
  | _ + 1, state, position, [] => return (state, position, [])
  | lines + 1, state, position, c :: rest =>
    if position.column ≠ indent then return (state, position, c :: rest)
    else do
      let startsBlank := isBlank c
      let line := (c :: rest).takeWhile (!isBreak ·)
      let after := (c :: rest).dropWhile (!isBreak ·)
      let text := line.reverse ++ state.joined folding startsBlank
      let (lineBreak, position, after) := match splitBreak? after with
        | some (lineBreak, count, rest) => (some lineBreak, (position.skip line.length).nextLine count, rest)
        | none => (none, position.skip line.length, after)
      let leading ← scanLeading (some indent) position [] 0 after
      scanLines folding indent lines
        { text, lineBreak, breaks := leading.breaks, leadingBlank := startsBlank } leading.position leading.rest

/-- Reads a block scalar after its indicator. The parent's indentation is -1 at the top of a document. -/
def scanBlock (folding : Bool) (parent : Int) (position : Position) (input : List Char) :
    Except Fault Scanned := do
  let (header, count) ← blockHeader position input
  let input := input.drop count
  let blanks := input.takeWhile isBlank
  let input := input.dropWhile isBlank
  let position := position.skip (count + blanks.length)
  let comment := if input.head? = some '#' then input.takeWhile (!isBreak ·) else []
  let input := input.drop comment.length
  let position := position.skip comment.length
  if !endsLine input then throw ⟨.expected "comment or line break", position⟩
  let (position, input) := match splitBreak? input with
    | some (_, count, rest) => (position.nextLine count, rest)
    | none => (position, input)
  let told : Option Nat := header.increment.map fun increment => (max parent 0).toNat + increment
  let leading ← scanLeading told position [] 0 input
  let indent := told.getD (max leading.deepest (max (parent + 1) 1).toNat)
  let (state, position, rest) ← scanLines folding indent (leading.rest.length + 1)
    { breaks := leading.breaks } leading.position leading.rest
  let ending := match header.chomping with
    | .strip => []
    | .clip => state.lineBreak.toList
    | .keep => state.breaks ++ state.lineBreak.toList
  return ⟨.ofList (ending ++ state.text).reverse, position, rest⟩

end Linkage.Yaml
