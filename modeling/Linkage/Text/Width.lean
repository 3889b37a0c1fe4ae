import Linkage.Text.Natural
import Linkage.Text.Ranges
import Linkage.Text.WidthTable

/-! How many columns a text takes on a terminal. Control sequences take none, wide characters take two, and an emoji
takes two however many characters form it. -/

namespace Linkage.Text

/-! ### Control sequences -/

/-- The characters that a control sequence starts with. -/
def isEscape (c : Char) : Bool :=
  c = '\x1b' || c = '\u009b'

/-- The characters that end a control sequence and say what it does. -/
def isCommand (c : Char) : Bool :=
  ('A' ≤ c && c ≤ 'P') || ('f' ≤ c && c ≤ 'n') || "RZcqry=><".toList.contains c

/-- What was read of a control sequence: marks, a number of some digits, or the semicolon between numbers. -/
inductive SequencePart where
  | marks
  | number (digits : Nat)
  | semicolon
  deriving DecidableEq, Repr

/-- How many characters still belong to a control sequence, as many as can. A digit may end it, and the fifth digit of
a number has to. -/
def sequenceRest (part : SequencePart) : List Char → Option Nat
  | [] => none
  | c :: rest =>
    if isCommand c then some 1
    else if isDigit c then
      match part with
      | .number 4 => some 1
      | .number digits => some (1 + (sequenceRest (.number (digits + 1)) rest).getD 0)
      | _ => some (1 + (sequenceRest (.number 1) rest).getD 0)
    else if part = .marks then
      if "[()#;?".toList.contains c then (sequenceRest .marks rest).map (1 + ·) else none
    else if c = ';' then (sequenceRest .semicolon rest).map (1 + ·)
    else none

/-- The length of the control sequence that goes on after an escape character. A choice of character set is a
parenthesis and one character. -/
def sequenceLength? : List Char → Option Nat
  | mark :: set :: rest =>
    if (mark = '(' || mark = ')') && "012AB".toList.contains set then some 2
    else sequenceRest .marks (mark :: set :: rest)
  | input => sequenceRest .marks input

/-- The parts of a text between its control sequences; `skip` characters belong to the sequence that was found last. -/
def plainParts (skip : Nat) : List Char → List (List Char)
  | [] => [[]]
  | c :: rest =>
    match skip with
    | skip + 1 => plainParts skip rest
    | 0 =>
      match if isEscape c then sequenceLength? rest else none with
      | some length => [] :: plainParts length rest
      | none =>
        match plainParts 0 rest with
        | part :: others => (c :: part) :: others
        | [] => [[c]]

/-! ### Characters -/

def isZeroWidth (c : Char) : Bool :=
  0xA0 < c.toNat && within zeroWidthRanges c

/-- The columns of a character by itself. -/
def characterWidth (c : Char) : Nat :=
  if c.toNat ≤ 0xA0 then 1
  else if within zeroWidthRanges c then 0
  else if within doubleWidthRanges c then 2
  else 1

/-- A pair of letters of one script that is written as a single one, so that the second takes no column. Marks may
stand between the two; when there are links, the mark next to the second is one of them. -/
structure Ligature where
  first : List (Nat × Nat)
  links : List Nat := []
  second : List (Nat × Nat)

/-- Lam and alef in Arabic, tone letters in Lisu, vowel signs in Kirat Rai, and pairs with a joiner in Hebrew, Tifinagh
and Old Turkic. -/
def ligatures : List Ligature :=
  [{ first := [(0x644, 0x644), (0x6B5, 0x6B8), (0x76A, 0x76A), (0x8A6, 0x8A6), (0x8C7, 0x8C7)]
     second := [(0x622, 0x623), (0x625, 0x625), (0x627, 0x627), (0x671, 0x673), (0x675, 0x675), (0x773, 0x774)] },
    { first := [(0xA4F8, 0xA4FB)], second := [(0xA4FC, 0xA4FD)] },
    { first := [(0x16D63, 0x16D63), (0x16D67, 0x16D67)], second := [(0x16D67, 0x16D67)] },
    { first := [(0x16D63, 0x16D63)], second := [(0x16D68, 0x16D68)] },
    { first := [(0x5D0, 0x5D0)], links := [0x200D], second := [(0x5DC, 0x5DC)] },
    { first := [(0x2D31, 0x2D65), (0x2D6F, 0x2D6F)], links := [0x2D7F, 0x200D]
      second := [(0x2D31, 0x2D65), (0x2D6F, 0x2D6F)] },
    { first := [(0x10C32, 0x10C32)], links := [0x200D], second := [(0x10C03, 0x10C03)] }]

/-- The letters of Khmer that go below the letter before when a joining sign precedes them. -/
def subscriptLetters : List (Nat × Nat) :=
  [(0x1780, 0x1782), (0x1784, 0x1787), (0x1789, 0x178C), (0x178E, 0x1793), (0x1795, 0x1798), (0x179B, 0x179D),
    (0x17A0, 0x17A0), (0x17A2, 0x17A2), (0x17A7, 0x17A7), (0x17AB, 0x17AC), (0x17AF, 0x17AF)]

/-- Whether a letter merges with what precedes it; the characters before it are given from the nearest on. -/
def merges (before : List Char) (c : Char) : Bool :=
  (within subscriptLetters c && before.head?.any (·.toNat = 0x17D2)) ||
    ligatures.any fun ligature =>
      within ligature.second c &&
        (ligature.links.isEmpty || before.head?.any (ligature.links.contains ·.toNat)) &&
        (before.dropWhile isZeroWidth).head?.any (within ligature.first)

/-! ### Emoji -/

def joiner : Char := '\u200d'
def textSelector : Char := '\ufe0e'
def pictureSelector : Char := '\ufe0f'

def isSkinTone (c : Char) : Bool :=
  within [(0x1F3FB, 0x1F3FF)] c

/-- The letters that form flags in pairs; each takes a column of its own. -/
def isFlagLetter (c : Char) : Bool :=
  within [(0x1F1E6, 0x1F1FF)] c

def isPicture (c : Char) : Bool :=
  within pictureRanges c && !isFlagLetter c

/-- The number of characters that form a picture at the front of a text: an emoji with a skin tone, an emoji that is a
picture by itself, or one that a selector makes a picture. -/
def pictureLength? : List Char → Option Nat
  | [] => none
  | c :: rest =>
    let next := rest.head?
    if next.any isSkinTone && within modifierBaseRanges c then some 2
    else if next = some pictureSelector then
      if isPicture c || within textEmojiRanges c then some 2 else none
    else if next ≠ some textSelector && isPicture c then some 1
    else none

/-- What the text before a character ends with, as far as emoji are concerned. -/
inductive Ending where
  | other
  | picture
  /-- A joiner after a picture. -/
  | joiner
  deriving DecidableEq, Repr

/-- Whether a selector takes the second column of a picture away. -/
def isNarrowed (c : Char) (rest : List Char) : Bool :=
  rest.head? = some textSelector && isPicture c && !within [(0x1F200, 0x1F2FF)] c

/-- The columns of a text without control sequences. The characters before it are given from the nearest on; the first
`skip` characters belong to a picture that is counted already. -/
def columns (before : List Char) (ending : Ending) (skip : Nat) : List Char → Nat
  | [] => 0
  | c :: rest =>
    match skip with
    | skip + 1 => columns (c :: before) ending skip rest
    | 0 =>
      match pictureLength? (c :: rest) with
      -- A picture that is joined to the one before takes no columns of its own.
      | some length => (if ending = .joiner then 0 else 2) + columns (c :: before) .picture (length - 1) rest
      | none =>
        if c = joiner then columns (c :: before) (if ending = .picture then .joiner else .other) 0 rest
        else
          let width :=
            if c = '\r' && rest.head? = some '\n' then 0
            else if isNarrowed c rest then 1
            else if merges before c then 0
            else characterWidth c
          width + columns (c :: before) .other 0 rest

def width (text : String) : Nat :=
  (plainParts 0 text.toList).foldl (fun count part => count + columns [] .other 0 part) 0

end Linkage.Text
