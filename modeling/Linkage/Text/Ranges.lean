/-! Sets of characters as ranges of code points. -/

namespace Linkage.Text

/-- Whether a character is in one of the ranges, each given by its first and its last code point. -/
def within (ranges : List (Nat × Nat)) (c : Char) : Bool :=
  ranges.any fun (first, last) => first ≤ c.toNat && c.toNat ≤ last

end Linkage.Text
