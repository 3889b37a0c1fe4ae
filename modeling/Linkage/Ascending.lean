/-! Sets as ascending lists without repetition, for an order under which different elements may compare as equal.
Which of several equal elements a set holds is visible, so there are two insertions. -/

namespace Linkage.Ascending
variable {α : Type u} (order : α → α → Ordering)

/-- Adds an element, unless an equal one is there. -/
def insert (x : α) : List α → List α
  | [] => [x]
  | y :: rest =>
    match order x y with
    | .lt => x :: y :: rest
    | .eq => y :: rest
    | .gt => y :: insert x rest

/-- Adds an element in place of an equal one. -/
def replace (x : α) : List α → List α
  | [] => [x]
  | y :: rest =>
    match order x y with
    | .lt => x :: y :: rest
    | .eq => x :: rest
    | .gt => y :: replace x rest

/-- Of equal elements the first stays. -/
def ofList (xs : List α) : List α :=
  xs.foldl (fun set x => insert order x set) []

/-- Of equal elements the last stays. -/
def ofListLast (xs : List α) : List α :=
  xs.foldl (fun set x => replace order x set) []

/-- Places an element behind all that are not above it. -/
def place (x : α) : List α → List α
  | [] => [x]
  | y :: rest => if order x y = .lt then x :: y :: rest else y :: place x rest

/-- Sorts, and keeps the order of equal elements. -/
def sort (xs : List α) : List α :=
  xs.foldl (fun sorted x => place order x sorted) []

end Linkage.Ascending
