import Linkage.Proofs.AscendingLists

/-! Adding to a set at the place that a search gives. Of a search it is asked that it is right in sorted lists; in any
other list it may answer what it likes, so a set is built in this way only because it stays sorted from one element to
the next. Then nothing tells the search from going through the list. Halving the list is such a search. -/

namespace Linkage.Ascending
variable {α : Type u} {order : α → α → Ordering} {x middle : α} {xs front rest upper : List α} {count : Nat}

/-- Where an equal element stands, or where there is a place for the element. -/
inductive Answer where
  | present (index : Nat)
  | absent (index : Nat)
  deriving DecidableEq, Repr

/-- In a sorted list an equal element is found if there is one, and otherwise a place that keeps the list sorted. -/
structure Searches (order : α → α → Ordering) (search : List α → α → Answer) : Prop where
  present : ∀ {xs x index}, Sorted order xs → search xs x = .present index →
    ∃ y, xs[index]? = some y ∧ order y x = .eq
  absent : ∀ {xs x index}, Sorted order xs → search xs x = .absent index →
    ¬ Holds order xs x ∧ index ≤ xs.length ∧ Sorted order (xs.insertIdx index x)

/-- Adds an element at the place that is found for it, unless an equal one is found. Behind the end there is no place. -/
def insertBy? (search : List α → α → Answer) (x : α) (xs : List α) : Option (List α) :=
  match search xs x with
  | .present _ => some xs
  | .absent index => if index ≤ xs.length then some (xs.insertIdx index x) else none

def Answer.behind (count : Nat) : Answer → Answer
  | present index => present (count + index)
  | absent index => absent (count + index)

/-- Compares with the element in the middle, and goes on in one of the halves. -/
def bisect (order : α → α → Ordering) (xs : List α) (x : α) : Answer :=
  match halves : xs.drop (xs.length / 2) with
  | [] => .absent 0
  | middle :: upper =>
    have lengths : xs.length - xs.length / 2 = upper.length + 1 := by
      rw [← List.length_drop, halves, List.length_cons]
    match order middle x with
    | .lt => (bisect order upper x).behind (xs.length / 2 + 1)
    | .eq => .present (xs.length / 2)
    | .gt => bisect order (xs.take (xs.length / 2)) x
termination_by xs.length
decreasing_by
  · omega
  · rw [List.length_take]
    omega

/-- An equal element with what stands in front of it, or the elements below and those above. -/
inductive Locates (order : α → α → Ordering) (x : α) : List α → Answer → Prop where
  | present (front rest : List α) {y : α} (same : order y x = .eq) :
      Locates order x (front ++ y :: rest) (.present front.length)
  | absent (front rest : List α) (below : ∀ y ∈ front, order y x = .lt) (above : ∀ y ∈ rest, order x y = .lt) :
      Locates order x (front ++ rest) (.absent front.length)

namespace Locates
variable {answer : Answer}

theorem behind (located : Locates order x rest answer) (below : ∀ y ∈ front, order y x = .lt) :
    Locates order x (front ++ rest) (answer.behind front.length) := by
  cases located with
  | present first last same =>
    rw [← List.append_assoc, Answer.behind, ← List.length_append]
    exact .present (front ++ first) last same
  | absent first last lower above =>
    rw [← List.append_assoc, Answer.behind, ← List.length_append]
    refine .absent (front ++ first) last ?_ above
    intro y member
    exact (List.mem_append.mp member).elim (below y) (lower y)

theorem before (located : Locates order x front answer) (above : ∀ y ∈ rest, order x y = .lt) :
    Locates order x (front ++ rest) answer := by
  cases located with
  | present first last same =>
    rw [List.append_assoc]
    exact .present first (last ++ rest) same
  | absent first last below higher =>
    rw [List.append_assoc]
    refine .absent first (last ++ rest) below ?_
    intro y member
    exact (List.mem_append.mp member).elim (higher y) (above y)

end Locates

theorem split_of_drop (halves : xs.drop count = middle :: upper) :
    (xs.take count).length = count ∧ xs = xs.take count ++ middle :: upper := by
  have inside : count < xs.length := by
    rw [← Nat.not_le, ← List.drop_eq_nil_iff, halves]
    exact List.cons_ne_nil middle upper
  constructor
  · rw [List.length_take]
    omega
  · rw [← halves, List.take_append_drop]

theorem insertIdx_append : (front ++ rest).insertIdx front.length x = front ++ x :: rest := by
  induction front with
  | nil => rfl
  | cons first front ih => rw [List.cons_append, List.length_cons, List.insertIdx_succ_cons, ih, List.cons_append]

variable [Std.TransCmp order]

theorem locates_bisect (x : α) (sorted : Sorted order xs) : Locates order x xs (bisect order xs x) := by
  fun_induction bisect order xs x with
  | case1 xs halves =>
    have empty : xs = [] := by
      apply List.eq_nil_of_length_eq_zero
      have short := List.drop_eq_nil_iff.mp halves
      omega
    rw [empty]
    exact .absent [] [] (List.forall_mem_nil _) (List.forall_mem_nil _)
  | case2 xs middle upper halves _ lower ih =>
    obtain ⟨size, whole⟩ := split_of_drop halves
    generalize xs.take (xs.length / 2) = front at size whole
    rw [← size]
    rw [whole] at sorted ⊢
    obtain ⟨-, behind, between⟩ := List.pairwise_append.mp sorted
    -- As the list is sorted, all in front of the middle is below the element, and only the upper half is left.
    have below : ∀ y ∈ front ++ [middle], order y x = .lt := by
      intro y member
      rcases List.mem_append.mp member with first | last
      · exact Std.TransCmp.lt_of_isLE_of_lt (between y first middle List.mem_cons_self) lower
      · rwa [List.mem_singleton.mp last]
    simpa using (ih behind.tail).behind below
  | case3 xs middle upper halves _ same =>
    obtain ⟨size, whole⟩ := split_of_drop halves
    generalize xs.take (xs.length / 2) = front at size whole
    rw [← size, whole]
    exact .present front upper same
  | case4 xs middle upper halves _ higher ih =>
    obtain ⟨-, whole⟩ := split_of_drop halves
    generalize xs.take (xs.length / 2) = front at whole ih ⊢
    rw [whole] at sorted ⊢
    obtain ⟨ordered, behind, -⟩ := List.pairwise_append.mp sorted
    -- Here the middle and all behind it is above the element.
    apply (ih ordered).before
    have first : order x middle = .lt := Std.OrientedCmp.lt_of_gt higher
    intro y member
    rcases List.mem_cons.mp member with rfl | later
    · exact first
    · exact Std.TransCmp.lt_of_lt_of_isLE first ((List.pairwise_cons.mp behind).1 y later)

theorem searches_bisect : Searches order (bisect order) where
  present {xs x index} sorted found := by
    have located := locates_bisect x sorted
    rw [found] at located
    cases located with
    | present front rest same =>
      refine ⟨_, ?_, same⟩
      rw [List.getElem?_append_right (Nat.le_refl _), Nat.sub_self, List.getElem?_cons_zero]
  absent {xs x index} sorted missing := by
    have located := locates_bisect x sorted
    rw [missing] at located
    cases located with
    | absent front rest below above =>
      refine ⟨?_, ?_, ?_⟩
      · rw [holds_append, not_or]
        refine ⟨?_, not_holds_of_above above⟩
        rintro ⟨y, member, same⟩
        rw [below y member] at same
        cases same
      · rw [List.length_append]
        omega
      · rw [insertIdx_append]
        obtain ⟨lower, upper, between⟩ := List.pairwise_append.mp sorted
        apply List.pairwise_append.mpr
        refine ⟨lower, List.pairwise_cons.mpr ⟨?_, upper⟩, ?_⟩
        · intro y member
          rw [above y member]
          rfl
        · intro y member z later
          rcases List.mem_cons.mp later with rfl | later
          · rw [below y member]
            rfl
          · exact between y member z later

theorem insert_of_holds (strict : Strict order xs) (held : Holds order xs x) : insert order x xs = xs := by
  apply (insert_strict x strict).eq_of_mem_iff strict
  intro y
  rw [mem_insert_iff strict]
  exact or_iff_left fun added => added.2 held

/-- There is only one place that keeps the list sorted, for an element without an equal one. -/
theorem insertIdx_eq_insert {index : Nat} (strict : Strict order xs) (new : ¬ Holds order xs x)
    (inside : index ≤ xs.length) (sorted : Sorted order (xs.insertIdx index x)) :
    xs.insertIdx index x = insert order x xs := by
  have distinct : (x :: xs).Pairwise fun a b => order a b ≠ .eq := by
    refine List.pairwise_cons.mpr ⟨?_, strict.imp fun below same => ?_⟩
    · intro y member same
      exact new ⟨y, member, Std.OrientedCmp.eq_symm same⟩
    · rw [below] at same
      cases same
  have ordered : Strict order (xs.insertIdx index x) :=
    strict_of_sorted sorted (distinct_of_perm (List.perm_insertIdx x xs inside) distinct)
  apply ordered.eq_of_mem_iff (insert_strict x strict)
  intro y
  rw [List.mem_insertIdx inside, mem_insert_iff strict, and_iff_left new, or_comm]

/-- A search that is right leads to where going through the list leads. -/
theorem insertBy?_eq {search : List α → α → Answer} (searches : Searches order search) (strict : Strict order xs) :
    insertBy? search x xs = some (insert order x xs) := by
  unfold insertBy?
  cases answer : search xs x with
  | present index =>
    obtain ⟨y, found, same⟩ := searches.present strict.sorted answer
    rw [insert_of_holds strict ⟨y, List.mem_of_getElem? found, same⟩]
  | absent index =>
    obtain ⟨new, inside, sorted⟩ := searches.absent strict.sorted answer
    dsimp only
    rw [if_pos inside, insertIdx_eq_insert strict new inside sorted]

end Linkage.Ascending
