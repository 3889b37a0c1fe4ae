import Mathlib.Data.List.Forall2
import Mathlib.Data.List.Perm.Basic
import Linkage.Ascending

/-! Sets as strictly ascending lists stay strictly ascending under both insertions, and hold nothing else than what was
there and what was added. Up to equality they hold all of it; of equal elements the first or the last one stays. So what
a set holds determines it up to equality. Sorting permutes, and leaves no element behind a greater one. -/

namespace Linkage.Ascending
variable {α : Type u} {order : α → α → Ordering} {x y first : α} {xs rest : List α}

/-- Each element is below all that follow, so no two are equal. -/
def Strict (order : α → α → Ordering) (xs : List α) : Prop :=
  xs.Pairwise fun a b => order a b = .lt

/-- No element is above one that follows. -/
def Sorted (order : α → α → Ordering) (xs : List α) : Prop :=
  xs.Pairwise fun a b => (order a b).isLE

/-- Some element is equal to the given one. -/
def Holds (order : α → α → Ordering) (xs : List α) (x : α) : Prop :=
  ∃ y ∈ xs, order y x = .eq

theorem holds_nil : ¬ Holds order [] x := by
  simp [Holds]

theorem holds_cons : Holds order (y :: xs) x ↔ order y x = .eq ∨ Holds order xs x := by
  simp [Holds]

theorem holds_append {ys : List α} : Holds order (xs ++ ys) x ↔ Holds order xs x ∨ Holds order ys x := by
  simp [Holds, or_and_right, exists_or]

theorem holds_perm {ys : List α} (moved : xs.Perm ys) : Holds order xs x ↔ Holds order ys x := by
  simp only [Holds, moved.mem_iff]

/-- Elements may be chosen by a property that equal elements share. -/
theorem holds_filter {p : α → Bool} (shared : ∀ y, order y x = .eq → p y = p x) :
    Holds order (xs.filter p) x ↔ p x ∧ Holds order xs x := by
  constructor
  · rintro ⟨y, member, equal⟩
    obtain ⟨member, chosen⟩ := List.mem_filter.mp member
    exact ⟨shared y equal ▸ chosen, y, member, equal⟩
  · rintro ⟨chosen, y, member, equal⟩
    exact ⟨y, List.mem_filter.mpr ⟨member, shared y equal ▸ chosen⟩, equal⟩

/-- The element is there, and none before it is equal to it. -/
def First (order : α → α → Ordering) (xs : List α) (x : α) : Prop :=
  ∃ before after, xs = before ++ x :: after ∧ ¬ Holds order before x

/-- The element is there, and none after it is equal to it. -/
def Last (order : α → α → Ordering) (xs : List α) (x : α) : Prop :=
  ∃ before after, xs = before ++ x :: after ∧ ¬ Holds order after x

theorem not_first_nil : ¬ First order [] x := by
  simp [First]

theorem first_cons : First order (y :: xs) x ↔ y = x ∨ order y x ≠ .eq ∧ First order xs x := by
  constructor
  · rintro ⟨before, after, split, fresh⟩
    cases before with
    | nil => exact .inl (List.cons.inj split).1
    | cons head before =>
      obtain ⟨rfl, rfl⟩ := List.cons.inj split
      rw [holds_cons, not_or] at fresh
      exact .inr ⟨fresh.1, before, after, rfl, fresh.2⟩
  · rintro (rfl | ⟨different, before, after, rfl, fresh⟩)
    · exact ⟨[], xs, rfl, holds_nil⟩
    · refine ⟨y :: before, after, rfl, ?_⟩
      rw [holds_cons, not_or]
      exact ⟨different, fresh⟩

theorem not_last_nil : ¬ Last order [] x := by
  simp [Last]

theorem last_cons : Last order (y :: xs) x ↔ y = x ∧ ¬ Holds order xs x ∨ Last order xs x := by
  constructor
  · rintro ⟨before, after, split, final⟩
    cases before with
    | nil =>
      obtain ⟨rfl, rfl⟩ := List.cons.inj split
      exact .inl ⟨rfl, final⟩
    | cons head before =>
      obtain ⟨rfl, rfl⟩ := List.cons.inj split
      exact .inr ⟨before, after, rfl, final⟩
  · rintro (⟨rfl, final⟩ | ⟨before, after, rfl, final⟩)
    · exact ⟨[], xs, rfl, final⟩
    · exact ⟨y :: before, after, rfl, final⟩

theorem first_filter {p : α → Bool} (shared : ∀ y, order y x = .eq → p y = p x) :
    First order (xs.filter p) x ↔ p x ∧ First order xs x := by
  induction xs with
  | nil => simp [not_first_nil]
  | cons y rest ih =>
    cases chosen : p y with
    | true =>
      rw [List.filter_cons_of_pos chosen, first_cons, first_cons, ih]
      grind
    | false =>
      rw [List.filter_cons_of_neg (by simp [chosen]), first_cons, ih]
      grind

theorem last_filter {p : α → Bool} (shared : ∀ y, order y x = .eq → p y = p x) :
    Last order (xs.filter p) x ↔ p x ∧ Last order xs x := by
  induction xs with
  | nil => simp [not_last_nil]
  | cons y rest ih =>
    have held : Holds order (rest.filter p) x ↔ p x ∧ Holds order rest x := holds_filter shared
    cases chosen : p y with
    | true =>
      rw [List.filter_cons_of_pos chosen, last_cons, last_cons, ih, held]
      grind
    | false =>
      rw [List.filter_cons_of_neg (by simp [chosen]), last_cons, ih]
      grind

theorem mem_of_mem_insert (member : y ∈ insert order x xs) : y = x ∨ y ∈ xs := by
  induction xs with
  | nil => simp_all [insert]
  | cons first rest ih =>
    unfold insert at member
    split at member <;> grind

theorem mem_of_mem_replace (member : y ∈ replace order x xs) : y = x ∨ y ∈ xs := by
  induction xs with
  | nil => simp_all [replace]
  | cons first rest ih =>
    unfold replace at member
    split at member <;> grind

theorem place_perm (x : α) (xs : List α) : (place order x xs).Perm (x :: xs) := by
  induction xs with
  | nil => exact .refl _
  | cons first rest ih =>
    unfold place
    split
    · exact .refl _
    · exact (ih.cons first).trans (.swap x first rest)

theorem sort_perm (xs : List α) : (sort order xs).Perm xs := by
  have general : ∀ sorted, (xs.foldl (fun sorted x => place order x sorted) sorted).Perm (sorted ++ xs) := by
    induction xs with
    | nil => simp
    | cons x rest ih =>
      intro sorted
      exact (ih _).trans (((place_perm x sorted).append_right rest).trans List.perm_middle.symm)
  exact general []

/-- Sorting commutes with a map that keeps the order. -/
theorem map_sort {β : Type v} {f : α → β} {other : β → β → Ordering} (keeps : ∀ a b, other (f a) (f b) = order a b) :
    (sort order xs).map f = sort other (xs.map f) := by
  have placed (x : α) (sorted : List α) : (place order x sorted).map f = place other (f x) (sorted.map f) := by
    induction sorted with
    | nil => rfl
    | cons first rest ih =>
      simp only [place, List.map_cons, keeps]
      split
      · rfl
      · rw [List.map_cons, ih]
  have general : ∀ sorted, (xs.foldl (fun sorted x => place order x sorted) sorted).map f =
      (xs.map f).foldl (fun sorted x => place other x sorted) (sorted.map f) := by
    induction xs with
    | nil => exact fun _ => rfl
    | cons x rest ih =>
      intro sorted
      rw [List.foldl_cons, ih, placed]
      rfl
  exact general []

/-- An element in front of a list whose first element it may precede. -/
private theorem pairwise_front {r : α → α → Prop} (trans : ∀ {a b c}, r a b → r b c → r a c) (before : r x first)
    (sorted : (first :: rest).Pairwise r) : (x :: first :: rest).Pairwise r := by
  refine List.pairwise_cons.mpr ⟨fun y member => ?_, sorted⟩
  rcases List.mem_cons.mp member with rfl | member
  · exact before
  · exact trans before ((List.pairwise_cons.mp sorted).1 y member)

/-- A first element in front of what has been added to the rest. -/
private theorem pairwise_behind {r : α → α → Prop} {added : List α} (members : ∀ y ∈ added, y = x ∨ y ∈ rest)
    (before : r first x) (sorted : (first :: rest).Pairwise r) (ih : added.Pairwise r) :
    (first :: added).Pairwise r := by
  refine List.pairwise_cons.mpr ⟨fun y member => ?_, ih⟩
  rcases members y member with rfl | member
  · exact before
  · exact (List.pairwise_cons.mp sorted).1 y member

private theorem mem_of_mem_foldl {step : List α → α → List α} {added : List α}
    (adds : ∀ {set : List α} {x y : α}, y ∈ step set x → y = x ∨ y ∈ set) (member : y ∈ added.foldl step xs) :
    y ∈ added ∨ y ∈ xs := by
  induction added generalizing xs with
  | nil => exact .inr member
  | cons x rest ih =>
    rcases ih member with later | earlier
    · exact .inl (List.mem_cons_of_mem x later)
    · rcases adds earlier with rfl | earlier
      · exact .inl List.mem_cons_self
      · exact .inr earlier

theorem mem_of_mem_foldl_insert {added : List α} (member : y ∈ added.foldl (fun set x => insert order x set) xs) :
    y ∈ added ∨ y ∈ xs :=
  mem_of_mem_foldl mem_of_mem_insert member

theorem mem_of_mem_ofListLast (member : y ∈ ofListLast order xs) : y ∈ xs :=
  (mem_of_mem_foldl mem_of_mem_replace member).resolve_right List.not_mem_nil

theorem Strict.sorted (strict : Strict order xs) : Sorted order xs := by
  apply strict.imp
  intro a b below
  rw [below]
  rfl

/-- A sorted list without equal elements is in strict order. -/
theorem strict_of_sorted (sorted : Sorted order xs) (distinct : xs.Pairwise fun a b => order a b ≠ .eq) :
    Strict order xs := by
  refine (sorted.and distinct).imp fun {a b} ⟨below, different⟩ => ?_
  cases compared : order a b with
  | lt => rfl
  | eq => exact absurd compared different
  | gt => simp [compared] at below

private theorem holds_foldl {step : List α → α → List α}
    (adds : ∀ {set : List α} {y : α}, Holds order (step set y) x ↔ order y x = .eq ∨ Holds order set x)
    (added set : List α) : Holds order (added.foldl step set) x ↔ Holds order added x ∨ Holds order set x := by
  induction added generalizing set with
  | nil => simp [holds_nil]
  | cons y rest ih => rw [List.foldl_cons, ih, adds, holds_cons, or_left_comm, or_assoc]

section
variable {β : Type v} {related : α → β → Prop} {before : α → α → Prop} {above : β → β → Prop}

/-- A list in order is related to a sublist of every list in order that covers it. The induction is along the covering
list; where its head is not needed for the first element, the order keeps it from being needed for a later one. -/
theorem sublistForall₂_of_covered {xs : List α} {ys : List β} (ordered : xs.Pairwise before) (sorted : ys.Pairwise above)
    (crossing : ∀ {x x' y y'}, related x y → related x' y' → before x x' → above y y')
    (asymmetric : ∀ {y y'}, above y y' → ¬ above y' y) (covered : ∀ x ∈ xs, ∃ y ∈ ys, related x y) :
    List.SublistForall₂ related xs ys := by
  induction ys generalizing xs with
  | nil =>
    cases xs with
    | nil => exact .nil
    | cons x rest =>
      obtain ⟨y, member, -⟩ := covered x List.mem_cons_self
      exact absurd member List.not_mem_nil
  | cons y ys ih =>
    cases xs with
    | nil => exact .nil
    | cons x rest =>
      obtain ⟨first, later⟩ := List.pairwise_cons.mp ordered
      obtain ⟨lowest, higher⟩ := List.pairwise_cons.mp sorted
      obtain ⟨twin, member, same⟩ := covered x List.mem_cons_self
      have rests : ∀ x' ∈ rest, ∃ y' ∈ ys, related x' y' := by
        intro x' behind
        obtain ⟨y', inside, same'⟩ := covered x' (List.mem_cons_of_mem x behind)
        rcases List.mem_cons.mp inside with rfl | inside
        · have beyond := crossing same same' (first x' behind)
          rcases List.mem_cons.mp member with rfl | member
          · exact absurd beyond (asymmetric beyond)
          · exact absurd beyond (asymmetric (lowest twin member))
        · exact ⟨y', inside, same'⟩
      rcases List.mem_cons.mp member with rfl | member
      · exact .cons same (ih later higher rests)
      · refine .cons_right (ih ordered higher ?_)
        intro x' inside
        rcases List.mem_cons.mp inside with rfl | behind
        · exact ⟨twin, member, same⟩
        · exact rests x' behind

/-- Lists in order that cover each other are aligned from end to end. -/
theorem forall₂_of_covered {related before : α → α → Prop} {xs ys : List α} (ordered : xs.Pairwise before)
    (sorted : ys.Pairwise before)
    (crossing : ∀ {a b c d}, related a b → related c d → before a c → before b d)
    (asymmetric : ∀ {a b}, before a b → ¬ before b a) (covered : ∀ x ∈ xs, ∃ y ∈ ys, related x y)
    (back : ∀ y ∈ ys, ∃ x ∈ xs, related y x) : List.Forall₂ related xs ys := by
  obtain ⟨kept, aligned, part⟩ :=
    List.sublistForall₂_iff.mp (sublistForall₂_of_covered ordered sorted crossing asymmetric covered)
  obtain ⟨rest, mirrored, piece⟩ :=
    List.sublistForall₂_iff.mp (sublistForall₂_of_covered sorted ordered crossing asymmetric back)
  have whole : kept = ys := by
    apply part.eq_of_length_le
    rw [← aligned.length_eq, mirrored.length_eq]
    exact piece.length_le
  rw [← whole]
  exact aligned

end

variable [Std.TransCmp order]

private theorem strict_front (below : order x first = .lt) (strict : Strict order (first :: rest)) :
    Strict order (x :: first :: rest) :=
  pairwise_front Std.TransCmp.lt_trans below strict

theorem insert_strict (x : α) (strict : Strict order xs) : Strict order (insert order x xs) := by
  induction xs with
  | nil => simp [Strict, insert]
  | cons first rest ih =>
    unfold insert
    split
    next below => exact strict_front below strict
    next => exact strict
    next behind =>
      exact pairwise_behind (fun y => mem_of_mem_insert) (Std.OrientedCmp.lt_of_gt behind) strict (ih strict.tail)

theorem replace_strict (x : α) (strict : Strict order xs) : Strict order (replace order x xs) := by
  induction xs with
  | nil => simp [Strict, replace]
  | cons first rest ih =>
    obtain ⟨above, tail⟩ := List.pairwise_cons.mp strict
    unfold replace
    split
    next below => exact strict_front below strict
    next same => exact List.pairwise_cons.mpr ⟨fun y member => Std.TransCmp.lt_of_eq_of_lt same (above y member), tail⟩
    next behind =>
      exact pairwise_behind (fun y => mem_of_mem_replace) (Std.OrientedCmp.lt_of_gt behind) strict (ih tail)

theorem place_sorted (x : α) (sorted : Sorted order xs) : Sorted order (place order x xs) := by
  induction xs with
  | nil => simp [Sorted, place]
  | cons first rest ih =>
    unfold place
    split
    next below => exact pairwise_front Std.TransCmp.isLE_trans (Ordering.isLE_of_eq_lt below) sorted
    next notBelow =>
      have before : (order first x).isLE := by
        apply Std.OrientedCmp.isLE_of_isGE
        cases compared : order x first with
        | lt => exact absurd compared notBelow
        | eq | gt => rfl
      exact pairwise_behind (fun y member => List.mem_cons.mp ((place_perm x rest).mem_iff.mp member)) before sorted
        (ih sorted.tail)

theorem foldl_insert_strict (added : List α) (strict : Strict order xs) :
    Strict order (added.foldl (fun set x => insert order x set) xs) :=
  List.foldlRecOn added _ strict fun _ strict x _ => insert_strict x strict

theorem ofListLast_strict (xs : List α) : Strict order (ofListLast order xs) :=
  List.foldlRecOn xs _ .nil fun _ strict x _ => replace_strict x strict

theorem sort_sorted (xs : List α) : Sorted order (sort order xs) :=
  List.foldlRecOn xs _ .nil fun _ sorted x _ => place_sorted x sorted

theorem holds_insert : Holds order (insert order y xs) x ↔ order y x = .eq ∨ Holds order xs x := by
  induction xs with
  | nil => exact holds_cons
  | cons first rest ih =>
    unfold insert
    split
    next => exact holds_cons
    next same =>
      -- The element in place of the new one is equal to it.
      rw [holds_cons, Std.TransCmp.congr_left same]
      exact or_self_left.symm
    next => rw [holds_cons, ih, holds_cons, or_left_comm]

theorem holds_replace : Holds order (replace order y xs) x ↔ order y x = .eq ∨ Holds order xs x := by
  induction xs with
  | nil => exact holds_cons
  | cons first rest ih =>
    unfold replace
    split
    next => exact holds_cons
    next same =>
      rw [holds_cons, holds_cons, Std.TransCmp.congr_left same]
      exact or_self_left.symm
    next => rw [holds_cons, ih, holds_cons, or_left_comm]

/-- Of equal elements only one is in the set, but each is held by it. -/
theorem holds_foldl_insert (added set : List α) :
    Holds order (added.foldl (fun set x => insert order x set) set) x ↔ Holds order added x ∨ Holds order set x :=
  holds_foldl holds_insert added set

theorem holds_ofListLast : Holds order (ofListLast order xs) x ↔ Holds order xs x :=
  (holds_foldl holds_replace xs []).trans (or_iff_left holds_nil)

theorem not_holds_of_above (above : ∀ y ∈ xs, order x y = .lt) : ¬ Holds order xs x := by
  rintro ⟨y, member, same⟩
  have below := above y member
  rw [Std.OrientedCmp.eq_symm same] at below
  contradiction

/-- An element joins a set just if it holds no equal one. -/
theorem mem_insert_iff (strict : Strict order xs) : y ∈ insert order x xs ↔ y ∈ xs ∨ y = x ∧ ¬ Holds order xs x := by
  induction xs with
  | nil => simp [insert, holds_nil]
  | cons first rest ih =>
    unfold insert
    split
    next below =>
      have above := (List.pairwise_cons.mp (strict_front below strict)).1
      simp [not_holds_of_above above, or_comm]
    next same => simp [holds_cons, Std.OrientedCmp.eq_symm same]
    next behind =>
      have different : order first x ≠ .eq := by
        rw [Std.OrientedCmp.lt_of_gt behind]
        simp
      simp [ih strict.tail, holds_cons, different, or_assoc]

/-- An element takes the place of an equal one. -/
theorem mem_replace_iff (strict : Strict order xs) : y ∈ replace order x xs ↔ y = x ∨ y ∈ xs ∧ order x y ≠ .eq := by
  induction xs with
  | nil => simp [replace]
  | cons first rest ih =>
    unfold replace
    split
    next below =>
      have above := (List.pairwise_cons.mp (strict_front below strict)).1
      grind
    next same =>
      have above : ∀ z ∈ rest, order x z = .lt := by
        intro z member
        exact Std.TransCmp.lt_of_eq_of_lt same ((List.pairwise_cons.mp strict).1 z member)
      grind
    next behind =>
      rw [List.mem_cons, ih strict.tail]
      grind

theorem mem_foldl_insert_iff (added : List α) (strict : Strict order xs) :
    y ∈ added.foldl (fun set x => insert order x set) xs ↔ y ∈ xs ∨ ¬ Holds order xs y ∧ First order added y := by
  induction added generalizing xs with
  | nil => simp [not_first_nil]
  | cons x rest ih =>
    rw [List.foldl_cons, ih (insert_strict x strict), mem_insert_iff strict, holds_insert, first_cons]
    grind

theorem ofList_strict (xs : List α) : Strict order (ofList order xs) :=
  foldl_insert_strict xs .nil

theorem holds_ofList : Holds order (ofList order xs) x ↔ Holds order xs x :=
  (holds_foldl_insert xs []).trans (or_iff_left holds_nil)

theorem mem_ofList_iff : y ∈ ofList order xs ↔ First order xs y := by
  rw [ofList, mem_foldl_insert_iff xs .nil]
  simp [holds_nil]

theorem mem_foldl_replace_iff (added : List α) (strict : Strict order xs) :
    y ∈ added.foldl (fun set x => replace order x set) xs ↔ Last order added y ∨ y ∈ xs ∧ ¬ Holds order added y := by
  induction added generalizing xs with
  | nil => simp [not_last_nil, holds_nil]
  | cons x rest ih =>
    rw [List.foldl_cons, ih (replace_strict x strict), mem_replace_iff strict, last_cons, holds_cons]
    grind

theorem mem_ofListLast_iff : y ∈ ofListLast order xs ↔ Last order xs y := by
  rw [ofListLast, mem_foldl_replace_iff xs .nil]
  simp

/-- Elements that are pairwise not equal are so in any order. -/
theorem distinct_of_perm {ys : List α} (perm : xs.Perm ys) (distinct : ys.Pairwise fun a b => order a b ≠ .eq) :
    xs.Pairwise fun a b => order a b ≠ .eq :=
  (perm.pairwise_iff fun different same => different (Std.OrientedCmp.eq_symm same)).mpr distinct

theorem Strict.nodup (strict : Strict order xs) : xs.Nodup := by
  refine strict.imp ?_
  rintro a b below rfl
  have level : order a a = .eq := Std.ReflCmp.compare_self
  rw [level] at below
  cases below

/-- There is one way to list a set in strict order. -/
theorem Strict.eq_of_mem_iff {ys : List α} (strict : Strict order xs) (ordered : Strict order ys)
    (same : ∀ x, x ∈ xs ↔ x ∈ ys) : xs = ys := by
  have moved : xs.Perm ys := (List.perm_ext_iff_of_nodup strict.nodup ordered.nodup).mpr same
  refine moved.eq_of_pairwise ?_ strict ordered
  intro a b _ _ below above
  have level : order a a = .eq := Std.ReflCmp.compare_self
  rw [Std.TransCmp.lt_trans below above] at level
  cases level

/-- Sets that hold the same are equal element by element. -/
theorem Strict.aligned {ys : List α} (strict : Strict order xs) (ordered : Strict order ys)
    (same : ∀ x, Holds order xs x ↔ Holds order ys x) : List.Forall₂ (fun a b => order a b = .eq) xs ys := by
  apply forall₂_of_covered strict ordered
  · intro a b c d first second below
    rwa [← Std.TransCmp.congr_left first, ← Std.TransCmp.congr_right second]
  · intro a b below above
    rw [Std.OrientedCmp.gt_of_lt above] at below
    cases below
  · intro x member
    obtain ⟨y, listed, equal⟩ := (same x).mp ⟨x, member, Std.ReflCmp.compare_self⟩
    exact ⟨y, listed, Std.OrientedCmp.eq_symm equal⟩
  · intro y member
    obtain ⟨x, listed, equal⟩ := (same y).mpr ⟨y, member, Std.ReflCmp.compare_self⟩
    exact ⟨x, listed, Std.OrientedCmp.eq_symm equal⟩

end Linkage.Ascending
