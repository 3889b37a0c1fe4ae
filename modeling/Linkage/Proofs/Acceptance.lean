/-! Readings that can be refused, in several steps and over whole lists: when they are accepted, and what they give
then. -/

namespace Linkage.Acceptance
variable {ε α β : Type} {result : Except ε α} {next : α → Except ε β} {f : α → Except ε β} {xs : List α} {ys : List β}

theorem isOk_iff : result.isOk ↔ ∃ value, result = .ok value := by
  cases result with
  | ok value => exact ⟨fun _ => ⟨value, rfl⟩, fun _ => rfl⟩
  | error reason => simp [Except.isOk, Except.toBool]

@[simp]
theorem isOk_pure (value : α) : (pure value : Except ε α).isOk :=
  rfl

theorem toOption_eq_some_iff {value : α} : result.toOption = some value ↔ result = .ok value := by
  cases result <;> simp [Except.toOption]

theorem toOption_pure (value : α) : (pure value : Except ε α).toOption = some value :=
  rfl

theorem toOption_mapError {ε' : Type} (result : Except ε α) (f : ε → ε') :
    (result.mapError f).toOption = result.toOption := by
  cases result <;> rfl

theorem mapError_eq_ok_iff {ε' : Type} {f : ε → ε'} {value : α} : result.mapError f = .ok value ↔ result = .ok value := by
  cases result with
  | ok held =>
    have same : (Except.ok held : Except ε α).mapError f = .ok held := rfl
    rw [same, Except.ok.injEq, Except.ok.injEq]
  | error reason => exact iff_of_false nofun nofun

theorem bind_eq_ok_iff {value : β} :
    result >>= next = .ok value ↔ ∃ middle, result = .ok middle ∧ next middle = .ok value := by
  cases result <;> simp [bind, Except.bind]

/-- A check in front of the rest. -/
theorem refuse_eq_ok_iff {p : Prop} [Decidable p] {reason : ε} {next : PUnit → Except ε β} {value : β} :
    (if p then throw reason >>= next else next ⟨⟩) = .ok value ↔ ¬ p ∧ next ⟨⟩ = .ok value := by
  split
  next refused => exact iff_of_false (fun read => nomatch read) (fun passed => passed.1 refused)
  next passed => exact (and_iff_right passed).symm

theorem isOk_bind_iff : (result >>= next).isOk ↔ ∃ middle, result = .ok middle ∧ (next middle).isOk := by
  simp only [isOk_iff, bind_eq_ok_iff]
  constructor
  · rintro ⟨value, middle, first, second⟩
    exact ⟨middle, first, value, second⟩
  · rintro ⟨middle, first, value, second⟩
    exact ⟨value, middle, first, second⟩

/-- Where the later steps are accepted or not whatever the first one gives, each step counts for itself. -/
theorem isOk_bind_and {p : Prop} (steady : ∀ value, (next value).isOk ↔ p) :
    (result >>= next).isOk ↔ result.isOk ∧ p := by
  rw [isOk_bind_iff, isOk_iff]
  simp only [steady, exists_and_right]

theorem isOk_mapM_iff : (xs.mapM f).isOk ↔ ∀ x ∈ xs, (f x).isOk := by
  induction xs with
  | nil => simp
  | cons x rest ih =>
    rw [List.mapM_cons, List.forall_mem_cons]
    apply isOk_bind_and
    intro y
    rw [isOk_bind_and fun _ => iff_of_true (isOk_pure _) trivial, ih, and_true]

theorem mem_of_mapM_eq_ok (read : xs.mapM f = .ok ys) {y : β} : y ∈ ys ↔ ∃ x ∈ xs, f x = .ok y := by
  induction xs generalizing ys with
  | nil =>
    obtain rfl : [] = ys := Except.ok.inj read
    simp
  | cons x rest ih =>
    rw [List.mapM_cons, bind_eq_ok_iff] at read
    obtain ⟨first, head, read⟩ := read
    obtain ⟨others, tail, same⟩ := bind_eq_ok_iff.mp read
    obtain rfl : first :: others = ys := Except.ok.inj same
    rw [List.mem_cons, ih tail]
    simp [head, @eq_comm _ y]

end Linkage.Acceptance
