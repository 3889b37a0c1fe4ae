import Mathlib.Algebra.Order.Floor.Div
import Linkage.Proofs.RuleNumbering

/-! Rules may be shared out among any number of workers, more than there are rules or none. The pieces lie one behind
the other, each as long as the share of a worker and the last perhaps shorter, so that there are no more pieces than
workers. What is verified does not depend on them. -/

namespace Linkage.Verifier
variable {α : Type u} {β : Type v}

theorem numbered_eq_mapIdx (f : Nat → α → β) (elements : List α) : numbered f 0 elements = elements.mapIdx f := by
  apply List.ext_getElem?
  intro index
  rw [getElem?_numbered, List.getElem?_mapIdx, Nat.zero_add]

/-- A piece starts where the pieces before it end. -/
theorem getElem?_pieces {size : Nat} (positive : 0 < size) (place : Nat) (elements : List α) :
    (pieces size elements)[place]? =
      if place * size < elements.length then some ((elements.drop (place * size)).take size) else none := by
  fun_induction pieces size elements generalizing place with
  | case1 => simp
  | case2 x rest ih =>
    have size_eq : size = size - 1 + 1 := by omega
    cases place with
    | zero =>
      rw [size_eq]
      simp
    | succ place =>
      have start : (place + 1) * size = place * size + (size - 1) + 1 := by
        rw [Nat.succ_mul]
        omega
      have inside : place * size < (rest.drop (size - 1)).length ↔ (place + 1) * size < (x :: rest).length := by
        rw [start, List.length_drop, List.length_cons]
        omega
      simp only [List.getElem?_cons_succ, ih, inside, List.drop_drop]
      rw [start, List.drop_succ_cons, Nat.add_comm (size - 1)]

/-- When elements are shared out, the worker at a place goes through the elements from the end of the shares before it
on, as many as make up a share. -/
theorem getElem?_shared {workers : Nat} (someone : 0 < workers) (f : Nat → α → β) (elements : List α) (place : Nat) :
    let share := elements.length ⌈/⌉ workers
    (shared workers f elements)[place]? =
      if place * share < elements.length then
        some (numbered f (place * share) ((elements.drop (place * share)).take share))
      else none := by
  intro share
  have even : (elements.length + workers - 1) / workers = share := (Nat.ceilDiv_eq_add_pred_div _ _).symm
  cases elements with
  | nil => simp [shared, pieces, numbered]
  | cons element rest =>
    have positive : 0 < share := by
      rw [← even]
      apply Nat.div_pos
      · simp only [List.length_cons]
        omega
      · exact someone
    rw [shared, even, getElem?_numbered, getElem?_pieces positive, Nat.zero_add]
    split <;> rfl

/-- All elements are handed out before there are more shares than workers. -/
theorem length_shared_le {workers : Nat} (someone : 0 < workers) (f : Nat → α → β) (elements : List α) :
    (shared workers f elements).length ≤ workers := by
  have enough : elements.length ≤ workers * (elements.length ⌈/⌉ workers) := le_smul_ceilDiv someone
  apply List.getElem?_eq_none_iff.mp
  rw [getElem?_shared someone, if_neg (Nat.not_lt.mpr enough)]

/-- What goes to workers of their own, one list of answers for each. Where there is work for one worker only, nothing
is handed out. -/
def handedOut (verifier : Verifier) (f : Nat → Rule → β) : List (List β) :=
  let workers := min verifier.workers verifier.rules.length
  if workers ≤ 1 then [] else shared workers f verifier.rules

/-- Rules are gone through as if by one worker, though up to so many workers share them. -/
structure SharedOut (verifier : Verifier) (workers : Nat) (f : Nat → Rule → β) : Prop where
  /-- Each rule is answered once, in the order of registration and under its own number. -/
  answered : (verifier.withWorkers workers).mapRules f = verifier.rules.mapIdx f
  /-- One worker alone gives these answers. -/
  alone : numbered f 0 verifier.rules = verifier.rules.mapIdx f
  /-- So do the pieces, if they are joined in their order. -/
  joined : 0 < min workers verifier.rules.length →
    (shared (min workers verifier.rules.length) f verifier.rules).flatten = verifier.rules.mapIdx f
  /-- The answers of the workers are joined. -/
  gathered : 1 < min workers verifier.rules.length →
    (verifier.withWorkers workers).mapRules f = ((verifier.withWorkers workers).handedOut f).flatten
  bounded : ((verifier.withWorkers workers).handedOut f).length ≤ workers
  /-- A piece is answered by its place and the common length of pieces. -/
  piecewise : ∀ place answers, ((verifier.withWorkers workers).handedOut f)[place]? = some answers →
    let share := verifier.rules.length ⌈/⌉ min workers verifier.rules.length
    answers = numbered f (place * share) ((verifier.rules.drop (place * share)).take share)

theorem handedOut_of_few {verifier : Verifier} (few : min verifier.workers verifier.rules.length ≤ 1)
    (f : Nat → Rule → β) : verifier.handedOut f = [] :=
  if_pos few

theorem handedOut_of_several {verifier : Verifier} (several : 1 < min verifier.workers verifier.rules.length)
    (f : Nat → Rule → β) :
    verifier.handedOut f = shared (min verifier.workers verifier.rules.length) f verifier.rules :=
  if_neg (Nat.not_le.mpr several)

theorem mapRules_eq_flatten {verifier : Verifier} (several : 1 < min verifier.workers verifier.rules.length)
    (f : Nat → Rule → β) : verifier.mapRules f = (verifier.handedOut f).flatten := by
  rw [handedOut_of_several several, mapRules, if_neg (Nat.not_le.mpr several)]

@[simp]
theorem withWorkers_workers (verifier : Verifier) (workers : Nat) :
    (verifier.withWorkers workers).workers = max workers 1 :=
  rfl

@[simp]
theorem withWorkers_rules (verifier : Verifier) (workers : Nat) :
    (verifier.withWorkers workers).rules = verifier.rules :=
  rfl

/-- That there is always one worker makes no difference, since one worker alone hands nothing out. -/
theorem handedOut_withWorkers (verifier : Verifier) (workers : Nat) (f : Nat → Rule → β) :
    (verifier.withWorkers workers).handedOut f =
      if min workers verifier.rules.length ≤ 1 then []
      else shared (min workers verifier.rules.length) f verifier.rules := by
  by_cases few : min workers verifier.rules.length ≤ 1
  · rw [if_pos few, handedOut_of_few (by simp; omega)]
  · have same : min (max workers 1) verifier.rules.length = min workers verifier.rules.length := by omega
    rw [if_neg few, handedOut_of_several (by simp; omega), withWorkers_workers, withWorkers_rules, same]

theorem sharedOut (verifier : Verifier) (workers : Nat) (f : Nat → Rule → β) : SharedOut verifier workers f := by
  refine ⟨?_, numbered_eq_mapIdx f _, fun someone => ?_, fun several => ?_, ?_, fun place answers found => ?_⟩
  · rw [mapRules_eq_numbered, numbered_eq_mapIdx]
    rfl
  · rw [flatten_shared f someone, numbered_eq_mapIdx]
  · exact mapRules_eq_flatten (by simp; omega) f
  · rw [handedOut_withWorkers]
    split
    · exact Nat.zero_le _
    · exact (length_shared_le (by omega) f _).trans (Nat.min_le_left _ _)
  · rw [handedOut_withWorkers] at found
    split at found
    · simp at found
    · rw [getElem?_shared (by omega)] at found
      split at found
      · exact (Option.some.inj found).symm
      · contradiction

/-- The number of workers decides neither what is verified nor what a matrix run reports, and the verdict about a rule
in a whole verification is the one that is given for this rule alone. -/
theorem withWorkers_neutral (verifier : Verifier) (workers : Nat) :
    (∀ {β : Type v} (f : Nat → Rule → β), SharedOut verifier workers f) ∧
    (∀ dependencies, (verifier.withWorkers workers).verify dependencies = verifier.verify dependencies) ∧
    (∀ candidates, (verifier.withWorkers workers).matrix candidates = verifier.matrix candidates) ∧
    ∀ dependencies index, (verifier.verify dependencies)[index]? = verifier.verifyRule index dependencies ∧
      (verifier.verifyRule index dependencies = none ↔ verifier.rules.length ≤ index) := by
  refine ⟨sharedOut verifier workers, fun dependencies => ?_, fun candidates => ?_, fun dependencies index => ⟨?_, ?_⟩⟩
  · rw [verify, verify, mapRules_eq_numbered, mapRules_eq_numbered]
    rfl
  · rw [matrix, matrix, matrixByRule, matrixByRule, mapRules_eq_numbered, mapRules_eq_numbered]
    rfl
  · rw [verify, getElem?_mapRules, verifyRule]
  · rw [verifyRule, Option.map_eq_none_iff, List.getElem?_eq_none_iff]

end Linkage.Verifier
