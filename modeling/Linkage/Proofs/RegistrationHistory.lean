import Linkage.Proofs.Registration
import Linkage.Proofs.VersionSpelling

/-! A verifier that is set up in place. Here a call changes the one verifier there is, so a call that gives up halfway
could leave something behind. None does: every check comes in front of the first change. Rules are only ever added at
the end, so the number that a registration answers names the same rule forever. -/

namespace Linkage.Verifier

/-- A program that may change a verifier and may give up; what it has changed by then stays changed. -/
abbrev InPlace := ExceptT Error (StateM Verifier)

def InPlace.on {α : Type} (program : InPlace α) (verifier : Verifier) : Except Error α × Verifier :=
  program.run.run verifier

/-- Adds a rule at the end, and answers its place. -/
def enlist (rule : Rule) : InPlace Nat := do
  let verifier ← get
  if verifier.rules.any (·.same rule) then throw (.configInvalid ("duplicate rule: " ++ rule.text))
  else if rule.key ∈ rule.excludedDependencies || rule.key ∈ verifier.exclusions then
    throw (.configInvalid ("rule " ++ rule.text ++ " excludes its own module"))
  else do
    modify (·.withRule rule)
    return verifier.rules.length

/-- A registration answers a number, the other calls answer nothing. -/
def Call.act : Call → InPlace (Option Nat)
  | exclude key => do
    modify (·.withExclusion key)
    return none
  | share workers => do
    modify (·.withWorkers workers)
    return none
  | register rule => some <$> enlist rule
  | registerText group name versions extraDependencies => do
    let rule ← ExceptT.mk (pure (Rule.parse group name versions extraDependencies))
    some <$> enlist rule

def perform (verifier : Verifier) (call : Call) : Except Error (Option Nat) × Verifier :=
  call.act.on verifier

/-- The verifier after a sequence of calls. The caller goes on when one of them is refused. -/
def setUp (verifier : Verifier) (calls : List Call) : Verifier :=
  calls.foldl (fun verifier call => (verifier.perform call).2) verifier

variable {α β : Type} {verifier next : Verifier} {rule first second : Rule} {call : Call} {calls later : List Call}
  {answer : Except Error (Option Nat)} {place : Nat} {error : Error}

theorem get_bind_on (program : Verifier → InPlace α) (verifier : Verifier) :
    InPlace.on (get >>= program) verifier = (program verifier).on verifier :=
  rfl

theorem map_on (f : α → β) (program : InPlace α) (verifier : Verifier) :
    InPlace.on (f <$> program) verifier = ((program.on verifier).1.map f, (program.on verifier).2) := by
  rw [InPlace.on, ExceptT.run_map, StateT.run_map]
  rfl

theorem enlist_on (verifier : Verifier) (rule : Rule) : (enlist rule).on verifier =
    ((verifier.register rule).map (·.1), verifier.settled (verifier.register rule)) := by
  rw [enlist, get_bind_on, register]
  split
  · rfl
  · split
    · rfl
    · rfl

theorem perform_of_offer (offered : call.offer? = some (.ok rule)) : verifier.perform call =
    (((verifier.register rule).map (·.1)).map some, verifier.settled (verifier.register rule)) := by
  have enlisted := map_on some (enlist rule) verifier
  rw [enlist_on] at enlisted
  cases call with
  | exclude key => cases offered
  | share workers => cases offered
  | register rule =>
    cases offered
    exact enlisted
  | registerText group name versions extraDependencies =>
    have parsed : Rule.parse group name versions extraDependencies = .ok rule := Option.some.inj offered
    rw [← enlisted, perform, Call.act, parsed]
    rfl

theorem perform_of_refusal (offered : call.offer? = some (.error error)) :
    verifier.perform call = (.error error, verifier) := by
  cases call with
  | exclude key => cases offered
  | share workers => cases offered
  | register rule => cases offered
  | registerText group name versions extraDependencies =>
    have refused : Rule.parse group name versions extraDependencies = .error error := Option.some.inj offered
    rw [perform, Call.act, refused]
    rfl

/-- Calls in place and calls on values lead to the same verifier. -/
theorem perform_snd (verifier : Verifier) (call : Call) : (verifier.perform call).2 = verifier.after call := by
  cases call with
  | exclude key => rfl
  | share workers => rfl
  | register rule => rw [perform_of_offer rfl, after]
  | registerText group name versions extraDependencies =>
    cases parsed : Rule.parse group name versions extraDependencies with
    | ok rule =>
      have offered : (Call.registerText group name versions extraDependencies).offer? = some (.ok rule) :=
        congrArg some parsed
      rw [perform_of_offer offered, after, registerText, parsed]
      rfl
    | error error =>
      have offered : (Call.registerText group name versions extraDependencies).offer? = some (.error error) :=
        congrArg some parsed
      rw [perform_of_refusal offered, after, registerText, parsed]
      rfl

theorem setUp_eq_run (verifier : Verifier) (calls : List Call) : verifier.setUp calls = verifier.run calls := by
  unfold setUp run
  simp only [perform_snd]

theorem setUp_perform_setUp (verifier : Verifier) (calls : List Call) (call : Call) (later : List Call) :
    ((verifier.setUp calls).perform call).2.setUp later = verifier.run (calls ++ call :: later) := by
  rw [setUp_eq_run, perform_snd, setUp_eq_run, run, run, run, List.foldl_append, List.foldl_cons]

/-- What a call may answer, and the verifier that it leaves behind. -/
inductive Answered (verifier : Verifier) : Call → Except Error (Option Nat) → Verifier → Prop where
  | excluded (key : ModuleKey) : Answered verifier (.exclude key) (.ok none) (verifier.withExclusion key)
  | shared (workers : Nat) : Answered verifier (.share workers) (.ok none) (verifier.withWorkers workers)
  | unreadable {call : Call} {error : Error} (offered : call.offer? = some (.error error)) :
      Answered verifier call (.error error) verifier
  | duplicate {call : Call} {rule other : Rule} (offered : call.offer? = some (.ok rule))
      (registered : other ∈ verifier.rules) (same : other.same rule) :
      Answered verifier call (.error (.configInvalid ("duplicate rule: " ++ rule.text))) verifier
  | contradictory {call : Call} {rule : Rule} (offered : call.offer? = some (.ok rule))
      (distinct : ∀ other ∈ verifier.rules, ¬ other.same rule)
      (excluded : rule.key ∈ rule.excludedDependencies ∨ rule.key ∈ verifier.exclusions) :
      Answered verifier call (.error (.configInvalid ("rule " ++ rule.text ++ " excludes its own module"))) verifier
  | registered {call : Call} {rule : Rule} (offered : call.offer? = some (.ok rule)) (accepts : verifier.Accepts rule) :
      Answered verifier call (.ok (some verifier.rules.length)) (verifier.withRule rule)

theorem answered_of_offer (offered : call.offer? = some (.ok rule)) :
    verifier.Answered call (verifier.perform call).1 (verifier.perform call).2 := by
  rw [perform_of_offer offered]
  by_cases distinct : ∀ other ∈ verifier.rules, ¬ other.same rule
  · by_cases excluded : rule.key ∈ rule.excludedDependencies ∨ rule.key ∈ verifier.exclusions
    · have refused : verifier.register rule =
          .error (.configInvalid ("rule " ++ rule.text ++ " excludes its own module")) := by
        rw [register, if_neg (by simpa using distinct), if_pos (by simpa using excluded)]
        rfl
      rw [refused]
      exact .contradictory offered distinct excluded
    · have accepts : verifier.Accepts rule := ⟨distinct, mt .inl excluded, mt .inr excluded⟩
      rw [register_of_accepts accepts]
      exact .registered offered accepts
  · push Not at distinct
    obtain ⟨other, registered, same⟩ := distinct
    have refused : verifier.register rule = .error (.configInvalid ("duplicate rule: " ++ rule.text)) := by
      rw [register, if_pos (List.any_eq_true.mpr ⟨other, registered, same⟩)]
      rfl
    rw [refused]
    exact .duplicate offered registered same

theorem answered_perform (verifier : Verifier) (call : Call) :
    verifier.Answered call (verifier.perform call).1 (verifier.perform call).2 := by
  cases offered : call.offer? with
  | none =>
    cases call with
    | exclude key => exact .excluded key
    | share workers => exact .shared workers
    | register rule => cases offered
    | registerText group name versions extraDependencies => cases offered
  | some offer =>
    cases offer with
    | error error =>
      rw [perform_of_refusal offered]
      exact .unreadable offered
    | ok rule => exact answered_of_offer offered

namespace Answered

theorem eq_of_error (answered : verifier.Answered call (.error error) next) : next = verifier := by
  cases answered with
  | unreadable => rfl
  | duplicate => rfl
  | contradictory => rfl

theorem eq_withRule (answered : verifier.Answered call (.ok (some place)) next) :
    place = verifier.rules.length ∧ ∃ rule, call.offer? = some (.ok rule) ∧ next = verifier.withRule rule := by
  cases answered with
  | registered offered accepts => exact ⟨rfl, _, offered, rfl⟩

theorem rules_kept (answered : verifier.Answered call answer next) : verifier.rules <+: next.rules := by
  cases answered with
  | registered offered accepts => exact List.prefix_append _ _
  | _ => exact List.prefix_rfl

/-- A rule that is accepted differs from all that are there. -/
theorem rules_pairwise (answered : verifier.Answered call answer next)
    (distinct : verifier.rules.Pairwise fun first second => ¬ first.same second) :
    next.rules.Pairwise fun first second => ¬ first.same second := by
  cases answered with
  | registered offered accepts =>
    refine List.pairwise_append.mpr ⟨distinct, List.pairwise_singleton _ _, ?_⟩
    intro other registered rule last
    obtain rfl := List.mem_singleton.mp last
    exact accepts.distinct other registered
  | _ => exact distinct

end Answered

theorem rules_kept_setUp : verifier.rules <+: (verifier.setUp calls).rules := by
  induction calls generalizing verifier with
  | nil => exact List.prefix_rfl
  | cons call rest ih => exact (answered_perform verifier call).rules_kept.trans ih

theorem rules_pairwise_setUp (distinct : verifier.rules.Pairwise fun first second => ¬ first.same second) :
    (verifier.setUp calls).rules.Pairwise fun first second => ¬ first.same second := by
  induction calls generalizing verifier with
  | nil => exact distinct
  | cons call rest ih => exact ih ((answered_perform verifier call).rules_pairwise distinct)

/-- In whatever order two rules are compared, they are the same only at one place. -/
theorem same_iff_of_pairwise (distinct : verifier.rules.Pairwise fun first second => ¬ first.same second) {i j : Nat}
    (left : verifier.rules[i]? = some first) (right : verifier.rules[j]? = some second) :
    first.same second ↔ i = j := by
  obtain ⟨within, rfl⟩ := List.getElem?_eq_some_iff.mp left
  obtain ⟨inside, rfl⟩ := List.getElem?_eq_some_iff.mp right
  have apart := List.pairwise_iff_getElem.mp distinct
  constructor
  · intro same
    by_contra different
    rcases Nat.lt_or_gt_of_ne different with before | behind
    · exact apart i j within inside before same
    · exact apart j i inside within behind (Rule.same_iff.mpr (Rule.same_iff.mp same).symm)
  · intro equal
    subst equal
    exact Rule.same_iff.mpr (Rule.alike_self _)

/-- A rule keeps its place when others come behind it. -/
theorem getElem?_of_kept (kept : verifier.rules <+: next.rules) (registered : verifier.rules[place]? = some rule) :
    next.rules[place]? = some rule := by
  obtain ⟨within, rfl⟩ := List.getElem?_eq_some_iff.mp registered
  exact List.prefix_iff_getElem?.mp kept place within

/-- Whatever calls set a verifier up, and whichever of them are refused: a call that is refused changes nothing, a rule
that is registered comes behind those that are there, no rule moves or is there twice, and the number that is answered
for a rule makes this very rule be evaluated from then on. -/
theorem registration_history (surface : Surface) (catalog : Catalog) (calls : List Call) (call : Call)
    (later : List Call) :
    let verifier := (fresh surface catalog).setUp calls
    let answer := (verifier.perform call).1
    let next := (verifier.perform call).2
    let last := next.setUp later
    last = (fresh surface catalog).run (calls ++ call :: later) ∧ verifier.Answered call answer next ∧
      (∀ error, answer = .error error → next = verifier) ∧
      (∀ number, answer = .ok (some number) → number = verifier.rules.length ∧ ∃ rule,
        call.offer? = some (.ok rule) ∧ next = verifier.withRule rule ∧
        ∀ dependencies, last.verifyRule number dependencies = some (last.evaluate dependencies number rule)) ∧
      (∀ (place : Nat) rule, verifier.rules[place]? = some rule → last.rules[place]? = some rule) ∧
      ∀ (i j : Nat) first second, last.rules[i]? = some first → last.rules[j]? = some second →
        (first.same second ↔ i = j) := by
  intro verifier answer next last
  have answered : verifier.Answered call answer next := answered_perform verifier call
  have kept : next.rules <+: last.rules := rules_kept_setUp
  refine ⟨setUp_perform_setUp _ calls call later, answered, ?_, ?_, ?_, ?_⟩
  · intro error failed
    rw [failed] at answered
    exact answered.eq_of_error
  · intro number succeeded
    rw [succeeded] at answered
    obtain ⟨rfl, rule, offered, enlisted⟩ := answered.eq_withRule
    refine ⟨rfl, rule, offered, enlisted, ?_⟩
    intro dependencies
    have registered : next.rules[verifier.rules.length]? = some rule := by
      rw [enlisted]
      exact List.getElem?_concat_length
    rw [verifyRule, getElem?_of_kept kept registered, Option.map_some]
  · intro place rule registered
    exact getElem?_of_kept (answered.rules_kept.trans kept) registered
  · have distinct : verifier.rules.Pairwise fun first second => ¬ first.same second := rules_pairwise_setUp .nil
    intro i j first second left right
    exact same_iff_of_pairwise (rules_pairwise_setUp (answered.rules_pairwise distinct)) left right

section
open Databind

private def respelled : Call := .registerText "jk" "databind" "[2.12.3.0]" []

private def respelledError : Error := .configInvalid "duplicate rule: pass jk:databind [2.12.3.0]"

private def sequel : List Call := [respelled, .share 2, .exclude databind, .registerText "jk" "databind" "[2" []]

/-- The number of the first rule outlives a duplicate with another spelling, an exclusion and a range that is malformed. -/
theorem registration_history_databind :
    start.perform (.register sample) = (.ok (some 0), start.withRule sample) ∧
      (start.withRule sample).perform respelled = (.error respelledError, start.withRule sample) ∧
      ∀ dependencies, ((start.withRule sample).setUp sequel).verifyRule 0 dependencies =
        some (((start.withRule sample).setUp sequel).evaluate dependencies 0 sample) := by
  have accepted : start.perform (.register sample) = (.ok (some 0), start.withRule sample) := by decide +kernel
  have refused : ((start.withRule sample).perform respelled).1 = .error respelledError := by decide +kernel
  refine ⟨accepted, ?_, ?_⟩
  · obtain ⟨-, -, unchanged, -⟩ := registration_history start.surface start.catalog [.register sample] respelled []
    exact Prod.ext refused (unchanged _ refused)
  · obtain ⟨-, -, -, numbered, -⟩ := registration_history start.surface start.catalog [] (.register sample) sequel
    obtain ⟨-, rule, offered, -, evaluated⟩ := numbered 0 rfl
    obtain rfl := Except.ok.inj (Option.some.inj offered)
    exact evaluated

end

end Linkage.Verifier
