import Linkage.Proofs.ConfigValidation

/-! The verifier of a configuration, part by part. Its exclusions are complete before the first rule is registered and stay
as they are, so each rule has been checked against all of them. -/

namespace Linkage.Config
open Acceptance
variable {config : Config} {entries : List RuleEntry} {start verifier : Verifier}

/-- What every registration keeps holds when all rules are registered. -/
theorem registerRules_induction {P : Verifier → Prop} (first : P start)
    (step : ∀ entry ∈ entries, ∀ (verifier : Verifier) rule, P verifier → entry.toRule = .ok rule →
      verifier.Accepts rule → P (verifier.withRule rule))
    (registered : registerRules start entries = .ok verifier) : P verifier := by
  induction entries generalizing start with
  | nil =>
    obtain rfl := Except.ok.inj registered
    exact first
  | cons entry rest ih =>
    rw [registerRules, List.foldlM_cons] at registered
    obtain ⟨middle, changed, registered⟩ := bind_eq_ok_iff.mp registered
    obtain ⟨rule, read, changed⟩ := bind_eq_ok_iff.mp changed
    obtain ⟨enrolled, accepted, changed⟩ := bind_eq_ok_iff.mp changed
    obtain rfl := Except.ok.inj changed
    obtain ⟨accepts, rfl⟩ := Verifier.register_eq_ok_iff.mp accepted
    apply ih (step entry List.mem_cons_self start rule first read accepts)
    · intro other member
      exact step other (List.mem_cons_of_mem entry member)
    · exact registered

structure Describes (config : Config) (verifier : Verifier) : Prop where
  surface : config.instrumentation.surface = .ok verifier.surface
  catalog : config.toCatalog = .ok verifier.catalog
  exclusions : config.instrumentation.exclusionKeys = .ok verifier.exclusions
  declared : ∀ rule ∈ verifier.rules, ∃ entry ∈ config.rules, entry.toRule = .ok rule
  keeps : ∀ rule ∈ verifier.rules, rule.key ∉ rule.excludedDependencies
  admitted : ∀ rule ∈ verifier.rules, rule.key ∉ verifier.exclusions

theorem describes_of_no_rules (surface : config.instrumentation.surface = .ok verifier.surface)
    (catalog : config.toCatalog = .ok verifier.catalog)
    (exclusions : config.instrumentation.exclusionKeys = .ok verifier.exclusions) (none : verifier.rules = []) :
    config.Describes verifier where
  surface := surface
  catalog := catalog
  exclusions := exclusions
  declared := by simp [none]
  keeps := by simp [none]
  admitted := by simp [none]

theorem Describes.withRule (describes : config.Describes verifier) {entry : RuleEntry} {rule : Rule}
    (listed : entry ∈ config.rules) (read : entry.toRule = .ok rule) (accepts : verifier.Accepts rule) :
    config.Describes (verifier.withRule rule) where
  surface := describes.surface
  catalog := describes.catalog
  exclusions := describes.exclusions
  declared := List.forall_mem_append.mpr ⟨describes.declared, List.forall_mem_singleton.mpr ⟨entry, listed, read⟩⟩
  keeps := List.forall_mem_append.mpr ⟨describes.keeps, List.forall_mem_singleton.mpr accepts.keeps⟩
  admitted := List.forall_mem_append.mpr ⟨describes.admitted, List.forall_mem_singleton.mpr accepts.admitted⟩

theorem describes_of_built (built : config.verifier = .ok verifier) : config.Describes verifier := by
  obtain ⟨surface, symbols, built⟩ := bind_eq_ok_iff.mp built
  obtain ⟨catalog, artifacts, built⟩ := bind_eq_ok_iff.mp built
  obtain ⟨exclusions, keys, built⟩ := bind_eq_ok_iff.mp built
  refine registerRules_induction ?_ ?_ built
  · -- No rules are registered yet, for any number of workers.
    split
    · exact describes_of_no_rules symbols artifacts keys rfl
    · exact describes_of_no_rules symbols artifacts keys rfl
  · intro entry listed verifier rule describes read accepts
    exact describes.withRule listed read accepts

end Linkage.Config
