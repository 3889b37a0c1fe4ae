import Linkage.Proofs.Acceptance
import Linkage.Proofs.ValueIdentity
import Linkage.Yaml.Value.Reader

/-! What is read from a document is data of a document: the reader refuses a mapping with a repeated key, wherever it is,
also in keys and under tags. -/

namespace Linkage.Yaml.Value
variable {α β : Type} {P : α → Prop} {Q : β → Prop}

/-- Whatever a walk gives has a property, however many anchored nodes it may use. -/
def Ensures (P : α → Prop) (walk : Walk α) : Prop :=
  ∀ left value rest, walk.run left = some (value, rest) → P value

theorem ensures_pure {value : α} (holds : P value) : Ensures P (pure value) := by
  intro left found rest result
  obtain ⟨rfl, -⟩ := Prod.mk.inj (Option.some.inj result)
  exact holds

theorem ensures_failure : Ensures P failure := by
  intro left value rest result
  cases result

/-- Nothing comes after a failure. -/
theorem ensures_failure_bind {next : α → Walk β} : Ensures Q (failure >>= next) := by
  intro left value rest result
  cases result

theorem Ensures.bind {walk : Walk α} {next : α → Walk β} (first : Ensures P walk)
    (second : ∀ value, P value → Ensures Q (next value)) : Ensures Q (walk >>= next) := by
  intro left value rest result
  rw [StateT.run_bind] at result
  obtain ⟨⟨middle, between⟩, found, result⟩ := Option.bind_eq_some_iff.mp result
  exact second middle (first left middle between found) between value rest result

theorem ensures_true (walk : Walk α) : Ensures (fun _ => True) walk :=
  fun _ _ _ _ => trivial

theorem ensures_mapM {read : β → Walk α} (each : ∀ item, Ensures P (read item)) (items : List β) :
    Ensures (fun values => ∀ value ∈ values, P value) (items.mapM read) := by
  induction items with
  | nil => exact ensures_pure (by simp)
  | cons item rest ih =>
    rw [List.mapM_cons]
    refine (each item).bind fun value holds => ih.bind fun values all => ensures_pure ?_
    exact List.forall_mem_cons.mpr ⟨holds, all⟩

/-- What a single scalar may stand for. -/
inductive IsScalar : Value → Prop where
  | null : IsScalar null
  | boolean (value : Bool) : IsScalar (boolean value)
  | number (value : Number) : IsScalar (number value)
  | string (text : String) : IsScalar (string text)

theorem IsScalar.wellFormed {value : Value} (scalar : value.IsScalar) : value.WellFormed := by
  cases scalar <;> constructor

theorem isScalar_ofPlain {text : String} {value : Value} (found : ofPlain text = some value) : value.IsScalar := by
  obtain ⟨scalar, -, rfl⟩ := Option.map_eq_some_iff.mp found
  cases scalar <;> constructor

theorem isScalar_ofCoreTag {tag text : String} {value : Value} (found : ofCoreTag tag text = some value) :
    value.IsScalar := by
  unfold ofCoreTag at found
  split at found
  · obtain ⟨flag, -, rfl⟩ := Option.map_eq_some_iff.mp found
    exact .boolean flag
  split at found
  · obtain ⟨whole, -, rfl⟩ := Option.map_eq_some_iff.mp found
    exact .number whole
  split at found
  · obtain ⟨decimal, -, rfl⟩ := Option.map_eq_some_iff.mp found
    exact .number (.decimal decimal)
  split at found
  · obtain ⟨-, same⟩ := Option.ite_none_right_eq_some.mp found
    obtain rfl := Option.some.inj same
    exact .null
  · obtain rfl := Option.some.inj found
    exact .string text

theorem isScalar_ofScalar {isTagged : Bool} {tag : Option String} {style : ScalarStyle} {text : String} {value : Value}
    (found : ofScalar isTagged tag style text = some value) : value.IsScalar := by
  unfold ofScalar at found
  split at found
  · exact isScalar_ofCoreTag found
  · split at found
    · exact isScalar_ofPlain found
    · obtain rfl := Option.some.inj found
      exact .string text

theorem IsScalar.keepingText {value : Value} (scalar : value.IsScalar) (keepsText : Bool) (text : String) :
    (keepingText keepsText text value).IsScalar := by
  unfold Value.keepingText
  split
  · split
    · exact .string text
    · exact scalar
  · exact scalar

variable {read : Bool → Node → Walk Value}

theorem ensures_ofUntagged (each : ∀ keepsText node, Ensures WellFormed (read keepsText node)) (isTagged keepsText : Bool)
    (node : Node) : Ensures WellFormed (ofUntagged read isTagged keepsText node) := by
  cases node with
  | scalar tag style text =>
    rw [ofUntagged]
    split
    next value found => exact ensures_pure ((isScalar_ofScalar found).keepingText keepsText text).wellFormed
    next => exact ensures_failure
  | sequence tag items =>
    exact (ensures_mapM (each keepsText) items).bind fun values all => ensures_pure (.list all)
  | mapping tag entries =>
    have pair : ∀ entry : Node × Node, Ensures (fun value : Value × Value => value.1.WellFormed ∧ value.2.WellFormed)
        (do return (← read false entry.1, ← read keepsText entry.2)) := by
      intro entry
      exact (each false entry.1).bind fun key known => (each keepsText entry.2).bind fun value formed =>
        ensures_pure ⟨known, formed⟩
    refine (ensures_mapM pair entries).bind fun fields all => ?_
    cases repeated : repeatsKey fields with
    | true => exact ensures_failure_bind
    | false =>
      exact ensures_pure (.mapping (fun entry member => (all entry member).1) (fun entry member => (all entry member).2)
        repeated)
  | «alias» number => exact ensures_failure

theorem ensures_ofResolved (each : ∀ keepsText node, Ensures WellFormed (read keepsText node)) (keepsText : Bool)
    (node : Node) : Ensures WellFormed (ofResolved read keepsText node) := by
  unfold ofResolved
  split
  · exact ensures_ofUntagged each false keepsText node
  · exact ensures_failure
  next tag _ _ => exact (ensures_ofUntagged each true false node).bind fun value formed => ensures_pure (.tagged tag formed)

/-- The induction is on the depth to which collections may be nested. -/
theorem ensures_ofNode (document : Document) (depth : Nat) (keepsText : Bool) (node : Node) :
    Ensures WellFormed (ofNode document depth keepsText node) := by
  induction depth generalizing keepsText node with
  | zero =>
    refine (ensures_true (document.resolve node)).bind fun node _ => ?_
    cases isCollection node with
    | true => exact ensures_failure_bind
    | false => exact ensures_ofResolved (fun _ _ => ensures_failure) keepsText node
  | succ depth ih =>
    exact (ensures_true (document.resolve node)).bind fun node _ => ensures_ofResolved ih keepsText node

/-- No mapping of a document that was read has a key twice. -/
theorem wellFormed_of_parse {keepsText : Bool} {text : String} {value : Value} (read : parse keepsText text = .ok value) :
    value.WellFormed := by
  obtain ⟨document, -, read⟩ := Acceptance.bind_eq_ok_iff.mp read
  cases found : ofDocument? keepsText document with
  | none => simp only [found] at read; cases read
  | some data =>
    simp only [found] at read
    obtain rfl := Except.ok.inj read
    obtain ⟨⟨answer, rest⟩, walked, same⟩ := Option.bind_eq_some_iff.mp found
    obtain rfl := Option.some.inj same
    exact ensures_ofNode document depthLimit keepsText document.root _ answer rest walked

end Linkage.Yaml.Value
