import Mathlib.Data.List.Forall2
import Linkage.Config.Loading
import Linkage.Proofs.DocumentData
import Linkage.Proofs.MappingEntries

/-! Settings as data in which version numbers keep their digits. Nothing but floating-point numbers is changed: each of
them that is a value or an item, at any depth and through any alias, is the text of its scalar. The same data is found
when the document is read a second time along the data of a plain first reading, with values looked up by their keys and
items taken in their order; the two readings stay in step, whatever is nested in what. -/

namespace Linkage

namespace Yaml.Value

/-- The text is kept for each floating-point number that a node stands for, keys and tagged values apart. Entries are a
key with the value as it is read plainly and the value with its text. -/
inductive KeepsText (document : Document) : Node → Value → Value → Prop where
  | decimal (tag : Option String) (style : ScalarStyle) (text : String) (value : Binary64) :
    KeepsText document (.scalar tag style text) (number (.decimal value)) (string text)
  | scalar (tag : Option String) (style : ScalarStyle) (text : String) {value : Value}
    (other : ∀ decimal, value ≠ number (.decimal decimal)) : KeepsText document (.scalar tag style text) value value
  | sequence (tag : Option String) {nodes : List Node} {items : List (Value × Value)}
    (each : List.Forall₂ (fun node item => KeepsText document node item.1 item.2) nodes items) :
    KeepsText document (.sequence tag nodes) (list (items.map (·.1))) (list (items.map (·.2)))
  | mapping (tag : Option String) {nodes : List (Node × Node)} {entries : List (Value × Value × Value)}
    (each : List.Forall₂ (fun node entry => KeepsText document node.2 entry.2.1 entry.2.2) nodes entries) :
    KeepsText document (.mapping tag nodes) (mapping (entries.map fun entry => (entry.1, entry.2.1)))
      (mapping (entries.map fun entry => (entry.1, entry.2.2)))
  | tagged (node : Node) (tag : String) (value : Value) : KeepsText document node (tagged tag value) (tagged tag value)
  | alias {number : Nat} {node : Node} {plain kept : Value} (found : document.find? number = some node)
    (same : KeepsText document node plain kept) : KeepsText document (.alias number) plain kept

/-- Reads items along those of an earlier reading. Items that are left over are read as they are. -/
def itemsAlong (read : Node → Walk Value) (readAlong : Value → Node → Walk Value) :
    List Value → List Node → Walk (List Value)
  | _, [] => return []
  | [], node :: rest => do return (← read node) :: (← itemsAlong read readAlong [] rest)
  | shape :: shapes, node :: rest => do return (← readAlong shape node) :: (← itemsAlong read readAlong shapes rest)

/-- Reads an entry along those of an earlier reading, where its value is found by its key, and binds it to those that are
bound already. -/
def entryAlong (read : Node → Walk Value) (readAlong : Value → Node → Walk Value) (shapes bound : List (Value × Value))
    (node : Node × Node) : Walk (List (Value × Value)) := do
  let key ← read node.1
  let value ← (find? key shapes).elim (read node.2) fun shape => readAlong shape node.2
  return put key value bound

def entriesAlong (read : Node → Walk Value) (readAlong : Value → Node → Walk Value) (shapes : List (Value × Value))
    (nodes : List (Node × Node)) (bound : List (Value × Value)) : Walk (List (Value × Value)) :=
  nodes.foldlM (entryAlong read readAlong shapes) bound

/-- What a node stands for along what it stood for before. Numbers are taken as texts, and all that is no collection
is read as it was. -/
def ofResolvedAlong (read : Bool → Node → Walk Value) (readAlong : Value → Node → Walk Value) :
    Value → Node → Walk Value
  | mapping shapes, .mapping _ nodes => do return mapping (← entriesAlong (read false) readAlong shapes nodes [])
  | list shapes, .sequence _ nodes => do return list (← itemsAlong (read false) readAlong shapes nodes)
  | number (.decimal _), .scalar _ _ text => return string text
  | mapping _, _ => failure
  | list _, _ => failure
  | number (.decimal _), _ => failure
  | _, node => ofResolved read false node

/-- What a node stands for along earlier data, with at most a number of collections in each other. -/
def ofNodeAlong (document : Document) : Nat → Value → Node → Walk Value
  | 0, shape, node => do
    let node ← document.resolve node
    if isCollection node then failure
    ofResolvedAlong (fun _ _ => failure) (fun _ _ => failure) shape node
  | depth + 1, shape, node => do
    ofResolvedAlong (ofNode document depth) (ofNodeAlong document depth) shape (← document.resolve node)

/-- Reads a document a second time, along its data. -/
def ofDocumentAlong? (shape : Value) (document : Document) : Option Value :=
  document.run? (ofNodeAlong document depthLimit shape document.root)

/-- From a start on, both walks fail, or both use as many anchored nodes and give related data. The relation may also tell
how often anchored nodes can still be used in the end. -/
def InStep {α β : Type} (start : Nat) (related : α → β → Nat → Prop) (plain : Walk α) (kept : Walk β) : Prop :=
  Option.Rel (fun first second => first.2 = second.2 ∧ related first.1 second.1 first.2) (plain.run start)
    (kept.run start)

namespace InStep
variable {α β γ δ : Type} {start : Nat} {related : α → β → Nat → Prop} {other : γ → δ → Nat → Prop} {plain : Walk α}
  {kept : Walk β}

theorem failure : InStep start related failure failure :=
  .none

theorem failure_bind {next : γ → Walk α} {after : δ → Walk β} :
    InStep start related (Alternative.failure >>= next) (Alternative.failure >>= after) :=
  .none

theorem pure {value : α} {same : β} (holds : related value same start) : InStep start related (pure value) (pure same) :=
  .some ⟨rfl, holds⟩

/-- A walk goes in step with itself. -/
theorem self (walk : Walk α) :
    InStep start (fun value same rest => value = same ∧ walk.run start = some (value, rest)) walk walk := by
  rw [InStep]
  cases walk.run start with
  | none => exact .none
  | some outcome => exact .some ⟨rfl, rfl, rfl⟩

theorem mono {weaker : α → β → Nat → Prop} (step : InStep start related plain kept)
    (weaken : ∀ value same rest, related value same rest → weaker value same rest) :
    InStep start weaker plain kept := by
  rw [InStep] at step ⊢
  generalize plain.run start = outcome at step ⊢
  generalize kept.run start = answer at step ⊢
  cases step with
  | none => exact .none
  | some step => exact .some ⟨step.1, weaken _ _ _ step.2⟩

theorem bind {next : α → Walk γ} {after : β → Walk δ} (first : InStep start related plain kept)
    (second : ∀ value same middle, related value same middle → InStep middle other (next value) (after same)) :
    InStep start other (plain >>= next) (kept >>= after) := by
  rw [InStep, StateT.run_bind, StateT.run_bind]
  rw [InStep] at first
  generalize plain.run start = outcome at first ⊢
  generalize kept.run start = answer at first ⊢
  cases first with
  | none => exact .none
  | @some outcome answer step =>
    obtain ⟨value, middle⟩ := outcome
    obtain ⟨same, middle⟩ := answer
    obtain ⟨rfl, holds⟩ := step
    exact second value same middle holds

end InStep

theorem run_bind_of_some {α β : Type} {walk : Walk α} {next : α → Walk β} {start middle : Nat} {value : α}
    (found : walk.run start = some (value, middle)) : (walk >>= next).run start = (next value).run middle := by
  rw [StateT.run_bind, found]
  rfl

/-- The text is kept, and so it is when the node is read along its data, as long as no key comes twice. -/
def KeepsAlong (document : Document) (along : Value → Node → Walk Value) (start : Nat) (node : Node)
    (plain kept : Value) (rest : Nat) : Prop :=
  KeepsText document node plain kept ∧ (plain.WellFormed → (along plain node).run start = some (kept, rest))

section
variable {document : Document} {read : Bool → Node → Walk Value} {along : Value → Node → Walk Value}

theorem ofResolved_of_common {keepsText : Bool} {node : Node} (common : localTag? (tagOf node) = none) :
    ofResolved read keepsText node = ofUntagged read false keepsText node := by
  unfold ofResolved
  rw [common]

theorem ofResolvedAlong_tagged (tag : String) (value : Value) (node : Node) :
    ofResolvedAlong read along (tagged tag value) node = ofResolved read false node := by
  cases node <;> rfl

theorem ofResolvedAlong_scalar {value : Value} (single : value.IsScalar)
    (other : ∀ decimal, value ≠ number (.decimal decimal)) (node : Node) :
    ofResolvedAlong read along value node = ofResolved read false node := by
  cases single with
  | null => cases node <;> rfl
  | boolean flag => cases node <;> rfl
  | string text => cases node <;> rfl
  | number number =>
    cases number with
    | natural value => cases node <;> rfl
    | negative magnitude => cases node <;> rfl
    | decimal decimal => exact absurd rfl (other decimal)

theorem keepingText_of_other {value : Value} (other : ∀ decimal, value ≠ number (.decimal decimal)) (keepsText : Bool)
    (text : String) : keepingText keepsText text value = value := by
  unfold keepingText
  split
  next decimal => exact absurd rfl (other decimal)
  next => rfl

theorem inStep_scalar (start : Nat) {tag : Option String} (style : ScalarStyle) (text : String)
    (common : localTag? (tagOf (.scalar tag style text)) = none) :
    InStep start (KeepsAlong document (ofResolvedAlong read along) start (.scalar tag style text))
      (ofUntagged read false false (.scalar tag style text)) (ofUntagged read false true (.scalar tag style text)) := by
  cases found : ofScalar false tag style text with
  | none =>
    simp only [ofUntagged, found]
    exact .failure
  | some value =>
    have answer (keepsText : Bool) : ofUntagged read false keepsText (.scalar tag style text) =
        pure (keepingText keepsText text value) := by
      simp only [ofUntagged, found]
    rw [answer, answer]
    by_cases decimal : ∃ decimal, value = number (.decimal decimal)
    · obtain ⟨decimal, rfl⟩ := decimal
      exact .pure ⟨.decimal tag style text decimal, fun _ => rfl⟩
    · have other := not_exists.mp decimal
      rw [keepingText_of_other other, keepingText_of_other other]
      refine .pure ⟨.scalar tag style text other, fun _ => ?_⟩
      rw [ofResolvedAlong_scalar (isScalar_ofScalar found) other, ofResolved_of_common common, answer,
        keepingText_of_other other]
      rfl

variable
  (each : ∀ start node, InStep start (KeepsAlong document along start node) (read false node) (read true node))
include each

theorem inStep_items (start : Nat) (nodes : List Node) :
    InStep start (fun plain kept rest => ∃ items : List (Value × Value), plain = items.map (·.1) ∧
      kept = items.map (·.2) ∧ List.Forall₂ (fun node item => KeepsText document node item.1 item.2) nodes items ∧
      ((∀ item ∈ plain, item.WellFormed) →
        (itemsAlong (read false) along plain nodes).run start = some (kept, rest)))
      (nodes.mapM (read false)) (nodes.mapM (read true)) := by
  induction nodes generalizing start with
  | nil => exact .pure ⟨[], rfl, rfl, .nil, fun _ => rfl⟩
  | cons node nodes ih =>
    rw [List.mapM_cons, List.mapM_cons]
    refine (each start node).bind ?_
    rintro plain kept middle ⟨keeps, first⟩
    refine (ih middle).bind ?_
    rintro _ _ rest ⟨items, rfl, rfl, all, others⟩
    refine .pure ⟨(plain, kept) :: items, rfl, rfl, .cons keeps all, fun formed => ?_⟩
    obtain ⟨head, tail⟩ := List.forall_mem_cons.mp formed
    rw [itemsAlong, run_bind_of_some (first head), run_bind_of_some (others tail)]
    rfl

/-- The keys are read alike. -/
theorem inStep_entry (start : Nat) (node : Node × Node) :
    InStep start (fun plain kept rest => plain.1 = kept.1 ∧ KeepsText document node.2 plain.2 kept.2 ∧
      ∃ middle, (read false node.1).run start = some (plain.1, middle) ∧
        (plain.2.WellFormed → (along plain.2 node.2).run middle = some (kept.2, rest)))
      (do return (← read false node.1, ← read false node.2)) (do return (← read false node.1, ← read true node.2)) := by
  refine (InStep.self (read false node.1)).bind ?_
  rintro key _ middle ⟨rfl, known⟩
  refine (each middle node.2).bind ?_
  rintro plain kept rest ⟨keeps, same⟩
  exact .pure ⟨rfl, keeps, middle, known, same⟩

/-- The induction binds each key behind those that are bound already, as it differs from all of them. -/
theorem inStep_entries (start : Nat) (nodes : List (Node × Node)) :
    InStep start (fun plain kept rest => ∃ entries : List (Value × Value × Value),
      plain = entries.map (fun entry => (entry.1, entry.2.1)) ∧ kept = entries.map (fun entry => (entry.1, entry.2.2)) ∧
      List.Forall₂ (fun node entry => KeepsText document node.2 entry.2.1 entry.2.2) nodes entries ∧
      ∀ shapes bound, (∀ entry ∈ plain, entry.2.WellFormed ∧ find? entry.1 shapes = some entry.2) →
        (bound ++ kept).Pairwise (fun a b => same b.1 a.1 = false) →
        (entriesAlong (read false) along shapes nodes bound).run start = some (bound ++ kept, rest))
      (nodes.mapM fun (key, value) => do return (← read false key, ← read false value))
      (nodes.mapM fun (key, value) => do return (← read false key, ← read true value)) := by
  induction nodes generalizing start with
  | nil =>
    rw [List.mapM_nil, List.mapM_nil]
    refine .pure ⟨[], rfl, rfl, .nil, fun shapes bound _ _ => ?_⟩
    rw [List.append_nil]
    rfl
  | cons node nodes ih =>
    rw [List.mapM_cons, List.mapM_cons]
    refine (inStep_entry each start node).bind ?_
    rintro ⟨key, plain⟩ ⟨_, kept⟩ next ⟨rfl, keeps, middle, known, first⟩
    refine (ih next).bind ?_
    rintro _ _ rest ⟨entries, rfl, rfl, all, others⟩
    refine .pure ⟨(key, plain, kept) :: entries, rfl, rfl, .cons keeps all, fun shapes bound found apart => ?_⟩
    obtain ⟨⟨formed, shaped⟩, found⟩ := List.forall_mem_cons.mp found
    have absent : ∀ entry ∈ bound, same key entry.1 = false := by
      intro entry member
      exact (List.pairwise_append.mp apart).2.2 entry member (key, kept) List.mem_cons_self
    have moved : bound ++ (key, kept) :: entries.map (fun entry => (entry.1, entry.2.2)) =
        put key kept bound ++ entries.map (fun entry => (entry.1, entry.2.2)) := by
      rw [put_of_absent absent, List.append_assoc, List.singleton_append]
    have step : (entryAlong (read false) along shapes bound node).run start = some (put key kept bound, next) := by
      rw [entryAlong, run_bind_of_some known, shaped, Option.elim_some, run_bind_of_some (first formed)]
      rfl
    rw [moved] at apart ⊢
    rw [entriesAlong, List.foldlM_cons, run_bind_of_some step]
    exact others shapes (put key kept bound) found apart

theorem inStep_mapping (start : Nat) (tag : Option String) (nodes : List (Node × Node)) :
    InStep start (KeepsAlong document (ofResolvedAlong read along) start (.mapping tag nodes))
      (ofUntagged read false false (.mapping tag nodes)) (ofUntagged read false true (.mapping tag nodes)) := by
  refine (inStep_entries each start nodes).bind ?_
  rintro _ _ rest ⟨entries, rfl, rfl, all, again⟩
  have keys : repeatsKey (entries.map fun entry => (entry.1, entry.2.2)) =
      repeatsKey (entries.map fun entry => (entry.1, entry.2.1)) := by
    rw [Bool.eq_iff_iff, ← Bool.not_eq_false, ← Bool.not_eq_false, repeatsKey_eq_false_iff, repeatsKey_eq_false_iff,
      List.pairwise_map, List.pairwise_map]
  rw [keys]
  cases repeatsKey (entries.map fun entry => (entry.1, entry.2.1)) with
  | true => exact .failure_bind
  | false =>
    refine .pure ⟨.mapping tag all, fun formed => ?_⟩
    have formed := wellFormed_mapping_iff.mp formed
    have found : ∀ entry ∈ entries.map (fun entry => (entry.1, entry.2.1)), entry.2.WellFormed ∧
        find? entry.1 (entries.map fun entry => (entry.1, entry.2.1)) = some entry.2 := by
      intro entry member
      have known := formed.keys entry member
      exact ⟨formed.values entry member, find?_eq_some_of_mem formed known member (same_refl known)⟩
    have apart : (entries.map fun entry => (entry.1, entry.2.2)).Pairwise fun a b => same b.1 a.1 = false :=
      List.pairwise_map.mpr ((List.pairwise_map.mp formed.distinct).imp And.right)
    rw [ofResolvedAlong, run_bind_of_some (again _ [] found apart)]
    rfl

theorem inStep_sequence (start : Nat) (tag : Option String) (nodes : List Node) :
    InStep start (KeepsAlong document (ofResolvedAlong read along) start (.sequence tag nodes))
      (ofUntagged read false false (.sequence tag nodes)) (ofUntagged read false true (.sequence tag nodes)) := by
  refine (inStep_items each start nodes).bind ?_
  rintro _ _ rest ⟨items, rfl, rfl, all, again⟩
  refine .pure ⟨.sequence tag all, fun formed => ?_⟩
  cases formed with | list formed =>
  rw [ofResolvedAlong, run_bind_of_some (again formed)]
  rfl

theorem inStep_ofResolved (start : Nat) (node : Node) :
    InStep start (KeepsAlong document (ofResolvedAlong read along) start node) (ofResolved read false node)
      (ofResolved read true node) := by
  cases own : localTag? (tagOf node) with
  | none =>
    rw [ofResolved_of_common own, ofResolved_of_common own]
    cases node with
    | scalar tag style text => exact inStep_scalar start style text own
    | sequence tag nodes => exact inStep_sequence each start tag nodes
    | mapping tag nodes => exact inStep_mapping each start tag nodes
    | «alias» number => exact .failure
  | some tag =>
    by_cases named : tag = ""
    · subst named
      simp only [ofResolved, own]
      exact .failure
    · have whole (keepsText : Bool) : ofResolved read keepsText node =
          (do return tagged tag (← ofUntagged read true false node)) := by
        unfold ofResolved
        simp only [own]
      rw [whole, whole]
      refine (InStep.self (ofUntagged read true false node)).bind ?_
      rintro value _ rest ⟨rfl, again⟩
      refine .pure ⟨.tagged node tag value, fun _ => ?_⟩
      rw [ofResolvedAlong_tagged, whole, run_bind_of_some again]
      rfl

end

section
variable {document : Document} {node found : Node} {start middle : Nat}

theorem run_resolve_alias (document : Document) (number left : Nat) :
    (document.resolve (.alias number)).run (left + 1) = (document.find? number).map (·, left) := by
  cases found : document.find? number with
  | none =>
    rw [Document.resolve, found]
    rfl
  | some node => simp [Document.resolve, found]

theorem KeepsText.of_resolve (resolved : (document.resolve node).run start = some (found, middle)) {plain kept : Value}
    (keeps : KeepsText document found plain kept) : KeepsText document node plain kept := by
  cases node with
  | «alias» number =>
    cases start with
    | zero => cases resolved
    | succ left =>
      rw [run_resolve_alias] at resolved
      obtain ⟨target, known, same⟩ := Option.map_eq_some_iff.mp resolved
      obtain ⟨rfl, rfl⟩ := Prod.mk.inj same
      exact .alias known keeps
  | scalar tag style text =>
    obtain ⟨rfl, rfl⟩ := Prod.mk.inj (Option.some.inj resolved)
    exact keeps
  | sequence tag nodes =>
    obtain ⟨rfl, rfl⟩ := Prod.mk.inj (Option.some.inj resolved)
    exact keeps
  | mapping tag nodes =>
    obtain ⟨rfl, rfl⟩ := Prod.mk.inj (Option.some.inj resolved)
    exact keeps

/-- The induction is on the depth to which collections may be nested. -/
theorem inStep_ofNode (document : Document) (depth start : Nat) (node : Node) :
    InStep start (KeepsAlong document (ofNodeAlong document depth) start node) (ofNode document depth false node)
      (ofNode document depth true node) := by
  induction depth generalizing start node with
  | zero =>
    refine (InStep.self (document.resolve node)).bind ?_
    rintro found _ middle ⟨rfl, resolved⟩
    cases single : isCollection found with
    | true => exact .failure_bind
    | false =>
      have step : InStep middle
          (KeepsAlong document (ofResolvedAlong (fun _ _ => failure) fun _ _ => failure) middle found) _ _ :=
        inStep_ofResolved (fun _ _ => .failure) middle found
      refine step.mono ?_
      rintro plain kept rest ⟨keeps, again⟩
      refine ⟨.of_resolve resolved keeps, fun formed => ?_⟩
      rw [ofNodeAlong, run_bind_of_some resolved, ← again formed, single]
      rfl
  | succ depth ih =>
    refine (InStep.self (document.resolve node)).bind ?_
    rintro found _ middle ⟨rfl, resolved⟩
    refine (inStep_ofResolved ih middle found).mono ?_
    rintro plain kept rest ⟨keeps, again⟩
    refine ⟨.of_resolve resolved keeps, fun formed => ?_⟩
    rw [ofNodeAlong, run_bind_of_some resolved, again formed]

end

/-- Both readings of a document fail, or the second one keeps the texts of the first. -/
theorem keepsText_ofDocument? (document : Document) : Option.Rel
    (fun plain kept => KeepsText document document.root plain kept ∧ ofDocumentAlong? plain document = some kept)
    (ofDocument? false document) (ofDocument? true document) := by
  have step := inStep_ofNode document depthLimit (100 * document.size) document.root
  have formed := ensures_ofNode document depthLimit false document.root (100 * document.size)
  unfold ofDocument? ofDocumentAlong? Document.run?
  rw [InStep] at step
  generalize (ofNode document depthLimit false document.root).run (100 * document.size) = outcome at step formed ⊢
  generalize (ofNode document depthLimit true document.root).run (100 * document.size) = answer at step ⊢
  cases step with
  | none => exact .none
  | @some outcome answer step =>
    obtain ⟨-, keeps, again⟩ := step
    refine .some ⟨keeps, ?_⟩
    rw [again (formed _ _ rfl)]
    rfl

/-- Reads the data of a text, and reads the text again along it. -/
def parseAlong (text : String) : Except Fault Value := do
  let shape ← parse false text
  match ofDocumentAlong? shape (← Document.parse text) with
  | some value => return value
  | none => throw ⟨.wrongShape, {}⟩

theorem parse_eq {keepsText : Bool} {text : String} {document : Document} (parsed : Document.parse text = .ok document) :
    parse keepsText text = match ofDocument? keepsText document with
      | some value => .ok value
      | none => .error ⟨.wrongShape, {}⟩ := by
  rw [parse, parsed]
  dsimp only [bind, Except.bind]
  cases ofDocument? keepsText document <;> rfl

/-- To read once and keep texts is the same as to read twice. -/
theorem parseAlong_eq (text : String) : parseAlong text = parse true text := by
  cases parsed : Document.parse text with
  | error fault =>
    rw [parseAlong, parse, parse, parsed]
    rfl
  | ok document =>
    have keeps := keepsText_ofDocument? document
    rw [parseAlong, parse_eq parsed, parse_eq parsed]
    generalize ofDocument? false document = plain at keeps ⊢
    generalize ofDocument? true document = kept at keeps ⊢
    cases keeps with
    | none => rfl
    | some keeps =>
      simp only [parsed, bind, Except.bind, keeps.2]
      rfl

end Yaml.Value

namespace Config
open Yaml Acceptance
variable {files : Files} {path text : String} {plain : Value}

theorem loadValue_of_blank (read : readText files path = .ok text) (blank : (Text.trim text.toList).isEmpty) :
    loadValue files path = .ok .null := by
  rw [loadValue, read]
  dsimp only [bind, Except.bind]
  rw [if_pos blank]
  rfl

theorem loadValue_of_filled (read : readText files path = .ok text) (filled : (Text.trim text.toList).isEmpty = false) :
    loadValue files path = (Value.parse true text).mapError fun fault => .configUnreadable path fault.text := by
  rw [loadValue, read]
  dsimp only [bind, Except.bind]
  rw [filled, if_neg Bool.false_ne_true]

/-- A layer with some text is its data with the texts of all floating-point numbers that are no keys. It is what a second
reading along the plain data comes to. A blank text is null, whatever document it is. -/
theorem loadValue_keeps_texts (read : readText files path = .ok text) (given : Value.parse false text = .ok plain) :
    ((Text.trim text.toList).isEmpty → loadValue files path = .ok .null) ∧
      ((Text.trim text.toList).isEmpty = false → ∃ document kept, Document.parse text = .ok document ∧
        loadValue files path = .ok kept ∧ Value.parseAlong text = .ok kept ∧
        Value.KeepsText document document.root plain kept) := by
  refine ⟨loadValue_of_blank read, fun filled => ?_⟩
  obtain ⟨document, parsed, -⟩ := bind_eq_ok_iff.mp given
  have keeps := Value.keepsText_ofDocument? document
  have loaded := loadValue_of_filled read filled
  rw [Value.parseAlong_eq]
  rw [Value.parse_eq parsed] at given loaded ⊢
  generalize Value.ofDocument? false document = first at keeps given
  generalize Value.ofDocument? true document = second at keeps loaded ⊢
  cases keeps with
  | none => cases given
  | some keeps =>
    obtain rfl := Except.ok.inj given
    exact ⟨document, _, parsed, loaded, rfl, keeps.1⟩

section
private def releasesText : String :=
  "1.50: [2.10, &a 1.0, \x7bx: *a, y: 2\x7d]"

private def dataFiles (text : String) : Files :=
  { entries := [(["p", "config.yml"], .text text)] }

private def isReleases : Except Error Value → Bool
  | .ok (.mapping [(.number (.decimal _), .list [.string "2.10", .string "1.0",
      .mapping [(.string "x", .string "1.0"), (.string "y", .number (.natural 2))]])]) => true
  | _ => false

/-- All floating-point numbers of a document but its key are kept as texts, and so are those that are used again. -/
theorem loadValue_keeps_texts_releases :
    ∃ key plain document kept, readText (dataFiles releasesText) "/p/config.yml" = .ok releasesText ∧
      Value.parse false releasesText = .ok plain ∧ (Text.trim releasesText.toList).isEmpty = false ∧
      loadValue (dataFiles releasesText) "/p/config.yml" = .ok kept ∧
      kept = .mapping [(.number (.decimal key), .list [.string "2.10", .string "1.0",
        .mapping [(.string "x", .string "1.0"), (.string "y", .number (.natural 2))]])] ∧
      Document.parse releasesText = .ok document ∧ Value.KeepsText document document.root plain kept := by
  have read : readText (dataFiles releasesText) "/p/config.yml" = .ok releasesText := by decide +kernel
  have filled : (Text.trim releasesText.toList).isEmpty = false := by decide +kernel
  have readable : (Value.parse false releasesText).isOk := by decide +kernel
  have shape : isReleases (loadValue (dataFiles releasesText) "/p/config.yml") = true := by decide +kernel
  obtain ⟨plain, given⟩ := isOk_iff.mp readable
  obtain ⟨document, kept, parsed, loaded, -, keeps⟩ := (loadValue_keeps_texts read given).2 filled
  rw [loaded] at shape
  unfold isReleases at shape
  split at shape
  next key same =>
    obtain rfl := Except.ok.inj same
    exact ⟨key, plain, document, _, read, given, filled, loaded, rfl, parsed, keeps⟩
  next => cases shape

private def isSpaceDocument : Except Fault Document → Bool
  | .ok ⟨.scalar none .plain "\u00a0", []⟩ => true
  | _ => false

private def isSpaceData : Except Fault Value → Bool
  | .ok (.string "\u00a0") => true
  | _ => false

/-- A no-break space is a document with a text, but as a layer it is blank. -/
theorem blank_text_not_kept :
    ∃ document, Document.parse "\u00a0" = .ok document ∧ Value.parse false "\u00a0" = .ok (.string "\u00a0") ∧
      readText (dataFiles "\u00a0") "/p/config.yml" = .ok "\u00a0" ∧
      loadValue (dataFiles "\u00a0") "/p/config.yml" = .ok .null ∧
      ¬ Value.KeepsText document document.root (.string "\u00a0") .null := by
  have read : readText (dataFiles "\u00a0") "/p/config.yml" = .ok "\u00a0" := by decide +kernel
  have written : isSpaceDocument (Document.parse "\u00a0") = true := by decide +kernel
  have stands : isSpaceData (Value.parse false "\u00a0") = true := by decide +kernel
  unfold isSpaceDocument at written
  unfold isSpaceData at stands
  split at written
  next parsed =>
    split at stands
    next given =>
      refine ⟨_, parsed, given, read, loadValue_of_blank read (by decide +kernel), fun keeps => ?_⟩
      cases keeps
    next => cases stands
  next => cases written

end

end Config
end Linkage
