import Linkage.Config.Loading
import Linkage.Proofs.DataReading
import Linkage.Proofs.KeptTexts
import Linkage.Proofs.NullDeletion

/-! A local file without any settings. It changes nothing in the shared settings, but it changes how they are read: not
from their own text, but from their data, which is written down again first. The configuration stays the same where
the shared settings are written as their data would be; other spellings are lost, and top-level nulls are left out. -/

namespace Linkage

namespace Yaml.Value
variable {value key : Value} {entries merged : List (Value × Value)}

/-- What is left of data that is laid over nothing. -/
def settled : Value → Value
  | null => mapping []
  | mapping entries => mapping (entries.filter (!·.2.isNull))
  | other => other

/-- Distinct keys are bound one after the other. -/
theorem overlaidEntries_nil (formed : Formed (merged ++ entries)) :
    overlaidEntries [] merged entries = merged ++ entries.filter (!·.2.isNull) := by
  induction entries generalizing merged with
  | nil => simp [overlaidEntries]
  | cons entry rest ih =>
    have absent : ∀ other ∈ merged, same entry.1 other.1 = false := by
      intro other member
      exact ((List.pairwise_append.mp formed.distinct).2.2 other member entry List.mem_cons_self).2
    rw [overlaidEntries]
    cases nothing : entry.2.isNull with
    | true =>
      have fewer : Formed (merged ++ rest) := formed.sublist ((List.sublist_cons_self entry rest).append_left merged)
      rw [if_pos rfl, swapRemove_eq_self (find?_eq_none_iff.mpr absent), ih fewer]
      simp [nothing]
    | false =>
      have moved : Formed (merged ++ [entry] ++ rest) := by simpa using formed
      rw [if_neg Bool.false_ne_true]
      show overlaidEntries [] (put entry.1 entry.2 merged) rest = _
      rw [put_of_absent absent, ih moved]
      simp [nothing]

theorem overlaid_empty (formed : value.WellFormed) : overlaid (mapping []) value = value.settled := by
  cases value with
  | null => simp [settled]
  | mapping entries =>
    have formed : Formed ([] ++ entries) := wellFormed_mapping_iff.mp formed
    rw [overlaid_mapping, overlaidEntries_nil formed]
    rfl
  | boolean flag => simp [settled, overlaid]
  | number number => simp [settled, overlaid]
  | string text => simp [settled, overlaid]
  | list items => simp [settled, overlaid]
  | tagged tag value => simp [settled, overlaid]

/-- What is written for the data reads as a document that spells it. -/
def ReadsBack (value : Value) : Prop :=
  ∃ document, Document.parse value.text = .ok document ∧ Spells document.root value

end Yaml.Value

namespace Yaml
variable {document : Document} {value : Value} {text : String}

/-- A document that spells some data is read as that data. -/
theorem run?_config (spelled : Spells document.root value) :
    document.run? (document.reading.config document.root) = Value.reading.config value := by
  have agree := document.answers.config spelled (100 * document.size)
  unfold Document.run?
  generalize StateT.run (document.reading.config document.root) (100 * document.size) = outcome at agree
  generalize Value.reading.config value = answer at agree
  cases agree with
  | none => rfl
  | some same => exact congrArg some same.1

theorem readAs_config_eq (parsed : Document.parse text = .ok document) :
    (readAs (fun reading => reading.config) text).toOption = document.run? (document.reading.config document.root) := by
  unfold readAs
  rw [parsed]
  dsimp only [bind, Except.bind]
  cases document.run? (document.reading.config document.root) <;> rfl

end Yaml

namespace Config
open Acceptance Yaml
variable {files : Files} {root text : String}

/-- The files without local settings, and with a blank file for them; the shared settings are the same. -/
structure BlankLayer (plain layered : Files) (root : String) : Prop where
  alone : plain.entry? (localPath root) = none
  shared : layered.entry? (sharedPath root) = plain.entry? (sharedPath root)
  blank : ∃ text, layered.entry? (localPath root) = some (.text text) ∧ (Text.trim text.toList).isEmpty

variable {plain layered : Files} {value : Yaml.Value} {document : Document}

namespace BlankLayer
variable (layer : BlankLayer plain layered root)
include layer

theorem contains_local : layered.contains (localPath root) := by
  obtain ⟨text, found, -⟩ := layer.blank
  rw [Files.contains, found]
  rfl

theorem loadValue_local : loadValue layered (localPath root) = .ok .null := by
  obtain ⟨text, found, blank⟩ := layer.blank
  have read : readText layered (localPath root) = .ok text := by
    rw [readText, Files.read, found]
    rfl
  exact loadValue_of_blank read blank

theorem readText_shared (there : plain.contains (sharedPath root)) :
    readText layered (sharedPath root) = readText plain (sharedPath root) := by
  obtain ⟨entry, found⟩ := Option.isSome_iff_exists.mp there
  have same := layer.shared.trans found
  rw [readText, readText, Files.read, Files.read, found, same]
  cases entry <;> rfl

theorem loadProject_plain (there : plain.contains (sharedPath root)) :
    loadProject plain root = loadFile plain (sharedPath root) := by
  have alone : plain.contains (localPath root) = false := by
    rw [Files.contains, layer.alone]
    rfl
  rw [loadProject, there, alone]
  rfl

/-- The data of the shared settings is written down, and read again. -/
theorem loadProject_layered (there : plain.contains (sharedPath root)) : loadProject layered root =
    loadValue layered (sharedPath root) >>= fun value => ofLayered (sharedPath root) (.overlaid (.mapping []) value) := by
  have present : layered.contains (sharedPath root) := by
    rw [Files.contains, layer.shared]
    exact there
  have paths : layerPaths layered root = [sharedPath root, localPath root] := by
    rw [layerPaths, List.filter_cons_of_pos present, List.filter_cons_of_pos layer.contains_local, List.filter_nil]
  rw [loadProject, present, layer.contains_local, paths]
  simp only [List.mapM_cons, List.mapM_nil, layer.loadValue_local]
  cases loadValue layered (sharedPath root) with
  | error error => rfl
  | ok value =>
    show ofLayered (sharedPath root) (Value.layered [value, .null]) = _
    rw [Value.layered, List.foldl_cons, List.foldl_cons, List.foldl_nil, Value.overlaid_by_null]
    rfl

end BlankLayer

/-- The shared settings are a document. -/
def Shares (files : Files) (root : String) (document : Document) : Prop :=
  ∃ text, readText files (sharedPath root) = .ok text ∧ (Text.trim text.toList).isEmpty = false ∧
    Document.parse text = .ok document

theorem contains_of_readText (read : readText files (sharedPath root) = .ok text) :
    files.contains (sharedPath root) := by
  cases found : files.entry? (sharedPath root) with
  | none =>
    rw [readText, Files.read, found] at read
    cases read
  | some entry => rw [Files.contains, found]; rfl

theorem loadFile_eq_of_shares (shared : readText files (sharedPath root) = .ok text)
    (filled : (Text.trim text.toList).isEmpty = false) (parsed : Document.parse text = .ok document) :
    (loadFile files (sharedPath root)).toOption = document.run? (document.reading.config document.root) := by
  rw [loadFile, shared]
  dsimp only [bind, Except.bind]
  rw [parse, filled, if_neg Bool.false_ne_true, toOption_mapError, readAs_config_eq parsed]

theorem loadValue_eq_of_shares (shared : readText files (sharedPath root) = .ok text)
    (filled : (Text.trim text.toList).isEmpty = false) (parsed : Document.parse text = .ok document) :
    (loadValue files (sharedPath root)).toOption = Value.ofDocument? true document := by
  rw [loadValue_of_filled shared filled, toOption_mapError, Value.parse_eq parsed]
  cases Value.ofDocument? true document <;> rfl

/-- The same configuration is loaded with the layer and without it, or none. -/
def Neutral (plain layered : Files) (root : String) : Prop :=
  (loadProject layered root).toOption = (loadProject plain root).toOption

theorem toOption_ofLayered (path : String) (value : Yaml.Value) :
    (ofLayered path value).toOption = (readAs (fun reading => reading.config) value.text).toOption :=
  toOption_mapError _ _

/-- No settings at all are written as an empty mapping. -/
theorem readAs_empty : (readAs (fun reading => reading.config) (Value.mapping []).text).toOption = some {} := by
  decide +kernel

namespace BlankLayer
variable (layer : BlankLayer plain layered root)
include layer

theorem toOption_loadProject_layered (there : plain.contains (sharedPath root)) : (loadProject layered root).toOption =
    (loadValue layered (sharedPath root)).toOption >>= fun value =>
      (readAs (fun reading => reading.config) (Value.overlaid (.mapping []) value).text).toOption := by
  rw [layer.loadProject_layered there]
  cases loadValue layered (sharedPath root) with
  | error error => rfl
  | ok value => exact toOption_ofLayered _ _

theorem neutral_of_not_contains (missing : plain.contains (sharedPath root) = false) : Neutral plain layered root := by
  have absent : layered.contains (sharedPath root) = false := by
    rw [Files.contains, layer.shared]
    exact missing
  rw [Neutral, loadProject, loadProject, absent, missing]
  rfl

/-- Settings that are missing, blank or no document are read without their data, with the layer as without. -/
theorem neutral_of_not_shares (nothing : ∀ document, ¬ Shares plain root document) : Neutral plain layered root := by
  cases there : plain.contains (sharedPath root) with
  | false => exact layer.neutral_of_not_contains there
  | true =>
    rw [Neutral, layer.toOption_loadProject_layered there, layer.loadProject_plain there, loadFile, loadValue,
      layer.readText_shared there]
    cases read : readText plain (sharedPath root) with
    | error error => rfl
    | ok text =>
      dsimp only [bind, Except.bind]
      rw [parse]
      cases blank : (Text.trim text.toList).isEmpty with
      | true =>
        rw [if_pos rfl, if_pos rfl, toOption_pure, toOption_pure, Option.bind_some, Value.overlaid_by_null, readAs_empty]
      | false =>
        rw [if_neg Bool.false_ne_true, if_neg Bool.false_ne_true, toOption_mapError, toOption_mapError]
        cases parsed : Document.parse text with
        | error fault =>
          rw [readAs, Value.parse, parsed]
          rfl
        | ok document => exact absurd ⟨text, read, blank, parsed⟩ (nothing document)

end BlankLayer

theorem ofDocument?_of_empty (empty : document.root = .empty) : Value.ofDocument? true document = some .null := by
  rw [Value.ofDocument?, empty]
  rfl

theorem run?_config_of_empty (empty : document.root = .empty) :
    document.run? (document.reading.config document.root) = some {} := by
  rw [empty]
  rfl

/-- What a blank layer does. Settings that are no document or an empty one stay as they are. Otherwise they are read as
data: they are refused if they are none, and in the configuration nothing is told from how the data was written. So it
stays the same where each node is written as its data would be, and nothing at the top is null. -/
theorem blank_layer_reads_data (layer : BlankLayer plain layered root) :
    ((∀ document, ¬ Shares plain root document) → Neutral plain layered root) ∧
    ∀ document, Shares plain root document →
      (document.root = .empty → Neutral plain layered root) ∧
      (Value.ofDocument? true document = none → (loadProject layered root).toOption = none) ∧
      ∀ value, Value.ofDocument? true document = some value → value.settled.ReadsBack →
        (loadProject layered root).toOption = Value.reading.config value.settled ∧
        (Spells document.root value → value.settled = value → Neutral plain layered root) := by
  refine ⟨layer.neutral_of_not_shares, fun document shares => ?_⟩
  obtain ⟨text, shared, filled, parsed⟩ := shares
  have there := contains_of_readText shared
  have shares := (layer.readText_shared there).trans shared
  have direct : (loadProject plain root).toOption = document.run? (document.reading.config document.root) := by
    rw [layer.loadProject_plain there, loadFile_eq_of_shares shared filled parsed]
  have through := layer.toOption_loadProject_layered there
  rw [loadValue_eq_of_shares shares filled parsed] at through
  refine ⟨fun empty => ?_, fun refused => ?_, fun value data back => ?_⟩
  · rw [Neutral, through, direct, ofDocument?_of_empty empty, run?_config_of_empty empty, Option.bind_eq_bind,
      Option.bind_some, Value.overlaid_by_null, readAs_empty]
  · rw [through, refused]
    rfl
  · obtain ⟨written, reread, spelled⟩ := back
    have formed : value.WellFormed := by
      have read : Value.parse true text = .ok value := by
        rw [Value.parse, parsed]
        dsimp only [bind, Except.bind]
        rw [data]
        rfl
      exact Value.wellFormed_of_parse read
    have read : (loadProject layered root).toOption = Value.reading.config value.settled := by
      rw [through, data, Option.bind_eq_bind, Option.bind_some, Value.overlaid_empty formed, readAs_config_eq reread,
        run?_config spelled]
    refine ⟨read, fun own unchanged => ?_⟩
    rw [Neutral, read, direct, unchanged, run?_config own]

section
/-- A project with shared settings, and local ones if there are any. -/
private def settingsFiles (shared : String) (layer : Option String) : Files :=
  { entries := (["p", ".muzzle", "config.yml"], .text shared) ::
      layer.toList.map fun text => (["p", ".muzzle", "config.local.yml"], .text text) }

private theorem settingsFiles_listed (shared : String) (layer : Option String) :
    Files.entry? (settingsFiles shared layer) (sharedPath "/p") = some (.text shared) ∧
      Files.entry? (settingsFiles shared layer) (localPath "/p") = layer.map .text := by
  have place (path : String) : (settingsFiles shared layer).place path = (Path.names path).foldl Files.step [] :=
    congrArg (fun start => (Path.names path).foldl Files.step start) (ite_self [])
  have first : (Path.names (sharedPath "/p")).foldl Files.step [] = ["p", ".muzzle", "config.yml"] := by
    decide +kernel
  have second : (Path.names (localPath "/p")).foldl Files.step [] = ["p", ".muzzle", "config.local.yml"] := by
    decide +kernel
  rw [ Files.entry?, Files.entry?, place, place, first, second]
  cases layer <;> exact ⟨rfl, rfl⟩

private theorem blankLayer_settingsFiles (shared : String) :
    BlankLayer (settingsFiles shared none) (settingsFiles shared (some "")) "/p" where
  alone := (settingsFiles_listed shared none).2
  shared := (settingsFiles_listed shared _).1.trans (settingsFiles_listed shared none).1.symm
  blank := ⟨"", (settingsFiles_listed shared (some "")).2, by decide⟩

private def nameDocument (style : ScalarStyle) : Document :=
  { root := .mapping none [(.scalar none .plain "name", .scalar none style "2.10")] }

private def nameData : Yaml.Value :=
  .mapping [(.string "name", .string "2.10")]

private def isNameDocument (style : ScalarStyle) : Except Fault Document → Bool
  | .ok ⟨.mapping none [(.scalar none .plain "name", .scalar none written "2.10")], []⟩ => written == style
  | _ => false

private def isNameData : Option Yaml.Value → Bool
  | some (.mapping [(.string "name", .string "2.10")]) => true
  | _ => false

private def isDecimal : Option Scalar → Bool
  | some (.number (.decimal _)) => true
  | _ => false

private theorem parse_eq_nameDocument {text : String} {style : ScalarStyle}
    (shape : isNameDocument style (Document.parse text) = true) : Document.parse text = .ok (nameDocument style) := by
  unfold isNameDocument at shape
  split at shape
  next written found => rw [found, nameDocument, eq_of_beq shape]
  next => cases shape

private theorem parse_nameDocument : Document.parse "name: 2.10\n" = .ok (nameDocument .plain) ∧
    Document.parse nameData.text = .ok (nameDocument .singleQuoted) :=
  ⟨parse_eq_nameDocument (by decide +kernel), parse_eq_nameDocument (by decide +kernel)⟩

private theorem ofDocument?_nameDocument : Value.ofDocument? true (nameDocument .plain) = some nameData := by
  have shape : isNameData (Value.ofDocument? true (nameDocument .plain)) = true := by decide +kernel
  unfold isNameData at shape
  split at shape
  next found => exact found
  next => cases shape

private theorem spells_nameDocument : Spells (nameDocument .plain).root nameData ∧
    Spells (nameDocument .singleQuoted).root nameData := by
  have name : Value.ofPlain "name" = some (.string "name") := by
    have scalar : Scalar.ofPlain? "name" = some (.text "name") := by decide +kernel
    rw [Value.ofPlain, scalar]
    rfl
  have number : ∃ decimal, Value.ofPlain "2.10" = some (.number (.decimal decimal)) := by
    have shape : isDecimal (Scalar.ofPlain? "2.10") = true := by decide +kernel
    unfold isDecimal at shape
    split at shape
    next decimal found => exact ⟨decimal, by rw [Value.ofPlain, found]; rfl⟩
    next => cases shape
  obtain ⟨decimal, number⟩ := number
  constructor
  · exact .mapping none (.cons (.plain none name rfl) .nil) (.cons (.decimal number) .nil)
  · exact .mapping none (.cons (.plain none name rfl) .nil) (.cons (.quoted none (by decide)) .nil)

/-- A name that looks like a decimal number keeps its digits. -/
theorem blank_layer_reads_data_name :
    BlankLayer (settingsFiles "name: 2.10\n" none) (settingsFiles "name: 2.10\n" (some "")) "/p" ∧
      Shares (settingsFiles "name: 2.10\n" none) "/p" (nameDocument .plain) ∧
      Value.ofDocument? true (nameDocument .plain) = some nameData ∧ nameData.settled.ReadsBack ∧
      Spells (nameDocument .plain).root nameData ∧ nameData.settled = nameData ∧
      Neutral (settingsFiles "name: 2.10\n" none) (settingsFiles "name: 2.10\n" (some "")) "/p" := by
  have layer := blankLayer_settingsFiles "name: 2.10\n"
  have shares : Shares (settingsFiles "name: 2.10\n" none) "/p" (nameDocument .plain) := by
    refine ⟨"name: 2.10\n", ?_, by decide +kernel, parse_nameDocument.1⟩
    rw [readText, Files.read, (settingsFiles_listed _ none).1]
    rfl
  have back : nameData.settled.ReadsBack := ⟨_, parse_nameDocument.2, spells_nameDocument.2⟩
  have neutral := (((blank_layer_reads_data layer).2 _ shares).2.2 _ ofDocument?_nameDocument back).2
    spells_nameDocument.1 rfl
  exact ⟨layer, shares, ofDocument?_nameDocument, back, spells_nameDocument.1, rfl, neutral⟩

/-- Under a blank layer, a name that looks like a truth value is respelled, and settings that repeat a key are refused. -/
theorem blank_layer_changes_reading :
    BlankLayer (settingsFiles "name: TRUE\n" none) (settingsFiles "name: TRUE\n" (some "")) "/p" ∧
      loadProject (settingsFiles "name: TRUE\n" none) "/p" = .ok { name := some "TRUE" } ∧
      loadProject (settingsFiles "name: TRUE\n" (some "")) "/p" = .ok { name := some "true" } ∧
      (loadProject (settingsFiles "owner: a\nowner: b\n" none) "/p").isOk ∧
      ¬ (loadProject (settingsFiles "owner: a\nowner: b\n" (some "")) "/p").isOk := by
  refine ⟨blankLayer_settingsFiles _, ?_, ?_, ?_, ?_⟩ <;> decide +kernel

end

end Config
end Linkage
