import PromptGraph.Proofs.Decoding
import PromptGraph.Proofs.Maps
import PromptGraph.Workflow.Workbench

/-!
# The overrides inside a template

A document may carry overrides under a reserved key among its nodes. The dialect is told without it,
and neither dialect reads it, wherever it stands and whatever it holds (`ofFields_erase`). Loading a
template is loading what is left, and then applying the overrides.
-/

namespace PromptGraph

open Template (defaultsKey)

theorem mem_reservedKeys {key : String} : key ∈ reservedKeys ↔ key = defaultsKey :=
  List.mem_singleton

/-! ## Reading past the reserved key -/

theorem Dialect.detect_erase (fields : OrderedMap Json) :
    Dialect.detect (fields.erase defaultsKey).entries = Dialect.detect fields.entries := by
  have hkey : ∀ key, key ≠ defaultsKey → Entries.contains (fields.erase defaultsKey).entries key =
      Entries.contains fields.entries key := fun key h =>
    congrArg Option.isSome (OrderedMap.get?_erase_of_ne h fields)
  have hfirst : (fields.erase defaultsKey).entries.find? (fun f => !reservedKeys.contains f.1) =
      fields.entries.find? fun f => !reservedKeys.contains f.1 := by
    rw [OrderedMap.erase, List.find?_filter]
    refine congrArg (List.find? · fields.entries) (funext fun f => ?_)
    simp [mem_reservedKeys]
  rw [detect, detect, hkey "nodes" (by decide), hkey "links" (by decide), hfirst]

theorem Prompt.ofFields_erase (fields : OrderedMap Json) :
    Prompt.ofFields (fields.erase defaultsKey).entries = Prompt.ofFields fields.entries := by
  rw [ofFields, ofFields, OrderedMap.erase, List.foldl_filter]
  refine congrArg (List.foldl · empty fields.entries) (funext fun p => funext fun f => ?_)
  split
  · rfl
  · next h =>
    have hkey : f.1 = defaultsKey := by simpa using h
    rw [addField, if_pos (List.contains_iff_mem.2 (mem_reservedKeys.2 hkey))]

theorem EditorDocument.ofFields_erase (fields : OrderedMap Json) :
    EditorDocument.ofFields (fields.erase defaultsKey).entries =
      EditorDocument.ofFields fields.entries := by
  have hitems : ∀ key, key ≠ defaultsKey →
      items (fields.erase defaultsKey).entries key = items fields.entries key := fun key h =>
    congrArg (fun found : Option Json => (found.bind Json.asArray?).getD [])
      (OrderedMap.get?_erase_of_ne h fields)
  rw [ofFields, ofFields, hitems "nodes" (by decide), hitems "links" (by decide)]

theorem Document.ofFields_erase (fields : OrderedMap Json) :
    Document.ofFields (fields.erase defaultsKey).entries = Document.ofFields fields.entries := by
  rw [ofFields, ofFields, Dialect.detect_erase, EditorDocument.ofFields_erase,
    Prompt.ofFields_erase]

theorem Loading.ofJson_erase (o : Options) (fields : OrderedMap Json) :
    ofJson o (.object (fields.erase defaultsKey).entries) = ofJson o (.object fields.entries) := by
  rw [ofJson, ofJson, Document.ofJson, Document.ofJson, Document.ofFields_erase]

/-! ## Loading a template -/

theorem Template.defaultsOf_object (fields : OrderedMap Json) :
    defaultsOf (.object fields.entries) =
      ((fields.get? defaultsKey).bind fun j => (OverrideBundle.decode j).toOption).getD {} := by
  have hfield : (Json.object fields.entries).field? defaultsKey = fields.get? defaultsKey := rfl
  rw [defaultsOf, hfield]
  cases fields.get? defaultsKey with
  | none => rfl
  | some j => rfl

theorem Template.read_of_readText {files : FileTree} {id path text : String} {document : Json}
    (hr : files.readText path = .ok text) (hp : Json.parse? text = some document) :
    read files id path = .ok ⟨id, path, document, defaultsOf document⟩ := by
  unfold read
  rw [hr]
  dsimp only
  rw [hp]
  rfl

namespace Workbench

variable {m : Type → Type} [Monad m] {lookup : String → m (List InputSpec)}

theorem loadTemplate_of_get {w : Workbench} {folder : TemplateFolder} {files : FileTree}
    {id : String} {T : Template} (h : folder.get files id = .ok T) :
    w.loadTemplate lookup folder files id =
      (do return .ok (← (w.loadJson T.document).apply lookup T.defaults)) := by
  rw [loadTemplate, h]

/-- **The overrides of a template are no part of its workflow.** Wherever the reserved key stands in
a document and whatever it holds, the same graph is loaded as from the other fields alone. A
template with that document is loaded as those fields are, and then takes the overrides that the key
holds, or none where it holds no bundle. -/
theorem defaults_outside_workflow (lookup : String → m (List InputSpec))
    (document : OrderedMap Json) :
    (∀ o, Loading.ofJson o (.object document.entries) =
      Loading.ofJson o (.object (document.erase defaultsKey).entries)) ∧
    ∀ (w : Workbench) (folder : TemplateFolder) (files : FileTree) (id text : String),
      TemplateFolder.isBadId id = false →
      files.readText (Path.join folder.root (id ++ ".json")) = .ok text →
      Json.parse? text = some (.object document.entries) →
        w.loadTemplate lookup folder files id = (do
          let bare := w.loadJson (.object (document.erase defaultsKey).entries)
          let bundle := (document.get? defaultsKey).bind fun j => (OverrideBundle.decode j).toOption
          return .ok (← bare.apply lookup (bundle.getD {}))) := by
  refine ⟨fun o => (Loading.ofJson_erase o document).symm, ?_⟩
  intro w folder files id text hid hr hp
  have hget : folder.get files id = _ :=
    (if_neg (by simp [hid])).trans (Template.read_of_readText hr hp)
  have hload : w.loadJson (.object document.entries) =
      w.loadJson (.object (document.erase defaultsKey).entries) :=
    congrArg w.adopt (Loading.ofJson_erase w.loading document).symm
  rw [loadTemplate_of_get hget, hload, Template.defaultsOf_object]

/-- The reserved key comes first and looks like a node, with one parameter for the only node. -/
theorem defaults_outside_workflow_of_disguise :
    let answers (_ : String) : Id (List InputSpec) := [.ofJson "text" (.array [.text "STRING"])]
    let folder : TemplateFolder := ⟨"t"⟩
    let document : OrderedMap Json := .ofList [
      ("_defaults", .object [("class_type", .text "Note"), ("inputs", .object []),
        ("by_id", .object [("6", .object [("text", .text "b")])])]),
      ("6", .object [("class_type", .text "Note"), ("inputs", .object [("text", .text "a")])])]
    let files : FileTree := ⟨.ofList [("t", .folder),
      ("t/note.json", .text (Json.object document.entries).compact)]⟩
    let w : Workbench := {}
    let bare := w.loadJson (.object (document.erase defaultsKey).entries)
    (document.erase defaultsKey).keys = ["6"] ∧ bare.graph.ids = ["6"] ∧
      ∃ patched : Nat × Workbench,
        w.loadTemplate answers folder files "note" = (.ok patched : Id _) ∧ patched.1 = 1 ∧
          (patched.2.graph.node? "6").bind (·.overrides.get? "text") = some (.text "b") := by
  intro answers folder document files w bare
  have hid : TemplateFolder.isBadId "note" = false := by decide +kernel
  have hr : files.readText (Path.join folder.root ("note" ++ ".json")) =
      .ok (Json.object document.entries).compact := eq_ok_of_toOption (by decide +kernel)
  have hp : Json.parse? (Json.object document.entries).compact =
      some (.object document.entries) := by decide +kernel
  obtain ⟨-, hload⟩ := defaults_outside_workflow answers document
  exact ⟨by decide +kernel, by decide +kernel, _, hload w folder files _ _ hid hr hp,
    by decide +kernel⟩

end Workbench

end PromptGraph
