import Mathlib.Data.List.Basic
import PromptGraph.Loading.Basic
import PromptGraph.Proofs.Maps

/-!
# Payloads are read back

What a prompt writes decodes to the prompt again. `Dialect.Unmarked ids` says that none of `ids` is
a key that tells the dialects apart or that is reserved; the payload of a prompt with such ids is
taken for a request document, and loading it loads the prompt.
-/

namespace PromptGraph

namespace Decode

variable {α : Type} {d : Decoder α} {write : α → Json}

/-- A decoder that reads single values back reads tables of them back. -/
theorem foldlM_insert (h : ∀ a, d (write a) = .ok a) (es : Entries α) (m : OrderedMap α) :
    (es.map fun e => (e.1, write e.2)).foldlM (fun m p => (d p.2).map (m.insert p.1)) m =
      .ok (m.insertAll es) := by
  induction es generalizing m with
  | nil => rfl
  | cons e es ih =>
    simp only [List.map_cons, List.foldlM_cons, h]
    exact ih (m.insert e.1 e.2)

theorem table_object (h : ∀ a, d (write a) = .ok a) (m : OrderedMap α) :
    table d (.object (m.entries.map fun e => (e.1, write e.2))) = .ok m := by
  have := foldlM_insert h m.entries .empty
  rw [show OrderedMap.insertAll .empty m.entries = m from m.ofList_entries] at this
  exact this

theorem table_any (m : OrderedMap Json) : table any (.object m.entries) = .ok m := by
  have hany : ∀ j, any (id j) = .ok j := fun _ => rfl
  simpa using table_object hany m

end Decode

open Decode

/-- No id is taken for something else than an id among the keys of a document. -/
def Dialect.Unmarked (ids : List NodeId) : Prop :=
  ∀ id ∈ ids, id ≠ "nodes" ∧ id ≠ "links" ∧ id ∉ reservedKeys

theorem PromptMeta.decode_toJson (m : PromptMeta) : decode m.toJson = .ok m := by
  rcases m with ⟨_ | t⟩ <;> rfl

theorem PromptNode.decode_toJson (n : PromptNode) : decode n.toJson = .ok n := by
  obtain ⟨classType, inputs, details⟩ := n
  cases details with
  | none =>
    simp only [decode, toJson, RecordForm.fold, form, List.append_nil, List.foldlM_cons,
      List.foldlM_nil, text, table_any]
    rfl
  | some m =>
    have hm : optional PromptMeta.decode m.toJson = .ok (some m) := by
      have := congrArg (Except.map some) m.decode_toJson
      exact this
    simp only [decode, toJson, RecordForm.fold, form, List.cons_append, List.nil_append,
      List.foldlM_cons, List.foldlM_nil, text, table_any, hm]
    rfl

namespace Prompt

def fields (p : Prompt) : List (String × Json) := p.nodes.entries.map fun e => (e.1, e.2.toJson)

theorem toJson_eq (p : Prompt) : p.toJson = .object p.fields := rfl

/-- The entry that lenient reading makes of a field. -/
def nodeOf? (field : String × Json) : Option (NodeId × PromptNode) :=
  if field.1 ∈ reservedKeys then none
  else (PromptNode.decode field.2).toOption.map fun n => (field.1, n)

theorem key_of_nodeOf {field : String × Json} {e : NodeId × PromptNode}
    (h : nodeOf? field = some e) : e.1 = field.1 ∧ field.1 ∉ reservedKeys := by
  unfold nodeOf? at h
  split at h
  · cases h
  · next hr =>
    obtain ⟨n, -, rfl⟩ := Option.map_eq_some_iff.1 h
    exact ⟨rfl, hr⟩

theorem addField_eq (p : Prompt) (field : String × Json) :
    p.addField field = ⟨p.nodes.insertAll (nodeOf? field).toList⟩ := by
  unfold addField nodeOf?
  by_cases hr : field.1 ∈ reservedKeys
  · rw [if_pos (List.contains_iff_mem.2 hr), if_pos hr]
    rfl
  · rw [if_neg (mt List.contains_iff_mem.1 hr), if_neg hr]
    cases PromptNode.decode field.2 <;> rfl

theorem foldl_addField_eq (fs : Entries Json) (p : Prompt) :
    fs.foldl addField p = ⟨p.nodes.insertAll (fs.filterMap nodeOf?)⟩ := by
  induction fs generalizing p with
  | nil => rfl
  | cons f fs ih =>
    rw [List.foldl_cons, ih, addField_eq, List.filterMap_cons]
    cases nodeOf? f <;> rfl

theorem filterMap_nodeOf_fields {p : Prompt} (h : ∀ id ∈ p.ids, id ∉ reservedKeys) :
    p.fields.filterMap nodeOf? = p.nodes.entries := by
  have hread : ∀ e ∈ p.nodes.entries, nodeOf? (e.1, e.2.toJson) = some e := by
    intro e he
    rw [nodeOf?, if_neg (h e.1 (List.mem_map_of_mem he)), PromptNode.decode_toJson]
    rfl
  rw [fields, List.filterMap_map]
  refine (List.filterMap_congr hread).trans ?_
  simp

theorem ofFields_fields {p : Prompt} (h : ∀ id ∈ p.ids, id ∉ reservedKeys) :
    ofFields p.fields = p := by
  rw [ofFields, foldl_addField_eq, filterMap_nodeOf_fields h]
  exact congrArg Prompt.mk p.nodes.ofList_entries

theorem keys_fields (p : Prompt) : Entries.keys p.fields = p.ids := by
  simp [fields, ids, OrderedMap.keys, Entries.keys, Function.comp_def]

theorem isRequestEntry_toJson (n : PromptNode) : Dialect.isRequestEntry n.toJson = true := by
  obtain ⟨_, _, _ | _⟩ := n <;> rfl

theorem contains_fields_eq_false {p : Prompt} {key : String} (h : ∀ id ∈ p.ids, id ≠ key) :
    Entries.contains p.fields key = false := by
  rw [Bool.eq_false_iff]
  intro hc
  rw [Entries.contains_iff, keys_fields] at hc
  exact h key hc rfl

/-- The payload of a prompt with an entry is a request document. -/
theorem detect_fields {p : Prompt} (h : Dialect.Unmarked p.ids) (hne : p.ids ≠ []) :
    Dialect.detect p.fields = .request := by
  have hn := contains_fields_eq_false fun id hid => (h id hid).1
  have hl := contains_fields_eq_false fun id hid => (h id hid).2.1
  cases he : p.nodes.entries with
  | nil => exact absurd (by simp [ids, OrderedMap.keys, he]) hne
  | cons e es =>
    have hmem : e.1 ∈ p.ids := by simp [ids, OrderedMap.keys, he]
    have hr : reservedKeys.contains e.1 = false := by simpa using (h e.1 hmem).2.2
    have hf : p.fields = (e.1, e.2.toJson) :: es.map fun e => (e.1, e.2.toJson) := by
      rw [fields, he, List.map_cons]
    rw [Dialect.detect, hn, hl, hf, List.find?_cons_of_pos (by simpa using hr)]
    simp [isRequestEntry_toJson]

end Prompt

theorem Loading.ofJson_toJson (o : Options) {p : Prompt} (h : Dialect.Unmarked p.ids) :
    ofJson o p.toJson = ofPrompt p := by
  have hr : ∀ id ∈ p.ids, id ∉ reservedKeys := fun id hid => (h id hid).2.2
  by_cases hne : p.ids = []
  · have he : p.nodes.entries = [] := List.map_eq_nil_iff.1 hne
    have hp : p = .empty := congrArg Prompt.mk (OrderedMap.ext he)
    subst hp
    rfl
  · simp only [ofJson, Document.ofJson, Prompt.toJson_eq, Document.ofFields,
      Prompt.detect_fields h hne, ofDocument, Prompt.ofFields_fields hr]

end PromptGraph
