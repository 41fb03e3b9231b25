import PromptGraph.Proofs.LoadedEditor
import PromptGraph.Proofs.Reloading
import PromptGraph.Schema.Cache

/-!
# Translating editor documents

The compiled prompt of an editor document says all that the document did: it loads as the same
graph, with literals for widget values, and compiles to itself (`editor_translation_fixed`). The
ids have to be integers, whose texts are no keys of a document, and the prefix of a save node has
to be taken as it stands, since making it clean twice may change it twice.
-/

namespace PromptGraph

open Compiler PromptGraph.Graph

/-! ## The nodes of a loaded editor document -/

/-- The texts of integers are taken for ids. -/
theorem Dialect.unmarked_of_written {ids : List NodeId}
    (h : ∀ id ∈ ids, ∃ i : Int, id = toString i) : Dialect.Unmarked ids := by
  intro id hid
  obtain ⟨i, rfl⟩ := h id hid
  have hc := (NodeId.written_int i).2
  refine ⟨fun he => ?_, fun he => ?_, fun hr => ?_⟩
  · rw [he] at hc
    exact absurd (hc 'n' (by decide)) (by decide)
  · rw [he] at hc
    exact absurd (hc 'l' (by decide)) (by decide)
  · rw [List.mem_singleton.1 hr] at hc
    exact absurd (hc '_' (by decide)) (by decide)

namespace Loading

variable {o : Options} {fields : List (String × Json)}
  (h : ∀ r ∈ (EditorDocument.ofFields fields).nodes, ∃ i, r.id = .int i)

include h

theorem written_ids_ofEditor :
    ∀ id ∈ (ofEditor o (.ofFields fields)).ids, ∃ i : Int, id = toString i := by
  intro id hid
  obtain ⟨n, hn, rfl⟩ := List.mem_map.1 hid
  obtain ⟨r, hr, hk, -⟩ := mem_ofEditor hn
  obtain ⟨i, hi⟩ := h r hr
  rw [EditorNode.key?, hi] at hk
  exact ⟨i, (Option.some.inj hk).symm⟩

theorem portable_ofEditor {n : Node} (hn : n ∈ (ofEditor o (.ofFields fields)).nodes) :
    n.Portable (ofEditor o (.ofFields fields)).ids := by
  obtain ⟨r, -, -, position, he⟩ := mem_ofEditor hn
  rw [he]
  refine ⟨Node.typeName_named_ne_empty n.id r.resolvedType, usefulTitle_ne_empty r.title, ?_,
    (by rintro k ⟨⟩), (by rintro i ⟨⟩)⟩
  intro i hi
  obtain ⟨p, hp, hi⟩ := List.mem_filterMap.1 (OrderedMap.mem_of_mem_ofList hi)
  split at hi
  · next hs =>
    cases hi
    obtain ⟨j, hj⟩ := written_ids_ofEditor h _ hs.2
    exact ⟨⟨hj ▸ (NodeId.written_int j).1, slot_lt_of_mem_resolvedLinks hp⟩, hs.2⟩
  · cases hi

end Loading

/-! ## Translating twice -/

theorem Node.Reloaded.entry_eq {o : CompilerOptions} (ho : o.sanitizePrefix = false)
    {specs : List InputSpec} {n n' : Node} (h : n.Reloaded o specs n')
    (ha : ∀ k ∈ n.overrides.keys, k ∉ n.connections.keys) :
    entry o [] n' = entry o specs n := by
  have ha' : ∀ k ∈ n'.overrides.keys, k ∉ n'.connections.keys := by
    rw [h.overrides, h.connections]
    exact notMem_connections ha o specs
  have hl : finalLiterals o [] n' = finalLiterals o specs n := by
    rw [finalLiterals, literals_of_values_eq_nil h.values, h.typeName, h.connections, h.overrides,
      finalLiterals]
    split
    · exact applyPrefix_idem ho _
    · rfl
  have hi : nodeInputs o [] n' = nodeInputs o specs n := by
    refine OrderedMap.ext ?_
    rw [nodeInputs_entries ha', nodeInputs_entries ha, hl, written, written, h.connections]
  rw [entry, entry, hi, h.typeName, h.title]

section

variable {o : CompilerOptions} {specs : Node → List InputSpec} {g g' : Graph}
  (h : List.Forall₂ (fun n n' => n.Reloaded o (specs n) n') g.nodes g'.nodes)

include h

theorem Graph.values_of_reloaded {n' : Node} (hn : n' ∈ g'.nodes) : n'.values = [] := by
  obtain ⟨i, hi, rfl⟩ := List.getElem_of_mem hn
  rw [List.forall₂_iff_get] at h
  exact (h.2 i (h.1 ▸ hi) hi).values

theorem Graph.payload_of_reloaded (ho : o.sanitizePrefix = false)
    (ha : ∀ n ∈ g.nodes, ∀ k ∈ n.overrides.keys, k ∉ n.connections.keys) :
    payload o (fun _ => []) g' = payload o specs g := by
  have he : entriesOf o (fun _ => []) g'.nodes = entriesOf o specs g.nodes := by
    rw [List.forall₂_iff_get] at h
    refine List.ext_getElem (by simp [entriesOf, h.1]) fun i hi' hi => ?_
    simp only [entriesOf, List.length_map] at hi hi'
    have hr := h.2 i hi hi'
    simp only [List.get_eq_getElem] at hr
    simp only [entriesOf, List.getElem_map, hr.id, hr.entry_eq ho (ha _ (List.getElem_mem hi))]
  rw [payload, he, payload]

/-- A reloaded graph compiles to what it was loaded from, and asks for no schema. -/
theorem Graph.compile_of_reloaded {m : Type → Type} [Monad m] [LawfulMonad m]
    (lookup : String → m (List InputSpec)) (ho : o.strict = false) (hp : o.sanitizePrefix = false)
    (ha : ∀ n ∈ g.nodes, ∀ k ∈ n.overrides.keys, k ∉ n.connections.keys) :
    compile lookup o g' = pure (.ok (payload o specs g)) := by
  rw [← payload_of_reloaded h hp ha]
  exact compile_eq ho fun n' hn' => specsOf_of_values_eq_nil (values_of_reloaded h hn')

end

/-- `n'` is what `n` is, and its overrides are the inputs of the node's entry in `p` that are not
wired. -/
structure Node.Translated (p : Prompt) (n n' : Node) : Prop extends n.Alike n' where
  overrides : ∃ e, p.nodes.get? n.id = some e ∧
    n'.overrides.entries = e.inputs.entries.filter fun i => i.1 ∉ n.connections.keys

theorem Node.Reloaded.translated {o : CompilerOptions} {specs : Node → List InputSpec} {g : Graph}
    (hg : g.ids.Nodup) {n n' : Node} (hn : n ∈ g.nodes) (h : n.Reloaded o (specs n) n')
    (ha : ∀ k ∈ n.overrides.keys, k ∉ n.connections.keys) :
    n.Translated (payload o specs g) n' where
  toAlike := h.toAlike
  overrides := by
    refine ⟨entry o (specs n) n, OrderedMap.get?_of_mem ?_, ?_⟩
    · rw [entries_payload hg]
      exact List.mem_map.2 ⟨n, hn, rfl⟩
    · have hw : (written n).entries.filter (fun i => i.1 ∉ n.connections.keys) = [] := by
        rw [List.filter_eq_nil_iff]
        intro i hi
        have hk : i.1 ∈ n.connections.keys := keys_entries_written n ▸ List.mem_map_of_mem hi
        simpa using hk
      have hl : (finalLiterals o (specs n) n).entries.filter
          (fun i => i.1 ∉ n.connections.keys) = (finalLiterals o (specs n) n).entries := by
        rw [List.filter_eq_self]
        intro i hi
        exact decide_eq_true (notMem_connections ha o (specs n) i.1 (List.mem_map_of_mem hi))
      rw [h.overrides, entry, nodeInputs_entries ha, List.filter_append, hw, hl, List.nil_append]

/-- **Translation is a fixed point.** An editor document with integer ids compiles, whatever
schemas say; its prompt loads as the same graph with the literals for overrides, and compiling that
graph gives the prompt again, without asking for a schema. -/
theorem editor_translation_fixed {σ : Type} (lookup : String → StateM σ (List InputSpec))
    {o : CompilerOptions} (ho : o.strict = false) (hp : o.sanitizePrefix = false)
    (loading : Loading.Options) {fields : List (String × Json)}
    (hd : Dialect.detect fields = .editor)
    (hi : ∀ r ∈ (EditorDocument.ofFields fields).nodes, ∃ i, r.id = .int i) (s : σ) :
    let g := Loading.ofJson loading (.object fields)
    ∃ p s', (compile lookup o g).run s = (.ok p, s') ∧
      let g' := Loading.ofJson loading p.toJson
      g'.ids = g.ids ∧ List.Forall₂ (Node.Translated p) g.nodes g'.nodes ∧
        compile lookup o g' = pure (.ok p) := by
  intro g
  have hg : g = Loading.ofEditor loading (.ofFields fields) := by
    simp only [g, Loading.ofJson, Document.ofJson, Document.ofFields, hd, Loading.ofDocument]
  have hx : Indexed g := hg ▸ Loading.indexed_ofEditor loading _
  have hu : Dialect.Unmarked g.ids :=
    Dialect.unmarked_of_written (hg ▸ Loading.written_ids_ofEditor hi)
  have hport : ∀ n ∈ g.nodes, n.Portable g.ids := by
    rw [hg]
    exact fun n => Loading.portable_ofEditor hi
  obtain ⟨specs, s', hrun⟩ := compile_run lookup ho hx.nodup s
  obtain ⟨-, hr⟩ := hx.reload hu hport o specs loading
  refine ⟨payload o specs g, s', hrun, ids_of_reloaded hr, ?_, ?_⟩
  · rw [List.forall₂_iff_get] at hr ⊢
    refine ⟨hr.1, fun i h₁ h₂ => ?_⟩
    have hmem : g.nodes[i] ∈ g.nodes := List.getElem_mem h₁
    exact (hr.2 i h₁ h₂).translated hx.nodup hmem (hport _ hmem).apart
  · exact compile_of_reloaded hr lookup ho hp fun n hn => (hport n hn).apart

/-- A sampler with two values that fill inputs and one that fills none, wired to a save node whose
prefix is missing; a note that only the editor shows, and a link that leads nowhere. -/
theorem editor_translation_fixed_of_sampler :
    let fields : List (String × Json) := [
      ("nodes", .array [
        .object [("id", .int 3), ("type", .text "KSampler"),
          ("outputs", .array [.object [("name", .text "LATENT"), ("slot_index", .int 2)]]),
          ("widgets_values", .array [.int 7, .text "fixed", .text "euler"])],
        .object [("id", .int 5), ("type", .text "Note")],
        .object [("id", .int (-9)), ("type", .text "SaveImage"), ("title", .text "Save"),
          ("inputs", .array [.object [("name", .text "images"), ("link", .int 1)]])]]),
      ("links", .array [
        .array [.int 1, .int 3, .int 0, .int (-9), .int 0, .text "IMAGE"],
        .array [.int 2, .int 5, .int 0, .int (-9), .int 0, .text "IMAGE"]])]
    let schema : Json := .object [("KSampler", .object [("input", .object [("required", .object [
      ("seed", .array [.text "INT"]), ("sampler_name", .array [.text "STRING"])])])])]
    let lookup := Session.inputs (.inline "nodes" schema)
    let s : Session := { outside := { files := .ofRoot "" } }
    let o : CompilerOptions := { sanitizePrefix := false }
    let g := Loading.ofJson {} (.object fields)
    Dialect.detect fields = .editor ∧ ∃ p s', (compile lookup o g).run s = (.ok p, s') ∧
      let g' := Loading.ofJson {} p.toJson
      g'.ids = g.ids ∧ List.Forall₂ (Node.Translated p) g.nodes g'.nodes ∧
        compile lookup o g' = pure (.ok p) := by
  intro fields schema lookup s o g
  have hids : (EditorDocument.ofFields fields).nodes.map EditorNode.id =
      [.int 3, .int 5, .int (-9)] := by decide
  refine ⟨by decide, editor_translation_fixed lookup rfl rfl {} (by decide) (fun r hr => ?_) _⟩
  have hm := List.mem_map_of_mem (f := EditorNode.id) hr
  rw [hids] at hm
  simp only [List.mem_cons, List.not_mem_nil, or_false] at hm
  rcases hm with h | h | h <;> exact ⟨_, h⟩

end PromptGraph
