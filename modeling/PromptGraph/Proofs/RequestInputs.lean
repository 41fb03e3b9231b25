import Mathlib.Data.List.Perm.Basic
import PromptGraph.Proofs.PatchEffect
import PromptGraph.Proofs.PromptReading
import PromptGraph.Proofs.RoundTrip

/-!
# Where the inputs of a request document end up

Loading keeps each input of an entry in one place (`Placed`): a connection from an entry of the
document is wired, a connection from anything else is dropped, and any other value is an override
as it is written. Neither this nor the graph depends on how the entries and the inputs within them
are ordered (`request_inputs_placed`).
-/

namespace PromptGraph

open PromptGraph.Graph

/-! ## The places of inputs -/

namespace Loading

/-- Where a node has the value of an input of its entry: in one of three places. -/
inductive Placed (sources : List NodeId) (n : Node) (input : String) (v : Json) : Prop
  | wired (c : Connection) (hv : Connection.ofJson? v = some c) (hs : c.source ∈ sources)
      (hc : n.connections.get? input = some c) (ho : n.overrides.get? input = none)
  | dropped (c : Connection) (hv : Connection.ofJson? v = some c) (hs : c.source ∉ sources)
      (hc : n.connections.get? input = none) (ho : n.overrides.get? input = none)
  | literal (hv : Connection.ofJson? v = none)
      (hc : n.connections.get? input = none) (ho : n.overrides.get? input = some v)

variable {sources : List NodeId} {position : Nat} {id : NodeId} {e : PromptNode}

theorem get?_connections_loadedEntry (input : String) :
    (loadedEntry sources position id e).connections.get? input =
      (e.inputs.get? input).bind fun v =>
        (Connection.ofJson? v).filter fun c => decide (c.source ∈ sources) := by
  have hr : resolvedInputs sources e = e.inputs.entries.filterMap fun i =>
      ((Connection.ofJson? i.2).filter fun c => decide (c.source ∈ sources)).map (i.1, ·) := by
    rw [resolvedInputs, wiredInputs, List.filter_filterMap]
    refine List.filterMap_congr fun i _ => ?_
    rw [Option.filter_map]
    rfl
  have hn : (Entries.keys (resolvedInputs sources e)).Nodup :=
    hr ▸ e.inputs.nodup.sublist (Entries.keys_filterMap_sublist _ _)
  refine (OrderedMap.get?_ofList_of_nodup hn input).trans ?_
  rw [hr]
  exact Entries.get?_filterMap e.inputs.nodup _ input

theorem get?_overrides_loadedEntry (input : String) :
    (loadedEntry sources position id e).overrides.get? input =
      (e.inputs.get? input).filter fun v => (Connection.ofJson? v).isNone := by
  have hn : (Entries.keys (literalInputs e)).Nodup := Entries.nodup_filter e.inputs.nodup _
  refine (OrderedMap.get?_ofList_of_nodup hn input).trans ?_
  exact Entries.get?_filter e.inputs.nodup _ input

theorem placed_loadedEntry {input : String} {v : Json} (hv : e.inputs.get? input = some v) :
    Placed sources (loadedEntry sources position id e) input v := by
  cases hj : Connection.ofJson? v with
  | none =>
    refine .literal hj ?_ ?_
    · rw [get?_connections_loadedEntry, hv, Option.bind_some, hj, Option.filter_none]
    · simp [get?_overrides_loadedEntry, hv, hj, Option.filter_some]
  | some c =>
    have ho : (loadedEntry sources position id e).overrides.get? input = none := by
      simp [get?_overrides_loadedEntry, hv, hj, Option.filter_some]
    by_cases hs : c.source ∈ sources
    · refine .wired c hj hs ?_ ho
      simp [get?_connections_loadedEntry, hv, hj, hs, Option.filter_some]
    · refine .dropped c hj hs ?_ ho
      simp [get?_connections_loadedEntry, hv, hj, hs, Option.filter_some]

theorem unplaced_loadedEntry {input : String} (hv : e.inputs.get? input = none) :
    (loadedEntry sources position id e).connections.get? input = none ∧
      (loadedEntry sources position id e).overrides.get? input = none := by
  rw [get?_connections_loadedEntry, get?_overrides_loadedEntry, hv]
  exact ⟨rfl, rfl⟩

theorem node?_ofPrompt {p : Prompt} (h : p.get? id = some e) :
    ∃ position, (ofPrompt p).node? id = some (loadedEntry p.ids position id e) := by
  obtain ⟨hi, hn⟩ := nodes_ofPrompt p
  obtain ⟨position, hp⟩ := List.mem_iff_getElem?.1 (OrderedMap.mem_entries_iff.2 h)
  refine ⟨position, hi.node?_eq_some_iff.2 ⟨?_, rfl⟩⟩
  rw [hn]
  exact List.mem_map.2 ⟨((id, e), position), List.mem_zipIdx_iff_getElem?.2 hp, rfl⟩

end Loading

/-! ## Reordered documents -/

/-- Where entries have related values under the same keys, a lookup finds related values. -/
theorem Entries.exists_get?_of_forall₂ {V W : Type} {R : V → W → Prop} {es : Entries V}
    {fs : Entries W} (h : List.Forall₂ (fun p q => q.1 = p.1 ∧ R p.2 q.2) es fs) {key : String}
    {v : V} (hv : es.get? key = some v) : ∃ w, fs.get? key = some w ∧ R v w := by
  induction h with
  | nil => cases hv
  | @cons p q _ _ hp _ ih =>
    rw [get?_cons] at hv
    rw [get?_cons, hp.1]
    split at hv
    · next hk =>
      obtain rfl := Option.some.inj hv
      exact ⟨q.2, if_pos hk, hp.2⟩
    · next hk =>
      rw [if_neg hk]
      exact ih hv

/-- The values are the same but for the order of the inputs of an entry. -/
inductive Prompt.SameEntry : Json → Json → Prop
  | same (j : Json) : SameEntry j j
  | fields (before after : Entries Json) {inputs inputs' : OrderedMap Json}
      (h : inputs.entries.Perm inputs'.entries) :
      SameEntry (.object (before ++ ("inputs", .object inputs.entries) :: after))
        (.object (before ++ ("inputs", .object inputs'.entries) :: after))
  | items (classType : Json) (rest : List Json) {inputs inputs' : OrderedMap Json}
      (h : inputs.entries.Perm inputs'.entries) :
      SameEntry (.array (classType :: .object inputs.entries :: rest))
        (.array (classType :: .object inputs'.entries :: rest))

/-- The documents are the same but for the order of the entries and of the inputs of each. -/
def Prompt.Shuffled (fs fs' : OrderedMap Json) : Prop :=
  ∃ es : Entries Json, List.Forall₂ (fun f e => e.1 = f.1 ∧ SameEntry f.2 e.2) fs.entries es ∧
    es.Perm fs'.entries

namespace Decode

/-- Steps that take related states to related states do so in runs. -/
theorem foldlM_sim {ε σ α : Type} {step : σ → α → Except ε σ} {R : σ → σ → Prop}
    (hstep : ∀ s s' a t, R s s' → step s a = .ok t → ∃ t', step s' a = .ok t' ∧ R t t')
    {as : List α} {s s' t : σ} (hs : R s s') (h : as.foldlM step s = .ok t) :
    ∃ t', as.foldlM step s' = .ok t' ∧ R t t' := by
  induction as generalizing s s' with
  | nil =>
    cases h
    exact ⟨s', rfl, hs⟩
  | cons a as ih =>
    rw [List.foldlM_cons, bind_eq_ok] at h
    obtain ⟨r, hr, h⟩ := h
    obtain ⟨r', hr', hrel⟩ := hstep s s' a r hs hr
    obtain ⟨t', ht', hrel'⟩ := ih hrel h
    exact ⟨t', by rw [List.foldlM_cons, bind_eq_ok]; exact ⟨r', hr', ht'⟩, hrel'⟩

/-- Runs that differ in one step with related outcomes are related in the end. -/
theorem foldlM_sim_of_step {ε σ α : Type} {step : σ → α → Except ε σ} {R : σ → σ → Prop}
    {a b : α} {before after : List α} {s t : σ}
    (h : (before ++ a :: after).foldlM step s = .ok t)
    (ha : ∀ s t, step s a = .ok t → ∃ t', step s b = .ok t' ∧ R t t')
    (hstep : ∀ s s' c t, R s s' → step s c = .ok t → ∃ t', step s' c = .ok t' ∧ R t t') :
    ∃ t', (before ++ b :: after).foldlM step s = .ok t' ∧ R t t' := by
  simp only [List.foldlM_append, List.foldlM_cons, bind_eq_ok] at h ⊢
  obtain ⟨r, hr, u, hu, h⟩ := h
  obtain ⟨u', hu', hrel⟩ := ha r u hu
  obtain ⟨t', ht', hrel'⟩ := foldlM_sim hstep hrel h
  exact ⟨t', ⟨r, hr, u', hu', ht'⟩, hrel'⟩

end Decode

open Decode

namespace PromptNode

theorem Agree.refl (e : PromptNode) : e.Agree e := ⟨rfl, rfl, fun _ => rfl⟩

/-- Takes up a field of an entry. -/
def readField (e : PromptNode) (key : String) (j : Json) : Except DecodeError PromptNode :=
  match key with
  | "class_type" => (text j).map fun s => { e with classType := s }
  | "inputs" => (table any j).map fun m => { e with inputs := m }
  | _ => (optional PromptMeta.decode j).map fun m => { e with details := m }

theorem decode_eq_fold : decode = form.fold readField {} := rfl

theorem Agree.readField {e e' t : PromptNode} (h : e.Agree e') {key : String} {j : Json}
    (ht : e.readField key j = .ok t) : ∃ t', e'.readField key j = .ok t' ∧ t.Agree t' := by
  unfold PromptNode.readField at ht ⊢
  split at ht
  · obtain ⟨s, hs, rfl⟩ := map_eq_ok.1 ht
    exact ⟨_, map_eq_ok.2 ⟨s, hs, rfl⟩, rfl, h.details, h.inputs⟩
  · obtain ⟨m, hm, rfl⟩ := map_eq_ok.1 ht
    exact ⟨_, map_eq_ok.2 ⟨m, hm, rfl⟩, h.classType, h.details, fun _ => rfl⟩
  · obtain ⟨m, hm, rfl⟩ := map_eq_ok.1 ht
    exact ⟨_, map_eq_ok.2 ⟨m, hm, rfl⟩, h.classType, rfl, h.inputs⟩

theorem agree_readField_inputs {inputs inputs' : OrderedMap Json}
    (h : inputs.entries.Perm inputs'.entries) {e t : PromptNode}
    (ht : e.readField "inputs" (.object inputs.entries) = .ok t) :
    ∃ t', e.readField "inputs" (.object inputs'.entries) = .ok t' ∧ t.Agree t' := by
  obtain ⟨m, hm, rfl⟩ := map_eq_ok.1 ht
  rw [table_any] at hm
  obtain rfl := Except.ok.inj hm
  exact ⟨_, map_eq_ok.2 ⟨_, table_any _, rfl⟩, rfl, rfl, Entries.get?_eq_of_perm inputs.nodup h⟩

/-- Entries that are the same but for the order of their inputs decode to entries that agree. -/
theorem decode_sim {j j' : Json} (h : Prompt.SameEntry j j') {e : PromptNode}
    (he : decode j = .ok e) : ∃ e', decode j' = .ok e' ∧ e.Agree e' := by
  rw [decode_eq_fold] at he ⊢
  cases h with
  | same => exact ⟨e, he, .refl e⟩
  | fields before after h =>
    refine foldlM_sim_of_step he (fun s t ht => agree_readField_inputs h ht) ?_
    intro s s' p t hs ht
    split at ht
    · next hc =>
      rw [if_pos hc]
      exact hs.readField ht
    · next hc =>
      obtain rfl := Except.ok.inj ht
      exact ⟨s', if_neg hc, hs⟩
  | @items classType rest inputs inputs' h =>
    obtain ⟨s, hs, hlen⟩ := bind_eq_ok.1 he
    -- items stand for the fields in order
    have hrun : ([("class_type", classType)] ++ ("inputs", Json.object inputs.entries) ::
        ["_meta"].zip rest).foldlM (fun s p => readField s p.1 p.2) {} = .ok s := hs
    obtain ⟨s', hs', hrel⟩ := foldlM_sim_of_step (b := ("inputs", _)) hrun
      (fun s t ht => agree_readField_inputs h ht)
      (fun s s' p t (hs : s.Agree s') ht => hs.readField ht)
    split at hlen
    · cases hlen
    · next h0 =>
      split at hlen
      · cases hlen
      · next h1 =>
        obtain rfl := Except.ok.inj hlen
        exact ⟨s', bind_eq_ok.2 ⟨s', hs', (if_neg h0).trans (if_neg h1)⟩, hrel⟩

theorem Agree.title {e e' : PromptNode} (h : e.Agree e') : e'.title = e.title := by
  rw [PromptNode.title, PromptNode.title, h.details]

end PromptNode

namespace Prompt

/-- The document has the entry under the id: the key is not reserved, and the value decodes. -/
def Entered (fs : OrderedMap Json) (id : NodeId) (e : PromptNode) : Prop :=
  id ∉ reservedKeys ∧ ∃ j, fs.get? id = some j ∧ PromptNode.decode j = .ok e

/-- **Lenient reading** finds the entries of the document. -/
theorem get?_ofFields_eq_some_iff {fs : OrderedMap Json} {id : NodeId} {e : PromptNode} :
    (ofFields fs.entries).get? id = some e ↔ Entered fs id e := by
  have hget : (ofFields fs.entries).get? id = (fs.get? id).bind fun j =>
      if id ∈ reservedKeys then none else (PromptNode.decode j).toOption := by
    rw [get?, OrderedMap.get?, ofFields_entries, funext nodeOf?_eq]
    exact Entries.get?_filterMap fs.nodup _ id
  have hok (j : Json) : (PromptNode.decode j).toOption = some e ↔ PromptNode.decode j = .ok e := by
    cases PromptNode.decode j <;> simp [Except.toOption]
  rw [hget, Option.bind_eq_some_iff, Entered]
  by_cases hr : id ∈ reservedKeys
  · simp [hr]
  · simp [hr, hok]

theorem mem_ids_ofFields {fs : OrderedMap Json} {id : NodeId} :
    id ∈ (ofFields fs.entries).ids ↔ ∃ e, Entered fs id e := by
  simp only [← get?_ofFields_eq_some_iff]
  exact OrderedMap.get?_isSome_iff.symm.trans Option.isSome_iff_exists

theorem SameEntry.symm {j j' : Json} (h : SameEntry j j') : SameEntry j' j := by
  cases h with
  | same => exact .same j
  | fields before after h => exact .fields before after h.symm
  | items classType rest h => exact .items classType rest h.symm

theorem Shuffled.symm {fs fs' : OrderedMap Json} (h : Shuffled fs fs') : Shuffled fs' fs := by
  obtain ⟨es, hes, hp⟩ := h
  have hback : List.Forall₂ (fun e f => f.1 = e.1 ∧ SameEntry e.2 f.2) es fs.entries :=
    hes.flip.imp fun _ _ h => ⟨h.1.symm, h.2.symm⟩
  exact List.perm_comp_forall₂ hp.symm hback

theorem Entered.of_shuffled {fs fs' : OrderedMap Json} {id : NodeId} {e : PromptNode}
    (he : Entered fs id e) (h : Shuffled fs fs') : ∃ e', Entered fs' id e' ∧ e.Agree e' := by
  obtain ⟨hr, j, hj, hd⟩ := he
  obtain ⟨es, hes, hp⟩ := h
  obtain ⟨j', hj', hs⟩ := Entries.exists_get?_of_forall₂ hes hj
  obtain ⟨e', hd', hagree⟩ := PromptNode.decode_sim hs hd
  have hget : fs'.get? id = some j' := (Entries.get?_eq_of_perm fs'.nodup hp.symm id).symm.trans hj'
  exact ⟨e', ⟨hr, j', hget, hd'⟩, hagree⟩

theorem Shuffled.mem_ids_iff {fs fs' : OrderedMap Json} (h : Shuffled fs fs') {id : NodeId} :
    id ∈ (ofFields fs'.entries).ids ↔ id ∈ (ofFields fs.entries).ids := by
  rw [mem_ids_ofFields, mem_ids_ofFields]
  constructor
  · rintro ⟨e, he⟩
    obtain ⟨e', he', -⟩ := he.of_shuffled h.symm
    exact ⟨e', he'⟩
  · rintro ⟨e, he⟩
    obtain ⟨e', he', -⟩ := he.of_shuffled h
    exact ⟨e', he'⟩

end Prompt

/-! ## Graphs of reordered documents -/

/-- The nodes are the same but for the order of what they are given. -/
structure Node.Same (n n' : Node) : Prop where
  id : n'.id = n.id
  typeName : n'.typeName = n.typeName
  title : n'.title = n.title
  connections : ∀ input, n'.connections.get? input = n.connections.get? input
  overrides : ∀ input, n'.overrides.get? input = n.overrides.get? input

namespace Loading

theorem same_loadedEntry {sources sources' : List NodeId}
    (hs : ∀ id, id ∈ sources' ↔ id ∈ sources) {e e' : PromptNode} (h : e.Agree e')
    (position position' : Nat) (id : NodeId) :
    (loadedEntry sources position id e).Same (loadedEntry sources' position' id e') where
  id := rfl
  typeName := congrArg (fun t => (Node.named id t).typeName) h.classType
  title := congrArg usefulTitle h.title
  connections := by
    intro input
    simp only [get?_connections_loadedEntry, h.inputs, hs]
  overrides := by
    intro input
    simp only [get?_overrides_loadedEntry, h.inputs]

open Prompt

theorem entered_of_node? {fs : OrderedMap Json} {id : NodeId} {n : Node}
    (h : (ofPrompt (.ofFields fs.entries)).node? id = some n) : ∃ e, Entered fs id e ∧
      ∃ position, n = loadedEntry (ofFields fs.entries).ids position id e := by
  obtain ⟨hm, rfl⟩ := (nodes_ofPrompt _).1.node?_eq_some_iff.1 h
  have hid : n.id ∈ (ofPrompt (.ofFields fs.entries)).ids := List.mem_map_of_mem hm
  rw [ids_ofPrompt, mem_ids_ofFields] at hid
  obtain ⟨e, he⟩ := hid
  obtain ⟨position, hn⟩ := node?_ofPrompt (get?_ofFields_eq_some_iff.2 he)
  exact ⟨e, he, position, Option.some.inj (h.symm.trans hn)⟩

/-- **Loading a request document** makes a node of each entry that is not reserved and decodes. Each
input of the entry ends up in one place, whatever it refers to, and nothing else does. When the
entries of the document and the inputs within them are reordered, the ids are the same, and so are
type, title, connections and overrides under each. -/
theorem request_inputs_placed (fs : OrderedMap Json) :
    let g := ofPrompt (.ofFields fs.entries)
    (∀ id, id ∈ g.ids ↔ ∃ e, Entered fs id e) ∧
    (∀ id e, Entered fs id e → ∃ n, g.node? id = some n ∧
      (∀ input v, e.inputs.get? input = some v → Placed g.ids n input v) ∧
      ∀ input, e.inputs.get? input = none →
        n.connections.get? input = none ∧ n.overrides.get? input = none) ∧
    ∀ fs', Shuffled fs fs' →
      let g' := ofPrompt (.ofFields fs'.entries)
      g'.ids.Perm g.ids ∧
        ∀ id n, g.node? id = some n → ∃ n', g'.node? id = some n' ∧ n.Same n' := by
  intro g
  have hids : g.ids = (ofFields fs.entries).ids := ids_ofPrompt _
  refine ⟨fun id => hids ▸ mem_ids_ofFields, fun id e he => ?_, fun fs' hf => ?_⟩
  · obtain ⟨position, hn⟩ := node?_ofPrompt (get?_ofFields_eq_some_iff.2 he)
    exact ⟨_, hn, fun input v hv => hids ▸ placed_loadedEntry hv,
      fun input hv => unplaced_loadedEntry hv⟩
  · intro g'
    have hids' : g'.ids = (ofFields fs'.entries).ids := ids_ofPrompt _
    refine ⟨?_, fun id n hn => ?_⟩
    · rw [hids, hids']
      exact (List.perm_ext_iff_of_nodup (OrderedMap.nodup _) (OrderedMap.nodup _)).2
        fun id => hf.mem_ids_iff
    · obtain ⟨e, he, position, rfl⟩ := entered_of_node? hn
      obtain ⟨e', he', hagree⟩ := he.of_shuffled hf
      obtain ⟨position', hn'⟩ := node?_ofPrompt (get?_ofFields_eq_some_iff.2 he')
      exact ⟨_, hn', same_loadedEntry (fun _ => hf.mem_ids_iff) hagree position position' id⟩

/-- Entries that refer to each other, one of them written as an array, and one that refers to
itself, to a reserved key and to a text. -/
theorem request_inputs_placed_of_sampler :
    let sampler (inputs : List (String × Json)) : Json :=
      .object ([("class_type", .text "KSampler")] ++ [("inputs", .object inputs)])
    let loader (inputs : List (String × Json)) : Json :=
      .array [.text "CheckpointLoaderSimple", .object inputs]
    let inputs : OrderedMap Json := .ofList [("model", .array [.text "4", .int 0]),
      ("seed", .int 7), ("latent", .array [.int 3, .text " 1 "]),
      ("vae", .array [.text "_defaults", .int 0]), ("note", .array [.text "9", .int 0]),
      ("size", .array [.int 512, .int 512, .int 1])]
    let wired : OrderedMap Json := .ofList [("ckpt", .text "a"), ("from", .array [.int 3, .int 0])]
    let fs : OrderedMap Json := .ofList [("3", sampler inputs.entries), ("_defaults", sampler []),
      ("4", loader wired.entries), ("9", .text "note")]
    let inputs' : OrderedMap Json := .ofList inputs.entries.reverse
    let wired' : OrderedMap Json := .ofList wired.entries.reverse
    let fs' : OrderedMap Json := .ofList [("9", .text "note"), ("4", loader wired'.entries),
      ("3", sampler inputs'.entries), ("_defaults", sampler [])]
    let g := ofPrompt (.ofFields fs.entries)
    let g' := ofPrompt (.ofFields fs'.entries)
    let e : PromptNode := ⟨"KSampler", inputs, none⟩
    Entered fs "3" e ∧ Shuffled fs fs' ∧ g'.ids.Perm g.ids ∧
      ∃ n n', g.node? "3" = some n ∧ g'.node? "3" = some n' ∧ n.Same n' ∧
        Placed g.ids n "latent" (.array [.int 3, .text " 1 "]) ∧
        n.connections.get? "steps" = none ∧ n.overrides.get? "steps" = none := by
  intro sampler loader inputs wired fs inputs' wired' fs' g g' e
  have he : Entered fs "3" e := ⟨by decide, sampler inputs.entries, by decide, by decide⟩
  have hf : Shuffled fs fs' := by
    have hinputs : inputs.entries.Perm inputs'.entries := by decide
    have hwired : wired.entries.Perm wired'.entries := by decide
    refine ⟨[("3", sampler inputs'.entries), ("_defaults", sampler []),
      ("4", loader wired'.entries), ("9", .text "note")], ?_, by decide⟩
    exact .cons ⟨rfl, .fields [("class_type", .text "KSampler")] [] hinputs⟩
      (.cons ⟨rfl, .same _⟩ (.cons ⟨rfl, .items (.text "CheckpointLoaderSimple") [] hwired⟩
        (.cons ⟨rfl, .same _⟩ .nil)))
  obtain ⟨-, hplaced, hshuffled⟩ := request_inputs_placed fs
  obtain ⟨n, hn, hin, hout⟩ := hplaced "3" e he
  obtain ⟨hperm, hsame⟩ := hshuffled fs' hf
  obtain ⟨n', hn', hs⟩ := hsame "3" n hn
  obtain ⟨hc, ho⟩ := hout "steps" (by decide)
  exact ⟨he, hf, hperm, n, n', hn, hn', hs, hin _ _ (by decide), hc, ho⟩

end Loading

end PromptGraph
