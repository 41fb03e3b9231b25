import Mathlib.Data.List.Induction
import PromptGraph.Compile.Basic
import PromptGraph.Proofs.EditorWiring

/-!
# Records that are ignored

Some records of an editor document make no node (`IgnoredNode`) and some links connect nothing
(`IgnoredLink`). Without them the same records are the first of their ids (`MayGo.sameFirsts`) and
the same connections are asked for, so that of the graph only the places change that its nodes have
in the document (`unplaced_ofEditor`), which compiling does not read (`compileNodes_unplaced`).
-/

namespace PromptGraph

/-! ## Taking items out of a list -/

section

variable {α β : Type} {gone : Nat → Bool} {R : List α → α → Prop} {xs : List α}

/-- The items of a list, without those at the positions that are gone. -/
def without (gone : Nat → Bool) (xs : List α) : List α :=
  (xs.zipIdx.filter fun x => !gone x.2).map Prod.fst

/-- `R` lets every item go that is gone, behind the items that stand before it. -/
def MayGo (R : List α → α → Prop) (gone : Nat → Bool) (xs : List α) : Prop :=
  ∀ i x, xs[i]? = some x → gone i = true → R (xs.take i) x

theorem without_append_singleton (gone : Nat → Bool) (xs : List α) (x : α) :
    without gone (xs ++ [x]) = without gone xs ++ if gone xs.length then [] else [x] := by
  rw [without, without, List.zipIdx_append, List.filter_append, List.map_append]
  congr 1
  cases hg : gone xs.length <;> simp [hg]

/-- What holds of nothing, and goes on to hold when an item is kept and when one is taken out that
may go, holds of what is left of a list. -/
theorem MayGo.induct {P : List α → List α → Prop} (h : MayGo R gone xs) (nil : P [] [])
    (kept : ∀ as xs x, P as xs → P (as ++ [x]) (xs ++ [x]))
    (left : ∀ as xs x, R xs x → P as xs → P as (xs ++ [x])) : P (without gone xs) xs := by
  induction xs using List.reverseRecOn with
  | nil => exact nil
  | append_singleton xs x ih =>
    have hfront : MayGo R gone xs := fun i y hy hi => by
      have hlt : i < xs.length := (List.getElem?_eq_some_iff.1 hy).1
      have hR := h i y (by rwa [List.getElem?_append_left hlt]) hi
      rwa [List.take_append_of_le_length (Nat.le_of_lt hlt)] at hR
    rw [without_append_singleton]
    cases hg : gone xs.length with
    | true =>
      have hR := h xs.length x (by simp) hg
      rw [List.take_left] at hR
      simpa using left _ _ x hR (ih hfront)
    | false => exact kept _ _ x (ih hfront)

theorem MayGo.filterMap_eq {f : α → Option β} (h : MayGo (fun _ x => f x = none) gone xs) :
    (without gone xs).filterMap f = xs.filterMap f := by
  refine h.induct (P := fun as xs => as.filterMap f = xs.filterMap f) rfl ?_ ?_
  · intro as xs x hxs
    rw [List.filterMap_append, List.filterMap_append, hxs]
  · intro as xs x hx hxs
    rw [hxs, List.filterMap_append, List.filterMap_cons_none hx, List.filterMap_nil,
      List.append_nil]

end

/-! ## First entries -/

/-- Both lists have the same keys, in the order in which these come up first, and the same first
value of each. -/
structure Entries.SameFirsts {V : Type} (es fs : Entries V) : Prop where
  keys : es.keys.eraseDups = fs.keys.eraseDups
  get? : ∀ key, es.get? key = fs.get? key

namespace Entries.SameFirsts

variable {V : Type} {es fs : Entries V}

theorem mem_keys_iff (h : es.SameFirsts fs) {key : String} : key ∈ es.keys ↔ key ∈ fs.keys := by
  rw [← Entries.get?_isSome_iff, h.get?, Entries.get?_isSome_iff]

theorem append_singleton (h : es.SameFirsts fs) (p : String × V) :
    SameFirsts (es ++ [p]) (fs ++ [p]) where
  keys := by
    rw [keys_append, keys_append, keys_cons, keys_nil, eraseDups_append_singleton,
      eraseDups_append_singleton, h.keys]
    simp only [h.mem_keys_iff]
  get? := fun key => by rw [get?_append, get?_append, h.get?]

theorem append_taken (h : es.SameFirsts fs) {p : String × V} (hp : p.1 ∈ fs.keys) :
    SameFirsts es (fs ++ [p]) where
  keys := by
    rw [keys_append, keys_cons, keys_nil, eraseDups_append_singleton, if_pos hp, h.keys]
  get? := fun key => by rw [get?_append_singleton_of_mem hp, h.get?]

end Entries.SameFirsts

theorem MayGo.sameFirsts {α V : Type} {f : α → Option (String × V)} {gone : Nat → Bool}
    {xs : List α}
    (h : MayGo (fun before x => ∀ p, f x = some p → p.1 ∈ Entries.keys (before.filterMap f))
      gone xs) :
    Entries.SameFirsts ((without gone xs).filterMap f) (xs.filterMap f) := by
  refine h.induct (P := fun as xs => Entries.SameFirsts (as.filterMap f) (xs.filterMap f))
    ⟨rfl, fun _ => rfl⟩ ?_ ?_
  · intro as xs x hxs
    rw [List.filterMap_append, List.filterMap_append]
    cases hf : f x with
    | none => simpa [hf] using hxs
    | some p => simpa [hf] using hxs.append_singleton p
  · intro as xs x hx hxs
    rw [List.filterMap_append]
    cases hf : f x with
    | none => simpa [hf] using hxs
    | some p => simpa [hf] using hxs.append_taken (hx p hf)

/-! ## Places -/

/-- The node, without what the document says of its declaration. -/
def Node.unplaced (n : Node) : Node := { n with identity := none }

namespace Compiler

variable {m : Type → Type} [Monad m] (lookup : String → m (List InputSpec)) (o : CompilerOptions)

theorem compileNode_unplaced (n : Node) :
    compileNode lookup o n.unplaced = compileNode lookup o n := rfl

theorem compileNodes_unplaced (ns : List Node) (p : Prompt) :
    compileNodes lookup o (ns.map Node.unplaced) p = compileNodes lookup o ns p := by
  induction ns generalizing p with
  | nil => rfl
  | cons n ns ih =>
    rw [List.map_cons, compileNodes, compileNodes, compileNode_unplaced]
    refine congrArg _ (funext fun outcome => ?_)
    cases outcome with
    | ok e => exact ih _
    | error e => rfl

/-- Compiling does not read where nodes were declared. -/
theorem compile_congr {g g' : Graph}
    (h : g.nodes.map Node.unplaced = g'.nodes.map Node.unplaced) :
    compile lookup o g = compile lookup o g' := by
  rw [compile, ← compileNodes_unplaced, h, compileNodes_unplaced, compile]

end Compiler

namespace Loading

open PromptGraph.Graph

variable {o : Options}

/-- **The graph of an editor document, but for places**: the first records of the ids, in turn,
wired to what the links resolve to. -/
theorem unplaced_ofEditor (o : Options) (d : EditorDocument) :
    let rs := visibleRecords o d
    (ofEditor o d).nodes.map (fun n => some n.unplaced) = rs.keys.eraseDups.map fun id =>
      (rs.get? id).map fun r =>
        ((nodeOfRecord 0 id r).feedAll
          (incoming rs.keys.eraseDups id (resolvedLinks o d))).unplaced := by
  intro rs
  have hids : (ofEditor o d).ids = rs.keys.eraseDups :=
    (ids_ofEditor o d).trans (holds_loadedRecords o d).ids
  rw [← hids, Graph.ids, List.map_map]
  refine List.map_congr_left fun n hn => ?_
  obtain ⟨r, position, hr, he⟩ := eq_feedAll_of_mem_ofEditor hn
  rw [Function.comp_apply, hr, Option.map_some]
  exact congrArg (fun n => some n.unplaced) he

theorem pendingOfLink?_congr {rs rs' : OrderedMap EditorNode}
    (h : ∀ id, rs.get? id = rs'.get? id) : pendingOfLink? rs = pendingOfLink? rs' := by
  funext k
  simp only [pendingOfLink?, h]

/-! ## Ignored records -/

/-- What a value shows in the editor and elsewhere, under its id. -/
def shown? (o : Options) (j : Json) : Option (NodeId × EditorNode) :=
  (EditorNode.decode j).toOption.bind (visible? o)

/-- The record makes no node, behind the records before it. -/
inductive IgnoredNode (o : Options) (before : List Json) (j : Json) : Prop where
  | undecodable {e : DecodeError} (h : EditorNode.decode j = .error e)
  | unnamed {r : EditorNode} (h : EditorNode.decode j = .ok r) (hid : r.key? = none)
  | editorOnly {r : EditorNode} (h : EditorNode.decode j = .ok r)
    (ht : r.resolvedType ∈ o.editorOnly)
  /-- A record before it has the id, and is loaded. -/
  | repeated {r : EditorNode} {id : NodeId} (h : EditorNode.decode j = .ok r)
    (hid : r.key? = some id) (hb : id ∈ Entries.keys (before.filterMap (shown? o)))

/-- The link connects nothing among the loaded records. -/
inductive IgnoredLink (rs : Entries EditorNode) (j : Json) : Prop where
  | undecodable (h : EditorLink.ofJson? j = none)
  | adrift {k : EditorLink} (h : EditorLink.ofJson? j = some k)
    (he : k.origin ∉ rs.keys ∨ k.target ∉ rs.keys)
  | undeclared {k : EditorLink} {r : EditorNode} (h : EditorLink.ofJson? j = some k)
    (ht : rs.get? k.target = some r) (hs : r.inputs.length ≤ k.targetSlot)

theorem IgnoredNode.taken {before : List Json} {j : Json} (h : IgnoredNode o before j)
    (p : NodeId × EditorNode) (hp : shown? o j = some p) :
    p.1 ∈ Entries.keys (before.filterMap (shown? o)) := by
  unfold shown? visible? at hp
  cases h with
  | undecodable h => simp [h, Except.toOption] at hp
  | unnamed h hid => simp [h, hid, Except.toOption] at hp
  | editorOnly h ht => simp [h, ht, Except.toOption] at hp
  | repeated h hid hb =>
    simp only [h, Except.toOption, Option.bind_some, hid, Option.map_some] at hp
    split at hp
    · cases hp
    · cases hp
      exact hb

theorem IgnoredLink.pending {rs : Entries EditorNode} {j : Json} (h : IgnoredLink rs j)
    {records : OrderedMap EditorNode} (hrec : ∀ id, records.get? id = rs.get? id) :
    (EditorLink.ofJson? j).bind (pendingOfLink? records) = none := by
  refine Option.eq_none_iff_forall_ne_some.2 fun ⟨id, name, c⟩ hp => ?_
  obtain ⟨k, hk, hp⟩ := Option.bind_eq_some_iff.1 hp
  obtain ⟨rfl, ⟨target, i, ht, hi, -⟩, origin, ho, -⟩ := (pendingOfLink?_eq_some_iff hrec).1 hp
  cases h with
  | undecodable h => cases h.symm.trans hk
  | adrift h he =>
    cases h.symm.trans hk
    rcases he with he | he
    · cases (Entries.get?_eq_none_iff.2 he).symm.trans ho
    · cases (Entries.get?_eq_none_iff.2 he).symm.trans ht
  | undeclared h ht' hs =>
    cases h.symm.trans hk
    cases ht'.symm.trans ht
    cases (List.getElem?_eq_none hs).symm.trans hi

/-! ## Documents -/

/-- The value; of an array without the items at the positions that are gone. -/
def withoutItems (gone : Nat → Bool) : Json → Json
  | .array xs => .array (without gone xs)
  | j => j

/-- The document, without the items that are gone from the array at each key. -/
def thin (gone : String → Nat → Bool) (fields : Entries Json) : Entries Json :=
  fields.map fun p => (p.1, withoutItems (gone p.1) p.2)

theorem get?_thin (gone : String → Nat → Bool) (fields : Entries Json) (key : String) :
    Entries.get? (thin gone fields) key = (fields.get? key).map (withoutItems (gone key)) := by
  induction fields with
  | nil => rfl
  | cons p fields ih =>
    rw [thin, List.map_cons, Entries.get?_cons, Entries.get?_cons]
    split
    · next hk => rw [hk, Option.map_some]
    · exact ih

theorem items_thin (gone : String → Nat → Bool) (fields : Entries Json) (key : String) :
    EditorDocument.items (thin gone fields) key =
      without (gone key) (EditorDocument.items fields key) := by
  rw [EditorDocument.items, EditorDocument.items, get?_thin]
  cases Entries.get? fields key with
  | none => rfl
  | some j => cases j <;> rfl

theorem ofJson_of_nodes (o : Options) {fields : Entries Json}
    (h : fields.contains "nodes" = true) :
    ofJson o (.object fields) = ofEditor o (.ofFields fields) := by
  have hd : Dialect.detect fields = .editor := by
    rw [Dialect.detect, h]
    rfl
  rw [ofJson, Document.ofJson, Document.ofFields, hd]
  rfl

theorem resolvedLinks_ofFields (o : Options) (fields : Entries Json) :
    resolvedLinks o (.ofFields fields) = (EditorDocument.items fields "links").filterMap fun j =>
      (EditorLink.ofJson? j).bind
        (pendingOfLink? (loadedRecords o (.ofFields fields)).records) :=
  List.filterMap_filterMap

section

variable {gone : String → Nat → Bool} {fields : Entries Json}

theorem sameFirsts_thin
    (h : MayGo (IgnoredNode o) (gone "nodes") (EditorDocument.items fields "nodes")) :
    Entries.SameFirsts (shownRecords o (thin gone fields)) (shownRecords o fields) := by
  have hfirsts := MayGo.sameFirsts (f := shown? o) fun i j hj hi => (h i j hj hi).taken
  rwa [← items_thin] at hfirsts

theorem resolvedLinks_thin
    (hn : MayGo (IgnoredNode o) (gone "nodes") (EditorDocument.items fields "nodes"))
    (hl : MayGo (fun _ => IgnoredLink (shownRecords o fields)) (gone "links")
      (EditorDocument.items fields "links")) :
    resolvedLinks o (.ofFields (thin gone fields)) = resolvedLinks o (.ofFields fields) := by
  have hrec : ∀ id, (loadedRecords o (.ofFields fields)).records.get? id =
      (shownRecords o fields).get? id := by
    rw [shownRecords_eq]
    exact (holds_loadedRecords o _).record
  have hrec' : ∀ id, (loadedRecords o (.ofFields (thin gone fields))).records.get? id =
      (loadedRecords o (.ofFields fields)).records.get? id := fun id => by
    rw [hrec, ← (sameFirsts_thin hn).get?, shownRecords_eq, (holds_loadedRecords o _).record]
  rw [resolvedLinks_ofFields, resolvedLinks_ofFields, pendingOfLink?_congr hrec', items_thin]
  exact MayGo.filterMap_eq fun i j hj hi => (hl i j hj hi).pending hrec

theorem unplaced_thin
    (hn : MayGo (IgnoredNode o) (gone "nodes") (EditorDocument.items fields "nodes"))
    (hl : MayGo (fun _ => IgnoredLink (shownRecords o fields)) (gone "links")
      (EditorDocument.items fields "links")) :
    (ofEditor o (.ofFields (thin gone fields))).nodes.map Node.unplaced =
      (ofEditor o (.ofFields fields)).nodes.map Node.unplaced := by
  have hfirsts := sameFirsts_thin hn
  rw [shownRecords_eq, shownRecords_eq] at hfirsts
  refine (List.map_inj_right fun _ _ => Option.some.inj).1 ?_
  rw [List.map_map, List.map_map]
  refine (unplaced_ofEditor o _).trans (Eq.trans ?_ (unplaced_ofEditor o _).symm)
  simp only [hfirsts.keys, hfirsts.get?, resolvedLinks_thin hn hl]

end

/-- **Ignored records have no effect.** Any records may be taken out of a document that make no
node, and any links that connect nothing: the document is compiled as before, whatever the schemas
are and however they are asked for. What stands at other keys does not matter. -/
theorem compile_without_ignored {m : Type → Type} [Monad m] (lookup : String → m (List InputSpec))
    (c : CompilerOptions) (o : Options) (gone : String → Nat → Bool) (fields : Entries Json)
    (hkey : fields.contains "nodes" = true)
    (hn : MayGo (IgnoredNode o) (gone "nodes") (EditorDocument.items fields "nodes"))
    (hl : MayGo (fun _ => IgnoredLink (shownRecords o fields)) (gone "links")
      (EditorDocument.items fields "links")) :
    Compiler.compile lookup c (ofJson o (.object (thin gone fields))) =
      Compiler.compile lookup c (ofJson o (.object fields)) := by
  have hkey' : (thin gone fields).contains "nodes" = true := by
    rwa [Entries.contains, get?_thin, Option.isSome_map]
  rw [ofJson_of_nodes o hkey, ofJson_of_nodes o hkey']
  exact Compiler.compile_congr lookup c (unplaced_thin hn hl)

/-- Four of six records go: a note, a text, a second record with the id 6 and one without an id; and
three of four links. -/
theorem compile_without_ignored_crowd :
    let loader : Json := .object [("id", .int 4), ("type", .text "Loader"), ("outputs", .array
      [.object [("name", .text "MODEL")], .object [("name", .text "CLIP")]])]
    let encoder : Json := .object [("id", .int 6), ("type", .text "Encoder"), ("inputs", .array
      [.object [("name", .text "clip")]])]
    let wire : Json := .array [.int 3, .int 4, .int 1, .int 6, .int 0]
    let fields : Entries Json := [
      ("nodes", .array [.object [("id", .int 6), ("type", .text "Note")], loader, .text "6",
        encoder, .object [("id", .text "6"), ("type", .text "Loader")], .object [("id", .null)]]),
      ("links", .array [wire, .null, .array [.int 5, .int 9, .int 0, .int 6, .int 0],
        .array [.int 4, .int 4, .int 0, .int 6, .int 1]])]
    let gone : String → Nat → Bool := fun key i =>
      if key = "nodes" then [0, 2, 4, 5].contains i else [1, 2, 3].contains i
    let compiled : Entries Json → Except CompileError Prompt := fun fs =>
      Compiler.compile (m := Id) (fun _ => []) {} (ofJson {} (.object fs))
    thin gone fields = [("nodes", .array [loader, encoder]), ("links", .array [wire])] ∧
      compiled (thin gone fields) = compiled fields ∧
      ((compiled fields).toOption.map fun p =>
          p.nodes.entries.map fun e => (e.1, e.2.inputs.entries)) =
        some [("4", []), ("6", [("clip", .array [.text "4", .int 1])])] := by
  intro loader encoder wire fields gone compiled
  refine ⟨rfl, compile_without_ignored (m := Id) _ _ _ gone fields rfl ?_ ?_, by decide +kernel⟩
  · intro i j hj hi
    obtain rfl | rfl | rfl | rfl : i = 0 ∨ i = 2 ∨ i = 4 ∨ i = 5 := by simpa [gone] using hi
    · cases hj
      exact .editorOnly rfl (by decide)
    · cases hj
      exact .undecodable rfl
    · cases hj
      exact .repeated rfl rfl (by decide +kernel)
    · cases hj
      exact .unnamed rfl rfl
  · intro i j hj hi
    obtain rfl | rfl | rfl : i = 1 ∨ i = 2 ∨ i = 3 := by simpa [gone] using hi
    · cases hj
      exact .undecodable rfl
    · cases hj
      exact .adrift rfl (.inl (by decide +kernel))
    · cases hj
      exact .undeclared rfl rfl (by decide +kernel)

end Loading

end PromptGraph
