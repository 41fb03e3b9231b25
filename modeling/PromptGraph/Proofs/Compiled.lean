import PromptGraph.Compile.Basic
import PromptGraph.Proofs.Maps
import PromptGraph.Proofs.Positions

/-!
# Compiled graphs

Where types are not demanded, compiling never fails: `compile_eq` says that it makes the payload
that holds the entry of each node under the node's id, in order. Where they are, it makes the same
payload unless it refuses a node (`compile_run_eq`).
-/

namespace PromptGraph.Compiler

/-- The entries of nodes, each made with its own schema. -/
def entriesOf (o : CompilerOptions) (specs : Node → List InputSpec) (ns : List Node) :
    Entries PromptNode :=
  ns.map fun n => (n.id, entry o (specs n) n)

def payload (o : CompilerOptions) (specs : Node → List InputSpec) (g : Graph) : Prompt :=
  ⟨.ofList (entriesOf o specs g.nodes)⟩

section

variable {m : Type → Type} [Monad m] [LawfulMonad m] {lookup : String → m (List InputSpec)}
  {o : CompilerOptions} {specs : Node → List InputSpec}

theorem compileNode_eq (ho : o.strict = false) {n : Node}
    (hs : specsOf lookup n = pure (specs n)) :
    compileNode lookup o n = pure (.ok (entry o (specs n) n)) := by
  simp [compileNode, refuses, ho, hs]

theorem compileNodes_eq (ho : o.strict = false) {ns : List Node}
    (hs : ∀ n ∈ ns, specsOf lookup n = pure (specs n)) (p : Prompt) :
    compileNodes lookup o ns p = pure (.ok ⟨p.nodes.insertAll (entriesOf o specs ns)⟩) := by
  induction ns generalizing p with
  | nil => rfl
  | cons n ns ih =>
    rw [List.forall_mem_cons] at hs
    rw [compileNodes, compileNode_eq ho hs.1, pure_bind]
    exact ih hs.2 _

theorem compile_eq (ho : o.strict = false) {g : Graph}
    (hs : ∀ n ∈ g.nodes, specsOf lookup n = pure (specs n)) :
    compile lookup o g = pure (.ok (payload o specs g)) :=
  compileNodes_eq ho hs .empty

theorem compile_of_no_schemas (ho : o.strict = false) (g : Graph) :
    compile (fun _ => pure [] : String → m (List InputSpec)) o g =
      pure (.ok (payload o (fun _ => []) g)) :=
  compile_eq ho fun _ _ => ite_self (pure [])

omit [LawfulMonad m] in
/-- A node without widget values asks for no schema. -/
theorem specsOf_of_values_eq_nil {n : Node} (h : n.values = []) :
    specsOf lookup n = pure [] := by
  simp [specsOf, h]

end

/-! ## Lookups that answer differently in time -/

section

variable {σ : Type} (lookup : String → StateM σ (List InputSpec)) {o : CompilerOptions}

theorem compileNode_run (ho : o.strict = false) (n : Node) (s : σ) :
    ∃ specs s', (compileNode lookup o n).run s = (.ok (entry o specs n), s') := by
  have hr : refuses o n = false := by simp [refuses, ho]
  rw [compileNode, hr]
  exact ⟨_, _, rfl⟩

theorem compileNodes_run (ho : o.strict = false) {ns : List Node} (h : (ns.map Node.id).Nodup)
    (p : Prompt) (s : σ) : ∃ specs s', (compileNodes lookup o ns p).run s =
      (.ok ⟨p.nodes.insertAll (entriesOf o specs ns)⟩, s') := by
  induction ns generalizing p s with
  | nil => exact ⟨fun _ => [], s, rfl⟩
  | cons n ns ih =>
    rw [List.map_cons, List.nodup_cons] at h
    obtain ⟨own, t, hn⟩ := compileNode_run lookup ho n s
    obtain ⟨specs, s', hns⟩ := ih h.2 (p.insert n.id (entry o own n)) t
    -- The answer for `n` stands for no other node, since the others have other ids.
    let all : Node → List InputSpec := fun n' => if n'.id = n.id then own else specs n'
    have hrest : entriesOf o all ns = entriesOf o specs ns := by
      refine List.map_congr_left fun n' hn' => ?_
      have hne : n'.id ≠ n.id := fun e => h.1 (e ▸ List.mem_map_of_mem hn')
      simp [all, hne]
    have hall : entriesOf o all (n :: ns) = (n.id, entry o own n) :: entriesOf o specs ns := by
      rw [← hrest]
      simp [entriesOf, all]
    refine ⟨all, s', ?_⟩
    rw [compileNodes, StateT.run_bind, hn, hall]
    exact hns

variable {lookup} in
theorem compileNode_run_eq_ok {n : Node} {e : PromptNode} {s s' : σ}
    (h : (compileNode lookup o n).run s = (.ok e, s')) :
    e = entry o ((specsOf lookup n).run s).1 n := by
  rw [compileNode] at h
  split at h
  · cases h
  · cases h
    rfl

theorem compileNodes_cons_run {n : Node} {ns : List Node} {p q : Prompt} {s s' : σ}
    (h : (compileNodes lookup o (n :: ns) p).run s = (.ok q, s')) :
    ∃ e t, (compileNode lookup o n).run s = (.ok e, t) ∧
      (compileNodes lookup o ns (p.insert n.id e)).run t = (.ok q, s') := by
  rw [compileNodes, StateT.run_bind] at h
  cases hn : (compileNode lookup o n).run s with
  | mk r t =>
    rw [hn] at h
    cases r with
    | ok e => exact ⟨e, t, rfl, h⟩
    | error e => cases h

theorem mem_compileNodes_run {ns : List Node} {p q : Prompt} {s s' : σ}
    (h : (compileNodes lookup o ns p).run s = (.ok q, s')) {e : NodeId × PromptNode}
    (he : e ∈ q.nodes.entries) : e ∈ p.nodes.entries ∨
      ∃ n ∈ ns, n.id = e.1 ∧ ∃ t t', (compileNode lookup o n).run t = (.ok e.2, t') := by
  induction ns generalizing p s with
  | nil =>
    cases h
    exact .inl he
  | cons n ns ih =>
    obtain ⟨own, t, hn, h⟩ := compileNodes_cons_run lookup h
    rcases ih h with he | ⟨n', hn', hrun⟩
    · rcases OrderedMap.mem_of_mem_insert he with rfl | he
      · exact .inr ⟨n, List.mem_cons_self, rfl, s, t, hn⟩
      · exact .inl he
    · exact .inr ⟨n', List.mem_cons_of_mem _ hn', hrun⟩

/-- Whatever the lookups answer, every entry of a compiled prompt is what compiling a node gave. -/
theorem mem_compile_run {g : Graph} {p : Prompt} {s s' : σ}
    (h : (compile lookup o g).run s = (.ok p, s')) {e : NodeId × PromptNode}
    (he : e ∈ p.nodes.entries) :
    ∃ n ∈ g.nodes, n.id = e.1 ∧ ∃ t t', (compileNode lookup o n).run t = (.ok e.2, t') :=
  (mem_compileNodes_run lookup h he).resolve_left List.not_mem_nil

theorem get?_compileNodes_run_of_notMem {ns : List Node} {p q : Prompt} {s s' : σ}
    (h : (compileNodes lookup o ns p).run s = (.ok q, s')) {id : NodeId}
    (hid : id ∉ ns.map Node.id) : q.get? id = p.get? id := by
  induction ns generalizing p s with
  | nil =>
    cases h
    rfl
  | cons n ns ih =>
    obtain ⟨e, t, -, h⟩ := compileNodes_cons_run lookup h
    rw [List.map_cons, List.mem_cons, not_or] at hid
    rw [ih h hid.2]
    exact (OrderedMap.get?_insert ..).trans (if_neg (Ne.symm hid.1))

theorem get?_compileNodes_run {ns : List Node} {p q : Prompt} {s s' : σ}
    (h : (compileNodes lookup o ns p).run s = (.ok q, s')) (hns : (ns.map Node.id).Nodup)
    {n : Node} (hn : n ∈ ns) :
    ∃ e t t', q.get? n.id = some e ∧ (compileNode lookup o n).run t = (.ok e, t') := by
  induction ns generalizing p s with
  | nil => cases hn
  | cons m ns ih =>
    obtain ⟨e, t, hm, h⟩ := compileNodes_cons_run lookup h
    rw [List.map_cons, List.nodup_cons] at hns
    rcases List.mem_cons.1 hn with rfl | hn
    · refine ⟨e, s, t, ?_, hm⟩
      rw [get?_compileNodes_run_of_notMem lookup h hns.1]
      exact (OrderedMap.get?_insert ..).trans (if_pos rfl)
    · exact ih h hns.2 hn

theorem get?_compile_run {g : Graph} (hg : g.ids.Nodup) {p : Prompt} {s s' : σ}
    (h : (compile lookup o g).run s = (.ok p, s')) {n : Node} (hn : n ∈ g.nodes) :
    ∃ e t t', p.get? n.id = some e ∧ (compileNode lookup o n).run t = (.ok e, t') :=
  get?_compileNodes_run lookup h hg hn

theorem compile_run (ho : o.strict = false) {g : Graph} (h : g.ids.Nodup) (s : σ) :
    ∃ specs s', (compile lookup o g).run s = (.ok (payload o specs g), s') :=
  compileNodes_run lookup ho h .empty s

end

/-! ## Lookups with fixed answers -/

section

variable {answers : String → Id (List InputSpec)} {o : CompilerOptions}

theorem compileNodes_run_eq (ns : List Node) (p : Prompt) : (compileNodes answers o ns p).run =
    match ns.find? (refuses o) with
    | some n => .error (.unknownType n.id)
    | none => .ok ⟨p.nodes.insertAll (entriesOf o (fun n => (specsOf answers n).run) ns)⟩ := by
  induction ns generalizing p with
  | nil => rfl
  | cons n ns ih =>
    rw [compileNodes, Id.run_bind, compileNode]
    by_cases hr : refuses o n = true
    · rw [if_pos hr, List.find?_cons_of_pos hr]
      rfl
    · rw [if_neg hr, List.find?_cons_of_neg hr]
      exact ih _

theorem compile_run_eq (g : Graph) : (compile answers o g).run =
    match g.nodes.find? (refuses o) with
    | some n => .error (.unknownType n.id)
    | none => .ok (payload o (fun n => (specsOf answers n).run) g) :=
  compileNodes_run_eq g.nodes .empty

theorem compile_eq_ok {g : Graph} {q : Prompt} (h : (compile answers o g).run = .ok q) :
    q = payload o (fun n => (specsOf answers n).run) g := by
  rw [compile_run_eq] at h
  split at h
  · cases h
  · exact (Except.ok.inj h).symm

end

theorem entries_payload {g : Graph} (h : g.ids.Nodup) (o : CompilerOptions)
    (specs : Node → List InputSpec) :
    (payload o specs g).nodes.entries = entriesOf o specs g.nodes := by
  refine OrderedMap.entries_ofList_of_nodup ?_
  rw [entriesOf, List.map_map]
  exact h

theorem get?_payload {g : Graph} (h : g.ids.Nodup) (o : CompilerOptions)
    (specs : Node → List InputSpec) {n : Node} (hn : n ∈ g.nodes) :
    (payload o specs g).get? n.id = some (entry o (specs n) n) := by
  refine OrderedMap.get?_of_mem ?_
  rw [entries_payload h]
  exact List.mem_map_of_mem hn

theorem ids_payload {g : Graph} (h : g.ids.Nodup) (o : CompilerOptions)
    (specs : Node → List InputSpec) : (payload o specs g).ids = g.ids := by
  rw [Prompt.ids, OrderedMap.keys, entries_payload h, Entries.keys, entriesOf, List.map_map]
  rfl

theorem get?_payload_eq {g : Graph} (h : g.Indexed) (o : CompilerOptions)
    (specs : Node → List InputSpec) (id : NodeId) :
    (payload o specs g).get? id = (g.node? id).map fun n => entry o (specs n) n := by
  cases hn : g.node? id with
  | some n =>
    obtain ⟨hmem, rfl⟩ := h.node?_eq_some_iff.1 hn
    exact get?_payload h.nodup o specs hmem
  | none =>
    have hid : id ∉ (payload o specs g).ids := by
      rw [ids_payload h.nodup]
      intro hid
      obtain ⟨n, hmem, he⟩ := List.mem_map.1 hid
      rw [h.node?_eq_some_iff.2 ⟨hmem, he⟩] at hn
      cases hn
    exact OrderedMap.get?_eq_none_iff.2 hid

end PromptGraph.Compiler
