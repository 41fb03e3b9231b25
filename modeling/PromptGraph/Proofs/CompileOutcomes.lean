import Mathlib.Data.List.Forall2
import PromptGraph.Proofs.Building
import PromptGraph.Proofs.Compiled
import PromptGraph.Schema.Cache

/-!
# What compiling comes to

Compiling stops at the first node that the options refuse, or makes one entry of each node, in order
(`compileNodes_outcome`). What schemas say goes into the inputs of the entries and nowhere else, so
that this holds with any source, also with one that cannot be read (`compiled_whole`).
-/

namespace PromptGraph.Compiler

open PromptGraph.Graph

theorem refuses_iff {o : CompilerOptions} {n : Node} :
    refuses o n = true ↔ o.strict = true ∧ n.typeName = unknownType := by
  simp [refuses]

/-- The entry is that of the node: under its id, of its type, and with a title if it has one. -/
structure Enters (n : Node) (e : NodeId × PromptNode) : Prop where
  id : e.1 = n.id
  type : e.2.classType = n.typeName
  title : e.2.title = n.title
  /-- Beside the inputs nothing is said but a title. -/
  titled : e.2.details.isSome = n.title.isSome

theorem enters_entry (o : CompilerOptions) (specs : List InputSpec) (n : Node) :
    Enters n (n.id, entry o specs n) := by
  refine ⟨rfl, rfl, ?_, Option.isSome_map⟩
  cases ht : n.title <;> simp [PromptNode.title, entry, ht]

theorem keys_of_enters {ns : List Node} {es : Entries PromptNode}
    (h : List.Forall₂ Enters ns es) : es.keys = ns.map Node.id := by
  rw [Entries.keys, ← List.forall₂_eq_eq_eq, List.forall₂_map_left_iff, List.forall₂_map_right_iff]
  exact (h.imp fun _ _ he => he.id).flip

section

variable {σ : Type} (lookup : String → StateM σ (List InputSpec)) {o : CompilerOptions}

/-- **Nodes are compiled up to the first that is refused**, or else all of them are entered in
turn. -/
theorem compileNodes_outcome (ns : List Node) (p : Prompt) (s : σ) :
    (∃ before n after, ns = before ++ n :: after ∧ (∀ m ∈ before, ¬ refuses o m = true) ∧
        refuses o n = true ∧
        ((compileNodes lookup o ns p).run s).1 = .error (.unknownType n.id)) ∨
      (∀ n ∈ ns, ¬ refuses o n = true) ∧ ∃ es, List.Forall₂ Enters ns es ∧
        ((compileNodes lookup o ns p).run s).1 = .ok ⟨p.nodes.insertAll es⟩ := by
  induction ns generalizing p s with
  | nil => exact .inr ⟨by simp, [], .nil, rfl⟩
  | cons n ns ih =>
    rw [compileNodes, StateT.run_bind, compileNode]
    by_cases hr : refuses o n = true
    · rw [if_pos hr]
      exact .inl ⟨[], n, ns, rfl, by simp, hr, rfl⟩
    · rw [if_neg hr]
      let e := entry o ((specsOf lookup n).run s).1 n
      rcases ih (p.insert n.id e) ((specsOf lookup n).run s).2 with
        ⟨before, m, after, hns, hb, hm, herror⟩ | ⟨hall, es, hes, hok⟩
      · exact .inl ⟨n :: before, m, after, congrArg _ hns, List.forall_mem_cons.2 ⟨hr, hb⟩, hm,
          herror⟩
      · exact .inr ⟨List.forall_mem_cons.2 ⟨hr, hall⟩, (n.id, e) :: es,
          .cons (enters_entry o _ n) hes, hok⟩

/-- As ids are distinct, no entry takes the place of another. -/
theorem compile_outcome {g : Graph} (hg : g.ids.Nodup) (s : σ) :
    (∃ before n after, g.nodes = before ++ n :: after ∧ (∀ m ∈ before, ¬ refuses o m = true) ∧
        refuses o n = true ∧ ((compile lookup o g).run s).1 = .error (.unknownType n.id)) ∨
      (∀ n ∈ g.nodes, ¬ refuses o n = true) ∧ ∃ p, List.Forall₂ Enters g.nodes p.nodes.entries ∧
        ((compile lookup o g).run s).1 = .ok p := by
  refine (compileNodes_outcome lookup g.nodes .empty s).imp_right ?_
  rintro ⟨hall, es, hes, hok⟩
  have hkeys : (es.map Prod.fst).Nodup := by
    rw [← Entries.keys, keys_of_enters hes]
    exact hg
  have hentries : (OrderedMap.ofList es).entries = es := OrderedMap.entries_ofList_of_nodup hkeys
  exact ⟨hall, ⟨.ofList es⟩, by rwa [hentries], hok⟩

end

/-- **Compiling is all or nothing.** Whatever changes built the graph, whatever is known of the
source and whatever it gives when it is asked, failures included: compiling fails if types are
demanded and some node has none, and names the first such node; otherwise the prompt enters every
node once, in order. -/
theorem compiled_whole (cs : List Change) (o : CompilerOptions) (source : Source) (s : Session) :
    let g := build cs
    let outcome := ((compile (Session.inputs source) o g).run s).1
    ((∃ e, outcome = .error e) ↔ o.strict = true ∧ ∃ n ∈ g.nodes, n.typeName = unknownType) ∧
      (∀ e, outcome = .error e → ∃ before n after, g.nodes = before ++ n :: after ∧
        (∀ m ∈ before, m.typeName ≠ unknownType) ∧ n.typeName = unknownType ∧
          e = .unknownType n.id) ∧
      ∀ p, outcome = .ok p → List.Forall₂ Enters g.nodes p.nodes.entries := by
  intro g outcome
  have hg : g.ids.Nodup := (filed_build cs).indexed.nodup
  rcases compile_outcome (Session.inputs source) (o := o) hg s with
    ⟨before, n, after, hsplit, hb, hr, herror⟩ | ⟨hall, p, hp, hok⟩
  · have herror : outcome = .error (.unknownType n.id) := herror
    obtain ⟨hstrict, htype⟩ := refuses_iff.1 hr
    have hn : n ∈ g.nodes := hsplit ▸ by simp
    have hfirst : ∀ m ∈ before, m.typeName ≠ unknownType := fun m hm ht =>
      hb m hm (refuses_iff.2 ⟨hstrict, ht⟩)
    rw [herror]
    refine ⟨⟨fun _ => ⟨hstrict, n, hn, htype⟩, fun _ => ⟨_, rfl⟩⟩, ?_, by rintro q ⟨⟩⟩
    rintro e ⟨⟩
    exact ⟨before, n, after, hsplit, hfirst, htype, rfl⟩
  · have hok : outcome = .ok p := hok
    rw [hok]
    refine ⟨⟨by rintro ⟨e, ⟨⟩⟩, ?_⟩, by rintro e ⟨⟩, ?_⟩
    · rintro ⟨hstrict, n, hn, ht⟩
      exact absurd (refuses_iff.2 ⟨hstrict, ht⟩) (hall n hn)
    · rintro q ⟨⟩
      exact hp

end PromptGraph.Compiler
