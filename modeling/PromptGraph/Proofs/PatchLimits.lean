import PromptGraph.Proofs.Bundles
import PromptGraph.Proofs.DescribedGraphs

/-!
# What limits cut off

A patch with a limit goes through the nodes that it matches, and stops when so many are changed.
Nodes that know none of the parameters do not count. So it changes a prefix of those that know some
(`patchEach_cut`), in the way that parameters are set one by one (`setEach_eq`), and no other
(`limited_patch_effect`).
-/

namespace PromptGraph

open PromptGraph.Graph

variable {answers : String → Id (List InputSpec)}

/-! ## Titles that match -/

theorem occursIn_iff {part s : List Char} : occursIn part s = true ↔ part <:+: s := by
  induction s with
  | nil => rw [occursIn, List.isEmpty_iff, List.infix_nil]
  | cons c s ih =>
    rw [occursIn, Bool.or_eq_true, ih, List.isPrefixOf_iff_prefix, List.infix_cons_iff]

namespace MatchMode

/-- The title is the wanted one, or has it as a part when case is left out of account, or matches
it as a pattern. -/
def Matches (wanted title : String) : MatchMode → Prop
  | exact => title = wanted
  | contains => (Text.toLower wanted).toList <:+: (Text.toLower title).toList
  | regex => ∃ p, Pattern.parse? wanted = some p ∧ p.isMatch title = true

/-- What is wanted makes sense: if it is to be a pattern, it is one. -/
def Reads (wanted : String) (mode : MatchMode) : Prop :=
  mode = .regex → (Pattern.parse? wanted).isSome

instance (wanted : String) (mode : MatchMode) : Decidable (mode.Reads wanted) :=
  inferInstanceAs (Decidable (mode = .regex → (Pattern.parse? wanted).isSome))

/-- How titles are tested. -/
def test (wanted : String) (mode : MatchMode) (title : String) : Bool :=
  match mode with
  | exact => decide (title = wanted)
  | contains => containsFolded wanted title
  | regex => (Pattern.parse? wanted).any (·.isMatch title)

theorem test_iff {wanted title : String} {mode : MatchMode} :
    mode.test wanted title = true ↔ mode.Matches wanted title := by
  cases mode with
  | exact => exact decide_eq_true_iff
  | contains => exact occursIn_iff
  | regex => exact Option.any_eq_true ..

instance (wanted title : String) (mode : MatchMode) : Decidable (mode.Matches wanted title) :=
  decidable_of_iff _ test_iff

end MatchMode

namespace IdentityIndex

theorem idsMatching_of_not_reads (x : IdentityIndex) {wanted : String} {mode : MatchMode}
    (h : ¬ mode.Reads wanted) : x.idsMatching wanted mode = .error .badPattern := by
  obtain ⟨rfl, hn⟩ := Classical.not_imp.1 h
  rw [Bool.not_eq_true, Option.isSome_eq_false_iff, Option.isNone_iff_eq_none] at hn
  simp only [idsMatching, hn]

theorem idsMatching_of_described {g : Graph} (h : g.Described) {wanted : String} {mode : MatchMode}
    (hr : mode.Reads wanted) : (ofGraph g).idsMatching wanted mode =
      .ok ((g.nodes.filter fun n => ∃ title ∈ n.title, mode.Matches wanted title).map Node.id) := by
  have htest : (ofGraph g).idsMatching wanted mode =
      .ok ((g.nodes.filter fun n => n.title.any (mode.test wanted)).map Node.id) := by
    cases mode with
    | exact =>
      refine congrArg Except.ok ((idsTitled_of_described h wanted).trans (congrArg _ ?_))
      refine List.filter_congr fun n _ => Bool.eq_iff_iff.2 ?_
      simp [MatchMode.test, Option.any_eq_true]
    | contains => exact congrArg Except.ok (idsWhere_of_described h _)
    | regex =>
      obtain ⟨p, hp⟩ := Option.isSome_iff_exists.1 (hr rfl)
      have htests : MatchMode.test wanted .regex = p.isMatch := by
        funext title
        simp [MatchMode.test, hp]
      simp only [idsMatching, hp, htests]
      exact congrArg Except.ok (idsWhere_of_described h _)
  rw [htest]
  refine congrArg (fun ns => Except.ok (ns.map Node.id)) (List.filter_congr fun n _ => ?_)
  refine Bool.eq_iff_iff.2 ?_
  simp [Option.any_eq_true, MatchMode.test_iff]

end IdentityIndex

/-! ## Prefixes -/

/-- What a limit leaves of a list. -/
def cut {α : Type} : Option Nat → List α → List α
  | some l, xs => xs.take l
  | none, xs => xs

section

variable {α β : Type} (limit : Option Nat)

theorem cut_sublist (xs : List α) : (cut limit xs).Sublist xs := by
  cases limit with
  | none => exact .refl xs
  | some l => exact List.take_sublist l xs

theorem length_cut (xs : List α) :
    (cut limit xs).length = (limit.map (min · xs.length)).getD xs.length := by
  cases limit with
  | none => rfl
  | some l => exact List.length_take

theorem map_cut (f : α → β) (xs : List α) : (cut limit xs).map f = cut limit (xs.map f) := by
  cases limit with
  | none => rfl
  | some l => exact List.map_take

theorem cut_of_reached {k : Nat} (h : limit.any (fun l => decide (l ≤ k)) = true) (xs : List α) :
    cut (limit.map (· - k)) xs = [] := by
  obtain ⟨l, rfl, hl⟩ := (Option.any_eq_true _ limit).1 h
  have hz : l - k = 0 := Nat.sub_eq_zero_of_le (of_decide_eq_true hl)
  rw [Option.map_some, hz]
  rfl

theorem cut_cons_of_not_reached {k : Nat} (h : ¬ limit.any (fun l => decide (l ≤ k)) = true) (x : α)
    (xs : List α) : cut (limit.map (· - k)) (x :: xs) = x :: cut (limit.map (· - (k + 1))) xs := by
  cases limit with
  | none => rfl
  | some l =>
    have hs : l - k = (l - (k + 1)) + 1 := by
      have hlt : ¬ l ≤ k := by simpa using h
      omega
    rw [Option.map_some, hs]
    rfl

end

/-! ## Patching with a limit -/

namespace Graph

/-- **Patching with a limit** patches a prefix of the nodes that know a parameter. -/
theorem patchEach_cut {g : Graph} (h : Indexed g) (limit : Option Nat) (params : OrderedMap Json)
    (ids : List NodeId) (k : Nat) : (patchEach answers limit params ids (k, g)).run =
      ((cut (limit.map (· - k)) (ids.filter fun id => g.Takes answers (id, params))).map
        fun id => (id, params)).foldl (patchOne answers) (k, g) := by
  induction ids generalizing k g with
  | nil => simp [patchEach, List.eq_nil_of_sublist_nil (cut_sublist _ _)]
  | cons id ids ih =>
    rw [patchEach]
    by_cases hl : limit.any (fun l => decide (l ≤ k)) = true
    · rw [if_pos hl, cut_of_reached limit hl]
      rfl
    rw [if_neg hl, Id.run_bind]
    by_cases ht : g.Takes answers (id, params)
    · have hone := patch?_of_takes h ht
      have hp : Patched answers g _ := patched_of_patch? hone
      have hpatch : patchOne answers (k, g) (id, params) =
          (k + 1, g.overrideAll (g.dealt answers [(id, params)])) := by
        rw [patchOne, hone]
      have htakes : (ids.filter fun id => Takes answers _ (id, params)) =
          ids.filter fun id => g.Takes answers (id, params) :=
        List.filter_congr fun id _ => decide_eq_decide.2 (hp.takes_iff (id, params))
      rw [List.filter_cons_of_pos (by simpa using ht), cut_cons_of_not_reached limit hl,
        List.map_cons, List.foldl_cons, hpatch, hone, ← htakes]
      exact ih (stable_indexed hone h) (k + 1)
    · rw [List.filter_cons_of_neg (by simpa using ht), patch?_of_not_takes ht]
      exact ih h k

theorem frame_overrideAll (g : Graph) (f : NodeId → Entries Json) :
    (g.overrideAll f).frame = g.frame := by
  simp only [frame, overrideAll, List.map_map]
  rfl

theorem exists_takes_iff {g : Graph} {as : List Assignment} :
    (∃ a ∈ as, g.Takes answers a) ↔ ∃ id, g.dealt answers as id ≠ [] := by
  simp only [dealt, ne_eq, List.flatMap_eq_nil_iff, not_forall, takes_iff]
  constructor
  · rintro ⟨a, ha, ht⟩
    exact ⟨a.1, a, ha, by rwa [if_pos rfl]⟩
  · rintro ⟨id, a, ha, ht⟩
    split at ht
    · next hid => exact ⟨a, ha, hid ▸ ht⟩
    · exact absurd rfl ht

theorem Indexed.takes_iff {g : Graph} (h : Indexed g) {n : Node} (hn : n ∈ g.nodes)
    {params : OrderedMap Json} : g.Takes answers (n.id, params) ↔
      ∃ name ∈ params.keys, name ∈ (n.knownNames answers).run := by
  simp only [Takes, knownNames_eq, h.node?_of_mem hn]
  rfl

/-- A parameter that is assigned to a node. -/
def single (a : NodeId × String × Json) : Assignment := (a.1, .ofList [a.2])

/-- Parameters may as well be assigned one by one. -/
theorem dealt_singles (g : Graph) (ids : List NodeId) (params : OrderedMap Json) (id : NodeId) :
    g.dealt answers ((ids ×ˢ params.entries).map single) id =
      g.dealt answers (ids.map fun i => (i, params)) id := by
  have hp : ids ×ˢ params.entries = ids.flatMap fun i => params.entries.map (Prod.mk i) := rfl
  have hkept : params.entries.flatMap (fun p => g.kept answers (.ofList [p]) id) =
      g.kept answers params id := by
    unfold kept
    conv_rhs => rw [← List.flatMap_singleton' params.entries, List.filter_flatMap]
    rfl
  rw [dealt, dealt, hp, List.flatMap_map, List.flatMap_map, List.flatMap_assoc]
  refine List.flatMap_congr fun i _ => ?_
  rw [List.flatMap_map]
  by_cases hi : i = id
  · simpa only [single, hi, if_pos] using hkept
  · simp [single, hi]

end Graph

namespace Workbench

/-- Whether a patched graph is taken up as changed depends on whether there are hits. -/
theorem settle_congr (w : Workbench) {k k' : Nat} (h : 0 < k ↔ 0 < k') (g : Graph) :
    (w.settle (k, g)).2 = (w.settle (k', g)).2 := by
  simp only [settle, h]

theorem settle_add (w : Workbench) (k k' : Nat) (g g' : Graph) :
    ((w.settle (k, g)).2.settle (k', g')).2 = (w.settle (k + k', g')).2 := by
  by_cases hu : w.stage = .unloaded
  · simp [settle, hu]
  · rcases Nat.eq_zero_or_pos k with rfl | hk
    · simp [settle, hu]
    · simp [settle, hu, hk, Nat.add_pos_left hk]

theorem setById_run_eq (w : Workbench) (id name : String) (v : Json) :
    (w.setById answers id name v).run =
      w.settle (patchOne answers (0, w.graph) (single (id, name, v))) :=
  congrArg w.settle (patchEach_run _ [id] (0, w.graph))

theorem foldl_setById {w : Workbench} (h : Indexed w.graph) (as : List (NodeId × String × Json)) :
    as.foldl (fun w a => (w.setById answers a.1 a.2.1 a.2.2).run.2) w =
      (w.settle ((as.map single).foldl (patchOne answers) (0, w.graph))).2 := by
  induction as generalizing w with
  | nil => simp [settle]
  | cons a as ih =>
    have hi : Indexed (patchOne answers (0, w.graph) (single a)).2 := indexed_patchOne h (single a)
    rw [List.foldl_cons, setById_run_eq, ih (by rwa [graph_settle]), graph_settle, List.map_cons,
      List.foldl_cons]
    generalize patchOne answers (0, w.graph) (single a) = s at hi ⊢
    rw [foldl_patchOne hi, foldl_patchOne (k := s.1) hi, settle_add, Nat.zero_add]

/-- Sets all of the parameters by id, one by one, for each of the ids. -/
def setEach (answers : String → Id (List InputSpec)) (w : Workbench) (ids : List NodeId)
    (params : OrderedMap Json) : Workbench :=
  (ids ×ˢ params.entries).foldl (fun w a => (w.setById answers a.1 a.2.1 a.2.2).run.2) w

theorem setEach_eq {w : Workbench} (h : Indexed w.graph) (ids : List NodeId)
    (params : OrderedMap Json) : w.setEach answers ids params =
      (w.settle ((ids.map fun id => (id, params)).foldl (patchOne answers) (0, w.graph))).2 := by
  rw [setEach, foldl_setById h, foldl_patchOne h, foldl_patchOne h,
    funext (dealt_singles w.graph ids params)]
  refine settle_congr w ?_ _
  rw [Nat.zero_add, Nat.zero_add, List.countP_pos_iff, List.countP_pos_iff]
  simp only [decide_eq_true_eq, exists_takes_iff, dealt_singles]

/-- As many of the nodes as the limit allows are counted, and have the parameters set as if by id,
one by one; every other node stays as it is. -/
structure Limited (answers : String → Id (List InputSpec)) (limit : Option Nat)
    (params : OrderedMap Json) (w : Workbench) (ns : List Node) (r : Nat × Workbench) : Prop where
  hits : r.1 = (limit.map (min · ns.length)).getD ns.length
  patched : r.2 = w.setEach answers ((cut limit ns).map Node.id) params
  others : ∀ n ∈ w.graph.nodes, n ∉ cut limit ns → r.2.graph.node? n.id = some n
  frame : r.2.graph.frame = w.graph.frame

variable {w : Workbench} (h : Indexed w.graph)

include h

/-- Patching some nodes, as far as the limit goes, patches a prefix of those that know a
parameter. -/
theorem patchEach_run_cut (limit : Option Nat) (params : OrderedMap Json) {ns : List Node}
    (hns : ns.Sublist w.graph.nodes) :
    (w.patchEach answers limit params (ns.map Node.id)).run =
      w.settle ((((cut limit (ns.filter fun n => ∃ name ∈ params.keys,
        name ∈ (n.knownNames answers).run)).map Node.id).map fun id => (id, params)).foldl
          (patchOne answers) (0, w.graph)) := by
  have htakes : ((ns.map Node.id).filter fun id => w.graph.Takes answers (id, params)) =
      (ns.filter fun n => ∃ name ∈ params.keys, name ∈ (n.knownNames answers).run).map Node.id := by
    rw [List.filter_map]
    refine congrArg _ (List.filter_congr fun n hn => ?_)
    exact decide_eq_decide.2 (h.takes_iff (hns.subset hn))
  have hlimit : limit.map (· - 0) = limit := Option.map_id'
  refine congrArg w.settle ((patchEach_cut h limit params (ns.map Node.id) 0).trans ?_)
  rw [htakes, hlimit, ← map_cut]

theorem limited_patchEach (limit : Option Nat) (params : OrderedMap Json) {ns : List Node}
    (hns : ns.Sublist w.graph.nodes) : Limited answers limit params w
      (ns.filter fun n => ∃ name ∈ params.keys, name ∈ (n.knownNames answers).run)
      (w.patchEach answers limit params (ns.map Node.id)).run := by
  rw [patchEach_run_cut h limit params hns]
  set ms := ns.filter fun n => ∃ name ∈ params.keys, name ∈ (n.knownNames answers).run with hms
  have hcut : (cut limit ms).Sublist w.graph.nodes :=
    (cut_sublist limit ms).trans (List.filter_sublist.trans hns)
  have hall : ∀ id ∈ (cut limit ms).map Node.id, w.graph.Takes answers (id, params) := by
    refine List.forall_mem_map.2 fun n hn => (h.takes_iff (hcut.subset hn)).2 ?_
    have hknown := (List.mem_filter.1 ((cut_sublist limit ms).subset hn)).2
    exact of_decide_eq_true hknown
  refine ⟨?_, (setEach_eq h _ params).symm, fun n hn hcutn => ?_, ?_⟩
  · have hcount : (((cut limit ms).map Node.id).map fun id => (id, params)).countP
        (w.graph.Takes answers ·) = (cut limit ms).length := by
      rw [List.countP_map, ← List.length_map (f := Node.id), List.countP_eq_length]
      exact fun id hid => decide_eq_true (hall id hid)
    rw [foldl_patchOne h, ← length_cut, ← hcount]
    exact Nat.zero_add _
  · have hid : n.id ∉ (cut limit ms).map Node.id := by
      intro hmem
      obtain ⟨m, hm, he⟩ := List.mem_map.1 hmem
      exact hcutn (List.inj_on_of_nodup_map h.nodup (hcut.subset hm) hn he ▸ hm)
    have hnil : w.graph.dealt answers (((cut limit ms).map Node.id).map fun id => (id, params))
        n.id = [] := by
      rw [dealt, List.flatMap_map, List.flatMap_eq_nil_iff]
      intro id hmem
      exact if_neg (by rintro rfl; exact hid hmem)
    rw [foldl_patchOne h, graph_settle, node?_overrideAll, h.node?_of_mem hn, Option.map_some, hnil,
      Node.overrideAll_nil]
  · rw [foldl_patchOne h, graph_settle, frame_overrideAll]

theorem limited_filter (limit : Option Nat) (params : OrderedMap Json) {p q : Node → Prop}
    [DecidablePred p] [DecidablePred q]
    (hp : ∀ n, p n ↔ q n ∧ ∃ name ∈ params.keys, name ∈ (n.knownNames answers).run) :
    Limited answers limit params w (w.graph.nodes.filter fun n => p n)
      (w.patchEach answers limit params ((w.graph.nodes.filter fun n => q n).map Node.id)).run := by
  have hfilter : (w.graph.nodes.filter fun n => p n) = (w.graph.nodes.filter fun n => q n).filter
      fun n => ∃ name ∈ params.keys, name ∈ (n.knownNames answers).run := by
    rw [List.filter_filter]
    refine List.filter_congr fun n _ => ?_
    rw [← Bool.decide_and, decide_eq_decide, hp, and_comm]
  rw [hfilter]
  exact limited_patchEach h limit params List.filter_sublist

omit h

/-- **Limits cut off a prefix.** After any commands, let a parameter be set by title, or some by
type. Of the nodes that match, in order, those count that know the parameter, or one of them; as far
as the limit goes, these are patched as if their parameters were set by id, one by one, and every
other node stays as it is. Only what should be a pattern and is none makes this fail. Graphs that
are taken up are as documents describe them, as are all graphs of documents. -/
theorem limited_patch_effect (answers : String → Id (List InputSpec)) (loading : Loading.Options)
    (options : CompilerOptions) (cs : List Command)
    (hcs : ∀ g, Command.adopt g ∈ cs → g.Described) (limit : Option Nat) :
    let w := cs.foldl (Command.after answers) { loading, options }
    (∀ (wanted name : String) (v : Json) (mode : MatchMode),
      let found := (w.setByTitle answers wanted name v mode limit).run
      (mode.Reads wanted → ∃ r, found = .ok r ∧ Limited answers limit (.ofList [(name, v)]) w
        (w.graph.nodes.filter fun n => (∃ title ∈ n.title, mode.Matches wanted title) ∧
          name ∈ (n.knownNames answers).run) r) ∧
      (¬ mode.Reads wanted → found = .error .badPattern)) ∧
    ∀ (typeName : String) (params : OrderedMap Json), Limited answers limit params w
      (w.graph.nodes.filter fun n => n.typeName = typeName ∧
        ∃ name ∈ params.keys, name ∈ (n.knownNames answers).run)
      (w.setByType answers typeName params limit).run := by
  intro w
  obtain ⟨h, hi⟩ : w.graph.Described ∧ w.index = .ofGraph w.graph :=
    framed_foldl_after described_frame Loading.described_ofJson ⟨.empty, rfl⟩ hcs
  clear_value w
  refine ⟨fun wanted name v mode => ⟨fun hr => ?_, fun hr => ?_⟩, fun typeName params => ?_⟩
  · have hids := hi ▸ IdentityIndex.idsMatching_of_described h hr
    have hkeys : (OrderedMap.ofList [(name, v)]).keys = [name] := rfl
    refine ⟨(w.patchEach answers limit (.ofList [(name, v)]) _).run, ?_,
      limited_filter h.filed.indexed limit _ fun n => and_congr_right fun _ => by simp [hkeys]⟩
    show (w.setByTitle answers wanted name v mode limit).run = _
    rw [setByTitle, hids]
    rfl
  · show (w.setByTitle answers wanted name v mode limit).run = _
    rw [setByTitle, IdentityIndex.idsMatching_of_not_reads w.index hr]
    rfl
  · have hids := hi ▸ IdentityIndex.idsOfType_of_described h typeName
    rw [setByType, hids]
    exact limited_filter h.filed.indexed limit params fun n => .rfl

/-- The second of four nodes that are matched is a sampler, which knows no text; the limit leaves
out the last. -/
theorem limited_patch_effect_of_encoders :
    let answers : String → Id (List InputSpec) := fun t =>
      pure (if t = "CLIPTextEncode" then [⟨"text", some .text, .empty⟩] else [])
    let record (id : Int) (type title : String) : Json := .object [("id", .int id),
      ("type", .text type), ("title", .text title), ("widgets_values", .array [.text "a bottle"])]
    let cs : List Command := [.adopt .empty, .loadJson (.object [("nodes", .array [
      record 7 "CLIPTextEncode" "Main", record 3 "KSampler" "Main scene",
      record 6 "CLIPTextEncode" "the main", record 8 "CLIPTextEncode" "Main"])]),
      .setById "6" "text" (.text "a jug"), .prompt]
    let params : OrderedMap Json := .ofList [("text", .text "a cup"), ("steps", .nat 20)]
    let w := cs.foldl (Command.after answers) { loading := {}, options := {} }
    (∀ g, Command.adopt g ∈ cs → g.Described) ∧
      (∃ r, (w.setByTitle answers "MAIN" "text" (.text "a cup") .contains (some 2)).run = .ok r ∧
        r.1 = 2 ∧ r.2 = w.setEach answers ["7", "6"] (.ofList [("text", .text "a cup")]) ∧
        ∃ n ∈ w.graph.nodes, n.id = "8" ∧ r.2.graph.node? "8" = some n) ∧
      (w.setByType answers "CLIPTextEncode" params (some 2)).run.1 = 2 ∧
      (w.setByType answers "CLIPTextEncode" params (some 2)).run.2 =
        w.setEach answers ["7", "6"] params := by
  intro answers record cs params w
  have hcs : ∀ g, Command.adopt g ∈ cs → g.Described := by
    intro g hg
    obtain rfl : g = .empty := by simpa [cs] using hg
    exact .empty
  have htitled : (w.graph.nodes.filter fun n => (∃ title ∈ n.title,
      MatchMode.Matches "MAIN" title .contains) ∧ "text" ∈ (n.knownNames answers).run).map Node.id =
        ["7", "6", "8"] := by decide +kernel
  have htyped : (w.graph.nodes.filter fun n => n.typeName = "CLIPTextEncode" ∧
      ∃ name ∈ params.keys, name ∈ (n.knownNames answers).run).map Node.id = ["7", "6", "8"] := by
    decide +kernel
  clear_value answers cs params
  obtain ⟨hbyTitle, hbyType⟩ := limited_patch_effect answers {} {} cs hcs (some 2)
  obtain ⟨r, hrun, hr⟩ := (hbyTitle "MAIN" "text" (.text "a cup") .contains).1 nofun
  have ht := hbyType "CLIPTextEncode" params
  have hcut {ns : List Node} (h : ns.map Node.id = ["7", "6", "8"]) :
      ns.length = 3 ∧ (cut (some 2) ns).map Node.id = ["7", "6"] := by
    rw [map_cut, h, ← List.length_map (f := Node.id), h]
    exact ⟨rfl, rfl⟩
  obtain ⟨hlen, hids⟩ := hcut htitled
  obtain ⟨htlen, htids⟩ := hcut htyped
  obtain ⟨n, hn, hid⟩ := List.mem_map.1 (htitled.symm ▸ show "8" ∈ ["7", "6", "8"] by decide)
  have hn := List.mem_of_mem_filter hn
  have hkept : r.2.graph.node? n.id = some n := by
    refine hr.others n hn fun hmem => ?_
    have hmem := List.mem_map_of_mem (f := Node.id) hmem
    rw [hids, hid] at hmem
    exact absurd hmem (by decide)
  refine ⟨hcs, ⟨r, hrun, ?_, ?_, n, hn, hid, hid ▸ hkept⟩, ?_, ?_⟩
  · rw [hr.hits, hlen]
    rfl
  · rw [hr.patched, hids]
  · rw [ht.hits, htlen]
    rfl
  · rw [ht.patched, htids]

end Workbench

end PromptGraph
