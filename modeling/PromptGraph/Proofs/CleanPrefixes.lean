import PromptGraph.Proofs.FilenamePrefixes
import PromptGraph.Proofs.Trimming

/-!
# Clean and usable prefixes

Cleaning trims white space, points and white space again, and stops there: a point that white space
covers comes to an end of the name. This is the only way in which a name is not clean
(`sanitize_clean_iff`), and it can be a name like `..` (`sanitize_exposes_points`). However a prefix
comes about, a save node leaves with one that is not null and not empty (`save_prefix_usable`).
-/

namespace PromptGraph

namespace FilenamePrefix

open Text

/-! ## Clean names -/

/-- The name is not empty, holds nothing forbidden, and has white space and points inside only. -/
structure IsClean (name : String) : Prop where
  nonempty : name ≠ ""
  allowed : IsAllowed name
  blanks : Trimmed isBlank name.toList
  points : Trimmed (· == '.') name.toList

instance (name : String) : Decidable (IsClean name) :=
  decidable_of_iff (name ≠ "" ∧ IsAllowed name ∧ Trimmed isBlank name.toList ∧
      Trimmed (· == '.') name.toList)
    ⟨fun ⟨hn, ha, hb, hp⟩ => ⟨hn, ha, hb, hp⟩, fun ⟨hn, ha, hb, hp⟩ => ⟨hn, ha, hb, hp⟩⟩

/-- The allowed characters, from which white space and then points were trimmed. -/
def unpointed (cs : List Char) : List Char :=
  trimWhere (· == '.') (trimWhere isBlank (cs.filter fun c => !forbidden.contains c))

/-- At one end of the text there is a point behind white space. -/
def CoversPoint (cs : List Char) : Prop :=
  ∃ blanks rest, (∀ c ∈ blanks, isBlank c = true) ∧
    (cs = blanks ++ '.' :: rest ∨ cs.reverse = blanks ++ '.' :: rest)

theorem cleaned_eq (cs : List Char) : cleaned cs = trimWhere isBlank (unpointed cs) := rfl

theorem isBlank_point : isBlank '.' = false := by decide

/-- Cleaning brings a point to an end exactly where white space covers it. -/
theorem trimmed_cleaned_iff {cs : List Char} :
    Trimmed (· == '.') (cleaned cs) ↔ ¬ CoversPoint (unpointed cs) := by
  have hend : ∀ end? : Option Char, (∀ c ∈ end?, (c == '.') = false) ↔ ¬ end? = some '.' := by
    intro end?
    cases end? <;> simp
  rw [Trimmed, hend, hend, ← List.head?_reverse, cleaned_eq, reverse_trimWhere,
    head?_trimWhere_eq_some_iff isBlank_point, head?_trimWhere_eq_some_iff isBlank_point,
    ← not_or, CoversPoint]
  simp only [and_or_left, exists_or]

theorem unpointed_sublist (cs : List Char) : (unpointed cs).Sublist cs :=
  (trimWhere_sublist _ _).trans ((trimWhere_sublist _ _).trans List.filter_sublist)

theorem cleaned_of_isClean {name : String} (h : IsClean name) :
    cleaned name.toList = name.toList := by
  have hkept : (name.toList.filter fun c => !forbidden.contains c) = name.toList := by
    refine List.filter_eq_self.2 fun c hc => ?_
    simpa using h.allowed c hc
  rw [cleaned_eq, unpointed, hkept, trimWhere_eq_self_iff.2 h.blanks,
    trimWhere_eq_self_iff.2 h.points, trimWhere_eq_self_iff.2 h.blanks]

theorem isClean_of_cleaned {name : String} (hne : cleaned name.toList ≠ [])
    (h : cleaned name.toList = name.toList) : IsClean name := by
  have hpoints : unpointed name.toList = name.toList := by
    refine (unpointed_sublist _).antisymm ?_
    have hs : (cleaned name.toList).Sublist (unpointed name.toList) := trimWhere_sublist _ _
    rwa [h] at hs
  refine ⟨?_, fun c hc => (mem_cleaned (h.symm ▸ hc)).2, ?_, ?_⟩
  · rintro rfl
    exact hne h
  · exact h ▸ trimmed_trimWhere isBlank (unpointed name.toList)
  · exact hpoints ▸ trimmed_trimWhere (· == '.') _

theorem sanitize_eq_self_iff {name fallback : String} (h : IsClean fallback) :
    sanitize name fallback = name ↔ IsClean name := by
  rcases sanitize_cases name fallback with ⟨hnil, hs⟩ | ⟨hne, hs⟩
  · rw [hs]
    refine ⟨fun he => he ▸ h, fun hc => ?_⟩
    rw [cleaned_of_isClean hc, String.toList_eq_nil_iff] at hnil
    exact absurd hnil hc.nonempty
  · rw [hs]
    refine ⟨fun he => isClean_of_cleaned hne ?_, fun hc => ?_⟩
    · rw [← String.toList_ofList (l := cleaned name.toList), he]
    · rw [cleaned_of_isClean hc, String.ofList_toList]

theorem toList_sanitize {text : String} (h : cleaned text.toList ≠ []) (fallback : String) :
    (sanitize text fallback).toList = cleaned text.toList := by
  rcases sanitize_cases text fallback with ⟨hnil, -⟩ | ⟨-, hs⟩
  · exact absurd hnil h
  · rw [hs, String.toList_ofList]

theorem sanitize_ne_empty {fallback : String} (h : fallback ≠ "") (text : String) :
    sanitize text fallback ≠ "" := by
  rcases sanitize_cases text fallback with ⟨-, hs⟩ | ⟨hne, -⟩
  · rwa [hs]
  · rwa [ne_eq, ← String.toList_eq_nil_iff, toList_sanitize hne]

/-- **How clean a name is made.** With a clean default, whatever the text, the name is not empty,
holds nothing forbidden, and has no white space at its ends. It is clean, and then making it clean
again leaves it alone, unless white space covers a point at an end of what is left once points are
trimmed. -/
theorem sanitize_clean_iff {fallback : String} (h : IsClean fallback) (text : String) :
    let name := sanitize text fallback
    name ≠ "" ∧ IsAllowed name ∧ Trimmed isBlank name.toList ∧
      (IsClean name ↔ ¬ CoversPoint (unpointed text.toList)) ∧
      (sanitize name fallback = name ↔ IsClean name) := by
  intro name
  have hne : name ≠ "" := sanitize_ne_empty h.nonempty text
  have hself : sanitize name fallback = name ↔ IsClean name := sanitize_eq_self_iff h
  rw [← trimmed_cleaned_iff]
  by_cases hc : cleaned text.toList = []
  · have hname : name = fallback := by
      rcases sanitize_cases text fallback with ⟨-, hs⟩ | ⟨hc', -⟩
      · exact hs
      · exact absurd hc hc'
    have hclean : IsClean name := hname ▸ h
    refine ⟨hne, hclean.allowed, hclean.blanks, iff_of_true hclean ?_, hself⟩
    rw [hc]
    decide
  · have hlist : name.toList = cleaned text.toList := toList_sanitize hc fallback
    have hallowed : IsAllowed name := isAllowed_sanitize hc fallback
    have hblanks : Trimmed isBlank name.toList :=
      hlist ▸ trimmed_trimWhere isBlank (unpointed text.toList)
    refine ⟨hne, hallowed, hblanks, ?_, hself⟩
    exact ⟨fun hn => hlist ▸ hn.points, fun hp => ⟨hne, hallowed, hblanks, hlist ▸ hp⟩⟩

/-- White space and points at the ends, in turns that leave no point covered. -/
theorem sanitize_clean_iff_of_shots :
    IsClean "ComfyUI" ∧ ¬ CoversPoint (unpointed " ../out/shots: v2. ".toList) ∧
      sanitize " ../out/shots: v2. " "ComfyUI" = "outshots v2" ∧ IsClean "outshots v2" ∧
      sanitize "outshots v2" "ComfyUI" = "outshots v2" := by
  have hdefault : IsClean "ComfyUI" := by decide +kernel
  have hname : sanitize " ../out/shots: v2. " "ComfyUI" = "outshots v2" := by decide +kernel
  have hclean : IsClean "outshots v2" := by decide +kernel
  obtain ⟨-, -, -, hcovers, hself⟩ := sanitize_clean_iff hdefault " ../out/shots: v2. "
  rw [hname] at hcovers hself
  exact ⟨hdefault, hcovers.1 hclean, hname, hclean, hself.2 hclean⟩

/-- Points behind white space make a name that leads out of its folder, and one that is not left
alone when it is made clean again. -/
theorem sanitize_exposes_points :
    IsClean "ComfyUI" ∧ sanitize ". .. ." "ComfyUI" = ".." ∧ ¬ IsClean ".." ∧
      sanitize ".. .hidden" "ComfyUI" = ".hidden" ∧ ¬ IsClean ".hidden" ∧
      sanitize ".hidden" "ComfyUI" = "hidden" := by
  decide +kernel

end FilenamePrefix

namespace Compiler

open FilenamePrefix

/-! ## The prefix of a save node -/

variable {o : CompilerOptions}

theorem settledPrefix?_ne_empty (ho : o.defaultPrefix ≠ "") {v : Option Json} {text : String}
    (h : settledPrefix? o v = some text) : text ≠ "" := by
  unfold settledPrefix? at h
  split at h
  · obtain rfl := Option.some.inj h
    split
    · exact sanitize_ne_empty ho o.defaultPrefix
    · exact ho
  · split at h
    · obtain ⟨raw, -, rfl⟩ := Option.map_eq_some_iff.1 h
      exact sanitize_ne_empty ho raw
    · cases h

theorem usable_applyPrefix (ho : o.defaultPrefix ≠ "") (m : OrderedMap Json) :
    ∃ v, (applyPrefix o m).get? o.prefixInput = some v ∧ v ≠ .null ∧ v ≠ .text "" := by
  rw [get?_applyPrefix, if_pos rfl]
  cases hs : settledPrefix? o (m.get? o.prefixInput) with
  | some text =>
    have hne : text ≠ "" := settledPrefix?_ne_empty ho hs
    exact ⟨.text text, rfl, by simp, by simpa using hne⟩
  | none =>
    -- nothing is set, so that a prefix was there
    rw [Option.map_none, Option.none_or]
    refine prefixMissing_eq_false_iff.1 (Bool.eq_false_iff.2 fun hm => ?_)
    rw [settledPrefix?, if_pos hm] at hs
    cases hs

theorem get?_applyPrefix_of_usable {m : OrderedMap Json} {v : Json}
    (hm : m.get? o.prefixInput = some v) (hv : v ≠ .null ∧ v ≠ .text "")
    (h : o.sanitizePrefix = false ∨ v.isScalar = false) :
    (applyPrefix o m).get? o.prefixInput = some v := by
  have hmissing : prefixMissing (some v) = false := prefixMissing_eq_false_iff.2 ⟨v, rfl, hv⟩
  have hs : settledPrefix? o (some v) = none := by
    rw [settledPrefix?, if_neg (Bool.eq_false_iff.1 hmissing)]
    rcases h with h | h
    · exact if_neg (Bool.eq_false_iff.1 h)
    · have htext : prefixText? v = none := by
        cases v <;> first | rfl | cases h
      rw [Option.bind_some, htext, Option.map_none, ite_self]
  rw [get?_applyPrefix, if_pos rfl, hm, hs]
  rfl

variable {σ : Type} {lookup : String → StateM σ (List InputSpec)}

/-- **Save nodes always carry a usable prefix.** With a default that is not empty, every save node
of a compiled graph has an entry whose prefix is not null and not an empty text. What the layers of
the node set it to is left alone, null and the empty text aside, where prefixes are taken as they
stand; and an array, such as a connection, or an object is left alone in any case. Ids are distinct
in all graphs that are built (`filed_build`). -/
theorem save_prefix_usable (ho : o.defaultPrefix ≠ "") {g : Graph} (hg : g.ids.Nodup) {p : Prompt}
    {s s' : σ} (h : (compile lookup o g).run s = (.ok p, s')) :
    ∀ n ∈ g.nodes, n.typeName = o.saveType →
      ∃ e t t', p.get? n.id = some e ∧ (compileNode lookup o n).run t = (.ok e, t') ∧
        (∃ v, e.inputs.get? o.prefixInput = some v ∧ v ≠ .null ∧ v ≠ .text "") ∧
        ∀ v, Settled ((align lookup n).run t).1 n o.prefixInput v → v ≠ .null → v ≠ .text "" →
          o.sanitizePrefix = false ∨ v.isScalar = false →
          e.inputs.get? o.prefixInput = some v := by
  intro n hn ht
  obtain ⟨e, t, t', hget, hrun⟩ := get?_compile_run lookup hg h hn
  refine ⟨e, t, t', hget, hrun, ?_⟩
  obtain rfl := compileNode_run_eq_ok hrun
  have hinputs : (entry o ((specsOf lookup n).run t).1 n).inputs =
      applyPrefix o (layered ((specsOf lookup n).run t).1 n) := if_pos ht
  rw [hinputs]
  refine ⟨usable_applyPrefix ho _, fun v hv hnull hempty hkept => ?_⟩
  exact get?_applyPrefix_of_usable (get?_layered_eq_some_iff.2 hv) ⟨hnull, hempty⟩ hkept

/-- The prefix of one save node is null, that of another is wired, and prefixes are made clean. -/
theorem save_prefix_usable_of_wired :
    let lookup : String → StateM Unit (List InputSpec) := fun _ => pure []
    let o : CompilerOptions := {}
    let save (input : Json) : Json := .object [("class_type", .text "SaveImage"),
      ("inputs", .object [("filename_prefix", input)])]
    let g := Loading.ofJson {} (.object [("8", save .null), ("9", save (.array [.int 8, .int 0]))])
    o.defaultPrefix ≠ "" ∧ g.ids.Nodup ∧
      ∃ p, (compile lookup o g).run () = (.ok p, ()) ∧
        ∃ n ∈ g.nodes, n.id = "9" ∧ n.typeName = o.saveType ∧
          ∃ e, p.get? n.id = some e ∧
            (∃ v, e.inputs.get? o.prefixInput = some v ∧ v ≠ .null ∧ v ≠ .text "") ∧
            e.inputs.get? o.prefixInput = some (.array [.text "8", .nat 0]) := by
  intro lookup o save g
  have hp : (compile lookup o g).run () = (.ok (payload o (fun _ => []) g), ()) :=
    congrArg (fun m => StateT.run m ()) (compile_of_no_schemas rfl g)
  have ho : o.defaultPrefix ≠ "" := by decide
  have hids : g.ids.Nodup := by decide +kernel
  have hwired : ∃ n ∈ g.nodes, n.id = "9" ∧ n.typeName = o.saveType ∧ n.values = [] ∧
      n.overrides.get? o.prefixInput = none ∧
      n.connections.get? o.prefixInput = some ⟨"8", 0⟩ := by decide +kernel
  clear_value g
  obtain ⟨n, hn, hid, ht, hvalues, hover, hconn⟩ := hwired
  obtain ⟨e, t, t', hget, -, husable, hkept⟩ := save_prefix_usable ho hids hp n hn ht
  have hown : ((align lookup n).run t).1 = .empty := aligned_of_values_eq_nil hvalues _
  have hsettled : Settled ((align lookup n).run t).1 n o.prefixInput
      (.array [.text "8", .nat 0]) := by
    refine .wired (by simp [hover]) ?_ hconn
    rw [hown]
    rfl
  exact ⟨ho, hids, _, hp, n, hn, hid, ht, e, hget, husable,
    hkept _ hsettled (by simp) (by simp) (.inr rfl)⟩

end Compiler

end PromptGraph
