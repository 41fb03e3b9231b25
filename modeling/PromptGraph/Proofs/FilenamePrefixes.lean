import PromptGraph.Loading.Basic
import PromptGraph.Proofs.Precedence

/-!
# File name prefixes in compiled prompts

The prefix of a save node is made from what the layers set it to, or from the default where that is
missing (`RawPrefix`). Made clean it holds none of the forbidden characters, unless nothing is left
of it and a default that holds some takes its place as it stands (`isAllowed_sanitize_iff`). So
these are the prefixes that leave with a separator (`compiled_prefix_allowed`), and they do
(`separator_of_default_compiled`).
-/

namespace PromptGraph

theorem Text.mem_of_mem_trimWhere {p : Char → Bool} {cs : List Char} {c : Char}
    (h : c ∈ trimWhere p cs) : c ∈ cs := by
  rw [trimWhere, List.mem_reverse] at h
  have hfront : c ∈ cs.dropWhile p := List.mem_reverse.1 ((List.dropWhile_sublist p).mem h)
  exact (List.dropWhile_sublist p).mem hfront

namespace FilenamePrefix

/-- The text holds no separator and no reserved character. -/
def IsAllowed (text : String) : Prop := ∀ c ∈ text.toList, c ∉ forbidden

instance (text : String) : Decidable (IsAllowed text) :=
  List.decidableBAll (fun c => c ∉ forbidden) text.toList

theorem mem_cleaned {cs : List Char} {c : Char} (h : c ∈ cleaned cs) : c ∈ cs ∧ c ∉ forbidden := by
  have hkept := Text.mem_of_mem_trimWhere (Text.mem_of_mem_trimWhere (Text.mem_of_mem_trimWhere h))
  obtain ⟨hmem, hc⟩ := List.mem_filter.1 hkept
  refine ⟨hmem, fun hf => ?_⟩
  rw [List.contains_iff_mem.2 hf] at hc
  cases hc

theorem sanitize_cases (text fallback : String) :
    cleaned text.toList = [] ∧ sanitize text fallback = fallback ∨
      cleaned text.toList ≠ [] ∧ sanitize text fallback = String.ofList (cleaned text.toList) := by
  unfold sanitize
  cases cleaned text.toList with
  | nil => exact .inl ⟨rfl, rfl⟩
  | cons c cs => exact .inr ⟨List.cons_ne_nil c cs, rfl⟩

theorem isAllowed_sanitize {text : String} (h : cleaned text.toList ≠ []) (fallback : String) :
    IsAllowed (sanitize text fallback) := by
  rcases sanitize_cases text fallback with ⟨hnil, -⟩ | ⟨-, hs⟩
  · exact absurd hnil h
  · intro c hc
    rw [hs, String.toList_ofList] at hc
    exact (mem_cleaned hc).2

/-- Nothing forbidden is left, unless it is in a default that takes the place of the text. -/
theorem isAllowed_sanitize_iff (text fallback : String) :
    IsAllowed (sanitize text fallback) ↔ IsAllowed fallback ∨ cleaned text.toList ≠ [] := by
  by_cases hc : cleaned text.toList = []
  · have hs : sanitize text fallback = fallback :=
      (sanitize_cases text fallback).elim And.right fun h => absurd hc h.1
    rw [hs, or_iff_left (not_not_intro hc)]
  · exact iff_of_true (isAllowed_sanitize hc fallback) (.inr hc)

end FilenamePrefix

namespace Compiler

open FilenamePrefix

/-- The text that the prefix of a save node is made from, where `own` is what its widget values are
aligned with. -/
inductive RawPrefix (o : CompilerOptions) (own : OrderedMap Json) (n : Node) : String → Prop where
  | text {s : String} : Settled own n o.prefixInput (.text s) → s ≠ "" → RawPrefix o own n s
  | number {x : Number} : Settled own n o.prefixInput (.number x) →
      RawPrefix o own n (Json.numberText x)
  | bool {b : Bool} : Settled own n o.prefixInput (.bool b) →
      RawPrefix o own n (if b then "true" else "false")
  /-- The default stands in for no prefix, null, and the empty text. -/
  | missing : (∀ v, Settled own n o.prefixInput v → v = .null ∨ v = .text "") →
      RawPrefix o own n o.defaultPrefix

/-- The same by what the layers set the prefix to, if they do. -/
def rawPrefix? (o : CompilerOptions) (v : Option Json) : Option String :=
  if prefixMissing v then some o.defaultPrefix else v.bind prefixText?

variable {o : CompilerOptions} {specs : List InputSpec} {n : Node} {raw : String}

theorem prefixMissing_eq_false_iff {v : Option Json} :
    prefixMissing v = false ↔ ∃ u, v = some u ∧ u ≠ .null ∧ u ≠ .text "" := by
  cases v with
  | none => simp [prefixMissing]
  | some u => cases u <;> simp [prefixMissing]

theorem rawPrefix_iff : RawPrefix o (aligned specs n) n raw ↔
    rawPrefix? o ((layered specs n).get? o.prefixInput) = some raw := by
  unfold rawPrefix?
  constructor
  · rintro (⟨hs, hne⟩ | hs | hs | hnone)
    · rw [get?_layered_eq_some_iff.2 hs]
      simp [prefixMissing, prefixText?, hne]
    · rw [get?_layered_eq_some_iff.2 hs]
      rfl
    · rw [get?_layered_eq_some_iff.2 hs]
      rfl
    · refine if_pos (Bool.not_eq_false _ ▸ fun hm => ?_)
      obtain ⟨v, hv, hnull, hempty⟩ := prefixMissing_eq_false_iff.1 hm
      exact (hnone v (get?_layered_eq_some_iff.1 hv)).elim hnull hempty
  · intro h
    split at h
    · next hm =>
      cases h
      refine .missing fun v hv => ?_
      rw [get?_layered_eq_some_iff.2 hv] at hm
      by_contra hv'
      rw [prefixMissing_eq_false_iff.2 ⟨v, rfl, not_or.1 hv'⟩] at hm
      cases hm
    · next hm =>
      obtain ⟨v, hv, hraw⟩ := Option.bind_eq_some_iff.1 h
      have hs := get?_layered_eq_some_iff.1 hv
      cases v with
      | text s =>
        cases hraw
        refine .text hs ?_
        rintro rfl
        exact hm (by rw [hv]; rfl)
      | number x => exact Option.some.inj hraw ▸ .number hs
      | bool b => exact Option.some.inj hraw ▸ .bool hs
      | _ => cases hraw

theorem RawPrefix.unique {raw' : String} (h : RawPrefix o (aligned specs n) n raw)
    (h' : RawPrefix o (aligned specs n) n raw') : raw = raw' :=
  Option.some.inj ((rawPrefix_iff.1 h).symm.trans (rawPrefix_iff.1 h'))

theorem settledPrefix?_eq (ho : o.sanitizePrefix = true) (v : Option Json) :
    settledPrefix? o v = (rawPrefix? o v).map fun raw => sanitize raw o.defaultPrefix := by
  unfold settledPrefix? rawPrefix?
  rw [if_pos ho, if_pos ho]
  split <;> rfl

theorem rawPrefix?_text_ne_none (text : String) : rawPrefix? o (some (.text text)) ≠ none := by
  unfold rawPrefix?
  split <;> simp [prefixText?]

/-- Where prefixes are made clean, a text is never left as it is. -/
theorem get?_applyPrefix_eq_text_iff (ho : o.sanitizePrefix = true) {text : String} :
    (applyPrefix o (layered specs n)).get? o.prefixInput = some (.text text) ↔
      ∃ raw, RawPrefix o (aligned specs n) n raw ∧ text = sanitize raw o.defaultPrefix := by
  simp only [rawPrefix_iff]
  rw [get?_applyPrefix, if_pos rfl, settledPrefix?_eq ho]
  generalize (layered specs n).get? o.prefixInput = v
  cases hr : rawPrefix? o v with
  | some raw => simp [eq_comm]
  | none =>
    refine iff_of_false (fun h => ?_) (by simp)
    have hv : v = some (.text text) := h
    exact rawPrefix?_text_ne_none text (hv ▸ hr)

/-- **No separator leaves the compiler** but in the default: where prefixes are made clean, the
prefix of a save node, if it is a text, is the raw prefix made clean. It holds a forbidden character
exactly if the default does and nothing is left of the raw prefix, which is the default itself where
no prefix is given. -/
theorem compiled_prefix_allowed {σ : Type} (lookup : String → StateM σ (List InputSpec))
    (ho : o.sanitizePrefix = true) {g : Graph} {p : Prompt} {s s' : σ}
    (h : (compile lookup o g).run s = (.ok p, s')) :
    ∀ e ∈ p.nodes.entries, e.2.classType = o.saveType →
      ∃ n ∈ g.nodes, n.id = e.1 ∧ ∃ t t', (compileNode lookup o n).run t = (.ok e.2, t') ∧
        let own := ((align lookup n).run t).1
        (∀ text, e.2.inputs.get? o.prefixInput = some (.text text) ↔
          ∃ raw, RawPrefix o own n raw ∧ text = sanitize raw o.defaultPrefix) ∧
        ∀ raw text, RawPrefix o own n raw → e.2.inputs.get? o.prefixInput = some (.text text) →
          (¬ IsAllowed text ↔ ¬ IsAllowed o.defaultPrefix ∧ cleaned raw.toList = []) := by
  intro e he ht
  obtain ⟨n, hn, hid, t, t', hrun⟩ := mem_compile_run lookup h he
  refine ⟨n, hn, hid, t, t', hrun, ?_⟩
  have hentry := compileNode_run_eq_ok hrun
  have hn : nodeInputs o ((specsOf lookup n).run t).1 n =
      applyPrefix o (layered ((specsOf lookup n).run t).1 n) := if_pos (by rw [← ht, hentry]; rfl)
  have htext (text : String) : e.2.inputs.get? o.prefixInput = some (.text text) ↔ ∃ raw,
      RawPrefix o ((align lookup n).run t).1 n raw ∧ text = sanitize raw o.defaultPrefix := by
    rw [hentry, entry, hn]
    exact get?_applyPrefix_eq_text_iff ho
  refine ⟨htext, fun raw text hraw hget => ?_⟩
  obtain ⟨raw', hraw', hmade⟩ := (htext text).1 hget
  rw [hmade, hraw'.unique hraw, isAllowed_sanitize_iff, not_or, not_not]

/-- No prefix is given, and the default holds a separator. -/
theorem compiled_prefix_allowed_of_missing :
    let lookup : String → StateM Unit (List InputSpec) := fun _ => pure []
    let o : CompilerOptions := { defaultPrefix := "out/img" }
    let g := Loading.ofJson {} (.object [("9", .object [("class_type", .text "SaveImage"),
      ("inputs", .object [("images", .array [.text "8", .int 0])])])])
    o.sanitizePrefix = true ∧ ∃ p, (compile lookup o g).run () = (.ok p, ()) ∧
      ∃ e ∈ p.nodes.entries, e.2.classType = o.saveType ∧
        e.2.inputs.get? o.prefixInput = some (.text "outimg") ∧
        ∃ n ∈ g.nodes, n.id = e.1 ∧ ∃ t t', (compileNode lookup o n).run t = (.ok e.2, t') ∧
          RawPrefix o ((align lookup n).run t).1 n "out/img" ∧
          (¬ IsAllowed "outimg" ↔ ¬ IsAllowed "out/img" ∧ cleaned "out/img".toList = []) ∧
          IsAllowed "outimg" := by
  intro lookup o g
  have hp : (compile lookup o g).run () = (.ok (payload o (fun _ => []) g), ()) :=
    congrArg (fun m => StateT.run m ()) (compile_of_no_schemas rfl g)
  have hids : g.ids.Nodup := by decide +kernel
  have hbare : ∀ n ∈ g.nodes, n.values = [] ∧ n.overrides.get? o.prefixInput = none ∧
      n.connections.get? o.prefixInput = none := by decide +kernel
  have hsaved : ∃ n ∈ g.nodes, n.typeName = o.saveType ∧
      (nodeInputs o [] n).get? o.prefixInput = some (.text "outimg") := by decide +kernel
  clear_value g
  obtain ⟨n, hn, ht, htext⟩ := hsaved
  have he := OrderedMap.mem_entries_iff.2 (get?_payload hids o (fun _ => []) hn)
  obtain ⟨n', hn', hid, t, t', hrun, -, hallowed⟩ := compiled_prefix_allowed lookup rfl hp _ he ht
  have hraw : RawPrefix o ((align lookup n').run t).1 n' "out/img" := by
    obtain ⟨hvalues, hover, hconn⟩ := hbare n' hn'
    have hown : ((align lookup n').run t).1 = .empty := aligned_of_values_eq_nil hvalues _
    rw [hown]
    refine .missing fun v hv => ?_
    cases hv with
    | scalar h _ => rw [hover] at h; cases h
    | aligned _ h => cases h
    | wired _ _ h => rw [hconn] at h; cases h
    | compound h _ _ _ => rw [hover] at h; cases h
  exact ⟨rfl, _, hp, _, he, ht, htext, n', hn', hid, t, t', hrun, hraw, hallowed _ _ hraw htext,
    by decide +kernel⟩

/-- A prefix of which nothing is left gives way to a default with a separator. -/
theorem separator_of_default_compiled :
    let answers : String → Id (List InputSpec) := fun _ => pure []
    let o : CompilerOptions := { defaultPrefix := "out/img" }
    let g := Loading.ofJson {} (.object [("9", .object [("class_type", .text "SaveImage"),
      ("inputs", .object [("filename_prefix", .text "???")])])])
    o.sanitizePrefix = true ∧ ∃ p, (compile answers o g).run = .ok p ∧
      ∃ e ∈ p.nodes.entries, e.2.classType = o.saveType ∧
        e.2.inputs.get? o.prefixInput = some (.text "out/img") ∧ ¬ IsAllowed "out/img" := by
  intro answers o g
  have hp : (compile answers o g).run = .ok (payload o (fun _ => []) g) :=
    congrArg Id.run (compile_of_no_schemas rfl g)
  have hids : g.ids.Nodup := by decide +kernel
  have hsaved : ∃ n ∈ g.nodes, n.typeName = o.saveType ∧
      (nodeInputs o [] n).get? o.prefixInput = some (.text "out/img") := by decide +kernel
  clear_value g
  obtain ⟨n, hn, ht, htext⟩ := hsaved
  have he := OrderedMap.mem_entries_iff.2 (get?_payload hids o (fun _ => []) hn)
  exact ⟨rfl, _, hp, _, he, ht, htext, by decide +kernel⟩

end Compiler

end PromptGraph
