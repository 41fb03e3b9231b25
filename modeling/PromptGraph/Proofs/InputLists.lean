import Mathlib.Data.List.Basic
import Mathlib.Data.List.Induction
import PromptGraph.Proofs.Maps
import PromptGraph.Schema.Catalog

/-!
# Lists of inputs

`Specifies ds specs`: the specs are those of the declarations `ds`, of each name the first. Adding a
declaration keeps it (`Specifies.addSpec`), so the inputs of an entry are the declared ones, each
once: those that the entry orders come first, and of two declarations of a name the required one
counts (`inputs_listed`).
-/

namespace PromptGraph

@[simp] theorem InputSpec.name_ofJson (name : String) (j : Json) :
    (InputSpec.ofJson name j).name = name := by
  unfold InputSpec.ofJson
  split <;> rfl

namespace Catalog

/-! ## One declaration after the other -/

/-- The specs are those of the declarations, of each name the first. -/
structure Specifies (ds : Entries Json) (specs : List InputSpec) : Prop where
  names : specs.map InputSpec.name = ds.keys.eraseDups
  nodup : (specs.map InputSpec.name).Nodup
  spec : ∀ s ∈ specs, ∃ d, ds.get? s.name = some d ∧ s = InputSpec.ofJson s.name d

theorem Specifies.nil : Specifies [] [] where
  names := rfl
  nodup := List.nodup_nil
  spec := by rintro s ⟨⟩

theorem Specifies.addSpec {ds : Entries Json} {specs : List InputSpec} (h : Specifies ds specs)
    (d : String × Json) : Specifies (ds ++ [d]) (addSpec specs d) := by
  have hmem : d.1 ∈ specs.map InputSpec.name ↔ d.1 ∈ ds.keys := by
    rw [h.names, List.mem_eraseDups]
  have hkeys : Entries.keys (ds ++ [d]) = ds.keys ++ [d.1] := by simp
  have hold : ∀ s ∈ specs, ∃ d', (ds ++ [d] : Entries Json).get? s.name = some d' ∧
      s = InputSpec.ofJson s.name d' := by
    intro s hs
    obtain ⟨d', hget, heq⟩ := h.spec s hs
    exact ⟨d', by rw [Entries.get?_append, hget, Option.some_or], heq⟩
  have hany : (specs.any fun s => s.name = d.1) = true ↔ d.1 ∈ specs.map InputSpec.name := by
    simp
  unfold Catalog.addSpec
  by_cases hd : d.1 ∈ ds.keys
  · rw [if_pos (hany.2 (hmem.2 hd))]
    refine ⟨?_, h.nodup, hold⟩
    rw [h.names, hkeys, eraseDups_append_singleton, if_pos hd]
  · have hnew : d.1 ∉ specs.map InputSpec.name := mt hmem.1 hd
    rw [if_neg (mt hany.1 hnew)]
    refine ⟨?_, ?_, ?_⟩
    · rw [List.map_append, h.names, hkeys, eraseDups_append_singleton, if_neg hd]
      simp
    · rw [List.map_append, List.nodup_append]
      refine ⟨h.nodup, by simp, ?_⟩
      rintro a ha b hb rfl
      simp at hb
      exact hnew (hb ▸ ha)
    · intro s hs
      rcases List.mem_append.1 hs with hs | hs
      · exact hold s hs
      · rw [List.mem_singleton.1 hs]
        refine ⟨d.2, ?_, by rw [InputSpec.name_ofJson]⟩
        rw [InputSpec.name_ofJson, Entries.get?_append, Entries.get?_eq_none_iff.2 hd]
        simp

theorem specifies_foldl (ds : Entries Json) : Specifies ds (ds.foldl Catalog.addSpec []) := by
  induction ds using List.reverseRecOn with
  | nil => exact Specifies.nil
  | append_singleton ds d ih =>
    rw [List.foldl_append]
    exact ih.addSpec d

/-! ## What an entry says -/

/-- The block of inputs is the first object under one of the block keys. -/
inductive FirstBlock (entry : Entries Json) : Entries Json → Prop where
  | found {before after : List String} {key : String} {fields : Entries Json} :
      blockKeys = before ++ key :: after → entry.get? key = some (.object fields) →
      (∀ k ∈ before, ∀ fs, entry.get? k ≠ some (.object fs)) → FirstBlock entry fields
  | missing : (∀ k ∈ blockKeys, ∀ fs, entry.get? k ≠ some (.object fs)) → FirstBlock entry []

/-- The object under a key, empty if there is none. -/
def objectAt (fields : Entries Json) (key : String) : Entries Json :=
  ((fields.get? key).bind Json.asObject?).getD []

/-- The texts in the array under a key. -/
def textsAt (fields : Entries Json) (key : String) : List String :=
  ((fields.get? key).map texts).getD []

/-- The names that an entry orders: a flat list, or the required ones and then the optional ones. -/
inductive Orders (entry : Entries Json) : List String → Prop where
  | flat {xs : List Json} : entry.get? "input_order" = some (.array xs) →
      Orders entry (xs.filterMap Json.asText?)
  | split {fs : Entries Json} : entry.get? "input_order" = some (.object fs) →
      Orders entry (textsAt fs "required" ++ textsAt fs "optional")
  | unordered : (∀ xs, entry.get? "input_order" ≠ some (.array xs)) →
      (∀ fs, entry.get? "input_order" ≠ some (.object fs)) → Orders entry []

theorem bind_asObject?_eq_some_iff {j : Option Json} {fs : List (String × Json)} :
    j.bind Json.asObject? = some fs ↔ j = some (.object fs) := by
  simp [Option.bind_eq_some_iff, Json.asObject?_eq_some_iff]

theorem firstBlock_block (entry : List (String × Json)) : FirstBlock entry (block entry) := by
  have hnone {k : String} (hk : (Entries.get? entry k).bind Json.asObject? = none) :
      ∀ fs, Entries.get? entry k ≠ some (.object fs) := by
    intro fs hfs
    rw [bind_asObject?_eq_some_iff.2 hfs] at hk
    cases hk
  unfold block
  cases hb : blockKeys.findSome? fun k => (Entries.get? entry k).bind Json.asObject? with
  | none => exact .missing fun k hk => hnone (List.findSome?_eq_none_iff.1 hb k hk)
  | some fs =>
    obtain ⟨before, key, after, hkeys, hfound, hbefore⟩ := List.findSome?_eq_some_iff.1 hb
    exact .found hkeys (bind_asObject?_eq_some_iff.1 hfound) fun k hk => hnone (hbefore k hk)

theorem orders_inputOrder (entry : List (String × Json)) : Orders entry (inputOrder entry) := by
  unfold inputOrder
  split
  · next xs hxs => exact .flat hxs
  · next fs hfs => simpa [textsAt] using Orders.split hfs
  · next harray hobject => exact .unordered harray hobject

/-! ## The inputs of an entry -/

theorem get?_declared (entry : List (String × Json)) (name : String) :
    Entries.get? (declared entry) name = ((objectAt (block entry) "required").get? name).or
      ((objectAt (block entry) "optional").get? name) :=
  Entries.get?_append ..

theorem keys_declared (entry : List (String × Json)) : Entries.keys (declared entry) =
    (objectAt (block entry) "required").keys ++ (objectAt (block entry) "optional").keys :=
  Entries.keys_append ..

theorem orderedDeclarations_eq (entry : List (String × Json)) : orderedDeclarations entry =
    (inputOrder entry).filterMap fun name =>
      (Entries.get? (declared entry) name).map (name, ·) := by
  unfold orderedDeclarations
  simp only [Entries.find?_key]

theorem keys_orderedDeclarations (entry : List (String × Json)) :
    Entries.keys (orderedDeclarations entry) =
      (inputOrder entry).filter fun name => name ∈ Entries.keys (declared entry) := by
  rw [orderedDeclarations_eq, Entries.keys, List.map_filterMap, ← List.filterMap_eq_filter]
  refine List.filterMap_congr fun name _ => ?_
  rw [Option.map_map, Option.guard]
  cases hd : Entries.get? (declared entry) name with
  | none =>
    have hn : name ∉ Entries.keys (declared entry) := Entries.get?_eq_none_iff.1 hd
    simp [hn]
  | some d =>
    have hn : name ∈ Entries.keys (declared entry) :=
      Entries.get?_isSome_iff.1 (hd ▸ rfl)
    simp [hn]

theorem get?_ordered_append (entry : List (String × Json)) (name : String) :
    Entries.get? (orderedDeclarations entry ++ declared entry) name =
      Entries.get? (declared entry) name := by
  rw [Entries.get?_append]
  cases ho : Entries.get? (orderedDeclarations entry) name with
  | none => rfl
  | some d =>
    have hmem := Entries.mem_of_get? ho
    rw [orderedDeclarations_eq, List.mem_filterMap] at hmem
    obtain ⟨other, -, hother⟩ := hmem
    obtain ⟨d', hget, heq⟩ := Option.map_eq_some_iff.1 hother
    cases heq
    rw [hget, Option.some_or]

theorem eraseDups_ordered_append (entry : List (String × Json)) :
    (Entries.keys (orderedDeclarations entry ++ declared entry)).eraseDups =
      ((inputOrder entry).filter fun name => name ∈ Entries.keys (declared entry)).eraseDups ++
        ((Entries.keys (declared entry)).filter fun name => name ∉ inputOrder entry).eraseDups := by
  have hrest : (Entries.keys (declared entry)).removeAll
        (Entries.keys (orderedDeclarations entry)) =
      (Entries.keys (declared entry)).filter fun name => name ∉ inputOrder entry := by
    rw [List.removeAll, keys_orderedDeclarations]
    refine List.filter_congr fun name hn => ?_
    simp [hn]
  rw [Entries.keys_append, List.eraseDups_append, hrest, keys_orderedDeclarations]

/-- **Lists of inputs are ordered, complete and without repetition.** The inputs of a type are the
names that the block of its entry declares, each once. The declared ones among the names that the
entry orders come first, in the order in which they are first named; then come the others, the
required ones before the optional ones, as declared. Each is read from its declaration, the required
one where there are two. -/
theorem inputs_listed {c : Catalog} {typeName : String} {entry : List (String × Json)}
    (h : c.find? typeName = some entry) :
    ∃ block order, FirstBlock entry block ∧ Orders entry order ∧
    let required := objectAt block "required"
    let optional := objectAt block "optional"
    let specs := c.inputs typeName
    (specs.map InputSpec.name).Nodup ∧
      (∀ name, name ∈ specs.map InputSpec.name ↔ name ∈ required.keys ∨ name ∈ optional.keys) ∧
      specs.map InputSpec.name =
        (order.filter fun name => name ∈ required.keys ∨ name ∈ optional.keys).eraseDups ++
          ((required.keys ++ optional.keys).filter fun name => name ∉ order).eraseDups ∧
      ∀ s ∈ specs, ∃ d, (required.get? s.name).or (optional.get? s.name) = some d ∧
        s = InputSpec.ofJson s.name d := by
  refine ⟨block entry, inputOrder entry, firstBlock_block entry, orders_inputOrder entry, ?_⟩
  intro required optional specs
  have hspecs : specs = entryInputs entry := by
    show c.inputs typeName = _
    rw [inputs, h]
  have hs : Specifies (orderedDeclarations entry ++ declared entry) specs :=
    hspecs ▸ specifies_foldl _
  have hdeclared : ∀ name, name ∈ Entries.keys (declared entry) ↔
      name ∈ required.keys ∨ name ∈ optional.keys := by
    intro name
    rw [keys_declared, List.mem_append]
  have hnames := hs.names
  rw [eraseDups_ordered_append] at hnames
  refine ⟨hs.nodup, fun name => ?_, ?_, fun s hmem => ?_⟩
  · rw [hs.names, List.mem_eraseDups, Entries.keys_append, List.mem_append,
      keys_orderedDeclarations, List.mem_filter, ← hdeclared]
    simp
  · simp only [hdeclared] at hnames
    rw [hnames, keys_declared]
  · obtain ⟨d, hget, heq⟩ := hs.spec s hmem
    rw [get?_ordered_append, get?_declared] at hget
    exact ⟨d, hget, heq⟩

/-- An order may repeat names, mention undeclared ones and hold what is no text; a name may be
declared as required and as optional. -/
theorem inputs_listed_of_sampler :
    let required : Entries Json := [("model", .array [.text "MODEL"]),
      ("seed", .array [.text "INT"]), ("steps", .array [.text "INT"])]
    let optional : Entries Json := [("seed", .array [.text "STRING"]),
      ("denoise", .array [.text "FLOAT"])]
    let entry : Entries Json := [("input", .null),
      ("inputs", .object [("optional", .object optional), ("required", .object required)]),
      ("input_order", .array [.text "denoise", .text "cfg", .nat 5, .text "seed", .text "denoise"])]
    let c : Catalog := ⟨[("KSampler", .object entry)]⟩
    let specs := c.inputs "KSampler"
    c.find? "KSampler" = some entry ∧ (specs.map InputSpec.name).Nodup ∧
      (∃ block order, FirstBlock entry block ∧ Orders entry order ∧
        specs.map InputSpec.name =
          (order.filter fun name => name ∈ (objectAt block "required").keys ∨
            name ∈ (objectAt block "optional").keys).eraseDups ++
          (((objectAt block "required").keys ++ (objectAt block "optional").keys).filter
            fun name => name ∉ order).eraseDups) ∧
      specs.map InputSpec.name = ["denoise", "seed", "model", "steps"] ∧
      specs.map InputSpec.tag =
        [some .float, some .int, some (.other "MODEL"), some .int] := by
  intro required optional entry c specs
  have hfind : c.find? "KSampler" = some entry := rfl
  obtain ⟨block, order, hblock, horder, hnodup, -, hnames, -⟩ := inputs_listed hfind
  exact ⟨hfind, hnodup, ⟨block, order, hblock, horder, hnames⟩, by decide +kernel,
    by decide +kernel⟩

end Catalog

end PromptGraph
