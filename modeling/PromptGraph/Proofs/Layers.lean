import PromptGraph.Compile.Basic
import PromptGraph.Proofs.Alignment
import PromptGraph.Proofs.References

/-!
# Layers of inputs

The inputs of an entry are what the connections write, then the literals: aligned widget values
under the overrides (`nodeInputs_entries`), where no input is both wired and overridden. The
prefix of a save node is set among the literals unless its input is wired; `settledPrefix?` says
which text it is given.
-/

namespace PromptGraph

namespace Compiler

def written (n : Node) : OrderedMap Json := n.connections.mapValues Connection.toJson

/-- Aligned values under overrides. -/
def literals (specs : List InputSpec) (n : Node) : OrderedMap Json :=
  n.overrides.entries.foldl overlay (aligned specs n)

@[simp] theorem keys_written (n : Node) : (written n).keys = n.connections.keys := by
  simp [written, OrderedMap.mapValues, OrderedMap.keys, Entries.keys, Function.comp_def]

theorem keys_entries_written (n : Node) :
    Entries.keys (written n).entries = n.connections.keys := keys_written n

theorem aligned_of_values_eq_nil {n : Node} (h : n.values = []) (specs : List InputSpec) :
    aligned specs n = .empty := by
  simp [aligned, h]

theorem mem_aligned {specs : List InputSpec} {n : Node} {p : String × Json}
    (h : p ∈ (aligned specs n).entries) : p.1 ∉ n.connections.keys ∧ p.2.isScalar = true := by
  rw [aligned] at h
  split at h
  · cases h
  · obtain ⟨hc, hs⟩ := Align.mem_align h
    refine ⟨fun hk => ?_, hs⟩
    rw [OrderedMap.contains_iff.2 hk] at hc
    cases hc

/-! ## Overrides -/

theorem mem_overlay {m : OrderedMap Json} {e p : String × Json}
    (h : p ∈ (overlay m e).entries) : p = e ∨ p ∈ m.entries := by
  rw [overlay] at h
  split at h
  · exact OrderedMap.mem_of_mem_insert h
  · rw [OrderedMap.insertNew] at h
    split at h
    · exact .inr h
    · exact OrderedMap.mem_of_mem_insert h

theorem mem_foldl_overlay {os : Entries Json} {m : OrderedMap Json} {p : String × Json}
    (h : p ∈ (os.foldl overlay m).entries) : p ∈ os ∨ p ∈ m.entries := by
  induction os generalizing m with
  | nil => exact .inr h
  | cons e os ih =>
    rcases ih h with h | h
    · exact .inl (List.mem_cons_of_mem _ h)
    · rcases mem_overlay h with rfl | h
      · exact .inl List.mem_cons_self
      · exact .inr h

theorem overlay_append {front : Entries Json} {m l : OrderedMap Json} {e : String × Json}
    (hm : m.entries = front ++ l.entries) (he : e.1 ∉ front.keys) :
    (overlay m e).entries = front ++ (overlay l e).entries := by
  have hput : (m.insert e.1 e.2).entries = front ++ (l.insert e.1 e.2).entries := by
    rw [OrderedMap.entries_insert, hm, Entries.put_append he, OrderedMap.entries_insert]
  have hmem : e.1 ∈ m.keys ↔ e.1 ∈ l.keys := by
    rw [OrderedMap.keys, hm, Entries.keys_append, List.mem_append]
    exact or_iff_right he
  unfold overlay
  split
  · exact hput
  · by_cases hl : e.1 ∈ l.keys
    · rw [OrderedMap.insertNew_of_mem hl, OrderedMap.insertNew_of_mem (hmem.2 hl), hm]
    · rw [OrderedMap.insertNew_of_notMem hl, OrderedMap.insertNew_of_notMem (hl ∘ hmem.1), hput]

theorem foldl_overlay_append {front os : Entries Json} {m l : OrderedMap Json}
    (hm : m.entries = front ++ l.entries) (ho : ∀ k ∈ os.keys, k ∉ front.keys) :
    (os.foldl overlay m).entries = front ++ (os.foldl overlay l).entries := by
  induction os generalizing m l with
  | nil => exact hm
  | cons e os ih =>
    rw [Entries.keys_cons, List.forall_mem_cons] at ho
    exact ih (overlay_append hm ho.1) ho.2

theorem foldl_overlay_of_nodup {os : Entries Json} {m : OrderedMap Json}
    (h : (m.keys ++ os.keys).Nodup) : (os.foldl overlay m).entries = m.entries ++ os := by
  induction os generalizing m with
  | nil => exact (List.append_nil _).symm
  | cons e os ih =>
    have he : e.1 ∉ m.keys := fun hm =>
      (List.nodup_append.1 h).2.2 e.1 hm e.1 List.mem_cons_self rfl
    have ho : (overlay m e).entries = m.entries ++ [e] := by
      unfold overlay
      rw [OrderedMap.insertNew_of_notMem he, ite_self, OrderedMap.entries_insert]
      exact Entries.put_of_notMem he
    have hk : (overlay m e).keys = m.keys ++ [e.1] := by
      rw [OrderedMap.keys, ho, Entries.keys_append]
      rfl
    rw [List.foldl_cons, ih (by rw [hk]; simpa using h), ho]
    simp

/-- **The layers**: what the connections write, then the literals. -/
theorem layered_entries {n : Node} (h : ∀ k ∈ n.overrides.keys, k ∉ n.connections.keys)
    (specs : List InputSpec) :
    (layered specs n).entries = (written n).entries ++ (literals specs n).entries := by
  have hbase : ((written n).insertAll (aligned specs n).entries).entries =
      (written n).entries ++ (aligned specs n).entries := by
    refine OrderedMap.entries_insertAll_of_nodup ?_
    rw [keys_written]
    refine List.nodup_append.2 ⟨n.connections.nodup, (aligned specs n).nodup, ?_⟩
    rintro a ha b hb rfl
    obtain ⟨p, hp, rfl⟩ := List.mem_map.1 hb
    exact (mem_aligned hp).1 ha
  refine foldl_overlay_append hbase fun k hk => ?_
  rw [keys_entries_written]
  exact h k hk

theorem mem_literals {specs : List InputSpec} {n : Node} {p : String × Json}
    (h : p ∈ (literals specs n).entries) : p ∈ n.overrides.entries ∨ p.2.isScalar = true :=
  (mem_foldl_overlay h).imp_right fun h => (mem_aligned h).2

/-! ## The prefix of a save node -/

/-- The text that replaces the value of a save node's prefix, unless the value stays. -/
def settledPrefix? (o : CompilerOptions) (v : Option Json) : Option String :=
  if prefixMissing v then
    some (if o.sanitizePrefix then FilenamePrefix.sanitize o.defaultPrefix o.defaultPrefix
      else o.defaultPrefix)
  else if o.sanitizePrefix then
    (v.bind prefixText?).map fun raw => FilenamePrefix.sanitize raw o.defaultPrefix
  else none

theorem applyPrefix_eq (o : CompilerOptions) (m : OrderedMap Json) :
    applyPrefix o m = match settledPrefix? o (m.get? o.prefixInput) with
      | some s => m.insert o.prefixInput (.text s)
      | none => m := by
  unfold applyPrefix settledPrefix?
  by_cases hm : prefixMissing (m.get? o.prefixInput) = true
  · simp only [hm, if_true, OrderedMap.get?_insert, Option.bind_some, prefixText?]
    split
    · exact OrderedMap.insert_insert ..
    · rfl
  · simp only [hm, Bool.false_eq_true, if_false]
    split
    · cases (m.get? o.prefixInput).bind prefixText? <;> rfl
    · rfl

theorem mem_applyPrefix {o : CompilerOptions} {m : OrderedMap Json} {p : String × Json}
    (h : p ∈ (applyPrefix o m).entries) : p.2.isScalar = true ∨ p ∈ m.entries := by
  rw [applyPrefix_eq] at h
  split at h
  · rcases OrderedMap.mem_of_mem_insert h with rfl | h
    · exact .inl rfl
    · exact .inr h
  · exact .inr h

theorem erase_applyPrefix (o : CompilerOptions) (m : OrderedMap Json) :
    (applyPrefix o m).erase o.prefixInput = m.erase o.prefixInput := by
  rw [applyPrefix_eq]
  split
  · exact OrderedMap.erase_insert ..
  · rfl

/-- A prefix that comes from another node stays. -/
theorem applyPrefix_of_wired {o : CompilerOptions} {m : OrderedMap Json} {c : Connection}
    (h : m.get? o.prefixInput = some c.toJson) : applyPrefix o m = m := by
  have hs : settledPrefix? o (some c.toJson) = none := by
    simp [settledPrefix?, prefixMissing, prefixText?, Connection.toJson]
  rw [applyPrefix_eq, h, hs]

theorem applyPrefix_append {o : CompilerOptions} {front : Entries Json} {m l : OrderedMap Json}
    (hm : m.entries = front ++ l.entries) (h : o.prefixInput ∉ front.keys) :
    (applyPrefix o m).entries = front ++ (applyPrefix o l).entries := by
  have hget : m.get? o.prefixInput = l.get? o.prefixInput := by
    rw [OrderedMap.get?, hm, Entries.get?_append, Entries.get?_eq_none_iff.2 h]
    rfl
  rw [applyPrefix_eq, applyPrefix_eq, hget]
  split
  · rw [OrderedMap.entries_insert, hm, Entries.put_append h, OrderedMap.entries_insert]
  · exact hm

theorem applyPrefix_idem {o : CompilerOptions} (h : o.sanitizePrefix = false)
    (m : OrderedMap Json) : applyPrefix o (applyPrefix o m) = applyPrefix o m := by
  have hs : ∀ v, settledPrefix? o v = if prefixMissing v then some o.defaultPrefix else none := by
    intro v; simp [settledPrefix?, h]
  rw [applyPrefix_eq o m, hs]
  by_cases hm : prefixMissing (m.get? o.prefixInput) = true
  · simp only [hm, if_true]
    rw [applyPrefix_eq, OrderedMap.get?_insert, if_pos rfl, hs]
    split
    · next s he =>
      split at he
      · cases he
        exact OrderedMap.insert_insert ..
      · cases he
    · rfl
  · simp only [hm, Bool.false_eq_true, if_false]
    rw [applyPrefix_eq, hs, if_neg hm]

/-- The inputs of an entry that do not come from connections. -/
def finalLiterals (o : CompilerOptions) (specs : List InputSpec) (n : Node) : OrderedMap Json :=
  if n.typeName = o.saveType ∧ o.prefixInput ∉ n.connections.keys
  then applyPrefix o (literals specs n) else literals specs n

/-- **The inputs of an entry**: what the connections write, then the literals. -/
theorem nodeInputs_entries {n : Node} (h : ∀ k ∈ n.overrides.keys, k ∉ n.connections.keys)
    (o : CompilerOptions) (specs : List InputSpec) :
    (nodeInputs o specs n).entries = (written n).entries ++ (finalLiterals o specs n).entries := by
  have hl := layered_entries h specs
  have hk := keys_entries_written n
  unfold nodeInputs finalLiterals
  by_cases ht : n.typeName = o.saveType
  · by_cases hp : o.prefixInput ∈ n.connections.keys
    · obtain ⟨e, he, hkey⟩ := List.mem_map.1 hp
      have hget : (layered specs n).get? o.prefixInput = some e.2.toJson := by
        refine OrderedMap.get?_of_mem ?_
        rw [hl]
        exact List.mem_append_left _ (List.mem_map.2 ⟨e, he, by rw [hkey]⟩)
      rw [if_pos ht, if_neg fun hc => hc.2 hp, applyPrefix_of_wired hget, hl]
    · rw [if_pos ht, if_pos ⟨ht, hp⟩]
      exact applyPrefix_append hl (hk ▸ hp)
  · rw [if_neg ht, if_neg fun hc => ht hc.1, hl]

theorem notMem_connections {n : Node} (h : ∀ k ∈ n.overrides.keys, k ∉ n.connections.keys)
    (o : CompilerOptions) (specs : List InputSpec) :
    ∀ k ∈ (finalLiterals o specs n).keys, k ∉ n.connections.keys := by
  have hn := (nodeInputs o specs n).nodup
  rw [nodeInputs_entries h, Entries.keys_append, keys_entries_written] at hn
  intro k hk hc
  exact (List.nodup_append.1 hn).2.2 k hc k hk rfl

theorem literals_of_values_eq_nil {n : Node} (h : n.values = []) (specs : List InputSpec) :
    literals specs n = n.overrides := by
  rw [literals, aligned_of_values_eq_nil h]
  exact OrderedMap.ext (foldl_overlay_of_nodup (m := .empty) n.overrides.nodup)

theorem mem_finalLiterals {o : CompilerOptions} {specs : List InputSpec} {n : Node}
    {p : String × Json} (h : p ∈ (finalLiterals o specs n).entries) :
    p ∈ n.overrides.entries ∨ p.2.isScalar = true := by
  unfold finalLiterals at h
  split at h
  · rcases mem_applyPrefix h with h | h
    · exact .inr h
    · exact mem_literals h
  · exact mem_literals h

end Compiler

end PromptGraph
