import PromptGraph.Document.NodeId

/-!
# Written ids and connections

`Connection.Readable c` says that `c` has a source id and a slot number of 32 bits; exactly the
connections that are read are such, and they are read back from what they write. Scalars never
write a connection, and integers write ids of digits and signs only.
-/

namespace PromptGraph

namespace NodeId

theorem ofJson?_text {id : NodeId} (h : id ≠ "") : ofJson? (.text id) = some id := by
  have he : id.isEmpty = false := by simpa using h
  simp [ofJson?, he]

theorem written_int (i : Int) :
    toString i ≠ "" ∧ ∀ c ∈ (toString i).toList, c.isDigit = true ∨ c = '-' := by
  have hn : ∀ n : Nat, n.repr ≠ "" ∧ ∀ c ∈ n.repr.toList, c.isDigit = true := by
    intro n
    refine ⟨fun h => ?_, fun c hc => ?_⟩
    · have := congrArg String.toList h
      simp [Nat.repr] at this
    · rw [Nat.repr, String.toList_ofList] at hc
      exact Nat.isDigit_of_mem_toDigits (by omega) (by omega) hc
  cases i with
  | ofNat n => exact ⟨(hn n).1, fun c hc => .inl ((hn n).2 c hc)⟩
  | negSucc n =>
    have he : toString (Int.negSucc n) = "-" ++ (n + 1).repr := rfl
    rw [he, String.toList_append]
    refine ⟨by simp, fun c hc => ?_⟩
    rcases List.mem_append.1 hc with hc | hc
    · exact .inr (List.mem_singleton.1 hc)
    · exact .inl ((hn (n + 1)).2 c hc)

theorem ne_empty_of_ofJson? {j : Json} {id : NodeId} (h : ofJson? j = some id) : id ≠ "" := by
  unfold ofJson? at h
  split at h
  · split at h
    · cases h
    · next s he =>
      cases h
      simpa using he
  · next i =>
    cases h
    exact (written_int i).1
  · cases h

end NodeId

namespace Connection

/-- What is written of the connection is read back. -/
structure Readable (c : Connection) : Prop where
  source_ne_empty : c.source ≠ ""
  slot_lt : c.slot < Text.slotLimit

theorem slotNumber?_nat {n : Nat} (h : n < Text.slotLimit) : slotNumber? (.nat n) = some n := by
  simp [slotNumber?, Json.asNat?, Option.filter, h]

theorem slotNumber?_lt {j : Json} {n : Nat} (h : slotNumber? j = some n) : n < Text.slotLimit := by
  obtain ⟨-, h⟩ := Option.filter_eq_some_iff.1 h
  exact of_decide_eq_true h

theorem slot?_lt {j : Json} {n : Nat} (h : slot? j = some n) : n < Text.slotLimit := by
  unfold slot? at h
  split at h
  · obtain ⟨-, h⟩ := Option.filter_eq_some_iff.1 h
    exact of_decide_eq_true h
  · exact slotNumber?_lt h

theorem readable_of_ofJson? {j : Json} {c : Connection} (h : ofJson? j = some c) : Readable c := by
  unfold ofJson? at h
  split at h
  · simp only [Option.bind_eq_bind, Option.bind_eq_some_iff] at h
    obtain ⟨source, hs, slot, hn, h⟩ := h
    cases h
    exact ⟨NodeId.ne_empty_of_ofJson? hs, slot?_lt hn⟩
  · cases h

theorem ofJson?_toJson {c : Connection} (h : Readable c) : ofJson? c.toJson = some c := by
  have hs : slot? (.nat c.slot) = some c.slot := slotNumber?_nat h.slot_lt
  simp only [toJson, ofJson?, NodeId.ofJson?_text h.source_ne_empty, hs, Option.bind_eq_bind,
    Option.bind_some]
  rfl

/-- Only a source without an id is lost. -/
theorem ofJson?_toJson_of_slot {c : Connection} (h : c.slot < Text.slotLimit) :
    ofJson? c.toJson = if c.source = "" then none else some c := by
  split
  · next hs => simp [toJson, ofJson?, NodeId.ofJson?, hs]
  · next hs => exact ofJson?_toJson ⟨hs, h⟩

theorem ofJson?_of_isScalar {j : Json} (h : j.isScalar = true) : ofJson? j = none := by
  cases j <;> first | rfl | cases h

end Connection

end PromptGraph
