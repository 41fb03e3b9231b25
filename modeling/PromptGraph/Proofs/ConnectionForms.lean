import PromptGraph.Proofs.References
import PromptGraph.Proofs.WrittenSlots

/-!
# Forms of connections

`Writes j c` says in which ways a value can write a connection: ids are texts or integers, slots are
numbers or digits. Those whose slot fits 32 bits are read, just as they are written
(`ofJson?_eq_some_iff`), and all ways to write a connection come to the one that `toJson` gives
(`read_to_normal_form`).
-/

namespace PromptGraph.Connection

/-- The value writes the id: as a text that is not empty, or as an integer. -/
inductive WritesId : Json → NodeId → Prop
  | text {id : NodeId} (h : id ≠ "") : WritesId (.text id) id
  | integer (i : Int) : WritesId (.int i) (toString i)

/-- The value writes the slot: as a number, or as a text of digits. -/
inductive WritesSlot : Json → Nat → Prop
  | number (n : Nat) : WritesSlot (.nat n) n
  | text {s : String} {n : Nat} (h : Text.WritesNumber s n) : WritesSlot (.text s) n

/-- The value writes the connection, as a pair of an id and a slot of any size. -/
inductive Writes : Json → Connection → Prop
  | pair {id slot : Json} {c : Connection} (hid : WritesId id c.source)
      (hslot : WritesSlot slot c.slot) : Writes (.array [id, slot]) c

theorem nodeId_eq_some_iff {j : Json} {id : NodeId} :
    NodeId.ofJson? j = some id ↔ WritesId j id := by
  constructor
  · intro h
    have hne := NodeId.ne_empty_of_ofJson? h
    unfold NodeId.ofJson? at h
    split at h
    · split at h
      · cases h
      · cases h
        exact .text hne
    · cases h
      exact .integer _
    · cases h
  · rintro (h | i)
    · exact NodeId.ofJson?_text h
    · rfl

theorem slotNumber?_eq_some_iff {j : Json} {n : Nat} :
    slotNumber? j = some n ↔ j = .nat n ∧ n < Text.slotLimit := by
  constructor
  · intro h
    refine ⟨?_, slotNumber?_lt h⟩
    obtain ⟨hj, -⟩ := Option.filter_eq_some_iff.1 h
    unfold Json.asNat? at hj
    split at hj
    · next i =>
      split at hj
      · cases hj
        rw [Json.nat, Int.toNat_of_nonneg ‹0 ≤ i›]
      · cases hj
    · cases hj
  · rintro ⟨rfl, h⟩
    exact slotNumber?_nat h

theorem slot?_eq_some_iff {j : Json} {n : Nat} :
    slot? j = some n ↔ WritesSlot j n ∧ n < Text.slotLimit := by
  constructor
  · intro h
    refine ⟨?_, slot?_lt h⟩
    unfold slot? at h
    split at h
    · exact .text (Text.readSlot?_eq_some_iff.1 h).1
    · obtain ⟨rfl, -⟩ := slotNumber?_eq_some_iff.1 h
      exact .number n
  · rintro ⟨hw, hn⟩
    cases hw with
    | number => exact slotNumber?_nat hn
    | text hs => exact Text.readSlot?_eq_some_iff.2 ⟨hs, hn⟩

/-- **Connections are read exactly** from the values that write them with a slot of 32 bits. -/
theorem ofJson?_eq_some_iff {j : Json} {c : Connection} :
    ofJson? j = some c ↔ Writes j c ∧ c.slot < Text.slotLimit := by
  constructor
  · intro h
    unfold ofJson? at h
    split at h
    · simp only [Option.bind_eq_bind, Option.bind_eq_some_iff] at h
      obtain ⟨source, hs, slot, hn, h⟩ := h
      cases h
      obtain ⟨hw, hlt⟩ := slot?_eq_some_iff.1 hn
      exact ⟨.pair (nodeId_eq_some_iff.1 hs) hw, hlt⟩
    · cases h
  · rintro ⟨⟨hid, hslot⟩, hlt⟩
    simp only [ofJson?, nodeId_eq_some_iff.2 hid, slot?_eq_some_iff.2 ⟨hslot, hlt⟩,
      Option.bind_eq_bind, Option.bind_some]
    rfl

/-- **Every connection that is read has one normal form.** A value is read as a connection exactly
when it writes it, and the slot, whole, fits 32 bits. The source has an id then, and the connection
is read back from its normal form; so is every connection to a slot of 32 bits whose source has an
id, and no other. -/
theorem read_to_normal_form :
    (∀ (j : Json) (c : Connection),
      ofJson? j = some c ↔ Writes j c ∧ c.slot < Text.slotLimit) ∧
    (∀ (j : Json) (c : Connection),
      ofJson? j = some c → c.source ≠ "" ∧ ofJson? c.toJson = some c) ∧
    ∀ c : Connection, ofJson? c.toJson = some c ↔ c.source ≠ "" ∧ c.slot < Text.slotLimit := by
  refine ⟨fun _ _ => ofJson?_eq_some_iff, fun j c h => ?_, fun c => ⟨fun h => ?_, ?_⟩⟩
  · have hr : Readable c := readable_of_ofJson? h
    exact ⟨hr.source_ne_empty, ofJson?_toJson hr⟩
  · have hr : Readable c := readable_of_ofJson? h
    exact ⟨hr.source_ne_empty, hr.slot_lt⟩
  · rintro ⟨hs, hlt⟩
    exact ofJson?_toJson ⟨hs, hlt⟩

/-- An integer and padded digits come to a text and a number; one more than 32 bits can hold is
refused, not cut. -/
example :
    ofJson? (.array [.int (-7), .text " +00004294967295 "]) = some ⟨"-7", 4294967295⟩ ∧
      toJson ⟨"-7", 4294967295⟩ = .array [.text "-7", .nat 4294967295] ∧
      ofJson? (.array [.int (-7), .text "4294967296"]) = none := by
  decide +kernel

end PromptGraph.Connection
