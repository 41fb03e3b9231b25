import Mathlib.Data.List.Forall2
import PromptGraph.Proofs.Decoding
import PromptGraph.Proofs.Payload

/-!
# Strict and lenient reading of prompts

Strict reading takes a table when each of its entries decodes (`table_object_eq_ok_iff`), lenient
reading takes the entries that decode and are not reserved (`Prompt.ofFields_entries`). What a
prompt writes is read back by both, and where strict reading succeeds, lenient reading differs by
the reserved keys only (`Prompt.readings_agree`).
-/

namespace PromptGraph

/-- The entries whose key satisfies a test. -/
def OrderedMap.restrict {V : Type} (m : OrderedMap V) (keep : String → Bool) : OrderedMap V :=
  ⟨m.entries.filter fun e => keep e.1, m.nodup.sublist (List.filter_sublist.map Prod.fst)⟩

namespace Decode

/-! ## Tables -/

variable {α : Type} {d : Decoder α}

/-- The entry is what the field decodes to. -/
def Reads (d : Decoder α) (field : String × Json) (entry : String × α) : Prop :=
  entry.1 = field.1 ∧ d field.2 = .ok entry.2

theorem keys_eq_of_reads {fs : Entries Json} {es : Entries α} (h : List.Forall₂ (Reads d) fs es) :
    es.keys = fs.keys := by
  induction h with
  | nil => rfl
  | cons hf _ ih => rw [Entries.keys_cons, Entries.keys_cons, ih, hf.1]

/-- Reading field by field enters what each decodes to, and stops where one does not decode. -/
theorem foldlM_eq_ok_iff {fs : Entries Json} {m m' : OrderedMap α} :
    fs.foldlM (fun m p => (d p.2).map (m.insert p.1)) m = .ok m' ↔
      ∃ es, List.Forall₂ (Reads d) fs es ∧ m' = m.insertAll es := by
  induction fs generalizing m with
  | nil =>
    constructor
    · rintro ⟨⟩
      exact ⟨[], .nil, rfl⟩
    · rintro ⟨es, ⟨⟩, rfl⟩
      rfl
  | cons f fs ih =>
    simp only [List.foldlM_cons, bind_eq_ok, map_eq_ok, ih]
    constructor
    · rintro ⟨_, ⟨a, ha, rfl⟩, es, hes, rfl⟩
      exact ⟨(f.1, a) :: es, .cons ⟨rfl, ha⟩ hes, rfl⟩
    · rintro ⟨_, hall, rfl⟩
      obtain ⟨e, es, he, hes, rfl⟩ := List.forall₂_cons_left_iff.1 hall
      exact ⟨_, ⟨e.2, he.2, rfl⟩, es, hes, by rw [← he.1]; rfl⟩

/-- **A table is read entry by entry**, in order, and each entry has to decode. -/
theorem table_object_eq_ok_iff {fs : OrderedMap Json} {m : OrderedMap α} :
    table d (.object fs.entries) = .ok m ↔ List.Forall₂ (Reads d) fs.entries m.entries := by
  refine foldlM_eq_ok_iff.trans ⟨?_, fun h => ⟨m.entries, h, m.ofList_entries.symm⟩⟩
  rintro ⟨es, hes, rfl⟩
  have hn : (Entries.keys es).Nodup := by
    rw [keys_eq_of_reads hes]
    exact fs.nodup
  have he : (OrderedMap.insertAll .empty es).entries = es := OrderedMap.entries_ofList_of_nodup hn
  rwa [he]

end Decode

open Decode

namespace Prompt

/-! ## Prompts -/

/-- The prompt without the entries under reserved keys. -/
def unreserved (p : Prompt) : Prompt := ⟨p.nodes.restrict fun id => !reservedKeys.contains id⟩

theorem nodeOf?_eq (field : String × Json) :
    nodeOf? field = (if field.1 ∈ reservedKeys then none
      else (PromptNode.decode field.2).toOption).map (field.1, ·) := by
  rw [nodeOf?]
  split <;> rfl

theorem keys_filterMap_nodeOf_sublist (fs : Entries Json) :
    (Entries.keys (fs.filterMap nodeOf?)).Sublist fs.keys := by
  rw [funext nodeOf?_eq]
  exact Entries.keys_filterMap_sublist _ fs

/-- **Lenient reading** keeps, in order, the fields that decode and are not reserved. -/
theorem ofFields_entries (fs : OrderedMap Json) :
    (ofFields fs.entries).nodes.entries = fs.entries.filterMap nodeOf? := by
  rw [ofFields, foldl_addField_eq]
  exact OrderedMap.entries_ofList_of_nodup
    (fs.nodup.sublist (keys_filterMap_nodeOf_sublist fs.entries))

theorem decode_eq_ok_iff {j : Json} {p : Prompt} :
    decode j = .ok p ↔ table PromptNode.decode j = .ok p.nodes := by
  rw [decode, map_eq_ok]
  constructor
  · rintro ⟨m, hm, rfl⟩
    exact hm
  · exact fun h => ⟨p.nodes, h, rfl⟩

theorem filterMap_nodeOf_of_reads {fs : Entries Json} {es : Entries PromptNode}
    (h : List.Forall₂ (Reads PromptNode.decode) fs es) :
    fs.filterMap nodeOf? = es.filter fun e => !reservedKeys.contains e.1 := by
  induction h with
  | nil => rfl
  | @cons f e fs es hf _ ih =>
    rw [List.filterMap_cons, List.filter_cons, ih, nodeOf?, hf.2, ← hf.1]
    by_cases hr : e.1 ∈ reservedKeys <;> simp [hr, Except.toOption]

/-- Where every entry decodes, the two ways of reading differ by the reserved keys. -/
theorem ofFields_eq_unreserved {fs : OrderedMap Json} {q : Prompt}
    (h : decode (.object fs.entries) = .ok q) : ofFields fs.entries = q.unreserved := by
  have hr := table_object_eq_ok_iff.1 (decode_eq_ok_iff.1 h)
  have hn : (ofFields fs.entries).nodes = q.unreserved.nodes := by
    refine OrderedMap.ext ?_
    rw [ofFields_entries, filterMap_nodeOf_of_reads hr]
    rfl
  exact congrArg mk hn

theorem decode_toJson (p : Prompt) : decode p.toJson = .ok p :=
  decode_eq_ok_iff.2 (table_object PromptNode.decode_toJson p.nodes)

/-- **Writing and both ways of reading agree.** A prompt is read back strictly as it is and
leniently without its reserved keys. Of any object, lenient reading takes what strict reading takes,
but for the reserved keys, and where that fails, the entries that decode and are not reserved. -/
theorem readings_agree (p : Prompt) (fs : OrderedMap Json) :
    decode p.toJson = .ok p ∧
      p.toJson = .object p.fields ∧ ofFields p.fields = p.unreserved ∧
      (∀ q, decode (.object fs.entries) = .ok q → ofFields fs.entries = q.unreserved) ∧
      (ofFields fs.entries).nodes.entries = fs.entries.filterMap nodeOf? := by
  have hp : decode (.object (p.nodes.mapValues PromptNode.toJson).entries) = .ok p :=
    p.decode_toJson
  exact ⟨p.decode_toJson, rfl, ofFields_eq_unreserved hp, fun q hq => ofFields_eq_unreserved hq,
    ofFields_entries fs⟩

/-- An entry written as an array, one without a class and with a null beside it, and three fields
that lenient reading leaves out: a reserved one, a bare text, and an entry with too many items. -/
example :
    (ofFields [("_defaults", .object []), ("4", .array [.text "VAEDecode", .object []]),
        ("n", .text "note"), ("6", .object [("inputs", .object []), ("_meta", .null)]),
        ("7", .array [.text "KSampler", .object [], .null, .null])]).nodes.entries =
      [("4", ⟨"VAEDecode", .empty, none⟩), ("6", ⟨"Unknown", .empty, none⟩)] := by
  decide

end Prompt

end PromptGraph
