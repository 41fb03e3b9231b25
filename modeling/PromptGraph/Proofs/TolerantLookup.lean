import PromptGraph.Proofs.Maps
import PromptGraph.Schema.Catalog

/-!
# What a lookup tolerates

A type that is not listed by its exact name is looked up in three more ways, the closest likeness
first (`likenesses`, `find?_eq`). What is found is called like the type (`Resembles`), with one
exception: all names without a letter and without a digit come to the same empty form, so each of
them finds what any other names (`answersTo_iff`, `lookup_tolerance`).
-/

namespace PromptGraph

theorem Text.lowerChar_ne_nil (ch : Char) : lowerChar ch ≠ [] := by
  unfold lowerChar
  split
  · simp
  · split <;> simp

namespace Catalog

/-! ## Likenesses -/

/-- The name has neither a letter nor a digit. -/
def Wordless (name : String) : Prop := ∀ ch ∈ name.toList, Text.isAlphanumeric ch = false

instance (name : String) : Decidable (Wordless name) := List.decidableBAll _ name.toList

/-- The name is the type's but for case, or has the same letters and digits and at least one. -/
def Resembles (typeName name : String) : Prop :=
  name = typeName ∨ Text.toLower name = Text.toLower typeName ∨
    normalize name = normalize typeName ∧ normalize typeName ≠ ""

instance (typeName name : String) : Decidable (Resembles typeName name) :=
  inferInstanceAs (Decidable (_ ∨ _ ∨ _))

/-- An entry is called by its key and by the texts in its name fields. -/
def Called (key : String) (entry : Entries Json) (name : String) : Prop :=
  name = key ∨ ∃ field ∈ nameFields, entry.get? field = some (.text name)

/-- In what an entry may be like a type, the closest likeness first. -/
def likenesses (typeName : String) : List (String × List (String × Json) → Bool) :=
  [fun e => Text.toLower e.1 = Text.toLower typeName,
    fun e => normalize e.1 = normalize typeName,
    fun e => (ownNames e.2).any (answersTo typeName)]

theorem normalize_eq_empty_iff {name : String} : normalize name = "" ↔ Wordless name := by
  have hempty : normalize name = "" ↔
      (name.toList.filter Text.isAlphanumeric).flatMap Text.lowerChar = [] := by
    rw [normalize, ← String.toList_inj, String.toList_ofList]
    rfl
  rw [hempty, List.flatMap_eq_nil_iff]
  simp [Text.lowerChar_ne_nil, Wordless]

/-- A name answers to a type that it resembles, and a name without letters and digits to every type
without them. -/
theorem answersTo_iff {typeName name : String} : answersTo typeName name = true ↔
    Resembles typeName name ∨ Wordless typeName ∧ Wordless name := by
  simp only [answersTo, Resembles, ← normalize_eq_empty_iff, Bool.or_eq_true, decide_eq_true_eq]
  constructor
  · rintro ((h | h) | h)
    · exact .inl (.inl h)
    · exact .inl (.inr (.inl h))
    · by_cases he : normalize typeName = ""
      · exact .inr ⟨he, h.trans he⟩
      · exact .inl (.inr (.inr ⟨h, he⟩))
  · rintro ((h | h | ⟨h, -⟩) | ⟨ht, hn⟩)
    · exact .inl (.inl h)
    · exact .inl (.inr h)
    · exact .inr h
    · exact .inr (hn.trans ht.symm)

theorem mem_ownNames_iff {entry : List (String × Json)} {name : String} : name ∈ ownNames entry ↔
    ∃ field ∈ nameFields, Entries.get? entry field = some (.text name) := by
  have htext {j : Json} : j.asText? = some name ↔ j = .text name := by
    cases j <;> simp [Json.asText?]
  simp [ownNames, List.mem_filterMap, Option.bind_eq_some_iff, htext]

theorem exists_likeness_iff {typeName key : String} {entry : List (String × Json)} :
    (∃ like ∈ likenesses typeName, like (key, entry) = true) ↔
      ∃ name, Called key entry name ∧ answersTo typeName name = true := by
  simp only [likenesses, List.mem_cons, List.not_mem_nil, or_false, exists_eq_or_imp,
    exists_eq_left, decide_eq_true_eq, List.any_eq_true, mem_ownNames_iff]
  constructor
  · rintro (h | h | ⟨name, hname, h⟩)
    · exact ⟨key, .inl rfl, by simp [answersTo, h]⟩
    · exact ⟨key, .inl rfl, by simp [answersTo, h]⟩
    · exact ⟨name, .inr hname, h⟩
  · rintro ⟨name, rfl | hname, h⟩
    · simp only [answersTo, Bool.or_eq_true, decide_eq_true_eq] at h
      rcases h with (rfl | h) | h
      · exact .inl rfl
      · exact .inl h
      · exact .inr (.inl h)
    · exact .inr (.inr ⟨name, hname, h⟩)

/-! ## The entry that is found -/

variable {c : Catalog} {typeName key : String} {entry : List (String × Json)}

theorem mem_objects_iff : (key, entry) ∈ c.objects ↔ (key, .object entry) ∈ c.entries := by
  simp only [objects, List.mem_filterMap, Option.map_eq_some_iff, Json.asObject?_eq_some_iff]
  constructor
  · rintro ⟨⟨k, j⟩, hmem, fs, rfl, heq⟩
    cases heq
    exact hmem
  · intro hmem
    exact ⟨_, hmem, entry, rfl, rfl⟩

/-- A lookup takes the entry of the exact name, or else the first of the closest likeness. -/
theorem find?_eq (c : Catalog) (typeName : String) : c.find? typeName =
    if typeName = "" then none
    else ((Entries.get? c.entries typeName).bind Json.asObject?).or
      (((likenesses typeName).findSome? fun like => c.objects.find? like).map Prod.snd) := by
  have hlike : ((likenesses typeName).findSome? fun like => c.objects.find? like) =
      (c.objects.find? fun e => Text.toLower e.1 = Text.toLower typeName).or
        ((c.objects.find? fun e => normalize e.1 = normalize typeName).or
          (c.objects.find? fun e => (ownNames e.2).any (answersTo typeName))) := by
    simp only [likenesses, List.findSome?_cons, List.findSome?_nil]
    split <;> rename_i hl <;> rw [hl]
    · rfl
    · split <;> rename_i hn <;> rw [hn]
      · rfl
      · split <;> rename_i ho <;> rw [ho] <;> rfl
  rw [hlike, find?]
  by_cases ht : typeName = ""
  · simp [ht]
  · simp only [String.isEmpty_iff, ht, if_false]
    split <;> rename_i he <;> rw [he] <;> rfl

theorem found_like (h : c.find? typeName = some entry) : ∃ key, (key, entry) ∈ c.objects ∧
    ∃ like ∈ likenesses typeName, like (key, entry) = true := by
  rw [find?_eq] at h
  split at h
  · cases h
  · rcases Option.or_eq_some_iff.1 h with hexact | ⟨-, hlike⟩
    · obtain ⟨j, hj, hentry⟩ := Option.bind_eq_some_iff.1 hexact
      rw [Json.asObject?_eq_some_iff.1 hentry] at hj
      exact ⟨typeName, mem_objects_iff.2 (Entries.mem_of_get? hj), _, List.mem_cons_self, by simp⟩
    · obtain ⟨⟨key, fs⟩, hfound, rfl⟩ := Option.map_eq_some_iff.1 hlike
      obtain ⟨before, like, after, hl, hfind, -⟩ := List.findSome?_eq_some_iff.1 hfound
      refine ⟨key, List.mem_of_find?_eq_some hfind, like, ?_, List.find?_some hfind⟩
      rw [hl]
      simp

theorem find?_isSome_of_like (ht : typeName ≠ "") (hmem : (key, entry) ∈ c.objects)
    {like : String × List (String × Json) → Bool} (hl : like ∈ likenesses typeName)
    (h : like (key, entry) = true) : (c.find? typeName).isSome := by
  have hfound : ((likenesses typeName).findSome? fun like => c.objects.find? like).isSome := by
    rw [List.findSome?_isSome_iff]
    exact ⟨like, hl, List.find?_isSome.2 ⟨_, hmem, h⟩⟩
  rw [find?_eq, if_neg ht, Option.isSome_or, Option.isSome_map, hfound, Bool.or_true]

/-- **Lookups tolerate case, separators and own names, and no more, but for names without letters
and digits.** A type is found exactly when some entry that is an object is called like it, or when
neither the type nor a name of such an entry has a letter or a digit; and such an entry is what is
found. The empty name finds nothing. -/
theorem lookup_tolerance (c : Catalog) (typeName : String) :
    let answers (key : String) (entry : Entries Json) : Prop := ∃ name, Called key entry name ∧
      (Resembles typeName name ∨ Wordless typeName ∧ Wordless name)
    (∀ entry, c.find? typeName = some entry →
      ∃ key, (key, .object entry) ∈ c.entries ∧ answers key entry) ∧
    ((c.find? typeName).isSome ↔
      typeName ≠ "" ∧ ∃ key entry, (key, .object entry) ∈ c.entries ∧ answers key entry) := by
  intro answers
  have hanswers : ∀ {key entry}, answers key entry ↔
      ∃ like ∈ likenesses typeName, like (key, entry) = true := by
    intro key entry
    simp only [exists_likeness_iff, answersTo_iff, answers]
  have hfound : ∀ entry, c.find? typeName = some entry →
      ∃ key, (key, .object entry) ∈ c.entries ∧ answers key entry := by
    intro entry h
    obtain ⟨key, hmem, hlike⟩ := found_like h
    exact ⟨key, mem_objects_iff.1 hmem, hanswers.2 hlike⟩
  refine ⟨hfound, fun h => ?_, ?_⟩
  · obtain ⟨entry, he⟩ := Option.isSome_iff_exists.1 h
    refine ⟨?_, ?_⟩
    · rintro rfl
      simp [find?_eq] at he
    · obtain ⟨key, hmem, ha⟩ := hfound entry he
      exact ⟨key, entry, hmem, ha⟩
  · rintro ⟨ht, key, entry, hmem, ha⟩
    obtain ⟨like, hl, h⟩ := hanswers.1 ha
    exact find?_isSome_of_like ht (mem_objects_iff.2 hmem) hl h

/-- Of two names without letters and digits, the one finds the entry of the other. -/
theorem other_wordless_found :
    let entry : Entries Json := [("input", .object [("required", .object [
      ("seed", .array [.text "INT"])])])]
    let c : Catalog := .ofJson (.object [("???", .object entry)])
    Wordless "!!!" ∧ c.find? "!!!" = some entry ∧
      (c.inputs "!!!").map InputSpec.name = ["seed"] ∧
      ∀ key, (key, .object entry) ∈ c.entries →
        ∀ name, Called key entry name → ¬ Resembles "!!!" name := by
  intro entry c
  refine ⟨by decide +kernel, by decide +kernel, by decide +kernel, ?_⟩
  intro key hmem name hname
  obtain rfl : key = "???" := by simpa [c, ofJson, Entries.swapErase, Entries.splitAt?] using hmem
  obtain rfl : name = "???" := by simpa [Called, entry, nameFields] using hname
  decide +kernel

end Catalog

end PromptGraph
