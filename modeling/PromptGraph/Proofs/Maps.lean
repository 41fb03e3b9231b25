import PromptGraph.OrderedMap

/-!
# Ordered maps as lists

How the operations of a map act on a list that is split in two, and what becomes of a map whose
entries are entered again.
-/

namespace PromptGraph

universe u v

theorem eraseDups_append_singleton (names : List String) (name : String) :
    (names ++ [name]).eraseDups =
      if name ∈ names then names.eraseDups else names.eraseDups ++ [name] := by
  have hone : [name].eraseDups = [name] := rfl
  rw [List.eraseDups_append, List.removeAll]
  by_cases h : name ∈ names
  · simp [h]
  · simp [h, hone]

namespace Entries

variable {V : Type u} {W : Type v} {es fs : Entries V} {key : String} {value : V}

theorem put_append (h : key ∉ es.keys) : put (es ++ fs) key value = es ++ put fs key value := by
  induction es with
  | nil => rfl
  | cons p es ih =>
    simp only [keys_cons, List.mem_cons, not_or] at h
    rw [List.cons_append, put_cons, if_neg (Ne.symm h.1), ih h.2]
    rfl

theorem put_of_notMem (h : key ∉ es.keys) : es.put key value = es ++ [(key, value)] := by
  have hp : put (es ++ []) key value = es ++ put [] key value := put_append h
  simpa using hp

theorem get?_append (es fs : Entries V) (key : String) :
    get? (es ++ fs) key = (get? es key).or (get? fs key) := by
  induction es with
  | nil => simp
  | cons p es ih =>
    by_cases h : p.1 = key
    · simp [h]
    · simp [h, ih]

theorem get?_append_singleton_of_mem {p : String × V} (h : p.1 ∈ es.keys) (key : String) :
    get? (es ++ [p]) key = get? es key := by
  rw [get?_append, get?_cons, get?_nil]
  split
  · next hk =>
    obtain ⟨value, hv⟩ := Option.isSome_iff_exists.1 (get?_isSome_iff.2 h)
    rw [← hk, hv, Option.some_or]
  · rw [Option.or_none]

theorem mem_keys_of_mem {p : String × V} (h : p ∈ es) : p.1 ∈ es.keys := List.mem_map_of_mem h

theorem get?_of_mem (hn : es.keys.Nodup) (h : (key, value) ∈ es) : es.get? key = some value := by
  induction es with
  | nil => cases h
  | cons p es ih =>
    rw [keys_cons, List.nodup_cons] at hn
    rcases List.mem_cons.1 h with rfl | h
    · simp
    · have hp : p.1 ≠ key := fun e => hn.1 (e ▸ mem_keys_of_mem h)
      rw [get?_cons, if_neg hp, ih hn.2 h]

theorem mem_of_get? (h : es.get? key = some value) : (key, value) ∈ es := by
  induction es with
  | nil => cases h
  | cons p es ih =>
    rw [get?_cons] at h
    split at h
    · next hp =>
      cases h
      exact hp ▸ List.mem_cons_self
    · exact List.mem_cons_of_mem _ (ih h)

theorem get?_eq_of_perm (hn : es.keys.Nodup) (h : es.Perm fs) (key : String) :
    fs.get? key = es.get? key := by
  have hn' : fs.keys.Nodup := (h.map Prod.fst).nodup hn
  refine Option.ext fun v => ⟨fun hv => ?_, fun hv => ?_⟩
  · exact get?_of_mem hn (h.mem_iff.2 (mem_of_get? hv))
  · exact get?_of_mem hn' (h.mem_iff.1 (mem_of_get? hv))

theorem find?_key (es : Entries V) (key : String) :
    es.find? (fun p => p.1 = key) = (es.get? key).map (key, ·) := by
  induction es with
  | nil => rfl
  | cons p es ih =>
    by_cases hp : p.1 = key
    · simp [← hp]
    · simp [hp, ih]

theorem keys_filterMap_sublist (f : String × V → Option W) (es : Entries V) :
    (keys (es.filterMap fun p => (f p).map (p.1, ·))).Sublist es.keys := by
  induction es with
  | nil => exact .slnil
  | cons p es ih =>
    rw [List.filterMap_cons, keys_cons]
    cases f p with
    | none => exact ih.cons p.1
    | some w => exact ih.cons_cons p.1

theorem get?_filterMap (hn : es.keys.Nodup) (f : String × V → Option W) (key : String) :
    get? (es.filterMap fun p => (f p).map (p.1, ·)) key =
      (es.get? key).bind fun v => f (key, v) := by
  induction es with
  | nil => rfl
  | cons p es ih =>
    rw [keys_cons, List.nodup_cons] at hn
    rw [List.filterMap_cons, get?_cons]
    by_cases hk : p.1 = key
    · subst hk
      have hrest : get? (es.filterMap fun p => (f p).map (p.1, ·)) p.1 = none :=
        get?_eq_none_iff.2 fun h => hn.1 ((keys_filterMap_sublist f es).subset h)
      rw [if_pos rfl, Option.bind_some]
      cases f p with
      | none => exact hrest
      | some w => exact (get?_cons ..).trans (if_pos rfl)
    · rw [if_neg hk, ← ih hn.2]
      cases f p with
      | none => rfl
      | some w => exact (get?_cons ..).trans (if_neg hk)

theorem nodup_filter (hn : es.keys.Nodup) (q : String × V → Bool) : (keys (es.filter q)).Nodup :=
  hn.sublist (List.filter_sublist.map Prod.fst)

theorem get?_filter (hn : es.keys.Nodup) (q : String × V → Bool) (key : String) :
    get? (es.filter q) key = (es.get? key).filter fun v => q (key, v) := by
  have hf : es.filter q =
      es.filterMap fun p => ((some p.2).filter fun v => q (p.1, v)).map (p.1, ·) := by
    rw [← List.filterMap_eq_filter]
    refine congrArg (List.filterMap · es) (funext fun p => ?_)
    rw [Option.guard, Option.filter_some]
    split <;> rfl
  rw [hf, get?_filterMap hn]
  cases es.get? key <;> rfl

theorem flatMap_key {β : Type} (hn : es.keys.Nodup) (key : String) (f : V → List β) :
    (es.flatMap fun e => if e.1 = key then f e.2 else []) = (es.get? key).toList.flatMap f := by
  induction es with
  | nil => rfl
  | cons e es ih =>
    rw [keys_cons, List.nodup_cons] at hn
    rw [List.flatMap_cons, ih hn.2, get?_cons]
    by_cases he : e.1 = key
    · rw [if_pos he, if_pos he, get?_eq_none_iff.2 (he ▸ hn.1)]
      simp
    · rw [if_neg he, if_neg he, List.nil_append]

/-- What is found among the entries that items make is what the first item that makes an entry of
the key makes. -/
theorem get?_filterMap_eq_some_iff {α : Type} {f : α → Option (String × V)} {as : List α} :
    get? (as.filterMap f) key = some value ↔ ∃ before a after, as = before ++ a :: after ∧
      f a = some (key, value) ∧ ∀ b ∈ before, ∀ v, f b ≠ some (key, v) := by
  have hfind : get? (as.filterMap f) key =
      as.findSome? fun a => (f a).bind fun p => if p.1 = key then some p.2 else none := by
    induction as with
    | nil => rfl
    | cons a as ih =>
      rw [List.filterMap_cons, List.findSome?_cons, ← ih]
      cases f a with
      | none => rfl
      | some p =>
        rw [Option.bind_some, get?_cons]
        split <;> rfl
  have hmake : ∀ a v, ((f a).bind fun p => if p.1 = key then some p.2 else none) = some v ↔
      f a = some (key, v) := by
    intro a v
    cases f a with
    | none => simp
    | some p => simp [Prod.ext_iff]
  simp only [hfind, List.findSome?_eq_some_iff, hmake, Option.eq_none_iff_forall_ne_some, ne_eq]

theorem eq_of_get? (hn : es.keys.Nodup) (hk : es.keys = fs.keys)
    (h : ∀ key, es.get? key = fs.get? key) : es = fs := by
  induction es generalizing fs with
  | nil => exact (List.map_eq_nil_iff.1 hk.symm).symm
  | cons p es ih =>
    cases fs with
    | nil => cases hk
    | cons q fs =>
      obtain ⟨hpq, hk⟩ : p.1 = q.1 ∧ keys es = keys fs := List.cons.inj hk
      rw [keys_cons, List.nodup_cons] at hn
      have hv : p.2 = q.2 := by simpa [hpq] using h p.1
      have htail : ∀ key, get? es key = get? fs key := by
        intro key
        by_cases he : p.1 = key
        · rw [get?_eq_none_iff.2 (he ▸ hn.1), get?_eq_none_iff.2 (hk ▸ he ▸ hn.1)]
        · have hkey := h key
          rwa [get?_cons, get?_cons, if_neg he, if_neg (hpq ▸ he)] at hkey
      rw [ih hn.2 hk htail, Prod.ext hpq hv]

theorem filter_put (es : Entries V) (key : String) (value : V) :
    (es.put key value).filter (fun p => decide (p.1 ≠ key)) =
      es.filter fun p => decide (p.1 ≠ key) := by
  induction es with
  | nil => simp
  | cons p es ih =>
    by_cases hp : p.1 = key
    · simp [hp]
    · simp only [put_cons, if_neg hp, List.filter_cons, ih]

theorem put_put (es : Entries V) (key : String) (value other : V) :
    (es.put key value).put key other = es.put key other := by
  induction es with
  | nil => simp
  | cons p es ih =>
    by_cases hp : p.1 = key
    · simp [hp]
    · simp [hp, ih]

theorem splitAt?_eq_some {front back : Entries V}
    (h : es.splitAt? key = some (front, value, back)) :
    es = front ++ (key, value) :: back ∧ key ∉ front.keys := by
  induction es generalizing front with
  | nil => cases h
  | cons p es ih =>
    rw [splitAt?] at h
    split at h
    · next hp =>
      cases h
      simp [← hp]
    · next hp =>
      obtain ⟨⟨front, v, rest⟩, hs, heq⟩ := Option.map_eq_some_iff.1 h
      cases heq
      obtain ⟨rfl, hfront⟩ := ih hs
      simp [hfront, Ne.symm hp]

theorem splitAt?_eq_none_iff : es.splitAt? key = none ↔ key ∉ es.keys := by
  induction es with
  | nil => simp [splitAt?]
  | cons p es ih =>
    by_cases hp : p.1 = key
    · simp [splitAt?, hp]
    · simp [splitAt?, hp, ih, Ne.symm hp]

theorem swapErase_eq_none_iff : es.swapErase key = none ↔ key ∉ es.keys := by
  rw [swapErase, Option.map_eq_none_iff, splitAt?_eq_none_iff]

theorem swapErase_eq_some {rest : Entries V} (h : es.swapErase key = some (value, rest)) :
    ∃ front back, es = front ++ (key, value) :: back ∧ key ∉ front.keys ∧
      (back = [] ∧ rest = front ∨
        ∃ mid last, back = mid ++ [last] ∧ rest = front ++ last :: mid) := by
  obtain ⟨⟨front, v, back⟩, hs, heq⟩ := Option.map_eq_some_iff.1 h
  obtain ⟨rfl, hfront⟩ := splitAt?_eq_some hs
  rcases List.eq_nil_or_concat back with rfl | ⟨mid, last, rfl⟩
  · cases heq
    exact ⟨front, [], rfl, hfront, .inl ⟨rfl, rfl⟩⟩
  · simp only [List.concat_eq_append, List.getLast?_concat, List.dropLast_concat] at heq
    cases heq
    exact ⟨front, mid ++ [last], by simp, hfront, .inr ⟨mid, last, rfl, rfl⟩⟩

theorem mem_of_mem_put {p : String × V} (h : p ∈ es.put key value) : p = (key, value) ∨ p ∈ es := by
  induction es with
  | nil => exact .inl (List.mem_singleton.1 h)
  | cons q es ih =>
    rw [put_cons] at h
    split at h
    · next hq =>
      rcases List.mem_cons.1 h with rfl | h
      · exact .inl (by rw [hq])
      · exact .inr (List.mem_cons_of_mem _ h)
    · rcases List.mem_cons.1 h with rfl | h
      · exact .inr List.mem_cons_self
      · exact (ih h).imp_right (List.mem_cons_of_mem _)

end Entries

namespace OrderedMap

variable {V : Type u} {m : OrderedMap V} {key : String} {value : V}

theorem get?_of_mem (h : (key, value) ∈ m.entries) : m.get? key = some value :=
  Entries.get?_of_mem m.nodup h

theorem mem_entries_iff : (key, value) ∈ m.entries ↔ m.get? key = some value :=
  ⟨get?_of_mem, Entries.mem_of_get?⟩

theorem ext_get? {m n : OrderedMap V} (hk : m.keys = n.keys) (h : ∀ key, m.get? key = n.get? key) :
    m = n := ext (Entries.eq_of_get? m.nodup hk h)

theorem insertNew_of_mem (h : key ∈ m.keys) : m.insertNew key value = m :=
  if_pos (contains_iff.2 h)

theorem insertNew_of_notMem (h : key ∉ m.keys) : m.insertNew key value = m.insert key value :=
  if_neg fun hc => h (contains_iff.1 hc)

theorem get?_insertNew (m : OrderedMap V) (key other : String) (value : V) :
    (m.insertNew key value).get? other =
      (m.get? other).or (if key = other then some value else none) := by
  by_cases hk : key ∈ m.keys
  · rw [insertNew_of_mem hk]
    split
    · next he =>
      obtain ⟨v, hv⟩ := Option.isSome_iff_exists.1 (get?_isSome_iff.2 (he ▸ hk))
      rw [hv, Option.some_or]
    · rw [Option.or_none]
  · rw [insertNew_of_notMem hk, get?_insert]
    split
    · next he => rw [get?_eq_none_iff.2 (he ▸ hk), Option.none_or]
    · rw [Option.or_none]

theorem get?_foldl_insertNew (pairs : Entries V) (m : OrderedMap V) (key : String) :
    (pairs.foldl (fun m p => m.insertNew p.1 p.2) m).get? key =
      (m.get? key).or (pairs.get? key) := by
  induction pairs generalizing m with
  | nil => exact (Option.or_none).symm
  | cons p pairs ih =>
    rw [List.foldl_cons, ih, get?_insertNew, Option.or_assoc, Entries.get?_cons]
    refine congrArg (m.get? key).or ?_
    split
    · rw [Option.some_or]
    · rw [Option.none_or]

theorem mem_keys_insertNew {other : String} :
    other ∈ (m.insertNew key value).keys ↔ other ∈ m.keys ∨ other = key := by
  simp only [← get?_isSome_iff, get?_insertNew, Option.isSome_or, Bool.or_eq_true]
  refine or_congr_right ?_
  split
  · next he => exact iff_of_true rfl he.symm
  · next he => exact iff_of_false Bool.false_ne_true (Ne.symm he)

theorem get?_insertAll {pairs : Entries V} (h : pairs.keys.Nodup) (m : OrderedMap V)
    (key : String) : (m.insertAll pairs).get? key = (pairs.get? key).or (m.get? key) := by
  induction pairs generalizing m with
  | nil => rfl
  | cons p pairs ih =>
    rw [Entries.keys_cons, List.nodup_cons] at h
    rw [insertAll, List.foldl_cons]
    refine (ih h.2 (m.insert p.1 p.2)).trans ?_
    rw [get?_insert, Entries.get?_cons]
    split
    · next he =>
      rw [Entries.get?_eq_none_iff.2 (he ▸ h.1)]
      rfl
    · rfl

theorem get?_insertAll_reverse (m : OrderedMap V) (pairs : Entries V) (key : String) :
    (m.insertAll pairs).get? key = (Entries.get? pairs.reverse key).or (m.get? key) := by
  induction pairs generalizing m with
  | nil => rfl
  | cons p pairs ih =>
    rw [List.reverse_cons, Entries.get?_append, Option.or_assoc]
    refine (ih (m.insert p.1 p.2)).trans (congrArg _ ?_)
    rw [get?_insert, Entries.get?_cons]
    split <;> rfl

theorem get?_ofList_filterMap_eq_some_iff {α : Type} {f : α → Option (String × V)} {as : List α} :
    (ofList (as.filterMap f)).get? key = some value ↔ ∃ before a after,
      as = before ++ a :: after ∧ f a = some (key, value) ∧
        ∀ b ∈ after, ∀ v, f b ≠ some (key, v) := by
  rw [ofList, get?_insertAll_reverse, get?_empty, Option.or_none, ← List.filterMap_reverse,
    Entries.get?_filterMap_eq_some_iff]
  constructor
  · rintro ⟨before, a, after, he, ha, hb⟩
    refine ⟨after.reverse, a, before.reverse, ?_, ha, fun b h => hb b (List.mem_reverse.1 h)⟩
    simpa using congrArg List.reverse he
  · rintro ⟨before, a, after, rfl, ha, hb⟩
    exact ⟨after.reverse, a, before.reverse, by simp, ha, fun b h => hb b (List.mem_reverse.1 h)⟩

theorem mem_keys_insertAll {pairs : Entries V} :
    key ∈ (m.insertAll pairs).keys ↔ key ∈ m.keys ∨ key ∈ pairs.keys := by
  induction pairs generalizing m with
  | nil => simp [insertAll]
  | cons p pairs ih =>
    have hstep : m.insertAll (p :: pairs) = (m.insert p.1 p.2).insertAll pairs := rfl
    rw [hstep, ih, mem_keys_insert, Entries.keys_cons, List.mem_cons, or_assoc, or_left_comm]

theorem get?_mapValues {W : Type v} (f : V → W) (m : OrderedMap V) (key : String) :
    (m.mapValues f).get? key = (m.get? key).map f := by
  have h : ∀ es : Entries V,
      Entries.get? (es.map fun p => (p.1, f p.2)) key = (es.get? key).map f := by
    intro es
    induction es with
    | nil => rfl
    | cons p es ih =>
      rw [List.map_cons, Entries.get?_cons, Entries.get?_cons, ih]
      split <;> rfl
  exact h m.entries

theorem entries_insertAll_of_nodup {pairs : List (String × V)}
    (h : (m.keys ++ pairs.map Prod.fst).Nodup) :
    (m.insertAll pairs).entries = m.entries ++ pairs := by
  rw [entries_insertAll]
  exact Entries.foldl_put_of_nodup pairs m.entries h

theorem entries_ofList_of_nodup {pairs : List (String × V)} (h : (pairs.map Prod.fst).Nodup) :
    (ofList pairs).entries = pairs := by
  rw [entries_ofList, Entries.ofList_of_nodup h]

theorem get?_ofList_of_nodup {pairs : Entries V} (h : pairs.keys.Nodup) (key : String) :
    (ofList pairs).get? key = pairs.get? key := by
  rw [get?, entries_ofList_of_nodup h]

@[simp] theorem ofList_entries (m : OrderedMap V) : ofList m.entries = m :=
  ext (entries_ofList_of_nodup m.nodup)

theorem insert_insert (m : OrderedMap V) (key : String) (value other : V) :
    (m.insert key value).insert key other = m.insert key other :=
  ext (Entries.put_put m.entries key value other)

theorem insert_of_get? (h : m.get? key = some value) : m.insert key value = m := by
  refine ext_get? ?_ fun other => ?_
  · rw [keys_insert, if_pos (get?_isSome_iff.1 (Option.isSome_iff_exists.2 ⟨value, h⟩))]
  · rw [get?_insert]
    split
    · next he => rw [← he, h]
    · rfl

theorem insertAll_append (m : OrderedMap V) (ps qs : Entries V) :
    m.insertAll (ps ++ qs) = (m.insertAll ps).insertAll qs := List.foldl_append

theorem keys_insertAll_of_subset {ps : Entries V} (h : ps.keys ⊆ m.keys) :
    (m.insertAll ps).keys = m.keys := by
  induction ps generalizing m with
  | nil => rfl
  | cons p ps ih =>
    rw [Entries.keys_cons, List.cons_subset] at h
    have hk : (m.insert p.1 p.2).keys = m.keys := (keys_insert ..).trans (if_pos h.1)
    exact (ih (hk ▸ h.2)).trans hk

theorem keys_insertAll {ps : Entries V} (h : ps.keys.Nodup) (m : OrderedMap V) :
    (m.insertAll ps).keys = m.keys ++ ps.keys.filter (· ∉ m.keys) := by
  induction ps generalizing m with
  | nil => simp [insertAll]
  | cons p ps ih =>
    rw [Entries.keys_cons, List.nodup_cons] at h
    have hstep : m.insertAll (p :: ps) = (m.insert p.1 p.2).insertAll ps := rfl
    rw [hstep, ih h.2, keys_insert, Entries.keys_cons]
    split
    · next hp => rw [List.filter_cons_of_neg (by simpa using hp)]
    · next hp =>
      have hrest : ∀ key ∈ Entries.keys ps,
          decide (key ∉ m.keys ++ [p.1]) = decide (key ∉ m.keys) := by
        intro key hkey
        have hne : key ≠ p.1 := fun e => h.1 (e ▸ hkey)
        simp [hne]
      rw [List.filter_cons_of_pos (by simpa using hp), List.filter_congr hrest, List.append_assoc]
      rfl

theorem insertAll_insertAll (m : OrderedMap V) (ps : Entries V) :
    (m.insertAll ps).insertAll ps = m.insertAll ps := by
  refine ext_get? (keys_insertAll_of_subset fun key hkey => ?_) fun key => ?_
  · exact mem_keys_insertAll.2 (.inr hkey)
  · rw [get?_insertAll_reverse, get?_insertAll_reverse, ← Option.or_assoc, Option.or_self]

theorem mem_of_mem_insert {p : String × V} (h : p ∈ (m.insert key value).entries) :
    p = (key, value) ∨ p ∈ m.entries := Entries.mem_of_mem_put h

theorem mem_of_mem_insertAll {pairs : List (String × V)} {p : String × V}
    (h : p ∈ (m.insertAll pairs).entries) : p ∈ pairs ∨ p ∈ m.entries := by
  induction pairs generalizing m with
  | nil => exact .inr h
  | cons q pairs ih =>
    rcases ih h with h | h
    · exact .inl (List.mem_cons_of_mem _ h)
    · rcases mem_of_mem_insert h with rfl | h
      · exact .inl List.mem_cons_self
      · exact .inr h

theorem mem_of_mem_ofList {pairs : List (String × V)} {p : String × V}
    (h : p ∈ (ofList pairs).entries) : p ∈ pairs :=
  (mem_of_mem_insertAll h).resolve_right List.not_mem_nil

theorem get?_erase_of_ne {other : String} (h : other ≠ key) (m : OrderedMap V) :
    (m.erase key).get? other = m.get? other := by
  refine (Entries.get?_filter m.nodup (fun p => p.1 ≠ key) other).trans ?_
  change (m.get? other).filter _ = m.get? other
  cases m.get? other with
  | none => rfl
  | some v => exact (Option.filter_some ..).trans (if_pos (decide_eq_true h))

theorem erase_insert (m : OrderedMap V) (key : String) (value : V) :
    (m.insert key value).erase key = m.erase key :=
  ext (Entries.filter_put m.entries key value)

end OrderedMap

end PromptGraph
