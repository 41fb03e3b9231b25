import PromptGraph.Proofs.TolerantLookup

/-!
# Wrapped and bare catalogs

A document may wrap its entries in an object under `nodes`. A bare document may have an entry of
that name, which is taken out and put back: the last entry moves into its place, and it comes last
(`ofJson_bare`). So wrapping changes nothing unless other entries follow `nodes`. Where they do, the
last has overtaken the others, and a lookup notices only where it ties with one of them
(`wrapping_keeps`).
-/

namespace PromptGraph

namespace Catalog

/-! ## An item that moves ahead of others -/

section

variable {α : Type} (front mid : List α) (x : α)

/-- An item that moves ahead is found in place of another only if both qualify. -/
theorem find?_ahead (p : α → Bool) :
    (front ++ x :: mid).find? p = (front ++ (mid ++ [x])).find? p ∨
      ∃ y ∈ mid, p x = true ∧ p y = true ∧ (front ++ x :: mid).find? p = some x ∧
        (front ++ (mid ++ [x])).find? p = some y := by
  simp only [List.find?_append]
  cases front.find? p with
  | some z => exact .inl rfl
  | none =>
    by_cases hx : p x = true
    · cases hm : mid.find? p with
      | none => exact .inl (by simp [hx])
      | some y =>
        exact .inr ⟨y, List.mem_of_find?_eq_some hm, hx, List.find?_some hm, by simp [hx], by simp⟩
    · exact .inl (by simp [hx])

theorem findSome?_ahead (ps : List (α → Bool)) :
    (ps.findSome? fun p => (front ++ x :: mid).find? p) =
        (ps.findSome? fun p => (front ++ (mid ++ [x])).find? p) ∨
      ∃ p ∈ ps, ∃ y ∈ mid, p x = true ∧ p y = true ∧
        (ps.findSome? fun p => (front ++ x :: mid).find? p) = some x ∧
        (ps.findSome? fun p => (front ++ (mid ++ [x])).find? p) = some y := by
  induction ps with
  | nil => exact .inl rfl
  | cons p ps ih =>
    simp only [List.findSome?_cons]
    rcases find?_ahead front mid x p with heq | ⟨y, hy, hpx, hpy, hfirst, hsecond⟩
    · rw [heq]
      cases (front ++ (mid ++ [x])).find? p with
      | some z => exact .inl rfl
      | none =>
        refine ih.imp_right ?_
        rintro ⟨q, hq, htie⟩
        exact ⟨q, List.mem_cons_of_mem _ hq, htie⟩
    · rw [hfirst, hsecond]
      exact .inr ⟨p, List.mem_cons_self, y, hy, hpx, hpy, rfl, rfl⟩

end

/-! ## The catalog of a bare document -/

/-- A bare document stands as it is if no entry follows `nodes`; otherwise the last entry takes the
place of `nodes`, which comes last. -/
theorem ofJson_bare {doc : Entries Json} (h : ∀ fs, doc.get? "nodes" ≠ some (.object fs)) :
    ("nodes" ∉ doc.keys ∨ doc.keys.getLast? = some "nodes") ∧ ofJson (.object doc) = ⟨doc⟩ ∨
      ∃ (front mid : Entries Json) (v : Json) (last : String × Json),
        doc = front ++ ("nodes", v) :: (mid ++ [last]) ∧ v.asObject? = none ∧
        ofJson (.object doc) = ⟨front ++ last :: mid ++ [("nodes", v)]⟩ := by
  cases hs : doc.swapErase "nodes" with
  | none =>
    refine .inl ⟨.inl (Entries.swapErase_eq_none_iff.1 hs), ?_⟩
    rw [ofJson, hs]
  | some found =>
    obtain ⟨v, rest⟩ := found
    obtain ⟨front, back, rfl, hfront, hback⟩ := Entries.swapErase_eq_some hs
    have hv : v.asObject? = none := by
      rw [Option.eq_none_iff_forall_ne_some]
      intro fs hfs
      refine h fs ?_
      rw [Entries.get?_append, Entries.get?_eq_none_iff.2 hfront, Json.asObject?_eq_some_iff.1 hfs]
      rfl
    have hcatalog : ofJson (.object (front ++ ("nodes", v) :: back)) =
        ⟨rest ++ [("nodes", v)]⟩ := by
      rw [ofJson, hs]
      cases v with
      | object fs => cases hv
      | _ => rfl
    rw [hcatalog]
    rcases hback with ⟨rfl, rfl⟩ | ⟨mid, last, rfl, rfl⟩
    · exact .inl ⟨.inr (by simp [Entries.keys]), rfl⟩
    · exact .inr ⟨front, mid, v, last, rfl, hv, rfl⟩

/-! ## What a lookup notices -/

/-- After `nodes` an earlier entry and the last entry of the document are like the type in the same
way. -/
inductive Tie (doc : Entries Json) (typeName : String) (earlier last : Entries Json) : Prop where
  | intro {front mid : Entries Json} {v : Json} {key lastKey : String}
      {like : String × List (String × Json) → Bool} :
      doc = front ++ ("nodes", v) :: (mid ++ [(lastKey, .object last)]) →
      (key, .object earlier) ∈ mid → like ∈ likenesses typeName →
      like (key, earlier) = true → like (lastKey, last) = true → Tie doc typeName earlier last

theorem objects_append (es fs : List (String × Json)) :
    objects ⟨es ++ fs⟩ = objects ⟨es⟩ ++ objects ⟨fs⟩ := List.filterMap_append

theorem objects_singleton (key : String) (j : Json) :
    objects ⟨[(key, j)]⟩ = (j.asObject?.map (key, ·)).toList := by
  cases j <;> rfl

theorem inputs_eq (c : Catalog) (typeName : String) :
    c.inputs typeName = ((c.find? typeName).map entryInputs).getD [] := by
  unfold inputs
  cases c.find? typeName <;> rfl

section

variable {front mid : Entries Json} {v : Json} {last : String × Json}

theorem perm_overtaken (nodes : String × Json) :
    (front ++ last :: mid ++ [nodes]).Perm (front ++ nodes :: (mid ++ [last])) := by
  have hlast : (mid ++ [last]).Perm (last :: mid) := List.perm_append_singleton last mid
  have hnodes : (last :: mid ++ [nodes]).Perm (nodes :: last :: mid) :=
    List.perm_append_singleton nodes (last :: mid)
  rw [List.append_assoc]
  exact (hnodes.trans (hlast.symm.cons nodes)).append_left front

/-- Where entries follow `nodes`, the last of them has another key, and it tells the orders
apart. -/
theorem typeNames_overtaken
    (hn : (Entries.keys (front ++ ("nodes", v) :: (mid ++ [last]))).Nodup) :
    (Entries.keys (front ++ ("nodes", v) :: (mid ++ [last]))).getLast? ≠ some "nodes" ∧
      typeNames ⟨front ++ last :: mid ++ [("nodes", v)]⟩ ≠
        typeNames ⟨front ++ ("nodes", v) :: (mid ++ [last])⟩ := by
  have hkeys : Entries.keys (front ++ ("nodes", v) :: (mid ++ [last])) =
      (front.keys ++ "nodes" :: mid.keys) ++ [last.1] := by simp
  have hnames : typeNames ⟨front ++ last :: mid ++ [("nodes", v)]⟩ =
      (front.keys ++ last.1 :: mid.keys) ++ ["nodes"] := by simp [typeNames, Entries.keys]
  rw [hkeys, List.nodup_append] at hn
  have hne : last.1 ≠ "nodes" := fun he =>
    hn.2.2 "nodes" (by simp) last.1 (List.mem_singleton_self _) he.symm
  refine ⟨fun hlast => ?_, fun he => ?_⟩
  · rw [hkeys, List.getLast?_concat] at hlast
    exact hne (Option.some.inj hlast)
  · have hlast := congrArg List.getLast? (hnames.symm.trans (he.trans hkeys))
    rw [List.getLast?_concat, List.getLast?_concat] at hlast
    exact hne (Option.some.inj hlast).symm

/-- A lookup finds the same when the last entry has taken the place of `nodes`, except in a tie. -/
theorem find?_overtaken (hv : v.asObject? = none)
    (hn : (Entries.keys (front ++ ("nodes", v) :: (mid ++ [last]))).Nodup) (typeName : String) :
    find? ⟨front ++ last :: mid ++ [("nodes", v)]⟩ typeName =
        find? ⟨front ++ ("nodes", v) :: (mid ++ [last])⟩ typeName ∨
      ∃ earlier entry,
        Tie (front ++ ("nodes", v) :: (mid ++ [last])) typeName earlier entry ∧
        find? ⟨front ++ ("nodes", v) :: (mid ++ [last])⟩ typeName = some earlier ∧
        find? ⟨front ++ last :: mid ++ [("nodes", v)]⟩ typeName = some entry := by
  have hget : Entries.get? (front ++ last :: mid ++ [("nodes", v)]) typeName =
      Entries.get? (front ++ ("nodes", v) :: (mid ++ [last])) typeName :=
    Entries.get?_eq_of_perm hn (perm_overtaken ("nodes", v)).symm typeName
  have hnodes : objects ⟨[("nodes", v)]⟩ = [] := by rw [objects_singleton, hv]; rfl
  have hbare : objects ⟨front ++ last :: mid ++ [("nodes", v)]⟩ =
      objects ⟨front⟩ ++ (objects ⟨[last]⟩ ++ objects ⟨mid⟩) := by
    rw [objects_append, hnodes, List.append_nil, objects_append, ← objects_append [last]]
    rfl
  have hwrapped : objects ⟨front ++ ("nodes", v) :: (mid ++ [last])⟩ =
      objects ⟨front⟩ ++ (objects ⟨mid⟩ ++ objects ⟨[last]⟩) := by
    rw [objects_append, ← List.singleton_append, objects_append, hnodes, List.nil_append,
      objects_append]
  -- both catalogs have the same entry of the exact name; only the scans can tell their orders apart
  simp only [find?_eq, hget, hbare, hwrapped]
  obtain ⟨lastKey, j⟩ := last
  rw [objects_singleton]
  cases hj : j.asObject? with
  | none => exact .inl (by simp)
  | some entry =>
    cases Json.asObject?_eq_some_iff.1 hj
    by_cases ht : typeName = ""
    · exact .inl (by simp [ht])
    · simp only [ht, if_false]
      cases (Entries.get? (front ++ ("nodes", v) :: (mid ++ [(lastKey, .object entry)]))
        typeName).bind Json.asObject? with
      | some found => exact .inl rfl
      | none =>
        rcases findSome?_ahead (objects ⟨front⟩) (objects ⟨mid⟩) (lastKey, entry)
          (likenesses typeName) with heq | ⟨like, hl, hit, hmem, hlast, hearlier, hb, hw⟩
        · exact .inl (congrArg (Option.map Prod.snd) heq)
        · obtain ⟨key, earlier⟩ := hit
          refine .inr ⟨earlier, entry, ?_, ?_, ?_⟩
          · exact .intro rfl (mem_objects_iff.1 hmem) hl hearlier hlast
          · exact congrArg (Option.map Prod.snd) hw
          · exact congrArg (Option.map Prod.snd) hb

end

/-- **Wrapping keeps a catalog but for what overtakes in a bare document.** A document without an
object under `nodes` has the same types, wrapped or bare. They come in the same order exactly when
no entry follows `nodes`, and then the catalogs are the same. Otherwise a type has other inputs
only if the last entry ties with an earlier one after `nodes`: bare, the last one is found. -/
theorem wrapping_keeps (m : OrderedMap Json) (hm : ∀ fs, m.get? "nodes" ≠ some (.object fs)) :
    let bare := ofJson (.object m.entries)
    let wrapped := ofJson (.object [("nodes", .object m.entries)])
    let closing := "nodes" ∉ m.keys ∨ m.keys.getLast? = some "nodes"
    bare.typeNames.Perm wrapped.typeNames ∧
      (bare.typeNames = wrapped.typeNames ↔ closing) ∧
      (bare = wrapped ↔ closing) ∧
      ∀ typeName, bare.inputs typeName = wrapped.inputs typeName ∨
        ∃ earlier last, Tie m.entries typeName earlier last ∧
          wrapped.inputs typeName = entryInputs earlier ∧
          bare.inputs typeName = entryInputs last := by
  intro bare wrapped closing
  have hwrapped : wrapped = ⟨m.entries⟩ := rfl
  rcases ofJson_bare hm with ⟨hclosing, hbare⟩ | ⟨front, mid, v, last, hdoc, hv, hbare⟩
  · have heq : bare = wrapped := hbare.trans hwrapped.symm
    have hc : closing := hclosing
    simp [heq, hc]
  · change bare = _ at hbare
    obtain ⟨hlast, hdiffer⟩ := typeNames_overtaken (hdoc ▸ m.nodup)
    rw [← hdoc, ← hbare, ← hwrapped] at hdiffer
    have hopen : ¬ closing := by
      rintro (hnot | hclose)
      · exact hnot (by simp [OrderedMap.keys, hdoc])
      · exact hlast (hdoc ▸ hclose)
    refine ⟨?_, iff_of_false hdiffer hopen,
      iff_of_false (fun h => hdiffer (congrArg typeNames h)) hopen, fun typeName => ?_⟩
    · have hperm : (front ++ last :: mid ++ [("nodes", v)]).Perm m.entries :=
        hdoc ▸ perm_overtaken ("nodes", v)
      rw [hbare]
      exact hperm.map Prod.fst
    · have hfind := find?_overtaken hv (hdoc ▸ m.nodup) typeName
      rw [← hdoc, ← hbare, ← hwrapped] at hfind
      rw [inputs_eq, inputs_eq]
      rcases hfind with heq | ⟨earlier, entry, htie, hearlier, hentry⟩
      · exact .inl (by rw [heq])
      · exact .inr ⟨earlier, entry, htie, by rw [hearlier]; rfl, by rw [hentry]; rfl⟩

theorem wrapping_keeps_of_closing_nodes :
    let m : OrderedMap Json := .ofList [
      ("KSampler", .object [("input", .object [("required", .object [
        ("seed", .array [.text "INT"])])])]),
      ("nodes", .nat 5)]
    (∀ fs, m.get? "nodes" ≠ some (.object fs)) ∧
      ofJson (.object m.entries) = ofJson (.object [("nodes", .object m.entries)]) ∧
      ((ofJson (.object m.entries)).inputs "ksampler").map InputSpec.name = ["seed"] := by
  intro m
  have hm : ∀ fs, m.get? "nodes" ≠ some (.object fs) := by rintro fs ⟨⟩
  have hclosing : m.keys.getLast? = some "nodes" := by decide
  obtain ⟨-, -, hsame, -⟩ := wrapping_keeps m hm
  exact ⟨hm, hsame.2 (.inr hclosing), by decide +kernel⟩

/-- Bare, the last of two entries that are like a type takes the place of `nodes` and is found;
wrapped, the other one is. -/
theorem last_entry_overtakes :
    let decoder (input : String) : Json := .object [("input", .object [("required", .object [
      (input, .array [.text "INT"])])])]
    let m : OrderedMap Json := .ofList [("nodes", .nat 5), ("vae decode", decoder "x"),
      ("vaedecode", decoder "y")]
    let bare := ofJson (.object m.entries)
    let wrapped := ofJson (.object [("nodes", .object m.entries)])
    (∀ fs, m.get? "nodes" ≠ some (.object fs)) ∧
      bare.typeNames = ["vaedecode", "vae decode", "nodes"] ∧
      wrapped.typeNames = ["nodes", "vae decode", "vaedecode"] ∧
      (bare.inputs "VAE_Decode").map InputSpec.name = ["y"] ∧
      (wrapped.inputs "VAE_Decode").map InputSpec.name = ["x"] := by
  refine ⟨?_, by decide +kernel, by decide +kernel, by decide +kernel, by decide +kernel⟩
  rintro fs ⟨⟩

end Catalog

end PromptGraph
