import PromptGraph.Proofs.Places

/-!
# Changes to a file tree

Making folders only adds folders (`Grows`), writing changes what one place holds, and both leave
every folder where it was. So a text that is read from a path is still read from it after folders
were made (`readText_grows`) or another place was written (`readText_put`).
-/

namespace PromptGraph

namespace FileTree

open PromptGraph.Path

variable {t u v : FileTree} {here other p q : List String} {path root name text : String}
  {node : FileNode}

/-! ## One place -/

theorem at?_congr (h : place p = place q) : t.at? p = t.at? q := by
  rw [at?, at?, h]

theorem at?_of_ne (h : place p ≠ "") : t.at? p = t.nodes.get? (place p) :=
  if_neg fun he => h (String.isEmpty_iff.1 he)

/-- Paths start at folders, so that a place of anything else has a name. -/
theorem place_ne_empty (h : t.at? p ≠ some .folder) : place p ≠ "" :=
  fun he => h (if_pos (String.isEmpty_iff.2 he))

theorem at?_put (h : t.at? here ≠ some .folder) (node : FileNode) (p : List String) :
    (t.put here node).at? p = if place p = place here then some node else t.at? p := by
  have hne := place_ne_empty h
  split
  · next he =>
    rw [at?_of_ne (he ▸ hne), put, OrderedMap.get?_insert, if_pos he.symm]
  · next he =>
    unfold at? put
    split
    · rfl
    · rw [OrderedMap.get?_insert, if_neg (Ne.symm he)]

theorem folder_put (h : t.at? here ≠ some .folder) (hp : t.at? p = some .folder) :
    (t.put here node).at? p = some .folder := by
  rw [at?_put h, if_neg fun he => h (at?_congr he ▸ hp), hp]

/-! ## Making folders -/

/-- Every place holds what it held, or a folder where there was nothing. -/
def Grows (t u : FileTree) : Prop :=
  ∀ p, u.at? p = t.at? p ∨ t.at? p = none ∧ u.at? p = some .folder

theorem Grows.refl (t : FileTree) : Grows t t := fun _ => .inl rfl

theorem Grows.trans (h : Grows t u) (k : Grows u v) : Grows t v := by
  intro p
  rcases h p with h | ⟨hn, hf⟩
  · rcases k p with k | ⟨kn, kf⟩
    · exact .inl (k.trans h)
    · exact .inr ⟨h ▸ kn, kf⟩
  · rcases k p with k | ⟨kn, -⟩
    · exact .inr ⟨hn, k.trans hf⟩
    · exact absurd (hf.symm.trans kn) (Option.some_ne_none _)

theorem Grows.kept (h : Grows t u) (hp : t.at? p = some node) : u.at? p = some node := by
  rcases h p with h | ⟨hn, -⟩
  · exact h.trans hp
  · exact absurd (hp.symm.trans hn) (Option.some_ne_none _)

theorem grows_put (h : t.at? here = none) : Grows t (t.put here .folder) := by
  intro p
  have hne : t.at? here ≠ some .folder := h ▸ (Option.some_ne_none _).symm
  rw [at?_put hne]
  split
  · next he => exact .inr ⟨at?_congr he ▸ h, rfl⟩
  · exact .inl rfl

theorem grows_makeFolder (h : t.makeFolder path = .ok u) : Grows t u := by
  obtain ⟨here, -, h⟩ := Decode.bind_eq_ok.1 h
  obtain ⟨_, -, h⟩ := Decode.bind_eq_ok.1 h
  split at h
  · cases h
    exact Grows.refl t
  · cases h
  · next hn =>
    cases h
    exact grows_put hn

theorem grows_makeFoldersFrom (front : String) (names : List String) (t : FileTree) :
    Grows t (makeFoldersFrom front names t).1 := by
  induction names generalizing front t with
  | nil => exact Grows.refl t
  | cons c rest ih =>
    rw [makeFoldersFrom]
    split
    · exact ih _ t
    · split
      · next h => exact (grows_makeFolder h).trans (ih _ _)
      · exact Grows.refl t

theorem grows_makeFolders (t : FileTree) (path : String) : Grows t (t.makeFolders path).1 := by
  unfold makeFolders
  split
  · exact Grows.refl t
  · split
    · exact Grows.refl t
    · exact grows_makeFoldersFrom "" (pieces path) t

/-! ## Reading and writing -/

theorem locate_eq_ok_iff : t.locate path = .ok p ↔ fault? path = none ∧ t.resolve path = .ok p := by
  unfold locate
  split
  · next h => simp [h]
  · next h => simp [h]

theorem lookup_eq_ok_iff : t.lookup path = .ok node ↔ ∃ here, t.locate path = .ok here ∧
    t.at? here = some node ∧ (asksForFolder path = true → node = .folder) := by
  rw [lookup, Decode.bind_eq_ok]
  refine exists_congr fun here => and_congr_right fun _ => ?_
  split
  · next h =>
    rw [h, Except.ok.injEq, Option.some.injEq]
    exact ⟨fun e => ⟨e, fun _ => e.symm⟩, fun e => e.1⟩
  · next found hfound h =>
    rw [h, Option.some.injEq]
    split
    · next ha =>
      constructor
      · rintro ⟨⟩
      · rintro ⟨rfl, hf⟩
        exact absurd (hf ha) hfound
    · next ha =>
      rw [Except.ok.injEq]
      exact ⟨fun e => ⟨e, fun hb => absurd hb ha⟩, fun e => e.1⟩
  · next h => simp [h]

theorem readText_eq_ok_iff : t.readText path = .ok text ↔ ∃ here, t.locate path = .ok here ∧
    t.at? here = some (.text text) ∧ asksForFolder path = false := by
  have hread : t.readText path = .ok text ↔ t.lookup path = .ok (.text text) := by
    rw [readText, Decode.bind_eq_ok]
    constructor
    · rintro ⟨node, h, he⟩
      split at he <;> cases he
      exact h
    · exact fun h => ⟨_, h, rfl⟩
  rw [hread, lookup_eq_ok_iff]
  simp

theorem isFolder_iff : t.isFolder path = true ↔ ∃ here, t.locate path = .ok here ∧
    t.at? here = some .folder := by
  have hlook : t.isFolder path = true ↔ t.lookup path = .ok .folder := by
    unfold isFolder
    split
    · next h => simp [h]
    · next h => exact iff_of_false Bool.false_ne_true h
  rw [hlook, lookup_eq_ok_iff]
  simp

theorem write_eq_ok_iff : t.write path node = .ok u ↔ ∃ here, t.locate path = .ok here ∧
    t.at? here.dropLast = some .folder ∧ asksForFolder path = false ∧
      t.at? here ≠ some .folder ∧ u = t.put here node := by
  rw [write, Decode.bind_eq_ok]
  refine exists_congr fun here => and_congr_right fun _ => ?_
  rw [Decode.bind_eq_ok]
  constructor
  · rintro ⟨_, hin, h⟩
    split at h
    · cases h
    · next hn =>
      rw [not_or, Bool.not_eq_true] at hn
      cases h
      exact ⟨enter_eq_ok_iff.1 hin, hn.1, hn.2, rfl⟩
  · rintro ⟨hin, ha, hf, rfl⟩
    refine ⟨(), enter_eq_ok_iff.2 hin, if_neg ?_⟩
    simp [ha, hf]

theorem locate_mono (h : ∀ p, t.at? p = some .folder → u.at? p = some .folder)
    (hl : t.locate path = .ok p) : u.locate path = .ok p := by
  obtain ⟨hfault, hl⟩ := locate_eq_ok_iff.1 hl
  exact locate_eq_ok_iff.2 ⟨hfault, follow_mono h hl⟩

theorem readText_grows (h : Grows t u) (hr : t.readText path = .ok text) :
    u.readText path = .ok text := by
  obtain ⟨here, hl, hn, ha⟩ := readText_eq_ok_iff.1 hr
  exact readText_eq_ok_iff.2 ⟨here, locate_mono (fun _ => h.kept) hl, h.kept hn, ha⟩

theorem readText_put (h : t.at? here ≠ some .folder) (hr : t.readText path = .ok text)
    (ho : ∀ p, t.locate path = .ok p → place p ≠ place here) :
    (t.put here node).readText path = .ok text := by
  obtain ⟨p, hl, hn, ha⟩ := readText_eq_ok_iff.1 hr
  refine readText_eq_ok_iff.2 ⟨p, locate_mono (fun _ => folder_put h) hl, ?_, ha⟩
  rw [at?_put h, if_neg (ho p hl), hn]

theorem readText_write (h : t.writeText path text = .ok u) : u.readText path = .ok text := by
  obtain ⟨here, hl, -, ha, hf, rfl⟩ := write_eq_ok_iff.1 h
  refine readText_eq_ok_iff.2 ⟨here, locate_mono (fun _ => folder_put hf) hl, ?_, ha⟩
  rw [at?_put hf, if_pos rfl]

/-! ## Names in a folder -/

theorem pieces_place_append (hp : ∀ c ∈ p, '/' ∉ c.toList) (hn : '/' ∉ name.toList) :
    pieces (place (p ++ [name])) = p ++ [name] := by
  refine pieces_place (by simp) fun c hc => ?_
  rcases List.mem_append.1 hc with hc | hc
  · exact hp c hc
  · exact List.mem_singleton.1 hc ▸ hn

/-- Places in one folder have different names. -/
theorem name_eq_of_place_eq (hp : ∀ c ∈ p, '/' ∉ c.toList) (hn : '/' ∉ name.toList)
    {other : String} (ho : '/' ∉ other.toList) (h : place (p ++ [name]) = place (p ++ [other])) :
    name = other := by
  have heq : p ++ [name] = p ++ [other] := by
    rw [← pieces_place_append hp hn, ← pieces_place_append hp ho, h]
  simpa using heq

end FileTree

end PromptGraph
