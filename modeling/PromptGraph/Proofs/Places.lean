import PromptGraph.Files.Tree
import PromptGraph.Proofs.Decoding

/-!
# Places in a file tree

Cutting a path at its slashes loses nothing (`place_pieces`, `pieces_place`). Following a path asks
of a tree only which places are folders (`follow_mono`), so a place that was reached stays within
reach while folders stay folders. A name that is joined to a root leads into the folder that the
root leads to, or nowhere (`resolve_join_eq_ok_iff`).
-/

namespace PromptGraph

/-! ## Pieces -/

namespace Path

theorem pieces_append_slash (front back : String) :
    pieces (front ++ "/" ++ back) = pieces front ++ pieces back := by
  have hlist : (front ++ "/" ++ back).toList = front.toList ++ '/' :: back.toList := by simp
  rw [pieces, hlist, List.splitOn_append_cons_self, List.map_append]
  rfl

theorem pieces_of_notMem {name : String} (h : '/' ∉ name.toList) : pieces name = [name] := by
  rw [pieces, List.splitOn_eq_singleton h]
  simp

theorem notMem_of_mem_splitOn {c : Char} {cs piece : List Char} (h : piece ∈ cs.splitOn c) :
    c ∉ piece := by
  induction cs generalizing piece with
  | nil => simp_all
  | cons x xs ih =>
    rw [List.splitOn_cons_eq_if_modifyHead] at h
    split at h
    · rcases List.mem_cons.1 h with rfl | h
      · exact List.not_mem_nil
      · exact ih h
    · next hx =>
      obtain ⟨p, ps, hp⟩ := List.exists_cons_of_ne_nil (List.splitOn_ne_nil c xs)
      rw [hp, List.modifyHead_cons] at h
      rcases List.mem_cons.1 h with rfl | h
      · simp only [List.mem_cons, not_or]
        exact ⟨fun e => hx (by simp [e]), ih (hp ▸ List.mem_cons_self)⟩
      · exact ih (hp ▸ List.mem_cons_of_mem p h)

theorem notMem_of_mem_pieces {path piece : String} (h : piece ∈ pieces path) :
    '/' ∉ piece.toList := by
  obtain ⟨cs, hcs, rfl⟩ := List.mem_map.1 h
  rw [String.toList_ofList]
  exact notMem_of_mem_splitOn hcs

/-- The name leads from a folder into it. -/
structure IsName (name : String) : Prop where
  slashless : '/' ∉ name.toList
  proper : name ≠ "" ∧ name ≠ "." ∧ name ≠ ".."

/-- The name of a document, as folders of documents make it, leads into the folder. -/
theorem isName_json {stem : String} (h : '/' ∉ stem.toList) : IsName (stem ++ ".json") where
  slashless := by simp [h]
  proper := by
    have hlong : ∀ s : String, s.length < 5 → stem ++ ".json" ≠ s := by
      intro s hs e
      have hlen : (stem ++ ".json").length = stem.length + 5 := String.length_append ..
      rw [e] at hlen
      omega
    exact ⟨hlong _ (by decide), hlong _ (by decide), hlong _ (by decide)⟩

theorem join_cases (root : String) {name : String} (h : '/' ∉ name.toList) :
    root = "" ∧ join root name = name ∨
      (∃ front, root = front ++ "/" ∧ join root name = front ++ "/" ++ name) ∨
      root ≠ "" ∧ join root name = root ++ "/" ++ name := by
  have habs : isAbsolute name = false := by
    refine decide_eq_false fun hd => h ?_
    exact List.mem_of_mem_head? hd
  unfold join
  rw [habs, if_neg Bool.false_ne_true]
  split
  · next he => exact .inl ⟨String.isEmpty_iff.1 he, rfl⟩
  · next he =>
    split
    · next hl =>
      obtain ⟨front, hfront⟩ := List.getLast?_eq_some_iff.1 hl
      have hroot : root = String.ofList front ++ "/" := by
        rw [← String.toList_inj, hfront]
        simp
      exact .inr (.inl ⟨_, hroot, by rw [← hroot]⟩)
    · exact .inr (.inr ⟨fun e => he (String.isEmpty_iff.2 e), rfl⟩)

end Path

namespace FileTree

open PromptGraph.Path

variable {t u : FileTree} {here p cs ds : List String} {path root name : String}

theorem place_pieces (path : String) : place (pieces path) = path := by
  rw [place, ← String.toList_inj, String.toList_intercalate, pieces, List.map_map]
  have hid : (String.toList ∘ String.ofList) = id := funext fun cs => String.toList_ofList
  rw [hid, List.map_id]
  exact List.intercalate_splitOn '/'

theorem pieces_place (hne : cs ≠ []) (h : ∀ c ∈ cs, '/' ∉ c.toList) : pieces (place cs) = cs := by
  have hlists : ∀ l ∈ cs.map String.toList, '/' ∉ l := by
    intro l hl
    obtain ⟨c, hc, rfl⟩ := List.mem_map.1 hl
    exact h c hc
  rw [pieces, place, String.toList_intercalate]
  have hs : "/".toList = ['/'] := rfl
  rw [hs, List.splitOn_intercalate '/' hlists (by simpa using hne), List.map_map]
  have hid : (String.ofList ∘ String.toList) = id := funext fun s => String.ofList_toList
  rw [hid, List.map_id]

/-! ## Following a path -/

theorem enter_eq_ok_iff : t.enter here = .ok () ↔ t.at? here = some .folder := by
  unfold enter
  split
  · next h => simp [h]
  · next h => simp_all
  · next h => simp [h]

theorem follow_cons_eq_ok_iff {c : String} : t.follow here (c :: cs) = .ok p ↔
    t.at? here = some .folder ∧
      (if c = "" ∨ c = "." then t.follow here cs
      else if c = ".." then t.follow (above here) cs
      else if nameLimit < c.utf8ByteSize then .error .nameTooLong
      else t.follow (here ++ [c]) cs) = .ok p := by
  rw [follow, Decode.bind_eq_ok, ← enter_eq_ok_iff]
  exact ⟨fun ⟨_, h⟩ => h, fun h => ⟨(), h⟩⟩

theorem follow_append (t : FileTree) (here cs ds : List String) :
    t.follow here (cs ++ ds) = (t.follow here cs).bind fun p => t.follow p ds := by
  induction cs generalizing here with
  | nil => rfl
  | cons c cs ih =>
    rw [List.cons_append, follow, follow]
    cases t.enter here with
    | error e => rfl
    | ok _ =>
      show (if _ then _ else _) = Except.bind (if _ then _ else _) _
      split
      · exact ih here
      · split
        · exact ih (above here)
        · split
          · rfl
          · exact ih (here ++ [c])

theorem follow_mono (h : ∀ p, t.at? p = some .folder → u.at? p = some .folder)
    (hf : t.follow here cs = .ok p) : u.follow here cs = .ok p := by
  induction cs generalizing here with
  | nil => exact hf
  | cons c cs ih =>
    obtain ⟨hhere, hf⟩ := follow_cons_eq_ok_iff.1 hf
    refine follow_cons_eq_ok_iff.2 ⟨h here hhere, ?_⟩
    split
    · next hc => exact ih (by rwa [if_pos hc] at hf)
    · next hc =>
      rw [if_neg hc] at hf
      split
      · next hc => exact ih (by rwa [if_pos hc] at hf)
      · next hc =>
        rw [if_neg hc] at hf
        split
        · next hc => rwa [if_pos hc] at hf
        · next hc => exact ih (by rwa [if_neg hc] at hf)

theorem slashless_of_follow (h : ∀ c ∈ here, '/' ∉ c.toList) (hs : ∀ c ∈ cs, '/' ∉ c.toList)
    (hf : t.follow here cs = .ok p) : ∀ c ∈ p, '/' ∉ c.toList := by
  induction cs generalizing here with
  | nil =>
    cases hf
    exact h
  | cons c cs ih =>
    have htail : ∀ c ∈ cs, '/' ∉ c.toList := fun d hd => hs d (List.mem_cons_of_mem c hd)
    obtain ⟨-, hf⟩ := follow_cons_eq_ok_iff.1 hf
    split at hf
    · exact ih h htail hf
    · split at hf
      · -- going up leaves components of the place
        refine ih (fun d hd => h d ?_) htail hf
        unfold above at hd
        split at hd
        · exact hd
        · exact (List.dropLast_sublist here).mem hd
      · split at hf
        · cases hf
        · refine ih (fun d hd => ?_) htail hf
          rcases List.mem_append.1 hd with hd | hd
          · exact h d hd
          · exact hs d (List.mem_singleton.1 hd ▸ List.mem_cons_self)

theorem slashless_of_resolve (h : t.resolve path = .ok p) : ∀ c ∈ p, '/' ∉ c.toList := by
  refine slashless_of_follow (fun c hc => ?_) (fun c hc => notMem_of_mem_pieces hc) h
  unfold start at hc
  split at hc
  · rw [List.mem_singleton.1 hc]
    exact List.not_mem_nil
  · cases hc

/-! ## Names joined to a root -/

theorem follow_name_eq_ok_iff (hn : IsName name) : t.follow here (cs ++ [name]) = .ok p ↔
    name.utf8ByteSize ≤ nameLimit ∧
      ∃ base, t.follow here cs = .ok base ∧ t.at? base = some .folder ∧ p = base ++ [name] := by
  obtain ⟨hne, hdot, hdots⟩ := hn.proper
  rw [follow_append]
  cases t.follow here cs with
  | error e => simp [Except.bind]
  | ok base =>
    show t.follow base [name] = .ok p ↔ _
    rw [follow_cons_eq_ok_iff, if_neg (not_or.2 ⟨hne, hdot⟩), if_neg hdots]
    by_cases hlong : nameLimit < name.utf8ByteSize
    · simp [hlong, Nat.not_le_of_lt hlong]
    · simp [hlong, follow, eq_comm, Nat.le_of_not_lt hlong]

theorem follow_blank_eq_ok_iff : t.follow here (cs ++ [""]) = .ok p ↔
    t.follow here cs = .ok p ∧ t.at? p = some .folder := by
  rw [follow_append]
  cases t.follow here cs with
  | error e => simp [Except.bind]
  | ok base =>
    show t.follow base [""] = .ok p ↔ _
    rw [follow_cons_eq_ok_iff, if_pos (.inl rfl)]
    simp only [follow, Except.ok.injEq]
    constructor
    · rintro ⟨h, rfl⟩
      exact ⟨rfl, h⟩
    · rintro ⟨rfl, h⟩
      exact ⟨h, rfl⟩

theorem start_append (h : root ≠ "") (s : String) : start (root ++ s) = start root := by
  obtain ⟨c, cs, hcs⟩ := List.exists_cons_of_ne_nil fun e => h (String.toList_eq_nil_iff.1 e)
  simp [start, isAbsolute, hcs]

/-- **A joined name leads into the folder of its root**, or nowhere. -/
theorem resolve_join_eq_ok_iff (hn : IsName name) : t.resolve (join root name) = .ok p ↔
    name.utf8ByteSize ≤ nameLimit ∧
      ∃ base, t.resolve root = .ok base ∧ t.at? base = some .folder ∧ p = base ++ [name] := by
  have hname : pieces name = [name] := pieces_of_notMem hn.slashless
  rcases join_cases root hn.slashless with ⟨rfl, hj⟩ | ⟨front, rfl, hj⟩ | ⟨hroot, hj⟩
  · have hstart : start name = start "" := if_neg fun h =>
      hn.slashless (List.mem_of_mem_head? (of_decide_eq_true h))
    have hempty : t.resolve "" = .ok [] := rfl
    rw [hj, resolve, hstart, hname, ← List.nil_append [name], follow_name_eq_ok_iff hn, hempty]
    rfl
  · have hslash : front ++ "/" ≠ "" := by simp
    have hfront : pieces (front ++ "/") = pieces front ++ [""] := by
      rw [← String.append_empty (s := front ++ "/"), pieces_append_slash]
      rfl
    rw [hj, resolve, resolve, start_append hslash, pieces_append_slash, hname, hfront,
      follow_name_eq_ok_iff hn]
    simp only [follow_blank_eq_ok_iff, and_assoc, and_self_left]
  · rw [hj, resolve, resolve, String.append_assoc, start_append hroot, ← String.append_assoc,
      pieces_append_slash, hname, follow_name_eq_ok_iff hn]

end FileTree

end PromptGraph
