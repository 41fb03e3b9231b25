import Mathlib.Data.List.Nodup
import PromptGraph.Proofs.FileChanges
import PromptGraph.Workflow.Template

/-!
# Folders of templates

A template stands in the file that its id names, whether it was listed or asked for
(`ofFileName?_eq_some_iff`, `get_eq_ok_iff`), and no two files of a folder have one id. So what is
listed and what is found by id is the same, up to the ids that are refused.
-/

namespace PromptGraph

namespace Path

variable {stem name extension : String}

theorem splitExtension_append (h : stem ≠ "") (he : '.' ∉ extension.toList) :
    splitExtension (stem ++ "." ++ extension) = (stem, some extension) := by
  have hback : (stem ++ "." ++ extension).toList.reverse =
      extension.toList.reverse ++ '.' :: stem.toList.reverse := by simp
  have hpoint : ∀ c ∈ extension.toList.reverse, (decide (c ≠ '.')) = true := by
    intro c hc
    exact decide_eq_true fun e => he (e ▸ List.mem_reverse.1 hc)
  have hstem : stem.toList.reverse.isEmpty = false := by simpa using h
  unfold splitExtension
  rw [hback]
  dsimp only
  rw [List.dropWhile_append_of_pos hpoint, List.takeWhile_append_of_pos hpoint]
  simp [hstem]

theorem eq_append_of_splitExtension (h : splitExtension name = (stem, some extension)) :
    stem ≠ "" ∧ name = stem ++ "." ++ extension := by
  unfold splitExtension at h
  dsimp only at h
  split at h
  · cases h
  · next c front hfront =>
    have hc : c = '.' := by
      have hhead := List.head?_dropWhile_not (· ≠ '.') name.toList.reverse
      rw [hfront] at hhead
      simpa using hhead
    split at h
    · cases h
    · next hne =>
      cases h
      -- read backwards, the extension comes first and the point ends it
      have hname := congrArg List.reverse
        (List.takeWhile_append_dropWhile (p := (· ≠ '.')) (l := name.toList.reverse))
      rw [hfront, hc, List.reverse_reverse] at hname
      refine ⟨by simpa using hne, ?_⟩
      generalize List.takeWhile (· ≠ '.') name.toList.reverse = back at hname ⊢
      rw [← String.toList_inj, ← hname]
      simp

theorem stem?_eq_some_iff (he : '.' ∉ extension.toList) :
    stem? extension name = some stem ↔ stem ≠ "" ∧ name = stem ++ "." ++ extension := by
  unfold stem?
  constructor
  · intro h
    split at h
    · next s e hsplit =>
      split at h
      · next heq =>
        cases h
        subst heq
        exact eq_append_of_splitExtension hsplit
      · cases h
    · cases h
  · rintro ⟨hne, rfl⟩
    rw [splitExtension_append hne he]
    exact if_pos rfl

end Path

namespace FileTree

open PromptGraph.Path

variable {t : FileTree} {path root name text : String} {here : List String}

/-! ## The names in a folder -/

theorem nameOfKey_eq_some_iff {key : String} :
    (if (pieces key).dropLast = here then (pieces key).getLast? else none) = some name ↔
      pieces key = here ++ [name] := by
  constructor
  · intro h
    split at h
    · next hdrop =>
      rw [← hdrop]
      exact (List.dropLast_append_getLast? _ h).symm
    · cases h
  · intro h
    rw [h, List.dropLast_concat, if_pos rfl, List.getLast?_concat]

theorem mem_names_iff : name ∈ t.names path ↔ ∃ here, t.locate path = .ok here ∧
    ∃ key ∈ t.nodes.keys, pieces key = here ++ [name] := by
  unfold names
  cases t.locate path with
  | error e => simp
  | ok here =>
    simp only [List.mem_filterMap, Except.ok.injEq, exists_eq_left', nameOfKey_eq_some_iff]

theorem nodup_names (t : FileTree) (path : String) : (t.names path).Nodup := by
  unfold names
  cases t.locate path with
  | error e => exact List.nodup_nil
  | ok here =>
    refine t.nodes.nodup.filterMap fun key key' name h h' => ?_
    rw [← place_pieces key, ← place_pieces key', nameOfKey_eq_some_iff.1 h,
      nameOfKey_eq_some_iff.1 h']

theorem slashless_of_mem_names (h : name ∈ t.names path) : '/' ∉ name.toList := by
  obtain ⟨here, -, key, -, hkey⟩ := mem_names_iff.1 h
  exact notMem_of_mem_pieces (hkey ▸ List.mem_append_right here (List.mem_singleton_self name))

theorem fault?_eq_none_iff : fault? path = none ↔
    '\x00' ∉ path.toList ∧ path ≠ "" ∧ path.utf8ByteSize ≤ pathLimit := by
  unfold fault?
  split
  · next h => simpa using fun hn => absurd (List.contains_iff_mem.1 h) hn
  · next h =>
    split
    · next he => simp [String.isEmpty_iff.1 he]
    · next he =>
      split
      · next hl => simp [Nat.not_le_of_lt hl]
      · next hl =>
        refine iff_of_true rfl ⟨?_, fun e => he (String.isEmpty_iff.2 e), Nat.le_of_not_lt hl⟩
        exact fun hm => h (List.contains_iff_mem.2 hm)

theorem fault?_of_append (hne : root ≠ "") {rest : String} (h : fault? (root ++ rest) = none) :
    fault? root = none := by
  obtain ⟨hnul, -, hlength⟩ := fault?_eq_none_iff.1 h
  rw [String.toList_append, List.mem_append, not_or] at hnul
  rw [String.utf8ByteSize_append] at hlength
  exact fault?_eq_none_iff.2 ⟨hnul.1, hne, by omega⟩

theorem mem_names_of_readText (hn : IsName name) (hroot : root ≠ "")
    (h : t.readText (join root name) = .ok text) :
    t.isFolder root = true ∧ name ∈ t.names root := by
  obtain ⟨p, hl, hnode, -⟩ := readText_eq_ok_iff.1 h
  obtain ⟨hfault, hr⟩ := locate_eq_ok_iff.1 hl
  obtain ⟨-, base, hb, hbase, rfl⟩ := (resolve_join_eq_ok_iff hn).1 hr
  have hlocate : t.locate root = .ok base := by
    -- the text of the root starts the joined path, in which there is nothing wrong
    refine locate_eq_ok_iff.2 ⟨?_, hb⟩
    rcases join_cases root hn.slashless with ⟨he, -⟩ | ⟨front, rfl, hj⟩ | ⟨-, hj⟩
    · exact absurd he hroot
    · exact fault?_of_append hroot (hj ▸ hfault)
    · exact fault?_of_append hroot (String.append_assoc .. ▸ hj ▸ hfault)
  have hfile : t.at? (base ++ [name]) ≠ some .folder := by simp [hnode]
  refine ⟨isFolder_iff.2 ⟨base, hlocate, hbase⟩, mem_names_iff.2 ⟨base, hlocate, _, ?_,
    pieces_place_append (slashless_of_resolve hb) hn.slashless⟩⟩
  rw [at?_of_ne (place_ne_empty hfile)] at hnode
  exact OrderedMap.get?_isSome_iff.1 (hnode ▸ rfl)

end FileTree

theorem Template.read_eq_ok {files : FileTree} {id path : String} {T : Template}
    (h : Template.read files id path = .ok T) :
    T.id = id ∧ ∃ text, files.readText path = .ok text := by
  unfold Template.read at h
  split at h
  · cases h
  · next text hr =>
    cases h
    exact ⟨rfl, text, hr⟩

namespace TemplateFolder

variable {folder : TemplateFolder} {files : FileTree} {id name : String} {T : Template}

theorem isBadId_eq_false_iff : isBadId id = false ↔
    id ≠ "" ∧ '/' ∉ id.toList ∧ '\\' ∉ id.toList ∧ id ≠ ".." := by
  simp [isBadId, and_assoc]

theorem get_of_bad (h : isBadId id = true) (folder : TemplateFolder) (files : FileTree) :
    folder.get files id = .error (.badTemplateId id) := if_pos h

theorem get_eq_ok_iff : folder.get files id = .ok T ↔ isBadId id = false ∧
    Template.read files id (Path.join folder.root (id ++ ".json")) = .ok T := by
  unfold get
  split
  · next h => simp [h]
  · next h => simp [Bool.eq_false_iff.2 h]

theorem ofFileName?_eq_some_iff : folder.ofFileName? files name = some T ↔
    T.id ≠ "" ∧ name = T.id ++ ".json" ∧
      Template.read files T.id (Path.join folder.root name) = .ok T := by
  have hjson : ∀ stem, Path.stem? "json" name = some stem ↔ stem ≠ "" ∧ name = stem ++ ".json" := by
    intro stem
    rw [Path.stem?_eq_some_iff (by decide +kernel), String.append_assoc]
    rfl
  unfold ofFileName?
  rw [Option.bind_eq_bind, Option.bind_eq_some_iff]
  constructor
  · rintro ⟨stem, hstem, hread⟩
    obtain ⟨hne, hname⟩ := (hjson stem).1 hstem
    have hread := eq_ok_of_toOption hread
    obtain ⟨rfl, -⟩ := Template.read_eq_ok hread
    exact ⟨hne, hname, hread⟩
  · rintro ⟨hne, hname, hread⟩
    exact ⟨T.id, (hjson T.id).2 ⟨hne, hname⟩, by rw [hread]; rfl⟩

theorem mem_list_iff : T ∈ folder.list files ↔ files.isFolder folder.root = true ∧
    T.id ++ ".json" ∈ files.names folder.root ∧ T.id ≠ "" ∧
      Template.read files T.id (Path.join folder.root (T.id ++ ".json")) = .ok T := by
  unfold list
  split
  · next h =>
    rw [List.mem_mergeSort, List.mem_filterMap]
    simp only [ofFileName?_eq_some_iff, h, true_and]
    constructor
    · rintro ⟨_, hmem, hne, rfl, hread⟩
      exact ⟨hmem, hne, hread⟩
    · rintro ⟨hmem, hne, hread⟩
      exact ⟨_, hmem, hne, rfl, hread⟩
  · next h => simp [h]

theorem nodup_ids (folder : TemplateFolder) (files : FileTree) :
    (((files.names folder.root).filterMap (folder.ofFileName? files)).map Template.id).Nodup := by
  rw [List.map_filterMap]
  refine (files.nodup_names folder.root).filterMap fun name name' id h h' => ?_
  obtain ⟨T, hT, rfl⟩ := Option.map_eq_some_iff.1 h
  obtain ⟨T', hT', hid⟩ := Option.map_eq_some_iff.1 h'
  rw [(ofFileName?_eq_some_iff.1 hT).2.1, (ofFileName?_eq_some_iff.1 hT').2.1, hid]

/-- Templates with different ids are sorted strictly. -/
theorem pairwise_sorted {Ts : List Template} (h : (Ts.map Template.id).Nodup) :
    ((Ts.mergeSort fun a b => decide (a.id ≤ b.id)).map Template.id).Pairwise (· < ·) := by
  let le (a b : Template) : Bool := decide (a.id ≤ b.id)
  have hle : (Ts.mergeSort le).Pairwise fun a b => le a b = true := by
    refine List.pairwise_mergeSort (fun a b c hab hbc => ?_) (fun a b => ?_) Ts
    · exact decide_eq_true (String.le_trans (of_decide_eq_true hab) (of_decide_eq_true hbc))
    · simpa [le] using String.le_total a.id b.id
  have hne : (Ts.mergeSort le).Pairwise fun a b => a.id ≠ b.id :=
    List.pairwise_map.1 (((List.mergeSort_perm Ts le).map Template.id).nodup_iff.2 h)
  exact List.pairwise_map.2 ((hle.and hne).imp fun hab =>
    String.not_le.1 fun hba => hab.2 (String.le_antisymm (of_decide_eq_true hab.1) hba))

/-- **Listing and finding agree** on the ids that are not refused: what is listed is found by its id
unless that holds a backslash or is two points, what is found is listed unless the folder has no
path, and no id is listed twice. -/
theorem listed_templates_found (folder : TemplateFolder) (files : FileTree) :
    (∀ T ∈ folder.list files, folder.get files T.id =
      if '\\' ∈ T.id.toList ∨ T.id = ".." then .error (.badTemplateId T.id) else .ok T) ∧
    (∀ id T, folder.get files id = .ok T →
      T.id = id ∧ (folder.root ≠ "" → T ∈ folder.list files)) ∧
    ((folder.list files).map Template.id).Pairwise (· < ·) := by
  refine ⟨fun T hT => ?_, fun id T hT => ?_, ?_⟩
  · obtain ⟨-, hmem, hne, hread⟩ := mem_list_iff.1 hT
    have hslash : '/' ∉ T.id.toList := fun hs =>
      FileTree.slashless_of_mem_names hmem (by simp [hs])
    split
    · next hbad =>
      refine get_of_bad (eq_true_of_ne_false fun hb => ?_) folder files
      obtain ⟨-, -, hback, hpoints⟩ := isBadId_eq_false_iff.1 hb
      exact hbad.elim hback hpoints
    · next hgood =>
      rw [not_or] at hgood
      exact get_eq_ok_iff.2 ⟨isBadId_eq_false_iff.2 ⟨hne, hslash, hgood⟩, hread⟩
  · obtain ⟨hbad, hread⟩ := get_eq_ok_iff.1 hT
    obtain ⟨rfl, text, htext⟩ := Template.read_eq_ok hread
    obtain ⟨hne, hslash, -⟩ := isBadId_eq_false_iff.1 hbad
    refine ⟨rfl, fun hroot => ?_⟩
    obtain ⟨hfolder, hmem⟩ :=
      FileTree.mem_names_of_readText (Path.isName_json hslash) hroot htext
    exact mem_list_iff.2 ⟨hfolder, hmem, hne, hread⟩
  · unfold list
    split
    · exact pairwise_sorted (nodup_ids folder files)
    · exact List.Pairwise.nil

/-- A name with two points in it, beside a name that is no text. -/
theorem listed_templates_found_of_portrait :
    let folder : TemplateFolder := ⟨"t"⟩
    let files : FileTree := ⟨.ofList [("t", .folder), ("t/por.trait.json", .text "\x7b\x7d"),
      ("t/broken.json", .bytes)]⟩
    ∃ T, folder.get files "por.trait" = .ok T ∧ T.id = "por.trait" ∧ T ∈ folder.list files ∧
      folder.get files T.id = .ok T := by
  intro folder files
  have hs : (folder.get files "por.trait").toOption.isSome = true := by decide +kernel
  obtain ⟨T, hT⟩ := Option.isSome_iff_exists.1 hs
  have hget : folder.get files "por.trait" = .ok T := eq_ok_of_toOption hT
  obtain ⟨hlisted, hfound, -⟩ := listed_templates_found folder files
  obtain ⟨hid, hmem⟩ := hfound _ _ hget
  have hroot : folder.root ≠ "" := by decide
  have hgood : ¬('\\' ∈ T.id.toList ∨ T.id = "..") := by
    rw [hid]
    decide +kernel
  exact ⟨T, hget, hid, hmem hroot, (hlisted T (hmem hroot)).trans (if_neg hgood)⟩

/-- Templates that are listed and not found: one with a backslash in its name, and one whose name is
two points before the extension. -/
theorem listed_templates_refused :
    let folder : TemplateFolder := ⟨"t"⟩
    let files : FileTree := ⟨.ofList [("t", .folder), ("t/a\\b.json", .text "\x7b\x7d"),
      ("t/...json", .text "\x7b\x7d")]⟩
    (∃ T ∈ folder.list files, T.id = "a\\b" ∧
      folder.get files "a\\b" = .error (.badTemplateId "a\\b")) ∧
    ∃ T ∈ folder.list files, T.id = ".." ∧
      folder.get files ".." = .error (.badTemplateId "..") := by
  intro folder files
  have hfolder : files.isFolder folder.root = true := by decide +kernel
  have hlisted : ∀ id, id ≠ "" → id ++ ".json" ∈ files.names folder.root →
      (Template.read files id (Path.join folder.root (id ++ ".json"))).toOption.isSome = true →
        ∃ T ∈ folder.list files, T.id = id := by
    intro id hne hmem hread
    obtain ⟨T, hT⟩ := Option.isSome_iff_exists.1 hread
    obtain ⟨rfl, -⟩ := Template.read_eq_ok (eq_ok_of_toOption hT)
    exact ⟨T, mem_list_iff.2 ⟨hfolder, hmem, hne, eq_ok_of_toOption hT⟩, rfl⟩
  obtain ⟨A, hA, ha⟩ := hlisted "a\\b" (by decide) (by decide +kernel) (by decide +kernel)
  obtain ⟨B, hB, hb⟩ := hlisted ".." (by decide) (by decide +kernel) (by decide +kernel)
  have hback : isBadId "a\\b" = true := by decide +kernel
  have hpoints : isBadId ".." = true := by decide +kernel
  exact ⟨⟨A, hA, ha, get_of_bad hback folder files⟩, B, hB, hb, get_of_bad hpoints folder files⟩

end TemplateFolder

end PromptGraph
