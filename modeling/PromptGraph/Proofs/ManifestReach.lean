import PromptGraph.Proofs.Manifests

/-!
# The reach of a folder of manifests

What operations ask of a tree besides the content of its files is its `outline`: what is there, and
which of it are folders. Storing a manifest depends on nothing else, and changes one file, directly
inside the folder (`Ends.reach`). Reading one looks into no file but that of the handle, which is
directly inside the folder unless the handle holds a slash (`read_congr`).
-/

namespace PromptGraph

namespace FileTree

open PromptGraph.Path

variable {t u : FileTree} {here p : List String} {path root name : String}

/-- The place of the file `name` directly inside the folder that `root` leads to. -/
def Inside (t : FileTree) (root name : String) (p : List String) : Prop :=
  IsName name ∧ ∃ base, t.resolve root = .ok base ∧ t.at? base = some .folder ∧
    place p = place (base ++ [name])

/-- What is there, and whether it is a folder. -/
def outline (t : FileTree) (components : List String) : Option Bool :=
  (t.at? components).map fun node => decide (node = .folder)

theorem Inside.pieces_eq {base : List String} (h : t.Inside root name p)
    (hb : t.resolve root = .ok base) : pieces (place p) = base ++ [name] := by
  obtain ⟨hname, base', hb', -, hp⟩ := h
  rw [hb] at hb'
  cases hb'
  rw [hp, pieces_place_append (slashless_of_resolve hb) hname.slashless]

/-! ## What the outline decides -/

theorem enter_eq (t : FileTree) (here : List String) : t.enter here = match t.outline here with
    | some true => .ok ()
    | some false => .error .notAFolder
    | none => .error .notFound := by
  unfold enter outline
  rcases t.at? here with - | ⟨⟩ | _ | _ <;> rfl

theorem outline_eq_folder_iff : t.outline p = some true ↔ t.at? p = some .folder := by
  unfold outline
  rcases t.at? p with - | node
  · exact iff_of_false (by simp) (by simp)
  · simp

theorem enter_congr (h : t.outline = u.outline) (here : List String) :
    t.enter here = u.enter here := by
  rw [enter_eq, enter_eq, h]

theorem follow_congr (h : t.outline = u.outline) (here cs : List String) :
    t.follow here cs = u.follow here cs := by
  induction cs generalizing here with
  | nil => rfl
  | cons c cs ih =>
    rw [follow, follow, enter_congr h, ih, ih, ih]

theorem locate_congr (h : t.outline = u.outline) (path : String) :
    t.locate path = u.locate path := by
  unfold locate resolve
  rw [follow_congr h]

theorem outline_put (h : t.outline = u.outline) (ht : t.at? here ≠ some .folder)
    (node : FileNode) : (t.put here node).outline = (u.put here node).outline := by
  have hu : u.at? here ≠ some .folder := fun hf =>
    ht (outline_eq_folder_iff.1 (h ▸ outline_eq_folder_iff.2 hf))
  funext p
  have hp : t.outline p = u.outline p := congrFun h p
  rw [outline, outline, at?_put ht, at?_put hu]
  split
  · rfl
  · exact hp

theorem cases_of_outlines {a b : Except FileError FileTree} (h : a.map outline = b.map outline) :
    (∃ e, a = .error e ∧ b = .error e) ∨
      ∃ t u, a = .ok t ∧ b = .ok u ∧ t.outline = u.outline := by
  rcases a with e | t <;> rcases b with e' | u
  · cases h
    exact .inl ⟨e, rfl, rfl⟩
  · cases h
  · cases h
  · exact .inr ⟨t, u, rfl, rfl, Except.ok.inj h⟩

theorem write_congr (h : t.outline = u.outline) (path : String) (node : FileNode) :
    (t.write path node).map outline = (u.write path node).map outline := by
  rw [write, write, Decode.map_bind, Decode.map_bind, locate_congr h]
  refine bind_congr fun here => ?_
  rw [Decode.map_bind, Decode.map_bind, enter_congr h]
  refine bind_congr fun _ => ?_
  have hfolder : t.at? here = some .folder ↔ u.at? here = some .folder := by
    rw [← outline_eq_folder_iff, ← outline_eq_folder_iff, h]
  by_cases hrefused : asksForFolder path = true ∨ t.at? here = some .folder
  · rw [if_pos hrefused, if_pos (hrefused.imp_right hfolder.1)]
  · rw [if_neg hrefused, if_neg fun hu => hrefused (hu.imp_right hfolder.2)]
    exact congrArg Except.ok (outline_put h (fun hf => hrefused (.inr hf)) node)

theorem makeFolder_eq (t : FileTree) (path : String) :
    t.makeFolder path = (do
      let here ← t.locate path
      t.enter here.dropLast
      match t.outline here with
      | some true => .ok t
      | some false => .error .taken
      | none => .ok (t.put here .folder)) := by
  refine bind_congr fun here => bind_congr fun _ => ?_
  unfold outline
  rcases t.at? here with - | ⟨⟩ | _ | _ <;> rfl

theorem makeFolder_congr (h : t.outline = u.outline) (path : String) :
    (t.makeFolder path).map outline = (u.makeFolder path).map outline := by
  rw [makeFolder_eq, makeFolder_eq, Decode.map_bind, Decode.map_bind, locate_congr h]
  refine bind_congr fun here => ?_
  rw [Decode.map_bind, Decode.map_bind, enter_congr h, h]
  refine bind_congr fun _ => ?_
  split
  · exact congrArg Except.ok h
  · rfl
  · next hn =>
    have ht : t.at? here ≠ some .folder := fun hf => by
      rw [← h, outline_eq_folder_iff.2 hf] at hn
      cases hn
    exact congrArg Except.ok (outline_put h ht .folder)

theorem makeFoldersFrom_congr (h : t.outline = u.outline) (front : String) (names : List String) :
    (makeFoldersFrom front names t).1.outline = (makeFoldersFrom front names u).1.outline ∧
      (makeFoldersFrom front names t).2 = (makeFoldersFrom front names u).2 := by
  induction names generalizing front t u with
  | nil => exact ⟨h, rfl⟩
  | cons c rest ih =>
    rw [makeFoldersFrom, makeFoldersFrom]
    split
    · exact ih h _
    · rcases cases_of_outlines (makeFolder_congr h (front ++ c)) with
        ⟨e, ht, hu⟩ | ⟨t', u', ht, hu, ho⟩
      · rw [ht, hu]
        exact ⟨h, rfl⟩
      · rw [ht, hu]
        exact ih ho _

theorem makeFolders_congr (h : t.outline = u.outline) (path : String) :
    (t.makeFolders path).1.outline = (u.makeFolders path).1.outline ∧
      (t.makeFolders path).2 = (u.makeFolders path).2 := by
  unfold makeFolders
  split
  · exact ⟨h, rfl⟩
  · split
    · exact ⟨h, rfl⟩
    · exact makeFoldersFrom_congr h "" (pieces path)

theorem outline_put_of_file {old node : FileNode} (h : t.at? here = some old)
    (ho : old ≠ .folder) (hn : node ≠ .folder) : (t.put here node).outline = t.outline := by
  have ht : t.at? here ≠ some .folder := by simpa [h] using ho
  funext p
  rw [outline, outline, at?_put ht]
  split
  · next hp => simp [at?_congr hp, h, ho, hn]
  · rfl

theorem at?_put_of_inside {base : List String} (ht : t.at? here ≠ some .folder)
    (hb : t.resolve root = .ok base) (hout : (pieces (place here)).dropLast ≠ base)
    (node : FileNode) (h : t.Inside root name p) : (t.put here node).at? p = t.at? p := by
  rw [at?_put ht, if_neg fun he => ?_]
  rw [← he, h.pieces_eq hb, List.dropLast_concat] at hout
  exact hout rfl

theorem readText_congr (h : t.outline = u.outline)
    (hp : ∀ p, t.locate path = .ok p → u.at? p = t.at? p) : t.readText path = u.readText path := by
  have hlookup : t.lookup path = u.lookup path := by
    rw [lookup, lookup, ← locate_congr h]
    refine Decode.bind_congr_of_ok fun here hl => ?_
    rw [hp here hl]
  rw [readText, readText, hlookup]

end FileTree

namespace ManifestFolder

variable {f : ManifestFolder} {t u : FileTree} {handle timestamp text : String} {d : Deposit}
  {answer : Except Failure String}

/-- A store changes nothing but the file of its handle, apart from folders that it makes. -/
theorem Ends.reach (h : Ends f handle text t answer u) (p : List String) :
    u.at? p = t.at? p ∨ t.at? p = none ∧ u.at? p = some .folder ∨
      answer = .ok (f.fileOf handle) ∧ u.Inside f.root (handle ++ ".json") p := by
  cases h with
  | refused _ => exact .inl rfl
  | failed _ _ hg => exact (hg p).imp_right .inl
  | @written s _ hbad hg hw =>
    obtain ⟨here, hl, -, -, hf, rfl⟩ := FileTree.write_eq_ok_iff.1 hw
    have hslash := (isBadHandle_eq_false_iff.1 hbad).2.1
    obtain ⟨base, hb, hbase, rfl⟩ := locate_fileOf hslash hl
    by_cases hp : FileTree.place p = FileTree.place (base ++ [handle ++ ".json"])
    · refine .inr (.inr ⟨rfl, Path.isName_json hslash, base, ?_, ?_, hp⟩)
      -- the folder was reached before the file was written, which replaced no folder
      · exact FileTree.follow_mono (fun _ => FileTree.folder_put hf) hb
      · exact FileTree.folder_put hf hbase
    · rw [FileTree.at?_put hf, if_neg hp]
      exact (hg p).imp_right .inl

/-- A store depends on the outline alone. -/
theorem deposit_congr (h : t.outline = u.outline) (f : ManifestFolder) (d : Deposit) :
    (f.deposit t d).1 = (f.deposit u d).1 ∧
      (f.deposit t d).2.outline = (f.deposit u d).2.outline := by
  cases hbad : isBadHandle d.handle with
  | true =>
    rw [deposit_of_refused hbad, deposit_of_refused hbad]
    exact ⟨rfl, h⟩
  | false =>
    rw [deposit_of_accepted hbad, deposit_of_accepted hbad]
    have hmade := FileTree.makeFolders_congr h f.root
    generalize t.makeFolders f.root = made at hmade ⊢
    generalize u.makeFolders f.root = made' at hmade ⊢
    obtain ⟨t', made⟩ := made
    obtain ⟨u', made'⟩ := made'
    obtain ⟨ho : t'.outline = u'.outline, rfl : made = made'⟩ := hmade
    cases made with
    | error e => exact ⟨rfl, ho⟩
    | ok _ =>
      dsimp only [FileTree.writeText]
      rcases FileTree.cases_of_outlines
          (FileTree.write_congr ho (f.fileOf d.handle) (.text d.json.pretty)) with
        ⟨e, ht, hu⟩ | ⟨s, s', ht, hu, hs⟩
      · rw [ht, hu]
        exact ⟨rfl, ho⟩
      · rw [ht, hu]
        exact ⟨rfl, hs⟩

/-- Reading depends on the outline and on the file of the handle. -/
theorem read_congr (h : t.outline = u.outline) (hs : '/' ∉ handle.toList)
    (hp : ∀ p, t.Inside f.root (handle ++ ".json") p → u.at? p = t.at? p) :
    f.read t handle = f.read u handle := by
  have hread : t.readText (f.fileOf handle) = u.readText (f.fileOf handle) := by
    refine FileTree.readText_congr h fun p hl => hp p ?_
    obtain ⟨base, hb, hbase, rfl⟩ := locate_fileOf hs hl
    exact ⟨Path.isName_json hs, base, hb, hbase, rfl⟩
  unfold read
  dsimp only
  rw [hread]

/-- **A folder of manifests keeps to itself.** Whatever the files hold, a store makes folders and
writes at most the file of its handle, directly inside the folder. A handle without a slash is read
from its file, directly inside the folder, alone. -/
theorem manifests_kept_inside (f : ManifestFolder) (t : FileTree) (d : Deposit) (handle : String) :
    (∀ p, (f.deposit t d).2.at? p = t.at? p ∨
      t.at? p = none ∧ (f.deposit t d).2.at? p = some .folder ∨
        (f.deposit t d).1 = .ok (f.fileOf d.handle) ∧
          (f.deposit t d).2.Inside f.root (d.handle ++ ".json") p) ∧
    (∀ u, u.outline = t.outline → (f.deposit u d).1 = (f.deposit t d).1 ∧
      (f.deposit u d).2.outline = (f.deposit t d).2.outline) ∧
    ('/' ∉ handle.toList → ∀ u, u.outline = t.outline →
      (∀ p, t.Inside f.root (handle ++ ".json") p → u.at? p = t.at? p) →
        f.read u handle = f.read t handle) := by
  refine ⟨(deposit_ends f t d).reach, fun u h => deposit_congr h f d, ?_⟩
  intro hs u h hp
  exact (read_congr h.symm hs hp).symm

/-- Beside the folder a file changes, which neither a store nor a read inside it notices. -/
theorem manifests_kept_inside_of_neighbour :
    let f : ManifestFolder := ⟨"o"⟩
    let d : Deposit := ⟨"run", "20240101-120000", .empty⟩
    let t : FileTree := ⟨.ofList [("o", .folder), ("o/x.json", .text "\x7b\x7d"),
      ("x.json", .bytes)]⟩
    let u := t.put ["x.json"] (.text "[]")
    '/' ∉ "x".toList ∧ u.outline = t.outline ∧
      (∀ p, t.Inside "o" "x.json" p → u.at? p = t.at? p) ∧
      f.read t "x" = .ok [] ∧ f.read u "x" = .ok [] ∧
      (f.deposit t d).1 = .ok "o/run.json" ∧ (f.deposit u d).1 = .ok "o/run.json" := by
  intro f d t u
  have hx : t.at? ["x.json"] = some .bytes := by decide +kernel
  have hb : t.resolve "o" = .ok ["o"] := eq_ok_of_toOption (by decide +kernel)
  have ho : u.outline = t.outline := FileTree.outline_put_of_file hx (by decide) (by decide)
  have hp : ∀ p, t.Inside "o" "x.json" p → u.at? p = t.at? p := fun p =>
    FileTree.at?_put_of_inside (by simp [hx]) hb (by decide +kernel) _
  have hread : f.read t "x" = .ok [] := eq_ok_of_toOption (by decide +kernel)
  have hstore : (f.deposit t d).1 = .ok "o/run.json" := eq_ok_of_toOption (by decide +kernel)
  obtain ⟨-, hstores, hreads⟩ := manifests_kept_inside f t d "x"
  have hs : '/' ∉ "x".toList := by decide +kernel
  exact ⟨hs, ho, hp, hread, (hreads hs u ho hp).trans hread, hstore,
    (hstores u ho).1.trans hstore⟩

/-- A handle with a slash is read from outside the folder. -/
theorem neighbour_read :
    let f : ManifestFolder := ⟨"o"⟩
    let t : FileTree := ⟨.ofList [("o", .folder), ("x.json", .text "\x7b\x7d")]⟩
    let u := t.put ["x.json"] (.text "\x7b\"a\": 1\x7d")
    u.outline = t.outline ∧ (∀ name p, t.Inside "o" name p → u.at? p = t.at? p) ∧
      f.read t "../x" = .ok [] ∧ f.read u "../x" = .ok [("a", .nat 1)] := by
  intro f t u
  have hx : t.at? ["x.json"] = some (.text "\x7b\x7d") := by decide +kernel
  have hb : t.resolve "o" = .ok ["o"] := eq_ok_of_toOption (by decide +kernel)
  refine ⟨FileTree.outline_put_of_file hx (by decide) (by decide), fun name p => ?_, ?_, ?_⟩
  · exact FileTree.at?_put_of_inside (by simp [hx]) hb (by decide +kernel) _
  · exact eq_ok_of_toOption (by decide +kernel)
  · exact eq_ok_of_toOption (by decide +kernel)

end ManifestFolder

end PromptGraph
