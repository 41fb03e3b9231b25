import PromptGraph.Proofs.FileChanges
import PromptGraph.Proofs.Maps
import PromptGraph.Run.Manifest

/-!
# Manifests of runs

Storing a manifest ends in one of three ways (`deposit_ends`). What is stored is read back, and goes
on being read back until a manifest with the same handle is stored (`readText_of_stored`): every
handle has a file of its own (`place_ne`). A manifest keeps every artifact, behind the two entries
that the folder makes (`keys_manifest`, `get?_manifest`).
-/

namespace PromptGraph

structure Deposit where
  handle : String
  timestamp : String
  artifacts : Artifacts
  deriving DecidableEq

namespace Deposit

def manifest (d : Deposit) : OrderedMap Json :=
  ManifestFolder.manifest d.handle d.timestamp d.artifacts

def json (d : Deposit) : Json := .object d.manifest.entries

end Deposit

namespace ManifestFolder

variable {f : ManifestFolder} {t u : FileTree} {handle other text : String} {d : Deposit}

def deposit (f : ManifestFolder) (t : FileTree) (d : Deposit) : Except Failure String × FileTree :=
  f.store d.timestamp t d.handle d.artifacts

/-- The files after manifests were stored one after the other. -/
def depositAll (f : ManifestFolder) (t : FileTree) (ds : List Deposit) : FileTree :=
  ds.foldl (fun t d => (f.deposit t d).2) t

/-- The manifests, of those stored one after the other, whose store succeeded. -/
def stored (f : ManifestFolder) : FileTree → List Deposit → List Deposit
  | _, [] => []
  | t, d :: ds => match f.deposit t d with
    | (.ok _, u) => d :: stored f u ds
    | (.error _, u) => stored f u ds

/-! ## What is written -/

theorem keys_manifest (handle timestamp : String) (artifacts : Artifacts) :
    (manifest handle timestamp artifacts).keys =
      "handle_id" :: "timestamp" ::
        artifacts.keys.filter fun key => key ∉ ["handle_id", "timestamp"] :=
  OrderedMap.keys_insertAll artifacts.nodup _

theorem get?_manifest (handle timestamp key : String) (artifacts : Artifacts) :
    (manifest handle timestamp artifacts).get? key =
      (artifacts.get? key).or (if "handle_id" = key then some (.text handle)
        else if "timestamp" = key then some (.text timestamp) else none) := by
  have hnodup : (Entries.keys [("handle_id", Json.text handle),
      ("timestamp", .text timestamp)]).Nodup :=
    show ["handle_id", "timestamp"].Nodup by decide
  rw [manifest, OrderedMap.get?_insertAll artifacts.nodup, OrderedMap.get?_ofList_of_nodup hnodup]
  rfl

/-! ## The file of a handle -/

theorem isBadHandle_eq_false_iff : isBadHandle handle = false ↔
    handle ≠ "" ∧ '/' ∉ handle.toList ∧ '\\' ∉ handle.toList := by
  simp only [isBadHandle, Bool.or_eq_false_iff, List.any_eq_false, String.isEmpty_eq_false_iff]
  refine and_congr_right fun _ => ⟨fun h => ?_, fun ⟨hs, hb⟩ c hc => ?_⟩
  · exact ⟨fun hm => h _ hm rfl, fun hm => h _ hm rfl⟩
  · have hslash : c ≠ '/' := fun e => hs (e ▸ hc)
    have hback : c ≠ '\\' := fun e => hb (e ▸ hc)
    simp [hslash, hback]

theorem locate_fileOf (h : '/' ∉ handle.toList) {p : List String}
    (hl : t.locate (f.fileOf handle) = .ok p) : ∃ base, t.resolve f.root = .ok base ∧
      t.at? base = some .folder ∧ p = base ++ [handle ++ ".json"] := by
  obtain ⟨-, hr⟩ := FileTree.locate_eq_ok_iff.1 hl
  exact ((FileTree.resolve_join_eq_ok_iff (Path.isName_json h)).1 hr).2

theorem place_ne (hne : handle ≠ other) (h : '/' ∉ handle.toList) (ho : '/' ∉ other.toList)
    {p q : List String} (hp : t.locate (f.fileOf handle) = .ok p)
    (hq : t.locate (f.fileOf other) = .ok q) : FileTree.place p ≠ FileTree.place q := by
  obtain ⟨base, hb, -, rfl⟩ := locate_fileOf h hp
  obtain ⟨base', hb', -, rfl⟩ := locate_fileOf ho hq
  rw [hb] at hb'
  cases hb'
  intro he
  have hname := FileTree.name_eq_of_place_eq (FileTree.slashless_of_resolve hb)
    (Path.isName_json h).slashless (Path.isName_json ho).slashless he
  exact hne (String.append_left_inj _ |>.1 hname)

/-! ## Storing -/

/-- How storing a text for a handle ends, in the tree `t`. -/
inductive Ends (f : ManifestFolder) (handle text : String) (t : FileTree) :
    Except Failure String → FileTree → Prop
  | refused : isBadHandle handle = true → Ends f handle text t (.error (.badHandle handle)) t
  | failed {u : FileTree} (e : FileError) : isBadHandle handle = false → t.Grows u →
      Ends f handle text t (.error (.notStored e)) u
  | written {s u : FileTree} : isBadHandle handle = false → t.Grows s →
      s.writeText (f.fileOf handle) text = .ok u → Ends f handle text t (.ok (f.fileOf handle)) u

theorem deposit_of_refused (h : isBadHandle d.handle = true) (f : ManifestFolder) (t : FileTree) :
    f.deposit t d = (.error (.badHandle d.handle), t) := if_pos h

theorem deposit_of_accepted (h : isBadHandle d.handle = false) (f : ManifestFolder)
    (t : FileTree) : f.deposit t d = match t.makeFolders f.root with
      | (s, .error e) => (.error (.notStored e), s)
      | (s, .ok ()) => match s.writeText (f.fileOf d.handle) d.json.pretty with
        | .ok u => (.ok (f.fileOf d.handle), u)
        | .error e => (.error (.notStored e), s) :=
  if_neg (Bool.not_eq_true _ ▸ h)

theorem deposit_ends (f : ManifestFolder) (t : FileTree) (d : Deposit) :
    Ends f d.handle d.json.pretty t (f.deposit t d).1 (f.deposit t d).2 := by
  cases h : isBadHandle d.handle with
  | true =>
    rw [deposit_of_refused h]
    exact .refused h
  | false =>
    have hgrows := FileTree.grows_makeFolders t f.root
    rw [deposit_of_accepted h]
    generalize t.makeFolders f.root = made at hgrows ⊢
    obtain ⟨s, e | _⟩ := made
    · exact .failed e h hgrows
    · dsimp only
      split
      · next u hu => exact .written h hgrows hu
      · next e _ => exact .failed e h hgrows

/-! ## Reading back -/

theorem Ends.readText_kept {answer : Except Failure String} (h : Ends f other text t answer u)
    (hs : '/' ∉ handle.toList) (hne : handle ≠ other ∨ answer.isOk = false) {old : String}
    (hr : t.readText (f.fileOf handle) = .ok old) : u.readText (f.fileOf handle) = .ok old := by
  cases h with
  | refused _ => exact hr
  | failed _ _ hg => exact FileTree.readText_grows hg hr
  | written hbad hg hw =>
    -- making folders keeps the text, and the file that is written is another one
    have hne := hne.resolve_right Bool.noConfusion
    obtain ⟨here, hl, -, -, hf, rfl⟩ := FileTree.write_eq_ok_iff.1 hw
    refine FileTree.readText_put hf (FileTree.readText_grows hg hr) fun p hp => ?_
    exact place_ne hne hs (isBadHandle_eq_false_iff.1 hbad).2.1 hp hl

theorem Ends.readText_stored {answer : Except Failure String} (h : Ends f handle text t answer u)
    (hok : answer.isOk = true) :
    '/' ∉ handle.toList ∧ u.readText (f.fileOf handle) = .ok text := by
  cases h with
  | refused _ => cases hok
  | failed _ _ _ => cases hok
  | written hbad _ hw =>
    exact ⟨(isBadHandle_eq_false_iff.1 hbad).2.1, FileTree.readText_write hw⟩

theorem stored_cons (f : ManifestFolder) (t : FileTree) (d : Deposit) (ds : List Deposit) :
    f.stored t (d :: ds) = if (f.deposit t d).1.isOk then d :: f.stored (f.deposit t d).2 ds
      else f.stored (f.deposit t d).2 ds := by
  rw [stored]
  split
  · next h => rw [h]; rfl
  · next h => rw [h]; rfl

theorem readText_depositAll (ds : List Deposit) (hs : '/' ∉ handle.toList)
    (hne : ∀ d ∈ f.stored t ds, d.handle ≠ handle) (hr : t.readText (f.fileOf handle) = .ok text) :
    (f.depositAll t ds).readText (f.fileOf handle) = .ok text := by
  induction ds generalizing t with
  | nil => exact hr
  | cons d ds ih =>
    rw [stored_cons] at hne
    have hstep := deposit_ends f t d
    cases hok : (f.deposit t d).1.isOk with
    | true =>
      rw [hok, if_pos rfl] at hne
      refine ih (fun e he => hne e (List.mem_cons_of_mem d he)) ?_
      exact hstep.readText_kept hs (.inl (hne d List.mem_cons_self).symm) hr
    | false =>
      rw [hok, if_neg Bool.false_ne_true] at hne
      exact ih hne (hstep.readText_kept hs (.inr hok) hr)

/-- After a run the last text that was stored for a handle is read. -/
theorem readText_of_stored {ds before after : List Deposit}
    (h : f.stored t ds = before ++ d :: after) (hlast : ∀ e ∈ after, e.handle ≠ d.handle) :
    (f.depositAll t ds).readText (f.fileOf d.handle) = .ok d.json.pretty := by
  -- along the run; `before` shrinks by what is stored ahead of `d`, from where on the text is kept
  induction ds generalizing t before with
  | nil => exact absurd h.symm (by simp [stored])
  | cons c ds ih =>
    rw [stored_cons] at h
    cases hok : (f.deposit t c).1.isOk with
    | false =>
      rw [hok, if_neg Bool.false_ne_true] at h
      exact ih h
    | true =>
      rw [hok, if_pos rfl] at h
      cases before with
      | cons b before => exact ih (List.cons.inj h).2
      | nil =>
        obtain ⟨rfl, rfl⟩ := List.cons.inj h
        obtain ⟨hs, hr⟩ := (deposit_ends f t c).readText_stored hok
        exact readText_depositAll ds hs hlast hr

theorem read_of_readText {fields : List (String × Json)}
    (hr : t.readText (f.fileOf handle) = .ok text) (hp : Json.parse? text = some (.object fields)) :
    f.read t handle = .ok fields := by
  unfold read
  dsimp only
  rw [hr]
  dsimp only
  rw [hp]

/-- **Manifests are kept apart.** After any run of stores, a handle reads the last manifest that was
stored for it, as far as that manifest survives being printed: its own two entries first, every
artifact under its own key. A handle that is refused changes no file. -/
theorem stored_manifests_read (f : ManifestFolder) (t : FileTree) (ds : List Deposit) :
    (∀ before d after, f.stored t ds = before ++ d :: after →
      (∀ e ∈ after, e.handle ≠ d.handle) → Json.parse? d.json.pretty = some d.json →
        f.read (f.depositAll t ds) d.handle = .ok d.manifest.entries) ∧
    (∀ d : Deposit, d.manifest.keys = "handle_id" :: "timestamp" ::
        d.artifacts.keys.filter (fun key => key ∉ ["handle_id", "timestamp"]) ∧
      ∀ key, d.manifest.get? key = (d.artifacts.get? key).or
        (if "handle_id" = key then some (.text d.handle)
        else if "timestamp" = key then some (.text d.timestamp) else none)) ∧
    ∀ d, (f.deposit (f.depositAll t ds) d).1 = .error (.badHandle d.handle) →
      f.depositAll t (ds ++ [d]) = f.depositAll t ds := by
  refine ⟨fun before d after h hlast hprinted => ?_, fun d => ?_, fun d h => ?_⟩
  · exact read_of_readText (readText_of_stored h hlast) hprinted
  · exact ⟨keys_manifest d.handle d.timestamp d.artifacts,
      fun key => get?_manifest d.handle d.timestamp key d.artifacts⟩
  · have hstep := deposit_ends f (f.depositAll t ds) d
    rw [h] at hstep
    have hsnoc : f.depositAll t (ds ++ [d]) = (f.deposit (f.depositAll t ds) d).2 := by
      simp [depositAll]
    rw [hsnoc]
    generalize (f.deposit (f.depositAll t ds) d).2 = u at hstep
    cases hstep
    rfl

/-- A run that is stored twice, among one with a similar handle and one that is refused. -/
theorem stored_manifests_read_of_repeated_run :
    let f : ManifestFolder := ⟨"out"⟩
    let first : Deposit := ⟨"run 1", "20240101-120000", .ofList [("seed", .nat 7)]⟩
    let again : Deposit := ⟨"run 1", "20240101-120500",
      .ofList [("images", .array [.text "b.png"]), ("timestamp", .null)]⟩
    let similar : Deposit := ⟨"run 1.json", "20240101-121000", .empty⟩
    let refused : Deposit := ⟨"../run 1", "20240101-121500", .empty⟩
    let files := f.depositAll ⟨.empty⟩ [first, again, similar]
    f.stored ⟨.empty⟩ [first, again, similar] = [first] ++ again :: [similar] ∧
      again.handle ∉ [similar].map Deposit.handle ∧
      Json.parse? again.json.pretty = some again.json ∧
      (f.deposit files refused).1 = .error (.badHandle "../run 1") ∧
      f.read files "run 1" = .ok [("handle_id", .text "run 1"), ("timestamp", .null),
        ("images", .array [.text "b.png"])] ∧
      f.depositAll ⟨.empty⟩ ([first, again, similar] ++ [refused]) = files := by
  intro f first again similar refused files
  have hstored : f.stored ⟨.empty⟩ [first, again, similar] = [first] ++ again :: [similar] := by
    decide +kernel
  have hprinted : Json.parse? again.json.pretty = some again.json := by decide +kernel
  have hlast : again.handle ∉ [similar].map Deposit.handle := by decide
  have hrefused : (f.deposit files refused).1 = .error (.badHandle refused.handle) := by
    rw [deposit_of_refused (by decide +kernel)]
  have hentries : again.manifest.entries = [("handle_id", .text "run 1"), ("timestamp", .null),
      ("images", .array [.text "b.png"])] := by decide +kernel
  obtain ⟨hread, -, hkept⟩ := stored_manifests_read f ⟨.empty⟩ [first, again, similar]
  refine ⟨hstored, hlast, hprinted, hrefused, ?_, hkept refused hrefused⟩
  rw [← hentries]
  exact hread [first] again [similar] hstored
    (fun e he hh => hlast (hh ▸ List.mem_map_of_mem he)) hprinted

end ManifestFolder

end PromptGraph
