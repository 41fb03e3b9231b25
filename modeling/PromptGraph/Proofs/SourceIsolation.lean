import PromptGraph.Proofs.CacheJournals
import PromptGraph.Proofs.RawPaths

/-!
# Sources that share a cache

Caches that agree on a key answer its lookups alike and go on to agree (`Agree.step_eq`,
`Agree.after`), and calls for sources with other keys keep them in agreement. Under one key, what is
learned of one source is answered for another (`exists_lookup_changed`). So sources are isolated
exactly if their keys differ (`sources_isolated`), and keys tell sources apart but for a service
whose address is written like the key of a file or of a document at hand, and for files whose paths
show alike (`key_eq_iff`, `service_poses_as_file`).
-/

namespace PromptGraph

/-! ## Keys -/

deriving instance DecidableEq for Source

namespace Source

/-- The sources are of different kinds, or differ in more than how long a service is waited for. -/
def Differs : Source → Source → Prop
  | live address _, live address' _ => address ≠ address'
  | file path, file path' => path ≠ path'
  | inline key document, inline key' document' => key ≠ key' ∨ document ≠ document'
  | _, _ => True

/-- The first source is a service whose address is the key of the second, which is none. -/
def Poses : Source → Source → Prop
  | live address _, file path => address = (file path).key
  | live address _, inline key document => address = (inline key document).key
  | _, _ => False

/-- The sources are files under paths that show alike. -/
def ShowsAs : Source → Source → Prop
  | file path, file path' => path.display = path'.display
  | _, _ => False

/-- Documents at hand have keys of their own. -/
def KeepsApart : Source → Source → Prop
  | inline key document, inline key' document' => key = key' → document = document'
  | _, _ => True

variable {a b : Source}

theorem file_key_ne_inline_key (path : RawPath) (key : String) (document : Json) :
    (file path).key ≠ (inline key document).key := by
  intro h
  have hc := congrArg String.toList h
  rw [Source.key, Source.key, String.toList_append, String.toList_append] at hc
  cases hc

theorem Differs.ne (h : a.Differs b) : a ≠ b := by
  rintro rfl
  cases a with
  | live address timeout => exact h rfl
  | file path => exact h rfl
  | inline key document => exact h.elim (· rfl) (· rfl)

/-- Keys tell sources apart, unless a service poses as another source or two paths show alike. -/
theorem key_eq_iff (hd : a.Differs b) (hu : a.KeepsApart b) :
    a.key = b.key ↔ a.Poses b ∨ b.Poses a ∨ a.ShowsAs b := by
  cases a with
  | live address timeout =>
    cases b with
    | live address' timeout' =>
      have hne : address ≠ address' := hd
      simpa [Source.key, Poses, ShowsAs] using hne
    | file path => simp [Source.key, Poses, ShowsAs]
    | inline key document => simp [Source.key, Poses, ShowsAs]
  | file path =>
    cases b with
    | live address timeout => simp [Poses, ShowsAs, Source.key, eq_comm]
    | file path' => simp [Source.key, Poses, ShowsAs, String.append_right_inj]
    | inline key document =>
      simpa [Poses, ShowsAs] using file_key_ne_inline_key path key document
  | inline key document =>
    cases b with
    | live address timeout => simp [Poses, ShowsAs, Source.key, eq_comm]
    | file path => simpa [Poses, ShowsAs] using (file_key_ne_inline_key path key document).symm
    | inline key' document' =>
      -- the documents would be one
      have hne : key ≠ key' := fun hk => hd.elim (absurd hk) (absurd (hu hk))
      simpa [Source.key, Poses, ShowsAs, String.append_right_inj] using hne

theorem showsAs_ofText {path path' : String} :
    (file path).ShowsAs (file path') ↔ path = path' := by
  simp [ShowsAs]

-- neither path is a text
example : (file ⟨[0x66, 0xFF]⟩).ShowsAs (file ⟨[0x66, 0xFE]⟩) := by
  unfold ShowsAs
  decide +kernel

end Source

/-! ## Caches that agree -/

theorem Memory.isLive_congr {K V : Type} {m m' : Memory K V} (h : m.timeToLive = m'.timeToLive)
    (now since : Nat) : m.isLive now since = m'.isLive now since := by
  unfold isLive
  rw [h]

namespace SchemaCache

variable {c c' : SchemaCache} {key : String}

theorem Agree.learn (h : Agree key c c') (since : Nat) (r : Except Failure Catalog) :
    Agree key (c.learn since key r) (c'.learn since key r) := by
  obtain ⟨hc, hf, hs⟩ := c.timeToLive_learn since key r
  obtain ⟨hc', hf', hs'⟩ := c'.timeToLive_learn since key r
  refine ⟨fun now => ?_, fun now => ?_, ?_, hc.trans (h.catalogsLive.trans hc'.symm),
    hf.trans (h.failuresLive.trans hf'.symm), ?_⟩
  · cases r with
    | ok catalog =>
      refine (Memory.get?_set ..).trans (Eq.trans ?_ (Memory.get?_set ..).symm)
      rw [if_pos rfl, if_pos rfl, Memory.isLive_congr h.catalogsLive]
    | error e => exact h.catalogs now
  · cases r with
    | ok catalog => exact h.failure now
    | error e =>
      -- whether the failure counts depends on how long failures are remembered, and on nothing else
      have hlive : ∀ failures : Option (Memory String Failure),
          (failures.bind fun m => if m.isLive now since then some e else none) =
            (failures.map Memory.timeToLive).bind fun t =>
              if Memory.isLive (K := String) (V := Failure) ⟨t, []⟩ now since then some e
              else none := by
        intro failures
        cases failures <;> rfl
      rw [failure?_learn_error, failure?_learn_error, if_pos rfl, if_pos rfl, hlive, hlive,
        h.failuresLive]
  · rw [hs, hs']
    exact h.specs
  · rw [hs, hs']
    exact h.specsLive

theorem Agree.setSpecs (h : Agree key c c') (since : Nat) (typeName : String)
    (specs : List InputSpec) :
    Agree key { c with specs := c.specs.set since (key, typeName) specs }
      { c' with specs := c'.specs.set since (key, typeName) specs } :=
  { h with
    specs := fun now name => by
      rw [Memory.get?_set, Memory.get?_set, Memory.isLive_congr h.specsLive, h.specs]
    specsLive := h.specsLive }

theorem Agree.invalidate (h : Agree key c c') :
    Agree key (c.invalidate key) (c'.invalidate key) where
  catalogs _ := ((Memory.get?_remove ..).trans (if_pos rfl)).trans
    ((Memory.get?_remove ..).trans (if_pos rfl)).symm
  failure _ := by rw [failure?_invalidate, failure?_invalidate, if_pos rfl, if_pos rfl]
  specs _ _ := by rw [specs_get?_invalidate, specs_get?_invalidate, if_pos rfl, if_pos rfl]
  catalogsLive := h.catalogsLive
  failuresLive := (c.timeToLive_invalidate key).trans
    (h.failuresLive.trans (c'.timeToLive_invalidate key).symm)
  specsLive := h.specsLive

theorem Agree.clear (h : Agree key c c') : Agree key c.clear c'.clear where
  catalogs _ := rfl
  failure now := (failure?_clear c now key).trans (failure?_clear c' now key).symm
  specs _ _ := rfl
  catalogsLive := h.catalogsLive
  failuresLive := c.timeToLive_clear.trans (h.failuresLive.trans c'.timeToLive_clear.symm)
  specsLive := h.specsLive

end SchemaCache

namespace CacheState

/-- The states are of the same time, amid the same sources, and agree on the key. -/
structure Agree (key : String) (s s' : CacheState) : Prop where
  now : s.now = s'.now
  contents : s.contents = s'.contents
  cache : SchemaCache.Agree key s.cache s'.cache

variable {s s' : CacheState} {source : Source} {key : String} {e : CacheEvent}

theorem Agree.known? (h : Agree key s s') :
    s.cache.known? s.now key = s'.cache.known? s'.now key := by
  rw [h.cache.known?, h.now]

theorem Agree.specs (h : Agree key s s') (typeName : String) :
    s.cache.specs.get? s.now (key, typeName) = s'.cache.specs.get? s'.now (key, typeName) := by
  rw [h.cache.specs, h.now]

theorem Agree.catalog (h : Agree source.key s s') : (s.catalog source).1 = (s'.catalog source).1 ∧
    SchemaCache.Agree source.key (s.catalog source).2 (s'.catalog source).2 := by
  have hknown := h.known?
  cases hk : s.cache.known? s.now source.key with
  | some r =>
    rw [catalog_of_known hk, catalog_of_known (hknown.symm.trans hk)]
    exact ⟨rfl, h.cache⟩
  | none =>
    rw [catalog_of_unknown hk, catalog_of_unknown (hknown.symm.trans hk), h.now, h.contents]
    exact ⟨rfl, h.cache.learn s'.now (s'.contents source)⟩

theorem Agree.inputs (h : Agree source.key s s') (typeName : String) :
    (s.inputs source typeName).1 = (s'.inputs source typeName).1 ∧
      SchemaCache.Agree source.key (s.inputs source typeName).2 (s'.inputs source typeName).2 := by
  obtain ⟨hanswer, hcache⟩ := h.catalog
  have hspecs := h.specs typeName
  cases hs : s.cache.specs.get? s.now (source.key, typeName) with
  | some specs =>
    rw [inputs_of_hit hs, inputs_of_hit (hspecs.symm.trans hs)]
    exact ⟨rfl, h.cache⟩
  | none =>
    rw [inputs_of_miss hs, inputs_of_miss (hspecs.symm.trans hs), ← hanswer]
    cases (s.catalog source).1 with
    | error e => exact ⟨rfl, hcache⟩
    | ok c =>
      rw [h.now]
      exact ⟨rfl, hcache.setSpecs ..⟩

/-- Lookups of a key that the states agree on make the same step. -/
theorem Agree.step_eq (h : Agree key s s') (ha : e.asks key = true) : s.step e = s'.step e := by
  cases e with
  | catalog source =>
    have hkey : source.key = key := of_decide_eq_true ha
    subst hkey
    rw [step_catalog, step_catalog, h.known?, h.now, h.contents, h.catalog.1]
  | inputs source typeName =>
    have hkey : source.key = key := of_decide_eq_true ha
    subst hkey
    rw [step_inputs, step_inputs, h.known?, h.specs, h.now, h.contents, (h.inputs typeName).1]
  | _ => cases ha

theorem Agree.cache_after_of_other (h : Agree key s s') (ha : e.asks key = false)
    (hf : e.forgets key = false) : SchemaCache.Agree key (e.after s).cache (e.after s').cache :=
  (agree_after ha hf).symm.trans (h.cache.trans (agree_after ha hf))

theorem Agree.cache_after (h : Agree key s s') (e : CacheEvent) :
    SchemaCache.Agree key (e.after s).cache (e.after s').cache := by
  cases e with
  | catalog source =>
    by_cases hkey : source.key = key
    · subst hkey
      exact h.catalog.2
    · exact h.cache_after_of_other (decide_eq_false hkey) rfl
  | inputs source typeName =>
    by_cases hkey : source.key = key
    · subst hkey
      exact (h.inputs typeName).2
    · exact h.cache_after_of_other (decide_eq_false hkey) rfl
  | invalidate source =>
    by_cases hkey : source.key = key
    · subst hkey
      exact h.cache.invalidate
    · exact h.cache_after_of_other rfl (decide_eq_false hkey)
  | clear => exact h.cache.clear
  | wait ms => exact h.cache
  | change contents => exact h.cache

theorem Agree.after (h : Agree key s s') (e : CacheEvent) :
    Agree key (e.after s) (e.after s') where
  now := by cases e <;> simp [CacheEvent.after, h.now]
  contents := by cases e <;> simp [CacheEvent.after, h.contents]
  cache := h.cache_after e

end CacheState

/-! ## Calls that are inserted -/

/-- The source that a call concerns. -/
def CacheEvent.call? : CacheEvent → Option Source
  | catalog source => some source
  | inputs source _ => some source
  | invalidate source => some source
  | _ => none

/-- The events `es` are those of `run` with calls for a source inserted anywhere. -/
inductive Inserted (b : Source) : (run es : List CacheEvent) → Prop where
  | nil : Inserted b [] []
  | keep (e : CacheEvent) {run es : List CacheEvent} : Inserted b run es →
      Inserted b (e :: run) (e :: es)
  | insert {e : CacheEvent} {run es : List CacheEvent} : e.call? = some b → Inserted b run es →
      Inserted b run (e :: es)

/-- The lookups of a source, each with its time, what it fetched and what it answered. -/
def lookupsOf (a : Source) (steps : List CacheStep) : List CacheStep :=
  steps.filter fun st => st.event.source? = some a

section Isolation

variable {a b : Source}

theorem CacheEvent.surroundings_after {e : CacheEvent} (he : e.call? = some b) (s : CacheState) :
    (e.after s).now = s.now ∧ (e.after s).contents = s.contents := by
  cases e <;> first | exact ⟨rfl, rfl⟩ | cases he

theorem CacheEvent.concerns_of_call {e : CacheEvent} {key : String} (he : e.call? = some b)
    (hne : b.key ≠ key) : e.asks key = false ∧ e.forgets key = false := by
  cases e with
  | catalog source =>
    cases he
    exact ⟨decide_eq_false hne, rfl⟩
  | inputs source typeName =>
    cases he
    exact ⟨decide_eq_false hne, rfl⟩
  | invalidate source =>
    cases he
    exact ⟨rfl, decide_eq_false hne⟩
  | _ => cases he

theorem asks_of_source? {e : CacheEvent} (h : e.source? = some a) : e.asks a.key = true := by
  rw [CacheEvent.asks, h]
  exact decide_eq_true rfl

theorem lookupsOf_cons_of_asks_false {st : CacheStep} (h : st.event.asks a.key = false)
    (steps : List CacheStep) : lookupsOf a (st :: steps) = lookupsOf a steps := by
  refine List.filter_cons_of_neg fun hs => ?_
  rw [asks_of_source? (of_decide_eq_true hs)] at h
  cases h

/-- Calls for a source with another key leave the lookups as they were. -/
theorem CacheState.Agree.lookupsOf_journal {s s' : CacheState} (h : Agree a.key s s')
    (hne : b.key ≠ a.key) {run es : List CacheEvent} (hi : Inserted b run es) :
    lookupsOf a (s.journal run) = lookupsOf a (s'.journal es) := by
  induction hi generalizing s s' with
  | nil => rfl
  | keep e hi ih =>
    rw [journal, journal]
    cases ha : e.asks a.key with
    | true =>
      rw [h.step_eq ha]
      have hrest := ih (h.after e)
      unfold lookupsOf at hrest ⊢
      rw [List.filter_cons, List.filter_cons, hrest]
    | false =>
      rw [lookupsOf_cons_of_asks_false (by rwa [step_event]),
        lookupsOf_cons_of_asks_false (by rwa [step_event])]
      exact ih (h.after e)
  | insert he hi ih =>
    obtain ⟨ha, hf⟩ := CacheEvent.concerns_of_call he hne
    obtain ⟨hnow, hcontents⟩ := CacheEvent.surroundings_after he s'
    rw [journal, lookupsOf_cons_of_asks_false (by rwa [step_event])]
    exact ih ⟨h.now.trans hnow.symm, h.contents.trans hcontents.symm,
      h.cache.trans (agree_after ha hf)⟩

theorem CacheState.answer_step_catalog (s : CacheState) (source : Source) :
    (s.step (.catalog source)).answer = some (.catalog (s.catalog source).1) := by
  rw [step]
  dsimp only
  rw [catalog_noting]

/-- Under one key, a source is answered what was learned of another. -/
theorem exists_lookup_changed (hne : a ≠ b) (hkey : a.key = b.key) :
    ∃ (s : CacheState) (run es : List CacheEvent), Inserted b run es ∧
      lookupsOf a (s.journal es) ≠ lookupsOf a (s.journal run) := by
  let s : CacheState := ⟨{}, 0, fun other => if other = a then .error .unreachable else .ok {}⟩
  have hknown (key : String) : s.cache.known? s.now key = none := rfl
  have hrun : (s.catalog a).1 = .error .unreachable := by
    rw [CacheState.catalog_of_unknown (hknown _)]
    exact if_pos rfl
  have hb : s.catalog b = (.ok {}, s.cache.learn 0 b.key (.ok {})) := by
    rw [CacheState.catalog_of_unknown (hknown _), show s.contents b = .ok {} from if_neg hne.symm]
  have hlearned : (s.catalog b).2.known? 0 a.key = some (.ok {}) := by
    rw [hb, SchemaCache.known?_eq_ok_iff]
    exact ⟨rfl, (Memory.get?_set ..).trans (if_pos hkey)⟩
  have hes : (((CacheEvent.catalog b).after s).catalog a).1 = .ok {} :=
    congrArg Prod.fst (CacheState.catalog_of_known hlearned)
  refine ⟨s, [.catalog a], [.catalog b, .catalog a], .insert rfl (.keep _ .nil), fun h => ?_⟩
  have hanswers := congrArg (List.map CacheStep.answer) h
  simp [lookupsOf, CacheState.journal, CacheState.step_event, CacheEvent.source?, hne.symm,
    CacheState.answer_step_catalog, hrun, hes] at hanswers

/-- **Sources are isolated from each other** exactly if neither is a service whose address is
written like the key of the other, nor both are files whose paths show alike: calls for the one that
are inserted into a run then change no lookup of the other. Paths that are texts do not show
alike. -/
theorem sources_isolated (hd : a.Differs b) (hu : a.KeepsApart b) :
    ((∀ (s : CacheState) (run es : List CacheEvent), Inserted b run es →
        lookupsOf a (s.journal es) = lookupsOf a (s.journal run)) ↔
      ¬ a.Poses b ∧ ¬ b.Poses a ∧ ¬ a.ShowsAs b) ∧
    ∀ path path' : String, a = .file path → b = .file path' → ¬ a.ShowsAs b := by
  refine ⟨?_, ?_⟩
  · rw [← not_or, ← not_or, ← Source.key_eq_iff hd hu]
    constructor
    · intro h hkey
      obtain ⟨s, run, es, hi, hchanged⟩ := exists_lookup_changed hd.ne hkey
      exact hchanged (h s run es hi)
    · intro hkey s run es hi
      have hagree : CacheState.Agree a.key s s := ⟨rfl, rfl, .refl a.key s.cache⟩
      exact (hagree.lookupsOf_journal (Ne.symm hkey) hi).symm
  · rintro path path' rfl rfl hsame
    exact hd.ne (congrArg (fun p : String => Source.file p) (Source.showsAs_ofText.1 hsame))

end Isolation

/-- A service beside a file that cannot be read. -/
theorem sources_isolated_of_service :
    let decoder : Catalog := .ofJson (.object [("VAEDecode", .object [
      ("input", .object [("required", .object [("samples", .array [.text "LATENT"])])])])])
    let service : Source := .ofAddress "http://127.0.0.1:8188/"
    let file : Source := .file "object_info.json"
    let run : List CacheEvent := [.inputs service "VAEDecode", .wait 1000, .catalog service]
    let es : List CacheEvent := [.catalog file, .inputs service "VAEDecode", .invalidate file,
      .wait 1000, .inputs file "VAEDecode", .catalog service]
    let s : CacheState := ⟨.withFailureTtl 30000, 0, fun other =>
      if other = file then .error .badJson else .ok decoder⟩
    (service.Differs file ∧ service.KeepsApart file ∧ ¬ service.Poses file ∧ ¬ file.Poses service ∧
      ¬ service.ShowsAs file ∧ Inserted file run es) ∧
      lookupsOf service (s.journal es) = lookupsOf service (s.journal run) ∧
      (lookupsOf service (s.journal es)).map (·.fetched.length) = [1, 0] := by
  intro decoder service file run es s
  have hd : service.Differs file := trivial
  have hu : service.KeepsApart file := trivial
  have hab : ¬ service.Poses file := by
    show service.key ≠ file.key
    decide
  have hba : ¬ file.Poses service := not_false
  have hsame : ¬ service.ShowsAs file := not_false
  have hi : Inserted file run es :=
    .insert rfl (.keep _ (.insert rfl (.keep _ (.insert rfl (.keep _ .nil)))))
  exact ⟨⟨hd, hu, hab, hba, hsame, hi⟩, (sources_isolated hd hu).1.2 ⟨hab, hba, hsame⟩ s run es hi,
    by decide +kernel⟩

/-- A service whose address is written like the key of a file: once it was looked up in vain, the
inputs of the file are lost. -/
theorem service_poses_as_file :
    let decoder : Catalog := .ofJson (.object [("VAEDecode", .object [
      ("input", .object [("required", .object [("samples", .array [.text "LATENT"])])])])])
    let file : Source := .file "object_info.json"
    let service : Source := .ofAddress "file:object_info.json"
    let run : List CacheEvent := [.inputs file "VAEDecode"]
    let es : List CacheEvent := [.catalog service, .inputs file "VAEDecode"]
    let s : CacheState := ⟨.withFailureTtl 30000, 0, fun other =>
      if other = file then .ok decoder else .error .unreachable⟩
    file.Differs service ∧ file.KeepsApart service ∧ Inserted service run es ∧
      decoder.inputs "VAEDecode" ≠ [] ∧
      (lookupsOf file (s.journal run)).map CacheStep.answer =
        [some (.inputs (decoder.inputs "VAEDecode"))] ∧
      (lookupsOf file (s.journal es)).map CacheStep.answer = [some (.inputs [])] ∧
      lookupsOf file (s.journal es) ≠ lookupsOf file (s.journal run) := by
  intro decoder file service run es s
  have hrun : (lookupsOf file (s.journal run)).map CacheStep.answer =
      [some (.inputs (decoder.inputs "VAEDecode"))] := rfl
  have hes : (lookupsOf file (s.journal es)).map CacheStep.answer = [some (.inputs [])] := rfl
  have hne : decoder.inputs "VAEDecode" ≠ [] := by decide +kernel
  refine ⟨trivial, trivial, .insert rfl (.keep _ .nil), hne, hrun, hes, fun h => ?_⟩
  rw [h, hrun] at hes
  exact hne (Answer.inputs.inj (Option.some.inj (List.cons.inj hes).1))

end PromptGraph
