import PromptGraph.Proofs.CoherentCache

/-!
# Journals of the schema cache

A journal lists the steps of a run: each event with the time, what it fetched and what it answered.
What a lookup fetches is noted by the lookup itself (`catalog_noting`, `inputs_noting`); in a sound
state every lookup fetches, answers and teaches the cache what one of the catalog does
(`Sound.fetched_step`, `Sound.answer_step`, `Sound.known?_after`). Events that do not concern a key
leave all that is known under it as it was (`agree_after`).
-/

namespace PromptGraph

/-! ## Steps -/

inductive Answer where
  | catalog (outcome : Except Failure Catalog)
  | inputs (specs : List InputSpec)

/-- An event at some time, with what it fetched and what it answered. -/
structure CacheStep where
  event : CacheEvent
  now : Nat
  fetched : List (Except Failure Catalog) := []
  answer : Option Answer := none

namespace CacheEvent

def asks (key : String) (e : CacheEvent) : Bool :=
  e.source?.any fun source => decide (source.key = key)

/-- The event makes the cache forget what it knows under the key. -/
def forgets (key : String) : CacheEvent → Bool
  | invalidate source => source.key = key
  | clear => true
  | _ => false

/-- What the event answers if the source gives `outcome`. -/
def answerTo (outcome : Except Failure Catalog) : CacheEvent → Option Answer
  | catalog _ => some (.catalog outcome)
  | inputs _ typeName => some (.inputs (match outcome with
    | .ok c => c.inputs typeName
    | .error _ => []))
  | _ => none

end CacheEvent

namespace CacheState

/-- A fetch that notes what it gives. -/
def noting (outcome : Except Failure Catalog) :
    StateM (List (Except Failure Catalog)) (Except Failure Catalog) := do
  modify (· ++ [outcome])
  return outcome

def step (s : CacheState) (e : CacheEvent) : CacheStep :=
  match e with
  | .catalog source =>
    let noted := (SchemaCache.catalog (noting (s.contents source)) s.now source.key s.cache).run []
    { event := e, now := s.now, fetched := noted.2, answer := some (.catalog noted.1.1) }
  | .inputs source typeName =>
    let noted :=
      (SchemaCache.inputs (noting (s.contents source)) s.now source.key typeName s.cache).run []
    { event := e, now := s.now, fetched := noted.2, answer := some (.inputs noted.1.1) }
  | _ => { event := e, now := s.now }

/-- The steps of a run. -/
def journal : CacheState → List CacheEvent → List CacheStep
  | _, [] => []
  | s, e :: es => s.step e :: journal (e.after s) es

variable {s : CacheState} {source : Source}

theorem journal_append (s : CacheState) (es es' : List CacheEvent) :
    s.journal (es ++ es') = s.journal es ++ (es.foldl CacheEvent.after s).journal es' := by
  induction es generalizing s with
  | nil => rfl
  | cons e es ih => exact congrArg (s.step e :: ·) (ih (e.after s))

theorem journal_eq_append {es : List CacheEvent} {l r : List CacheStep}
    (h : s.journal es = l ++ r) : ∃ es₁ es₂, es = es₁ ++ es₂ ∧ l = s.journal es₁ ∧
      r = (es₁.foldl CacheEvent.after s).journal es₂ := by
  induction l generalizing s es with
  | nil => exact ⟨[], es, rfl, rfl, h.symm⟩
  | cons st l ih =>
    cases es with
    | nil => cases h
    | cons e es =>
      obtain ⟨hst, hrest⟩ := List.cons.inj h
      obtain ⟨es₁, es₂, rfl, rfl, hr⟩ := ih hrest
      exact ⟨e :: es₁, es₂, rfl, by rw [← hst, journal], hr⟩

theorem step_event (s : CacheState) (e : CacheEvent) : (s.step e).event = e := by
  cases e <;> rfl

theorem step_now (s : CacheState) (e : CacheEvent) : (s.step e).now = s.now := by
  cases e <;> rfl

theorem map_event_journal (s : CacheState) (es : List CacheEvent) :
    (s.journal es).map CacheStep.event = es := by
  induction es generalizing s with
  | nil => rfl
  | cons e es ih => rw [journal, List.map_cons, ih, step_event]

/-! ## What lookups fetch -/

theorem catalog_noting (s : CacheState) (source : Source)
    (seen : List (Except Failure Catalog)) :
    (SchemaCache.catalog (noting (s.contents source)) s.now source.key s.cache).run seen =
      (s.catalog source, seen ++ match s.cache.known? s.now source.key with
        | some _ => []
        | none => [s.contents source]) := by
  unfold SchemaCache.catalog
  cases hk : s.cache.known? s.now source.key with
  | some r =>
    rw [catalog_of_known hk, List.append_nil]
    rfl
  | none =>
    rw [catalog_of_unknown hk]
    rfl

theorem inputs_noting (s : CacheState) (source : Source) (typeName : String) :
    (SchemaCache.inputs (noting (s.contents source)) s.now source.key typeName s.cache).run [] =
      (s.inputs source typeName,
        match s.cache.specs.get? s.now (source.key, typeName), s.cache.known? s.now source.key with
        | none, none => [s.contents source]
        | _, _ => []) := by
  unfold SchemaCache.inputs
  cases hs : s.cache.specs.get? s.now (source.key, typeName) with
  | some specs =>
    rw [inputs_of_hit hs]
    rfl
  | none =>
    rw [inputs_of_miss hs]
    dsimp only
    rw [StateT.run_bind, catalog_noting]
    rcases s.catalog source with ⟨_ | _, _⟩ <;> cases s.cache.known? s.now source.key <;> rfl

theorem step_catalog (s : CacheState) (source : Source) : s.step (.catalog source) = {
    event := .catalog source
    now := s.now
    fetched := match s.cache.known? s.now source.key with
      | some _ => []
      | none => [s.contents source]
    answer := some (.catalog (s.catalog source).1) } := by
  simp only [step, catalog_noting, List.nil_append]

theorem step_inputs (s : CacheState) (source : Source) (typeName : String) :
    s.step (.inputs source typeName) = {
      event := .inputs source typeName
      now := s.now
      fetched := match s.cache.specs.get? s.now (source.key, typeName),
          s.cache.known? s.now source.key with
        | none, none => [s.contents source]
        | _, _ => []
      answer := some (.inputs (s.inputs source typeName).1) } := by
  simp only [step, inputs_noting]

/-! ## Sound lookups -/

variable {key : String} {e : CacheEvent}

theorem Sound.known?_of_specs (h : s.Sound) {typeName : String} {specs : List InputSpec}
    (hs : s.cache.specs.get? s.now (key, typeName) = some specs) :
    ∃ c, s.cache.known? s.now key = some (.ok c) ∧ specs = c.inputs typeName := by
  obtain ⟨c, hc, hspecs⟩ := h.coherent.specs hs
  exact ⟨c, SchemaCache.known?_eq_ok_iff.2 ⟨h.coherent.failures hc, hc⟩, hspecs⟩

theorem Sound.fetched_step (h : s.Sound) (he : e.source? = some source) :
    (s.step e).fetched = match s.cache.known? s.now source.key with
      | some _ => []
      | none => [s.contents source] := by
  cases e with
  | catalog other =>
    cases he
    exact congrArg CacheStep.fetched (s.step_catalog source)
  | inputs other typeName =>
    cases he
    rw [step_inputs]
    cases hs : s.cache.specs.get? s.now (source.key, typeName) with
    | some specs =>
      obtain ⟨c, hk, -⟩ := h.known?_of_specs hs
      rw [hk]
    | none => cases s.cache.known? s.now source.key <;> rfl
  | _ => cases he

theorem Sound.answer_step (h : s.Sound) (he : e.source? = some source) :
    (s.step e).answer = e.answerTo (s.catalog source).1 := by
  cases e with
  | catalog other =>
    cases he
    exact congrArg CacheStep.answer (s.step_catalog source)
  | inputs other typeName =>
    cases he
    rw [step_inputs]
    cases hs : s.cache.specs.get? s.now (source.key, typeName) with
    | some specs =>
      obtain ⟨c, hk, hspecs⟩ := h.known?_of_specs hs
      rw [inputs_of_hit hs, catalog_of_known hk, hspecs]
      rfl
    | none =>
      rw [inputs_of_miss hs]
      cases (s.catalog source).1 <;> rfl
  | _ => cases he

/-- A lookup teaches the cache what looking the catalog up does. -/
theorem Sound.known?_after (h : s.Sound) (he : e.source? = some source) (now : Nat) (key : String) :
    (e.after s).cache.known? now key = (s.catalog source).2.known? now key := by
  cases e with
  | catalog other =>
    cases he
    rfl
  | inputs other typeName =>
    cases he
    show (s.inputs source typeName).2.known? now key = _
    cases hs : s.cache.specs.get? s.now (source.key, typeName) with
    | some specs =>
      obtain ⟨c, hk, -⟩ := h.known?_of_specs hs
      rw [inputs_of_hit hs, catalog_of_known hk]
    | none =>
      rw [inputs_of_miss hs]
      cases (s.catalog source).1 <;> rfl
  | _ => cases he

end CacheState

/-! ## Other keys -/

namespace SchemaCache

/-- The caches know the same under the key, at all times, and keep what they learn for as long. -/
structure Agree (key : String) (c c' : SchemaCache) : Prop where
  catalogs : ∀ now, c.catalogs.get? now key = c'.catalogs.get? now key
  failure : ∀ now, c.failure? now key = c'.failure? now key
  specs : ∀ now typeName, c.specs.get? now (key, typeName) = c'.specs.get? now (key, typeName)
  catalogsLive : c.catalogs.timeToLive = c'.catalogs.timeToLive
  failuresLive : c.failures.map Memory.timeToLive = c'.failures.map Memory.timeToLive
  specsLive : c.specs.timeToLive = c'.specs.timeToLive

variable {c c' c'' : SchemaCache} {key other : String} {now : Nat}

theorem Agree.refl (key : String) (c : SchemaCache) : Agree key c c where
  catalogs _ := rfl
  failure _ := rfl
  specs _ _ := rfl
  catalogsLive := rfl
  failuresLive := rfl
  specsLive := rfl

theorem Agree.symm (h : Agree key c c') : Agree key c' c where
  catalogs now := (h.catalogs now).symm
  failure now := (h.failure now).symm
  specs now typeName := (h.specs now typeName).symm
  catalogsLive := h.catalogsLive.symm
  failuresLive := h.failuresLive.symm
  specsLive := h.specsLive.symm

theorem Agree.trans (h : Agree key c c') (h' : Agree key c' c'') : Agree key c c'' where
  catalogs now := (h.catalogs now).trans (h'.catalogs now)
  failure now := (h.failure now).trans (h'.failure now)
  specs now typeName := (h.specs now typeName).trans (h'.specs now typeName)
  catalogsLive := h.catalogsLive.trans h'.catalogsLive
  failuresLive := h.failuresLive.trans h'.failuresLive
  specsLive := h.specsLive.trans h'.specsLive

theorem known?_eq (c : SchemaCache) (now : Nat) (key : String) : c.known? now key =
    ((c.failure? now key).map .error).or ((c.catalogs.get? now key).map .ok) := by
  unfold known?
  rw [← failure?]
  cases c.failure? now key <;> rfl

theorem Agree.known? (h : Agree key c c') (now : Nat) : c.known? now key = c'.known? now key := by
  rw [known?_eq, known?_eq, h.failure, h.catalogs]

theorem timeToLive_learn (c : SchemaCache) (now : Nat) (key : String) (r : Except Failure Catalog) :
    (c.learn now key r).catalogs.timeToLive = c.catalogs.timeToLive ∧
      (c.learn now key r).failures.map Memory.timeToLive = c.failures.map Memory.timeToLive ∧
      (c.learn now key r).specs = c.specs := by
  cases r with
  | ok catalog => exact ⟨rfl, rfl, rfl⟩
  | error e => exact ⟨rfl, Option.map_map .., rfl⟩

theorem timeToLive_invalidate (c : SchemaCache) (key : String) :
    (c.invalidate key).failures.map Memory.timeToLive = c.failures.map Memory.timeToLive :=
  Option.map_map ..

theorem timeToLive_clear (c : SchemaCache) :
    c.clear.failures.map Memory.timeToLive = c.failures.map Memory.timeToLive :=
  Option.map_map ..

theorem agree_learn (h : other ≠ key) (c : SchemaCache) (since : Nat)
    (r : Except Failure Catalog) : Agree key c (c.learn since other r) := by
  obtain ⟨hc, hf, hs⟩ := c.timeToLive_learn since other r
  exact {
    catalogs := fun now => ((c.learn_of_ne since h.symm r now).1).symm
    failure := fun now => ((c.learn_of_ne since h.symm r now).2).symm
    specs := fun now typeName => by rw [hs]
    catalogsLive := hc.symm
    failuresLive := hf.symm
    specsLive := by rw [hs] }

theorem agree_setSpecs (h : other ≠ key) (c : SchemaCache) (since : Nat) (typeName : String)
    (specs : List InputSpec) :
    Agree key c { c with specs := c.specs.set since (other, typeName) specs } := by
  refine { Agree.refl key c with specs := fun now name => ?_, specsLive := rfl }
  have hne : (key, name) ≠ (other, typeName) := fun he => h (Prod.mk.inj he).1.symm
  exact ((Memory.get?_set ..).trans (if_neg hne)).symm

theorem agree_invalidate (h : other ≠ key) (c : SchemaCache) :
    Agree key c (c.invalidate other) where
  catalogs _ := ((Memory.get?_remove ..).trans (if_neg h.symm)).symm
  failure _ := ((failure?_invalidate ..).trans (if_neg h.symm)).symm
  specs _ _ := ((specs_get?_invalidate ..).trans (if_neg h.symm)).symm
  catalogsLive := rfl
  failuresLive := (c.timeToLive_invalidate other).symm
  specsLive := rfl

end SchemaCache

namespace CacheState

open SchemaCache

variable {s : CacheState} {source : Source} {key : String}

theorem agree_catalog (h : source.key ≠ key) : Agree key s.cache (s.catalog source).2 := by
  cases hk : s.cache.known? s.now source.key with
  | some r =>
    rw [catalog_of_known hk]
    exact .refl key s.cache
  | none =>
    rw [catalog_of_unknown hk]
    exact agree_learn h s.cache s.now (s.contents source)

theorem agree_inputs (h : source.key ≠ key) (typeName : String) :
    Agree key s.cache (s.inputs source typeName).2 := by
  have hlooked := agree_catalog (s := s) h
  cases hs : s.cache.specs.get? s.now (source.key, typeName) with
  | some specs =>
    rw [inputs_of_hit hs]
    exact .refl key s.cache
  | none =>
    rw [inputs_of_miss hs]
    cases (s.catalog source).1 with
    | error e => exact hlooked
    | ok c => exact hlooked.trans (agree_setSpecs h ..)

theorem agree_after {e : CacheEvent} (ha : e.asks key = false) (hf : e.forgets key = false) :
    Agree key s.cache (e.after s).cache := by
  cases e with
  | catalog source => exact agree_catalog (of_decide_eq_false ha)
  | inputs source typeName => exact agree_inputs (of_decide_eq_false ha) typeName
  | invalidate source => exact agree_invalidate (of_decide_eq_false hf) s.cache
  | clear => cases hf
  | wait ms => exact .refl key s.cache
  | change contents => exact .refl key s.cache

end CacheState

end PromptGraph
