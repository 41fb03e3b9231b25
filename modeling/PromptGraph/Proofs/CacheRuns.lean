import PromptGraph.Proofs.Memories
import PromptGraph.Schema.Cache

/-!
# Runs of the schema cache

A `CacheState` is a cache at some time, with what reading each source would give; a `CacheEvent`
looks something up, makes the cache forget, lets time pass or changes what sources give. A lookup
either hits what is known or asks the source, and the lookups of a session are those of its state
(`Session.catalog_run`, `Session.inputs_run`).
-/

namespace PromptGraph

namespace SchemaCache

variable {c : SchemaCache} {now : Nat} {key : String}

/-- A failure of the source that still counts. -/
def failure? (c : SchemaCache) (now : Nat) (key : String) : Option Failure :=
  c.failures.bind (·.get? now key)

theorem known?_eq_none_iff : c.known? now key = none ↔
    c.failure? now key = none ∧ c.catalogs.get? now key = none := by
  unfold known?
  rw [← failure?]
  cases c.failure? now key <;> simp

theorem known?_eq_ok_iff {catalog : Catalog} : c.known? now key = some (.ok catalog) ↔
    c.failure? now key = none ∧ c.catalogs.get? now key = some catalog := by
  unfold known?
  rw [← failure?]
  cases c.failure? now key <;> simp

theorem failure?_learn_error (c : SchemaCache) (since : Nat) (key : String) (e : Failure)
    (now : Nat) (other : String) : (c.learn since key (.error e)).failure? now other =
      if other = key then c.failures.bind fun m => if m.isLive now since then some e else none
      else c.failure? now other := by
  unfold failure? learn
  cases c.failures with
  | none => simp
  | some m => exact Memory.get?_set ..

theorem failure?_invalidate (c : SchemaCache) (key : String) (now : Nat) (other : String) :
    (c.invalidate key).failure? now other =
      if other = key then none else c.failure? now other := by
  unfold failure? invalidate
  cases c.failures with
  | none => simp
  | some m => exact Memory.get?_remove ..

theorem failure?_clear (c : SchemaCache) (now : Nat) (key : String) :
    c.clear.failure? now key = none := by
  unfold failure? clear
  cases c.failures with
  | none => rfl
  | some m => exact m.get?_clear now key

theorem failure?_mono {later : Nat} (hle : now ≤ later) (h : c.failure? now key = none) :
    c.failure? later key = none := by
  unfold failure? at h ⊢
  cases hf : c.failures with
  | none => rfl
  | some m =>
    rw [hf, Option.bind_some, ← Option.not_isSome_iff_eq_none] at h
    rw [Option.bind_some, ← Option.not_isSome_iff_eq_none]
    exact mt (Memory.isSome_get?_mono hle) h

theorem specs_get?_invalidate (c : SchemaCache) (key : String) (now : Nat)
    (other : String × String) : (c.invalidate key).specs.get? now other =
      if other.1 = key then none else c.specs.get? now other := by
  refine (c.specs.get?_filter (fun k => decide (k.1 ≠ key)) now other).trans ?_
  by_cases ho : other.1 = key <;> simp [ho]

theorem learn_of_ne (c : SchemaCache) (since : Nat) {key other : String} (h : other ≠ key)
    (r : Except Failure Catalog) (now : Nat) :
    (c.learn since key r).catalogs.get? now other = c.catalogs.get? now other ∧
      (c.learn since key r).failure? now other = c.failure? now other := by
  cases r with
  | ok catalog => exact ⟨(Memory.get?_set ..).trans (if_neg h), rfl⟩
  | error e => exact ⟨rfl, (failure?_learn_error ..).trans (if_neg h)⟩

end SchemaCache

/-- A cache at some time, and what reading each source would give. -/
structure CacheState where
  cache : SchemaCache
  now : Nat
  contents : Source → Except Failure Catalog

namespace CacheState

/-- What a lookup of the catalog gives, and the cache that it leaves. -/
def catalog (s : CacheState) (source : Source) : Except Failure Catalog × SchemaCache :=
  (SchemaCache.catalog (pure (s.contents source) : Id _) s.now source.key s.cache).run

/-- What a lookup of inputs gives, and the cache that it leaves. -/
def inputs (s : CacheState) (source : Source) (typeName : String) :
    List InputSpec × SchemaCache :=
  (SchemaCache.inputs (pure (s.contents source) : Id _) s.now source.key typeName s.cache).run

end CacheState

inductive CacheEvent where
  | catalog (source : Source)
  | inputs (source : Source) (typeName : String)
  | invalidate (source : Source)
  | clear
  /-- Time passes. -/
  | wait (ms : Nat)
  /-- Sources change or fail. -/
  | change (contents : Source → Except Failure Catalog)

namespace CacheEvent

/-- The state that an event leaves. -/
def after (s : CacheState) : CacheEvent → CacheState
  | catalog source => { s with cache := (s.catalog source).2 }
  | inputs source typeName => { s with cache := (s.inputs source typeName).2 }
  | invalidate source => { s with cache := s.cache.invalidate source.key }
  | clear => { s with cache := s.cache.clear }
  | wait ms => { s with now := s.now + ms }
  | change contents => { s with contents }

def source? : CacheEvent → Option Source
  | catalog source => some source
  | inputs source _ => some source
  | _ => none

end CacheEvent

namespace CacheState

variable {s : CacheState} {source : Source}

/-! ## Hits and misses -/

theorem catalog_of_known {r : Except Failure Catalog}
    (h : s.cache.known? s.now source.key = some r) : s.catalog source = (r, s.cache) := by
  unfold catalog SchemaCache.catalog
  rw [h]
  rfl

theorem catalog_of_unknown (h : s.cache.known? s.now source.key = none) : s.catalog source =
    (s.contents source, s.cache.learn s.now source.key (s.contents source)) := by
  unfold catalog SchemaCache.catalog
  rw [h]
  rfl

theorem inputs_of_hit {typeName : String} {specs : List InputSpec}
    (h : s.cache.specs.get? s.now (source.key, typeName) = some specs) :
    s.inputs source typeName = (specs, s.cache) := by
  unfold inputs SchemaCache.inputs
  rw [h]
  rfl

theorem inputs_of_miss {typeName : String}
    (h : s.cache.specs.get? s.now (source.key, typeName) = none) :
    s.inputs source typeName = match (s.catalog source).1 with
      | .error _ => ([], (s.catalog source).2)
      | .ok catalog => (catalog.inputs typeName, { (s.catalog source).2 with
          specs := (s.catalog source).2.specs.set s.now (source.key, typeName)
            (catalog.inputs typeName) }) := by
  unfold inputs SchemaCache.inputs catalog
  rw [h]
  dsimp only
  rw [Id.run_bind]
  generalize (SchemaCache.catalog (pure (s.contents source) : Id _) ..).run = looked
  obtain ⟨_ | _, _⟩ := looked <;> rfl

/-- A lookup of inputs treats catalogs and failures as one of the catalog does, or not at all. -/
theorem inputs_cases (s : CacheState) (source : Source) (typeName : String) :
    (s.inputs source typeName).2 = s.cache ∨
      ∃ specs, (s.inputs source typeName).2 = { (s.catalog source).2 with specs } := by
  cases hs : s.cache.specs.get? s.now (source.key, typeName) with
  | some specs => exact .inl (by rw [inputs_of_hit hs])
  | none =>
    rw [inputs_of_miss hs]
    cases (s.catalog source).1 <;> exact .inr ⟨_, rfl⟩

end CacheState

/-! ## Sessions -/

namespace Session

/-- The cache of a session, with what its surroundings give. -/
def state (s : Session) : CacheState where
  cache := s.cache
  now := s.outside.now
  contents source := (source.fetch s.outside).1

theorem cache_catalog_run (s : Session) (source : Source) :
    ∃ outside, (s.cache.catalog (fetch source) s.outside.now source.key).run s =
      pure (s.state.catalog source, { s with outside }) := by
  unfold SchemaCache.catalog
  cases hk : s.cache.known? s.outside.now source.key with
  | some r =>
    rw [CacheState.catalog_of_known (s := s.state) hk]
    exact ⟨s.outside, rfl⟩
  | none =>
    rw [CacheState.catalog_of_unknown (s := s.state) hk]
    exact ⟨(source.fetch s.outside).2, rfl⟩

theorem cache_inputs_run (s : Session) (source : Source) (typeName : String) :
    ∃ outside, (s.cache.inputs (fetch source) s.outside.now source.key typeName).run s =
      pure (s.state.inputs source typeName, { s with outside }) := by
  unfold SchemaCache.inputs
  cases hs : s.cache.specs.get? s.outside.now (source.key, typeName) with
  | some specs =>
    rw [CacheState.inputs_of_hit (s := s.state) hs]
    exact ⟨s.outside, rfl⟩
  | none =>
    obtain ⟨outside, hrun⟩ := cache_catalog_run s source
    rw [CacheState.inputs_of_miss (s := s.state) hs]
    dsimp only
    rw [StateT.run_bind, hrun]
    refine ⟨outside, ?_⟩
    cases s.state.catalog source with
    | mk outcome c => cases outcome <;> rfl

variable {s : Session} (h : s.hasRoom = true)

include h

/-- A session looks catalogs up as its state does. -/
theorem catalog_run (source : Source) : ∃ outside, (catalog source).run s =
    pure ((s.state.catalog source).1, { s with outside, cache := (s.state.catalog source).2 }) := by
  obtain ⟨outside, hrun⟩ := cache_catalog_run s source
  refine ⟨outside, ?_⟩
  simp [catalog, hrun, keep, h]

theorem inputs_run (source : Source) (typeName : String) : ∃ outside,
    (inputs source typeName).run s = pure ((s.state.inputs source typeName).1,
      { s with outside, cache := (s.state.inputs source typeName).2 }) := by
  obtain ⟨outside, hrun⟩ := cache_inputs_run s source typeName
  refine ⟨outside, ?_⟩
  simp [inputs, hrun, keep, h]

end Session

end PromptGraph
