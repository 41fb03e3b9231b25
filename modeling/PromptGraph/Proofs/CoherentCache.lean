import PromptGraph.Proofs.CacheRuns

/-!
# Coherent caches

What a cache holds is `Coherent` after any events from an empty cache (`cache_coherent`): input
lists come from the catalog that is kept, and no failure counts beside a catalog. So a source that
always reads the same is answered from what it reads.
-/

namespace PromptGraph

namespace SchemaCache

variable {c : SchemaCache} {now : Nat} {key : String}

/-! ## What a cache holds -/

/-- Catalogs and input lists are kept until they are told to be forgotten. -/
structure Lasting (c : SchemaCache) : Prop where
  catalogs : c.catalogs.timeToLive = none
  specs : c.specs.timeToLive = none

/-- Input lists come from the catalog that is kept, and beside a catalog there is no failure that
still counts. -/
structure Coherent (c : SchemaCache) (now : Nat) : Prop where
  specs : ∀ {key typeName specs}, c.specs.get? now (key, typeName) = some specs →
    ∃ catalog, c.catalogs.get? now key = some catalog ∧ specs = catalog.inputs typeName
  failures : ∀ {key catalog}, c.catalogs.get? now key = some catalog → c.failure? now key = none

theorem Lasting.get?_set (h : c.Lasting) (since : Nat) (key : String) (catalog : Catalog)
    (now : Nat) (other : String) : (c.catalogs.set since key catalog).get? now other =
      if other = key then some catalog else c.catalogs.get? now other := by
  rw [Memory.get?_set, Memory.isLive, h.catalogs]
  rfl

theorem Lasting.learn (h : c.Lasting) (now : Nat) (key : String) (r : Except Failure Catalog) :
    (c.learn now key r).Lasting := by
  cases r <;> exact ⟨h.catalogs, h.specs⟩

theorem Coherent.wait (h : c.Coherent now) (hl : c.Lasting) (ms : Nat) :
    c.Coherent (now + ms) where
  specs := by
    intro key typeName specs hs
    rw [Memory.get?_of_timeToLive hl.specs now] at hs
    rw [Memory.get?_of_timeToLive hl.catalogs now]
    exact h.specs hs
  failures := by
    intro key catalog hc
    rw [Memory.get?_of_timeToLive hl.catalogs now] at hc
    exact failure?_mono (Nat.le_add_right now ms) (h.failures hc)

theorem Coherent.learn (h : c.Coherent now) (hu : c.known? now key = none)
    (r : Except Failure Catalog) : (c.learn now key r).Coherent now := by
  obtain ⟨hf, hc⟩ := known?_eq_none_iff.1 hu
  -- a fetch is made when no catalog is kept, so no input list is left of an older one
  have hne : ∀ {other catalog}, c.catalogs.get? now other = some catalog → other ≠ key := by
    rintro other catalog ho rfl
    rw [hc] at ho
    cases ho
  refine ⟨fun hs => ?_, fun {other catalog} ho => ?_⟩
  · obtain ⟨catalog, ho, hspecs⟩ := h.specs (by cases r <;> exact hs)
    exact ⟨catalog, ((c.learn_of_ne now (hne ho) r now).1).trans ho, hspecs⟩
  · by_cases he : other = key
    · subst he
      cases r with
      | ok catalog => exact hf
      | error e => exact absurd rfl (hne ho)
    · obtain ⟨hcatalogs, hfailure⟩ := c.learn_of_ne now he r now
      rw [hfailure]
      exact h.failures (hcatalogs ▸ ho)

theorem Coherent.invalidate (h : c.Coherent now) (key : String) :
    (c.invalidate key).Coherent now where
  specs := by
    intro other typeName specs hs
    rw [specs_get?_invalidate] at hs
    split at hs
    · cases hs
    · next hne =>
      obtain ⟨catalog, hc, hspecs⟩ := h.specs hs
      exact ⟨catalog, ((Memory.get?_remove ..).trans (if_neg hne)).trans hc, hspecs⟩
  failures := by
    intro other catalog hc
    have hr : (c.invalidate key).catalogs.get? now other =
        if other = key then none else c.catalogs.get? now other := Memory.get?_remove ..
    rw [hr] at hc
    rw [failure?_invalidate]
    split at hc
    · cases hc
    · next hne => rw [if_neg hne, h.failures hc]

theorem coherent_clear (c : SchemaCache) (now : Nat) : c.clear.Coherent now :=
  ⟨nofun, nofun⟩

theorem coherent_withFailureTtl (ms now : Nat) : (withFailureTtl ms).Coherent now :=
  ⟨nofun, nofun⟩

end SchemaCache

namespace CacheState

variable {s : CacheState} {source : Source}

/-! ## Coherent runs -/

/-- What the cache holds is coherent at the time, and will be. -/
structure Sound (s : CacheState) : Prop where
  lasting : s.cache.Lasting
  coherent : s.cache.Coherent s.now

variable (h : s.Sound)

include h

theorem Sound.catalog (source : Source) :
    (s.catalog source).2.Lasting ∧ (s.catalog source).2.Coherent s.now := by
  cases hk : s.cache.known? s.now source.key with
  | some r =>
    rw [catalog_of_known hk]
    exact ⟨h.lasting, h.coherent⟩
  | none =>
    rw [catalog_of_unknown hk]
    exact ⟨h.lasting.learn .., h.coherent.learn hk _⟩

theorem Sound.get?_catalog {catalog : Catalog} (hc : (s.catalog source).1 = .ok catalog) :
    (s.catalog source).2.catalogs.get? s.now source.key = some catalog := by
  cases hk : s.cache.known? s.now source.key with
  | some r =>
    rw [catalog_of_known hk] at hc ⊢
    exact (SchemaCache.known?_eq_ok_iff.1 (hk.trans (congrArg some hc))).2
  | none =>
    rw [catalog_of_unknown hk] at hc ⊢
    dsimp only at hc ⊢
    rw [hc]
    exact (h.lasting.get?_set ..).trans (if_pos rfl)

theorem Sound.inputs (source : Source) (typeName : String) :
    (s.inputs source typeName).2.Lasting ∧ (s.inputs source typeName).2.Coherent s.now := by
  obtain ⟨hl, hc⟩ := h.catalog source
  cases hs : s.cache.specs.get? s.now (source.key, typeName) with
  | some specs =>
    rw [inputs_of_hit hs]
    exact ⟨h.lasting, h.coherent⟩
  | none =>
    rw [inputs_of_miss hs]
    cases he : (s.catalog source).1 with
    | error e => exact ⟨hl, hc⟩
    | ok catalog =>
      refine ⟨⟨hl.catalogs, hl.specs⟩, fun {key other specs} hget => ?_, hc.failures⟩
      rw [Memory.get?_set, Memory.isLive, hl.specs, if_pos rfl] at hget
      split at hget
      · next hkey =>
        cases hkey
        cases hget
        exact ⟨catalog, h.get?_catalog he, rfl⟩
      · exact hc.specs hget

theorem Sound.after (e : CacheEvent) : (e.after s).Sound := by
  cases e with
  | catalog source => exact ⟨(h.catalog source).1, (h.catalog source).2⟩
  | inputs source typeName => exact ⟨(h.inputs source typeName).1, (h.inputs source typeName).2⟩
  | invalidate source =>
    exact ⟨⟨h.lasting.catalogs, h.lasting.specs⟩, h.coherent.invalidate source.key⟩
  | clear =>
    exact ⟨⟨h.lasting.catalogs, h.lasting.specs⟩, SchemaCache.coherent_clear s.cache s.now⟩
  | wait ms => exact ⟨h.lasting, h.coherent.wait h.lasting ms⟩
  | change contents => exact ⟨h.lasting, h.coherent⟩

theorem Sound.foldl_after (es : List CacheEvent) : (es.foldl CacheEvent.after s).Sound := by
  induction es generalizing s with
  | nil => exact h
  | cons e es ih => exact ih (h.after e)

omit h

/-! ## Sources that stay the same -/

/-- Of the source, nothing else is known than the catalog. -/
structure Serves (s : CacheState) (source : Source) (catalog : Catalog) : Prop where
  catalogs : ∀ {kept}, s.cache.catalogs.get? s.now source.key = some kept → kept = catalog
  failure : s.cache.failure? s.now source.key = none

variable {catalog : Catalog} (hs : s.Serves source catalog)

include hs

theorem Serves.catalog_eq (hc : s.contents source = .ok catalog) :
    (s.catalog source).1 = .ok catalog := by
  cases hg : s.cache.catalogs.get? s.now source.key with
  | some kept => rw [catalog_of_known (SchemaCache.known?_eq_ok_iff.2 ⟨hs.failure, hg⟩),
      hs.catalogs hg]
  | none => rw [catalog_of_unknown (SchemaCache.known?_eq_none_iff.2 ⟨hs.failure, hg⟩), hc]

theorem Serves.inputs_eq (h : s.Sound) (hc : s.contents source = .ok catalog)
    (typeName : String) : (s.inputs source typeName).1 = catalog.inputs typeName := by
  cases hg : s.cache.specs.get? s.now (source.key, typeName) with
  | some specs =>
    obtain ⟨kept, hk, hspecs⟩ := h.coherent.specs hg
    rw [inputs_of_hit hg, hspecs, hs.catalogs hk]
  | none => rw [inputs_of_miss hg, hs.catalog_eq hc]

theorem Serves.after_catalog {other : Source}
    (hc : other.key = source.key → s.contents other = .ok catalog) :
    Serves { s with cache := (s.catalog other).2 } source catalog := by
  cases hk : s.cache.known? s.now other.key with
  | some r =>
    rw [catalog_of_known hk]
    exact hs
  | none =>
    rw [catalog_of_unknown hk]
    by_cases hkey : source.key = other.key
    · rw [hc hkey.symm]
      refine ⟨fun {kept} hget => ?_, hs.failure⟩
      have hset := (Memory.get?_set ..).symm.trans hget
      rw [if_pos hkey] at hset
      split at hset
      · exact (Option.some.inj hset).symm
      · cases hset
    · obtain ⟨hcatalogs, hfailure⟩ :=
        s.cache.learn_of_ne s.now hkey (s.contents other) s.now
      exact ⟨fun hget => hs.catalogs (hcatalogs ▸ hget), hfailure.trans hs.failure⟩

/-- No event makes the cache know of anything else, if the source gives nothing else. -/
theorem Serves.after (h : s.Sound) {e : CacheEvent} (hc : ∀ other, e.source? = some other →
    other.key = source.key → s.contents other = .ok catalog) :
    (e.after s).Serves source catalog := by
  cases e with
  | catalog other => exact hs.after_catalog (hc other rfl)
  | inputs other typeName =>
    have hlooked := hs.after_catalog (hc other rfl)
    rcases s.inputs_cases other typeName with he | ⟨specs, he⟩
    · rw [CacheEvent.after, he]
      exact hs
    · rw [CacheEvent.after, he]
      exact ⟨hlooked.catalogs, hlooked.failure⟩
  | invalidate other =>
    refine ⟨fun {kept} hget => ?_, ?_⟩
    · have hr := (Memory.get?_remove ..).symm.trans hget
      split at hr
      · cases hr
      · exact hs.catalogs hr
    · show (s.cache.invalidate other.key).failure? s.now source.key = none
      rw [SchemaCache.failure?_invalidate, hs.failure, ite_self]
  | clear =>
    refine ⟨fun {kept} hget => ?_, SchemaCache.failure?_clear s.cache s.now source.key⟩
    cases hget
  | wait ms =>
    refine ⟨fun {kept} hget => hs.catalogs ?_, ?_⟩
    · exact (Memory.get?_of_timeToLive h.lasting.catalogs ..).trans hget
    · exact SchemaCache.failure?_mono (Nat.le_add_right s.now ms) hs.failure
  | change contents => exact ⟨hs.catalogs, hs.failure⟩

theorem Serves.foldl_after (h : s.Sound) {es : List CacheEvent}
    (hkeys : ∀ e ∈ es, ∀ other, e.source? = some other → other.key = source.key → other = source)
    (hc : ∀ k, ((es.take k).foldl CacheEvent.after s).contents source = .ok catalog) :
    (es.foldl CacheEvent.after s).Serves source catalog := by
  induction es generalizing s with
  | nil => exact hs
  | cons e es ih =>
    rw [List.forall_mem_cons] at hkeys
    -- what is taken of the rest comes after `e`, so the content is steady from there too
    have hnow : s.contents source = .ok catalog := hc 0
    refine ih (hs.after h fun other ho hkey => ?_) (h.after e) hkeys.2 fun k => hc (k + 1)
    rwa [hkeys.1 other ho hkey]

omit hs

/-- **Cached schemas are coherent**, after any events from an empty cache: every input list that is
kept comes from the catalog that is kept of its source, and no catalog is kept beside a failure
that still counts. So a source that always reads the same, and whose key no other has, is answered
from what it reads. -/
theorem cache_coherent (ms now : Nat) (contents : Source → Except Failure Catalog)
    (es : List CacheEvent) :
    let start : CacheState := ⟨.withFailureTtl ms, now, contents⟩
    let s := es.foldl CacheEvent.after start
    s.cache.Coherent s.now ∧ ∀ source catalog,
      (∀ e ∈ es, ∀ other, e.source? = some other → other.key = source.key → other = source) →
      (∀ k, ((es.take k).foldl CacheEvent.after start).contents source = .ok catalog) →
      ∀ typeName, (s.inputs source typeName).1 = catalog.inputs typeName := by
  intro start s
  have hstart : start.Sound := ⟨⟨rfl, rfl⟩, SchemaCache.coherent_withFailureTtl ms now⟩
  have hs : s.Sound := hstart.foldl_after es
  refine ⟨hs.coherent, fun source catalog hkeys hc typeName => ?_⟩
  have hnone : start.Serves source catalog := by
    refine ⟨nofun, ?_⟩
    unfold SchemaCache.failure? start SchemaCache.withFailureTtl
    split <;> rfl
  have hend : s.contents source = .ok catalog := by
    have := hc es.length
    rwa [List.take_length] at this
  exact (hnone.foldl_after hstart hkeys hc).inputs_eq hs hend typeName

/-- A file is read beside a service that cannot be reached at first. -/
theorem cache_coherent_of_file :
    let encoder : Catalog := .ofJson (.object [("CLIPTextEncode", .object [
      ("input", .object [("required", .object [("text", .array [.text "STRING"])])])])])
    let file : Source := .file "object_info.json"
    let service : Source := .ofAddress "http://127.0.0.1:8188/"
    let early (other : Source) : Except Failure Catalog :=
      if other.key = file.key then .ok encoder else .error .unreachable
    let es : List CacheEvent := [.inputs service "CLIPTextEncode", .inputs file "CLIPTextEncode",
      .wait 1000, .change fun _ => .ok encoder, .catalog service]
    let start : CacheState := ⟨.withFailureTtl 30000, 0, early⟩
    let s := es.foldl CacheEvent.after start
    (∀ e ∈ es, ∀ other, e.source? = some other → other.key = file.key → other = file) ∧
      (∀ k, ((es.take k).foldl CacheEvent.after start).contents file = .ok encoder) ∧
      s.cache.Coherent s.now ∧
      (s.inputs file "CLIPTextEncode").1 = encoder.inputs "CLIPTextEncode" := by
  intro encoder file service early es start s
  have hkey : service.key ≠ file.key := by decide
  have hkeys : ∀ e ∈ es, ∀ other, e.source? = some other → other.key = file.key →
      other = file := by
    simp only [es, List.forall_mem_cons, CacheEvent.source?, Option.some.injEq]
    refine ⟨?_, fun _ h _ => h.symm, nofun, nofun, ?_, nofun⟩ <;>
      exact fun _ h hk => absurd (h ▸ hk) hkey
  have hc : ∀ k, ((es.take k).foldl CacheEvent.after start).contents file = .ok encoder := by
    intro k
    rcases k with _ | _ | _ | _ | _ | k
    case succ.succ.succ.succ.succ =>
      rw [List.take_of_length_le (Nat.le_add_left 5 k)]
      rfl
    all_goals rfl
  obtain ⟨hcoherent, hanswers⟩ := cache_coherent 30000 0 early es
  exact ⟨hkeys, hc, hcoherent, hanswers file encoder hkeys hc "CLIPTextEncode"⟩

end CacheState

end PromptGraph
