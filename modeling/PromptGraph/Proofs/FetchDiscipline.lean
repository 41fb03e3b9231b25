import Mathlib.Data.List.Chain
import PromptGraph.Proofs.CacheJournals

/-!
# The discipline of fetches

Of a key, the cache knows what still counts of its last fetch, and nothing else: a catalog for good
and a failure for a while (`Remembers`). So a lookup either answers that or fetches (`Obeys`), and
from one moment of forgetting to the next the fetches of a key are `Disciplined`
(`fetch_discipline`).
-/

namespace PromptGraph

/-- What still counts of a fetch, by its time and what it gave. -/
def stillCounts (ms now : Nat) : Option (Nat × Except Failure Catalog) →
    Option (Except Failure Catalog)
  | none => none
  | some (_, .ok catalog) => some (.ok catalog)
  | some (since, .error e) => if now < since + ms then some (.error e) else none

/-- The fetches of a key, each with its time. -/
def fetches (key : String) (steps : List CacheStep) : List (Nat × Except Failure Catalog) :=
  (steps.filter fun st => st.event.asks key).flatMap fun st => st.fetched.map (st.now, ·)

section Fetches

variable {ms now : Nat} {key : String}

theorem stillCounts_eq_none_iff {f : Nat × Except Failure Catalog} :
    stillCounts ms now (some f) = none ↔ (∃ e, f.2 = .error e) ∧ f.1 + ms ≤ now := by
  obtain ⟨since, outcome⟩ := f
  cases outcome with
  | ok catalog => simp [stillCounts]
  | error e => simp [stillCounts]

theorem eq_of_stillCounts {f : Nat × Except Failure Catalog} {known : Except Failure Catalog}
    (h : stillCounts ms now (some f) = some known) : known = f.2 := by
  obtain ⟨since, outcome⟩ := f
  cases outcome with
  | ok catalog => exact (Option.some.inj h).symm
  | error e =>
    rw [stillCounts] at h
    split at h
    · exact (Option.some.inj h).symm
    · cases h

theorem fetches_append (key : String) (steps steps' : List CacheStep) :
    fetches key (steps ++ steps') = fetches key steps ++ fetches key steps' := by
  simp [fetches]

theorem fetches_singleton_of_asks {st : CacheStep} (h : st.event.asks key = true) :
    fetches key [st] = st.fetched.map (st.now, ·) := by
  simp [fetches, h]

theorem fetches_singleton_of_not_asks {st : CacheStep} (h : st.event.asks key = false) :
    fetches key [st] = [] := by
  simp [fetches, h]

theorem length_filter_isOk_le_one {fs : List (Nat × Except Failure Catalog)}
    (h : fs.IsChain fun x y => (∃ e, x.2 = .error e) ∧ x.1 + ms ≤ y.1) :
    (fs.filter fun x => x.2.isOk).length ≤ 1 := by
  induction fs with
  | nil => exact Nat.zero_le 1
  | cons x fs ih =>
    obtain ⟨hnext, hrest⟩ := List.isChain_cons.1 h
    cases fs with
    | nil => exact List.length_filter_le ..
    | cons y fs =>
      obtain ⟨⟨e, he⟩, -⟩ := hnext y rfl
      have hx : x.2.isOk = false := by rw [he]; rfl
      rw [List.filter_cons_of_neg (by simp [hx])]
      exact ih hrest

end Fetches

/-- The lookup answers what still counts of the last fetch, or else fetches and answers that. -/
def CacheStep.Obeys (ms : Nat) (last : Option (Nat × Except Failure Catalog)) (st : CacheStep) :
    Prop :=
  match stillCounts ms st.now last with
  | some known => st.fetched = [] ∧ st.answer = st.event.answerTo known
  | none => ∃ outcome, st.fetched = [outcome] ∧ st.answer = st.event.answerTo outcome

namespace CacheStep

variable {ms : Nat} {last : Option (Nat × Except Failure Catalog)} {st : CacheStep}

theorem Obeys.cases (h : st.Obeys ms last) :
    (∃ f, last = some f ∧ st.fetched = [] ∧ st.answer = st.event.answerTo f.2) ∨
      (∀ f ∈ last, (∃ e, f.2 = .error e) ∧ f.1 + ms ≤ st.now) ∧
        ∃ outcome, st.fetched = [outcome] ∧ st.answer = st.event.answerTo outcome := by
  unfold Obeys at h
  split at h
  · next known hk =>
    cases last with
    | none => cases hk
    | some f => exact .inl ⟨f, rfl, h.1, eq_of_stillCounts hk ▸ h.2⟩
  · next hk =>
    refine .inr ⟨fun f hf => ?_, h⟩
    cases hf
    exact stillCounts_eq_none_iff.1 hk

theorem Obeys.fetched_of_expired (h : st.Obeys ms last)
    (hl : ∀ f ∈ last, (∃ e, f.2 = .error e) ∧ f.1 + ms ≤ st.now) : st.fetched.length = 1 := by
  have hk : stillCounts ms st.now last = none := by
    cases last with
    | none => rfl
    | some f => exact stillCounts_eq_none_iff.2 (hl f rfl)
  rw [Obeys, hk] at h
  obtain ⟨outcome, hf, -⟩ := h
  rw [hf]
  rfl

end CacheStep

/-! ## Lookups -/

/-- Failures are remembered for a number of milliseconds; zero is not at all. -/
def SchemaCache.RemembersFailures (c : SchemaCache) (ms : Nat) : Prop :=
  c.failures.map Memory.timeToLive = if ms = 0 then none else some (some ms)

theorem SchemaCache.RemembersFailures.eq_zero {c : SchemaCache} {ms : Nat}
    (h : c.RemembersFailures ms) (hm : c.failures = none) : ms = 0 := by
  rw [RemembersFailures, hm] at h
  split at h
  · assumption
  · cases h

theorem SchemaCache.RemembersFailures.timeToLive_eq {c : SchemaCache} {ms : Nat}
    {m : Memory String Failure} (h : c.RemembersFailures ms) (hm : c.failures = some m) :
    m.timeToLive = some ms := by
  rw [RemembersFailures, hm] at h
  split at h
  · cases h
  · exact Option.some.inj h

namespace CacheEvent

variable {s : CacheState} {source : Source} {key : String} {e : CacheEvent}

theorem asks_iff : e.asks key = true ↔ ∃ source, e.source? = some source ∧ source.key = key := by
  unfold asks
  cases e.source? <;> simp

theorem now_after (h : e.source? = some source) : (e.after s).now = s.now := by
  cases e <;> first | rfl | cases h

theorem le_now_after (s : CacheState) (e : CacheEvent) : s.now ≤ (e.after s).now := by
  cases e with
  | wait ms => exact Nat.le_add_right s.now ms
  | _ => exact Nat.le_refl s.now

end CacheEvent

namespace CacheState

open SchemaCache

variable {s : CacheState} {source : Source} {key : String} {e : CacheEvent}

theorem failuresLive_after (s : CacheState) (e : CacheEvent) :
    (e.after s).cache.failures.map Memory.timeToLive =
      s.cache.failures.map Memory.timeToLive := by
  have hcatalog : ∀ source, (s.catalog source).2.failures.map Memory.timeToLive =
      s.cache.failures.map Memory.timeToLive := by
    intro source
    cases hk : s.cache.known? s.now source.key with
    | some r => rw [catalog_of_known hk]
    | none =>
      rw [catalog_of_unknown hk]
      exact (s.cache.timeToLive_learn ..).2.1
  cases e with
  | catalog source => exact hcatalog source
  | inputs source typeName =>
    rw [CacheEvent.after]
    rcases s.inputs_cases source typeName with he | ⟨specs, he⟩
    · rw [he]
    · rw [he]
      exact hcatalog source
  | invalidate source => exact s.cache.timeToLive_invalidate source.key
  | clear => exact s.cache.timeToLive_clear
  | wait ms => rfl
  | change contents => rfl

theorem failuresLive_foldl_after (s : CacheState) (es : List CacheEvent) :
    (es.foldl CacheEvent.after s).cache.failures.map Memory.timeToLive =
      s.cache.failures.map Memory.timeToLive := by
  induction es generalizing s with
  | nil => rfl
  | cons e es ih => exact (ih (e.after s)).trans (failuresLive_after s e)

/-- Of the key, the cache knows what still counts of the last fetch. -/
structure Remembers (ms : Nat) (key : String) (last : Option (Nat × Except Failure Catalog))
    (s : CacheState) : Prop where
  sound : s.Sound
  failuresLive : s.cache.RemembersFailures ms
  known : ∀ now, s.now ≤ now → s.cache.known? now key = stillCounts ms now last
  since : ∀ f ∈ last, f.1 ≤ s.now

variable {ms : Nat} {last : Option (Nat × Except Failure Catalog)}

theorem known?_learn (h : s.Sound) (hms : s.cache.RemembersFailures ms)
    (hu : s.cache.known? s.now key = none) (outcome : Except Failure Catalog) {now : Nat}
    (hle : s.now ≤ now) : (s.cache.learn s.now key outcome).known? now key =
      stillCounts ms now (some (s.now, outcome)) := by
  obtain ⟨hf, hc⟩ := known?_eq_none_iff.1 hu
  cases outcome with
  | ok c =>
    have hkept : (s.cache.learn s.now key (.ok c)).catalogs.get? now key = some c :=
      (h.lasting.get?_set ..).trans (if_pos rfl)
    exact known?_eq_ok_iff.2 ⟨failure?_mono hle hf, hkept⟩
  | error e =>
    have hkept : (s.cache.learn s.now key (.error e)).catalogs.get? now key = none :=
      (Memory.get?_of_timeToLive h.lasting.catalogs ..).trans hc
    rw [known?_eq, hkept, failure?_learn_error, if_pos rfl, stillCounts]
    cases hm : s.cache.failures with
    | none =>
      -- failures are not remembered, and no time is left to remember this one
      have hz := hms.eq_zero hm
      rw [if_neg (by omega)]
      rfl
    | some m =>
      have hlive := hms.timeToLive_eq hm
      by_cases hl : now < s.now + ms <;> simp [Memory.isLive, hlive, hl]

theorem Remembers.after_asking (h : s.Remembers ms key last) (ha : e.asks key = true) :
    (e.after s).Remembers ms key ((fetches key [s.step e]).getLast?.or last) := by
  obtain ⟨source, he, rfl⟩ := CacheEvent.asks_iff.1 ha
  have hnow : (e.after s).now = s.now := CacheEvent.now_after he
  have hlive := (failuresLive_after s e).trans h.failuresLive
  rw [fetches_singleton_of_asks (by rwa [step_event]), h.sound.fetched_step he, step_now]
  cases hk : s.cache.known? s.now source.key with
  | some r =>
    refine ⟨h.sound.after e, hlive, fun now hle => ?_, fun f hf => ?_⟩
    · rw [h.sound.known?_after he, catalog_of_known hk]
      exact h.known now (hnow ▸ hle)
    · rw [hnow]
      exact h.since f hf
  | none =>
    refine ⟨h.sound.after e, hlive, fun now hle => ?_, ?_⟩
    · rw [h.sound.known?_after he, catalog_of_unknown hk]
      exact known?_learn h.sound h.failuresLive hk (s.contents source) (hnow ▸ hle)
    · rintro f ⟨⟩
      exact Nat.le_of_eq hnow.symm

theorem Remembers.after (h : s.Remembers ms key last) (hf : e.forgets key = false) :
    (e.after s).Remembers ms key ((fetches key [s.step e]).getLast?.or last) := by
  cases ha : e.asks key with
  | true => exact h.after_asking ha
  | false =>
    rw [fetches_singleton_of_not_asks (by rwa [step_event])]
    have hle := CacheEvent.le_now_after s e
    exact {
      sound := h.sound.after e
      failuresLive := (failuresLive_after s e).trans h.failuresLive
      known := fun now hnow =>
        ((agree_after ha hf).known? now).symm.trans (h.known now (hle.trans hnow))
      since := fun f hl => (h.since f hl).trans hle }

theorem remembers_of_forgets (h : s.Sound)
    (hms : s.cache.RemembersFailures ms) (hf : e.forgets key = true) :
    (e.after s).Remembers ms key none where
  sound := h.after e
  failuresLive := (failuresLive_after s e).trans hms
  known now _ := by
    cases e with
    | invalidate source =>
      have hkey : source.key = key := of_decide_eq_true hf
      refine known?_eq_none_iff.2 ⟨?_, ?_⟩
      · exact (failure?_invalidate ..).trans (if_pos hkey.symm)
      · exact (Memory.get?_remove ..).trans (if_pos hkey.symm)
    | clear => exact known?_eq_none_iff.2 ⟨failure?_clear .., rfl⟩
    | _ => cases hf
  since f hf := by cases hf

theorem remembers_withFailureTtl (ms now : Nat) (contents : Source → Except Failure Catalog)
    (key : String) : Remembers ms key none ⟨.withFailureTtl ms, now, contents⟩ where
  sound := ⟨⟨rfl, rfl⟩, coherent_withFailureTtl ms now⟩
  failuresLive := by
    unfold RemembersFailures withFailureTtl
    split <;> rfl
  known now _ := by
    refine known?_eq_none_iff.2 ⟨?_, rfl⟩
    unfold failure? withFailureTtl
    dsimp only
    split <;> rfl
  since f hf := by cases hf

theorem Remembers.foldl_after (h : s.Remembers ms key last) {es : List CacheEvent}
    (hf : ∀ e ∈ es, e.forgets key = false) : (es.foldl CacheEvent.after s).Remembers ms key
      ((fetches key (s.journal es)).getLast?.or last) := by
  induction es generalizing s last with
  | nil => exact h
  | cons e es ih =>
    have hrest := ih (h.after (hf e List.mem_cons_self)) fun x hx =>
      hf x (List.mem_cons_of_mem e hx)
    rw [← Option.or_assoc, ← List.getLast?_append, ← fetches_append] at hrest
    exact hrest

theorem Remembers.obeys (h : s.Remembers ms key last) (ha : e.asks key = true) :
    (s.step e).Obeys ms last := by
  obtain ⟨source, he, rfl⟩ := CacheEvent.asks_iff.1 ha
  rw [CacheStep.Obeys, step_now, ← h.known s.now (Nat.le_refl s.now), h.sound.fetched_step he,
    h.sound.answer_step he, step_event]
  cases hk : s.cache.known? s.now source.key with
  | some r =>
    rw [catalog_of_known hk]
    exact ⟨rfl, rfl⟩
  | none =>
    rw [catalog_of_unknown hk]
    exact ⟨s.contents source, rfl, rfl⟩

end CacheState

/-! ## Stretches -/

/-- Every lookup of the key obeys the last fetch before it. -/
def Follows (ms : Nat) (key : String) (steps : List CacheStep) : Prop :=
  ∀ l st r, steps = l ++ st :: r → st.event.asks key = true →
    st.Obeys ms (fetches key l).getLast? ∧ ∀ f ∈ (fetches key l).getLast?, f.1 ≤ st.now

/-- How a key is fetched while nothing makes the cache forget it. -/
structure Disciplined (ms : Nat) (key : String) (steps : List CacheStep) : Prop where
  /-- A lookup fetches once or not at all. -/
  single : ∀ st ∈ steps, st.event.asks key = true → st.fetched.length ≤ 1
  /-- Of two fetches in a row, the first failed, and long enough before the second. -/
  apart : (fetches key steps).IsChain fun x y => (∃ e, x.2 = .error e) ∧ x.1 + ms ≤ y.1
  /-- At most one fetch succeeds. -/
  once : ((fetches key steps).filter fun x => x.2.isOk).length ≤ 1
  /-- After a success nothing is fetched, and every lookup is answered from that catalog. -/
  served : ∀ l st r, steps = l ++ st :: r → st.event.asks key = true →
    ∀ c, st.fetched = [.ok c] → fetches key r = [] ∧
      ∀ x ∈ st :: r, x.event.asks key = true → x.answer = x.event.answerTo (.ok c)
  /-- Until the fetch after a failure, every lookup is answered with that failure. -/
  remembered : ∀ l st mid r, steps = l ++ st :: (mid ++ r) → st.event.asks key = true →
    ∀ e, st.fetched = [.error e] → fetches key mid = [] →
      ∀ x ∈ st :: mid, x.event.asks key = true → x.answer = x.event.answerTo (.error e)
  /-- A lookup fetches when there was no fetch before, and when the last one failed long enough
  ago. -/
  retries : ∀ l st r, steps = l ++ st :: r → st.event.asks key = true →
    (∀ f ∈ (fetches key l).getLast?, (∃ e, f.2 = .error e) ∧ f.1 + ms ≤ st.now) →
    st.fetched.length = 1
  /-- Where failures are not remembered, every lookup before the first success fetches. -/
  eager : ms = 0 → ∀ l st r, steps = l ++ st :: r → st.event.asks key = true →
    (∀ f ∈ fetches key l, ∃ e, f.2 = .error e) → st.fetched.length = 1

theorem CacheState.Remembers.follows {s : CacheState} {ms : Nat} {key : String}
    (h : s.Remembers ms key none) {es : List CacheEvent}
    (hf : ∀ e ∈ es, e.forgets key = false) : Follows ms key (s.journal es) := by
  intro l st r hsplit ha
  obtain ⟨es₁, es₂, rfl, rfl, hr⟩ := CacheState.journal_eq_append hsplit
  cases es₂ with
  | nil => cases hr
  | cons e es₂ =>
    obtain ⟨rfl, -⟩ := List.cons.inj hr
    have hbefore := h.foldl_after fun x hx => hf x (List.mem_append_left _ hx)
    rw [Option.or_none] at hbefore
    rw [CacheState.step_event] at ha
    refine ⟨hbefore.obeys ha, ?_⟩
    rw [CacheState.step_now]
    exact hbefore.since

namespace Follows

variable {ms : Nat} {key : String} {steps : List CacheStep}

theorem of_append {l r : List CacheStep} (h : Follows ms key (l ++ r)) : Follows ms key l := by
  rintro l' st r' rfl
  exact h l' st (r' ++ r) (by simp)

/-- One step follows another in the chain of fetches, or adds none to it. -/
theorem apart (h : Follows ms key steps) :
    (fetches key steps).IsChain fun x y => (∃ e, x.2 = .error e) ∧ x.1 + ms ≤ y.1 := by
  induction steps using List.reverseRecOn with
  | nil => exact .nil
  | append_singleton l st ih =>
    have hl := ih h.of_append
    rw [fetches_append]
    cases ha : st.event.asks key with
    | false => rwa [fetches_singleton_of_not_asks ha, List.append_nil]
    | true =>
      rw [fetches_singleton_of_asks ha]
      rcases (h l st [] rfl ha).1.cases with ⟨f, -, hf, -⟩ | ⟨hlast, outcome, hf, -⟩
      · rwa [hf, List.map_nil, List.append_nil]
      · rw [hf]
        refine hl.append (.singleton _) ?_
        rintro x hx y ⟨⟩
        exact hlast x hx

theorem answers (h : Follows ms key steps) {l mid r : List CacheStep} {st : CacheStep}
    (hsplit : steps = l ++ st :: (mid ++ r)) (ha : st.event.asks key = true)
    {outcome : Except Failure Catalog} (hf : st.fetched = [outcome])
    (hmid : fetches key mid = []) :
    ∀ x ∈ st :: mid, x.event.asks key = true → x.answer = x.event.answerTo outcome := by
  intro x hx hax
  rcases List.mem_cons.1 hx with rfl | hx
  · rcases (h l x (mid ++ r) hsplit ha).1.cases with ⟨f, -, hnone, -⟩ | ⟨-, o, ho, hanswer⟩
    · rw [hf] at hnone
      cases hnone
    · rw [hf] at ho
      cases ho
      exact hanswer
  · obtain ⟨m₁, m₂, rfl⟩ := List.append_of_mem hx
    rw [fetches_append, List.append_eq_nil_iff, ← List.singleton_append, fetches_append,
      List.append_eq_nil_iff, fetches_singleton_of_asks hax, List.map_eq_nil_iff] at hmid
    obtain ⟨hm₁, hxf, -⟩ := hmid
    have hlast : (fetches key (l ++ st :: m₁)).getLast? = some (st.now, outcome) := by
      rw [fetches_append, ← List.singleton_append, fetches_append, hm₁,
        fetches_singleton_of_asks ha, hf]
      simp
    have hobeys := (h (l ++ st :: m₁) x (m₂ ++ r) (by simp [hsplit]) hax).1
    rw [hlast] at hobeys
    rcases hobeys.cases with ⟨f, hlf, -, hanswer⟩ | ⟨-, o, ho, -⟩
    · cases hlf
      exact hanswer
    · rw [hxf] at ho
      cases ho

theorem disciplined (h : Follows ms key steps) : Disciplined ms key steps where
  single st hst ha := by
    obtain ⟨l, r, hsplit⟩ := List.append_of_mem hst
    rcases (h l st r hsplit ha).1.cases with ⟨f, -, hf, -⟩ | ⟨-, outcome, hf, -⟩ <;> simp [hf]
  apart := h.apart
  once := length_filter_isOk_le_one h.apart
  served l st r hsplit ha c hf := by
    have hnone : fetches key r = [] := by
      have hchain := h.apart
      rw [hsplit, ← List.singleton_append, fetches_append, fetches_append,
        fetches_singleton_of_asks ha, hf] at hchain
      have hnext := (List.isChain_cons.1 hchain.right_of_append).1
      cases hr : fetches key r with
      | nil => rfl
      | cons y ys =>
        rw [hr] at hnext
        obtain ⟨⟨e, he⟩, -⟩ := hnext y rfl
        cases he
    exact ⟨hnone, h.answers (r := []) (by rwa [List.append_nil]) ha hf hnone⟩
  remembered l st mid r hsplit ha e hf hmid := h.answers hsplit ha hf hmid
  retries l st r hsplit ha hlast := (h l st r hsplit ha).1.fetched_of_expired hlast
  eager hms l st r hsplit ha hfailed := by
    obtain ⟨hobeys, hsince⟩ := h l st r hsplit ha
    refine hobeys.fetched_of_expired fun f hf => ⟨hfailed f (List.mem_of_getLast? hf), ?_⟩
    rw [hms]
    exact hsince f hf

end Follows

theorem CacheState.remembers_foldl_after (ms now : Nat)
    (contents : Source → Except Failure Catalog) (key : String) {es : List CacheEvent}
    (hlast : ∀ e ∈ es.getLast?, e.forgets key = true) :
    (es.foldl CacheEvent.after ⟨.withFailureTtl ms, now, contents⟩).Remembers ms key none := by
  have hstart := remembers_withFailureTtl ms now contents key
  rcases List.eq_nil_or_concat' es with rfl | ⟨init, e, rfl⟩
  · exact hstart
  · rw [List.foldl_append]
    refine remembers_of_forgets (hstart.sound.foldl_after init) ?_ (hlast e (by simp))
    exact (failuresLive_foldl_after ..).trans hstart.failuresLive

/-- **The discipline of fetches.** In any run from an empty cache, a key is fetched with discipline
from the beginning, or a moment of forgetting it, to the next. -/
theorem fetch_discipline (ms now : Nat) (contents : Source → Except Failure Catalog)
    (es : List CacheEvent) (key : String) {before stretch rest : List CacheStep}
    (hsplit : CacheState.journal ⟨.withFailureTtl ms, now, contents⟩ es =
      before ++ (stretch ++ rest))
    (hbefore : ∀ st ∈ before.getLast?, st.event.forgets key = true)
    (hstretch : ∀ st ∈ stretch, st.event.forgets key = false) : Disciplined ms key stretch := by
  obtain ⟨es₁, es', rfl, rfl, hrest⟩ := CacheState.journal_eq_append hsplit
  obtain ⟨es₂, es₃, rfl, rfl, -⟩ := CacheState.journal_eq_append hrest.symm
  refine (CacheState.Remembers.follows ?_ fun e he => ?_).disciplined
  · refine CacheState.remembers_foldl_after ms now contents key fun e he => ?_
    rw [← CacheState.map_event_journal ⟨.withFailureTtl ms, now, contents⟩ es₁,
      List.getLast?_map] at he
    obtain ⟨st, hst, rfl⟩ := Option.map_eq_some_iff.1 he
    exact hbefore st hst
  · rw [← CacheState.map_event_journal _ es₂] at he
    obtain ⟨st, hst, rfl⟩ := List.mem_map.1 he
    exact hstretch st hst

/-- A file that cannot be read, is asked for again too early and then in time, and is there after
the second failure. -/
theorem fetch_discipline_of_file :
    let decoder : Catalog := .ofJson (.object [("VAEDecode", .object [
      ("input", .object [("required", .object [("samples", .array [.text "LATENT"])])])])])
    let file : Source := .file "object_info.json"
    let opening : List CacheEvent := [.catalog file, .invalidate file]
    let stretch : List CacheEvent := [.catalog file, .wait 29999, .inputs file "VAEDecode",
      .wait 1, .catalog file, .change fun _ => .ok decoder, .wait 30000,
      .inputs file "VAEDecode", .change fun _ => .error .badJson, .wait 30000, .catalog file]
    let start : CacheState := ⟨.withFailureTtl 30000, 0, fun _ => .error .unreachable⟩
    let steps := (opening.foldl CacheEvent.after start).journal stretch
    start.journal (opening ++ stretch) = start.journal opening ++ (steps ++ []) ∧
      Disciplined 30000 file.key steps ∧
      (fetches file.key steps).map Prod.fst = [0, 30000, 60000] := by
  intro decoder file opening stretch start steps
  have hsplit : start.journal (opening ++ stretch) = start.journal opening ++ (steps ++ []) := by
    rw [List.append_nil, start.journal_append]
  refine ⟨hsplit, fetch_discipline 30000 0 _ _ file.key hsplit ?_ ?_, by decide +kernel⟩
  · rintro st ⟨⟩
    rfl
  · decide +kernel

end PromptGraph
