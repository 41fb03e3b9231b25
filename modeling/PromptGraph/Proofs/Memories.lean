import PromptGraph.Schema.Memory

/-!
# What memories find

Setting, removing and clearing act on what is found like the same operations of a map, except that
a value that was set is found only while it lives (`get?_set`). What is found at some time was found
before (`isSome_get?_mono`), and without a time to live the time does not matter
(`get?_of_timeToLive`).
-/

namespace PromptGraph.Memory

universe u v

variable {K : Type u} {V : Type v}

theorem isLive_mono {m : Memory K V} {now later since : Nat} (hle : now ≤ later)
    (h : m.isLive later since = true) : m.isLive now since = true := by
  unfold isLive at h ⊢
  split
  · rfl
  · next t ht =>
    rw [ht] at h
    have hlt : later < since + t := of_decide_eq_true h
    exact decide_eq_true (by omega)

variable [DecidableEq K]

theorem isSome_get?_mono {m : Memory K V} {now later : Nat} (hle : now ≤ later) {key : K}
    (h : (m.get? later key).isSome = true) : (m.get? now key).isSome = true := by
  rw [get?, Option.isSome_map, List.find?_isSome] at h ⊢
  obtain ⟨e, he, hp⟩ := h
  rw [Bool.and_eq_true] at hp
  refine ⟨e, he, ?_⟩
  rw [hp.1, isLive_mono hle hp.2, Bool.and_true]

theorem get?_of_timeToLive {m : Memory K V} (h : m.timeToLive = none) (now later : Nat) (key : K) :
    m.get? later key = m.get? now key := by
  have hl : ∀ t since, m.isLive t since = true := by
    intro t since
    rw [isLive, h]
  simp [get?, hl]

theorem get?_clear (m : Memory K V) (now : Nat) (key : K) : m.clear.get? now key = none :=
  rfl

theorem get?_filter (m : Memory K V) (p : K → Bool) (now : Nat) (key : K) :
    Memory.get? { m with entries := m.entries.filter fun e => p e.1 } now key =
      if p key then m.get? now key else none := by
  rw [get?, get?, List.find?_filter]
  by_cases hp : p key = true
  · rw [if_pos hp]
    refine congrArg (fun q => (m.entries.find? q).map fun e => e.2.1) (funext fun e => ?_)
    show decide (p e.1 = true ∧ (decide (e.1 = key) && m.isLive now e.2.2) = true) = _
    by_cases hk : e.1 = key <;> simp [hk, hp]
  · rw [if_neg hp, Option.map_eq_none_iff, List.find?_eq_none]
    intro e _
    by_cases hk : e.1 = key <;> simp [hk, hp]

theorem get?_remove (m : Memory K V) (key : K) (now : Nat) (other : K) :
    (m.remove key).get? now other = if other = key then none else m.get? now other := by
  refine (m.get?_filter (fun k => decide (k ≠ key)) now other).trans ?_
  by_cases ho : other = key <;> simp [ho]

theorem get?_set (m : Memory K V) (since : Nat) (key : K) (value : V) (now : Nat) (other : K) :
    (m.set since key value).get? now other = if other = key
      then (if m.isLive now since then some value else none) else m.get? now other := by
  have hset : (m.set since key value).get? now other = ((m.remove key).get? now other).or
      (if other = key ∧ m.isLive now since then some value else none) := by
    rw [get?, set, List.find?_append, Option.map_or]
    refine congrArg (Option.or _) ?_
    show ([(key, value, since)].find? fun e => e.1 = other && m.isLive now e.2.2).map _ = _
    by_cases hk : key = other
    · cases hl : m.isLive now since <;> simp [hk, hl]
    · simp [hk, Ne.symm hk]
  rw [hset, get?_remove]
  by_cases ho : other = key <;> simp [ho]

end PromptGraph.Memory
