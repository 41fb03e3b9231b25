import PromptGraph.Document.Editor
import PromptGraph.Proofs.References

/-!
# What decoders let through

A decoder that returns a value went through every step of its record (`RecordForm.fold_inv`) and
every item of its list (`mem_of_list`). The numbers of editor records that become slots of
connections fit 32 bits: the slots of links, and the indices of outputs.
-/

namespace PromptGraph

theorem eq_ok_of_toOption {ε α : Type} {r : Except ε α} {a : α} (h : r.toOption = some a) :
    r = .ok a := by
  cases r with
  | error e => cases h
  | ok b =>
    cases h
    rfl

namespace Decode

theorem bind_eq_ok {ε α β : Type} {x : Except ε α} {f : α → Except ε β} {b : β} :
    (x >>= f) = .ok b ↔ ∃ a, x = .ok a ∧ f a = .ok b := by
  cases x with
  | error e =>
    constructor
    · exact fun h => nomatch h
    · rintro ⟨a, ha, -⟩
      cases ha
  | ok a =>
    constructor
    · exact fun h => ⟨a, rfl, h⟩
    · rintro ⟨a, ⟨⟩, h⟩
      exact h

theorem map_eq_ok {ε α β : Type} {x : Except ε α} {f : α → β} {b : β} :
    x.map f = .ok b ↔ ∃ a, x = .ok a ∧ f a = b := by
  cases x <;> simp [Except.map]

theorem map_bind {ε α β γ : Type} (x : Except ε α) (f : α → Except ε β) (g : β → γ) :
    (x >>= f).map g = x >>= fun a => (f a).map g := by
  cases x <;> rfl

theorem bind_congr_of_ok {ε α β : Type} {x : Except ε α} {f g : α → Except ε β}
    (h : ∀ a, x = .ok a → f a = g a) : x >>= f = x >>= g := by
  cases x with
  | error e => rfl
  | ok a => exact h a rfl

theorem foldlM_inv {ε σ α : Type} {step : σ → α → Except ε σ} (P : σ → Prop)
    (hstep : ∀ s a s', P s → step s a = .ok s' → P s') {as : List α} {s s' : σ} (hs : P s)
    (h : as.foldlM step s = .ok s') : P s' := by
  induction as generalizing s with
  | nil =>
    cases h
    exact hs
  | cons a as ih =>
    rw [List.foldlM_cons, bind_eq_ok] at h
    obtain ⟨t, ht, h⟩ := h
    exact ih (hstep s a t hs ht) h

/-- What holds at first and is kept by every field holds of the decoded record. -/
theorem RecordForm.fold_inv {σ : Type} {r : RecordForm}
    {step : σ → String → Json → Except DecodeError σ} (P : σ → Prop)
    (hstep : ∀ s key j s', P s → step s key j = .ok s' → P s') {init s : σ} (hs : P init) {j : Json}
    (h : r.fold step init j = .ok s) : P s := by
  unfold RecordForm.fold at h
  split at h
  · refine foldlM_inv P (fun t p t' ht he => ?_) hs h
    split at he
    · exact hstep t p.1 p.2 t' ht he
    · cases he
      exact ht
  · rw [bind_eq_ok] at h
    obtain ⟨t, ht, h⟩ := h
    have hP : P t := foldlM_inv P (fun t p t' => hstep t p.1 p.2 t') hs ht
    split at h
    · cases h
    · split at h
      · cases h
      · cases h
        exact hP
  · cases h

theorem mem_of_mapM {ε α β : Type} {d : α → Except ε β} {as : List α} {bs : List β}
    (h : as.mapM d = .ok bs) {b : β} (hb : b ∈ bs) : ∃ a ∈ as, d a = .ok b := by
  induction as generalizing bs with
  | nil =>
    cases h
    cases hb
  | cons a as ih =>
    rw [List.mapM_cons, bind_eq_ok] at h
    obtain ⟨c, hc, h⟩ := h
    rw [bind_eq_ok] at h
    obtain ⟨cs, hcs, h⟩ := h
    cases h
    rcases List.mem_cons.1 hb with rfl | hb
    · exact ⟨a, List.mem_cons_self, hc⟩
    · obtain ⟨a', ha', hd⟩ := ih hcs hb
      exact ⟨a', List.mem_cons_of_mem _ ha', hd⟩

theorem mem_of_list {α : Type} {d : Decoder α} {j : Json} {bs : List α} (h : list d j = .ok bs)
    {b : α} (hb : b ∈ bs) : ∃ a, d a = .ok b := by
  unfold list at h
  split at h
  · obtain ⟨a, -, ha⟩ := mem_of_mapM h hb
    exact ⟨a, ha⟩
  · cases h

theorem optional_eq_some {α : Type} {d : Decoder α} {j : Json} {a : α}
    (h : optional d j = .ok (some a)) : d j = .ok a := by
  unfold optional at h
  split at h
  · cases h
  · obtain ⟨b, hb, he⟩ := map_eq_ok.1 h
    cases he
    exact hb

theorem nat32_lt {j : Json} {n : Nat} (h : nat32 j = .ok n) : n < Word.span32 := by
  obtain ⟨i, hi, rfl⟩ := map_eq_ok.1 h
  unfold integer at hi
  split at hi
  · split at hi
    · next hr =>
      cases hi
      omega
    · cases hi
  · cases hi

end Decode

open Decode

/-! ## Editor records -/

theorem EditorOutput.slotIndex_lt {j : Json} {o : EditorOutput} (h : decode j = .ok o) {n : Nat}
    (hn : o.slotIndex = some n) : n < Text.slotLimit := by
  suffices ∀ n, o.slotIndex = some n → n < Text.slotLimit from this n hn
  refine RecordForm.fold_inv (fun o => ∀ n, o.slotIndex = some n → n < Text.slotLimit)
    (fun s key j s' hs he => ?_) (by rintro n ⟨⟩) h
  split at he
  · obtain ⟨t, -, rfl⟩ := map_eq_ok.1 he
    exact hs
  · obtain ⟨t, ht, rfl⟩ := map_eq_ok.1 he
    rintro n rfl
    exact nat32_lt (optional_eq_some ht)

theorem EditorNode.outputs_decoded {j : Json} {r : EditorNode} (h : decode j = .ok r) :
    ∀ o ∈ r.outputs, ∃ j', EditorOutput.decode j' = .ok o := by
  rw [decode, bind_eq_ok] at h
  obtain ⟨⟨id, n⟩, hfold, h⟩ := h
  rw [bind_eq_ok] at h
  obtain ⟨id', -, h⟩ := h
  cases h
  refine RecordForm.fold_inv
    (fun s : Option Json × EditorNode => ∀ o ∈ s.2.outputs, ∃ j', EditorOutput.decode j' = .ok o)
    (fun s key j s' hs he => ?_) (by rintro o ⟨⟩) hfold
  obtain ⟨id, n⟩ := s
  dsimp only at he
  split at he
  case h_6 =>
    obtain ⟨os, hos, rfl⟩ := map_eq_ok.1 he
    exact fun o => mem_of_list hos
  case h_1 | h_7 =>
    cases he
    exact hs
  all_goals
    obtain ⟨t, -, rfl⟩ := map_eq_ok.1 he
    exact hs

theorem EditorNode.outputIndex_lt {j : Json} {r : EditorNode} (h : decode j = .ok r) {slot : Nat}
    (hs : slot < Text.slotLimit) : r.outputIndex slot < Text.slotLimit := by
  unfold outputIndex
  cases hi : r.outputs[slot]?.bind EditorOutput.slotIndex with
  | none => exact hs
  | some n =>
    obtain ⟨o, ho, hn⟩ := Option.bind_eq_some_iff.1 hi
    obtain ⟨j', hj⟩ := outputs_decoded h o (List.mem_of_getElem? ho)
    exact EditorOutput.slotIndex_lt hj hn

theorem EditorLink.originSlot_lt {j : Json} {k : EditorLink} (h : ofJson? j = some k) :
    k.originSlot < Text.slotLimit := by
  unfold ofJson? at h
  split at h
  · simp only [Option.bind_eq_bind, Option.bind_eq_some_iff] at h
    obtain ⟨_, _, slot, hn, _, _, _, _, h⟩ := h
    cases h
    exact Connection.slotNumber?_lt hn
  · simp only [Option.bind_eq_bind, Option.bind_eq_some_iff] at h
    obtain ⟨_, _, slot, ⟨j, -, hn⟩, _, _, _, _, h⟩ := h
    cases h
    exact Connection.slotNumber?_lt hn
  · cases h

end PromptGraph
