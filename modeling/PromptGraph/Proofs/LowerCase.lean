import Mathlib.Data.List.TakeWhile
import PromptGraph.Text.Case

/-!
# The lower case of a part of a text

The lower case of a text depends on what surrounds it in one way only: a capital sigma takes another
form at the end of a word, and what stands beside the text may decide whether it is at the end of
one. The form is settled when the text itself shows a letter on the side that decides (`Settled`).
A text whose sigmas are all settled has its lower case within the lower case of every text that
holds it, and no other text has (`toLower_infix_iff`).
-/

namespace PromptGraph.Text

/-! ## Letters past what case ignores -/

/-- Case ignores the characters. -/
def Ignorable (s : List Char) : Prop := ∀ c ∈ s, caseIgnorablePoints.has c = true

instance (s : List Char) : Decidable (Ignorable s) := List.decidableBAll _ s

section

variable {s : List Char}

theorem startsCased_of_ignorable (h : Ignorable s) : startsCased s = false := by
  rw [startsCased, List.dropWhile_eq_nil_iff.2 h]

theorem startsCased_append_of_ignorable (h : Ignorable s) (t : List Char) :
    startsCased (s ++ t) = startsCased t := by
  rw [startsCased, List.dropWhile_append_of_pos h, ← startsCased]

/-- What follows a character that case does not ignore makes no difference. -/
theorem startsCased_append (h : ¬ Ignorable s) (t : List Char) :
    startsCased (s ++ t) = startsCased s := by
  have hne : s.dropWhile caseIgnorablePoints.has ≠ [] := mt List.dropWhile_eq_nil_iff.1 h
  unfold startsCased
  rw [List.dropWhile_append, if_neg (by simpa using hne)]
  obtain ⟨c, rest, hd⟩ := List.exists_cons_of_ne_nil hne
  rw [hd]
  rfl

theorem startsCased_append_of_startsCased (h : startsCased s = true) (t : List Char) :
    startsCased (s ++ t) = true := by
  have hs : ¬ Ignorable s :=
    fun hi => Bool.false_ne_true ((startsCased_of_ignorable hi).symm.trans h)
  rw [startsCased_append hs, h]

end

/-! ## Settled sigmas -/

/-- Whether a sigma between the two ends a word is settled: if nothing before it tells whether it
follows a letter, then it is followed by one, and if nothing after it tells whether it is followed
by a letter, then it follows none. -/
structure Settled (before after : List Char) : Prop where
  followed : Ignorable before → startsCased after = true
  leading : Ignorable after → startsCased before = false

instance (before after : List Char) : Decidable (Settled before after) :=
  decidable_of_iff (_ ∧ _) ⟨fun h => ⟨h.1, h.2⟩, fun h => ⟨h.1, h.2⟩⟩

example : ¬ Settled "ΑΚ".toList [] ∧ Settled "ΑΚ".toList " 2".toList := by decide +kernel

theorem Settled.endsWord_append {before after : List Char} (h : Settled before after)
    (p q : List Char) : endsWord (before ++ p) (after ++ q) = endsWord before after := by
  unfold endsWord
  by_cases hb : Ignorable before
  · rw [startsCased_append_of_startsCased (h.followed hb), h.followed hb, Bool.not_true,
      Bool.and_false, Bool.and_false]
  · rw [startsCased_append hb]
    by_cases ha : Ignorable after
    · rw [h.leading ha, Bool.false_and, Bool.false_and]
    · rw [startsCased_append ha]

section

variable {before after : List Char}

theorem endsWord_append_before (h : endsWord before after = true) (p : List Char) :
    endsWord (before ++ p) after = true := by
  rw [endsWord, Bool.and_eq_true] at h ⊢
  exact ⟨startsCased_append_of_startsCased h.1 p, h.2⟩

theorem endsWord_of_append_after {q : List Char} (h : endsWord before (after ++ q) = true) :
    endsWord before after = true := by
  rw [endsWord, Bool.and_eq_true, Bool.not_eq_true'] at h ⊢
  refine ⟨h.1, Bool.eq_false_iff.2 fun ha => ?_⟩
  exact Bool.false_ne_true (h.2.symm.trans (startsCased_append_of_startsCased ha q))

end

/-- Every sigma of the text is settled within it. -/
def Steady (s : List Char) : Prop := ∀ u v, s = u ++ 'Σ' :: v → Settled u.reverse v

/-! ## Lower case within a text -/

/-- The lower case of a text between what precedes it, nearest first, and what follows it. -/
def lowerBetween (before : List Char) : List Char → List Char → List Char
  | [], _ => []
  | c :: rest, after =>
    (if c = 'Σ' then [if endsWord before (rest ++ after) then 'ς' else 'σ'] else lowerChar c)
      ++ lowerBetween (c :: before) rest after

theorem lowerBetween_nil_right (before s : List Char) :
    lowerBetween before s [] = lowerRest before s := by
  induction s generalizing before with
  | nil => rfl
  | cons c s ih => rw [lowerBetween, lowerRest, ih, List.append_nil]

theorem lowerBetween_append (before s t after : List Char) :
    lowerBetween before (s ++ t) after =
      lowerBetween before s (t ++ after) ++ lowerBetween (s.reverse ++ before) t after := by
  induction s generalizing before with
  | nil => rfl
  | cons c s ih =>
    rw [List.cons_append, lowerBetween, ih, lowerBetween, List.append_assoc, List.append_assoc,
      List.reverse_cons, List.append_assoc, List.singleton_append]

/-- The lower case of a text that is a part of another one, amid the rest. -/
theorem lowerRest_within (p s q : List Char) : lowerRest [] (p ++ s ++ q) =
    lowerBetween [] p (s ++ q) ++ lowerBetween p.reverse s q ++
      lowerRest (s.reverse ++ p.reverse) q := by
  simp only [← lowerBetween_nil_right, lowerBetween_append, List.append_nil, List.reverse_append]

/-- At every sigma of the text, `R` relates whether it ends a word amid the first two texts to
whether it does amid the other two. -/
def AtSigmas (R : Bool → Bool → Prop) (s b a b' a' : List Char) : Prop :=
  ∀ u v, s = u ++ 'Σ' :: v →
    R (endsWord (u.reverse ++ b) (v ++ a)) (endsWord (u.reverse ++ b') (v ++ a'))

section

variable {R : Bool → Bool → Prop} {s t b a b' a' : List Char}

theorem AtSigmas.left (h : AtSigmas R (s ++ t) b a b' a') :
    AtSigmas R s b (t ++ a) b' (t ++ a') := by
  intro u v hs
  have hsplit := h u (v ++ t) (by rw [hs, List.append_assoc, List.cons_append])
  simpa only [List.append_assoc] using hsplit

theorem AtSigmas.right (h : AtSigmas R (s ++ t) b a b' a') :
    AtSigmas R t (s.reverse ++ b) a (s.reverse ++ b') a' := by
  intro u v ht
  have hsplit := h (s ++ u) v (by rw [ht, List.append_assoc])
  simpa only [List.reverse_append, List.append_assoc] using hsplit

theorem AtSigmas.tail {c : Char} (h : AtSigmas R (c :: s) b a b' a') :
    AtSigmas R s (c :: b) a (c :: b') a' :=
  AtSigmas.right (s := [c]) h

theorem AtSigmas.head (h : AtSigmas R ('Σ' :: s) b a b' a') :
    R (endsWord b (s ++ a)) (endsWord b' (s ++ a')) := h [] s rfl

theorem lowerBetween_congr (h : AtSigmas (· = ·) s b a b' a') :
    lowerBetween b s a = lowerBetween b' s a' := by
  induction s generalizing b b' with
  | nil => rfl
  | cons c s ih =>
    rw [lowerBetween, lowerBetween, ih h.tail]
    by_cases hc : c = 'Σ'
    · subst hc
      have hends : endsWord b (s ++ a) = endsWord b' (s ++ a') := h.head
      rw [hends]
    · rw [if_neg hc, if_neg hc]

end

theorem Steady.lowerBetween_eq {s : List Char} (h : Steady s) (p q : List Char) :
    lowerBetween p s q = lowerRest [] s := by
  rw [← lowerBetween_nil_right]
  refine lowerBetween_congr fun u v hs => ?_
  rw [(h u v hs).endsWord_append, List.append_nil, List.append_nil]

/-! ## Counting sigmas -/

/-- The small sigma at the end of a word, and elsewhere. -/
def sigma (final : Bool) : Char := if final then 'ς' else 'σ'

theorem lowerBetween_sigma (before rest after : List Char) :
    lowerBetween before ('Σ' :: rest) after =
      [sigma (endsWord before (rest ++ after))] ++ lowerBetween ('Σ' :: before) rest after := rfl

theorem count_sigma_singleton (k final : Bool) :
    [sigma final].count (sigma k) = if final = k then 1 else 0 := by
  cases k <;> cases final <;> decide

section

variable {s b a b' a' : List Char} {k : Bool}

/-- A form occurs at most as often where no other sigmas of a text have it. -/
theorem count_sigma_le (h : AtSigmas (fun x y => x = k → y = k) s b a b' a') :
    (lowerBetween b s a).count (sigma k) ≤ (lowerBetween b' s a').count (sigma k) := by
  induction s generalizing b b' with
  | nil => exact Nat.le_refl _
  | cons c s ih =>
    have hrest := ih h.tail
    by_cases hc : c = 'Σ'
    · subst hc
      have hends : endsWord b (s ++ a) = k → endsWord b' (s ++ a') = k := h.head
      rw [lowerBetween_sigma, lowerBetween_sigma, List.count_append, List.count_append,
        count_sigma_singleton, count_sigma_singleton]
      refine Nat.add_le_add ?_ hrest
      split
      · next he => rw [if_pos (hends he)]
      · exact Nat.zero_le _
    · rw [lowerBetween, lowerBetween, if_neg hc, if_neg hc, List.count_append, List.count_append]
      exact Nat.add_le_add_left hrest _

/-- It occurs less often if, besides, some sigma loses it. -/
theorem count_sigma_lt (h : AtSigmas (fun x y => x = k → y = k) s b a b' a') {u v : List Char}
    (hs : s = u ++ 'Σ' :: v) (hne : endsWord (u.reverse ++ b) (v ++ a) ≠ k)
    (he : endsWord (u.reverse ++ b') (v ++ a') = k) :
    (lowerBetween b s a).count (sigma k) < (lowerBetween b' s a').count (sigma k) := by
  subst hs
  have hu := count_sigma_le h.left
  have hv := count_sigma_le h.right.tail
  rw [lowerBetween_append, lowerBetween_append, lowerBetween_sigma, lowerBetween_sigma]
  simp only [List.count_append, count_sigma_singleton, if_neg hne, if_pos he]
  omega

end

/-- A text is lost between two others that lower to no sigma of a form, when amid them one of its
sigmas loses the form and none takes it. -/
theorem not_infix_of_lost {p s q : List Char} {k : Bool}
    (hp : sigma k ∉ lowerBetween [] p (s ++ q))
    (hq : sigma k ∉ lowerRest (s.reverse ++ p.reverse) q)
    (h : AtSigmas (fun x y => x = k → y = k) s p.reverse q [] []) {u v : List Char}
    (hs : s = u ++ 'Σ' :: v) (hne : endsWord (u.reverse ++ p.reverse) (v ++ q) ≠ k)
    (he : endsWord (u.reverse ++ []) (v ++ []) = k) :
    ¬ lowerRest [] s <:+: lowerRest [] (p ++ s ++ q) := by
  intro hinfix
  have hle := hinfix.sublist.count_le (sigma k)
  have hlt := count_sigma_lt h hs hne he
  rw [lowerRest_within, List.count_append, List.count_append, List.count_eq_zero_of_not_mem hp,
    List.count_eq_zero_of_not_mem hq, ← lowerBetween_nil_right [] s] at hle
  omega

/-! ## Parts of texts -/

theorem startsCased_letter : startsCased ['a'] = true := by decide +kernel

/-- Where nothing after a final sigma tells whether the word goes on, a letter after the text takes
the final form away. -/
theorem not_infix_before_letter {u v : List Char} (hv : Ignorable v)
    (hu : startsCased u.reverse = true) :
    ¬ lowerRest [] (u ++ 'Σ' :: v) <:+: lowerRest [] ([] ++ (u ++ 'Σ' :: v) ++ ['a']) := by
  have hlower (before : List Char) : lowerRest before ['a'] = ['a'] := rfl
  refine not_infix_of_lost (k := true) List.not_mem_nil ?_ (fun u v _ he => ?_) rfl ?_ ?_
  · rw [hlower]
    decide
  · rw [List.reverse_nil, List.append_nil] at he
    rw [List.append_nil, List.append_nil]
    exact endsWord_of_append_after he
  · simp [endsWord, startsCased_append_of_ignorable hv, startsCased_letter]
  · simp [endsWord, startsCased_of_ignorable hv, hu]

/-- Where nothing before a sigma at the end tells whether it is part of a word, a letter before the
text gives it the final form. -/
theorem not_infix_after_letter {u v : List Char} (hu : Ignorable u.reverse)
    (hv : startsCased v = false) :
    ¬ lowerRest [] (u ++ 'Σ' :: v) <:+: lowerRest [] (['a'] ++ (u ++ 'Σ' :: v) ++ []) := by
  have hlower (after : List Char) : lowerBetween [] ['a'] after = ['a'] := rfl
  refine not_infix_of_lost (k := false) ?_ List.not_mem_nil (fun u v _ he => ?_) rfl ?_ ?_
  · rw [hlower]
    decide
  · rw [List.append_nil] at he ⊢
    rw [List.append_nil]
    exact Bool.eq_false_iff.2 fun h => Bool.eq_false_iff.1 he (endsWord_append_before h _)
  · simp [endsWord, startsCased_append_of_ignorable hu, startsCased_letter, hv]
  · simp [endsWord, startsCased_of_ignorable hu]

/-- A text with a sigma that is not settled is lost beside a letter, on one side or the other. -/
theorem exists_not_infix {s : List Char} (h : ¬ Steady s) :
    ∃ p q, ¬ lowerRest [] s <:+: lowerRest [] (p ++ s ++ q) := by
  obtain ⟨u, v, rfl, hopen⟩ : ∃ u v, s = u ++ 'Σ' :: v ∧ ¬ Settled u.reverse v := by
    simpa only [Steady, not_forall, exists_prop] using h
  by_cases hfollowed : Ignorable u.reverse → startsCased v = true
  · have hleading : ¬ (Ignorable v → startsCased u.reverse = false) :=
      fun hleading => hopen ⟨hfollowed, hleading⟩
    obtain ⟨hv, hu⟩ := Classical.not_imp.1 hleading
    exact ⟨[], ['a'], not_infix_before_letter hv (Bool.not_eq_false _ ▸ hu)⟩
  · obtain ⟨hu, hv⟩ := Classical.not_imp.1 hfollowed
    exact ⟨['a'], [], not_infix_after_letter hu (Bool.not_eq_true _ ▸ hv)⟩

/-- **Lower case and parts.** The lower case of a text is within that of every text that holds it
if, and only if, all its sigmas are settled. -/
theorem toLower_infix_iff (s : String) :
    (∀ t : String, s.toList <:+: t.toList → (toLower s).toList <:+: (toLower t).toList) ↔
      Steady s.toList := by
  simp only [toLower, String.toList_ofList]
  constructor
  · intro h
    by_contra hn
    obtain ⟨p, q, hno⟩ := exists_not_infix hn
    have hpart := h (String.ofList (p ++ s.toList ++ q))
    rw [String.toList_ofList] at hpart
    exact hno (hpart (List.infix_append p s.toList q))
  · rintro h t ⟨p, q, ht⟩
    rw [← ht, lowerRest_within, h.lowerBetween_eq]
    exact List.infix_append ..

end PromptGraph.Text
