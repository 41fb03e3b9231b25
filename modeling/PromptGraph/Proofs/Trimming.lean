import Mathlib.Data.List.DropRight
import PromptGraph.Text.Blank

/-!
# Trimmed texts

Trimming splits a text in three, what is dropped on either side and a text that is `Trimmed`
(`eq_append_trimWhere`, `trimmed_trimWhere`), and there is no other way to split it so
(`trimWhere_append`).
-/

namespace PromptGraph.Text

/-- Neither end of the text satisfies `p`. -/
def Trimmed (p : Char → Bool) (cs : List Char) : Prop :=
  (∀ c ∈ cs.head?, p c = false) ∧ ∀ c ∈ cs.getLast?, p c = false

instance (p : Char → Bool) (cs : List Char) : Decidable (Trimmed p cs) :=
  @instDecidableAnd _ _ (Option.decidableForallMem cs.head?) (Option.decidableForallMem cs.getLast?)

variable {p : Char → Bool} {cs : List Char}

theorem trimmed_reverse : Trimmed p cs.reverse ↔ Trimmed p cs := by
  rw [Trimmed, Trimmed, List.head?_reverse, List.getLast?_reverse, and_comm]

theorem dropWhile_eq_self (h : ∀ c ∈ cs.head?, p c = false) : cs.dropWhile p = cs := by
  cases cs with
  | nil => rfl
  | cons c cs => exact List.dropWhile_cons_of_neg (by simp [h c rfl])

theorem trimWhere_append {front back : List Char} (hf : ∀ c ∈ front, p c = true)
    (h : Trimmed p cs) (hb : ∀ c ∈ back, p c = true) :
    trimWhere p (front ++ cs ++ back) = cs := by
  have hback : back.dropWhile p = [] := List.dropWhile_eq_nil_iff.2 hb
  have hdrop : (front ++ cs ++ back).dropWhile p = if cs = [] then [] else cs ++ back := by
    rw [List.append_assoc, List.dropWhile_append_of_pos hf]
    cases cs with
    | nil => exact hback
    | cons c cs => exact List.dropWhile_cons_of_neg (by simp [h.1 c rfl])
  rw [trimWhere, hdrop]
  split
  · next hnil => rw [hnil]; rfl
  · rw [List.reverse_append, List.dropWhile_append_of_pos (by simpa using hb),
      dropWhile_eq_self (trimmed_reverse.2 h).1, List.reverse_reverse]

theorem eq_append_trimWhere (p : Char → Bool) (cs : List Char) : ∃ front back,
    (∀ c ∈ front, p c = true) ∧ (∀ c ∈ back, p c = true) ∧
      cs = front ++ trimWhere p cs ++ back := by
  refine ⟨cs.takeWhile p, ((cs.dropWhile p).reverse.takeWhile p).reverse,
    fun c hc => (List.mem_takeWhile_imp hc), fun c hc => ?_, ?_⟩
  · exact List.mem_takeWhile_imp (List.mem_reverse.1 hc)
  · rw [trimWhere, List.append_assoc, ← List.reverse_append, List.takeWhile_append_dropWhile,
      List.reverse_reverse, List.takeWhile_append_dropWhile]

theorem trimWhere_sublist (p : Char → Bool) (cs : List Char) : (trimWhere p cs).Sublist cs := by
  obtain ⟨front, back, -, -, he⟩ := eq_append_trimWhere p cs
  have hs : (trimWhere p cs).Sublist (front ++ trimWhere p cs ++ back) :=
    (List.sublist_append_right _ _).trans (List.sublist_append_left _ _)
  rwa [← he] at hs

theorem head?_dropWhile {c : Char} (h : (cs.dropWhile p).head? = some c) : p c = false := by
  have hnot := List.head?_dropWhile_not p cs
  rwa [h] at hnot

theorem trimmed_trimWhere (p : Char → Bool) (cs : List Char) : Trimmed p (trimWhere p cs) := by
  refine ⟨fun c hc => ?_, fun c hc => ?_⟩
  · -- what is left at the front when the back is trimmed was there before
    rw [trimWhere, List.head?_reverse] at hc
    have hlast : (cs.dropWhile p).reverse.getLast? = some c := by
      rw [← List.takeWhile_append_dropWhile (p := p) (l := (cs.dropWhile p).reverse),
        List.getLast?_append, hc, Option.some_or]
    rw [List.getLast?_reverse] at hlast
    exact head?_dropWhile hlast
  · rw [trimWhere, List.getLast?_reverse] at hc
    exact head?_dropWhile hc

theorem trimWhere_eq_self_iff : trimWhere p cs = cs ↔ Trimmed p cs := by
  refine ⟨fun h => h ▸ trimmed_trimWhere p cs, fun h => ?_⟩
  have hnone : ∀ c ∈ ([] : List Char), p c = true := by simp
  simpa using trimWhere_append hnone h hnone

theorem reverse_trimWhere (p : Char → Bool) (cs : List Char) :
    (trimWhere p cs).reverse = trimWhere p cs.reverse := by
  obtain ⟨front, back, hf, hb, he⟩ := eq_append_trimWhere p cs
  have hr : cs.reverse = back.reverse ++ (trimWhere p cs).reverse ++ front.reverse := by
    conv_lhs => rw [he]
    simp
  rw [hr, trimWhere_append (by simpa using hb) (trimmed_reverse.2 (trimmed_trimWhere p cs))
    (by simpa using hf)]

theorem head?_trimWhere_eq_some_iff {c : Char} (hc : p c = false) :
    (trimWhere p cs).head? = some c ↔
      ∃ front rest, (∀ d ∈ front, p d = true) ∧ cs = front ++ c :: rest := by
  constructor
  · intro h
    obtain ⟨front, back, hf, -, he⟩ := eq_append_trimWhere p cs
    obtain ⟨rest, hrest⟩ := List.head?_eq_some_iff.1 h
    exact ⟨front, rest ++ back, hf, by rw [hrest] at he; simpa using he⟩
  · rintro ⟨front, rest, hf, rfl⟩
    have hdrop : (front ++ c :: rest).dropWhile p = c :: rest := by
      rw [List.dropWhile_append_of_pos hf]
      exact List.dropWhile_cons_of_neg (by simp [hc])
    rw [trimWhere, hdrop, List.reverse_cons, List.dropWhile_append]
    split <;> simp [hc]

end PromptGraph.Text
