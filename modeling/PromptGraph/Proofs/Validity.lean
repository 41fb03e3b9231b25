import PromptGraph.Graph.Validity
import PromptGraph.Proofs.Positions

/-!
# Fit graphs

What `validate` accepts (`validate_eq_ok_iff`). Peeling leaves nothing of a graph whose nodes are
all fed by nodes of lower rank, since each round drops the lowest nodes that are left
(`RankedBy.isCyclic_eq_false`). A graph whose nodes are all fed by earlier ones is the case that
decides by itself (`validate_of_ordered`).
-/

namespace PromptGraph.Graph

theorem validate_eq_ok_iff {g : Graph} :
    g.validate = .ok () ↔ g.isEmpty = false ∧ g.danglingRefs = [] ∧ g.isCyclic = false := by
  unfold validate
  cases g.isEmpty <;> cases g.isCyclic <;> by_cases hd : g.danglingRefs = [] <;> simp [hd]

theorem Indexed.source_mem_of_validate {g : Graph} (h : Indexed g) (hv : g.validate = .ok ())
    {n : Node} (hn : n ∈ g.nodes) {i : String × Connection} (hi : i ∈ n.connections.entries) :
    i.2.source ∈ g.ids := by
  have hr : (n.id, i.1, i.2.source) ∈ g.references :=
    List.mem_flatMap.2 ⟨n, hn, List.mem_map_of_mem hi⟩
  have hd := List.filter_eq_nil_iff.1 (validate_eq_ok_iff.1 hv).2.1 _ hr
  exact h.contains_iff.1 (by simpa using hd)

/-! ## Peeling what is ranked -/

/-- What feeds a position ranks below it. -/
def RankedBy (rank : Nat → Nat) (left : List (Nat × List Nat)) : Prop :=
  ∀ e ∈ left, ∀ a ∈ e.2, rank a < rank e.1

/-- All positions are fed by smaller ones. -/
def Ordered (left : List (Nat × List Nat)) : Prop := ∀ e ∈ left, ∀ b ∈ e.2, b < e.1

instance (left : List (Nat × List Nat)) : Decidable (Ordered left) :=
  inferInstanceAs (Decidable (∀ e ∈ left, ∀ b ∈ e.2, b < e.1))

section

variable {rank : Nat → Nat} {left : List (Nat × List Nat)} (h : RankedBy rank left)

include h

theorem RankedBy.peel : RankedBy rank (peel left) := by
  rw [peel_eq]
  exact fun e he => h e (List.mem_filter.1 he).1

/-- A round drops a position of the lowest rank, at least. -/
theorem RankedBy.length_peel_lt (hne : left ≠ []) : (Graph.peel left).length < left.length := by
  rw [peel_eq]
  refine Nat.lt_of_le_of_ne (List.length_filter_le ..) fun heq => ?_
  have hall := List.length_filter_eq_length_iff.1 heq
  simp only [List.any_eq_true, List.contains_iff_mem, List.mem_map] at hall
  -- if nothing were dropped, there would be a position of lower rank to each
  have hdescent : ∀ n, ∀ e ∈ left, rank e.1 ≠ n := by
    intro n
    induction n using Nat.strongRecOn with
    | ind n ih =>
      rintro e he rfl
      obtain ⟨b, hb, e', he', rfl⟩ := hall e he
      exact ih (rank e'.1) (h e he e'.1 hb) e' he' rfl
  obtain ⟨e, he⟩ := List.exists_mem_of_ne_nil left hne
  exact hdescent (rank e.1) e he rfl

theorem RankedBy.peelTimes_eq_nil {rounds : Nat} (hr : left.length ≤ rounds) :
    peelTimes rounds left = [] := by
  induction rounds generalizing left with
  | zero => exact List.length_eq_zero_iff.1 (Nat.le_zero.1 hr)
  | succ rounds ih =>
    by_cases hne : left = []
    · subst hne
      rfl
    · have hlt := h.length_peel_lt hne
      rw [peelTimes, if_neg (Nat.ne_of_lt hlt)]
      exact ih h.peel (by omega)

end

theorem RankedBy.isCyclic_eq_false {g : Graph} {rank : Nat → Nat} (h : RankedBy rank g.feeders) :
    g.isCyclic = false := by
  have hlen : g.feeders.length ≤ g.nodes.length := by simp [feeders]
  rw [isCyclic, h.peelTimes_eq_nil hlen]
  rfl

theorem validate_of_ordered {g : Graph} (he : g.isEmpty = false) (hd : g.danglingRefs = [])
    (ho : Ordered g.feeders) : g.validate = .ok () :=
  have hr : RankedBy id g.feeders := ho
  validate_eq_ok_iff.2 ⟨he, hd, hr.isCyclic_eq_false⟩

end PromptGraph.Graph
