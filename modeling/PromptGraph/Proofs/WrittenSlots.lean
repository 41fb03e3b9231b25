import PromptGraph.Document.NodeId
import PromptGraph.Proofs.Trimming

/-!
# Slots as they are written

`WritesNumber s n` says that `s` writes `n` in digits, with a plus sign or none before them and
blanks around. Just the texts that write a number of 32 bits are read as slots
(`readSlot?_eq_some_iff`); among them is the decimal form of the number (`readSlot?_toString`).
-/

namespace PromptGraph.Text

/-- The text writes the number: digits, after a plus sign or none, with blanks around. -/
def WritesNumber (s : String) (n : Nat) : Prop :=
  ∃ front sign digits back, s.toList = front ++ (sign ++ digits) ++ back ∧
    (∀ c ∈ front, isBlank c = true) ∧ (∀ c ∈ back, isBlank c = true) ∧
    (sign = [] ∨ sign = ['+']) ∧ digits ≠ [] ∧ (∀ c ∈ digits, c.isDigit = true) ∧
    n = Nat.ofDigitChars 10 digits 0

theorem isBlank_of_isDigit {c : Char} (h : c.isDigit = true) : isBlank c = false := by
  have hrange : 48 ≤ c.toNat ∧ c.toNat ≤ 57 := by
    simp only [Char.isDigit, Bool.and_eq_true, decide_eq_true_eq] at h
    exact h
  have hblank : ∀ n ≤ 57, 48 ≤ n → blanks.contains n = false := by decide
  exact hblank c.toNat hrange.2 hrange.1

theorem readNat?_eq_some_iff {cs : List Char} {n : Nat} : readNat? cs = some n ↔
    cs ≠ [] ∧ (∀ c ∈ cs, c.isDigit = true) ∧ n = Nat.ofDigitChars 10 cs 0 := by
  have hd : cs.all isDigit = true ↔ ∀ c ∈ cs, c.isDigit = true := List.all_eq_true
  rw [readNat?, Option.ite_none_right_eq_some, hd, Option.some.injEq, and_assoc, @eq_comm _ n]
  rfl

/-- What follows a plus sign, if there is one. -/
def unsigned (cs : List Char) : List Char :=
  match cs with
  | '+' :: rest => rest
  | _ => cs

theorem eq_append_unsigned (cs : List Char) :
    ∃ sign, (sign = [] ∨ sign = ['+']) ∧ cs = sign ++ unsigned cs := by
  unfold unsigned
  split
  · exact ⟨['+'], .inr rfl, rfl⟩
  · exact ⟨[], .inl rfl, rfl⟩

theorem unsigned_append {sign digits : List Char} (hs : sign = [] ∨ sign = ['+'])
    (hd : ∀ c ∈ digits, c.isDigit = true) : unsigned (sign ++ digits) = digits := by
  rcases hs with rfl | rfl
  · -- a text of digits does not start with the sign
    cases digits with
    | nil => rfl
    | cons c digits =>
      rw [List.nil_append, unsigned]
      rintro _ he
      cases he
      exact absurd (hd '+' List.mem_cons_self) (by decide)
  · rfl

theorem trimmed_digits {sign digits : List Char} (hs : sign = [] ∨ sign = ['+'])
    (hne : digits ≠ []) (hd : ∀ c ∈ digits, c.isDigit = true) :
    Trimmed isBlank (sign ++ digits) := by
  refine ⟨fun c hc => ?_, fun c hc => ?_⟩
  · rcases hs with rfl | rfl
    · exact isBlank_of_isDigit (hd c (List.mem_of_mem_head? hc))
    · obtain rfl : '+' = c := by simpa using hc
      decide
  · rw [List.getLast?_append_of_ne_nil _ hne] at hc
    exact isBlank_of_isDigit (hd c (List.mem_of_getLast? hc))

/-- **Slots are read exactly** where they are written as texts: from the texts that write a number
of 32 bits. -/
theorem readSlot?_eq_some_iff {s : String} {n : Nat} :
    readSlot? s = some n ↔ WritesNumber s n ∧ n < slotLimit := by
  have hread : readSlot? s =
      (readNat? (unsigned (trimWhere isBlank s.toList))).filter (· < slotLimit) := rfl
  rw [hread, Option.filter_eq_some_iff, decide_eq_true_eq, readNat?_eq_some_iff]
  refine and_congr_left fun _ => ⟨?_, ?_⟩
  · rintro ⟨hne, hd, hn⟩
    obtain ⟨front, back, hf, hb, he⟩ := eq_append_trimWhere isBlank s.toList
    obtain ⟨sign, hs, ht⟩ := eq_append_unsigned (trimWhere isBlank s.toList)
    exact ⟨front, sign, _, back, ht ▸ he, hf, hb, hs, hne, hd, hn⟩
  · rintro ⟨front, sign, digits, back, he, hf, hb, hs, hne, hd, hn⟩
    rw [he, trimWhere_append hf (trimmed_digits hs hne hd) hb, unsigned_append hs hd]
    exact ⟨hne, hd, hn⟩

theorem writesNumber_toString (n : Nat) : WritesNumber (toString n) n := by
  refine ⟨[], [], Nat.toDigits 10 n, [], by simp, by simp, by simp, .inl rfl,
    Nat.toDigits_ne_nil, fun c hc => Nat.isDigit_of_mem_toDigits (by omega) (by omega) hc, ?_⟩
  exact Nat.ofDigitChars_ten_toDigits.symm

theorem toString_inj {m n : Nat} : toString m = toString n ↔ m = n := by
  refine ⟨fun h => ?_, congrArg toString⟩
  have hd := congrArg (fun s : String => Nat.ofDigitChars 10 s.toList 0) h
  simpa using hd

theorem readSlot?_toString {n : Nat} (h : n < slotLimit) : readSlot? (toString n) = some n :=
  readSlot?_eq_some_iff.2 ⟨writesNumber_toString n, h⟩

end PromptGraph.Text
