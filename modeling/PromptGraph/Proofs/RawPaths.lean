import PromptGraph.Files.RawPath

/-!
# Paths that are texts

A character is read back from the bytes that write it, whatever follows (`readChars_encoded`). So a
path that is a text is shown as it is, and is told apart from every other text by what is shown.
-/

namespace PromptGraph

namespace Text

section

variable {b : UInt8} {rest : List UInt8}

theorem readChars_ascii (h : b.toNat < 0x80) :
    readChars none (b :: rest) = some (Char.ofNat b.toNat) :: readChars none rest := by
  rw [readChars, readByte, startByte, if_pos h]
  rfl

theorem readChars_begin (h : 0x80 ≤ b.toNat) {p : PartialChar} (hb : begin? b.toNat = some p) :
    readChars none (b :: rest) = readChars (some p) rest := by
  rw [readChars, readByte, startByte, if_neg (by omega), hb]
  rfl

variable {value low high : Nat}

theorem readChars_more {more : Nat} (h : low ≤ b.toNat ∧ b.toNat ≤ high) :
    readChars (some ⟨value, more + 1, low, high⟩) (b :: rest) =
      readChars (some ⟨64 * value + (b.toNat - 0x80), more, 0x80, 0xBF⟩) rest := by
  rw [readChars, readByte, if_pos h]
  rfl

theorem readChars_last (h : low ≤ b.toNat ∧ b.toNat ≤ high) :
    readChars (some ⟨value, 0, low, high⟩) (b :: rest) =
      some (Char.ofNat (64 * value + (b.toNat - 0x80))) :: readChars none rest := by
  rw [readChars, readByte, if_pos h]
  rfl

end

theorem toNat_ofNat_of_lt {n : Nat} (h : n < 256) : (UInt8.ofNat n).toNat = n :=
  Nat.mod_eq_of_lt h

theorem begin?_of_two {v : Nat} (hlo : 0x7F < v) (hhi : v ≤ 0x7FF) :
    begin? (v / 64 % 32 + 192) = some ⟨v / 64, 0, 0x80, 0xBF⟩ := by
  have hvalue : v / 64 % 32 + 192 - 0xC0 = v / 64 := by omega
  rw [begin?, if_pos (by omega), hvalue]

/-- The second byte of three keeps to the range that the first one leaves it: no character is
written with more bytes than it needs, and no surrogate is. -/
theorem begin?_of_three {v : Nat} (hlo : 0x7FF < v) (hhi : v ≤ 0xFFFF) (hv : v.isValidChar) :
    ∃ low high, begin? (v / 4096 % 16 + 224) = some ⟨v / 4096, 1, low, high⟩ ∧
      low ≤ v / 64 % 64 + 128 ∧ v / 64 % 64 + 128 ≤ high := by
  have hvalue : v / 4096 % 16 + 224 - 0xE0 = v / 4096 := by omega
  unfold Nat.isValidChar at hv
  unfold begin?
  rw [hvalue, if_neg (by omega)]
  split
  · exact ⟨_, _, rfl, by omega, by omega⟩
  · split
    · exact ⟨_, _, rfl, by omega, by omega⟩
    · rw [if_pos (by omega)]
      exact ⟨_, _, rfl, by omega, by omega⟩

theorem begin?_of_four {v : Nat} (hlo : 0xFFFF < v) (hhi : v < 0x110000) :
    ∃ low high, begin? (v / 262144 % 8 + 240) = some ⟨v / 262144, 2, low, high⟩ ∧
      low ≤ v / 4096 % 64 + 128 ∧ v / 4096 % 64 + 128 ≤ high := by
  have hvalue : v / 262144 % 8 + 240 - 0xF0 = v / 262144 := by omega
  unfold begin?
  rw [hvalue, if_neg (by omega), if_neg (by omega), if_neg (by omega), if_neg (by omega)]
  split
  · exact ⟨_, _, rfl, by omega, by omega⟩
  · split
    · exact ⟨_, _, rfl, by omega, by omega⟩
    · rw [if_pos (by omega)]
      exact ⟨_, _, rfl, by omega, by omega⟩

/-- **A character is read back** from the bytes that write it. -/
theorem readChars_encoded (c : Char) (rest : List UInt8) :
    readChars none (String.utf8EncodeChar c ++ rest) = some c :: readChars none rest := by
  have hc : Char.ofNat c.val.toNat = c := Char.ofNat_toNat c
  have hv : c.val.toNat.isValidChar := c.valid
  unfold String.utf8EncodeChar
  dsimp only
  generalize c.val.toNat = v at hc hv ⊢
  have hmax : v < 0x110000 := by
    unfold Nat.isValidChar at hv
    omega
  have hdigit (n : Nat) : (UInt8.ofNat (n % 64 + 128)).toNat = n % 64 + 128 :=
    toNat_ofNat_of_lt (by omega)
  split
  · have hb : (UInt8.ofNat v).toNat = v := toNat_ofNat_of_lt (by omega)
    rw [List.singleton_append, readChars_ascii (by omega), hb, hc]
  split
  · have hb : (UInt8.ofNat (v / 64 % 32 + 192)).toNat = v / 64 % 32 + 192 :=
      toNat_ofNat_of_lt (by omega)
    have hbegin := begin?_of_two (v := v) (by omega) (by omega)
    have hvalue : 64 * (v / 64) + (v % 64 + 128 - 0x80) = v := by omega
    rw [List.cons_append, readChars_begin (by omega) (hb ▸ hbegin), List.singleton_append,
      readChars_last (by rw [hdigit]; omega), hdigit, hvalue, hc]
  split
  · have hb : (UInt8.ofNat (v / 4096 % 16 + 224)).toNat = v / 4096 % 16 + 224 :=
      toNat_ofNat_of_lt (by omega)
    obtain ⟨low, high, hbegin, hrange⟩ := begin?_of_three (by omega) (by omega) hv
    have hvalue : 64 * (64 * (v / 4096) + (v / 64 % 64 + 128 - 0x80)) + (v % 64 + 128 - 0x80) =
        v := by omega
    rw [List.cons_append, readChars_begin (by omega) (hb ▸ hbegin), List.cons_append,
      readChars_more (by rwa [hdigit]), hdigit, List.singleton_append,
      readChars_last (by rw [hdigit]; omega), hdigit, hvalue, hc]
  · have hb : (UInt8.ofNat (v / 262144 % 8 + 240)).toNat = v / 262144 % 8 + 240 :=
      toNat_ofNat_of_lt (by omega)
    obtain ⟨low, high, hbegin, hrange⟩ := begin?_of_four (by omega) hmax
    have hvalue : 64 * (64 * (64 * (v / 262144) + (v / 4096 % 64 + 128 - 0x80)) +
        (v / 64 % 64 + 128 - 0x80)) + (v % 64 + 128 - 0x80) = v := by omega
    rw [List.cons_append, readChars_begin (by omega) (hb ▸ hbegin), List.cons_append,
      readChars_more (by rwa [hdigit]), hdigit, List.cons_append,
      readChars_more (by rw [hdigit]; omega), hdigit, List.singleton_append,
      readChars_last (by rw [hdigit]; omega), hdigit, hvalue, hc]

theorem readChars_flatMap (cs : List Char) :
    readChars none (cs.flatMap String.utf8EncodeChar) = cs.map some := by
  induction cs with
  | nil => rfl
  | cons c cs ih => rw [List.flatMap_cons, readChars_encoded, ih, List.map_cons]

end Text

namespace RawPath

@[simp] theorem display_ofText (s : String) : (ofText s).display = s := by
  rw [display, ofText, Text.readChars_flatMap, List.map_map]
  exact (congrArg String.ofList (List.map_id' _)).trans s.ofList_toList

@[simp] theorem text?_ofText (s : String) : (ofText s).text? = some s := by
  have hall : (s.toList.map some).mapM id = some s.toList :=
    List.mapM_map.trans (List.mapM_pure.trans (congrArg some (List.map_id' _)))
  rw [text?, ofText, Text.readChars_flatMap, hall, Option.map_some, s.ofList_toList]

end RawPath

@[simp] theorem FileTree.readRaw_ofText (t : FileTree) (path : String) :
    t.readRaw path = t.readText path := by
  rw [readRaw, RawPath.text?_ofText]

end PromptGraph
