import PromptGraph.Compile.Align
import PromptGraph.Proofs.Maps

/-!
# What alignment deals out

`Takes tag v` says that an input with tag `tag` takes a value of the kind of `v`.
`Dealt first inputs values picks pairs` says, without running the alignment, that `pairs` deals
values from position `first` on to the first few of `inputs`: `picks` are the positions of the
values dealt, each the least one after the picks before it that fits, and no value that is left
fits the first input that goes without. `align_entries_iff` says that alignment deals exactly so.

A deal to longer lists goes on where the deal to the shorter ones ended (`deal_append_inputs`,
`deal_append_values`), so that no input is given anything else (`align_extended`).
-/

namespace PromptGraph

theorem Json.isText_iff {v : Json} : v.isText = true ↔ ∃ s, v = .text s := by
  cases v <;> simp [isText, asText?]

theorem Json.isInteger_iff {v : Json} : v.isInteger = true ↔ ∃ i, v = .int i := by
  rcases v with _ | _ | (_ | _) | _ | _ | _ <;> simp [isInteger]

theorem Json.isNumber_iff {v : Json} : v.isNumber = true ↔ ∃ n, v = .number n := by
  cases v <;> simp [isNumber]

theorem Json.isBool_iff {v : Json} : v.isBool = true ↔ ∃ b, v = .bool b := by
  cases v <;> simp [isBool]

namespace Align

/-- The kind of value that an input with a tag takes. -/
inductive Takes : Option TypeTag → Json → Prop where
  | choice (s : String) : Takes none (.text s)
  | text (s : String) : Takes (some .text) (.text s)
  | combo (s : String) : Takes (some .combo) (.text s)
  | int (i : Int) : Takes (some .int) (.number (.int i))
  | float (n : Number) : Takes (some .float) (.number n)
  | bool (b : Bool) : Takes (some .bool) (.bool b)

theorem accepts_iff {tag : Option TypeTag} {v : Json} :
    TypeTag.accepts tag v = true ↔ Takes tag v := by
  constructor
  · intro h
    match tag with
    | none =>
      obtain ⟨s, rfl⟩ := Json.isText_iff.1 h
      exact .choice s
    | some .text =>
      obtain ⟨s, rfl⟩ := Json.isText_iff.1 h
      exact .text s
    | some .combo =>
      obtain ⟨s, rfl⟩ := Json.isText_iff.1 h
      exact .combo s
    | some .int =>
      obtain ⟨i, rfl⟩ := Json.isInteger_iff.1 h
      exact .int i
    | some .float =>
      obtain ⟨n, rfl⟩ := Json.isNumber_iff.1 h
      exact .float n
    | some .bool =>
      obtain ⟨b, rfl⟩ := Json.isBool_iff.1 h
      exact .bool b
    | some (.other _) => cases h
  · rintro (_ | _ | _ | _ | _ | _) <;> rfl

theorem Takes.isScalar {tag : Option TypeTag} {v : Json} (h : Takes tag v) : v.isScalar = true := by
  cases h <;> rfl

/-- Position `i` holds a value that the input takes. -/
def FitsAt (values : List Json) (s : InputSpec) (i : Nat) : Prop :=
  ∃ v, values[i]? = some v ∧ Takes s.tag v

/-- Position `i` is not before `first` and comes after the first `j` picks. -/
def Beyond (first : Nat) (picks : List Nat) (j i : Nat) : Prop :=
  first ≤ i ∧ ∀ p ∈ picks.take j, p < i

/-- `pairs` deals values to the first few of `inputs`, at the positions `picks`. -/
structure Dealt (first : Nat) (inputs : List InputSpec) (values : List Json) (picks : List Nat)
    (pairs : List (String × Json)) : Prop where
  /-- No value is dealt twice. -/
  increasing : picks.Pairwise (· < ·)
  few : picks.length ≤ inputs.length
  names : pairs.map Prod.fst = (inputs.take picks.length).map InputSpec.name
  dealt : pairs.map (fun p => some p.2) = picks.map fun i => values[i]?
  /-- Each input has the first value that fits it, after those dealt before. -/
  earliest : ∀ j i s, picks[j]? = some i → inputs[j]? = some s →
    Beyond first picks j i ∧ FitsAt values s i ∧
      ∀ k < i, Beyond first picks j k → ¬ FitsAt values s k
  /-- The first input without a value finds none. -/
  exhausted : ∀ s, inputs[picks.length]? = some s →
    ∀ k, Beyond first picks picks.length k → ¬ FitsAt values s k

/-! ## The search for one value -/

theorem not_fitsAt {values : List Json} {s : InputSpec} {k : Nat} {v : Json}
    (hv : values[k]? = some v) (h : TypeTag.accepts s.tag v = false) : ¬ FitsAt values s k := by
  rintro ⟨u, hu, ht⟩
  rw [hv] at hu
  cases hu
  rw [accepts_iff.2 ht] at h
  cases h

theorem all_of_dropWhile_eq_nil {α : Type} {p : α → Bool} {xs : List α}
    (h : xs.dropWhile p = []) : ∀ x ∈ xs, p x = true := by
  induction xs with
  | nil => simp
  | cons x xs ih =>
    cases hp : p x with
    | false => rw [List.dropWhile_cons_of_neg (by simp [hp])] at h; cases h
    | true =>
      rw [List.dropWhile_cons_of_pos hp] at h
      exact List.forall_mem_cons.2 ⟨hp, ih h⟩

theorem dropWhile_eq_cons {α : Type} {p : α → Bool} {xs rest : List α} {v : α}
    (h : xs.dropWhile p = v :: rest) :
    ∃ i, xs[i]? = some v ∧ p v = false ∧ rest = xs.drop (i + 1) ∧
      ∀ k < i, ∃ u, xs[k]? = some u ∧ p u = true := by
  induction xs with
  | nil => simp at h
  | cons x xs ih =>
    cases hp : p x with
    | false =>
      rw [List.dropWhile_cons_of_neg (by simp [hp])] at h
      cases h
      exact ⟨0, rfl, hp, rfl, fun k hk => absurd hk (Nat.not_lt_zero k)⟩
    | true =>
      rw [List.dropWhile_cons_of_pos hp] at h
      obtain ⟨i, hv, hf, hr, hb⟩ := ih h
      refine ⟨i + 1, hv, hf, hr, fun k hk => ?_⟩
      cases k with
      | zero => exact ⟨x, rfl, hp⟩
      | succ k => exact hb k (by omega)

theorem search_none {values : List Json} {s : InputSpec} {first : Nat}
    (h : (values.drop first).dropWhile (fun v => !TypeTag.accepts s.tag v) = []) :
    ∀ k, first ≤ k → ¬ FitsAt values s k := by
  rintro k hk ⟨v, hv, ht⟩
  have hmem : v ∈ values.drop first := by
    refine List.mem_of_getElem? (i := k - first) ?_
    rwa [List.getElem?_drop, Nat.add_sub_cancel' hk]
  have := all_of_dropWhile_eq_nil h v hmem
  simp [accepts_iff.2 ht] at this

theorem search_some {values rest : List Json} {s : InputSpec} {first : Nat} {v : Json}
    (h : (values.drop first).dropWhile (fun v => !TypeTag.accepts s.tag v) = v :: rest) :
    ∃ i, first ≤ i ∧ values[i]? = some v ∧ Takes s.tag v ∧ rest = values.drop (i + 1) ∧
      ∀ k, first ≤ k → k < i → ¬ FitsAt values s k := by
  obtain ⟨i, hv, hf, hr, hb⟩ := dropWhile_eq_cons h
  refine ⟨first + i, by omega, by simpa using hv, accepts_iff.1 (by simpa using hf), ?_, ?_⟩
  · rw [hr, List.drop_drop, Nat.add_assoc]
  · intro k hk hki
    obtain ⟨u, hu, hp⟩ := hb (k - first) (by omega)
    rw [List.getElem?_drop, Nat.add_sub_cancel' hk] at hu
    exact not_fitsAt hu (by simpa using hp)

/-! ## The deal -/

section

variable {first : Nat} {inputs : List InputSpec} {values : List Json} {picks others : List Nat}
  {pairs rest : List (String × Json)}

theorem beyond_cons {i j k : Nat} (hi : first ≤ i) :
    Beyond first (i :: picks) (j + 1) k ↔ Beyond (i + 1) picks j k := by
  simp only [Beyond, List.take_succ_cons, List.mem_cons, forall_eq_or_imp]
  constructor
  · rintro ⟨-, h, hp⟩
    exact ⟨h, hp⟩
  · rintro ⟨h, hp⟩
    exact ⟨by omega, h, hp⟩

theorem Dealt.input_of_lt {j : Nat} (h : Dealt first inputs values picks pairs)
    (hj : j < picks.length) : ∃ s, inputs[j]? = some s :=
  ⟨_, List.getElem?_eq_getElem (Nat.lt_of_lt_of_le hj h.few)⟩

/-- The input at the head takes position `i`, the others what comes after it. -/
theorem Dealt.cons {i : Nat} {s : InputSpec} {v : Json} (hi : first ≤ i)
    (hv : values[i]? = some v) (ht : Takes s.tag v)
    (hb : ∀ k, first ≤ k → k < i → ¬ FitsAt values s k)
    (h : Dealt (i + 1) inputs values picks pairs) :
    Dealt first (s :: inputs) values (i :: picks) ((s.name, v) :: pairs) where
  increasing := by
    refine List.pairwise_cons.2 ⟨fun p hp => ?_, h.increasing⟩
    obtain ⟨j, hj⟩ := List.mem_iff_getElem?.1 hp
    obtain ⟨t, hs⟩ := h.input_of_lt (List.getElem?_eq_some_iff.1 hj).1
    exact (h.earliest j p t hj hs).1.1
  few := Nat.succ_le_succ h.few
  names := by simp [h.names]
  dealt := by simp [h.dealt, hv]
  earliest := by
    intro j p t hp ht'
    cases j with
    | zero =>
      cases hp
      cases ht'
      exact ⟨⟨hi, by simp⟩, ⟨v, hv, ht⟩, fun k hk hk' => hb k hk'.1 hk⟩
    | succ j =>
      obtain ⟨h1, h2, h3⟩ := h.earliest j p t hp ht'
      exact ⟨(beyond_cons hi).2 h1, h2, fun k hk hk' => h3 k hk ((beyond_cons hi).1 hk')⟩
  exhausted := fun t ht' k hk => h.exhausted t ht' k ((beyond_cons hi).1 hk)

theorem deal_dealt (values : List Json) (inputs : List InputSpec) (first : Nat) :
    ∃ picks, Dealt first inputs values picks (deal inputs (values.drop first)) := by
  induction inputs generalizing first with
  | nil => exact ⟨[], by simp, by simp, rfl, rfl, by simp, by simp⟩
  | cons s inputs ih =>
    cases hd : (values.drop first).dropWhile fun v => !TypeTag.accepts s.tag v with
    | nil =>
      refine ⟨[], by simp, by simp, by simp [deal, hd], by simp [deal, hd], by simp, ?_⟩
      intro t ht k hk
      cases ht
      exact search_none hd k hk.1
    | cons v rest =>
      obtain ⟨i, hi, hv, ht, hr, hb⟩ := search_some hd
      obtain ⟨picks, h⟩ := ih (i + 1)
      refine ⟨i :: picks, ?_⟩
      rw [deal, hd, hr]
      exact h.cons hi hv ht hb

/-! ## There is only one way to deal -/

/-- Two deals from the same position that agree on the first `j` picks agree on the next one. -/
theorem Dealt.next_eq {j i : Nat} (h : Dealt first inputs values picks pairs)
    (h' : Dealt first inputs values others rest) (hj : picks.take j = others.take j)
    (hi : picks[j]? = some i) : others[j]? = some i := by
  obtain ⟨s, hs⟩ := h.input_of_lt (List.getElem?_eq_some_iff.1 hi).1
  have hsame : ∀ k, Beyond first picks j k ↔ Beyond first others j k := by
    intro k; rw [Beyond, Beyond, hj]
  obtain ⟨hbeyond, hfits, hleast⟩ := h.earliest j i _ hi hs
  cases ho : others[j]? with
  | none =>
    have hle : others.length ≤ j := List.getElem?_eq_none_iff.1 ho
    have hlen : others.length = j := by
      have hmin := congrArg List.length hj
      have hlt : j < picks.length := (List.getElem?_eq_some_iff.1 hi).1
      rw [List.length_take, List.length_take] at hmin
      omega
    exact absurd hfits (h'.exhausted _ (hlen ▸ hs) i (hlen ▸ (hsame i).1 hbeyond))
  | some i' =>
    obtain ⟨hbeyond', hfits', hleast'⟩ := h'.earliest j i' _ ho hs
    rcases Nat.lt_trichotomy i i' with hlt' | rfl | hlt'
    · exact absurd hfits (hleast' i hlt' ((hsame i).1 hbeyond))
    · rfl
    · exact absurd hfits' (hleast i' hlt' ((hsame i').2 hbeyond'))

theorem Dealt.take_eq (h : Dealt first inputs values picks pairs)
    (h' : Dealt first inputs values others rest) :
    ∀ j, picks.take j = others.take j := by
  intro j
  induction j with
  | zero => simp
  | succ j ih =>
    have hnext : picks[j]? = others[j]? := by
      cases hp : picks[j]? with
      | some i => exact (h.next_eq h' ih hp).symm
      | none =>
        cases ho : others[j]? with
        | none => rfl
        | some i => exact absurd (h'.next_eq h ih.symm ho) (by simp [hp])
    rw [List.take_add_one, List.take_add_one, ih, hnext]

theorem Dealt.unique (h : Dealt first inputs values picks pairs)
    (h' : Dealt first inputs values others rest) : pairs = rest := by
  have hpicks : picks = others := by
    have := h.take_eq h' (max picks.length others.length)
    rwa [List.take_of_length_le (by omega), List.take_of_length_le (by omega)] at this
  subst hpicks
  have hfst : pairs.map Prod.fst = rest.map Prod.fst := h.names.trans h'.names.symm
  have hsnd : pairs.map Prod.snd = rest.map Prod.snd := by
    have := h.dealt.trans h'.dealt.symm
    rw [← List.map_inj_right (f := some) fun _ _ => Option.some.inj, List.map_map, List.map_map]
    exact this
  rw [← List.zip_unzip pairs, ← List.zip_unzip rest]
  simp only [List.unzip_eq_map, hfst, hsnd]

end

/-! ## Alignment -/

/-- Inputs are served in order, so that distinct names stay distinct. -/
theorem nodup_deal {inputs : List InputSpec} (h : (inputs.map InputSpec.name).Nodup)
    (values : List Json) : ((deal inputs values).map Prod.fst).Nodup := by
  obtain ⟨picks, hd⟩ := deal_dealt values inputs 0
  rw [List.drop_zero] at hd
  rw [hd.names]
  exact h.sublist ((List.take_sublist _ _).map _)

/-- Of inputs with distinct names, those that are open are dealt to as they stand. -/
theorem align_entries {specs : List InputSpec} (h : (specs.map InputSpec.name).Nodup)
    (values : List Json) (connected : String → Bool) :
    (align specs values connected).entries = deal (specs.filter (isOpen connected)) values := by
  rw [align, OrderedMap.entries_ofList]
  exact Entries.ofList_of_nodup (nodup_deal (h.sublist (List.filter_sublist.map _)) values)

/-- **Alignment is the one deal there is**: the open inputs, in order, take the first value that
fits after what the inputs before them took, until an input finds none. -/
theorem align_entries_iff {specs : List InputSpec} (h : (specs.map InputSpec.name).Nodup)
    (values : List Json) (connected : String → Bool) (pairs : List (String × Json)) :
    (∃ picks, Dealt 0 (specs.filter (isOpen connected)) values picks pairs) ↔
      (align specs values connected).entries = pairs := by
  obtain ⟨picks, hd⟩ := deal_dealt values (specs.filter (isOpen connected)) 0
  rw [List.drop_zero] at hd
  rw [align_entries h]
  constructor
  · rintro ⟨picks', h'⟩
    exact hd.unique h'
  · rintro rfl
    exact ⟨picks, hd⟩

/-- The control word after a seed is passed over, a wired input costs no value, and the last input
goes without. -/
theorem align_entries_sampler :
    let specs : List InputSpec := [⟨"model", some (.other "MODEL"), .empty⟩,
      ⟨"seed", some .int, .empty⟩, ⟨"steps", some .int, .empty⟩, ⟨"cfg", some .float, .empty⟩,
      ⟨"sampler_name", none, .empty⟩, ⟨"denoise", some .float, .empty⟩]
    let values : List Json := [.int 7, .text "randomize", .int 25, .text "euler"]
    (specs.map InputSpec.name).Nodup ∧
      ∃ picks, Dealt 0 (specs.filter (isOpen (· == "cfg"))) values picks
        [("seed", .int 7), ("steps", .int 25), ("sampler_name", .text "euler")] :=
  ⟨by decide, (align_entries_iff (by decide) _ _ _).2 (by decide)⟩

/-! ## What an input is given -/

theorem mem_deal {inputs : List InputSpec} {values : List Json} {p : String × Json}
    (h : p ∈ deal inputs values) : ∃ s ∈ inputs, s.name = p.1 ∧ Takes s.tag p.2 := by
  induction inputs generalizing values with
  | nil => cases h
  | cons s inputs ih =>
    rw [deal] at h
    split at h
    · cases h
    · next v rest hd =>
      rcases List.mem_cons.1 h with rfl | h
      · obtain ⟨-, -, hf, -, -⟩ := dropWhile_eq_cons hd
        exact ⟨s, List.mem_cons_self, rfl, accepts_iff.1 (by simpa using hf)⟩
      · obtain ⟨t, ht, hp⟩ := ih h
        exact ⟨t, List.mem_cons_of_mem _ ht, hp⟩

theorem mem_align {specs : List InputSpec} {values : List Json} {connected : String → Bool}
    {p : String × Json} (h : p ∈ (align specs values connected).entries) :
    connected p.1 = false ∧ p.2.isScalar = true := by
  obtain ⟨s, hs, he, ht⟩ := mem_deal (OrderedMap.mem_of_mem_ofList h)
  have ho := (List.mem_filter.1 hs).2
  simp only [isOpen, Bool.and_eq_true, Bool.not_eq_true', he] at ho
  exact ⟨ho.2, ht.isScalar⟩

/-! ## Longer lists -/

theorem name_mem_of_mem_deal {specs : List InputSpec} {connected : String → Bool}
    {values : List Json} {p : String × Json}
    (h : p ∈ deal (specs.filter (isOpen connected)) values) : p.1 ∈ specs.map InputSpec.name := by
  obtain ⟨s, hs, he, -⟩ := mem_deal h
  exact he ▸ List.mem_map_of_mem (List.mem_filter.1 hs).1

/-- The values that a deal does not come to. -/
def remaining : List InputSpec → List Json → List Json
  | [], values => values
  | s :: inputs, values =>
    remaining inputs (values.dropWhile fun v => !TypeTag.accepts s.tag v).tail

theorem remaining_nil (inputs : List InputSpec) : remaining inputs [] = [] := by
  induction inputs with
  | nil => rfl
  | cons s inputs ih => exact ih

theorem deal_nil (inputs : List InputSpec) : deal inputs [] = [] := by
  cases inputs <;> rfl

/-- Inputs that come later are dealt what the deal to those before them did not come to. -/
theorem deal_append_inputs (inputs more : List InputSpec) (values : List Json) :
    deal (inputs ++ more) values = deal inputs values ++ deal more (remaining inputs values) := by
  induction inputs generalizing values with
  | nil => rfl
  | cons s inputs ih =>
    rw [List.cons_append, deal, deal, remaining]
    cases values.dropWhile fun v => !TypeTag.accepts s.tag v with
    | nil => rw [List.tail_nil, remaining_nil, deal_nil, List.append_nil]
    | cons v rest => exact congrArg _ (ih rest)

/-- Values that come later are dealt to the inputs that went without. -/
theorem deal_append_values (inputs : List InputSpec) (values more : List Json) :
    deal inputs (values ++ more) =
      deal inputs values ++ deal (inputs.drop (deal inputs values).length) more := by
  induction inputs generalizing values with
  | nil => rfl
  | cons s inputs ih =>
    rw [deal, deal, List.dropWhile_append]
    cases values.dropWhile fun v => !TypeTag.accepts s.tag v with
    | nil => rfl
    | cons v rest => exact congrArg _ (ih rest)

/-- **Longer lists shift nothing.** Where inputs have distinct names, values that are appended and
inputs that are appended leave every input with what it had: the values go to inputs that had none,
and what the inputs get comes last. -/
theorem align_extended {specs others : List InputSpec}
    (h : ((specs ++ others).map InputSpec.name).Nodup) (values more : List Json)
    (connected : String → Bool) :
    (∀ name v, (align specs values connected).get? name = some v →
        (align specs (values ++ more) connected).get? name = some v) ∧
      (align specs values connected).entries <+:
        (align specs (values ++ more) connected).entries ∧
      (align (specs ++ others) values connected).entries.filter
          (fun p => p.1 ∈ specs.map InputSpec.name) = (align specs values connected).entries ∧
      (align specs values connected).entries <+:
        (align (specs ++ others) values connected).entries := by
  have happ := h
  rw [List.map_append, List.nodup_append] at happ
  obtain ⟨hspecs, -, hother⟩ := happ
  have hvalues : (align specs values connected).entries <+:
      (align specs (values ++ more) connected).entries := by
    rw [align_entries hspecs, align_entries hspecs, deal_append_values]
    exact List.prefix_append _ _
  have hinputs : (align (specs ++ others) values connected).entries =
      (align specs values connected).entries ++ deal (others.filter (isOpen connected))
        (remaining (specs.filter (isOpen connected)) values) := by
    rw [align_entries h, align_entries hspecs, List.filter_append, deal_append_inputs]
  refine ⟨fun name v hv => ?_, hvalues, ?_, hinputs ▸ List.prefix_append _ _⟩
  · exact OrderedMap.get?_of_mem (hvalues.subset (OrderedMap.mem_entries_iff.2 hv))
  · -- what is dealt goes by the names of the inputs that it is dealt to
    have hkept : ∀ p ∈ (align specs values connected).entries, p.1 ∈ specs.map InputSpec.name := by
      intro p hp
      rw [align_entries hspecs] at hp
      exact name_mem_of_mem_deal hp
    have hleft : ∀ p ∈ deal (others.filter (isOpen connected))
        (remaining (specs.filter (isOpen connected)) values), p.1 ∉ specs.map InputSpec.name :=
      fun p hp hmem => hother _ hmem _ (name_mem_of_mem_deal hp) rfl
    rw [hinputs, List.filter_append, List.filter_eq_self.2 (by simpa using hkept),
      List.filter_eq_nil_iff.2 (by simpa using hleft), List.append_nil]

/-- The steps that had no value take the one that is appended; the wired input and the one behind it
take nothing from the inputs before them. -/
theorem align_extended_sampler :
    let specs : List InputSpec := [⟨"seed", some .int, .empty⟩, ⟨"steps", some .int, .empty⟩]
    let others : List InputSpec := [⟨"cfg", some .float, .empty⟩, ⟨"denoise", some .float, .empty⟩]
    let values : List Json := [.int 7, .text "randomize"]
    let more : List Json := [.int 25]
    let few := (align specs values (· == "cfg")).entries
    let many := (align specs (values ++ more) (· == "cfg")).entries
    ((specs ++ others).map InputSpec.name).Nodup ∧
      few = [("seed", .int 7)] ∧ many = [("seed", .int 7), ("steps", .int 25)] ∧ few <+: many ∧
      (align (specs ++ others) values (· == "cfg")).entries.filter
        (fun p => p.1 ∈ specs.map InputSpec.name) = few :=
  have h := align_extended (by decide) _ _ _
  ⟨by decide, by decide, by decide, h.2.1, h.2.2.1⟩

end Align

end PromptGraph
