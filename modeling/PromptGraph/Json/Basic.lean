import PromptGraph.Entries
import PromptGraph.Numeric.Binary

/-!
# JSON values

Objects keep their keys in order, and an integer is not a floating-point number: `1` and `1.0` are
different values. `ObjectsDistinct` says that no object anywhere in a value repeats a key.
-/

namespace PromptGraph

/-- A JSON number: an integer, or a binary floating-point number of 64 bits. -/
inductive Number where
  | int (i : Int)
  | float (x : Binary)
  deriving DecidableEq, Repr

inductive Json where
  | null
  | bool (b : Bool)
  | number (n : Number)
  | text (s : String)
  | array (items : List Json)
  | object (fields : List (String × Json))
  deriving Inhabited

namespace Json

abbrev int (i : Int) : Json := .number (.int i)

abbrev nat (n : Nat) : Json := .number (.int n)

def ofText? : Option String → Json
  | some s => .text s
  | none => .null

/-! ## Equality -/

mutual

def same : Json → Json → Bool
  | .null, .null => true
  | .bool a, .bool b => a == b
  | .number a, .number b => decide (a = b)
  | .text a, .text b => a == b
  | .array xs, .array ys => sameItems xs ys
  | .object xs, .object ys => sameFields xs ys
  | _, _ => false

def sameItems : List Json → List Json → Bool
  | [], [] => true
  | x :: xs, y :: ys => same x y && sameItems xs ys
  | _, _ => false

def sameFields : List (String × Json) → List (String × Json) → Bool
  | [], [] => true
  | (k, x) :: xs, (l, y) :: ys => k == l && same x y && sameFields xs ys
  | _, _ => false

end

mutual

theorem same_refl : ∀ a : Json, same a a = true
  | .null => rfl
  | .bool _ => by simp [same]
  | .number _ => by simp [same]
  | .text _ => by simp [same]
  | .array xs => by simp [same, sameItems_refl xs]
  | .object xs => by simp [same, sameFields_refl xs]

theorem sameItems_refl : ∀ xs : List Json, sameItems xs xs = true
  | [] => rfl
  | x :: xs => by simp [sameItems, same_refl x, sameItems_refl xs]

theorem sameFields_refl : ∀ xs : List (String × Json), sameFields xs xs = true
  | [] => rfl
  | (_, x) :: xs => by simp [sameFields, same_refl x, sameFields_refl xs]

end

mutual

theorem eq_of_same : ∀ a b : Json, same a b = true → a = b
  | .null, b, h => by cases b <;> simp_all [same]
  | .bool _, b, h => by cases b <;> simp_all [same]
  | .number _, b, h => by cases b <;> simp_all [same]
  | .text _, b, h => by cases b <;> simp_all [same]
  | .array xs, b, h => by
    cases b with
    | array ys => rw [eq_of_sameItems xs ys (by simpa [same] using h)]
    | _ => simp [same] at h
  | .object xs, b, h => by
    cases b with
    | object ys => rw [eq_of_sameFields xs ys (by simpa [same] using h)]
    | _ => simp [same] at h

theorem eq_of_sameItems : ∀ xs ys : List Json, sameItems xs ys = true → xs = ys
  | [], ys, h => by cases ys <;> simp_all [sameItems]
  | x :: xs, ys, h => by
    cases ys with
    | nil => simp [sameItems] at h
    | cons y ys =>
      simp only [sameItems, Bool.and_eq_true] at h
      rw [eq_of_same x y h.1, eq_of_sameItems xs ys h.2]

theorem eq_of_sameFields : ∀ xs ys : List (String × Json), sameFields xs ys = true → xs = ys
  | [], ys, h => by cases ys <;> simp_all [sameFields]
  | (k, x) :: xs, ys, h => by
    cases ys with
    | nil => simp [sameFields] at h
    | cons p ys =>
      obtain ⟨l, y⟩ := p
      simp only [sameFields, Bool.and_eq_true, beq_iff_eq] at h
      rw [h.1.1, eq_of_same x y h.1.2, eq_of_sameFields xs ys h.2]

end

instance : DecidableEq Json := fun a b =>
  if h : same a b = true then isTrue (eq_of_same a b h)
  else isFalse fun e => h (e ▸ same_refl a)

/-! ## Views -/

def asText? : Json → Option String
  | .text s => some s
  | _ => none

def asArray? : Json → Option (List Json)
  | .array xs => some xs
  | _ => none

def asObject? : Json → Option (List (String × Json))
  | .object fs => some fs
  | _ => none

theorem asObject?_eq_some_iff {j : Json} {fs : List (String × Json)} :
    j.asObject? = some fs ↔ j = .object fs := by
  cases j <;> simp [asObject?]

def asNat? : Json → Option Nat
  | .number (.int i) => if 0 ≤ i then some i.toNat else none
  | _ => none

def field? (j : Json) (key : String) : Option Json :=
  j.asObject?.bind fun fs => Entries.get? fs key

def isText (j : Json) : Bool := j.asText?.isSome

def isBool : Json → Bool
  | .bool _ => true
  | _ => false

def isNumber : Json → Bool
  | .number _ => true
  | _ => false

def isInteger : Json → Bool
  | .number (.int _) => true
  | _ => false

def isScalar : Json → Bool
  | .array _ => false
  | .object _ => false
  | _ => true

/-- No object in the value repeats a key. -/
inductive ObjectsDistinct : Json → Prop where
  | null : ObjectsDistinct .null
  | bool (b : Bool) : ObjectsDistinct (.bool b)
  | number (n : Number) : ObjectsDistinct (.number n)
  | text (s : String) : ObjectsDistinct (.text s)
  | array {xs : List Json} : (∀ x ∈ xs, ObjectsDistinct x) → ObjectsDistinct (.array xs)
  | object {fs : List (String × Json)} : (fs.map Prod.fst).Nodup →
      (∀ p ∈ fs, ObjectsDistinct p.2) → ObjectsDistinct (.object fs)

end Json

end PromptGraph
