import Mathlib

/-!
# The order of single-precision floats

`Float32`'s `<` and `≤` are those of IEEE 754, computed on the unpacked float
(`Float.Model.UnpackedFloat.compare`): a NaN is unordered with every float, itself included, and
the two zeros are equal.  Neither relation is an order on all floats, so the laws the
classifier's search for the most probable digit relies on are proved here.

On the floats that are numbers the comparison is that of a key in a linear order
(`floatKey`): the class of the float (negative infinity, negative finite, zero, positive finite,
positive infinity), then its exponent and mantissa, in reverse for a negative float.  From it
`<` is a strict order (`Float32.lt_irrefl`, `Float32.lt_trans`, `Float32.lt_of_lt_of_le`),
total on numbers (`Float32.le_of_not_lt`), with negative infinity below every number and above
none.

## Key results

- `lt_iff_floatKey`, `le_iff_floatKey`: the order of two numbers is that of their keys
- `Float32.lt_trans`, `Float32.lt_of_lt_of_le`, `Float32.lt_of_le_of_lt`, `Float32.lt_irrefl`:
  `<` is a strict order
- `Float32.le_of_not_lt`: two numbers are ordered one way or the other
- `Float32.not_lt_negInf`, `Float32.negInf_le`: negative infinity is the least number
-/

open Float.Model (UnpackedFloat)
open Float.Model.UnpackedFloat (Sign)

namespace CardOcr

/-- The place of a float in the order of floats: its class, then its exponent and mantissa,
    in reverse for a negative float.  A NaN is given the place of negative infinity, which
    no comparison reads. -/
def floatKey : UnpackedFloat → ℕ ×ₗ ℤ ×ₗ ℤ
  | .infinity .negative => toLex (0, toLex (0, 0))
  | .finite .negative m e _ => toLex (1, toLex (-e, -(m : ℤ)))
  | .zero _ => toLex (2, toLex (0, 0))
  | .finite .positive m e _ => toLex (3, toLex (e, m))
  | .infinity .positive => toLex (4, toLex (0, 0))
  | .notANumber => toLex (0, toLex (0, 0))

@[simp] theorem compare_negative_positive : compare Sign.negative Sign.positive = .lt := rfl

@[simp] theorem compare_positive_negative : compare Sign.positive Sign.negative = .gt := rfl

@[simp] theorem compare_sign_self (s : Sign) : compare s s = .eq := by
  cases s <;> rfl

/-- Two floats are in order `<` exactly when both are numbers and their keys are. -/
theorem lt_iff_floatKey (a b : UnpackedFloat) :
    a.lt b = true ↔ a ≠ .notANumber ∧ b ≠ .notANumber ∧ floatKey a < floatKey b := by
  -- a finite float against another of its sign compares exponents, then mantissas
  rcases a with ⟨_ | _⟩ | _ | ⟨_ | _⟩ | ⟨_ | _, m, e, hm⟩ <;>
    rcases b with ⟨_ | _⟩ | _ | ⟨_ | _⟩ | ⟨_ | _, m', e', hm'⟩ <;>
    simp [UnpackedFloat.lt, UnpackedFloat.compare, floatKey, Prod.Lex.toLex_lt_toLex,
      Ordering.then_eq_lt, Ordering.then_eq_gt, Int.compare_eq_lt, Int.compare_eq_gt,
      Nat.compare_eq_lt, Nat.compare_eq_gt]

/-- Two floats are in order `≤` exactly when both are numbers and their keys are. -/
theorem le_iff_floatKey (a b : UnpackedFloat) :
    a.le b = true ↔ a ≠ .notANumber ∧ b ≠ .notANumber ∧ floatKey a ≤ floatKey b := by
  rcases a with ⟨_ | _⟩ | _ | ⟨_ | _⟩ | ⟨_ | _, m, e, hm⟩ <;>
    rcases b with ⟨_ | _⟩ | _ | ⟨_ | _⟩ | ⟨_ | _, m', e', hm'⟩ <;>
    simp [UnpackedFloat.le, UnpackedFloat.compare, floatKey, Prod.Lex.toLex_le_toLex,
      Ordering.isLE_iff_ne_gt, Ordering.isGE_iff_ne_lt, Ordering.then_eq_lt, Ordering.then_eq_gt,
      Int.compare_eq_lt, Int.compare_eq_gt, Nat.compare_eq_lt, Nat.compare_eq_gt] <;> omega

/-- Negative infinity has the least key. -/
theorem floatKey_negInf_le (a : UnpackedFloat) : floatKey (.infinity .negative) ≤ floatKey a := by
  rcases a with ⟨_ | _⟩ | _ | ⟨_ | _⟩ | ⟨_ | _, m, e, hm⟩ <;>
    simp [floatKey, Prod.Lex.toLex_le_toLex]

namespace Float32

/-- A float that is a number: not a NaN. -/
def IsNum (a : Float32) : Prop := a.toModel.unpack ≠ .notANumber

/-- The key of a float, the place of its unpacked form. -/
def key (a : Float32) : ℕ ×ₗ ℤ ×ₗ ℤ := floatKey a.toModel.unpack

variable {a b c : Float32}

theorem lt_iff_key : a < b ↔ IsNum a ∧ IsNum b ∧ key a < key b := by
  show Float32.lt a b = true ↔ _
  simp only [Float32.lt, decide_eq_true_eq]
  exact lt_iff_floatKey _ _

theorem le_iff_key : a ≤ b ↔ IsNum a ∧ IsNum b ∧ key a ≤ key b := by
  show Float32.le a b = true ↔ _
  simp only [Float32.le, decide_eq_true_eq]
  exact le_iff_floatKey _ _

theorem isNum_of_lt (h : a < b) : IsNum a ∧ IsNum b :=
  ⟨(lt_iff_key.1 h).1, (lt_iff_key.1 h).2.1⟩

theorem lt_irrefl (a : Float32) : ¬a < a := fun h =>
  (lt_iff_key.1 h).2.2.ne rfl

theorem lt_trans (hab : a < b) (hbc : b < c) : a < c := by
  obtain ⟨ha, -, hab⟩ := lt_iff_key.1 hab
  obtain ⟨-, hc, hbc⟩ := lt_iff_key.1 hbc
  exact lt_iff_key.2 ⟨ha, hc, hab.trans hbc⟩

theorem lt_of_lt_of_le (hab : a < b) (hbc : b ≤ c) : a < c := by
  obtain ⟨ha, -, hab⟩ := lt_iff_key.1 hab
  obtain ⟨-, hc, hbc⟩ := le_iff_key.1 hbc
  exact lt_iff_key.2 ⟨ha, hc, hab.trans_le hbc⟩

theorem lt_of_le_of_lt (hab : a ≤ b) (hbc : b < c) : a < c := by
  obtain ⟨ha, -, hab⟩ := le_iff_key.1 hab
  obtain ⟨-, hc, hbc⟩ := lt_iff_key.1 hbc
  exact lt_iff_key.2 ⟨ha, hc, hab.trans_lt hbc⟩

/-- Two numbers are ordered one way or the other. -/
theorem le_of_not_lt (ha : IsNum a) (hb : IsNum b) (h : ¬a < b) : b ≤ a :=
  le_iff_key.2 ⟨hb, ha, not_lt.1 fun hab => h (lt_iff_key.2 ⟨ha, hb, hab⟩)⟩

theorem unpack_negInf : (-(1.0 / 0.0) : Float32).toModel.unpack = .infinity .negative := rfl

theorem isNum_negInf : IsNum (-(1.0 / 0.0) : Float32) := by
  simp [IsNum, unpack_negInf]

/-- No float is below negative infinity. -/
theorem not_lt_negInf (a : Float32) : ¬a < -(1.0 / 0.0) := fun h => by
  have hkey := (lt_iff_key.1 h).2.2
  unfold key at hkey
  rw [unpack_negInf] at hkey
  exact not_lt.2 (floatKey_negInf_le _) hkey

/-- Negative infinity is at most every number. -/
theorem negInf_le (ha : IsNum a) : -(1.0 / 0.0) ≤ a :=
  le_iff_key.2 ⟨isNum_negInf, ha, by unfold key; rw [unpack_negInf]; exact floatKey_negInf_le _⟩

end Float32

end CardOcr
