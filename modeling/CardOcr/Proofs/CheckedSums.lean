import Mathlib
import CardOcr.Fault

/-!
# Checked sums

`checkedAdd bits` adds in a word of `bits` bits and faults on a carry out of it.  A sum of
naturals taken term by term in such a word never comes back below a partial sum, so it faults
exactly when the whole sum does not fit the word: the first partial sum that does not fit is
where it stops.

## Key results

- `checkedAdd_of_lt`, `checkedAdd_of_le`: one checked addition
- `foldlM_checkedAdd_of_lt`, `foldlM_checkedAdd_of_le`: a checked sum is the sum when that
  fits, and an overflow otherwise
-/

namespace CardOcr

/-- A checked sum that fits its word is the sum. -/
theorem checkedAdd_of_lt {bits a b : Nat} (h : a + b < 2 ^ bits) :
    checkedAdd bits a b = .ok (a + b) := by
  unfold checkedAdd
  rw [if_pos (by simpa [Nat.pow_eq] using h)]

/-- A checked sum that does not fit its word overflows. -/
theorem checkedAdd_of_le {bits a b : Nat} (h : 2 ^ bits ≤ a + b) :
    checkedAdd bits a b = .error .addOverflow := by
  unfold checkedAdd
  rw [if_neg (by simpa [Nat.pow_eq] using h)]

/-- Terms added in order to `n` in a word of `bits` bits give their sum when it fits. -/
theorem foldlM_checkedAdd_of_lt {bits n : Nat} {xs : List Nat} (h : n + xs.sum < 2 ^ bits) :
    xs.foldlM (checkedAdd bits) n = .ok (n + xs.sum) := by
  induction xs generalizing n with
  | nil => rfl
  | cons x xs ih =>
    rw [List.sum_cons, ← Nat.add_assoc] at h ⊢
    rw [List.foldlM_cons, checkedAdd_of_lt (by omega)]
    exact ih h

/-- Terms added in order to a word `n` of `bits` bits overflow when their sum does not fit. -/
theorem foldlM_checkedAdd_of_le {bits n : Nat} {xs : List Nat} (hn : n < 2 ^ bits)
    (h : 2 ^ bits ≤ n + xs.sum) : xs.foldlM (checkedAdd bits) n = .error .addOverflow := by
  induction xs generalizing n with
  | nil => exact absurd h (by simpa using hn)
  | cons x xs ih =>
    rw [List.sum_cons, ← Nat.add_assoc] at h
    rw [List.foldlM_cons]
    by_cases hx : n + x < 2 ^ bits
    · -- the partial sum fits, and the rest of the terms carry the sum out of the word
      rw [checkedAdd_of_lt hx]
      exact ih hx h
    · rw [checkedAdd_of_le (Nat.le_of_not_lt hx)]
      rfl

end CardOcr
