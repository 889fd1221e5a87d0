import CardOcr.Card
import CardOcr.Proofs.CheckedSums

/-!
# The Luhn check catches single errors

The Luhn sum adds the digits of a number from the right, each weighted by its place
(`luhnWeight`): a digit at an even place counts as itself, one at an odd place is doubled and
loses nine when that passes nine.  At either place the weight tells the digit modulo ten
(`luhnWeight_mod_inj`), so changing one digit of a number that passes the check changes its
sum modulo ten, and the number fails the check.

Swapping two neighbours changes the sum by the difference of `d - weight d` between the two
digits at their places.  That difference is zero modulo ten only for two equal digits or for
`0` and `9` (`luhnWeight_swap_mod`), so every swap of two different neighbours is caught except
that of `0` and `9`.

The check adds the weights in a 32-bit word.  The sums here are exact (`luhnSum`), and the
check passes exactly when the exact sum fits the word and is a multiple of ten
(`luhnValid_eq_ok_true_iff`).  A weight is at most nine, so a number of fewer than `2³² / 9`
digits never overflows the word and is checked without a fault (`luhnValid_ok_of_length`).

## Key results

- `luhnSum_append`: the sum of a number in two parts
- `luhnWeight_mod_inj`, `luhnWeight_swap_mod`: what the weights do to digits
- `luhnValid_eq_of_lt`, `luhnValid_eq_of_le`: the check against the exact sum
- `luhnValid_eq_ok_true_iff`: the check as a statement about the digits
- `luhnValid_single_errors`: one changed digit, or a swap of two different neighbours other
  than `0` and `9`, turns a valid number into an invalid one
-/

namespace CardOcr

/-! ## Weights and sums -/

/-- Luhn digit sum, in unbounded arithmetic, of digits given from the right, the first at
    place `i`. -/
def luhnSum : List Nat → Nat → Nat
  | [], _ => 0
  | d :: ds, i => luhnWeight i d + luhnSum ds (i + 1)

@[simp] theorem luhnSum_nil (i : Nat) : luhnSum [] i = 0 := rfl

@[simp] theorem luhnSum_cons (d : Nat) (ds : List Nat) (i : Nat) :
    luhnSum (d :: ds) i = luhnWeight i d + luhnSum ds (i + 1) := rfl

/-- The sum of a number in two parts: the second part starts at the place after the first. -/
theorem luhnSum_append (xs ys : List Nat) (i : Nat) :
    luhnSum (xs ++ ys) i = luhnSum xs i + luhnSum ys (i + xs.length) := by
  induction xs generalizing i with
  | nil => simp
  | cons x xs ih =>
    rw [List.cons_append, luhnSum_cons, luhnSum_cons, ih, List.length_cons, Nat.add_assoc,
      Nat.add_comm 1 xs.length, Nat.add_assoc]

/-- The weights of digits from place `i` on add up to their Luhn sum. -/
theorem sum_mapIdx_luhnWeight (ds : List Nat) (i : Nat) :
    (ds.mapIdx fun j => luhnWeight (i + j)).sum = luhnSum ds i := by
  induction ds generalizing i with
  | nil => rfl
  | cons d ds ih =>
    rw [List.mapIdx_cons, List.sum_cons, luhnSum_cons, ← ih (i + 1), Nat.add_zero]
    -- the rest of the digits start one place further on
    congr 3
    funext j
    rw [Nat.add_assoc, Nat.add_comm 1 j]

/-- A weight of a digit is at most nine. -/
theorem luhnWeight_le {i d : Nat} (hd : d < 10) : luhnWeight i d ≤ 9 := by
  unfold luhnWeight
  split
  · split <;> omega
  · omega

/-- The Luhn sum of digits is at most nine per digit. -/
theorem luhnSum_le {ds : List Nat} (hds : ∀ d ∈ ds, d < 10) (i : Nat) :
    luhnSum ds i ≤ 9 * ds.length := by
  induction ds generalizing i with
  | nil => simp
  | cons d ds ih =>
    have hd := luhnWeight_le (i := i) (hds d List.mem_cons_self)
    have hrest := ih (fun e he => hds e (List.mem_cons_of_mem d he)) (i + 1)
    rw [luhnSum_cons, List.length_cons]
    omega

/-- Two numbers that differ only in middle parts of one length have Luhn sums that agree modulo
    ten exactly when the middle parts' sums do, at the place where they start. -/
theorem luhnSum_middle_mod (xs zs : List Nat) {m m' : List Nat} (hlen : m.length = m'.length)
    (h : luhnSum (xs ++ m ++ zs) 0 % 10 = luhnSum (xs ++ m' ++ zs) 0 % 10) :
    luhnSum m xs.length % 10 = luhnSum m' xs.length % 10 := by
  simp only [luhnSum_append, List.length_append, hlen, Nat.zero_add] at h
  omega

/-- At either place, the weight of a digit tells the digit modulo ten: doubling less nine sends
    the digits `0 .. 9` to `0, 2, 4, 6, 8, 1, 3, 5, 7, 9`. -/
theorem luhnWeight_mod_inj {i a b : Nat} (ha : a < 10) (hb : b < 10)
    (h : luhnWeight i a % 10 = luhnWeight i b % 10) : a = b := by
  unfold luhnWeight at h
  by_cases hi : i % 2 = 1
  · simp only [hi, ↓reduceIte] at h
    split at h <;> split at h <;> omega
  · simp only [hi, ↓reduceIte] at h
    omega

/-- Swapping two neighbouring digits `a` and `b` keeps the Luhn sum modulo ten only when they
    are equal or are `0` and `9`: one of the two places doubles, and `d - weight d` modulo ten
    is `0, 9, 8, 7, 6, 4, 3, 2, 1, 0` on the digits `0 .. 9`. -/
theorem luhnWeight_swap_mod {i a b : Nat} (ha : a < 10) (hb : b < 10)
    (h : (luhnWeight i a + luhnWeight (i + 1) b) % 10 =
      (luhnWeight i b + luhnWeight (i + 1) a) % 10) :
    a = b ∨ (a = 0 ∧ b = 9) ∨ (a = 9 ∧ b = 0) := by
  unfold luhnWeight at h
  by_cases hi : i % 2 = 1
  · have hi' : ¬(i + 1) % 2 = 1 := by omega
    simp only [hi, hi', ↓reduceIte] at h
    split at h <;> split at h <;> omega
  · have hi' : (i + 1) % 2 = 1 := by omega
    simp only [hi, hi', ↓reduceIte] at h
    split at h <;> split at h <;> omega

/-! ## Digits of a number -/

/-- The value of a digit character. -/
def digitValue (c : Char) : Nat := c.toNat - 48

theorem isDigit_iff (c : Char) : c.isDigit = true ↔ 48 ≤ c.toNat ∧ c.toNat ≤ 57 := by
  simp only [Char.isDigit, Bool.and_eq_true, decide_eq_true_eq, UInt32.le_iff_toNat_le]
  rfl

theorem digitValue_lt {c : Char} (h : c.isDigit = true) : digitValue c < 10 := by
  have := (isDigit_iff c).1 h
  unfold digitValue
  omega

/-- A digit is its value. -/
theorem digitValue_inj {a b : Char} (ha : a.isDigit = true) (hb : b.isDigit = true)
    (h : digitValue a = digitValue b) : a = b := by
  have := (isDigit_iff a).1 ha
  have := (isDigit_iff b).1 hb
  unfold digitValue at h
  exact Char.toNat_inj.1 (by omega)

/-- The weights of digits from the first place on add up to their Luhn sum. -/
theorem sum_mapIdx_luhnWeight_zero (ds : List Nat) : (ds.mapIdx luhnWeight).sum = luhnSum ds 0 := by
  simpa using sum_mapIdx_luhnWeight ds 0

/-- The digit values of a number, from the right. -/
def luhnDigits (s : String) : List Nat := s.toList.reverse.map digitValue

/-- A number passes the first test of the check, nonempty and all digits, exactly when it is
    a nonempty string of digits. -/
theorem isEmpty_or_not_allDigits_eq_false_iff (s : String) :
    (s.isEmpty || !allDigits s) = false ↔ s ≠ "" ∧ ∀ c ∈ s.toList, c.isDigit = true := by
  simp [allDigits]

/-- A number of digits whose Luhn sum fits a 32-bit word passes the check exactly when the sum
    is a multiple of ten. -/
theorem luhnValid_eq_of_lt {s : String} (hs : (s.isEmpty || !allDigits s) = false)
    (hsum : luhnSum (luhnDigits s) 0 < 2 ^ 32) :
    luhnValid s = .ok (luhnSum (luhnDigits s) 0 % 10 == 0) := by
  have hfold := foldlM_checkedAdd_of_lt
    (by rwa [Nat.zero_add, sum_mapIdx_luhnWeight_zero] :
      0 + ((luhnDigits s).mapIdx luhnWeight).sum < 2 ^ 32)
  rw [luhnValid, if_neg (by simp [hs])]
  simp only [bind, Except.bind]
  rw [show (s.toList.reverse.map fun c => c.toNat - 48) = luhnDigits s from rfl, hfold,
    Nat.zero_add, sum_mapIdx_luhnWeight_zero]
  rfl

/-- A number of digits whose Luhn sum does not fit a 32-bit word overflows the check. -/
theorem luhnValid_eq_of_le {s : String} (hs : (s.isEmpty || !allDigits s) = false)
    (hsum : 2 ^ 32 ≤ luhnSum (luhnDigits s) 0) : luhnValid s = .error .addOverflow := by
  have hfold := foldlM_checkedAdd_of_le (by decide)
    (by rwa [Nat.zero_add, sum_mapIdx_luhnWeight_zero] :
      2 ^ 32 ≤ 0 + ((luhnDigits s).mapIdx luhnWeight).sum)
  rw [luhnValid, if_neg (by simp [hs])]
  simp only [bind, Except.bind]
  rw [show (s.toList.reverse.map fun c => c.toNat - 48) = luhnDigits s from rfl, hfold]

/-- A number passes the Luhn check exactly when it is a nonempty string of digits whose Luhn
    sum, from the right, fits a 32-bit word and is a multiple of ten. -/
theorem luhnValid_eq_ok_true_iff (s : String) :
    luhnValid s = .ok true ↔ s ≠ "" ∧ (∀ c ∈ s.toList, c.isDigit = true) ∧
      luhnSum (luhnDigits s) 0 < 2 ^ 32 ∧ luhnSum (luhnDigits s) 0 % 10 = 0 := by
  cases hs : (s.isEmpty || !allDigits s) with
  | true =>
    -- the first test fails
    rw [luhnValid, if_pos hs]
    simp only [Except.ok.injEq, Bool.false_eq_true, false_iff]
    intro ⟨hne, hdig, _⟩
    rw [(isEmpty_or_not_allDigits_eq_false_iff s).2 ⟨hne, hdig⟩] at hs
    cases hs
  | false =>
    have hdig := (isEmpty_or_not_allDigits_eq_false_iff s).1 hs
    by_cases hsum : luhnSum (luhnDigits s) 0 < 2 ^ 32
    · rw [luhnValid_eq_of_lt hs hsum, Except.ok.injEq, beq_iff_eq]
      exact ⟨fun h => ⟨hdig.1, hdig.2, hsum, h⟩, fun h => h.2.2.2⟩
    · rw [luhnValid_eq_of_le hs (Nat.le_of_not_lt hsum)]
      simp only [reduceCtorEq, false_iff]
      exact fun ⟨_, _, h, _⟩ => hsum h

/-- The digits of a number of digits are below ten. -/
theorem luhnDigits_lt {s : String} (h : ∀ c ∈ s.toList, c.isDigit = true) :
    ∀ d ∈ luhnDigits s, d < 10 := by
  intro d hd
  obtain ⟨c, hc, rfl⟩ := List.mem_map.1 hd
  exact digitValue_lt (h c (List.mem_reverse.1 hc))

/-- A number of fewer than `2³² / 9` characters is checked without a fault. -/
theorem luhnValid_ok_of_length {s : String} (hlen : 9 * s.length < 2 ^ 32) :
    ∃ b, luhnValid s = .ok b := by
  cases hs : (s.isEmpty || !allDigits s) with
  | true => exact ⟨false, by rw [luhnValid, if_pos hs]⟩
  | false =>
    have hdig := ((isEmpty_or_not_allDigits_eq_false_iff s).1 hs).2
    -- every weight is at most nine, one per character
    have hle := luhnSum_le (luhnDigits_lt hdig) 0
    have hlen' : (luhnDigits s).length = s.length := by
      simp [luhnDigits, String.length_toList]
    exact ⟨_, luhnValid_eq_of_lt hs (by omega)⟩

/-- Two valid numbers that differ only in middle parts of one length: the parts' Luhn sums
    agree modulo ten, counted from the place where the part starts from the right. -/
theorem luhnSum_middle_of_valid {s t : String} {pre post : List Char} (m m' : List Char)
    (hs : s.toList = pre ++ m ++ post) (ht : t.toList = pre ++ m' ++ post)
    (hlen : m.length = m'.length) (hvs : luhnValid s = .ok true) (hvt : luhnValid t = .ok true) :
    luhnSum (m.reverse.map digitValue) post.length % 10 =
      luhnSum (m'.reverse.map digitValue) post.length % 10 := by
  have hsum := ((luhnValid_eq_ok_true_iff s).1 hvs).2.2.2
  have hsum' := ((luhnValid_eq_ok_true_iff t).1 hvt).2.2.2
  rw [luhnDigits, hs] at hsum
  rw [luhnDigits, ht] at hsum'
  simp only [List.reverse_append, List.map_append, ← List.append_assoc] at hsum hsum'
  have h := luhnSum_middle_mod (post.reverse.map digitValue) (pre.reverse.map digitValue)
    (by simpa using hlen) (hsum.trans hsum'.symm)
  simpa using h

/-! ## Single errors -/

/-- A number of fewer than `2³² / 9` characters that does not pass the check fails it. -/
theorem luhnValid_eq_ok_false {t : String} (hlen : 9 * t.length < 2 ^ 32)
    (hne : luhnValid t ≠ .ok true) : luhnValid t = .ok false := by
  obtain ⟨b, hb⟩ := luhnValid_ok_of_length hlen
  cases b
  · exact hb
  · exact absurd hb hne

/-- A number of fewer than `2³² / 9` characters that passes the Luhn check fails it after one
    character is replaced by any other, and after two different neighbouring digits other than
    `0` and `9` are swapped. -/
theorem luhnValid_single_errors {s : String} (hlen : 9 * s.length < 2 ^ 32)
    (hs : luhnValid s = .ok true) :
    (∀ (pre post : List Char) (a b : Char), s.toList = pre ++ a :: post → b ≠ a →
      luhnValid (String.ofList (pre ++ b :: post)) = .ok false) ∧
    (∀ (pre post : List Char) (a b : Char), s.toList = pre ++ a :: b :: post → a ≠ b →
      ¬(a = '0' ∧ b = '9') → ¬(a = '9' ∧ b = '0') →
      luhnValid (String.ofList (pre ++ b :: a :: post)) = .ok false) := by
  have hdigits := ((luhnValid_eq_ok_true_iff s).1 hs).2.1
  -- the numbers made from `s` in place have its length, so their checks do not fault
  have hsame : ∀ l : List Char, l.length = s.toList.length →
      9 * (String.ofList l).length < 2 ^ 32 := by
    intro l hl
    rwa [String.length_ofList, hl, String.length_toList]
  refine ⟨fun pre post a b hsl hba =>
      luhnValid_eq_ok_false (hsame _ (by simp [hsl])) fun ht => ?_,
    fun pre post a b hsl hab h09 h90 =>
      luhnValid_eq_ok_false (hsame _ (by simp [hsl])) fun ht => ?_⟩
  · -- the two numbers differ in one place, whose weights then agree modulo ten
    have ha : a.isDigit = true := hdigits a (by simp [hsl])
    have hb : b.isDigit = true :=
      ((luhnValid_eq_ok_true_iff _).1 ht).2.1 b (by simp)
    have h := luhnSum_middle_of_valid [a] [b] (by simpa using hsl) (by simp) rfl hs ht
    simp only [List.reverse_singleton, List.map_cons, List.map_nil, luhnSum_cons, luhnSum_nil,
      Nat.add_zero] at h
    exact hba (digitValue_inj hb ha
      (luhnWeight_mod_inj (digitValue_lt hb) (digitValue_lt ha) h.symm))
  · -- the two numbers differ in two neighbouring places, whose digits are swapped
    have ha : a.isDigit = true := hdigits a (by simp [hsl])
    have hb : b.isDigit = true := hdigits b (by simp [hsl])
    have h := luhnSum_middle_of_valid [a, b] [b, a] (by simpa using hsl) (by simp) rfl hs ht
    simp only [List.reverse_cons, List.reverse_nil, List.nil_append, List.cons_append,
      List.map_cons, List.map_nil, luhnSum_cons, luhnSum_nil, Nat.add_zero] at h
    have h0 : ∀ {c : Char}, c.isDigit = true → digitValue c = 0 → c = '0' := fun hc h =>
      digitValue_inj hc rfl h
    have h9 : ∀ {c : Char}, c.isDigit = true → digitValue c = 9 → c = '9' := fun hc h =>
      digitValue_inj hc rfl h
    rcases luhnWeight_swap_mod (digitValue_lt hb) (digitValue_lt ha) h with
      heq | ⟨hb0, ha9⟩ | ⟨hb9, ha0⟩
    · exact hab (digitValue_inj ha hb heq.symm)
    · exact h90 ⟨h9 ha ha9, h0 hb hb0⟩
    · exact h09 ⟨h0 ha ha0, h9 hb hb9⟩

/-- The number `4111111111111111` passes the check, and with its last digit changed to `2` it
    fails it. -/
theorem luhnValid_single_errors_visa :
    9 * "4111111111111111".length < 2 ^ 32 ∧ luhnValid "4111111111111111" = .ok true ∧
      luhnValid "4111111111111112" = .ok false :=
  ⟨by decide, rfl, (luhnValid_single_errors (s := "4111111111111111") (by decide) rfl).1
    ['4', '1', '1', '1', '1', '1', '1', '1', '1', '1', '1', '1', '1', '1', '1'] [] '1' '2'
    (by decide) (by decide)⟩

end CardOcr
