import CardOcr.Detect.Slot

/-!
# The shift search

A slot's glyph row is aligned by trying shifts in the order `0, -1, 1, -2, 2, …, -r, r`
(`shiftOrder r`) and keeping the first one whose capture is largest (`bestShift`): the pass
starts from shift `0` with capture `0` and a visited shift replaces the incumbent only when it
captures strictly more.

The order tries every shift of `[-r, r]` once (`mem_shiftOrder_iff`, `nodup_shiftOrder`),
nearer shifts first and, at one distance, the left one first (`pairwise_shiftOrder`).  A pass
that replaces its incumbent only on a strictly larger value either keeps its start, when no
value beats it, or ends on the first entry of largest value (`foldl_keepBetter`).  The search
therefore ends on the first shift of largest capture, and among equally good shifts on the one
nearest the nominal position, the left one first (`bestShift_first_max`).

## Key results

- `mem_shiftOrder_iff`, `pairwise_shiftOrder`: which shifts are tried, and in which order
- `foldl_keepBetter`: what a pass keeping the strictly better entry ends on
- `bestShift_first_max`: the search finds the first best shift of the order
-/

namespace CardOcr

/-! ## The order of the shifts -/

/-- Shift `a` is tried before shift `b`: it is nearer zero, or as near and to the left. -/
def ShiftBefore (a b : Int) : Prop := a.natAbs < b.natAbs ∨ (a.natAbs = b.natAbs ∧ a < b)

/-- One more unit of margin tries the two shifts at the new distance last, the left one
    first. -/
theorem shiftOrder_succ (r : Nat) :
    shiftOrder (r + 1) = shiftOrder r ++ [-((r + 1 : Nat) : Int), ((r + 1 : Nat) : Int)] := by
  simp [shiftOrder, List.range_succ, List.flatMap_append]

/-- The shifts tried are exactly those of `[-r, r]`. -/
theorem mem_shiftOrder_iff {r : Nat} {d : Int} : d ∈ shiftOrder r ↔ -(r : Int) ≤ d ∧ d ≤ r := by
  induction r with
  | zero =>
    simp only [shiftOrder, List.range_zero, List.flatMap_nil, List.mem_singleton]
    omega
  | succ r ih =>
    rw [shiftOrder_succ, List.mem_append, ih]
    simp only [List.mem_cons, List.not_mem_nil, or_false]
    omega

/-- Nearer shifts are tried first, and of two shifts as near the left one. -/
theorem pairwise_shiftOrder (r : Nat) : (shiftOrder r).Pairwise ShiftBefore := by
  induction r with
  | zero => exact List.pairwise_singleton _ _
  | succ r ih =>
    rw [shiftOrder_succ, List.pairwise_append]
    refine ⟨ih, ?_, fun a ha b hb => ?_⟩
    · -- the two new shifts are as near, the left one first
      rw [List.pairwise_pair]
      unfold ShiftBefore
      omega
    · -- every earlier shift is nearer than the new ones
      have ha := mem_shiftOrder_iff.1 ha
      simp only [List.mem_cons, List.not_mem_nil, or_false] at hb
      unfold ShiftBefore
      rcases hb with rfl | rfl <;> omega

/-- Every shift is tried once. -/
theorem nodup_shiftOrder (r : Nat) : (shiftOrder r).Nodup :=
  (pairwise_shiftOrder r).imp fun hab heq => by
    subst heq
    unfold ShiftBefore at hab
    omega

/-! ## Passes that keep the strictly better entry -/

/-- `d` is the first entry of `l` at which `f` is largest. -/
def IsFirstMax (l : List Int) (f : Int → Nat) (d : Int) : Prop :=
  ∃ pre post, l = pre ++ d :: post ∧ (∀ e ∈ pre, f e < f d) ∧ ∀ e ∈ l, f e ≤ f d

/-- An entry of largest value at the head is the first. -/
theorem isFirstMax_cons_self {l : List Int} {f : Int → Nat} {x : Int}
    (h : ∀ e ∈ l, f e ≤ f x) : IsFirstMax (x :: l) f x :=
  ⟨[], l, rfl, fun _ he => absurd he List.not_mem_nil, fun e he => by
    rcases List.mem_cons.1 he with rfl | he
    · exact Nat.le_refl _
    · exact h e he⟩

/-- A head of smaller value keeps the first entry of largest value. -/
theorem IsFirstMax.cons {l : List Int} {f : Int → Nat} {d x : Int} (h : IsFirstMax l f d)
    (hx : f x < f d) : IsFirstMax (x :: l) f d := by
  obtain ⟨pre, post, rfl, hpre, hmax⟩ := h
  refine ⟨x :: pre, post, rfl, fun e he => ?_, fun e he => ?_⟩
  · rcases List.mem_cons.1 he with rfl | he
    · exact hx
    · exact hpre e he
  · rcases List.mem_cons.1 he with rfl | he
    · exact Nat.le_of_lt hx
    · exact hmax e he

/-- In a list ordered by `R`, an entry as good as the first largest one is that one or comes
    after it. -/
theorem IsFirstMax.eq_or_rel {l : List Int} {f : Int → Nat} {d : Int} {R : Int → Int → Prop}
    (h : IsFirstMax l f d) (hl : l.Pairwise R) {e : Int} (he : e ∈ l) (hfe : f e = f d) :
    e = d ∨ R d e := by
  obtain ⟨pre, post, rfl, hpre, -⟩ := h
  rw [List.pairwise_append, List.pairwise_cons] at hl
  rcases List.mem_append.1 he with he | he
  · exact absurd hfe (Nat.ne_of_lt (hpre e he))
  · rcases List.mem_cons.1 he with rfl | he
    · exact .inl rfl
    · exact .inr (hl.2.1.1 e he)

/-- One round of the search: the visited shift replaces the incumbent when it captures
    strictly more. -/
def keepBetter (f : Int → Nat) (best : Int × Nat) (d : Int) : Int × Nat :=
  if f d > best.2 then (d, f d) else best

/-- A pass that keeps the strictly better entry either keeps its start, when no entry beats
    it, or ends on the first entry of largest value, above the start, with that value. -/
theorem foldl_keepBetter (f : Int → Nat) (l : List Int) (best : Int × Nat) :
    (l.foldl (keepBetter f) best = best ∧ ∀ e ∈ l, f e ≤ best.2) ∨
      ((l.foldl (keepBetter f) best).2 = f (l.foldl (keepBetter f) best).1 ∧
        best.2 < (l.foldl (keepBetter f) best).2 ∧
        IsFirstMax l f (l.foldl (keepBetter f) best).1) := by
  induction l generalizing best with
  | nil => exact .inl ⟨rfl, fun _ he => absurd he List.not_mem_nil⟩
  | cons x l ih =>
    rw [List.foldl_cons]
    by_cases hx : f x > best.2
    · -- `x` beats the start and becomes the incumbent
      have hstep : keepBetter f best x = (x, f x) := if_pos hx
      rw [hstep]
      rcases ih (x, f x) with ⟨hres, hle⟩ | ⟨hval, hlt, hfirst⟩
      · rw [hres]
        exact .inr ⟨rfl, hx, isFirstMax_cons_self hle⟩
      · exact .inr ⟨hval, Nat.lt_trans hx hlt, hfirst.cons (hval ▸ hlt)⟩
    · -- `x` does not beat the start, which stays the incumbent
      have hstep : keepBetter f best x = best := if_neg hx
      rw [hstep]
      rcases ih best with ⟨hres, hle⟩ | ⟨hval, hlt, hfirst⟩
      · refine .inl ⟨hres, fun e he => ?_⟩
        rcases List.mem_cons.1 he with rfl | he
        · exact Nat.le_of_not_gt hx
        · exact hle e he
      · exact .inr ⟨hval, hlt, hfirst.cons (by omega)⟩

/-! ## The best shift -/

/-- The search is a pass over the order that keeps the strictly better shift, from shift `0`
    with capture `0`. -/
theorem bestShift_eq_foldl (r : Nat) (f : Int → Nat) :
    bestShift r f = (shiftOrder r).foldl (keepBetter f) (0, 0) := rfl

/-- The search ends on the first shift of the order at which the capture is largest, and
    carries that capture. -/
theorem bestShift_isFirstMax (r : Nat) (f : Int → Nat) :
    (bestShift r f).2 = f (bestShift r f).1 ∧ IsFirstMax (shiftOrder r) f (bestShift r f).1 := by
  rw [bestShift_eq_foldl]
  rcases foldl_keepBetter f (shiftOrder r) (0, 0) with ⟨hres, hle⟩ | ⟨hval, -, hfirst⟩
  · -- nothing captures anything: shift `0`, the first of the order, is kept
    rw [hres]
    have h0 : f 0 = 0 := Nat.eq_zero_of_le_zero (hle 0 (mem_shiftOrder_iff.2 (by omega)))
    exact ⟨h0.symm, isFirstMax_cons_self fun e he => h0 ▸ hle e (List.mem_cons_of_mem 0 he)⟩
  · exact ⟨hval, hfirst⟩

/-- The search tries every shift of `[-r, r]` once, nearer shifts first and the left one first
    at each distance, and ends on the first shift of that order at which the capture `f` is
    largest, with its capture: every shift as good is the same one, or farther, or as far and to
    the right. -/
theorem bestShift_first_max (r : Nat) (f : Int → Nat) :
    (∀ d, d ∈ shiftOrder r ↔ -(r : Int) ≤ d ∧ d ≤ r) ∧ (shiftOrder r).Nodup ∧
      (shiftOrder r).Pairwise ShiftBefore ∧
      (bestShift r f).2 = f (bestShift r f).1 ∧ IsFirstMax (shiftOrder r) f (bestShift r f).1 ∧
      ∀ e, -(r : Int) ≤ e → e ≤ r → f e = f (bestShift r f).1 →
        e = (bestShift r f).1 ∨ ShiftBefore (bestShift r f).1 e := by
  obtain ⟨hval, hfirst⟩ := bestShift_isFirstMax r f
  refine ⟨fun d => mem_shiftOrder_iff, nodup_shiftOrder r, pairwise_shiftOrder r, hval, hfirst,
    fun e hlo hhi hfe => ?_⟩
  exact hfirst.eq_or_rel (pairwise_shiftOrder r) (mem_shiftOrder_iff.2 ⟨hlo, hhi⟩) hfe

/-- Within a margin of two, a capture that is best at distance one on both sides is taken on the
    left. -/
theorem bestShift_first_max_tie :
    let f : Int → Nat := fun d => if d.natAbs = 1 then 5 else 0
    bestShift 2 f = (-1, 5) ∧ ShiftBefore (bestShift 2 f).1 1 := by
  intro f
  have hbest : bestShift 2 f = (-1, 5) := by decide
  have h := (bestShift_first_max 2 f).2.2.2.2.2 1 (by decide) (by decide) (by rw [hbest]; rfl)
  rw [hbest] at h ⊢
  refine ⟨rfl, ?_⟩
  rcases h with h | h
  · cases h
  · exact h

end CardOcr
