import CardOcr.Read.Assembler
import CardOcr.Proofs.Tally

/-!
# When the read assembler finalizes

A histogram is settled when it has a value vote, at least the policy's least number of them,
and its mode holds at least the threshold's share of them in single precision; on the votes
themselves this is `Settles`.  The check sums the histogram's counts in a 32-bit word first,
so it faults on a histogram of `2³²` value votes or more and otherwise gives its verdict
(`Histogram.settled_eq_ok`).

On a tally whose histograms' totals fit their words (`VoteTally.Small`) the assessment is a
gate followed by the card (`VoteTally.assess_eq_of_small`): it is not ready unless every
position is settled, the month and year too if an expiry is required, and a best frame is
kept; then the position modes are read as characters, which must pass the Luhn check if that is
required, and the card takes the best frame's number groups in group order, with the top and
orientation of the last of the most confident groups (`IsLastMax`).

A tally of fewer than `2³²` readings is such a tally.  Its assessment is ready exactly when
the votes cast for every position settle, the month and year votes settle if an expiry is
required, some frame found every number group, and the text of the position modes
(`modeText`) passes the Luhn check if that is required.  The card then carries that text, the
expiry modes when both settle, and the number groups of the first best frame.  At `2³²`
readings a position's total overflows its word (`VoteTally.assess_ofReadings_overflows`).

## Key results

- `Histogram.settled_foldl_add_iff`: settledness on the votes
- `lastMaxBy_isLastMax`: the anchor group is the last of the most confident
- `VoteTally.assess_eq_of_small`: the assessment as a gate and a card
- `VoteTally.assess_ofReadings_ready_iff`: the finalization rule
-/

namespace CardOcr

/-! ## Votes of readings -/

/-- The character of a digit value. -/
def digitOf (d : Nat) : Char := Char.ofNat (48 + d)

/-- The modes of the first `d` positions of readings as text; a position without value votes
    has no mode and adds no character. -/
def modeText (R : List FrameReading) (d : Nat) : String :=
  String.ofList ((List.range d).filterMap fun i => (modeOf (Vote.values (votesAt R i))).map digitOf)

/-- Value votes `xs` settle under a policy: there is one, there are at least `minFrames`, and
    the count of their mode over their number, in single precision, reaches the threshold. -/
def Settles (p : AggregatorConfig) (xs : List Nat) : Prop :=
  0 < xs.length ∧ p.minFrames ≤ xs.length ∧
    ∃ m, modeOf xs = some m ∧
      p.confidenceThreshold ≤
        Histogram.countToFloat32 (xs.count m) / Histogram.countToFloat32 xs.length

/-- A mode is one of the values. -/
theorem mem_of_modeOf {xs : List Nat} {m : Nat} (h : modeOf xs = some m) : m ∈ xs := by
  unfold modeOf at h
  exact (List.mem_filter.1 (List.min?_mem h)).1

/-- A test that gives `g x` on every element filters as `g`. -/
theorem filterM_eq_ok {α ε : Type} {f : α → Except ε Bool} {g : α → Bool} {xs : List α}
    (h : ∀ x ∈ xs, f x = .ok (g x)) : xs.filterM f = .ok (xs.filter g) := by
  -- the kept elements are gathered in reverse onto the accumulator
  have haux : ∀ acc, List.filterAuxM f xs acc = .ok ((xs.filter g).reverse ++ acc) := by
    induction xs with
    | nil => intro acc; rfl
    | cons x xs ih =>
      intro acc
      rw [List.filterAuxM, h x List.mem_cons_self]
      simp only [bind, Except.bind]
      rw [ih fun y hy => h y (List.mem_cons_of_mem x hy)]
      cases hg : g x <;> simp [hg]
  simp only [List.filterM, haux, bind, Except.bind, pure, Except.pure, List.append_nil,
    List.reverse_reverse]

/-- A test that faults with `e` on some element, and gives a verdict or `e` on every element,
    faults with `e`. -/
theorem filterM_eq_error {α ε : Type} {f : α → Except ε Bool} {e : ε} {xs : List α}
    (h : ∀ x ∈ xs, (∃ b, f x = .ok b) ∨ f x = .error e) (he : ∃ x ∈ xs, f x = .error e) :
    xs.filterM f = .error e := by
  have haux : ∀ acc, List.filterAuxM f xs acc = .error e := by
    induction xs with
    | nil => simp at he
    | cons x xs ih =>
      intro acc
      rw [List.filterAuxM]
      rcases h x List.mem_cons_self with ⟨b, hb⟩ | hx
      · -- the head passes its test, so the fault is among the others
        rw [hb]
        have he' : ∃ y ∈ xs, f y = .error e := by
          obtain ⟨y, hy, hye⟩ := he
          rcases List.mem_cons.1 hy with rfl | hy
          · rw [hb] at hye
            cases hye
          · exact ⟨y, hy, hye⟩
        exact ih (fun y hy => h y (List.mem_cons_of_mem x hy)) he' _
      · rw [hx]
        rfl
  simp only [List.filterM, haux, bind, Except.bind]

/-- A pass of a test onto any accumulator that succeeds gives a verdict on each element. -/
theorem filterAuxM_ok_of_eq_ok {α ε : Type} {f : α → Except ε Bool} {xs acc res : List α}
    (h : List.filterAuxM f xs acc = .ok res) : ∀ x ∈ xs, ∃ b, f x = .ok b := by
  induction xs generalizing acc with
  | nil => intro x hx; cases hx
  | cons y ys ih =>
    intro x hx
    rw [List.filterAuxM] at h
    cases hy : f y with
    | error e => rw [hy] at h; cases h
    | ok b =>
      rw [hy] at h
      simp only [bind, Except.bind] at h
      rcases List.mem_cons.1 hx with rfl | hx
      · exact ⟨b, hy⟩
      · exact ih h x hx

/-- A test that passes over a list gives a verdict on each of its elements. -/
theorem filterM_ok_of_eq_ok {α ε : Type} {f : α → Except ε Bool} {xs l : List α}
    (h : xs.filterM f = .ok l) : ∀ x ∈ xs, ∃ b, f x = .ok b := by
  unfold List.filterM at h
  cases hres : List.filterAuxM f xs [] with
  | error e => rw [hres] at h; cases h
  | ok res => exact filterAuxM_ok_of_eq_ok hres

/-! ## Settled histograms -/

namespace Histogram

/-- The verdict of the settledness check, false when it faults. -/
def settles (p : AggregatorConfig) (h : Histogram) : Bool :=
  match h.settled p with
  | .ok b => b
  | .error _ => false

/-- A histogram of fewer than `2³²` value votes is judged without a fault. -/
theorem settled_eq_ok {p : AggregatorConfig} {h : Histogram} (hv : h.votes < 2 ^ 32) :
    h.settled p = .ok (h.settles p) := by
  have hok : ∃ b, h.settled p = .ok b := by
    unfold settled
    rw [total_eq_ok hv]
    simp only [bind, Except.bind, pure, Except.pure]
    split
    · rw [modeFraction_eq hv]
      exact ⟨_, rfl⟩
    · exact ⟨_, rfl⟩
  obtain ⟨b, hb⟩ := hok
  rw [hb, settles, hb]

/-- A histogram of `2³²` value votes or more overflows the check. -/
theorem settled_eq_error {p : AggregatorConfig} {h : Histogram} (hv : 2 ^ 32 ≤ h.votes) :
    h.settled p = .error .addOverflow := by
  unfold settled
  rw [total_eq_error hv]
  rfl

/-- The check gives a verdict or overflows. -/
theorem settled_ok_or_overflow (p : AggregatorConfig) (h : Histogram) :
    (∃ b, h.settled p = .ok b) ∨ h.settled p = .error .addOverflow := by
  by_cases hv : h.votes < 2 ^ 32
  · exact .inl ⟨_, settled_eq_ok hv⟩
  · exact .inr (settled_eq_error (Nat.le_of_not_lt hv))

/-- A settled histogram has value votes. -/
theorem votes_pos_of_settles {p : AggregatorConfig} {h : Histogram} (hs : h.settles p = true) :
    0 < h.votes := by
  by_cases hv : h.votes < 2 ^ 32
  · have hok := settled_eq_ok (p := p) hv
    rw [hs] at hok
    unfold settled at hok
    rw [total_eq_ok hv] at hok
    simp only [bind, Except.bind, pure, Except.pure] at hok
    split at hok
    · rename_i hpos
      simp only [Bool.and_eq_true, decide_eq_true_eq] at hpos
      exact hpos.1
    · cases hok
  · -- an overflowing check is no verdict
    rw [settles, settled_eq_error (Nat.le_of_not_lt hv)] at hs
    cases hs

/-- A histogram with value votes has a mode. -/
theorem mode_isSome_of_votes_pos {h : Histogram} (ht : 0 < h.votes) : h.mode.isSome := by
  cases hm : h.mode with
  | some _ => rfl
  | none =>
    rw [mode_eq_none_iff] at hm
    simp [votes, hm] at ht

/-- Added votes total the number of value votes. -/
theorem votes_foldl_add_empty (vs : List Vote) :
    (vs.foldl add {}).votes = (Vote.values vs).length := by
  rw [votes_foldl_add]
  exact Nat.zero_add _

/-- Added votes count the votes for each value. -/
theorem count_foldl_add_empty (vs : List Vote) (w : Nat) :
    (vs.foldl add {}).count w = (Vote.values vs).count w := by
  rw [count_foldl_add wf_empty]
  exact Nat.zero_add _

/-- The values of the votes for `xs` are `xs`. -/
theorem values_map_value (xs : List Nat) : Vote.values (xs.map Vote.value) = xs := by
  induction xs with
  | nil => rfl
  | cons x xs ih => simp [Vote.value?, ih]

/-- Values have a mode as soon as there is one. -/
theorem modeOf_eq_none_iff (xs : List Nat) : modeOf xs = none ↔ xs = [] := by
  refine ⟨fun h => ?_, fun h => h ▸ rfl⟩
  -- the histogram of the votes for `xs` has a mode once it has a count
  have hvotes : ((xs.map Vote.value).foldl add {}).votes = xs.length := by
    rw [votes_foldl_add_empty, values_map_value]
  cases xs with
  | nil => rfl
  | cons x xs =>
    have hsome := mode_isSome_of_votes_pos (h := (List.map Vote.value (x :: xs)).foldl add {})
      (by rw [hvotes]; exact Nat.succ_pos _)
    rw [mode_foldl_add, values_map_value, h] at hsome
    cases hsome

/-- The verdict on a histogram of fewer than `2³²` value votes: it has a value vote, at least
    the least number of them, and its mode holds at least the threshold's share of them. -/
theorem settles_iff {p : AggregatorConfig} {h : Histogram} (hv : h.votes < 2 ^ 32) :
    h.settles p = true ↔ 0 < h.votes ∧ p.minFrames ≤ h.votes ∧
      ∃ m, h.mode = some m ∧
        p.confidenceThreshold ≤ countToFloat32 (h.count m) / countToFloat32 h.votes := by
  have hs := settled_eq_ok (p := p) hv
  unfold settled at hs
  rw [total_eq_ok hv] at hs
  simp only [bind, Except.bind, pure, Except.pure] at hs
  split at hs
  · -- the total is positive and reaches the least number: the share decides
    rename_i hgate
    simp only [Bool.and_eq_true, decide_eq_true_eq, gt_iff_lt, ge_iff_le] at hgate
    obtain ⟨m, hm⟩ := Option.isSome_iff_exists.1 (mode_isSome_of_votes_pos hgate.1)
    rw [modeFraction_eq hv, hm] at hs
    simp only [gt_iff_lt, hgate.1, ↓reduceIte, Except.ok.injEq] at hs
    rw [← hs, decide_eq_true_iff, ge_iff_le]
    refine ⟨fun hle => ⟨hgate.1, hgate.2, m, hm, hle⟩, fun ⟨_, _, m', hm', hle⟩ => ?_⟩
    rw [hm] at hm'
    cases hm'
    exact hle
  · rename_i hgate
    simp only [Bool.and_eq_true, decide_eq_true_eq, not_and, gt_iff_lt, ge_iff_le] at hgate
    rw [← Except.ok.inj hs]
    simp only [Bool.false_eq_true, false_iff, not_and]
    exact fun hpos hmin _ => hgate hpos hmin

/-- Votes added to the empty histogram, fewer than `2³²` of them for values, settle exactly when
    their values settle. -/
theorem settles_foldl_add_iff (p : AggregatorConfig) {vs : List Vote}
    (hv : (Vote.values vs).length < 2 ^ 32) :
    (vs.foldl add {}).settles p = true ↔ Settles p (Vote.values vs) := by
  rw [settles_iff (by rwa [votes_foldl_add_empty]), votes_foldl_add_empty, mode_foldl_add]
  simp only [count_foldl_add_empty, Settles]

/-- Two histograms of fewer than `2³²` value votes are judged together without a fault. -/
theorem bothSettled_eq_ok {p : AggregatorConfig} {a b : Histogram} (ha : a.votes < 2 ^ 32)
    (hb : b.votes < 2 ^ 32) : bothSettled p a b = .ok (a.settles p && b.settles p) := by
  unfold bothSettled
  rw [settled_eq_ok ha]
  cases a.settles p
  · rfl
  · exact settled_eq_ok hb

/-- A histogram judged settled is settled. -/
theorem settles_of_settled {p : AggregatorConfig} {h : Histogram} (hs : h.settled p = .ok true) :
    h.settles p = true := by
  simp only [settles, hs]

/-- Two histograms judged settled together were each judged settled. -/
theorem bothSettled_eq_ok_true {p : AggregatorConfig} {a b : Histogram}
    (h : bothSettled p a b = .ok true) : a.settled p = .ok true ∧ b.settled p = .ok true := by
  unfold bothSettled at h
  simp only [bind, Except.bind, pure, Except.pure] at h
  cases ha : a.settled p with
  | error e => simp only [ha] at h; cases h
  | ok x =>
    simp only [ha] at h
    cases x
    · cases h
    · exact ⟨rfl, h⟩

end Histogram

/-! ## The anchor group -/

/-- `c` is the last element of `l` of greatest key: none before it has a greater key, and every
    one after it a smaller one. -/
def IsLastMax {α : Type} (key : α → Int) (l : List α) (c : α) : Prop :=
  ∃ pre post, l = pre ++ c :: post ∧ (∀ x ∈ pre, key x ≤ key c) ∧ ∀ x ∈ post, key x < key c

/-- A pass that keeps the later of two elements of equal key, from an incumbent that is the
    last of greatest key of what came before, ends on the last of greatest key of everything. -/
theorem IsLastMax.foldl {α : Type} {key : α → Int} {P : List α} {best : α}
    (h : IsLastMax key P best) (xs : List α) :
    IsLastMax key (P ++ xs) (xs.foldl (fun best y => if key y ≥ key best then y else best) best) := by
  induction xs generalizing P best with
  | nil => simpa using h
  | cons y ys ih =>
    rw [List.foldl_cons, ← List.singleton_append, ← List.append_assoc]
    apply ih
    obtain ⟨pre, post, rfl, hpre, hpost⟩ := h
    by_cases hy : key y ≥ key best
    · -- `y` is as good as the incumbent and later, so it takes its place
      rw [if_pos hy]
      refine ⟨pre ++ best :: post, [], by simp, fun x hx => ?_, fun _ hx => absurd hx List.not_mem_nil⟩
      rcases List.mem_append.1 hx with hx | hx
      · exact Int.le_trans (hpre x hx) hy
      · rcases List.mem_cons.1 hx with rfl | hx
        · exact hy
        · exact Int.le_trans (Int.le_of_lt (hpost x hx)) hy
    · rw [if_neg hy]
      refine ⟨pre, post ++ [y], by simp, hpre, fun x hx => ?_⟩
      rcases List.mem_append.1 hx with hx | hx
      · exact hpost x hx
      · rw [List.mem_singleton.1 hx]
        omega

/-- The anchor of a list is its last element of greatest key. -/
theorem lastMaxBy_isLastMax {α : Type} {key : α → Int} {l : List α} {c : α}
    (h : lastMaxBy key l = some c) : IsLastMax key l c := by
  cases l with
  | nil => cases h
  | cons x xs =>
    rw [lastMaxBy, Option.some.injEq] at h
    subst h
    exact IsLastMax.foldl (P := [x]) ⟨[], [], rfl, by simp, by simp⟩ xs

/-- Only the empty list has no anchor. -/
theorem lastMaxBy_eq_none_iff {α : Type} (key : α → Int) (l : List α) :
    lastMaxBy key l = none ↔ l = [] := by
  cases l <;> simp [lastMaxBy]

/-! ## Digits -/

/-- A value below 208 is read as the character whose code is 48 more: the code fits a byte. -/
theorem digitChar_of_lt {d : Nat} (h : d < 208) : digitChar d = .ok (digitOf d) := by
  rw [digitChar, checkedAdd_of_lt (by omega : 48 + d < 2 ^ 8)]
  rfl

/-- Values below 208 are read as their characters without a fault. -/
theorem mapM_digitChar_of_lt {ds : List Nat} (h : ∀ d ∈ ds, d < 208) :
    ds.mapM digitChar = .ok (ds.map digitOf) := by
  induction ds with
  | nil => rfl
  | cons d ds ih =>
    rw [List.mapM_cons, digitChar_of_lt (h d List.mem_cons_self),
      ih fun e he => h e (List.mem_cons_of_mem _ he)]
    rfl

/-- Digit values are read as their characters without a fault. -/
theorem mapM_digitChar {ds : List Nat} (h : ∀ d ∈ ds, d ≤ 9) :
    ds.mapM digitChar = .ok (ds.map digitOf) :=
  mapM_digitChar_of_lt fun d hd => Nat.lt_of_le_of_lt (h d hd) (by decide)

/-! ## The assessment -/

/-- The number-group candidates of a frame in group order, equally indexed ones in their
    order. -/
def numberGroups (cands : List DigitCandidate) : List DigitCandidate :=
  (cands.filter (·.kind.isNumberGroup)).mergeSort fun a b => a.kind.groupIndex ≤ b.kind.groupIndex

namespace VoteTally

/-- The totals of a tally's histograms fit their 32-bit words. -/
def Small (t : VoteTally) : Prop :=
  (∀ x ∈ t.positions, x.votes < 2 ^ 32) ∧ t.month.votes < 2 ^ 32 ∧ t.year.votes < 2 ^ 32

/-- The share of required histograms that are settled, as a tally whose totals fit reports
    it. -/
def stability (p : AggregatorConfig) (t : VoteTally) : Float32 :=
  let required := t.positions.length + (if p.requireExpiry then 2 else 0)
  let met := (t.positions.filter (·.settles p)).length +
    (if p.requireExpiry then ([t.month, t.year].filter (·.settles p)).length else 0)
  if required = 0 then 0 else Histogram.countToFloat32 met / Histogram.countToFloat32 required

/-- What an assessment does past its gates: it reads the position modes as characters, checks
    the number they make when the policy requires it, and makes the card of the best frame's
    candidates. -/
def readyOf (p : AggregatorConfig) (t : VoteTally) (cands : List DigitCandidate) :
    Except Fault Assessment :=
  match (t.positions.filterMap Histogram.mode).mapM digitChar with
  | .error e => .error e
  | .ok chars =>
    if p.requireLuhn then
      match luhnValid (String.ofList chars) with
      | .error e => .error e
      | .ok b =>
        if !b then .ok (.notYet (t.stability p))
        else .ok (.ready (t.cardOf (t.month.settles p && t.year.settles p) (String.ofList chars) cands))
    else .ok (.ready (t.cardOf (t.month.settles p && t.year.settles p) (String.ofList chars) cands))

/-- The month and year of a tally whose totals fit are judged without a fault. -/
theorem expiryMet_eq_ok {p : AggregatorConfig} {t : VoteTally} (hm : t.month.votes < 2 ^ 32)
    (hy : t.year.votes < 2 ^ 32) :
    t.expiryMet p =
      .ok (if p.requireExpiry then ([t.month, t.year].filter (·.settles p)).length else 0) := by
  have hpair : ∀ x ∈ [t.month, t.year], x.settled p = .ok (x.settles p) := by
    intro x hx
    rcases List.mem_pair.1 hx with rfl | rfl
    · exact Histogram.settled_eq_ok hm
    · exact Histogram.settled_eq_ok hy
  unfold expiryMet
  split
  · rw [filterM_eq_ok hpair]
    rfl
  · rfl

/-- On a tally whose totals fit their words, the assessment judges every histogram without a
    fault: it is not ready when fewer positions are settled than there are, or when an expiry
    is required and the month and year are not both settled, or when no best frame is kept;
    otherwise it is what the position modes and the best frame make. -/
theorem assess_eq_of_small {p : AggregatorConfig} {t : VoteTally} (hs : t.Small) :
    t.assess p =
      if (t.positions.filter (·.settles p)).length < t.positions.length ∨
          (p.requireExpiry = true ∧ (t.month.settles p && t.year.settles p) = false) then
        .ok (.notYet (t.stability p))
      else
        match t.bestFrame with
        | some (_, cands) => t.readyOf p cands
        | _ => .ok (.notYet (t.stability p)) := by
  obtain ⟨hpos, hmonth, hyear⟩ := hs
  unfold assess
  rw [filterM_eq_ok fun x hx => Histogram.settled_eq_ok (hpos x hx),
    Histogram.bothSettled_eq_ok hmonth hyear, expiryMet_eq_ok hmonth hyear]
  simp only [bind, Except.bind, pure, Except.pure]
  -- the source's gate is the same condition on booleans
  by_cases hg : (t.positions.filter (·.settles p)).length < t.positions.length ∨
      (p.requireExpiry = true ∧ (t.month.settles p && t.year.settles p) = false)
  · have hb : (decide ((t.positions.filter (·.settles p)).length < t.positions.length) ||
        p.requireExpiry && !(t.month.settles p && t.year.settles p)) = true := by
      rcases hg with hg | ⟨hr, hb⟩
      · simp [hg]
      · simp [hr, hb]
    rw [if_pos hb, if_pos hg]
    rfl
  · have hb : (decide ((t.positions.filter (·.settles p)).length < t.positions.length) ||
        p.requireExpiry && !(t.month.settles p && t.year.settles p)) = false := by
      have hA : ¬(t.positions.filter (·.settles p)).length < t.positions.length :=
        fun h => hg (.inl h)
      simp only [hA, decide_false, Bool.false_or]
      cases hR : p.requireExpiry
      · rfl
      · cases hB : (t.month.settles p && t.year.settles p)
        · exact absurd (.inr ⟨hR, hB⟩) hg
        · rfl
    rw [if_neg (Bool.eq_false_iff.1 hb), if_neg hg]
    cases hbest : t.bestFrame with
    | none => rfl
    | some b =>
      obtain ⟨score, cands⟩ := b
      -- the two sides read the characters and the check alike
      dsimp only
      unfold readyOf
      cases (t.positions.filterMap Histogram.mode).mapM digitChar with
      | error e => rfl
      | ok chars =>
        dsimp only
        cases luhnValid (String.ofList chars) <;> rfl

/-- The gate of the assessment passes exactly when every position is settled, and the month
    and year too if an expiry is required. -/
theorem gate_iff (p : AggregatorConfig) (t : VoteTally) :
    ¬((t.positions.filter (·.settles p)).length < t.positions.length ∨
        (p.requireExpiry = true ∧ (t.month.settles p && t.year.settles p) = false)) ↔
      (∀ x ∈ t.positions, x.settles p = true) ∧
        (p.requireExpiry = true → t.month.settles p = true ∧ t.year.settles p = true) := by
  have hle := List.length_filter_le (·.settles p) t.positions
  rw [not_or, ← List.length_filter_eq_length_iff]
  refine and_congr ⟨fun h => Nat.le_antisymm hle (Nat.not_lt.1 h),
    fun h => by rw [h]; exact Nat.lt_irrefl _⟩ ?_
  cases p.requireExpiry <;> cases t.month.settles p <;> cases t.year.settles p <;> simp

/-- Past the gates, a ready read is the card of the modes' characters, which pass the Luhn
    check if it is required. -/
theorem readyOf_eq_ready {p : AggregatorConfig} {t : VoteTally} {cands : List DigitCandidate}
    {card : CardInfo} (h : t.readyOf p cands = .ok (.ready card)) :
    ∃ chars, (t.positions.filterMap Histogram.mode).mapM digitChar = .ok chars ∧
      (p.requireLuhn = true → luhnValid (String.ofList chars) = .ok true) ∧
      card = t.cardOf (t.month.settles p && t.year.settles p) (String.ofList chars) cands := by
  unfold readyOf at h
  cases hc : (t.positions.filterMap Histogram.mode).mapM digitChar with
  | error e => rw [hc] at h; cases h
  | ok chars =>
    rw [hc] at h
    dsimp only at h
    refine ⟨chars, rfl, fun hl => ?_, ?_⟩
    · -- the check ran and passed
      rw [if_pos hl] at h
      cases hv : luhnValid (String.ofList chars) with
      | error e => rw [hv] at h; cases h
      | ok b => cases b <;> simp_all
    · cases hl : p.requireLuhn
      · simp only [hl, Bool.false_eq_true, ↓reduceIte, Except.ok.injEq, Assessment.ready.injEq]
          at h
        exact h.symm
      · rw [if_pos hl] at h
        cases hv : luhnValid (String.ofList chars) with
        | error e => rw [hv] at h; cases h
        | ok b => cases b <;> simp_all

/-- The modes' characters, passing the Luhn check if it is required, make the card. -/
theorem readyOf_eq_ok {p : AggregatorConfig} {t : VoteTally} {cands : List DigitCandidate}
    {chars : List Char} (hc : (t.positions.filterMap Histogram.mode).mapM digitChar = .ok chars)
    (hl : p.requireLuhn = true → luhnValid (String.ofList chars) = .ok true) :
    t.readyOf p cands =
      .ok (.ready (t.cardOf (t.month.settles p && t.year.settles p) (String.ofList chars) cands)) := by
  unfold readyOf
  rw [hc]
  dsimp only
  cases hreq : p.requireLuhn
  · rfl
  · rw [if_pos rfl, hl hreq]
    rfl

/-- Past the gates, a fault is one of reading the modes as characters or of the Luhn check. -/
theorem readyOf_eq_error {p : AggregatorConfig} {t : VoteTally} {cands : List DigitCandidate}
    {e : Fault} (h : t.readyOf p cands = .error e) :
    (t.positions.filterMap Histogram.mode).mapM digitChar = .error e ∨
      ∃ chars, (t.positions.filterMap Histogram.mode).mapM digitChar = .ok chars ∧
        p.requireLuhn = true ∧ luhnValid (String.ofList chars) = .error e := by
  unfold readyOf at h
  cases hc : (t.positions.filterMap Histogram.mode).mapM digitChar with
  | error e' =>
    rw [hc] at h
    dsimp only at h
    cases h
    exact .inl rfl
  | ok chars =>
    rw [hc] at h
    dsimp only at h
    cases hl : p.requireLuhn
    · rw [hl] at h; cases h
    · rw [if_pos hl] at h
      cases hv : luhnValid (String.ofList chars) with
      | error e' =>
        rw [hv] at h
        dsimp only at h
        cases h
        exact .inr ⟨chars, rfl, rfl, hv⟩
      | ok b => rw [hv] at h; cases b <;> cases h

/-- An assessment of a tally whose totals fit that does not wait was made past the gates: every
    position is settled, the month and year too if an expiry is required, and it is what the
    best frame's candidates make. -/
theorem assess_past_gate {p : AggregatorConfig} {t : VoteTally} (hs : t.Small)
    {r : Except Fault Assessment} (h : t.assess p = r) (hr : ∀ st, r ≠ .ok (.notYet st)) :
    (∀ x ∈ t.positions, x.settles p = true) ∧
    (p.requireExpiry = true → t.month.settles p = true ∧ t.year.settles p = true) ∧
    ∃ score cands, t.bestFrame = some (score, cands) ∧ t.readyOf p cands = r := by
  rw [assess_eq_of_small hs] at h
  split at h
  · exact absurd h.symm (hr _)
  · rename_i hgate
    obtain ⟨hpos, hexp⟩ := (gate_iff p t).1 hgate
    cases hb : t.bestFrame with
    | none =>
      rw [hb] at h
      exact absurd h.symm (hr _)
    | some b =>
      obtain ⟨score, cands⟩ := b
      rw [hb] at h
      exact ⟨hpos, hexp, score, cands, rfl, h⟩

/-- A ready assessment of a tally whose totals fit: every position is settled, the month and
    year too if an expiry is required, a best frame is kept, and the card is that of the modes'
    characters and the best frame, the characters passing the Luhn check if it is required. -/
theorem assess_eq_ready {p : AggregatorConfig} {t : VoteTally} (hs : t.Small) {card : CardInfo}
    (h : t.assess p = .ok (.ready card)) :
    (∀ x ∈ t.positions, x.settles p = true) ∧
    (p.requireExpiry = true → t.month.settles p = true ∧ t.year.settles p = true) ∧
    ∃ score cands chars, t.bestFrame = some (score, cands) ∧
      (t.positions.filterMap Histogram.mode).mapM digitChar = .ok chars ∧
      (p.requireLuhn = true → luhnValid (String.ofList chars) = .ok true) ∧
      card = t.cardOf (t.month.settles p && t.year.settles p) (String.ofList chars) cands := by
  obtain ⟨hpos, hexp, score, cands, hb, hready⟩ :=
    assess_past_gate hs h fun _ h' => by cases h'
  obtain ⟨chars, hc, hl, rfl⟩ := readyOf_eq_ready hready
  exact ⟨hpos, hexp, score, cands, chars, hb, hc, hl, rfl⟩

/-- Past the gates, the assessment of a tally whose totals fit is what the best frame's
    candidates make. -/
theorem assess_eq_readyOf {p : AggregatorConfig} {t : VoteTally} (hs : t.Small) {score : Float32}
    {cands : List DigitCandidate} (hpos : ∀ x ∈ t.positions, x.settles p = true)
    (hexp : p.requireExpiry = true → t.month.settles p = true ∧ t.year.settles p = true)
    (hbest : t.bestFrame = some (score, cands)) : t.assess p = t.readyOf p cands := by
  rw [assess_eq_of_small hs, if_neg ((gate_iff p t).2 ⟨hpos, hexp⟩), hbest]

/-- The conditions of `assess_eq_ready` make the assessment ready. -/
theorem assess_ready_of {p : AggregatorConfig} {t : VoteTally} (hs : t.Small) {score : Float32}
    {cands : List DigitCandidate} {chars : List Char}
    (hpos : ∀ x ∈ t.positions, x.settles p = true)
    (hexp : p.requireExpiry = true → t.month.settles p = true ∧ t.year.settles p = true)
    (hbest : t.bestFrame = some (score, cands))
    (hchars : (t.positions.filterMap Histogram.mode).mapM digitChar = .ok chars)
    (hluhn : p.requireLuhn = true → luhnValid (String.ofList chars) = .ok true) :
    t.assess p =
      .ok (.ready (t.cardOf (t.month.settles p && t.year.settles p) (String.ofList chars) cands)) := by
  rw [assess_eq_readyOf hs hpos hexp hbest]
  exact readyOf_eq_ok hchars hluhn

/-- An assessment of a tally whose totals fit faults only past its gates, reading the modes as
    characters or checking their number. -/
theorem assess_eq_error {p : AggregatorConfig} {t : VoteTally} (hs : t.Small) {e : Fault}
    (h : t.assess p = .error e) :
    (∀ x ∈ t.positions, x.settles p = true) ∧
    (p.requireExpiry = true → t.month.settles p = true ∧ t.year.settles p = true) ∧
    t.bestFrame.isSome ∧
    ((t.positions.filterMap Histogram.mode).mapM digitChar = .error e ∨
      ∃ chars, (t.positions.filterMap Histogram.mode).mapM digitChar = .ok chars ∧
        p.requireLuhn = true ∧ luhnValid (String.ofList chars) = .error e) := by
  obtain ⟨hpos, hexp, score, cands, hb, herr⟩ :=
    assess_past_gate hs h fun _ h' => by cases h'
  rw [hb]
  exact ⟨hpos, hexp, rfl, readyOf_eq_error herr⟩

/-- A ready assessment of any tally: every position was judged settled, the month and year
    were judged together without a fault, and settled if an expiry is required; a best frame
    is kept, and the card is that of the modes' characters and the best frame, the characters
    passing the Luhn check if it is required. -/
theorem assess_eq_ready_judged {p : AggregatorConfig} {t : VoteTally} {card : CardInfo}
    (h : t.assess p = .ok (.ready card)) :
    (∀ x ∈ t.positions, x.settled p = .ok true) ∧
    ∃ ok, Histogram.bothSettled p t.month t.year = .ok ok ∧ (p.requireExpiry = true → ok = true) ∧
      ∃ score cands chars, t.bestFrame = some (score, cands) ∧
        (t.positions.filterMap Histogram.mode).mapM digitChar = .ok chars ∧
        (p.requireLuhn = true → luhnValid (String.ofList chars) = .ok true) ∧
        card = t.cardOf ok (String.ofList chars) cands := by
  unfold assess at h
  simp only [bind, Except.bind, pure, Except.pure] at h
  -- the three judgements gave verdicts
  split at h
  · cases h
  rename_i l hl
  split at h
  · cases h
  rename_i ok hok
  split at h
  · cases h
  split at h
  · cases h
  rename_i hgate
  simp only [Bool.or_eq_true, decide_eq_true_eq, Bool.and_eq_true, Bool.not_eq_true',
    not_or, not_and] at hgate
  -- every position was judged, and none of them unsettled
  have hverdicts := filterM_ok_of_eq_ok hl
  have hfilter : t.positions.filterM (·.settled p) = .ok (t.positions.filter (·.settles p)) :=
    filterM_eq_ok fun x hx => by
      obtain ⟨b, hb⟩ := hverdicts x hx
      rw [hb, Histogram.settles, hb]
  rw [hl] at hfilter
  obtain rfl := Except.ok.inj hfilter
  have hlen := Nat.le_antisymm (List.length_filter_le _ _) (Nat.not_lt.1 hgate.1)
  have hall : ∀ x ∈ t.positions, x.settled p = .ok true := by
    intro x hx
    obtain ⟨b, hb⟩ := hverdicts x hx
    have hs := List.length_filter_eq_length_iff.1 hlen x hx
    simp only [Histogram.settles, hb] at hs
    rw [hb, hs]
  have hexp : p.requireExpiry = true → ok = true := fun hr => by
    cases ok
    · exact absurd rfl (hgate.2 hr)
    · rfl
  -- past the gate: the best frame, the characters and the Luhn check
  split at h
  · rename_i score cands hbest
    split at h
    · cases h
    rename_i chars hchars
    split at h
    · rename_i hreq
      split at h
      · cases h
      rename_i b hb
      split at h
      · cases h
      rename_i hbt
      cases h
      cases b
      · exact absurd rfl hbt
      · exact ⟨hall, ok, hok, hexp, score, cands, chars, hbest, hchars, fun _ => hb, rfl⟩
    · rename_i hreq
      cases h
      exact ⟨hall, ok, hok, hexp, score, cands, chars, hbest, hchars,
        fun hl => absurd hl hreq, rfl⟩
  · cases h

/-! ## The card -/

@[simp] theorem cardOf_numbers (t : VoteTally) (ok : Bool) (numbers : String)
    (cands : List DigitCandidate) : (t.cardOf ok numbers cands).numbers = numbers := rfl

/-- A card's offsets are those of the number groups in group order. -/
theorem cardOf_xOffsets (t : VoteTally) (ok : Bool) (numbers : String)
    (cands : List DigitCandidate) :
    (t.cardOf ok numbers cands).xOffsets = (numberGroups cands).flatMap (·.xOffsets) := rfl

/-- A card's expiry is the month and year modes when the expiry is settled, else zeros. -/
theorem cardOf_expiry (t : VoteTally) (ok : Bool) (numbers : String)
    (cands : List DigitCandidate) :
    ((t.cardOf ok numbers cands).expiryMonth, (t.cardOf ok numbers cands).expiryYear) =
      match ok, t.month.mode, t.year.mode with
      | true, some m, some y => (m, y)
      | _, _, _ => (0, 0) := by
  -- the model's match and the statement's are two matchers: reduce both on constructors
  unfold cardOf
  cases ok <;> cases t.month.mode <;> cases t.year.mode <;> rfl

/-- A card's top and orientation are those of the last of the most confident number groups,
    or zero and upright without number groups. -/
theorem cardOf_anchor (t : VoteTally) (ok : Bool) (numbers : String)
    (cands : List DigitCandidate) :
    (numberGroups cands = [] ∧ (t.cardOf ok numbers cands).yOffset = 0 ∧
        (t.cardOf ok numbers cands).isFlipped = false) ∨
      ∃ c, IsLastMax (fun c => Float32.totalKey c.confidence) (numberGroups cands) c ∧
        (t.cardOf ok numbers cands).yOffset = c.yOffset ∧
        (t.cardOf ok numbers cands).isFlipped = c.flipped := by
  cases ha : lastMaxBy (fun c => Float32.totalKey c.confidence) (numberGroups cands) with
  | none =>
    refine .inl ⟨(lastMaxBy_eq_none_iff _ _).1 ha, ?_, ?_⟩ <;>
      simp only [cardOf, numberGroups] at ha ⊢ <;> simp [ha]
  | some c =>
    refine .inr ⟨c, lastMaxBy_isLastMax ha, ?_, ?_⟩ <;>
      simp only [cardOf, numberGroups] at ha ⊢ <;> simp [ha]

/-! ## The assessment of a tally whose modes are characters -/

section Modes

variable {p : AggregatorConfig} {t : VoteTally}

/-- Past the gates of a tally whose totals fit and whose modes are below 208, the assessment
    faults only in the Luhn check of the modes' characters. -/
theorem assess_eq_error_of_modes (hs : t.Small)
    (hmodes : ∀ m ∈ t.positions.filterMap Histogram.mode, m < 208) {e : Fault}
    (h : t.assess p = .error e) :
    p.requireLuhn = true ∧
      luhnValid (String.ofList ((t.positions.filterMap Histogram.mode).map digitOf)) = .error e := by
  obtain ⟨-, -, -, hfault⟩ := assess_eq_error hs h
  rw [mapM_digitChar_of_lt hmodes] at hfault
  rcases hfault with hc | ⟨chars, hc, hl, hv⟩
  · cases hc
  · cases hc
    exact ⟨hl, hv⟩

/-- A tally whose totals fit and whose modes are below 208 is ready exactly when its gates
    pass, a best frame is kept and, if it is required, the modes' characters pass the Luhn
    check. -/
theorem assess_ready_iff_of_modes (hs : t.Small)
    (hmodes : ∀ m ∈ t.positions.filterMap Histogram.mode, m < 208) :
    (∃ card, t.assess p = .ok (.ready card)) ↔
      (∀ x ∈ t.positions, x.settles p = true) ∧
      (p.requireExpiry = true → t.month.settles p = true ∧ t.year.settles p = true) ∧
      t.bestFrame.isSome ∧
      (p.requireLuhn = true →
        luhnValid (String.ofList ((t.positions.filterMap Histogram.mode).map digitOf)) = .ok true) := by
  have hchars := mapM_digitChar_of_lt hmodes
  constructor
  · rintro ⟨card, h⟩
    obtain ⟨hpos, hexp, score, cands, chars, hbest, hc, hl, -⟩ := assess_eq_ready hs h
    rw [hchars] at hc
    cases hc
    exact ⟨hpos, hexp, by rw [hbest]; rfl, hl⟩
  · rintro ⟨hpos, hexp, hbest, hl⟩
    obtain ⟨⟨score, cands⟩, hb⟩ := Option.isSome_iff_exists.1 hbest
    exact ⟨_, assess_ready_of hs hpos hexp hb hchars hl⟩

/-- A ready card of a tally whose totals fit and whose modes are below 208 is the card of the
    modes' characters and the best frame's candidates. -/
theorem assess_eq_ready_of_modes (hs : t.Small)
    (hmodes : ∀ m ∈ t.positions.filterMap Histogram.mode, m < 208) {card : CardInfo}
    (h : t.assess p = .ok (.ready card)) :
    ∃ score cands, t.bestFrame = some (score, cands) ∧
      card = t.cardOf (t.month.settles p && t.year.settles p)
        (String.ofList ((t.positions.filterMap Histogram.mode).map digitOf)) cands := by
  obtain ⟨-, -, score, cands, chars, hbest, hc, -, hcard⟩ := assess_eq_ready hs h
  rw [mapM_digitChar_of_lt hmodes] at hc
  cases hc
  exact ⟨score, cands, hbest, hcard⟩

/-- The expiry of a card made past the gates: the month and year modes when both are settled,
    else zeros. -/
theorem cardOf_expiry_settles (numbers : String) (cands : List DigitCandidate) :
    (t.month.settles p = true ∧ t.year.settles p = true →
      ∃ m y, t.month.mode = some m ∧ t.year.mode = some y ∧
        (t.cardOf (t.month.settles p && t.year.settles p) numbers cands).expiryMonth = m ∧
        (t.cardOf (t.month.settles p && t.year.settles p) numbers cands).expiryYear = y) ∧
    (¬(t.month.settles p = true ∧ t.year.settles p = true) →
      (t.cardOf (t.month.settles p && t.year.settles p) numbers cands).expiryMonth = 0 ∧
        (t.cardOf (t.month.settles p && t.year.settles p) numbers cands).expiryYear = 0) := by
  have hexp := cardOf_expiry t (t.month.settles p && t.year.settles p) numbers cands
  generalize t.cardOf (t.month.settles p && t.year.settles p) numbers cands = card at hexp ⊢
  constructor
  · rintro ⟨hm, hy⟩
    -- settled histograms have value votes, so modes
    obtain ⟨m, hmm⟩ := Option.isSome_iff_exists.1
      (Histogram.mode_isSome_of_votes_pos (Histogram.votes_pos_of_settles hm))
    obtain ⟨y, hyy⟩ := Option.isSome_iff_exists.1
      (Histogram.mode_isSome_of_votes_pos (Histogram.votes_pos_of_settles hy))
    rw [hm, hy, hmm, hyy] at hexp
    simp only [Bool.and_self, Prod.mk.injEq] at hexp
    exact ⟨m, y, hmm, hyy, hexp.1, hexp.2⟩
  · intro hn
    have hb : (t.month.settles p && t.year.settles p) = false := by
      cases hm : t.month.settles p <;> cases hy : t.year.settles p <;> simp_all
    rw [hb] at hexp
    simp only [Prod.mk.injEq] at hexp
    exact hexp

end Modes

/-- A tally with a position of `2³²` value votes or more faults on assessment: judging the
    positions overflows before any verdict. -/
theorem assess_eq_overflow_of_large {t : VoteTally} (h : ∃ x ∈ t.positions, 2 ^ 32 ≤ x.votes)
    (p : AggregatorConfig) : t.assess p = .error .addOverflow := by
  obtain ⟨x, hx, hv⟩ := h
  unfold assess
  rw [filterM_eq_error (fun y _ => Histogram.settled_ok_or_overflow p y)
    ⟨x, hx, Histogram.settled_eq_error hv⟩]
  rfl

/-! ## Tallies of readings -/

section Readings

variable {p : AggregatorConfig} {d s : Nat} {R : List FrameReading}

/-- Votes cast by fewer than `2³²` readings, at most one a reading, have fewer than `2³²` values. -/
theorem length_values_lt {vs : List Vote} (hvs : vs.length ≤ R.length)
    (hlen : R.length < 2 ^ 32) : (Vote.values vs).length < 2 ^ 32 :=
  Nat.lt_of_le_of_lt ((List.length_filterMap_le _ _).trans hvs) hlen

/-- A tally of fewer than `2³²` readings has totals that fit their words. -/
theorem small_plain (hlen : R.length < 2 ^ 32) (d s : Nat) : (plain d s R).Small := by
  have hfew : ∀ vs : List Vote, vs.length ≤ R.length →
      (vs.foldl Histogram.add {}).votes < 2 ^ 32 := by
    intro vs hvs
    rw [Histogram.votes_foldl_add_empty]
    exact length_values_lt hvs hlen
  refine ⟨fun x hx => ?_, ?_, ?_⟩
  · rw [positions_plain] at hx
    obtain ⟨i, -, rfl⟩ := List.mem_map.1 hx
    exact hfew _ (length_votesAt_le R i)
  · rw [month_plain]
    exact hfew _ (by rw [List.length_map])
  · rw [year_plain]
    exact hfew _ (by rw [List.length_map])

/-- The positions of a tally of fewer than `2³²` readings all settle exactly when the votes
    cast for each of the `d` positions settle. -/
theorem positions_settle_plain_iff (hlen : R.length < 2 ^ 32) :
    (∀ x ∈ (plain d s R).positions, x.settles p = true) ↔
      ∀ i < d, Settles p (Vote.values (votesAt R i)) := by
  rw [positions_plain, List.forall_mem_map]
  simp only [List.mem_range]
  exact forall₂_congr fun i _ =>
    Histogram.settles_foldl_add_iff p (length_values_lt (length_votesAt_le R i) hlen)

/-- The month of a tally of fewer than `2³²` readings settles exactly when their month votes
    do. -/
theorem month_settles_plain_iff (hlen : R.length < 2 ^ 32) :
    (plain d s R).month.settles p = true ↔ Settles p (Vote.values (R.map (·.month))) := by
  rw [month_plain]
  exact Histogram.settles_foldl_add_iff p (length_values_lt (by rw [List.length_map]) hlen)

/-- The year of a tally of fewer than `2³²` readings settles exactly when their year votes
    do. -/
theorem year_settles_plain_iff (hlen : R.length < 2 ^ 32) :
    (plain d s R).year.settles p = true ↔ Settles p (Vote.values (R.map (·.year))) := by
  rw [year_plain]
  exact Histogram.settles_foldl_add_iff p (length_values_lt (by rw [List.length_map]) hlen)

/-- The modes of a tally of readings are those of the votes cast for each position. -/
theorem modes_plain (d s : Nat) (R : List FrameReading) :
    (plain d s R).positions.filterMap Histogram.mode =
      (List.range d).filterMap fun i => modeOf (Vote.values (votesAt R i)) := by
  rw [positions_plain, List.filterMap_map]
  simp only [Function.comp_def, Histogram.mode_foldl_add]

/-- The characters of the modes of a tally of readings make the mode text. -/
theorem modeText_plain (d s : Nat) (R : List FrameReading) :
    String.ofList (((plain d s R).positions.filterMap Histogram.mode).map digitOf) =
      modeText R d := by
  rw [modes_plain, List.map_filterMap]
  rfl

/-- A value voted for a position is a digit vote of one of the readings. -/
theorem mem_values_votesAt {i m : Nat} (h : m ∈ Vote.values (votesAt R i)) :
    ∃ r ∈ R, Vote.value m ∈ r.digits := by
  obtain ⟨v, hv, hvm⟩ := List.mem_filterMap.1 h
  obtain ⟨r, hr, hri⟩ := List.mem_filterMap.1 hv
  cases v with
  | value w => cases hvm; exact ⟨r, hr, List.mem_of_getElem? hri⟩
  | reject => cases hvm
  | absent => cases hvm

/-- The modes of readings whose digit votes are below `b` are below `b`. -/
theorem modes_plain_lt {b : Nat} (hdigits : ∀ r ∈ R, ∀ v, Vote.value v ∈ r.digits → v < b) :
    ∀ m ∈ (plain d s R).positions.filterMap Histogram.mode, m < b := by
  intro m hm
  rw [modes_plain] at hm
  obtain ⟨i, -, hi⟩ := List.mem_filterMap.1 hm
  obtain ⟨r, hr, hv⟩ := mem_values_votesAt (mem_of_modeOf hi)
  exact hdigits r hr m hv

/-- The expiry of a card made past the gates of a tally of fewer than `2³²` readings: the modes
    of the month and year votes when both settle, else zeros. -/
theorem cardOf_expiry_plain (hlen : R.length < 2 ^ 32) (numbers : String)
    (cands : List DigitCandidate) :
    (Settles p (Vote.values (R.map (·.month))) ∧ Settles p (Vote.values (R.map (·.year))) →
      ∃ m y, modeOf (Vote.values (R.map (·.month))) = some m ∧
        modeOf (Vote.values (R.map (·.year))) = some y ∧
        ((plain d s R).cardOf ((plain d s R).month.settles p && (plain d s R).year.settles p)
          numbers cands).expiryMonth = m ∧
        ((plain d s R).cardOf ((plain d s R).month.settles p && (plain d s R).year.settles p)
          numbers cands).expiryYear = y) ∧
    (¬(Settles p (Vote.values (R.map (·.month))) ∧ Settles p (Vote.values (R.map (·.year)))) →
      ((plain d s R).cardOf ((plain d s R).month.settles p && (plain d s R).year.settles p)
          numbers cands).expiryMonth = 0 ∧
        ((plain d s R).cardOf ((plain d s R).month.settles p && (plain d s R).year.settles p)
          numbers cands).expiryYear = 0) := by
  have hmonth := month_settles_plain_iff (p := p) (d := d) (s := s) hlen
  have hyear := year_settles_plain_iff (p := p) (d := d) (s := s) hlen
  have hexp := cardOf_expiry_settles (p := p) (t := plain d s R) numbers cands
  refine ⟨?_, fun hn => hexp.2 fun hb => hn ⟨hmonth.1 hb.1, hyear.1 hb.2⟩⟩
  rintro ⟨hm, hy⟩
  -- the tally's modes are the votes' modes
  obtain ⟨m, y, hmm, hyy, hM, hY⟩ := hexp.1 ⟨hmonth.2 hm, hyear.2 hy⟩
  rw [month_plain, Histogram.mode_foldl_add] at hmm
  rw [year_plain, Histogram.mode_foldl_add] at hyy
  exact ⟨m, y, hmm, hyy, hM, hY⟩

/-- **The finalization rule.**  Readings, fewer than `2³²`, with digit votes that are digits
    and scores that are numbers, recorded in order into an empty tally of `d` positions and `s`
    number groups: the recording succeeds, and the assessment faults only when the Luhn check
    is required and faults on the mode text.  It is ready exactly when the votes cast for every
    position settle, the month and year votes settle if an expiry is required, some reading
    found `s` number groups, and the mode text passes the Luhn check if that is required.  A
    ready card carries the mode text; the month and year modes when both settle, else zeros;
    the offsets of the first best reading's number groups in group order; and the top and
    orientation of the last of its most confident groups, or zero and upright without one. -/
theorem assess_ofReadings_ready_iff (p : AggregatorConfig) (d s : Nat) (R : List FrameReading)
    (hlen : R.length < 2 ^ 32) (hdigits : ∀ r ∈ R, ∀ v, Vote.value v ∈ r.digits → v ≤ 9)
    (hnum : ∀ r ∈ R, Float32.IsNum r.score) :
    ∃ t, ofReadings d s R = .ok t ∧
      (∀ e, t.assess p = .error e → p.requireLuhn = true ∧ luhnValid (modeText R d) = .error e) ∧
      ((∃ card, t.assess p = .ok (.ready card)) ↔
        (∀ i < d, Settles p (Vote.values (votesAt R i))) ∧
        (p.requireExpiry = true →
          Settles p (Vote.values (R.map (·.month))) ∧ Settles p (Vote.values (R.map (·.year)))) ∧
        (∃ r ∈ R, r.numberSlotsFound = s) ∧
        (p.requireLuhn = true → luhnValid (modeText R d) = .ok true)) ∧
      ∀ card, t.assess p = .ok (.ready card) →
        card.numbers = modeText R d ∧
        (Settles p (Vote.values (R.map (·.month))) ∧ Settles p (Vote.values (R.map (·.year))) →
          ∃ m y, modeOf (Vote.values (R.map (·.month))) = some m ∧
            modeOf (Vote.values (R.map (·.year))) = some y ∧
            card.expiryMonth = m ∧ card.expiryYear = y) ∧
        (¬(Settles p (Vote.values (R.map (·.month))) ∧ Settles p (Vote.values (R.map (·.year)))) →
          card.expiryMonth = 0 ∧ card.expiryYear = 0) ∧
        ∃ r, IsFirstBest s R r ∧
          card.xOffsets = (numberGroups r.candidates).flatMap (·.xOffsets) ∧
          ((numberGroups r.candidates = [] ∧ card.yOffset = 0 ∧ card.isFlipped = false) ∨
            ∃ c, IsLastMax (fun c => Float32.totalKey c.confidence) (numberGroups r.candidates) c ∧
              card.yOffset = c.yOffset ∧ card.isFlipped = c.flipped) := by
  have hs := small_plain hlen d s
  have hmodes := modes_plain_lt (d := d) (s := s) fun r hr v hv =>
    Nat.lt_of_le_of_lt (hdigits r hr v hv) (by decide : 9 < 208)
  have htext := modeText_plain d s R
  have hmonth := month_settles_plain_iff (p := p) (d := d) (s := s) hlen
  have hyear := year_settles_plain_iff (p := p) (d := d) (s := s) hlen
  refine ⟨plain d s R, ofReadings_eq_ok hlen d s, fun e he => ?_, ?_, fun card hcard => ?_⟩
  -- a fault is the Luhn check's
  · rw [← htext]
    exact assess_eq_error_of_modes hs hmodes he
  -- the gates, read on the votes
  · rw [assess_ready_iff_of_modes hs hmodes, positions_settle_plain_iff hlen, hmonth, hyear,
      bestFrame_plain_isSome, htext]
  -- the card of the first best reading
  · obtain ⟨score, cands, hbest, rfl⟩ := assess_eq_ready_of_modes hs hmodes hcard
    rw [htext]
    obtain ⟨hsettled, hunsettled⟩ := cardOf_expiry_plain (p := p) (d := d) (s := s) hlen
      (modeText R d) cands
    rcases bestFrame_plain d s R hnum with ⟨hnone, -⟩ | ⟨r, hr, hbest'⟩
    · rw [hnone] at hbest
      cases hbest
    · rw [hbest] at hbest'
      cases hbest'
      exact ⟨rfl, hsettled, hunsettled, r, hr, cardOf_xOffsets _ _ _ _, cardOf_anchor _ _ _ _⟩

/-- One reading of the digit 4 with one number group, under a policy of one frame and no
    expiry: its tally is ready. -/
theorem assess_ofReadings_ready_iff_one_reading :
    let R : List FrameReading :=
      [{ digits := [.value 4], candidates := [{ xOffsets := [3], yOffset := 7, confidence := 0.9 }] }]
    let p : AggregatorConfig := { confidenceThreshold := 0.5, minFrames := 1, requireExpiry := false }
    R.length < 2 ^ 32 ∧ (∀ r ∈ R, ∀ v, Vote.value v ∈ r.digits → v ≤ 9) ∧
      (∀ r ∈ R, Float32.IsNum r.score) ∧
      ∃ t, ofReadings 1 1 R = .ok t ∧ ∃ card, t.assess p = .ok (.ready card) ∧
        card.numbers = modeText R 1 := by
  intro R p
  have hdigits : ∀ r ∈ R, ∀ v, Vote.value v ∈ r.digits → v ≤ 9 := by
    intro r hr v hv
    simp only [R, List.mem_singleton] at hr
    subst hr
    simp only [List.mem_singleton, Vote.value.injEq] at hv
    omega
  have hnum : ∀ r ∈ R, Float32.IsNum r.score := by
    intro r hr
    simp only [R, List.mem_singleton] at hr
    subst hr
    exact (Float32.isNum_of_lt (show FrameReading.score _ < 2 by decide)).1
  obtain ⟨t, ht, -, hready, hcard⟩ := assess_ofReadings_ready_iff p 1 1 R (by decide) hdigits hnum
  -- the one position holds a single vote, a share of one
  have hsettles : Settles p [4] := ⟨by decide, by decide, 4, rfl, by decide⟩
  obtain ⟨card, hc⟩ := hready.2 ⟨fun i hi => by
    obtain rfl : i = 0 := by omega
    exact hsettles, fun h => absurd h (by decide), ⟨_, List.mem_singleton_self _, rfl⟩,
    fun h => absurd h (by decide)⟩
  exact ⟨by decide, hdigits, hnum, t, ht, card, hc, (hcard card hc).1⟩

end Readings

end VoteTally

end CardOcr
