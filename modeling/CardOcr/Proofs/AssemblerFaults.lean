import CardOcr.Proofs.Readings
import CardOcr.Proofs.BlurKernel
import CardOcr.Proofs.LuhnErrors

/-!
# Votes of any byte

The read assembler takes votes and glyph labels of any byte value, while its arithmetic is on
bytes and machine words with every step checked.  Several steps can therefore fault:

- an `MM/YY` field combines two labels `a, b` into the byte `10 a + b`: adding an expiry faults
  exactly when all four labels are read and the month pair, or for a month `1 .. 12` the year
  pair, makes 256 or more (`FrameReading.ExpiryOverflows`);
- the positions of a group are words: adding a group faults exactly when its last position does
  not fit one;
- the counters of a histogram are 32-bit words and the frame count a 64-bit word: recording a
  reading faults exactly when one of them would overflow (`VoteTally.Room`), and judging a
  histogram of `2³²` value votes or more overflows its total;
- a position's mode `m` is written as the character of code `48 + m`, a byte: on a tally whose
  totals fit, the assessment faults exactly when it gets as far as writing the number and some
  mode is 208 or more, or the Luhn check it then makes overflows its sum.

A mode of 80 to 207 is written as a character of two bytes, and masking the number cuts it at a
byte offset, which may fall inside such a character.  Fewer than `2³²` readings with votes below
208, for a number of fewer than `2³² / 9` positions, avoid every fault; with votes below 80 the
number of a ready card is ASCII, and masking and displaying it complete.

## Key results

- `FrameReading.addExpiry_ok_iff`, `FrameReading.addGroup_ok_iff`: when adding glyphs succeeds
- `VoteTally.assess_eq_error_iff`: when the assessment of a tally whose totals fit faults
- `CardInfo.redacted_ok_of_ascii`: an ASCII number is masked without a fault
- `VoteTally.aggregation_total_of_small_votes`: the exact faults of the API, and its totality
  on small votes
-/

open Except

namespace CardOcr

namespace FrameReading

/-! ## Adding glyphs -/

/-- Two labels make a two-digit number when it fits a byte. -/
theorem twoDigits_of_lt {a b : Nat} (h : a * 10 + b < 256) : twoDigits a b = .ok (a * 10 + b) := by
  have hmul : a * 10 < 2 ^ 8 := by
    show a * 10 < 256
    omega
  unfold twoDigits
  rw [checkedMul_of_lt hmul]
  exact checkedAdd_of_lt h

/-- Two labels whose two-digit number does not fit a byte fault, in the product or the sum. -/
theorem twoDigits_of_le {a b : Nat} (h : 256 ≤ a * 10 + b) : ∃ f, twoDigits a b = .error f := by
  unfold twoDigits
  by_cases hmul : a * 10 < 2 ^ 8
  · rw [checkedMul_of_lt hmul]
    exact ⟨_, checkedAdd_of_le h⟩
  · rw [checkedMul_of_le (Nat.le_of_not_lt hmul)]
    exact ⟨_, rfl⟩

/-- The labels of an `MM/YY` field whose numbers overflow a byte: all four are read, and the
    month pair makes 256 or more, or it makes a month `1 .. 12` and the year pair makes 256 or
    more. -/
def ExpiryOverflows : List (Option Nat) → Prop
  | [some m0, some m1, some y0, some y1] =>
    256 ≤ m0 * 10 + m1 ∨ (1 ≤ m0 * 10 + m1 ∧ m0 * 10 + m1 ≤ 12 ∧ 256 ≤ y0 * 10 + y1)
  | _ => False

/-- Labels that overflow are four read labels. -/
theorem ExpiryOverflows.shape {labels : List (Option Nat)} (h : ExpiryOverflows labels) :
    ∃ m0 m1 y0 y1, labels = [some m0, some m1, some y0, some y1] := by
  unfold ExpiryOverflows at h
  split at h
  · exact ⟨_, _, _, _, rfl⟩
  · exact h.elim

/-- Adding an expiry succeeds exactly when its labels do not overflow a byte. -/
theorem addExpiry_ok_iff (r : FrameReading) (c : DigitCandidate) (labels : List (Option Nat)) :
    (∃ r', r.addExpiry c labels = .ok r') ↔ ¬ExpiryOverflows labels := by
  unfold addExpiry
  split
  · rename_i m0 m1 y0 y1
    simp only [ExpiryOverflows, not_or, not_and, Nat.not_le]
    by_cases hm : m0 * 10 + m1 < 256
    · rw [twoDigits_of_lt hm]
      by_cases hmonth : 1 ≤ m0 * 10 + m1 ∧ m0 * 10 + m1 ≤ 12
      · -- a month: the year pair is read too
        have hcond : (decide (1 ≤ m0 * 10 + m1) && decide (m0 * 10 + m1 ≤ 12)) = true := by
          simpa using hmonth
        by_cases hy : y0 * 10 + y1 < 256
        · rw [twoDigits_of_lt hy]
          simp [hcond, hm, hy, bind, Except.bind, pure, Except.pure]
        · obtain ⟨f, hf⟩ := twoDigits_of_le (Nat.le_of_not_lt hy)
          simp [hf, bind, Except.bind, hmonth.1, hmonth.2, hy]
      · -- not a month: both votes are rejects
        have hcond : (decide (1 ≤ m0 * 10 + m1) && decide (m0 * 10 + m1 ≤ 12)) = false := by
          simpa using hmonth
        simp only [not_and, Nat.not_le] at hmonth
        simp [hcond, hm, bind, Except.bind, pure, Except.pure]
        omega
    · obtain ⟨f, hf⟩ := twoDigits_of_le (Nat.le_of_not_lt hm)
      simp [hf, bind, Except.bind, hm]
  · -- any other labels reject both votes
    rename_i hnot
    refine ⟨fun _ hover => ?_, fun _ => ⟨_, rfl⟩⟩
    obtain ⟨m0, m1, y0, y1, rfl⟩ := hover.shape
    exact hnot m0 m1 y0 y1 rfl

/-- Adding a group succeeds exactly when it has no labels or its last position fits a word. -/
theorem addGroup_ok_iff (r : FrameReading) (first : Nat) (c : DigitCandidate)
    (labels : List (Option Nat)) :
    (∃ r', r.addGroup first c labels = .ok r') ↔
      labels = [] ∨ first + (labels.length - 1) < 2 ^ 64 := by
  unfold addGroup
  split
  · rename_i hover
    simp only [Bool.and_eq_true, Bool.not_eq_true', List.isEmpty_eq_false_iff,
      decide_eq_true_eq] at hover
    simp only [reduceCtorEq, exists_false, false_iff, not_or, Nat.not_lt]
    exact ⟨hover.1, by simpa [Nat.pow_eq] using hover.2⟩
  · rename_i hfit
    simp only [Bool.and_eq_true, Bool.not_eq_true', List.isEmpty_eq_false_iff,
      decide_eq_true_eq, not_and, Nat.not_le] at hfit
    refine ⟨fun _ => ?_, fun _ => ⟨_, rfl⟩⟩
    by_cases hnil : labels = []
    · exact .inl hnil
    · exact .inr (by simpa [Nat.pow_eq] using hfit hnil)

end FrameReading

/-! ## Writing the number -/

/-- A mode is written as a character exactly when it is below 208. -/
theorem digitChar_ok_iff (d : Nat) : (∃ ch, digitChar d = .ok ch) ↔ d < 208 := by
  refine ⟨fun ⟨ch, h⟩ => ?_, fun h => ⟨_, digitChar_of_lt h⟩⟩
  by_contra hge
  have hover : 2 ^ 8 ≤ 48 + d := by
    show 256 ≤ 48 + d
    omega
  simp [digitChar, checkedAdd_of_le hover, bind, Except.bind] at h

/-- Modes are written as characters exactly when all are below 208. -/
theorem mapM_digitChar_ok_iff (ds : List Nat) :
    (∃ chars, ds.mapM digitChar = .ok chars) ↔ ∀ d ∈ ds, d < 208 := by
  refine ⟨?_, fun h => ⟨_, mapM_digitChar_of_lt h⟩⟩
  rintro ⟨chars, h⟩
  induction ds generalizing chars with
  | nil => simp
  | cons d ds ih =>
    rw [List.mapM_cons] at h
    cases hd : digitChar d with
    | error f => simp [hd, bind, Except.bind] at h
    | ok ch =>
      -- the rest of the modes were written too
      cases hds : ds.mapM digitChar with
      | error f => simp [hd, hds, bind, Except.bind] at h
      | ok chs =>
        intro e he
        rcases List.mem_cons.1 he with rfl | he
        · exact (digitChar_ok_iff e).1 ⟨ch, hd⟩
        · exact ih chs hds e he

namespace VoteTally

/-- The assessment of a tally whose totals fit faults exactly when every position is settled,
    the month and year are if an expiry is required, a best frame is kept, and some position's
    mode is 208 or more, or the Luhn check is required and overflows on the modes'
    characters. -/
theorem assess_eq_error_iff (p : AggregatorConfig) {t : VoteTally} (hs : t.Small) :
    (∃ f, t.assess p = .error f) ↔
      (∀ x ∈ t.positions, x.settles p = true) ∧
      (p.requireExpiry = true → t.month.settles p = true ∧ t.year.settles p = true) ∧
      t.bestFrame.isSome ∧
      ((∃ m ∈ t.positions.filterMap Histogram.mode, 208 ≤ m) ∨
        p.requireLuhn = true ∧ ∃ f,
          luhnValid (String.ofList ((t.positions.filterMap Histogram.mode).map digitOf)) =
            .error f) := by
  constructor
  · rintro ⟨f, hf⟩
    obtain ⟨hpos, hexp, hbest, hfault⟩ := assess_eq_error hs hf
    refine ⟨hpos, hexp, hbest, ?_⟩
    by_cases hsmall : ∀ m ∈ t.positions.filterMap Histogram.mode, m < 208
    -- every mode is a character: the fault is the Luhn check's
    · rw [mapM_digitChar_of_lt hsmall] at hfault
      rcases hfault with hc | ⟨chars, hc, hl, hv⟩
      · cases hc
      · cases hc
        exact .inr ⟨hl, f, hv⟩
    · simp only [not_forall, Nat.not_lt] at hsmall
      obtain ⟨m, hm, hge⟩ := hsmall
      exact .inl ⟨m, hm, hge⟩
  · rintro ⟨hpos, hexp, hbest, hfault⟩
    obtain ⟨⟨score, cands⟩, hb⟩ := Option.isSome_iff_exists.1 hbest
    rw [assess_eq_readyOf hs hpos hexp hb]
    unfold readyOf
    by_cases hsmall : ∀ m ∈ t.positions.filterMap Histogram.mode, m < 208
    -- the characters are written, and the check overflows
    · rcases hfault with ⟨m, hm, hge⟩ | ⟨hl, f, hv⟩
      · exact absurd (hsmall m hm) (Nat.not_lt.2 hge)
      · rw [mapM_digitChar_of_lt hsmall]
        dsimp only
        rw [if_pos hl, hv]
        exact ⟨f, rfl⟩
    -- a mode is no character
    · cases hc : (t.positions.filterMap Histogram.mode).mapM digitChar with
      | error f => exact ⟨f, rfl⟩
      | ok chars => exact absurd ((mapM_digitChar_ok_iff _).1 ⟨chars, hc⟩) hsmall

/-- The modes' characters of a tally of `d` positions number at most `d`. -/
theorem length_modes_le (t : VoteTally) :
    ((t.positions.filterMap Histogram.mode).map digitOf).length ≤ t.positions.length := by
  rw [List.length_map]
  exact List.length_filterMap_le _ _

end VoteTally

/-! ## Masking the number -/

namespace CardInfo

/-- In a text of one-byte characters every offset is a character boundary, so cutting it
    from any byte on succeeds. -/
theorem bytesFrom_go_ok_of_ascii (start : Nat) (cs : List Char) (pos : Nat)
    (h : ∀ ch ∈ cs, ch.utf8Size = 1) : ∃ tail, bytesFrom.go start cs pos = .ok tail := by
  induction cs generalizing pos with
  | nil => exact ⟨_, rfl⟩
  | cons c cs ih =>
    have hc := h c List.mem_cons_self
    unfold bytesFrom.go
    split
    · exact ⟨_, rfl⟩
    · -- no offset lies strictly inside a one-byte character
      rw [if_neg (by simp only [hc, Bool.and_eq_true, decide_eq_true_eq]; omega)]
      exact ih (pos + c.utf8Size) fun ch hch => h ch (List.mem_cons_of_mem c hch)

/-- A number of ASCII characters is masked, and displayed, without a fault. -/
theorem redacted_ok_of_ascii (c : CardInfo) (h : ∀ ch ∈ c.numbers.toList, ch.utf8Size = 1) :
    (∃ text, c.redacted = .ok text) ∧ ∃ text, c.display = .ok text := by
  obtain ⟨tail, htail⟩ := bytesFrom_go_ok_of_ascii (c.numbers.utf8ByteSize - 4) _ 0 h
  have hred : c.redacted = .ok ("•••• " ++ tail) := by
    simp [redacted, bytesFrom, htail, bind, Except.bind, pure, Except.pure]
  refine ⟨⟨_, hred⟩, ?_⟩
  simp only [display, hred, bind, Except.bind, pure, Except.pure]
  exact ⟨_, rfl⟩

end CardInfo

/-- The character of a value below 80 is ASCII, one byte long. -/
theorem digitOf_utf8Size {d : Nat} (h : d < 80) : (digitOf d).utf8Size = 1 := by
  have hall : ∀ k : Fin 80, (digitOf k).utf8Size = 1 := by decide
  exact hall ⟨d, h⟩

namespace VoteTally

/-- **Votes of any byte.**  Adding a group of labels succeeds exactly when it has none or its
    last position fits a word; adding an `MM/YY` field succeeds exactly when its labels do not
    overflow a byte; recording a reading succeeds exactly when every counter it adds to has
    room.  A position of `2³²` value votes or more overflows the assessment; on a tally whose
    totals fit, an assessment faults exactly when it gets to write the number and some
    position's mode is 208 or more or the Luhn check overflows.  Fewer than `2³²` readings
    whose value votes are below 208, for fewer than `2³² / 9` positions, are recorded and
    assessed without a fault, and the Luhn check of a ready card completes; when the votes are
    below 80 the number of a ready card is ASCII, so masking and displaying it complete. -/
theorem aggregation_total_of_small_votes (p : AggregatorConfig) (d s : Nat)
    (R : List FrameReading) :
    (∀ (r : FrameReading) first c labels, (∃ r', r.addGroup first c labels = .ok r') ↔
      labels = [] ∨ first + (labels.length - 1) < 2 ^ 64) ∧
    (∀ (r : FrameReading) c labels, (∃ r', r.addExpiry c labels = .ok r') ↔
      ¬FrameReading.ExpiryOverflows labels) ∧
    (∀ (t : VoteTally) r, (∃ t', t.record r = .ok t') ↔ t.Room r) ∧
    (∀ t : VoteTally, (∃ x ∈ t.positions, 2 ^ 32 ≤ x.votes) →
      t.assess p = .error .addOverflow) ∧
    (∀ t : VoteTally, t.Small → ((∃ f, t.assess p = .error f) ↔
      (∀ x ∈ t.positions, x.settles p = true) ∧
      (p.requireExpiry = true → t.month.settles p = true ∧ t.year.settles p = true) ∧
      t.bestFrame.isSome ∧
      ((∃ m ∈ t.positions.filterMap Histogram.mode, 208 ≤ m) ∨
        p.requireLuhn = true ∧ ∃ f,
          luhnValid (String.ofList ((t.positions.filterMap Histogram.mode).map digitOf)) =
            .error f))) ∧
    (R.length < 2 ^ 32 → 9 * d < 2 ^ 32 → (∀ r ∈ R, ∀ v, Vote.value v ∈ r.digits → v < 208) →
      ∃ t, ofReadings d s R = .ok t ∧ ∃ a, t.assess p = .ok a ∧ ∀ card, a = .ready card →
        (∃ b, card.luhnValid = .ok b) ∧
        ((∀ r ∈ R, ∀ v, Vote.value v ∈ r.digits → v < 80) →
          (∃ text, card.redacted = .ok text) ∧ ∃ text, card.display = .ok text)) := by
  refine ⟨FrameReading.addGroup_ok_iff, FrameReading.addExpiry_ok_iff, record_ok_iff,
    fun t ht => assess_eq_overflow_of_large ht p, fun t hs => assess_eq_error_iff p hs,
    fun hlen hd hsmall => ?_⟩
  have hs := small_plain hlen d s
  have hmodes := modes_plain_lt (d := d) (s := s) hsmall
  -- the number has at most `d` characters, too few for its Luhn sum to overflow
  obtain ⟨b, hb⟩ : ∃ b, luhnValid (String.ofList
      (((plain d s R).positions.filterMap Histogram.mode).map digitOf)) = .ok b := by
    apply luhnValid_ok_of_length
    have hle := length_modes_le (plain d s R)
    have hpos : (plain d s R).positions.length = d := by
      rw [positions_plain, List.length_map, List.length_range]
    rw [String.length_ofList]
    omega
  have hok : ∃ a, (plain d s R).assess p = .ok a := by
    cases ha : (plain d s R).assess p with
    | ok a => exact ⟨a, rfl⟩
    | error f =>
      obtain ⟨-, -, -, ⟨m, hm, hge⟩ | ⟨-, f', hf'⟩⟩ := (assess_eq_error_iff p hs).1 ⟨f, ha⟩
      · exact absurd (hmodes m hm) (Nat.not_lt.2 hge)
      · rw [hb] at hf'
        cases hf'
  obtain ⟨a, ha⟩ := hok
  refine ⟨plain d s R, ofReadings_eq_ok hlen d s, a, ha, fun card hcard => ?_⟩
  subst hcard
  -- the number is the modes' characters
  obtain ⟨score, cands, -, rfl⟩ := assess_eq_ready_of_modes hs hmodes ha
  refine ⟨⟨b, by rw [CardInfo.luhnValid, cardOf_numbers, hb]⟩, fun hascii => ?_⟩
  apply CardInfo.redacted_ok_of_ascii
  rw [cardOf_numbers, String.toList_ofList]
  intro ch hch
  obtain ⟨m, hm, rfl⟩ := List.mem_map.1 hch
  exact digitOf_utf8Size (modes_plain_lt hascii m hm)

/-- One reading of small votes: two digits and a value vote of 79, whose tally is assessed
    without a fault. -/
theorem aggregation_total_of_small_votes_one_reading :
    (∀ r ∈ [({ digits := [.value 4, .value 79] } : FrameReading)], ∀ v,
      Vote.value v ∈ r.digits → v < 208) ∧
    ∃ t, ofReadings 2 0 [{ digits := [.value 4, .value 79] }] = .ok t ∧
      ∃ a, t.assess {} = .ok a := by
  have hsmall : ∀ r ∈ [({ digits := [.value 4, .value 79] } : FrameReading)], ∀ v,
      Vote.value v ∈ r.digits → v < 208 := by
    intro r hr v hv
    simp only [List.mem_singleton] at hr
    subst hr
    simp only [List.mem_cons, Vote.value.injEq, List.not_mem_nil, or_false] at hv
    omega
  obtain ⟨t, ht, a, ha, -⟩ :=
    (aggregation_total_of_small_votes {} 2 0 _).2.2.2.2.2 (by decide) (by decide) hsmall
  exact ⟨hsmall, t, ht, a, ha⟩

/-- Labels that are no digits: an `MM/YY` field read as `26 0 / 0 0` overflows the byte of its
    month instead of rejecting the impossible month; a position whose mode is 208 faults when
    the number is written; and a mode of 100 is a character of two bytes that masking the
    number `\x94 1 1 1` cuts inside. -/
theorem aggregation_faults_on_large_votes :
    (FrameReading.empty 0).addExpiry {} [some 26, some 0, some 0, some 0] =
        .error .mulOverflow ∧
      (∃ t, ofReadings 1 0 [{ digits := [.value 208] }] = .ok t ∧ ∃ f, t.assess
        { confidenceThreshold := 0, minFrames := 1, requireExpiry := false } = .error f) ∧
      ∃ t, ofReadings 4 0 [{ digits := [.value 100, .value 1, .value 1, .value 1] }] = .ok t ∧
        ∃ card, t.assess { confidenceThreshold := 0, minFrames := 1, requireExpiry := false } =
            .ok (.ready card) ∧ ∃ f, card.redacted = .error f :=
  ⟨rfl, ⟨_, rfl, _, rfl⟩, _, rfl, _, rfl, _, rfl⟩

end VoteTally

end CardOcr
