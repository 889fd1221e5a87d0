import CardOcr.Proofs.Detection
import CardOcr.Proofs.Assessment
import CardOcr.Proofs.SessionSteps

/-!
# Sound readings and the cards they complete

A frame's reading is *sound* for a layout (`FrameReading.Sound`) when its digit votes are
digits, its month vote a month and its year vote below a hundred, and, when it found every
number group, its number-group candidates fill the layout's number slots in order.  Every
reading a session takes of a corrected card is sound: the classifier only labels digits, the
expiry is only read as a valid month, and the detector fills the slots it finds.

A card completed by a tally of sound readings fits the layout and the policy
(`CardInfo.Fits`): its number has one ASCII digit per position, its offsets are those of
candidates filling the number slots in group order, its expiry month is a month or zero (and
then so is its year), its year has two digits, and what the policy requires holds.

## Key results

- `Session.readCorrected_okIn`: every reading of a corrected card is sound
- `VoteTally.assess_ofReadings_fits`: a card completed by sound readings fits
- `CardInfo.Fits.offsets_by_group`: its offsets are those of its groups, in group order
-/

open Except

namespace CardOcr

/-! ## Votes within bounds -/

/-- A vote for a value in `lo .. hi`, or a vote for no value. -/
def Vote.Within (lo hi : Nat) : Vote → Prop
  | .value v => lo ≤ v ∧ v ≤ hi
  | .reject => True
  | .absent => True

@[simp] theorem Vote.within_value (lo hi v : Nat) : (Vote.value v).Within lo hi ↔ lo ≤ v ∧ v ≤ hi :=
  Iff.rfl

@[simp] theorem Vote.within_reject (lo hi : Nat) : Vote.reject.Within lo hi := trivial

@[simp] theorem Vote.within_absent (lo hi : Nat) : Vote.absent.Within lo hi := trivial

/-- The votes of a value vote within bounds. -/
theorem Vote.Within.of_mem_values {lo hi : Nat} {vs : List Vote} (h : ∀ v ∈ vs, v.Within lo hi)
    {m : Nat} (hm : m ∈ Vote.values vs) : lo ≤ m ∧ m ≤ hi := by
  obtain ⟨v, hv, hvm⟩ := List.mem_filterMap.1 hm
  cases v with
  | value w => cases hvm; exact h _ hv
  | reject => cases hvm
  | absent => cases hvm

/-- The mode of votes within bounds is within them. -/
theorem Vote.Within.mode {lo hi : Nat} {vs : List Vote} (h : ∀ v ∈ vs, v.Within lo hi)
    {m : Nat} (hm : (vs.foldl Histogram.add {}).mode = some m) : lo ≤ m ∧ m ≤ hi := by
  rw [Histogram.mode_foldl_add] at hm
  exact Vote.Within.of_mem_values h (mem_of_modeOf hm)

namespace FrameReading

/-! ## Adding the glyphs of a candidate -/

/-- The vote of a digit label is a digit. -/
theorem labelVote_within {l : Option Nat} (h : ∀ d, l = some d → d < 10) :
    (labelVote l).Within 0 9 := by
  cases l with
  | none => trivial
  | some d =>
    have hd := h d rfl
    exact ⟨Nat.zero_le d, by omega⟩

/-- Adding a number group of digit labels keeps the digit votes digits, and the candidate. -/
theorem addGroup_okIn (r : FrameReading) (first : Nat) (c : DigitCandidate)
    (labels : List (Option Nat)) (hr : ∀ v ∈ r.digits, v.Within 0 9)
    (hl : ∀ x ∈ labels, ∀ d, x = some d → d < 10) :
    (r.addGroup first c labels).OkIn fun r' => (∀ v ∈ r'.digits, v.Within 0 9) ∧
      r'.month = r.month ∧ r'.year = r.year ∧ r'.candidates = r.candidates ++ [c] := by
  unfold addGroup
  split
  · simp
  · rw [okIn_ok]
    refine ⟨fun v hv => ?_, rfl, rfl, rfl⟩
    obtain ⟨i, hi, rfl⟩ := List.mem_mapIdx.1 hv
    -- a position of the group takes its label's vote, any other keeps its own
    split
    · cases hlab : labels[i - first]? with
      | none => exact hr _ (List.getElem_mem hi)
      | some x => exact labelVote_within (hl x (List.mem_of_getElem? hlab))
    · exact hr _ (List.getElem_mem hi)

/-- A checked sum is the sum. -/
theorem checkedAdd_okIn (bits a b : Nat) : (checkedAdd bits a b).OkIn (· = a + b) := by
  unfold checkedAdd
  split <;> simp

/-- A checked product is the product. -/
theorem checkedMul_okIn (bits a b : Nat) : (checkedMul bits a b).OkIn (· = a * b) := by
  unfold checkedMul
  split <;> simp

/-- Two digits make their two-digit number. -/
theorem twoDigits_okIn (a b : Nat) : (twoDigits a b).OkIn (· = a * 10 + b) := by
  unfold twoDigits
  simp only [okIn_bind]
  intro t ht
  rw [checkedMul_okIn 8 a 10 t ht]
  exact checkedAdd_okIn 8 (a * 10) b

/-- Adding an expiry of digit labels votes a month and a year below a hundred, and keeps the
    digit votes and the candidate. -/
theorem addExpiry_okIn (r : FrameReading) (c : DigitCandidate) (labels : List (Option Nat))
    (hl : ∀ x ∈ labels, ∀ d, x = some d → d < 10) :
    (r.addExpiry c labels).OkIn fun r' => r'.digits = r.digits ∧ r'.month.Within 1 12 ∧
      r'.year.Within 0 99 ∧ r'.candidates = r.candidates ++ [c] := by
  unfold addExpiry
  split
  -- four labels read as `MM/YY`: a month `1 .. 12` votes itself and its year
  · rename_i m0 m1 y0 y1
    have hy0 := hl (some y0) (by simp) y0 rfl
    have hy1 := hl (some y1) (by simp) y1 rfl
    simp only [okIn_bind, okIn_ite, okIn_pure, pure_bind, true_and, and_true]
    intro m _
    constructor
    · intro hm y hy
      rw [twoDigits_okIn y0 y1 y hy]
      simp only [Bool.and_eq_true, decide_eq_true_eq] at hm
      exact ⟨hm, Nat.zero_le _, by omega⟩
    · intro _
      exact ⟨trivial, trivial⟩
  -- any other labels reject the expiry
  · simp

/-! ## Sound readings -/

/-- A reading a session can take under a layout: digit votes are digits, the month vote a
    month, the year vote below a hundred, and a reading that found every number group has
    candidates filling the number slots in order. -/
structure Sound (l : CardLayout) (r : FrameReading) : Prop where
  digits : ∀ v ∈ r.digits, v.Within 0 9
  month : r.month.Within 1 12
  year : r.year.Within 0 99
  groups : r.numberSlotsFound = l.numberSlots.length →
    List.Forall₂ (fun slot c => DigitCandidate.Fills c slot) l.numberSlots
      (r.candidates.filter (·.kind.isNumberGroup))

end FrameReading

namespace Session

/-- Reading a detection votes digits, a month and a year below a hundred, and keeps the
    detection's candidates. -/
theorem readDetection_okIn (s : Session) (d : Detection) :
    (s.readDetection d).OkIn fun r => (∀ v ∈ r.digits, v.Within 0 9) ∧ r.month.Within 1 12 ∧
      r.year.Within 0 99 ∧ r.candidates = d.candidates := by
  unfold readDetection
  -- the invariant of the fold: the votes so far are within bounds and the candidates are
  -- those read so far
  apply okIn_foldlM (I := fun (pre : List DigitCandidate) (r : FrameReading) =>
    (∀ v ∈ r.digits, v.Within 0 9) ∧ r.month.Within 1 12 ∧ r.year.Within 0 99 ∧
      r.candidates = pre)
  · intro pre c r ⟨hdig, hmon, hyr, hcand⟩
    simp only [okIn_bind]
    intro gs hgs
    have hl : ∀ x ∈ gs.map (·.label), ∀ d, x = some d → d < 10 := by
      intro x hx
      obtain ⟨g, hg, rfl⟩ := List.mem_map.1 hx
      exact s.reader.read_okIn d.image c gs hgs g hg
    split
    · refine (r.addGroup_okIn _ c _ hdig hl).mono ?_
      rintro r' ⟨hdig', hmon', hyr', hcand'⟩
      exact ⟨hdig', hmon' ▸ hmon, hyr' ▸ hyr, hcand'.trans (hcand ▸ rfl)⟩
    · refine (r.addExpiry_okIn c _ hl).mono ?_
      rintro r' ⟨hdig', hmon', hyr', hcand'⟩
      exact ⟨hdig' ▸ hdig, hmon', hyr', hcand'.trans (hcand ▸ rfl)⟩
  · exact ⟨by simp [FrameReading.empty], trivial, trivial, rfl⟩

/-- Every reading of a corrected card is sound for a regular layout. -/
theorem readCorrected_okIn (s : Session) (c : CorrectedImage) (hl : s.layout.Regular) :
    (s.readCorrected c).OkIn fun x => x.1.Sound s.layout := by
  unfold readCorrected
  simp only [okIn_bind, okIn_pure]
  intro d hd reading hr
  obtain ⟨hdig, hmon, hyr, hcand⟩ := s.readDetection_okIn d reading hr
  have hshape := s.layout.detect_okIn s.config.detector c.image d hd
  -- the number-group candidates read are the detection's number groups
  have hfilter : reading.candidates.filter (·.kind.isNumberGroup) = d.number := by
    rw [hcand]
    exact hshape.filter_isNumberGroup hl
  refine ⟨hdig, hmon, hyr, fun hfound => ?_⟩
  rw [hfilter]
  apply hshape.fills_all
  rw [← hfilter]
  exact hfound

end Session

/-! ## Cards of sound readings -/

namespace VoteTally

/-- An update records the reading and assesses the new tally. -/
theorem update_eq_ok {p : AggregatorConfig} {t t' : VoteTally} {r : FrameReading}
    {a : Assessment} (h : update p t r = .ok (t', a)) :
    t.record r = .ok t' ∧ t'.assess p = .ok a := by
  unfold update at h
  simp only [bind, Except.bind, pure, Except.pure] at h
  cases hr : t.record r with
  | error e => simp only [hr] at h; cases h
  | ok t1 =>
    simp only [hr] at h
    cases ha : t1.assess p with
    | error e => simp only [ha] at h; cases h
    | ok a' =>
      simp only [ha, Except.ok.injEq, Prod.mk.injEq] at h
      obtain ⟨rfl, rfl⟩ := h
      exact ⟨rfl, ha⟩

end VoteTally

/-- A digit value's character is an ASCII digit. -/
theorem digitOf_isDigit {d : Nat} (h : d ≤ 9) : (digitOf d).isDigit = true := by
  have hall : ∀ k : Fin 10, (digitOf k).isDigit = true := by decide
  exact hall ⟨d, by omega⟩

namespace DigitCandidate

variable {slots : List SlotLayout} {cands : List DigitCandidate}

/-- Candidates filling slots have the slots' kinds. -/
theorem kinds_of_fills (h : List.Forall₂ (fun slot c => Fills c slot) slots cands) :
    cands.map (·.kind) = slots.map (·.kind) := by
  induction h with
  | nil => rfl
  | cons hc _ ih => simp only [List.map_cons, hc.1, ih]

/-- Candidates filling slots have one offset per digit cell. -/
theorem offsets_of_fills (h : List.Forall₂ (fun slot c => Fills c slot) slots cands) :
    cands.map (·.xOffsets.length) = slots.map SlotLayout.digitCount := by
  induction h with
  | nil => rfl
  | cons hc _ ih => simp only [List.map_cons, hc.2, ih]

/-- Candidates filling the number slots of a regular layout are in group order already. -/
theorem mergeSort_of_fills {l : CardLayout} (hl : l.Regular)
    (h : List.Forall₂ (fun slot c => Fills c slot) l.numberSlots cands) :
    cands.mergeSort (fun a b => a.kind.groupIndex ≤ b.kind.groupIndex) = cands := by
  apply List.mergeSort_of_pairwise
  -- the candidates' group indices are `0, 1, 2, ...`
  have hidx : cands.map (·.kind.groupIndex) = List.range l.numberSlots.length := by
    have hk := (kinds_of_fills h).trans hl.numberKinds
    have := congrArg (List.map CandidateKind.groupIndex) hk
    simp only [List.map_map] at this
    rw [show (CandidateKind.groupIndex ∘ CandidateKind.numberGroup) = id from rfl,
      List.map_id] at this
    exact this
  have hlt : (cands.map (·.kind.groupIndex)).Pairwise (· < ·) := hidx ▸ List.pairwise_lt_range
  rw [List.pairwise_map] at hlt
  exact hlt.imp fun hab => decide_eq_true (Nat.le_of_lt hab)

end DigitCandidate

/-- What a card completed under a layout and a policy is: a number of one ASCII digit per
    position; the offsets of candidates filling the number slots, in group order; an expiry
    month that is a month, or zero and then with a zero year; a year below a hundred; and an
    expiry and a valid Luhn check when the policy requires them. -/
structure CardInfo.Fits (l : CardLayout) (p : AggregatorConfig) (card : CardInfo) : Prop where
  numbers : card.numbers.length = l.digitCount
  digits : ∀ ch ∈ card.numbers.toList, ch.isDigit = true
  groups : ∃ cands, List.Forall₂ (fun slot c => DigitCandidate.Fills c slot) l.numberSlots cands ∧
    card.xOffsets = cands.flatMap (·.xOffsets)
  month : card.expiryMonth = 0 ∨ 1 ≤ card.expiryMonth ∧ card.expiryMonth ≤ 12
  year : card.expiryYear ≤ 99
  noExpiry : card.expiryMonth = 0 → card.expiryYear = 0
  expiry : p.requireExpiry = true → card.expiryMonth ≠ 0
  luhn : p.requireLuhn = true → card.luhnValid = .ok true

namespace VoteTally

/-- A card completed by a tally of sound readings fits the layout and the policy. -/
theorem assess_ofReadings_fits {l : CardLayout} (hl : l.Regular) {p : AggregatorConfig}
    {R : List FrameReading} (hR : ∀ r ∈ R, r.Sound l) {t : VoteTally} {card : CardInfo}
    (ht : ofReadings l.digitCount l.numberSlots.length R = .ok t)
    (h : t.assess p = .ok (.ready card)) : card.Fits l p := by
  obtain ⟨hpos, ok, hok, hexp, score, cands, chars, hbest, hchars, hluhn, hcard⟩ :=
    assess_eq_ready_judged h
  obtain rfl := eq_plain_of_ofReadings ht
  -- the position modes are digits, one per position
  have hmodes : ∀ m ∈ (plain l.digitCount l.numberSlots.length R).positions.filterMap
      Histogram.mode, m < 10 :=
    modes_plain_lt fun r hr v hv => Nat.lt_succ_of_le ((hR r hr).digits _ hv).2
  rw [mapM_digitChar_of_lt fun m hm => Nat.lt_trans (hmodes m hm) (by decide)] at hchars
  cases hchars
  have hlen : ((plain l.digitCount l.numberSlots.length R).positions.filterMap
      Histogram.mode).length = l.digitCount := by
    rw [List.filterMap_length_eq_length.2 fun x hx => Histogram.mode_isSome_of_votes_pos
      (Histogram.votes_pos_of_settles (Histogram.settles_of_settled (hpos x hx)))]
    simp [positions_plain]
  have hnumbers : card.numbers.length = l.digitCount := by
    rw [hcard, cardOf_numbers, String.length_ofList, List.length_map, hlen]
  have hascii : ∀ ch ∈ card.numbers.toList, ch.isDigit = true := by
    rw [hcard, cardOf_numbers, String.toList_ofList]
    intro ch hch
    obtain ⟨m, hm, rfl⟩ := List.mem_map.1 hch
    exact digitOf_isDigit (Nat.le_of_lt_succ (hmodes m hm))
  -- the month and year modes are votes of the readings
  have hmonth : ∀ m, (plain l.digitCount l.numberSlots.length R).month.mode = some m →
      1 ≤ m ∧ m ≤ 12 := by
    intro m hm
    rw [month_plain] at hm
    refine Vote.Within.mode (fun v hv => ?_) hm
    obtain ⟨r, hr, rfl⟩ := List.mem_map.1 hv
    exact (hR r hr).month
  have hyear : ∀ y, (plain l.digitCount l.numberSlots.length R).year.mode = some y → y ≤ 99 := by
    intro y hy
    rw [year_plain] at hy
    have hw : 0 ≤ y ∧ y ≤ 99 := by
      refine Vote.Within.mode (fun v hv => ?_) hy
      obtain ⟨r, hr, rfl⟩ := List.mem_map.1 hv
      exact (hR r hr).year
    exact hw.2
  -- the best frame found every number group, which fill the number slots
  obtain ⟨r, hr, hfound, rfl⟩ := bestFrame_plain_eq_some hbest
  have hfill := (hR r hr).groups hfound
  have hgroups : ∃ cs, List.Forall₂ (fun slot c => DigitCandidate.Fills c slot) l.numberSlots cs ∧
      card.xOffsets = cs.flatMap (·.xOffsets) :=
    ⟨_, hfill, by rw [hcard, cardOf_xOffsets, numberGroups, DigitCandidate.mergeSort_of_fills hl hfill]⟩
  have hcheck : p.requireLuhn = true → card.luhnValid = .ok true := fun hreq => by
    rw [hcard, CardInfo.luhnValid, cardOf_numbers]
    exact hluhn hreq
  have hexpiry := cardOf_expiry (plain l.digitCount l.numberSlots.length R) ok
    (String.ofList (((plain l.digitCount l.numberSlots.length R).positions.filterMap
      Histogram.mode).map digitOf)) r.candidates
  rw [← hcard] at hexpiry
  cases ok
  -- no expiry: then none was required
  · simp only [Prod.mk.injEq] at hexpiry
    exact ⟨hnumbers, hascii, hgroups, .inl hexpiry.1, by omega, fun _ => hexpiry.2,
      fun hreq => absurd (hexp hreq) Bool.false_ne_true, hcheck⟩
  -- an expiry read from settled modes
  · obtain ⟨hms, hys⟩ := Histogram.bothSettled_eq_ok_true hok
    obtain ⟨m, hm⟩ := Option.isSome_iff_exists.1 (Histogram.mode_isSome_of_votes_pos
      (Histogram.votes_pos_of_settles (Histogram.settles_of_settled hms)))
    obtain ⟨y, hy⟩ := Option.isSome_iff_exists.1 (Histogram.mode_isSome_of_votes_pos
      (Histogram.votes_pos_of_settles (Histogram.settles_of_settled hys)))
    rw [hm, hy] at hexpiry
    simp only [Prod.mk.injEq] at hexpiry
    have hM := hmonth m hm
    have hY := hyear y hy
    exact ⟨hnumbers, hascii, hgroups, .inr (hexpiry.1 ▸ hM), hexpiry.2 ▸ hY,
      fun h0 => by omega, fun _ => by omega, hcheck⟩

end VoteTally

namespace CardInfo.Fits

variable {l : CardLayout} {p : AggregatorConfig} {card : CardInfo}

/-- A card that fits has one offset per position. -/
theorem length_xOffsets (h : card.Fits l p) : card.xOffsets.length = l.digitCount := by
  obtain ⟨cs, hfill, hx⟩ := h.groups
  rw [hx, List.length_flatMap, DigitCandidate.offsets_of_fills hfill]
  rfl

/-- The offsets of a card that fits a regular layout of groups `groups` are those of one
    candidate per group, in group order, with as many offsets as its group has digits. -/
theorem offsets_by_group (h : card.Fits l p) (hl : l.Regular) {groups : List Nat}
    (hg : l.numberSlots.map SlotLayout.digitCount = groups) :
    ∃ cs : List DigitCandidate, cs.map (·.kind) = (List.range groups.length).map .numberGroup ∧
      cs.map (·.xOffsets.length) = groups ∧ card.xOffsets = cs.flatMap (·.xOffsets) := by
  obtain ⟨cs, hfill, hx⟩ := h.groups
  have hlen : l.numberSlots.length = groups.length := by rw [← hg, List.length_map]
  refine ⟨cs, ?_, ?_, hx⟩
  · rw [DigitCandidate.kinds_of_fills hfill, hl.numberKinds, hlen]
  · rw [DigitCandidate.offsets_of_fills hfill, hg]

end CardInfo.Fits

end CardOcr
