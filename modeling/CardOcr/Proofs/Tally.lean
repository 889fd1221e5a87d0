import CardOcr.Read.Reading
import CardOcr.Proofs.Histogram
import CardOcr.Proofs.FloatOrder

/-!
# The tally of readings

A tally of readings (`VoteTally.ofReadings d s R`) records the readings `R` in order into the
empty tally of `d` positions and `s` number groups.  Its counters are machine words: a reading
is recorded when every counter it bumps has room (`VoteTally.Room`), and overflows otherwise
(`VoteTally.record_ok_iff`).  Readings that keep every counter below its bound
(`VoteTally.Fits`), among them any fewer than `2³²` readings, are recorded as they are added in
unbounded counters (`VoteTally.addReading`), so the tally is `VoteTally.plain d s R`.

That tally keeps, for each position, the histogram of the votes the readings cast for it
(`votesAt`), the histograms of their month and year votes, their number, and the candidates of
a best frame exactly when some reading found `s` number groups.  When no score is a NaN the
best frame is the first reading of `s` groups whose score no such reading beats
(`IsFirstBest`): a reading replaces the best one only with a strictly higher score.

## Key results

- `VoteTally.record_eq_ok`, `VoteTally.record_ok_iff`: one reading and its counters
- `VoteTally.foldlM_record_eq_ok`, `VoteTally.ofReadings_eq_ok`: readings that fit
- `VoteTally.positions_plain`, `VoteTally.month_plain`, `VoteTally.frames_plain`: the tally's
  view
- `VoteTally.bestFrame_plain`: the best frame is the first best reading
-/

namespace CardOcr

/-- The votes readings cast for position `i`, in order; a reading without that position casts
    none. -/
def votesAt (R : List FrameReading) (i : Nat) : List Vote := R.filterMap (·.digits[i]?)

@[simp] theorem votesAt_nil (i : Nat) : votesAt [] i = [] := rfl

@[simp] theorem votesAt_cons (r : FrameReading) (R : List FrameReading) (i : Nat) :
    votesAt (r :: R) i = r.digits[i]?.toList ++ votesAt R i := by
  cases h : r.digits[i]? <;> simp [votesAt, h]

/-- A reading casts at most one vote for a position. -/
theorem length_votesAt_le (R : List FrameReading) (i : Nat) : (votesAt R i).length ≤ R.length :=
  List.length_filterMap_le _ _

namespace VoteTally

/-- The readings `R` recorded in order into the empty tally of `d` positions and `s` number
    groups. -/
def ofReadings (d s : Nat) (R : List FrameReading) : Except Fault VoteTally :=
  R.foldlM record (empty d s)

/-! ## Recording in unbounded counters -/

/-- Adds votes to histograms paired in order, in unbounded counters; the longer list's extra
    entries are left out. -/
def addAll : List Histogram → List Vote → List Histogram
  | h :: hs, v :: vs => h.add v :: addAll hs vs
  | hs, [] => hs
  | [], _ => []

/-- A reading added to a tally in unbounded counters. -/
def addReading (t : VoteTally) (r : FrameReading) : VoteTally :=
  { t with positions := addAll t.positions r.digits, month := t.month.add r.month,
           year := t.year.add r.year, frames := t.frames + 1, bestFrame := t.bestAfter r }

/-- The readings `R` added in order to the empty tally of `d` positions and `s` number
    groups. -/
def plain (d s : Nat) (R : List FrameReading) : VoteTally := R.foldl addReading (empty d s)

/-- Adding pairs the histogram of each position with that position's vote, if there is one. -/
theorem addAll_getElem? (hs : List Histogram) (vs : List Vote) (i : Nat) :
    (addAll hs vs)[i]? = hs[i]?.map fun h => vs[i]?.toList.foldl Histogram.add h := by
  induction hs generalizing vs i with
  | nil => cases vs <;> simp [addAll]
  | cons h hs ih =>
    cases vs with
    | nil => cases i <;> simp [addAll]
    | cons v vs => cases i <;> simp [addAll, ih]

/-! ## Counters of machine words -/

/-- A reading has room in a tally: every histogram has room for the vote the reading casts into
    it, and the frame count for one more frame. -/
def Room (t : VoteTally) (r : FrameReading) : Prop :=
  (∀ (i : Nat) (h : Histogram) (v : Vote), t.positions[i]? = some h → r.digits[i]? = some v →
    h.Room v) ∧
    t.month.Room r.month ∧ t.year.Room r.year ∧ t.frames + 1 < 2 ^ 64

/-- Votes with room in the histograms they are paired with are recorded as they are added. -/
theorem recordAll_eq_ok {hs : List Histogram} {vs : List Vote}
    (h : ∀ (i : Nat) (x : Histogram) (v : Vote), hs[i]? = some x → vs[i]? = some v → x.Room v) :
    recordAll hs vs = .ok (addAll hs vs) := by
  induction hs generalizing vs with
  | nil => cases vs <;> rfl
  | cons x hs ih =>
    cases vs with
    | nil => rfl
    | cons v vs =>
      have hrest : ∀ (i : Nat) (y : Histogram) (w : Vote), hs[i]? = some y → vs[i]? = some w →
          y.Room w := fun i y w hy hw => h (i + 1) y w hy hw
      rw [recordAll, Histogram.record_eq_ok (h 0 x v rfl rfl), addAll]
      simp only [bind, Except.bind, ih hrest]
      rfl

/-- Recording votes into paired histograms succeeds exactly when each has room for its
    vote. -/
theorem recordAll_ok_iff (hs : List Histogram) (vs : List Vote) :
    (∃ hs', recordAll hs vs = .ok hs') ↔
      ∀ (i : Nat) (x : Histogram) (v : Vote), hs[i]? = some x → vs[i]? = some v → x.Room v := by
  induction hs generalizing vs with
  | nil => cases vs <;> simp [recordAll]
  | cons x hs ih =>
    cases vs with
    | nil => simp [recordAll]
    | cons v vs =>
      -- the first histogram is recorded before the others
      have hsplit : (∀ (i : Nat) (y : Histogram) (w : Vote), (x :: hs)[i]? = some y →
            (v :: vs)[i]? = some w → y.Room w) ↔
          x.Room v ∧ ∀ (i : Nat) (y : Histogram) (w : Vote), hs[i]? = some y → vs[i]? = some w →
            y.Room w := by
        refine ⟨fun h => ⟨h 0 x v rfl rfl, fun i y w => h (i + 1) y w⟩, fun ⟨hx, h⟩ i => ?_⟩
        cases i with
        | zero => simpa using hx
        | succ i => exact h i
      rw [hsplit, ← Histogram.record_ok_iff, ← ih]
      simp only [recordAll, bind, Except.bind, pure, Except.pure]
      cases x.record v <;> cases recordAll hs vs <;> simp

/-- A reading with room is recorded as it is added. -/
theorem record_eq_ok {t : VoteTally} {r : FrameReading} (h : t.Room r) :
    t.record r = .ok (t.addReading r) := by
  obtain ⟨hpos, hmonth, hyear, hframes⟩ := h
  rw [record, recordAll_eq_ok hpos, Histogram.record_eq_ok hmonth, Histogram.record_eq_ok hyear,
    checkedAdd_of_lt hframes]
  rfl

/-- Recording a reading succeeds exactly when it has room. -/
theorem record_ok_iff (t : VoteTally) (r : FrameReading) :
    (∃ t', t.record r = .ok t') ↔ t.Room r := by
  refine ⟨fun ⟨t', h⟩ => ?_, fun h => ⟨_, record_eq_ok h⟩⟩
  -- every step of the record succeeded
  unfold record at h
  simp only [bind, Except.bind, pure, Except.pure] at h
  cases hp : recordAll t.positions r.digits with
  | error e => simp [hp] at h
  | ok ps =>
    cases hm : t.month.record r.month with
    | error e => simp [hp, hm] at h
    | ok m =>
      cases hy : t.year.record r.year with
      | error e => simp [hp, hm, hy] at h
      | ok y =>
        cases hf : checkedAdd 64 t.frames 1 with
        | error e => simp [hp, hm, hy, hf] at h
        | ok f =>
          have hframes : t.frames + 1 < 2 ^ 64 := by
            by_contra hle
            rw [checkedAdd_of_le (Nat.le_of_not_lt hle)] at hf
            cases hf
          exact ⟨(recordAll_ok_iff _ _).1 ⟨ps, hp⟩, (Histogram.record_ok_iff _ _).1 ⟨m, hm⟩,
            (Histogram.record_ok_iff _ _).1 ⟨y, hy⟩, hframes⟩

/-! ## Readings that fit -/

/-- Every histogram of a tally is well formed. -/
structure WF (t : VoteTally) : Prop where
  positions : ∀ h ∈ t.positions, h.WF
  month : t.month.WF
  year : t.year.WF

/-- The empty tally is well formed. -/
theorem wf_empty (d s : Nat) : (empty d s).WF where
  positions h hh := by
    rw [empty, List.mem_replicate] at hh
    exact hh.2 ▸ Histogram.wf_empty
  month := Histogram.wf_empty
  year := Histogram.wf_empty

/-- Adding a reading keeps a tally well formed. -/
theorem WF.addReading {t : VoteTally} (hwf : t.WF) (r : FrameReading) : (t.addReading r).WF where
  positions h hh := by
    obtain ⟨i, hi⟩ := List.mem_iff_getElem?.1 hh
    rw [VoteTally.addReading, addAll_getElem?] at hi
    obtain ⟨x, hx, rfl⟩ := Option.map_eq_some_iff.1 hi
    exact Histogram.wf_foldl_add (hwf.positions x (List.mem_of_getElem? hx)) _
  month := Histogram.wf_add hwf.month r.month
  year := Histogram.wf_add hwf.year r.year

/-- Readings fit a tally: with their votes no histogram's counter reaches `2³²`, and the frame
    count stays below `2⁶⁴`. -/
def Fits (t : VoteTally) (R : List FrameReading) : Prop :=
  (∀ (i : Nat) (h : Histogram), t.positions[i]? = some h → h.Fits (votesAt R i)) ∧
    t.month.Fits (R.map (·.month)) ∧ t.year.Fits (R.map (·.year)) ∧ t.frames + R.length < 2 ^ 64

/-- The first of readings that fit has room. -/
theorem Fits.room {t : VoteTally} {r : FrameReading} {R : List FrameReading}
    (h : t.Fits (r :: R)) : t.Room r := by
  obtain ⟨hpos, hmonth, hyear, hframes⟩ := h
  refine ⟨fun i x v hx hv => ?_, hmonth.room, hyear.room, by simp at hframes; omega⟩
  have := hpos i x hx
  rw [votesAt_cons, hv] at this
  exact this.room

/-- Readings that fit fit, after the first, the tally it leaves. -/
theorem Fits.addReading {t : VoteTally} (hwf : t.WF) {r : FrameReading} {R : List FrameReading}
    (h : t.Fits (r :: R)) : (t.addReading r).Fits R := by
  obtain ⟨hpos, hmonth, hyear, hframes⟩ := h
  refine ⟨fun i x hx => ?_, hmonth.add hwf.month, hyear.add hwf.year, ?_⟩
  · rw [VoteTally.addReading, addAll_getElem?] at hx
    obtain ⟨y, hy, rfl⟩ := Option.map_eq_some_iff.1 hx
    have hfits := hpos i y hy
    rw [votesAt_cons] at hfits
    -- the reading votes for the position or not
    cases hv : r.digits[i]? with
    | none => simpa [hv] using hfits
    | some v =>
      rw [hv] at hfits
      exact (hfits.add (hwf.positions y (List.mem_of_getElem? hy)))
  · show t.frames + 1 + R.length < 2 ^ 64
    simp only [List.length_cons] at hframes
    omega

/-- Readings that fit are recorded one by one as they are added. -/
theorem foldlM_record_eq_ok {t : VoteTally} (hwf : t.WF) {R : List FrameReading}
    (h : t.Fits R) : R.foldlM record t = .ok (R.foldl addReading t) := by
  induction R generalizing t with
  | nil => rfl
  | cons r R ih =>
    rw [List.foldlM_cons, record_eq_ok h.room, List.foldl_cons]
    exact ih (hwf.addReading r) (h.addReading hwf)

/-- Fewer than `2³²` readings fit the empty tally. -/
theorem fits_empty {R : List FrameReading} (hlen : R.length < 2 ^ 32) (d s : Nat) :
    (empty d s).Fits R := by
  refine ⟨fun i h hh => ?_, Histogram.fits_empty_of_length_lt (by simpa using hlen),
    Histogram.fits_empty_of_length_lt (by simpa using hlen), by simp only [empty]; omega⟩
  have hh' : h = {} := by
    rw [empty, List.getElem?_replicate] at hh
    split at hh <;> simp_all
  subst hh'
  exact Histogram.fits_empty_of_length_lt (Nat.lt_of_le_of_lt (length_votesAt_le R i) hlen)

/-- Readings that fit the empty tally make the tally of their unbounded counts. -/
theorem ofReadings_eq_ok_of_fits {d s : Nat} {R : List FrameReading} (h : (empty d s).Fits R) :
    ofReadings d s R = .ok (plain d s R) :=
  foldlM_record_eq_ok (wf_empty d s) h

/-- Fewer than `2³²` readings make the tally of their unbounded counts. -/
theorem ofReadings_eq_ok {R : List FrameReading} (hlen : R.length < 2 ^ 32) (d s : Nat) :
    ofReadings d s R = .ok (plain d s R) :=
  ofReadings_eq_ok_of_fits (fits_empty hlen d s)

/-- A recording of readings that succeeds is their unbounded tally: every step had room. -/
theorem eq_foldl_of_foldlM_record {t t' : VoteTally} {R : List FrameReading}
    (h : R.foldlM record t = .ok t') : t' = R.foldl addReading t := by
  induction R generalizing t with
  | nil => exact (Except.ok.inj h).symm
  | cons r R ih =>
    rw [List.foldlM_cons] at h
    cases h1 : t.record r with
    | error e => rw [h1] at h; cases h
    | ok t1 =>
      rw [h1] at h
      simp only [bind, Except.bind] at h
      -- the step that succeeded had room, so it added the reading
      have hstep := record_eq_ok ((record_ok_iff t r).1 ⟨t1, h1⟩)
      rw [h1] at hstep
      obtain rfl := Except.ok.inj hstep
      exact ih h

/-- A tally of readings that succeeds is their unbounded tally. -/
theorem eq_plain_of_ofReadings {d s : Nat} {R : List FrameReading} {t : VoteTally}
    (h : ofReadings d s R = .ok t) : t = plain d s R :=
  eq_foldl_of_foldlM_record h

/-- Recording one more reading into a tally of readings is the tally of them all. -/
theorem ofReadings_append {d s : Nat} {R : List FrameReading} {r : FrameReading}
    {t t' : VoteTally} (h : ofReadings d s R = .ok t) (hr : t.record r = .ok t') :
    ofReadings d s (R ++ [r]) = .ok t' := by
  rw [ofReadings, List.foldlM_append, ← ofReadings, h]
  simp only [bind, Except.bind, List.foldlM_cons, List.foldlM_nil, hr]
  rfl

/-! ## The view of the tally -/

@[simp] theorem addReading_numberSlots (t : VoteTally) (r : FrameReading) :
    (t.addReading r).numberSlots = t.numberSlots := rfl

/-- After readings, each position's histogram has added the votes cast for it. -/
theorem positions_foldl_addReading (t : VoteTally) (R : List FrameReading) (i : Nat) :
    (R.foldl addReading t).positions[i]? =
      t.positions[i]?.map fun h => (votesAt R i).foldl Histogram.add h := by
  induction R generalizing t with
  | nil => simp
  | cons r R ih =>
    rw [List.foldl_cons, ih]
    simp only [addReading, addAll_getElem?, Option.map_map, votesAt_cons, List.foldl_append]
    rfl

/-- The positions of a tally of readings are the histograms of the votes cast for each. -/
theorem positions_plain (d s : Nat) (R : List FrameReading) :
    (plain d s R).positions = (List.range d).map fun i => (votesAt R i).foldl Histogram.add {} := by
  apply List.ext_getElem?
  intro i
  rw [plain, positions_foldl_addReading]
  by_cases hi : i < d <;> simp [empty, hi]

/-- The month histogram has added the readings' month votes. -/
theorem month_plain (d s : Nat) (R : List FrameReading) :
    (plain d s R).month = (R.map (·.month)).foldl Histogram.add {} := by
  suffices ∀ t : VoteTally,
      (R.foldl addReading t).month = (R.map (·.month)).foldl Histogram.add t.month from this _
  induction R with
  | nil => intro t; rfl
  | cons r R ih => intro t; simp [ih, addReading]

/-- The year histogram has added the readings' year votes. -/
theorem year_plain (d s : Nat) (R : List FrameReading) :
    (plain d s R).year = (R.map (·.year)).foldl Histogram.add {} := by
  suffices ∀ t : VoteTally,
      (R.foldl addReading t).year = (R.map (·.year)).foldl Histogram.add t.year from this _
  induction R with
  | nil => intro t; rfl
  | cons r R ih => intro t; simp [ih, addReading]

/-- A tally of readings counts them. -/
theorem frames_plain (d s : Nat) (R : List FrameReading) : (plain d s R).frames = R.length := by
  suffices ∀ t : VoteTally, (R.foldl addReading t).frames = t.frames + R.length by
    simpa [plain, empty] using this (empty d s)
  induction R with
  | nil => intro t; rfl
  | cons r R ih =>
    intro t
    rw [List.foldl_cons, ih, List.length_cons]
    simp only [addReading]
    omega

@[simp] theorem numberSlots_plain (d s : Nat) (R : List FrameReading) :
    (plain d s R).numberSlots = s := by
  suffices ∀ t : VoteTally, (R.foldl addReading t).numberSlots = t.numberSlots from this _
  induction R with
  | nil => intro t; rfl
  | cons r R ih => intro t; rw [List.foldl_cons, ih, addReading_numberSlots]

/-! ## The best frame -/

/-- Adding keeps the best frame, or takes the reading's candidates when it found every number
    group. -/
theorem bestAfter_eq (t : VoteTally) (r : FrameReading) :
    t.bestAfter r = t.bestFrame ∨
      r.numberSlotsFound = t.numberSlots ∧ t.bestAfter r = some (r.score, r.candidates) := by
  unfold bestAfter
  by_cases hr : r.numberSlotsFound = t.numberSlots
  · simp only [hr, ↓reduceIte, true_and]
    cases hb : t.bestFrame with
    | none => exact .inr rfl
    | some b =>
      dsimp only
      split
      · exact .inr rfl
      · exact .inl rfl
  · simp only [hr, ↓reduceIte, false_and, or_false]

/-- Adding keeps a best frame, and takes one from a reading that found every number group. -/
theorem bestAfter_isSome (t : VoteTally) (r : FrameReading) :
    (t.bestAfter r).isSome ↔ t.bestFrame.isSome ∨ r.numberSlotsFound = t.numberSlots := by
  unfold bestAfter
  by_cases hr : r.numberSlotsFound = t.numberSlots
  · simp only [hr, ↓reduceIte, or_true, iff_true]
    cases hb : t.bestFrame with
    | none => rfl
    | some b => dsimp only; split <;> simp
  · simp [hr]

/-- A tally of readings has a best frame exactly when one of the readings found every number
    group. -/
theorem bestFrame_plain_isSome (d s : Nat) (R : List FrameReading) :
    (plain d s R).bestFrame.isSome ↔ ∃ r ∈ R, r.numberSlotsFound = s := by
  suffices ∀ t : VoteTally, (R.foldl addReading t).bestFrame.isSome ↔
      t.bestFrame.isSome ∨ ∃ r ∈ R, r.numberSlotsFound = t.numberSlots by
    simpa [plain, empty] using this (empty d s)
  induction R with
  | nil => intro t; simp
  | cons r R ih =>
    intro t
    rw [List.foldl_cons, ih, addReading_numberSlots]
    simp only [addReading, bestAfter_isSome, List.mem_cons, exists_eq_or_imp]
    rw [or_assoc]

/-- The best frame of a tally of readings is the candidates of a reading that found every
    number group. -/
theorem bestFrame_plain_eq_some {d s : Nat} {R : List FrameReading} {score : Float32}
    {cands : List DigitCandidate} (h : (plain d s R).bestFrame = some (score, cands)) :
    ∃ r ∈ R, r.numberSlotsFound = s ∧ cands = r.candidates := by
  -- over any starting tally, the best frame is the starting one or one of the readings'
  suffices ∀ t : VoteTally, (R.foldl addReading t).bestFrame = some (score, cands) →
      t.bestFrame = some (score, cands) ∨ ∃ r ∈ R, r.numberSlotsFound = t.numberSlots ∧
        cands = r.candidates by
    rcases this (empty d s) h with h0 | h1
    · cases h0
    · exact h1
  clear h
  induction R with
  | nil => exact fun t ht => .inl ht
  | cons r R ih =>
    intro t ht
    rw [List.foldl_cons] at ht
    rcases ih (t.addReading r) ht with h1 | ⟨r', hr', hn, hc⟩
    · rcases bestAfter_eq t r with h2 | ⟨hn, h2⟩
      · exact .inl (h2 ▸ h1)
      · rw [addReading, h2] at h1
        cases h1
        exact .inr ⟨r, List.mem_cons_self, hn, rfl⟩
    · exact .inr ⟨r', List.mem_cons_of_mem r hr', hn, hc⟩

/-- `r` is the reading the best frame of `R` is taken from under `s` number groups: it found
    `s` groups, every reading of `s` groups before it scores strictly less, and none after it
    scores more. -/
def IsFirstBest (s : Nat) (R : List FrameReading) (r : FrameReading) : Prop :=
  ∃ pre post, R = pre ++ r :: post ∧ r.numberSlotsFound = s ∧
    (∀ q ∈ pre, q.numberSlotsFound = s → q.score < r.score) ∧
    ∀ q ∈ post, q.numberSlotsFound = s → ¬r.score < q.score

/-- A reading that beats the first best one of earlier readings is the first best one with
    it: the earlier readings score less than the best one or as much at most. -/
theorem IsFirstBest.append_better {s : Nat} {P : List FrameReading} {r q : FrameReading}
    (h : IsFirstBest s P r) (hnum : ∀ x ∈ P, Float32.IsNum x.score) (hq : q.numberSlotsFound = s)
    (hlt : r.score < q.score) : IsFirstBest s (P ++ [q]) q := by
  obtain ⟨pre, post, rfl, -, hpre, hpost⟩ := h
  refine ⟨pre ++ r :: post, [], rfl, hq, fun x hx hxs => ?_, fun _ hx => absurd hx List.not_mem_nil⟩
  rcases List.mem_append.1 hx with hx | hx
  · exact Float32.lt_trans (hpre x hx hxs) hlt
  · rcases List.mem_cons.1 hx with rfl | hx
    · exact hlt
    · -- a later reading scores at most the best one, a number like it
      have hle := Float32.le_of_not_lt (hnum _ (by simp)) (hnum x (by simp [hx])) (hpost x hx hxs)
      exact Float32.lt_of_le_of_lt hle hlt

/-- A reading that does not beat the first best one of earlier readings leaves it the first
    best one. -/
theorem IsFirstBest.append_other {s : Nat} {P : List FrameReading} {r q : FrameReading}
    (h : IsFirstBest s P r) (hq : q.numberSlotsFound = s → ¬r.score < q.score) :
    IsFirstBest s (P ++ [q]) r := by
  obtain ⟨pre, post, rfl, hr, hpre, hpost⟩ := h
  refine ⟨pre, post ++ [q], by simp, hr, hpre, fun x hx hxs => ?_⟩
  rcases List.mem_append.1 hx with hx | hx
  · exact hpost x hx hxs
  · rw [List.mem_singleton.1 hx]
    exact hq (List.mem_singleton.1 hx ▸ hxs)

/-- When no reading scores a NaN, a tally of readings has no best frame and no reading of `s`
    groups, or takes its best frame from the first best reading. -/
theorem bestFrame_plain (d s : Nat) (R : List FrameReading)
    (hnum : ∀ r ∈ R, Float32.IsNum r.score) :
    ((plain d s R).bestFrame = none ∧ ∀ r ∈ R, r.numberSlotsFound ≠ s) ∨
      ∃ r, IsFirstBest s R r ∧ (plain d s R).bestFrame = some (r.score, r.candidates) := by
  -- the readings are added one at a time at the end
  induction R using List.reverseRecOn with
  | nil => exact .inl ⟨rfl, fun _ h => absurd h List.not_mem_nil⟩
  | append_singleton P q ih =>
    have hnumP : ∀ r ∈ P, Float32.IsNum r.score := fun r hr => hnum r (by simp [hr])
    have hstep : (plain d s (P ++ [q])).bestFrame = (plain d s P).bestAfter q := by
      rw [plain, List.foldl_concat]
      rfl
    have hslots : (plain d s P).numberSlots = s := numberSlots_plain d s P
    rw [hstep]
    unfold bestAfter
    rw [hslots]
    by_cases hq : q.numberSlotsFound = s
    · rw [if_pos hq]
      rcases ih hnumP with ⟨hnone, hnot⟩ | ⟨r, hr, hbest⟩
      · -- the first reading of `s` groups
        rw [hnone]
        refine .inr ⟨q, ⟨P, [], rfl, hq, fun x hx hxs => absurd hxs (hnot x hx),
          fun _ hx => absurd hx List.not_mem_nil⟩, rfl⟩
      · rw [hbest]
        dsimp only
        by_cases hlt : r.score < q.score
        · rw [if_pos hlt]
          exact .inr ⟨q, hr.append_better hnumP hq hlt, rfl⟩
        · rw [if_neg hlt]
          exact .inr ⟨r, hr.append_other fun _ => hlt, rfl⟩
    · rw [if_neg hq]
      rcases ih hnumP with ⟨hnone, hnot⟩ | ⟨r, hr, hbest⟩
      · refine .inl ⟨hnone, fun x hx => ?_⟩
        rcases List.mem_append.1 hx with hx | hx
        · exact hnot x hx
        · exact List.mem_singleton.1 hx ▸ hq
      · exact .inr ⟨r, hr.append_other fun hs => absurd hs hq, hbest⟩

end VoteTally

end CardOcr
