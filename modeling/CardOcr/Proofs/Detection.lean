import Mathlib.Data.List.Forall2
import CardOcr.Proofs.FailureKinds
import CardOcr.Detect.Detection
import CardOcr.Detect.Classify

/-!
# What the detector and the classifier find

The layout of a configuration has one number slot per group, of kind `numberGroup g` for the
`g`-th group and with as many digit cells as the group has digits, and an expiry slot of kind
`expiry` (`CardLayout.Regular`, `CardLayout.ofConfig_okIn`).  A slot found on a card gives a
candidate of the slot's kind with one offset per digit cell (`DigitCandidate.Fills`); the
number groups found on a card are some of the layout's number slots, in order, each filled by
its candidate (`Detection.Shaped`, `CardLayout.detect_okIn`).  A glyph is read as a digit
below ten or rejected (`GlyphReader.read_okIn`).

Each fact is stated with `Except.OkIn`: it holds of every result the computation can give.

## Key results

- `CardLayout.ofConfig_okIn`: the layout of a configuration is regular, with the groups'
  digit counts
- `CardLayout.detect_okIn`: detected number groups fill slots of the layout, in order
- `GlyphReader.read_okIn`: every label read is a digit
-/

namespace CardOcr

open Except

/-! ## Computations over lists -/

section Lists

variable {ε α β : Type}

/-- A traversal gives results of which each satisfies what every step promises. -/
theorem okIn_mapM {Q : β → Prop} (f : α → Except ε β) (xs : List α)
    (hf : ∀ x ∈ xs, OkIn Q (f x)) : OkIn (fun ys => ∀ y ∈ ys, Q y) (xs.mapM f) := by
  induction xs with
  | nil => simp
  | cons x xs ih =>
    simp only [List.mapM_cons, okIn_bind, okIn_pure, List.mem_cons]
    intro y hy ys hys
    rintro z (rfl | hz)
    · exact hf x List.mem_cons_self _ hy
    · exact ih (fun x hx => hf x (List.mem_cons_of_mem _ hx)) ys hys z hz

/-- A fold whose steps keep an invariant of the processed prefix ends with the invariant of
    the whole list. -/
theorem okIn_foldlM {I : List α → β → Prop} (f : β → α → Except ε β)
    (hstep : ∀ pre x b, I pre b → OkIn (I (pre ++ [x])) (f b x)) (xs : List α) (init : β)
    (hinit : I [] init) : OkIn (I xs) (xs.foldlM f init) := by
  -- the fold from any prefix's state reaches the invariant of that prefix and the rest
  suffices h : ∀ pre b, I pre b → OkIn (I (pre ++ xs)) (xs.foldlM f b) from h [] init hinit
  induction xs with
  | nil =>
    intro pre b hb
    simpa using hb
  | cons x xs ih =>
    intro pre b hb
    simp only [List.foldlM_cons, okIn_bind]
    intro b' hb'
    have h' := ih (pre ++ [x]) b' (hstep pre x b hb b' hb')
    simpa using h'

/-- A fold whose every step succeeds and keeps an invariant succeeds and ends with it. -/
theorem foldlM_ok_of_step {I : β → Prop} (f : β → α → Except ε β) (xs : List α)
    (hstep : ∀ b, I b → ∀ x ∈ xs, ∃ b', f b x = .ok b' ∧ I b') {init : β}
    (hinit : I init) : ∃ b, xs.foldlM f init = .ok b ∧ I b := by
  induction xs generalizing init with
  | nil => exact ⟨init, rfl, hinit⟩
  | cons x xs ih =>
    obtain ⟨b', hb', hI⟩ := hstep init hinit x List.mem_cons_self
    obtain ⟨b, hb, hIb⟩ := ih (fun b hb y hy => hstep b hb y (List.mem_cons_of_mem x hy)) hI
    refine ⟨b, ?_, hIb⟩
    rw [List.foldlM_cons, hb']
    exact hb

/-- A loop whose every round succeeds, goes on and keeps an invariant succeeds and ends with
    it. -/
theorem forIn_ok_of_step {I : β → Prop} (f : α → β → Except ε (ForInStep β))
    (xs : List α) (hstep : ∀ b, I b → ∀ x ∈ xs, ∃ b', f x b = .ok (.yield b') ∧ I b') {init : β}
    (hinit : I init) : ∃ b, forIn xs init f = .ok b ∧ I b := by
  induction xs generalizing init with
  | nil => exact ⟨init, rfl, hinit⟩
  | cons x xs ih =>
    obtain ⟨b', hb', hI⟩ := hstep init hinit x List.mem_cons_self
    obtain ⟨b, hb, hIb⟩ := ih (fun b hb y hy => hstep b hb y (List.mem_cons_of_mem x hy)) hI
    refine ⟨b, ?_, hIb⟩
    rw [List.forIn_cons, hb']
    exact hb

/-- A computation that succeeds, followed by a pure map of its result. -/
theorem exists_bind_pure_ok {γ : Type} {I : α → Prop} {x : Except ε α} {g : α → γ}
    (h : ∃ a, x = .ok a ∧ I a) : ∃ a, (do let a ← x; pure (g a)) = .ok (g a) ∧ I a := by
  obtain ⟨a, rfl, ha⟩ := h
  exact ⟨a, rfl, ha⟩

/-- A traversal succeeds with `ys` exactly when each step succeeds with the matching entry. -/
theorem mapM_eq_ok_iff {f : α → Except ε β} {xs : List α} {ys : List β} :
    xs.mapM f = .ok ys ↔ List.Forall₂ (fun x y => f x = .ok y) xs ys := by
  induction xs generalizing ys with
  | nil => cases ys <;> simp [pure, Except.pure]
  | cons x xs ih =>
    rw [List.mapM_cons]
    cases hx : f x with
    | error e => cases ys <;> simp [hx, bind, Except.bind]
    | ok y =>
      cases hxs : xs.mapM f with
      | error e =>
        -- the rest fails, so it pairs with no list
        have hno : ∀ zs, ¬List.Forall₂ (fun x y => f x = .ok y) xs zs := fun zs h =>
          nomatch hxs.symm.trans (ih.2 h)
        cases ys <;> simp [hx, bind, Except.bind, hno]
      | ok zs =>
        cases ys <;> simp [hx, bind, Except.bind, pure, Except.pure, ← ih, hxs]

/-- A traversal succeeds when every step does. -/
theorem mapM_ok_of_forall {f : α → Except ε β} {xs : List α}
    (h : ∀ x ∈ xs, ∃ y, f x = .ok y) : ∃ ys, xs.mapM f = .ok ys := by
  induction xs with
  | nil => exact ⟨[], rfl⟩
  | cons x xs ih =>
    obtain ⟨y, hy⟩ := h x List.mem_cons_self
    obtain ⟨ys, hys⟩ := ih fun z hz => h z (List.mem_cons_of_mem x hz)
    refine ⟨y :: ys, ?_⟩
    rw [List.mapM_cons, hy, hys]
    rfl

/-- What `filterMapM` keeps: the results of some of the elements, in order. -/
theorem okIn_filterMapM {R : α → β → Prop} (f : α → Except ε (Option β)) (xs : List α)
    (hf : ∀ x ∈ xs, OkIn (fun r => ∀ y, r = some y → R x y) (f x)) :
    OkIn (fun ys => ∃ sub, sub.Sublist xs ∧ List.Forall₂ R sub ys) (xs.filterMapM f) := by
  -- `filterMapM` runs a loop that keeps the results so far reversed
  suffices h : ∀ (acc : List β) (sub0 : List α), List.Forall₂ R sub0.reverse acc.reverse →
      OkIn (fun ys => ∃ sub, sub.Sublist (sub0.reverse ++ xs) ∧ List.Forall₂ R sub ys)
        (List.filterMapM.loop f xs acc) by
    have h0 := h [] [] List.Forall₂.nil
    simp only [List.reverse_nil, List.nil_append] at h0
    exact h0
  induction xs with
  | nil =>
    intro acc sub0 hacc
    simp only [List.filterMapM.loop, okIn_pure, List.append_nil]
    exact ⟨sub0.reverse, List.Sublist.refl _, hacc⟩
  | cons x xs ih =>
    intro acc sub0 hacc
    simp only [List.filterMapM.loop, okIn_bind]
    intro r hr
    have hx := hf x List.mem_cons_self r hr
    cases r with
    | none =>
      -- `x` is dropped
      refine (ih (fun y hy => hf y (List.mem_cons_of_mem _ hy)) acc sub0 hacc).mono ?_
      rintro ys ⟨sub, hsub, hR⟩
      exact ⟨sub, hsub.trans ((List.sublist_cons_self x xs).append_left _), hR⟩
    | some y =>
      -- `x` is kept with its result `y`
      have hR : List.Forall₂ R (x :: sub0).reverse (y :: acc).reverse := by
        simpa using List.rel_append hacc (List.Forall₂.cons (hx y rfl) List.Forall₂.nil)
      refine (ih (fun y hy => hf y (List.mem_cons_of_mem _ hy)) (y :: acc) (x :: sub0) hR).mono ?_
      rintro ys ⟨sub, hsub, hR'⟩
      exact ⟨sub, by simpa using hsub, hR'⟩

/-- A traversal succeeds when every step does. -/
theorem filterMapM_ok_of_forall {f : α → Except ε (Option β)} {xs : List α}
    (h : ∀ x ∈ xs, ∃ r, f x = .ok r) : ∃ ys, xs.filterMapM f = .ok ys := by
  induction xs with
  | nil => exact ⟨[], rfl⟩
  | cons x xs ih =>
    obtain ⟨r, hr⟩ := h x List.mem_cons_self
    obtain ⟨ys, hys⟩ := ih fun y hy => h y (List.mem_cons_of_mem x hy)
    simp only [List.filterMapM_cons, hr, hys]
    cases r <;> exact ⟨_, rfl⟩

/-- Each element of the right list of a pairing is paired with one of the left list. -/
theorem exists_mem_of_forall₂ {R : α → β → Prop} {xs : List α} {ys : List β}
    (h : List.Forall₂ R xs ys) {y : β} (hy : y ∈ ys) : ∃ x ∈ xs, R x y := by
  induction h with
  | nil => cases hy
  | cons hxy _ ih =>
    rcases List.mem_cons.1 hy with rfl | hy
    · exact ⟨_, List.mem_cons_self, hxy⟩
    · obtain ⟨x, hx, hr⟩ := ih hy
      exact ⟨x, List.mem_cons_of_mem _ hx, hr⟩

/-- A fold that keeps its incumbent or takes the element it visits ends with the first
    component it started from or with one of the elements. -/
theorem foldl_fst_eq_or_mem {γ : Type} {f : Nat × γ → Nat → Nat × γ}
    (hf : ∀ b d, (f b d).1 = b.1 ∨ (f b d).1 = d) {l : List Nat} {b x : Nat × γ}
    (h : l.foldl f b = x) : x.1 = b.1 ∨ x.1 ∈ l := by
  subst h
  induction l generalizing b with
  | nil => exact .inl rfl
  | cons d l ih =>
    rw [List.foldl_cons]
    rcases ih (b := f b d) with h | h
    · rcases hf b d with h' | h'
      · exact .inl (h.trans h')
      · exact .inr (by rw [h, h']; exact List.mem_cons_self)
    · exact .inr (List.mem_cons_of_mem _ h)

end Lists

/-! ## Reading glyphs -/

/-- A glyph is read as one of the ten digits, or rejected. -/
theorem ClassifierConfig.decide_label_lt (cfg : ClassifierConfig) (scores : Array Float32)
    {d : Nat} (h : (cfg.decide scores).label = some d) : d < 10 := by
  unfold ClassifierConfig.decide ClassifierConfig.labelOf firstArgmax at h
  simp only at h
  -- the label is the digit the search over `0 .. 9` ends with
  generalize hx : List.foldl _ _ (List.range GlyphReading.reject) = x at h
  have key := foldl_fst_eq_or_mem (fun b d => ?_) hx
  · obtain ⟨digit, p⟩ := x
    split at h
    · cases h
      rcases key with h0 | hmem
      · simp only at h0
        omega
      · exact List.mem_range.1 hmem
    · cases h
  · split
    · exact .inr rfl
    · exact .inl rfl

/-- Every glyph of a candidate is read as a digit below ten, or rejected. -/
theorem GlyphReader.read_okIn (r : GlyphReader) (img : GrayImage) (c : DigitCandidate) :
    (r.read img c).OkIn fun gs => ∀ g ∈ gs, ∀ d, g.label = some d → d < 10 := by
  unfold GlyphReader.read readCandidate
  simp only [okIn_bind]
  intro t _
  apply okIn_mapM
  intro x _
  unfold readGlyph
  simp only [okIn_bind, okIn_pure]
  intro best _ d hd
  exact ClassifierConfig.decide_label_lt _ _ hd

/-! ## The layout of a configuration -/

/-- The number slots from group `g` on: of kinds `numberGroup g`, `numberGroup (g + 1)`, ...,
    with as many digit cells as their groups have digits. -/
theorem LayoutConfig.numberSlots_okIn (l : LayoutConfig) (lens : List Nat) (g p : Nat) :
    (l.numberSlots lens g p).OkIn fun slots =>
      slots.map (·.kind) = (List.range' g lens.length).map .numberGroup ∧
        slots.map SlotLayout.digitCount = lens := by
  induction lens generalizing g p with
  | nil => simp [LayoutConfig.numberSlots]
  | cons len rest ih =>
    simp only [LayoutConfig.numberSlots, okIn_bind, okIn_pure]
    intro _ _ cells _ _ _ next _ slots hslots
    obtain ⟨hk, hd⟩ := ih (g + 1) next slots hslots
    simp [hk, hd, SlotLayout.digitCount, List.range'_succ]

theorem ExpiryLayoutConfig.slot_okIn (e : ExpiryLayoutConfig) :
    e.slot.OkIn (·.kind = .expiry) := by
  simp [ExpiryLayoutConfig.slot]

/-- A layout whose `g`-th number slot is that of group `g` and whose expiry slot is the
    expiry's. -/
structure CardLayout.Regular (l : CardLayout) : Prop where
  numberKinds : l.numberSlots.map (·.kind) = (List.range l.numberSlots.length).map .numberGroup
  expiryKind : l.expirySlot.kind = .expiry

/-- The layout of a configuration is regular, and its slots have the groups' digit counts. -/
theorem CardLayout.ofConfig_okIn (c : ScanConfig) :
    (CardLayout.ofConfig c).OkIn fun l =>
      l.Regular ∧ l.numberSlots.map SlotLayout.digitCount = c.layout.groups := by
  unfold CardLayout.ofConfig
  simp only [okIn_bind, okIn_pure]
  intro slots hs e he
  obtain ⟨hk, hd⟩ := LayoutConfig.numberSlots_okIn _ _ 0 0 slots hs
  have hlen : slots.length = c.layout.groups.length := by
    rw [← hd, List.length_map]
  refine ⟨⟨?_, ExpiryLayoutConfig.slot_okIn _ e he⟩, hd⟩
  rw [hk, hlen, List.range_eq_range']

theorem CardLayout.Regular.isNumberGroup {l : CardLayout} (hl : l.Regular) {slot : SlotLayout}
    (hs : slot ∈ l.numberSlots) : slot.kind.isNumberGroup = true := by
  have hk : slot.kind ∈ (List.range l.numberSlots.length).map CandidateKind.numberGroup := by
    rw [← hl.numberKinds]
    exact List.mem_map_of_mem hs
  obtain ⟨g, -, hg⟩ := List.mem_map.1 hk
  rw [← hg]
  rfl

/-! ## Detection -/

/-- A candidate found for a slot: of the slot's kind, with one offset per digit cell. -/
def DigitCandidate.Fills (c : DigitCandidate) (slot : SlotLayout) : Prop :=
  c.kind = slot.kind ∧ c.xOffsets.length = slot.digitCount

/-- A slot is found with a candidate that fills it, or not at all. -/
theorem SlotLayout.score_okIn (slot : SlotLayout) (cfg : DetectorConfig) (img : GrayImage)
    (g : GradientMap) : (slot.score cfg img g).OkIn fun r => ∀ c, r = some c → c.Fills slot := by
  unfold SlotLayout.score
  simp only [okIn_bind]
  intro nominal _
  -- the candidate, if any, is built from the slot's kind and digit cells
  split <;> simp [DigitCandidate.Fills, SlotLayout.digitCount]

/-- A detection whose number groups fill some of the layout's number slots, in order, and
    whose expiry candidate is of the expiry slot's kind. -/
structure Detection.Shaped (l : CardLayout) (d : Detection) : Prop where
  number : ∃ found, found.Sublist l.numberSlots ∧
    List.Forall₂ (fun slot c => DigitCandidate.Fills c slot) found d.number
  expiry : ∀ c, d.expiry = some c → c.kind = l.expirySlot.kind

theorem CardLayout.detectOriented_okIn (l : CardLayout) (cfg : DetectorConfig) (img : GrayImage)
    (flipped : Bool) : (l.detectOriented cfg img flipped).OkIn (Detection.Shaped l) := by
  -- marking a candidate with the orientation keeps its kind and its offsets
  have hscore : ∀ s : SlotLayout,
      (do
        let r ← s.score cfg img img.gradients
        pure (r.map fun c => { c with flipped := flipped }) :
          Except Fault (Option DigitCandidate)).OkIn fun r => ∀ c, r = some c → c.Fills s := by
    intro s
    simp only [okIn_bind, okIn_pure]
    intro r hr c hc
    cases r with
    | none => cases hc
    | some c' =>
      cases hc
      exact s.score_okIn cfg img img.gradients _ hr c' rfl
  unfold CardLayout.detectOriented
  simp only [okIn_bind, okIn_pure]
  intro number hn expiry he
  exact ⟨okIn_filterMapM _ _ (fun s _ => hscore s) number hn,
    fun c hc => (hscore l.expirySlot expiry he c hc).1⟩

/-- The detection of a card, upright or turned, fills slots of the layout. -/
theorem CardLayout.detect_okIn (l : CardLayout) (cfg : DetectorConfig) (img : GrayImage) :
    (l.detect cfg img).OkIn (Detection.Shaped l) := by
  unfold CardLayout.detect
  simp only [okIn_bind, okIn_pure, okIn_ite]
  intro up hup
  refine ⟨fun _ => l.detectOriented_okIn cfg img false up hup, fun _ turned ht => ?_⟩
  -- whichever reading is kept, it was scored against the layout
  split
  · exact l.detectOriented_okIn cfg img.rotate180 true turned ht
  · exact l.detectOriented_okIn cfg img false up hup

section Shaped

variable {l : CardLayout} {d : Detection}

/-- The number-group candidates of a detection on a regular layout are its number groups. -/
theorem Detection.Shaped.filter_isNumberGroup (hd : d.Shaped l) (hl : l.Regular) :
    d.candidates.filter (·.kind.isNumberGroup) = d.number := by
  obtain ⟨found, hsub, hfill⟩ := hd.number
  -- every number group fills a number slot, whose kind is a number group
  have hnum : ∀ c ∈ d.number, c.kind.isNumberGroup = true := by
    intro c hc
    obtain ⟨slot, hslot, hcs⟩ := exists_mem_of_forall₂ hfill hc
    rw [hcs.1]
    exact hl.isNumberGroup (hsub.subset hslot)
  -- the expiry candidate is the expiry's
  have hexp : ∀ c ∈ d.expiry.toList, c.kind.isNumberGroup = false := by
    intro c hc
    rw [hd.expiry c (Option.mem_toList.1 hc), hl.expiryKind]
    rfl
  unfold Detection.candidates
  rw [List.filter_append, List.filter_eq_self.2 hnum, List.filter_eq_nil_iff.2 (by simpa using hexp),
    List.append_nil]

/-- A detection that found every number group fills the layout's number slots in order. -/
theorem Detection.Shaped.fills_all (hd : d.Shaped l) (hlen : d.number.length = l.numberSlots.length) :
    List.Forall₂ (fun slot c => DigitCandidate.Fills c slot) l.numberSlots d.number := by
  obtain ⟨found, hsub, hfill⟩ := hd.number
  -- a sublist as long as the list is the list
  have hfound : found = l.numberSlots := hsub.eq_of_length (hfill.length_eq.trans hlen)
  rw [← hfound]
  exact hfill

end Shaped

end CardOcr
