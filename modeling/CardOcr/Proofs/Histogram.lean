import CardOcr.Read.Histogram
import CardOcr.Proofs.CheckedSums

/-!
# Histograms count their votes

`Histogram.add` keeps its counts as `(value, count)` pairs in ascending value order with
positive counts (`Histogram.WF`).  Under that invariant a histogram is described by its view
`Histogram.count`: adding a value vote adds one to the count of its value and to the number of
value votes (`Histogram.votes`), and `mode` is the least value of largest count
(`IsLeastMode`).

The histogram of a list of votes, added in order to the empty one, is therefore described by
the value votes alone (`Vote.values`): each count is the number of votes for the value
(`count_foldl_add`), the number of value votes is theirs (`votes_foldl_add`), and the mode is
the one read off the votes directly by `modeOf` (`mode_foldl_add`).  A well-formed histogram is
fixed by its view and its rejects (`counts_eq_of_count_eq`), so the histogram of a list of votes
depends on the votes and not on their order (`foldl_add_perm`).

`Histogram.record` counts in 32-bit words: it adds a vote when the counter it bumps has room
(`Room`) and overflows otherwise, so votes that keep every counter below `2³²` (`Fits`), among
them any fewer than `2³²` votes, are recorded exactly as they are added
(`foldlM_record_eq_ok`).  The total is then the number of value votes (`total_eq_ok`).

## Key results

- `count_add`, `votes_add`, `wf_add`: one vote
- `mode_eq_some_iff`: the mode is the least value of largest count
- `mode_foldl_add`: the mode of added votes is `modeOf` of their values
- `foldl_add_perm`: reordering the votes gives the same histogram
- `record_ok_iff`, `foldlM_record_eq_ok`: when the 32-bit counters overflow
- `foldlM_record_spec`: everything the histogram of recorded votes holds
-/

namespace CardOcr

/-- `m` is the least value of largest count under `c`, and is counted at all. -/
def IsLeastMode (c : Nat → Nat) (m : Nat) : Prop :=
  0 < c m ∧ ∀ v, c v ≤ c m ∧ (c v = c m → m ≤ v)

/-- A count has at most one least value of largest count. -/
theorem IsLeastMode.unique {c : Nat → Nat} {m m' : Nat} (h : IsLeastMode c m)
    (h' : IsLeastMode c m') : m = m' := by
  have hle := (h.2 m').1
  have hle' := (h'.2 m).1
  have heq : c m' = c m := Nat.le_antisymm hle hle'
  exact Nat.le_antisymm ((h.2 m').2 heq) ((h'.2 m).2 heq.symm)

/-! ## Value votes -/

/-- The value of a value vote. -/
def Vote.value? : Vote → Option Nat
  | .value v => some v
  | _ => none

/-- The values of the value votes of a list, in order. -/
def Vote.values (vs : List Vote) : List Nat := vs.filterMap Vote.value?

@[simp] theorem Vote.values_nil : Vote.values [] = [] := rfl

@[simp] theorem Vote.values_cons (v : Vote) (vs : List Vote) :
    Vote.values (v :: vs) = v.value?.toList ++ Vote.values vs := by
  cases v <;> rfl

@[simp] theorem Vote.values_append (vs ws : List Vote) :
    Vote.values (vs ++ ws) = Vote.values vs ++ Vote.values ws := by
  simp [Vote.values]

@[simp] theorem Vote.values_singleton (v : Vote) : Vote.values [v] = v.value?.toList := by
  cases v <;> rfl

/-- The least value among those voted most often; none without value votes. -/
def modeOf (xs : List Nat) : Option Nat :=
  (xs.filter fun v => xs.all fun w => xs.count w ≤ xs.count v).min?

/-- `modeOf` picks exactly the least value of largest count. -/
theorem modeOf_eq_some_iff (xs : List Nat) (m : Nat) :
    modeOf xs = some m ↔ IsLeastMode xs.count m := by
  simp only [modeOf, IsLeastMode, List.min?_eq_some_iff, List.mem_filter, List.all_eq_true,
    decide_eq_true_eq]
  constructor
  · rintro ⟨⟨hm, hmax⟩, hleast⟩
    refine ⟨List.count_pos_iff.2 hm, fun v => ?_⟩
    by_cases hv : v ∈ xs
    · -- a value of the same count is itself of largest count, so not below `m`
      refine ⟨hmax v hv, fun heq => hleast v ⟨hv, fun w hw => heq ▸ hmax w hw⟩⟩
    · have h0 : xs.count v = 0 := List.count_eq_zero.2 hv
      have hpos : 0 < xs.count m := List.count_pos_iff.2 hm
      exact ⟨by omega, by omega⟩
  · rintro ⟨hpos, hmode⟩
    refine ⟨⟨List.count_pos_iff.1 hpos, fun w _ => (hmode w).1⟩, fun b ⟨_, hb⟩ => ?_⟩
    exact (hmode b).2 (Nat.le_antisymm (hmode b).1 (hb m (List.count_pos_iff.1 hpos)))

/-- Without values there is no mode. -/
@[simp] theorem modeOf_nil : modeOf [] = none := rfl

namespace Histogram

/-- Number of value votes, in unbounded arithmetic. -/
def votes (h : Histogram) : Nat := (h.counts.map Prod.snd).sum

/-! ## The counts list -/

/-- What `add` keeps of a histogram: its values in ascending order, each counted at
    least once. -/
structure WF (h : Histogram) : Prop where
  ascending : h.counts.Pairwise fun a b => a.1 < b.1
  positive : ∀ e ∈ h.counts, 0 < e.2

/-- The empty histogram is well formed. -/
theorem wf_empty : WF {} := ⟨List.Pairwise.nil, by simp⟩

/-- Looking up a value in a counts list reads the first pair or the rest. -/
private theorem lookup_cons_eq (k n w : Nat) (cs : List (Nat × Nat)) :
    ((k, n) :: cs).lookup w = if w = k then some n else cs.lookup w := by
  rw [List.lookup_cons]
  split <;> simp_all

/-- A value below every key is not looked up. -/
private theorem lookup_eq_none_of_lt {cs : List (Nat × Nat)} {v : Nat}
    (h : ∀ e ∈ cs, v < e.1) : cs.lookup v = none := by
  rw [List.lookup_eq_none_iff]
  intro e he
  have := h e he
  simp only [bne_iff_ne, ne_eq]
  omega

/-- Every key of `bump v cs` is `v` or a key of `cs`. -/
private theorem key_of_mem_bump {v : Nat} {cs : List (Nat × Nat)} {e : Nat × Nat}
    (he : e ∈ bump v cs) : e.1 = v ∨ ∃ n, (e.1, n) ∈ cs := by
  induction cs with
  | nil => simp_all [bump]
  | cons c rest ih =>
    obtain ⟨k, n⟩ := c
    simp only [bump] at he
    split at he
    · simp only [List.mem_cons] at he
      rcases he with rfl | rfl | he
      · exact .inl rfl
      · exact .inr ⟨n, List.mem_cons_self⟩
      · exact .inr ⟨e.2, List.mem_cons_of_mem _ he⟩
    · split at he
      · simp only [List.mem_cons] at he
        rcases he with rfl | he
        · exact .inr ⟨n, List.mem_cons_self⟩
        · exact .inr ⟨e.2, List.mem_cons_of_mem _ he⟩
      · simp only [List.mem_cons] at he
        rcases he with rfl | he
        · exact .inr ⟨n, List.mem_cons_self⟩
        · rcases ih he with h | ⟨m, hm⟩
          · exact .inl h
          · exact .inr ⟨m, List.mem_cons_of_mem _ hm⟩

/-- `bump` keeps the keys ascending. -/
private theorem ascending_bump (v : Nat) {cs : List (Nat × Nat)}
    (h : cs.Pairwise fun a b => a.1 < b.1) : (bump v cs).Pairwise fun a b => a.1 < b.1 := by
  induction cs with
  | nil => simp [bump]
  | cons c rest ih =>
    obtain ⟨k, n⟩ := c
    rw [List.pairwise_cons] at h
    simp only [bump]
    split
    · rename_i hlt
      refine List.Pairwise.cons (fun e he => ?_) (List.Pairwise.cons h.1 h.2)
      rcases List.mem_cons.1 he with rfl | he
      · exact hlt
      · exact Nat.lt_trans hlt (h.1 e he)
    · split
      · exact List.Pairwise.cons h.1 h.2
      · rename_i hlt hne
        refine List.Pairwise.cons (fun e he => ?_) (ih h.2)
        rcases key_of_mem_bump he with hv | ⟨m, hm⟩
        · show k < e.1
          omega
        · exact h.1 (e.1, m) hm

/-- `bump` keeps every count positive. -/
private theorem positive_bump (v : Nat) {cs : List (Nat × Nat)} (h : ∀ e ∈ cs, 0 < e.2) :
    ∀ e ∈ bump v cs, 0 < e.2 := by
  induction cs with
  | nil => simp [bump]
  | cons c rest ih =>
    obtain ⟨k, n⟩ := c
    intro e he
    simp only [bump] at he
    split at he
    · simp only [List.mem_cons] at he
      rcases he with rfl | rfl | he
      · exact Nat.one_pos
      · exact h _ List.mem_cons_self
      · exact h _ (List.mem_cons_of_mem _ he)
    · split at he
      · simp only [List.mem_cons] at he
        rcases he with rfl | he
        · exact Nat.succ_pos n
        · exact h _ (List.mem_cons_of_mem _ he)
      · simp only [List.mem_cons] at he
        rcases he with rfl | he
        · exact h _ List.mem_cons_self
        · exact ih (fun e he => h e (List.mem_cons_of_mem _ he)) e he

/-- In ascending counts, `bump v` adds one to the count looked up for `v` and leaves every
    other value's count alone. -/
private theorem lookup_bump (v w : Nat) {cs : List (Nat × Nat)}
    (h : cs.Pairwise fun a b => a.1 < b.1) :
    (bump v cs).lookup w = if w = v then some ((cs.lookup v).getD 0 + 1) else cs.lookup w := by
  induction cs with
  | nil => by_cases hw : w = v <;> simp [bump, hw]
  | cons c rest ih =>
    obtain ⟨k, n⟩ := c
    rw [List.pairwise_cons] at h
    simp only [bump]
    split
    · -- `v` is new and goes first: every key of the counts is above it
      rename_i hlt
      have hnone : rest.lookup v = none :=
        lookup_eq_none_of_lt fun e he => Nat.lt_trans hlt (h.1 e he)
      by_cases hw : w = v
      · simp [lookup_cons_eq, hw, Nat.ne_of_lt hlt, hnone]
      · simp [lookup_cons_eq, hw]
    · split
      · rename_i hge heq
        subst heq
        by_cases hw : w = v <;> simp [lookup_cons_eq, hw]
      · rename_i hge hne
        by_cases hwk : w = k
        · subst hwk
          simp [Ne.symm hne]
        · simp [lookup_cons_eq, hwk, ih h.2, hne]

/-- `bump` adds one to the sum of the counts. -/
private theorem votes_bump (v : Nat) (cs : List (Nat × Nat)) :
    ((bump v cs).map Prod.snd).sum = (cs.map Prod.snd).sum + 1 := by
  induction cs with
  | nil => rfl
  | cons c rest ih =>
    obtain ⟨k, n⟩ := c
    simp only [bump]
    split
    · simp; omega
    · split
      · simp; omega
      · simp only [List.map_cons, List.sum_cons, ih]; omega

/-! ## One vote -/

/-- Adding a vote keeps a histogram well formed. -/
theorem wf_add {h : Histogram} (hwf : h.WF) (vote : Vote) : (h.add vote).WF := by
  cases vote with
  | value v => exact ⟨ascending_bump v hwf.ascending, positive_bump v hwf.positive⟩
  | reject => exact ⟨hwf.ascending, hwf.positive⟩
  | absent => exact hwf

/-- A value vote adds one to the count of its value; nothing else changes a count. -/
theorem count_add {h : Histogram} (hwf : h.WF) (vote : Vote) (w : Nat) :
    (h.add vote).count w = h.count w + (vote.value?.toList.count w) := by
  cases vote with
  | value v =>
    simp only [add, count, lookup_bump v w hwf.ascending, Vote.value?]
    by_cases hw : w = v
    · subst hw; simp
    · simp [hw, Ne.symm hw]
  | reject => simp [add, count, Vote.value?]
  | absent => simp [add, count, Vote.value?]

/-- A value vote adds one to the total. -/
theorem votes_add (h : Histogram) (vote : Vote) :
    (h.add vote).votes = h.votes + vote.value?.toList.length := by
  cases vote with
  | value v => simp [add, votes, votes_bump, Vote.value?]
  | reject => simp [add, votes, Vote.value?]
  | absent => simp [add, votes, Vote.value?]

/-! ## Votes added in order -/

/-- Adding votes keeps a histogram well formed. -/
theorem wf_foldl_add {h : Histogram} (hwf : h.WF) (vs : List Vote) :
    (vs.foldl add h).WF := by
  induction vs generalizing h with
  | nil => exact hwf
  | cons v vs ih => exact ih (wf_add hwf v)

/-- Added votes add the number of votes for each value to its count. -/
theorem count_foldl_add {h : Histogram} (hwf : h.WF) (vs : List Vote) (w : Nat) :
    (vs.foldl add h).count w = h.count w + (Vote.values vs).count w := by
  induction vs generalizing h with
  | nil => simp
  | cons v vs ih =>
    rw [List.foldl_cons, ih (wf_add hwf v), count_add hwf, Vote.values_cons,
      List.count_append]
    omega

/-- Added votes add the number of value votes to the total. -/
theorem votes_foldl_add (h : Histogram) (vs : List Vote) :
    (vs.foldl add h).votes = h.votes + (Vote.values vs).length := by
  induction vs generalizing h with
  | nil => simp
  | cons v vs ih =>
    rw [List.foldl_cons, ih, votes_add, Vote.values_cons, List.length_append]
    omega

/-! ## The mode -/

/-- In ascending counts a listed value is looked up with its own count. -/
private theorem lookup_of_mem {cs : List (Nat × Nat)} (h : cs.Pairwise fun a b => a.1 < b.1)
    {e : Nat × Nat} (he : e ∈ cs) : cs.lookup e.1 = some e.2 := by
  induction cs with
  | nil => simp at he
  | cons c rest ih =>
    obtain ⟨k, n⟩ := c
    rw [List.pairwise_cons] at h
    rcases List.mem_cons.1 he with rfl | he
    · simp
    · have hlt : k < e.1 := h.1 e he
      simp [lookup_cons_eq, Nat.ne_of_gt hlt, ih h.2 he]

/-- A value looked up in a counts list is listed with that count. -/
private theorem mem_of_lookup {cs : List (Nat × Nat)} {v n : Nat} (h : cs.lookup v = some n) :
    (v, n) ∈ cs := by
  induction cs with
  | nil => simp at h
  | cons c rest ih =>
    obtain ⟨k, m⟩ := c
    rw [lookup_cons_eq] at h
    split at h
    · rename_i hvk
      subst hvk
      cases h
      exact List.mem_cons_self
    · exact List.mem_cons_of_mem _ (ih h)

/-- The pass of the mode search over ascending counts, from an incumbent, ends with the first
    entry of largest count. -/
private theorem foldl_modeStep_some (b : Nat × Nat) (l : List (Nat × Nat))
    (h : (b :: l).Pairwise fun a b => a.1 < b.1) :
    ∃ e, l.foldl modeStep (some b) = some e ∧ e ∈ b :: l ∧
      ∀ x ∈ b :: l, x.2 ≤ e.2 ∧ (x.2 = e.2 → e.1 ≤ x.1) := by
  induction l generalizing b with
  | nil =>
    refine ⟨b, rfl, List.mem_cons_self, fun x hx => ?_⟩
    rw [List.mem_singleton.1 hx]
    exact ⟨Nat.le_refl _, fun _ => Nat.le_refl _⟩
  | cons y l ih =>
    have hb := (List.pairwise_cons.1 h).1
    have hyl := (List.pairwise_cons.1 h).2
    rw [List.foldl_cons]
    by_cases hby : y.2 ≤ b.2
    · -- the incumbent keeps its place, and `y` comes after it
      have hstep : modeStep (some b) y = some b := by simp [modeStep, hby]
      have hbl : (b :: l).Pairwise fun a b => a.1 < b.1 :=
        List.Pairwise.cons (fun a ha => hb a (List.mem_cons_of_mem _ ha))
          (List.pairwise_cons.1 hyl).2
      obtain ⟨e, he, hmem, hmax⟩ := ih b hbl
      refine ⟨e, by rw [hstep]; exact he, ?_, fun x hx => ?_⟩
      · rcases List.mem_cons.1 hmem with rfl | hmem
        · exact List.mem_cons_self
        · exact List.mem_cons_of_mem _ (List.mem_cons_of_mem _ hmem)
      · rcases List.mem_cons.1 hx with rfl | hx
        · exact hmax x List.mem_cons_self
        · rcases List.mem_cons.1 hx with rfl | hx
          · have hbe := hmax b List.mem_cons_self
            have hby' : b.1 < x.1 := hb x List.mem_cons_self
            refine ⟨Nat.le_trans hby hbe.1, fun hxe => ?_⟩
            have := hbe.2 (by omega)
            omega
          · exact hmax x (List.mem_cons_of_mem _ hx)
    · -- `y` counts more than the incumbent and replaces it
      have hstep : modeStep (some b) y = some y := by simp [modeStep, hby]
      obtain ⟨e, he, hmem, hmax⟩ := ih y hyl
      refine ⟨e, by rw [hstep]; exact he, List.mem_cons_of_mem _ hmem, fun x hx => ?_⟩
      rcases List.mem_cons.1 hx with rfl | hx
      · have hye := (hmax y List.mem_cons_self).1
        exact ⟨by omega, fun _ => by omega⟩
      · exact hmax x hx

/-- A step of the mode search from an incumbent keeps one. -/
private theorem modeStep_some (b entry : Nat × Nat) : ∃ e, modeStep (some b) entry = some e := by
  by_cases h : entry.2 ≤ b.2
  · exact ⟨b, by simp [modeStep, h]⟩
  · exact ⟨entry, by simp [modeStep, h]⟩

/-- Without counts there is no mode. -/
theorem mode_eq_none_iff (h : Histogram) : h.mode = none ↔ h.counts = [] := by
  unfold mode
  cases hc : h.counts with
  | nil => simp
  | cons b l =>
    have hsome : ∀ l : List (Nat × Nat), ∀ b, (l.foldl modeStep (some b)).isSome := by
      intro l
      induction l with
      | nil => intro b; rfl
      | cons y l ih =>
        intro b
        rw [List.foldl_cons]
        obtain ⟨e, he⟩ := modeStep_some b y
        rw [he]
        exact ih e
    have := hsome l b
    simp only [List.foldl_cons, modeStep, reduceCtorEq, iff_false]
    intro hnone
    rw [Option.map_eq_none_iff] at hnone
    simp [hnone] at this

/-- A well-formed histogram's mode is the least value of largest count. -/
theorem isLeastMode_of_mode {h : Histogram} (hwf : h.WF) {m : Nat} (hm : h.mode = some m) :
    IsLeastMode h.count m := by
  unfold mode at hm
  cases hc : h.counts with
  | nil => simp [hc] at hm
  | cons b l =>
    have hasc := hwf.ascending
    rw [hc] at hasc
    obtain ⟨e, he, hmem, hmax⟩ := foldl_modeStep_some b l hasc
    simp only [hc, List.foldl_cons, modeStep, he, Option.map_some, Option.some.injEq] at hm
    subst hm
    have hcount : h.count e.1 = e.2 := by
      simp [count, hc, lookup_of_mem hasc hmem]
    have hpos : 0 < e.2 := hwf.positive e (hc ▸ hmem)
    refine ⟨hcount ▸ hpos, fun v => ?_⟩
    rw [hcount]
    cases hv : h.counts.lookup v with
    | none =>
      have h0 : h.count v = 0 := by simp [count, hv]
      exact ⟨by omega, by omega⟩
    | some n =>
      have hvn : h.count v = n := by simp [count, hv]
      rw [hvn]
      exact hmax (v, n) (hc ▸ mem_of_lookup hv)

/-- The mode of a well-formed histogram is exactly its least value of largest count. -/
theorem mode_eq_some_iff {h : Histogram} (hwf : h.WF) (m : Nat) :
    h.mode = some m ↔ IsLeastMode h.count m := by
  refine ⟨isLeastMode_of_mode hwf, fun hm => ?_⟩
  cases hmode : h.mode with
  | none =>
    -- a value with a count is listed, so the counts are not empty
    rw [mode_eq_none_iff] at hmode
    have := hm.1
    simp [count, hmode] at this
  | some m' => rw [(isLeastMode_of_mode hwf hmode).unique hm]

/-- The mode of votes added to the empty histogram is the least value voted most often. -/
theorem mode_foldl_add (vs : List Vote) :
    (vs.foldl add {}).mode = modeOf (Vote.values vs) := by
  have hwf := wf_foldl_add wf_empty vs
  have hcount : (vs.foldl add {}).count = (Vote.values vs).count := by
    funext w
    rw [count_foldl_add wf_empty]
    simp [count]
  cases hmode : (vs.foldl add {}).mode with
  | some m =>
    have := isLeastMode_of_mode hwf hmode
    rw [hcount] at this
    exact ((modeOf_eq_some_iff _ m).2 this).symm
  | none =>
    cases hspec : modeOf (Vote.values vs) with
    | none => rfl
    | some m =>
      have hm := (modeOf_eq_some_iff _ m).1 hspec
      rw [← hcount, ← mode_eq_some_iff hwf] at hm
      rw [hmode] at hm
      cases hm

/-! ## Rejects, absent votes and the order of the votes -/

/-- A reject adds one to the rejects; no other vote changes them. -/
theorem rejects_add (h : Histogram) (vote : Vote) :
    (h.add vote).rejects = h.rejects + if vote = .reject then 1 else 0 := by
  cases vote <;> simp [add]

/-- Added votes add the number of rejects among them to the rejects. -/
theorem rejects_foldl_add (h : Histogram) (vs : List Vote) :
    (vs.foldl add h).rejects = h.rejects + vs.countP (· = .reject) := by
  induction vs generalizing h with
  | nil => simp
  | cons v vs ih =>
    rw [List.foldl_cons, ih, rejects_add, List.countP_cons]
    simp only [decide_eq_true_eq]
    omega

/-- Adding an absent vote changes nothing. -/
@[simp] theorem add_absent (h : Histogram) : h.add .absent = h := rfl

/-- Adding votes is adding those of them that are not absent. -/
theorem foldl_add_filter_absent (h : Histogram) (vs : List Vote) :
    (vs.filter (· ≠ .absent)).foldl add h = vs.foldl add h := by
  induction vs generalizing h with
  | nil => rfl
  | cons v vs ih =>
    rw [List.filter_cons]
    by_cases hv : v = .absent
    · subst hv
      rw [if_neg (by simp)]
      exact ih h
    · rw [if_pos (by simpa using hv), List.foldl_cons, List.foldl_cons, ih]

/-- A well-formed histogram totals zero exactly when it has no counts: every count listed is
    positive. -/
theorem votes_eq_zero_iff {h : Histogram} (hwf : h.WF) : h.votes = 0 ↔ h.counts = [] := by
  unfold votes
  cases hc : h.counts with
  | nil => simp
  | cons e l =>
    have hpos : 0 < e.2 := hwf.positive e (hc ▸ List.mem_cons_self)
    simp only [List.map_cons, List.sum_cons, reduceCtorEq, iff_false]
    omega

/-- The mode is missing exactly when no value was voted for. -/
theorem mode_eq_none_iff_votes {h : Histogram} (hwf : h.WF) : h.mode = none ↔ h.votes = 0 := by
  rw [mode_eq_none_iff, votes_eq_zero_iff hwf]

/-- A well-formed histogram lists a pair exactly when its value has that count, and the count
    is positive. -/
theorem mem_counts_iff {h : Histogram} (hwf : h.WF) (e : Nat × Nat) :
    e ∈ h.counts ↔ 0 < e.2 ∧ h.count e.1 = e.2 := by
  constructor
  · intro he
    refine ⟨hwf.positive e he, ?_⟩
    simp [count, lookup_of_mem hwf.ascending he]
  · rintro ⟨hpos, hcount⟩
    -- a positive count is looked up, and what is looked up is listed
    cases hl : h.counts.lookup e.1 with
    | none => simp [count, hl] at hcount; omega
    | some n =>
      have hn : n = e.2 := by simpa [count, hl] using hcount
      subst hn
      exact mem_of_lookup hl

/-- A well-formed histogram's counts list is fixed by its view: the pairs are those of positive
    count, in ascending value order. -/
theorem counts_eq_of_count_eq {h h' : Histogram} (hwf : h.WF) (hwf' : h'.WF)
    (hc : ∀ v, h.count v = h'.count v) : h.counts = h'.counts := by
  have hnodup : ∀ {g : Histogram}, g.WF → g.counts.Nodup := fun hg =>
    hg.ascending.imp fun hlt heq => Nat.ne_of_lt hlt (congrArg Prod.fst heq)
  have hperm : h.counts.Perm h'.counts := by
    rw [List.perm_ext_iff_of_nodup (hnodup hwf) (hnodup hwf')]
    intro e
    rw [mem_counts_iff hwf, mem_counts_iff hwf', hc]
  -- two lists sorted by strictly ascending keys that are permutations of each other agree
  exact hperm.eq_of_pairwise (fun a b _ _ hab hba => absurd (Nat.lt_trans hab hba) (Nat.lt_irrefl _))
    hwf.ascending hwf'.ascending

/-- Histograms with the same counts list and rejects are the same. -/
theorem ext_counts {h h' : Histogram} (hc : h.counts = h'.counts) (hr : h.rejects = h'.rejects) :
    h = h' := by
  cases h
  cases h'
  simp_all

/-- The histogram of votes does not depend on their order. -/
theorem foldl_add_perm {vs ws : List Vote} (hp : vs.Perm ws) :
    vs.foldl add {} = ws.foldl add {} := by
  have hvalues : (Vote.values vs).Perm (Vote.values ws) := hp.filterMap _
  refine ext_counts (counts_eq_of_count_eq (wf_foldl_add wf_empty vs)
    (wf_foldl_add wf_empty ws) fun v => ?_) ?_
  · rw [count_foldl_add wf_empty, count_foldl_add wf_empty, hvalues.count_eq]
  · rw [rejects_foldl_add, rejects_foldl_add, hp.countP_eq]

/-! ## Counters of 32 bits -/

/-- A vote has room in a histogram's 32-bit counters: the counter it bumps, the count of its
    value or the rejects, is below `2³² - 1`. -/
def Room (h : Histogram) : Vote → Prop
  | .value v => h.count v + 1 < 2 ^ 32
  | .reject => h.rejects + 1 < 2 ^ 32
  | .absent => True

/-- A vote with room is added. -/
theorem record_eq_ok {h : Histogram} {vote : Vote} (hroom : h.Room vote) :
    h.record vote = .ok (h.add vote) := by
  cases vote with
  | value v => rw [record, checkedAdd_of_lt hroom]; rfl
  | reject => rw [record, checkedAdd_of_lt hroom]; rfl
  | absent => rfl

/-- A vote without room overflows its counter. -/
theorem record_eq_error {h : Histogram} {vote : Vote} (hfull : ¬h.Room vote) :
    h.record vote = .error .addOverflow := by
  cases vote with
  | value v => rw [record, checkedAdd_of_le (Nat.le_of_not_lt hfull)]; rfl
  | reject => rw [record, checkedAdd_of_le (Nat.le_of_not_lt hfull)]; rfl
  | absent => exact absurd trivial hfull

/-- Recording a vote succeeds exactly when it has room. -/
theorem record_ok_iff (h : Histogram) (vote : Vote) :
    (∃ h', h.record vote = .ok h') ↔ h.Room vote := by
  by_cases hroom : h.Room vote
  · exact ⟨fun _ => hroom, fun _ => ⟨_, record_eq_ok hroom⟩⟩
  · simp [record_eq_error hroom, hroom]

/-- Votes fit a histogram's counters: with them no value's count and not the rejects reach
    `2³²`. -/
def Fits (h : Histogram) (vs : List Vote) : Prop :=
  (∀ v, h.count v + (Vote.values vs).count v < 2 ^ 32) ∧
    h.rejects + vs.countP (· = .reject) < 2 ^ 32

/-- The first of votes that fit has room. -/
theorem Fits.room {h : Histogram} {v : Vote} {vs : List Vote} (hfits : h.Fits (v :: vs)) :
    h.Room v := by
  obtain ⟨hcounts, hrejects⟩ := hfits
  cases v with
  | value w =>
    show h.count w + 1 < 2 ^ 32
    have := hcounts w
    simp only [Vote.values_cons, Vote.value?, Option.toList_some, List.count_append,
      List.count_singleton_self] at this
    omega
  | reject =>
    show h.rejects + 1 < 2 ^ 32
    simp only [List.countP_cons, decide_true, ↓reduceIte] at hrejects
    omega
  | absent => trivial

/-- Votes that fit fit, after the first, the histogram it leaves. -/
theorem Fits.add {h : Histogram} (hwf : h.WF) {v : Vote} {vs : List Vote}
    (hfits : h.Fits (v :: vs)) : (h.add v).Fits vs := by
  obtain ⟨hcounts, hrejects⟩ := hfits
  simp only [Vote.values_cons, List.count_append, List.countP_cons, decide_eq_true_eq]
    at hcounts hrejects
  refine ⟨fun w => ?_, ?_⟩
  · rw [count_add hwf]
    have := hcounts w
    omega
  · rw [rejects_add]
    omega

/-- Votes that fit are recorded one by one as they are added. -/
theorem foldlM_record_eq_ok {h : Histogram} (hwf : h.WF) {vs : List Vote} (hfits : h.Fits vs) :
    vs.foldlM record h = .ok (vs.foldl add h) := by
  induction vs generalizing h with
  | nil => rfl
  | cons v vs ih =>
    rw [List.foldlM_cons, record_eq_ok hfits.room, List.foldl_cons]
    exact ih (wf_add hwf v) (hfits.add hwf)

/-- Fewer than `2³²` votes fit the empty histogram. -/
theorem fits_empty_of_length_lt {vs : List Vote} (hlen : vs.length < 2 ^ 32) :
    ({} : Histogram).Fits vs := by
  have hvalues : (Vote.values vs).length ≤ vs.length := List.length_filterMap_le _ _
  refine ⟨fun v => ?_, ?_⟩
  · have := List.count_le_length (a := v) (l := Vote.values vs)
    simp only [count, List.lookup_nil, Option.getD_none, Nat.zero_add]
    omega
  · have := List.countP_le_length (p := (· = Vote.reject)) (l := vs)
    simp only [Nat.zero_add]
    omega

/-- The total of a histogram whose value votes number fewer than `2³²` is their number. -/
theorem total_eq_ok {h : Histogram} (hv : h.votes < 2 ^ 32) : h.total = .ok h.votes := by
  have := foldlM_checkedAdd_of_lt (by simpa [votes] using hv :
    0 + (h.counts.map Prod.snd).sum < 2 ^ 32)
  rw [Nat.zero_add] at this
  exact this

/-- The total of a histogram of `2³²` value votes or more overflows. -/
theorem total_eq_error {h : Histogram} (hv : 2 ^ 32 ≤ h.votes) : h.total = .error .addOverflow :=
  foldlM_checkedAdd_of_le (by decide) (by simpa [votes] using hv :
    2 ^ 32 ≤ 0 + (h.counts.map Prod.snd).sum)

/-- The share of the mode, once the total is taken. -/
theorem modeFraction_eq {h : Histogram} (hv : h.votes < 2 ^ 32) :
    h.modeFraction = .ok (match h.mode with
      | some v => if h.votes > 0 then countToFloat32 (h.count v) / countToFloat32 h.votes else 0
      | none => 0) := by
  rw [modeFraction, total_eq_ok hv]
  rfl

/-- What the histogram of votes recorded in order from the empty one holds, for fewer than
    `2³²` votes: recording does not overflow; the number of value votes is its total, the number
    of rejects its rejects, and the number of votes for each value its count; the absent votes
    change nothing; its mode is missing exactly without value votes and is otherwise the least
    value of largest count; the mode's share is the single precision quotient of its count by
    the total when there are value votes and zero otherwise; and the histogram is the same for
    every order of the votes. -/
theorem foldlM_record_spec (vs : List Vote) (hlen : vs.length < 2 ^ 32) :
    ∃ h, vs.foldlM record {} = .ok h ∧
      h.total = .ok (Vote.values vs).length ∧ h.rejects = vs.countP (· = .reject) ∧
      (∀ v, h.count v = (Vote.values vs).count v) ∧
      (vs.filter (· ≠ .absent)).foldlM record {} = .ok h ∧
      (h.mode = none ↔ (Vote.values vs).length = 0) ∧
      (∀ m, h.mode = some m ↔ IsLeastMode h.count m) ∧
      (0 < (Vote.values vs).length → ∃ m, h.mode = some m ∧
        h.modeFraction =
          .ok (countToFloat32 (h.count m) / countToFloat32 (Vote.values vs).length)) ∧
      ((Vote.values vs).length = 0 → h.modeFraction = .ok 0) ∧
      ∀ ws : List Vote, ws.Perm vs → ws.foldlM record {} = .ok h := by
  have hwf : (vs.foldl add {}).WF := wf_foldl_add wf_empty vs
  have hvotes : (vs.foldl add {}).votes = (Vote.values vs).length :=
    (votes_foldl_add {} vs).trans (Nat.zero_add _)
  have hword : (vs.foldl add {}).votes < 2 ^ 32 :=
    hvotes ▸ Nat.lt_of_le_of_lt (List.length_filterMap_le _ _) hlen
  -- every reordering, and the votes without the absent ones, are fewer than `2³²` votes too
  have hrecord : ∀ ws : List Vote, ws.length ≤ vs.length →
      ws.foldlM record {} = .ok (ws.foldl add {}) := fun ws hws =>
    foldlM_record_eq_ok wf_empty (fits_empty_of_length_lt (Nat.lt_of_le_of_lt hws hlen))
  refine ⟨vs.foldl add {}, hrecord vs (Nat.le_refl _), hvotes ▸ total_eq_ok hword,
    (rejects_foldl_add {} vs).trans (Nat.zero_add _),
    fun v => (count_foldl_add wf_empty vs v).trans (Nat.zero_add _), ?_,
    hvotes ▸ mode_eq_none_iff_votes hwf, mode_eq_some_iff hwf, fun hpos => ?_, fun hzero => ?_,
    fun ws hp => ?_⟩
  · rw [hrecord _ (List.length_filter_le _ _), foldl_add_filter_absent]
  · -- with value votes there is a mode, and the share is read at it
    cases hm : (vs.foldl add {}).mode with
    | none => exact absurd ((mode_eq_none_iff_votes hwf).1 hm) (by omega)
    | some m => exact ⟨m, rfl, by rw [modeFraction_eq hword, hm, hvotes]; simp [hpos]⟩
  · have hm : (vs.foldl add {}).mode = none := (mode_eq_none_iff_votes hwf).2 (hvotes ▸ hzero)
    rw [modeFraction_eq hword, hm]
  · rw [hrecord ws (Nat.le_of_eq hp.length_eq), foldl_add_perm hp]

/-- The votes 7, 3, 7, 3, a reject and an absent vote: the tie goes to the smaller value 3,
    which holds two of the four value votes, and the same votes in ascending order give the same
    histogram. -/
theorem foldlM_record_spec_tie :
    let vs : List Vote := [.value 7, .value 3, .value 7, .value 3, .reject, .absent]
    vs.length < 2 ^ 32 ∧ ∃ h, vs.foldlM record {} = .ok h ∧ h.mode = some 3 ∧
      h.total = .ok 4 ∧ h.rejects = 1 ∧
      h.modeFraction = .ok (countToFloat32 2 / countToFloat32 4) ∧
      ([.absent, .reject, .value 3, .value 3, .value 7, .value 7] : List Vote).foldlM record {} =
        .ok h := by
  intro vs
  have hlen : vs.length < 2 ^ 32 := by decide
  obtain ⟨h, hrun, htotal, hrejects, -, -, -, -, hshare, -, hperm⟩ := foldlM_record_spec vs hlen
  have hval : vs.foldlM record {} = .ok { counts := [(3, 2), (7, 2)], rejects := 1 } := rfl
  obtain rfl := Except.ok.inj (hval.symm.trans hrun)
  obtain ⟨m, hm, hfrac⟩ := hshare (by decide)
  obtain rfl : m = 3 := Option.some.inj hm.symm
  exact ⟨hlen, _, hrun, rfl, htotal, hrejects, hfrac, hperm _ (by decide)⟩

end Histogram

end CardOcr
