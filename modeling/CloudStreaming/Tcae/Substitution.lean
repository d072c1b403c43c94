import CloudStreaming.Tcae.Regression

/-!
# Effective data in the window (`net_pred.cpp:141-163`, `:252-292`)

When no recorded frame reaches 1 kB, `UpdateModel` overwrites the oldest records with the last effective ones. The
loop it had for that, kept as a comment (`:273-279`), indexed `m_effectiveDelays` and `m_effectiveSizes` in parallel.
Its rewrite iterates over `m_effectiveSizes` alone and pushes each size into *both* deques (`:284`), so the fit gets
points `(size, size)`: a delay in milliseconds that is the number of kilobytes. The samples agree with the original
loop's only where the two numbers happen to (`fitted_original_iff`).
-/

namespace CloudStreaming.Tcae.NetPred

variable {K : Type} [Field K] [LinearOrder K]

/-! ## The two loops -/

/-- The delays of the commented-out loop: `delays.push_front(m_effectiveDelays[i])`. -/
def originalDelays (p : NetPred K) : List K :=
  if p.validSequence then p.delays else substitute p.effectiveDelays p.delays

/-- Its sizes: `sizes.push_front(m_effectiveSizes[i])`. -/
def originalSizes (p : NetPred K) : List K :=
  if p.validSequence then p.sizes else substitute p.effectiveSizes p.sizes

/-- The recorded points `(size, delay)`, newest first. -/
def window (p : NetPred K) : List (K × K) := p.sizes.zip p.delays

/-- The effective points. -/
def effective (p : NetPred K) : List (K × K) := p.effectiveSizes.zip p.effectiveDelays

/-- The points `UpdateModel` hands to `UpdateModelNormal`. -/
def fitted (p : NetPred K) : List (K × K) := p.modelSizes.zip p.modelDelays

/-- The loop keeps the length and puts the effective data in front. -/
theorem substitute_eq_take {K : Type} (es xs : List K) : substitute es xs = (es ++ xs).take xs.length := by
  unfold substitute
  suffices h : ∀ (fs xs : List K),
      fs.foldl (fun d x => (x :: d).dropLast) xs = (fs.reverse ++ xs).take xs.length by
    rw [h, List.reverse_reverse]
  intro fs
  induction fs with
  | nil => intro xs; simp
  | cons f fs ih =>
    intro xs
    have hd : (f :: xs).dropLast = (f :: xs).take xs.length := by rw [List.dropLast_eq_take]; rfl
    rw [List.foldl_cons, ih, hd, List.length_take_of_le (by simp), List.reverse_cons, List.append_assoc,
      List.singleton_append, List.take_append, List.take_append, List.take_take,
      Nat.min_eq_left (Nat.sub_le _ _)]

theorem take_zip {α β : Type} (as : List α) (bs : List β) (n : Nat) :
    (as.zip bs).take n = (as.take n).zip (bs.take n) :=
  List.take_zipWith

/-- Two substitutions of paired data are one substitution of pairs. -/
theorem zip_substitute {K : Type} {es fs xs ys : List K} (he : es.length = fs.length) (hx : xs.length = ys.length) :
    (substitute es xs).zip (substitute fs ys) = (es.zip fs ++ xs.zip ys).take (xs.zip ys).length := by
  have hl : (xs.zip ys).length = xs.length := by rw [List.length_zip, hx, Nat.min_self]
  rw [substitute_eq_take, substitute_eq_take, hl, ← hx, ← take_zip, List.zip_append he]

/-! ## What the deques hold -/

/-- The deques are paired, and every point in them is one of the observed ones. -/
structure Recorded (observed : List (K × K)) (p : NetPred K) : Prop where
  paired : p.sizes.length = p.delays.length
  effectivePaired : p.effectiveSizes.length = p.effectiveDelays.length
  window : ∀ x ∈ p.window, x ∈ observed
  effective : ∀ x ∈ p.effective, x ∈ observed

/-- `q` has the deques of `p`. -/
structure SameDeques (p q : NetPred K) : Prop where
  delays : q.delays = p.delays
  sizes : q.sizes = p.sizes
  effectiveDelays : q.effectiveDelays = p.effectiveDelays
  effectiveSizes : q.effectiveSizes = p.effectiveSizes

theorem Recorded.same {K : Type}
    {observed : List (K × K)} {p q : NetPred K} (h : Recorded observed p) (hs : SameDeques p q) :
    Recorded observed q := by
  obtain ⟨h1, h2, h3, h4⟩ := hs
  refine ⟨by rw [h1, h2]; exact h.paired, by rw [h3, h4]; exact h.effectivePaired, ?_, ?_⟩
  · rw [NetPred.window, h1, h2]; exact h.window
  · rw [NetPred.effective, h3, h4]; exact h.effective

/-- One push at the front of a pair of deques, with or without the pop at the back. -/
theorem push_mem {K : Type} {xs ys : List K} {x y : K} {b : Bool} {z : K × K}
    (h : z ∈ (if b then (x :: xs).dropLast else x :: xs).zip (if b then (y :: ys).dropLast else y :: ys))
    (hl : xs.length = ys.length) : z = (x, y) ∨ z ∈ xs.zip ys := by
  have hz : z ∈ (x :: xs).zip (y :: ys) := by
    cases b with
    | false => exact h
    | true =>
      simp only [if_true, List.dropLast_eq_take, List.length_cons, hl] at h
      rw [← take_zip] at h
      exact List.mem_of_mem_take h
  exact List.mem_cons.1 hz

theorem push_length {K : Type} {xs ys : List K} {x y : K} {b : Bool} (hl : xs.length = ys.length) :
    (if b then (x :: xs).dropLast else x :: xs).length = (if b then (y :: ys).dropLast else y :: ys).length := by
  cases b <;> simp [hl]

theorem record_recorded {observed : List (K × K)} {p : NetPred K} (h : Recorded observed p) (s d : K) :
    Recorded (observed ++ [(s, d)]) (p.record s d) := by
  have hnew : ∀ {z : K × K} {l : List (K × K)}, (∀ x ∈ l, x ∈ observed) → z = (s, d) ∨ z ∈ l →
      z ∈ observed ++ [(s, d)] := by
    rintro z l hl (rfl | hz)
    · simp
    · exact List.mem_append_left _ (hl z hz)
  have hold : ∀ x ∈ p.effective, x ∈ observed ++ [(s, d)] := fun x hx => hnew h.effective (Or.inr hx)
  unfold record
  dsimp only
  split
  · exact ⟨push_length h.paired, push_length h.effectivePaired,
      fun z hz => hnew h.window (push_mem hz h.paired), fun z hz => hnew h.effective (push_mem hz h.effectivePaired)⟩
  · exact ⟨push_length h.paired, h.effectivePaired, fun z hz => hnew h.window (push_mem hz h.paired), hold⟩

theorem SteadyStep.sameDeques {p q : NetPred K} (h : SteadyStep p q) : SameDeques p q := by
  rw [h.eq]
  exact ⟨rfl, rfl, rfl, rfl⟩

theorem ModelStep.sameDeques {p q : NetPred K} (h : ModelStep p q) : SameDeques p q := by
  rw [h.eq]
  exact ⟨rfl, rfl, rfl, rfl⟩

theorem SameDeques.trans {K : Type} {p q r : NetPred K} (h : SameDeques p q) (h' : SameDeques q r) : SameDeques p r :=
  ⟨h'.1.trans h.1, h'.2.trans h.2, h'.3.trans h.3, h'.4.trans h.4⟩

theorem adjustModel_sameDeques (m : CMath K) (p : NetPred K) (s d : K) :
    SameDeques p (p.adjustModel m s d).2.2 := by
  unfold adjustModel
  dsimp only
  split <;> [split <;> [split <;> [split; skip]; skip]; skip] <;> exact ⟨rfl, rfl, rfl, rfl⟩

theorem publish_sameDeques (p : NetPred K) (d prop bw : K) : SameDeques p (p.publish d prop bw) := by
  rw [publish_eq]
  exact ⟨rfl, rfl, rfl, rfl⟩

theorem step_recorded [IsStrictOrderedRing K]
    (m : CMath K) {observed : List (K × K)} {p : NetPred K} (h : Recorded observed p) (o : Op K) :
    Recorded (observed ++ (sample o).toList) (step m p o) := by
  cases o with
  | setFPS fps =>
    simp only [sample, Option.toList_none, List.append_nil]
    exact h.same ⟨rfl, rfl, rfl, rfl⟩
  | updateSizeAndDelay size n d =>
    have hc : Recorded observed (p.checkNewSteadyState n d) := h.same (checkNewSteadyState_step p n d).sameDeques
    by_cases hd : d < 0
    · simp only [sample, hd, if_true, Option.toList_none, List.append_nil, step]
      rw [updateSizeAndDelay_missed m p size n d hd]
      exact hc.same ⟨rfl, rfl, rfl, rfl⟩
    · simp only [sample, hd, if_false, Option.toList_some, step]
      rw [updateSizeAndDelay_valid m p size n d hd]
      have hr := record_recorded hc ((size.toNat : K) / 1000) d
      exact hr.same (((updateModel_step m _).sameDeques.trans (adjustModel_sameDeques m _ _ d)).trans
        (publish_sameDeques _ _ _ _))

theorem run_recorded [IsStrictOrderedRing K]
    (m : CMath K) : ∀ (ops : List (Op K)) (observed : List (K × K)) (p : NetPred K),
    Recorded observed p → Recorded (observed ++ ops.filterMap sample) (ops.foldl (step m) p)
  | [], observed, p, h => by simpa using h
  | o :: ops, observed, p, h => by
    have ih := run_recorded m ops _ _ (step_recorded m h o)
    have he : (o :: ops).filterMap sample = (sample o).toList ++ ops.filterMap sample := by
      cases hs : sample o <;> simp [hs]
    rw [he, ← List.append_assoc]
    exact ih

/-! ## When the rewritten loop agrees with the original one -/

/-- What the fit is given when no record is effective: the data of the original loop, which is the window without its
last `k` points behind the `k` effective ones, all of them observed. -/
structure Substitutes (observed : List (K × K)) (p : NetPred K) : Prop where
  original : p.modelDelays = p.originalDelays ∧ p.modelSizes = p.originalSizes
  shape : p.effective.length ≤ p.window.length →
    p.fitted = p.effective ++ p.window.take (p.window.length - p.effective.length)
  observed : ∀ x ∈ p.fitted, x ∈ observed

theorem zip_forall_eq {K : Type} : ∀ {as bs : List K}, as.length = bs.length → ((∀ x ∈ as.zip bs, x.2 = x.1) ↔ as = bs)
  | [], [], _ => by simp
  | a :: as, b :: bs, h => by
    rw [List.zip_cons_cons, List.forall_mem_cons, zip_forall_eq (Nat.succ.inj h), List.cons.injEq]
    exact and_congr_left' eq_comm

theorem substitute_inj {K : Type} {es fs xs : List K} (h : es.length = fs.length) :
    substitute es xs = substitute fs xs ↔ es.take xs.length = fs.take xs.length := by
  rw [substitute_eq_take, substitute_eq_take, List.take_append, List.take_append, h]
  exact List.append_left_inj _

theorem Recorded.substitutes_iff {observed : List (K × K)} {p : NetPred K} (h : Recorded observed p)
    (hv : p.validSequence = false) :
    Substitutes observed p ↔ ∀ x ∈ p.effective.take p.window.length, x.2 = x.1 := by
  have hlen : p.window.length = p.delays.length := by
    rw [NetPred.window, List.length_zip, h.paired, Nat.min_self]
  have hcond : (∀ x ∈ p.effective.take p.window.length, x.2 = x.1) ↔
      substitute p.effectiveSizes p.delays = substitute p.effectiveDelays p.delays := by
    rw [substitute_inj h.effectivePaired, hlen, NetPred.effective, take_zip]
    exact zip_forall_eq (by simp [h.effectivePaired])
  have hmodel : p.modelDelays = substitute p.effectiveSizes p.delays := by simp [modelDelays, hv]
  have horig : p.originalDelays = substitute p.effectiveDelays p.delays := by simp [originalDelays, hv]
  have hsizes : p.modelSizes = substitute p.effectiveSizes p.sizes := by simp [modelSizes, hv]
  rw [hcond]
  constructor
  · intro hs
    rw [← hmodel, ← horig]
    exact hs.original.1
  · intro heq
    have hf : p.fitted = (p.effective ++ p.window).take p.window.length := by
      rw [fitted, hmodel, hsizes, heq]
      exact zip_substitute h.effectivePaired h.paired
    refine ⟨⟨by rw [hmodel, horig, heq], rfl⟩, fun hk => ?_, fun x hx => ?_⟩
    · rw [hf, List.take_append, List.take_of_length_le hk]
    · rw [hf] at hx
      rcases List.mem_append.1 (List.mem_of_mem_take hx) with hx | hx
      · exact h.effective x hx
      · exact h.window x hx

theorem start_recorded {K : Type} [Field K] (steady : Bool) (maxFrameSize recCount delay : UInt32) :
    Recorded [] (start steady maxFrameSize recCount delay : NetPred K) :=
  ⟨rfl, rfl, fun _ hx => absurd hx List.not_mem_nil, fun _ hx => absurd hx List.not_mem_nil⟩

/-- **The fit gets the original loop's data exactly when each effective pair that enters the window has a delay equal
to its size.** The state is the one `UpdateModel` is called in, for any sample after any run. -/
theorem fitted_original_iff [IsStrictOrderedRing K]
    (m : CMath K) (steady : Bool) (maxFrameSize recCount delay : UInt32) (ops : List (Op K))
    (size n : UInt32) (d : K) (hd : ¬ d < 0) :
    let p := ops.foldl (step m) (start steady maxFrameSize recCount delay)
    let q := (p.checkNewSteadyState n d).record ((size.toNat : K) / 1000) d
    let observed := (ops ++ [Op.updateSizeAndDelay size n d]).filterMap sample
    (q.validSequence = false → Substitutes observed q) ↔
      (q.validSequence = false → ∀ x ∈ q.effective.take q.window.length, x.2 = x.1) := by
  intro p q observed
  have hp : Recorded (ops.filterMap sample) p := run_recorded m ops [] _ (start_recorded steady maxFrameSize recCount delay)
  have hc := hp.same (checkNewSteadyState_step p n d).sameDeques
  have hobs : observed = ops.filterMap sample ++ [((size.toNat : K) / 1000, d)] := by
    simp [observed, sample, hd]
  have hq : Recorded observed q := by
    rw [hobs]
    exact record_recorded hc _ d
  constructor
  · intro h hv
    exact (hq.substitutes_iff hv).mp (h hv)
  · intro h hv
    exact (hq.substitutes_iff hv).mpr (h hv)

/-- A frame of 2 kB after 2 ms leaves the window of one record when one of 500 bytes comes in: the pair replacing
that one is the observed one, because its two numbers agree. -/
theorem fitted_original_equalNumbers :
    let q : NetPred ℚ := ((start true 50000 1 16).updateSizeAndDelay halfMath 2000 2000 2).checkNewSteadyState 500 5
      |>.record (500 / 1000) 5
    q.fitted = [(2, 2)] ∧ q.validSequence = false ∧ Substitutes [(2, 2), (1 / 2, 5)] q := by
  refine ⟨by decide +kernel, by decide +kernel, ?_⟩
  have h := (fitted_original_iff halfMath true 50000 1 16 [Op.updateSizeAndDelay 2000 2000 2] 500 500 5
    (by decide +kernel)).mpr
  have hobs : [Op.updateSizeAndDelay 2000 2000 (2 : ℚ), Op.updateSizeAndDelay 500 500 5].filterMap sample =
      [(2, 2), (1 / 2, 5)] := by decide +kernel
  rw [← hobs]
  refine h (fun _ x hx => ?_) (by decide +kernel)
  exact of_decide_eq_true ((List.all_eq_true (p := fun x => decide (x.2 = x.1))).1 (by decide +kernel) x hx)

/-- With 8 ms instead of 2 the fit is given the point of 2 kB after 2 ms, which nobody observed. -/
theorem fitted_not_observed :
    let q : NetPred ℚ := ((start true 50000 1 16).updateSizeAndDelay halfMath 2000 2000 8).checkNewSteadyState 500 5
      |>.record (500 / 1000) 5
    q.validSequence = false ∧ q.effective = [(2, 8)] ∧ q.window = [(1 / 2, 5)] ∧ q.fitted = [(2, 2)] ∧
      ¬ Substitutes [(2, 8), (1 / 2, 5)] q := by
  refine ⟨by decide +kernel, by decide +kernel, by decide +kernel, by decide +kernel, fun h => ?_⟩
  have hmem : ((2 : ℚ), (2 : ℚ)) ∈ [((2 : ℚ), (8 : ℚ)), (1 / 2, 5)] := h.observed _ (by
    rw [show NetPred.fitted _ = [((2 : ℚ), (2 : ℚ))] by decide +kernel]
    exact List.mem_cons_self)
  exact absurd hmem (by decide +kernel)

end CloudStreaming.Tcae.NetPred
