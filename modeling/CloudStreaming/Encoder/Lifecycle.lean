import CloudStreaming.Encoder.Service

/-!
# The lifecycle of the encoder service

A streamer is *sound* when its two pointers are both null or name a transcoder and the demuxer it owns. A fresh
streamer is sound, and so is one that was started or stopped; what breaks soundness is a `start` that fails once it
has made the demuxer. From a sound state the only pointer that is used untested is `m_pTrans` in `stop`.
-/

namespace CloudStreaming.Encoder.Service

open Alloc

/-- Both pointers null, or a transcoder with its demuxer. -/
def Sound (heap : Heap Obj) (st : Streamer) : Prop :=
  (st.pTrans = none ∧ st.pDemux = none) ∨
    ∃ t d, st.pTrans = some t ∧ st.pDemux = some d ∧ heap.cells t = some (.trans d) ∧ heap.cells d = some .demux

def Inv (s : Globals × Int) : Prop := ∀ st, s.1.streamer = some st → Sound s.1.heap st

/-- The streamer, if there is one, has a transcoder. -/
def Stoppable (s : Globals) : Prop := ∀ st, s.streamer = some st → st.pTrans.isSome

/-- `irr_encoder_start` gets to the demuxer: it streams, the servers are there, and the blank frame is made, for which
the surfaces have to be QSV surfaces. -/
def reachesDemux (s : Globals) (info : EncoderInfo) (io : StartIo) : Bool :=
  info.streaming &&
    (if startsWith info.url "irrv" then (openServers s info io).2 else startsWith info.url "local") &&
    (surfaceFlags info).2 && io.blankSurface && io.packet

/-- It fails after that: the format is missing from a local url, or the thread cannot be created. -/
def failsLate (info : EncoderInfo) (io : StartIo) : Bool :=
  (startsWith info.url "local" && !decide (':' ∈ info.url)) || !io.thread

/-- What the call needs: a streamer that is stopped or destroyed has a transcoder, and a `start` does not fail once
it has made the demuxer. -/
def Allowed (s : Globals × Int) : Op → Prop
  | .start info io => Stoppable s.1 ∧ ¬(reachesDemux s.1 info io = true ∧ failsLate info io = true)
  | .streamStop => Stoppable s.1
  | .encoderStop => Stoppable s.1
  | .write _ => True

/-- A `start` that fails leaves the pointers of the streamer it registered as they were. -/
def KeepsPointers (_ : Globals × Int) (op : Op) (s' : Globals × Int) : Prop :=
  ∀ info io, op = .start info io → s'.2 ≠ 0 →
    ∀ st, s'.1.streamer = some st → st.pTrans = Streamer.new.pTrans ∧ st.pDemux = Streamer.new.pDemux

/-! ## Stopping -/

section
variable {heap : Heap Obj} {st : Streamer}

theorem stop_none (h : st.pTrans = none) : st.stop heap = none := by
  simp [Streamer.stop, h]

theorem stop_sound (hs : Sound heap st) (h : st.pTrans.isSome) :
    ∃ heap', st.stop heap = some (heap', { st with pTrans := none, pDemux := none }) := by
  rcases hs with ⟨hnone, -⟩ | ⟨t, d, ht, -, hcell, hdemux⟩
  · rw [hnone] at h
    cases h
  · exact ⟨_, by simp [Streamer.stop, ht, transStop, deleteTrans, transAt, hcell, demuxAt, hdemux]; rfl⟩

/-- A streamer is destroyed safely exactly when it has a transcoder. -/
theorem destroy_isSome (hs : Sound heap st) : (st.destroy heap).isSome ↔ st.pTrans.isSome := by
  constructor
  · intro h
    by_contra hnone
    rw [Streamer.destroy, stop_none (Option.not_isSome_iff_eq_none.mp hnone)] at h
    cases h
  · intro h
    obtain ⟨heap', heq⟩ := stop_sound hs h
    simp [Streamer.destroy, heq]

end

/-! ## Starting a fresh streamer -/

section
variable {s : Globals} {info : EncoderInfo} {io : StartIo}

/-- The flags are set on a streamer with no demuxer. -/
theorem irrStreamStart_new (hnew : s.streamer = some .new) :
    irrStreamStart s info io =
      (Streamer.start { Streamer.new with
          bVASurface := (surfaceFlags info).1
          bQSVSurface := (surfaceFlags info).2 } s.heap info.url io).map
        fun r => ({ s with heap := r.1, streamer := some r.2.1 }, r.2.2) := by
  unfold irrStreamStart
  rw [hnew, Option.map_eq_bind]
  by_cases hva : info.encodeType = .vaSurfaceId
  · by_cases hqsv : startsWith info.plugin "qsv" = true
    · have hflags : surfaceFlags info = (false, true) := by simp [surfaceFlags, hva, hqsv]
      rw [hflags]
      rfl
    · have hflags : surfaceFlags info = (true, false) := by simp [surfaceFlags, hva, hqsv]
      rw [hflags]
      rfl
  · have hflags : surfaceFlags info = (false, false) := by simp [surfaceFlags, hva]
    rw [hflags]
    rfl

/-- The streamer `irr_stream_start` starts. -/
def flagged (info : EncoderInfo) : Streamer :=
  { Streamer.new with bVASurface := (surfaceFlags info).1, bQSVSurface := (surfaceFlags info).2 }

/-- No blank frame: `start` returns before the demuxer is made. -/
theorem start_noBlank (heap : Heap Obj) (h : ((surfaceFlags info).2 && io.blankSurface && io.packet) = false) :
    ∃ st, (flagged info).start heap info.url io = some (heap, st, einval) ∧ st.pTrans = none ∧ st.pDemux = none := by
  unfold Streamer.start Streamer.initBlankFramePacket flagged Streamer.new
  by_cases hb : ((surfaceFlags info).2 && io.blankSurface) = true
  · have hp : io.packet = false := by
      rw [hb, Bool.true_and] at h
      exact h
    simp [hb, hp, enomem]
  · simp [hb]

/-- The streamer once it has made its demuxer. -/
def withDemux (heap : Heap Obj) (info : EncoderInfo) : Streamer :=
  { flagged info with blankSurface := true, pDemux := some heap.next }

/-- The blank frame is there, and then it depends on the url. -/
theorem start_blank (heap : Heap Obj) (h : ((surfaceFlags info).2 && io.blankSurface && io.packet) = true) :
    (flagged info).start heap info.url io =
      if startsWith info.url "local" then
        if ':' ∈ info.url then (withDemux heap info).startTrans (heap.alloc .demux) heap.next io
        else some ((heap.alloc .demux).free heap.next, withDemux heap info, einval)
      else if startsWith info.url "irrv" then (withDemux heap info).startTrans (heap.alloc .demux) heap.next io
      else some ((heap.alloc .demux).free heap.next, withDemux heap info, enomem) := by
  simp only [Bool.and_eq_true] at h
  obtain ⟨⟨hq, hb⟩, hp⟩ := h
  unfold Streamer.start Streamer.initBlankFramePacket withDemux flagged Streamer.new
  simp [hq, hb, hp, demuxAt]

/-- The transcoder is made with the demuxer it owns. -/
theorem startTrans_eq (heap : Heap Obj) :
    (withDemux heap info).startTrans (heap.alloc .demux) heap.next io =
      some ((heap.alloc .demux).alloc (.trans heap.next), { withDemux heap info with pTrans := some (heap.next + 1) },
        if io.thread then 0 else -1) := by
  have ht : ((heap.alloc .demux).alloc (.trans heap.next)).cells (heap.next + 1) = some (.trans heap.next) :=
    Heap.alloc_self
  have hd : ((heap.alloc .demux).alloc (.trans heap.next)).cells heap.next = some .demux := by
    rw [Heap.alloc_ne (Nat.ne_of_lt (Nat.lt_succ_self _)), Heap.alloc_self]
  unfold Streamer.startTrans
  show (transStop _ (heap.next + 1)).bind _ = _
  simp only [transStop, transAt, ht, demuxAt, hd, Option.bind_eq_bind, Option.bind_some]
  rfl

theorem openServers_frame (s : Globals) (info : EncoderInfo) (io : StartIo) :
    (openServers s info io).1.heap = s.heap ∧ (openServers s info io).1.streamer = s.streamer := by
  unfold openServers
  split
  · exact ⟨rfl, rfl⟩
  · split
    · exact ⟨rfl, rfl⟩
    · split
      · exact ⟨rfl, rfl⟩
      · simp only
        split
        · split <;> exact ⟨rfl, rfl⟩
        · exact ⟨rfl, rfl⟩

/-- **Returning early**: no demuxer is made, and the streamer has neither pointer. -/
theorem start_early (hnew : s.streamer = some .new) (h : reachesDemux s info io = false) :
    ∃ s' r st, startRegistered s info io = some (s', r) ∧ r ≠ 0 ∧ s'.streamer = some st ∧
      st.pTrans = none ∧ st.pDemux = none := by
  have hstream : ∀ u : Globals, u.streamer = some .new →
      ((surfaceFlags info).2 && io.blankSurface && io.packet) = false →
      ∃ s' r st, irrStreamStart u info io = some (s', r) ∧ r ≠ 0 ∧ s'.streamer = some st ∧
        st.pTrans = none ∧ st.pDemux = none := by
    intro u hu hb
    obtain ⟨st, hst, htrans, hdemux⟩ := start_noBlank u.heap hb
    refine ⟨{ u with streamer := some st }, einval, st, ?_, by decide, rfl, htrans, hdemux⟩
    rw [irrStreamStart_new hu]
    exact congrArg (Option.map _) hst
  unfold startRegistered
  by_cases hstreaming : info.streaming = true
  · simp only [reachesDemux, hstreaming, Bool.true_and, Bool.not_true, Bool.false_eq_true, if_false] at h ⊢
    by_cases hirrv : startsWith info.url "irrv" = true
    · rw [if_pos hirrv]
      rw [if_pos hirrv] at h
      obtain ⟨-, hstr⟩ := openServers_frame s info io
      cases hopen : (openServers s info io).2 with
      | true =>
        rw [hopen, Bool.true_and] at h
        obtain ⟨s', r, st, heq, hrest⟩ := hstream (openServers s info io).1 (hstr.trans hnew) h
        refine ⟨s', r, st, ?_, hrest⟩
        simp only [if_true]
        exact heq
      | false =>
        refine ⟨(openServers s info io).1, einval, .new, ?_, by decide, hstr.trans hnew, rfl, rfl⟩
        simp
    · rw [if_neg hirrv]
      rw [if_neg hirrv] at h
      by_cases hlocal : startsWith info.url "local" = true
      · rw [if_pos hlocal]
        rw [hlocal, Bool.true_and] at h
        exact hstream s hnew h
      · rw [if_neg hlocal]
        exact ⟨s, einval, .new, rfl, by decide, hnew, rfl, rfl⟩
  · exact ⟨s, -1, .new, by simp [hstreaming], by decide, hnew, rfl, rfl⟩

/-- **Getting to the demuxer**: the streamer is started with the flags of the options. -/
theorem start_reached (hnew : s.streamer = some .new) (h : reachesDemux s info io = true) :
    ∃ s₁ : Globals, s₁.heap = s.heap ∧ (startsWith info.url "local" = true ∨ startsWith info.url "irrv" = true) ∧
      startRegistered s info io = ((flagged info).start s.heap info.url io).map fun r =>
        ({ s₁ with heap := r.1, streamer := some r.2.1 }, r.2.2) := by
  unfold reachesDemux at h
  simp only [Bool.and_eq_true] at h
  obtain ⟨⟨⟨⟨hstreaming, hmux⟩, -⟩, -⟩, -⟩ := h
  unfold startRegistered
  simp only [hstreaming, Bool.not_true, Bool.false_eq_true, if_false]
  by_cases hirrv : startsWith info.url "irrv" = true
  · rw [if_pos hirrv] at hmux
    rw [if_pos hirrv]
    obtain ⟨hheap, hstr⟩ := openServers_frame s info io
    refine ⟨(openServers s info io).1, hheap, .inr hirrv, ?_⟩
    simp only [hmux, if_true]
    rw [irrStreamStart_new (hstr.trans hnew), hheap]
    rfl
  · rw [if_neg hirrv] at hmux
    rw [if_neg hirrv, if_pos hmux]
    exact ⟨s, rfl, .inl hmux, irrStreamStart_new hnew⟩

theorem reachesDemux_blank (h : reachesDemux s info io = true) :
    ((surfaceFlags info).2 && io.blankSurface && io.packet) = true := by
  unfold reachesDemux at h
  simp only [Bool.and_eq_true] at h ⊢
  exact ⟨⟨h.1.1.2, h.1.2⟩, h.2⟩

/-- It then starts: the streamer has a transcoder and its demuxer. -/
theorem start_whole (hnew : s.streamer = some .new) (h : reachesDemux s info io = true)
    (hfail : failsLate info io = false) :
    ∃ s' st, startRegistered s info io = some (s', 0) ∧ s'.streamer = some st ∧ st.pTrans.isSome ∧
      Sound s'.heap st := by
  obtain ⟨s₁, -, hurl, heq⟩ := start_reached hnew h
  simp only [failsLate, Bool.or_eq_false_iff, Bool.and_eq_false_iff, Bool.not_eq_false', decide_eq_true_eq] at hfail
  obtain ⟨hcolon, hthread⟩ := hfail
  have hstart : (flagged info).start s.heap info.url io =
      (withDemux s.heap info).startTrans (s.heap.alloc .demux) s.heap.next io := by
    rw [start_blank s.heap (reachesDemux_blank h)]
    by_cases hlocal : startsWith info.url "local" = true
    · rw [if_pos hlocal, if_pos (hcolon.resolve_left (by simp [hlocal]))]
    · rw [if_neg hlocal, if_pos (hurl.resolve_left hlocal)]
  rw [heq, hstart, startTrans_eq, hthread]
  refine ⟨_, _, rfl, rfl, rfl, .inr ⟨s.heap.next + 1, s.heap.next, rfl, rfl, Heap.alloc_self, ?_⟩⟩
  exact (Heap.alloc_ne (Nat.ne_of_lt (Nat.lt_succ_self _))).trans Heap.alloc_self

/-- Or it fails, and a pointer to the demuxer stays. -/
theorem start_late (hnew : s.streamer = some .new) (h : reachesDemux s info io = true)
    (hfail : failsLate info io = true) :
    ∃ s' r st, startRegistered s info io = some (s', r) ∧ r ≠ 0 ∧ s'.streamer = some st ∧
      st.pDemux = some s.heap.next := by
  obtain ⟨s₁, -, hurl, heq⟩ := start_reached hnew h
  rw [heq, start_blank s.heap (reachesDemux_blank h)]
  by_cases hcolon : startsWith info.url "local" = true ∧ ':' ∉ info.url
  · rw [if_pos hcolon.1, if_neg hcolon.2]
    exact ⟨_, _, _, rfl, by simp [einval], rfl, rfl⟩
  · have hthread : io.thread = false := by
      simp only [failsLate, Bool.or_eq_true, Bool.and_eq_true, Bool.not_eq_true', decide_eq_false_iff_not] at hfail
      exact hfail.resolve_left hcolon
    have htrans : ∀ r, r = (withDemux s.heap info).startTrans (s.heap.alloc .demux) s.heap.next io →
        ∃ s' ret st, (r.map fun r => (({ s₁ with heap := r.1, streamer := some r.2.1 } : Globals), r.2.2)) =
          some (s', ret) ∧ ret ≠ 0 ∧ s'.streamer = some st ∧ st.pDemux = some s.heap.next := by
      rintro r rfl
      rw [startTrans_eq, hthread]
      exact ⟨_, _, _, rfl, by simp, rfl, rfl⟩
    by_cases hlocal : startsWith info.url "local" = true
    · have hmem : ':' ∈ info.url := by
        by_contra hnot
        exact hcolon ⟨hlocal, hnot⟩
      rw [if_pos hlocal, if_pos hmem]
      exact htrans _ rfl
    · rw [if_neg hlocal, if_pos (hurl.resolve_left hlocal)]
      exact htrans _ rfl

end

/-! ## One call -/

theorem register_isSome {s : Globals} (hinv : Inv (s, 0)) : (register s).isSome ↔ Stoppable s := by
  unfold register Stoppable
  cases hst : s.streamer with
  | none => simp
  | some st =>
    have hdestroy := destroy_isSome (hinv st hst)
    cases hd : st.destroy s.heap with
    | none => simpa [hd] using hdestroy
    | some heap => simpa [hd] using hdestroy

/-- What is registered is a new streamer, beside the same servers. -/
theorem register_spec {s s₁ : Globals} (h : register s = some s₁) :
    s₁.streamer = some .new ∧ ∀ info io, reachesDemux s₁ info io = reachesDemux s info io := by
  have hservers : s₁.streamer = some .new ∧ s₁.irrvServer = s.irrvServer ∧
      s₁.irrvAuxiliaryServer = s.irrvAuxiliaryServer := by
    unfold register at h
    split at h
    · obtain rfl := Option.some.inj h
      exact ⟨rfl, rfl, rfl⟩
    · simp only [Option.bind_eq_bind, Option.bind_eq_some_iff] at h
      obtain ⟨heap, -, h⟩ := h
      obtain rfl := Option.some.inj h
      exact ⟨rfl, rfl, rfl⟩
  obtain ⟨hnew, hserver, haux⟩ := hservers
  refine ⟨hnew, fun info io => ?_⟩
  have hopen : (openServers s₁ info io).2 = (openServers s info io).2 := by
    unfold openServers
    cases io.renderPort with
    | none => rfl
    | some port =>
      simp only [hserver, haux]
      split
      · rfl
      · split
        · rfl
        · split
          · split <;> rfl
          · rfl
  unfold reachesDemux
  rw [hopen]

/-- `irr_encoder_start` succeeds, or fails with the pointers as they were, exactly when it is allowed. -/
theorem start_iff {s : Globals × Int} (hinv : Inv s) (info : EncoderInfo) (io : StartIo) :
    (∃ s', step s (.start info io) = some s' ∧ KeepsPointers s (.start info io) s') ↔ Allowed s (.start info io) := by
  have hreg := register_isSome (s := s.1) hinv
  show (∃ s', irrEncoderStart s.1 info io = some s' ∧ _) ↔ Stoppable s.1 ∧ _
  rw [← hreg]
  cases hr : register s.1 with
  | none => simp [irrEncoderStart, hr]
  | some s₁ =>
    obtain ⟨hnew, hreach⟩ := register_spec hr
    simp only [irrEncoderStart, hr, Option.bind_eq_bind, Option.bind_some, Option.isSome_some, true_and,
      ← hreach info io]
    cases hd : reachesDemux s₁ info io with
    | false =>
      obtain ⟨s', r, st, heq, -, hst, htrans, hdemux⟩ := start_early hnew hd
      refine iff_of_true ⟨(s', r), heq, ?_⟩ (by simp)
      intro _ _ _ _ st' hst'
      obtain rfl := Option.some.inj (hst.symm.trans hst')
      exact ⟨htrans, hdemux⟩
    | true =>
      cases hf : failsLate info io with
      | false =>
        obtain ⟨s', st, heq, -⟩ := start_whole hnew hd hf
        refine iff_of_true ⟨(s', 0), heq, ?_⟩ (by simp)
        intro _ _ _ hne
        exact absurd rfl hne
      | true =>
        obtain ⟨s', r, st, heq, hne, hst, hdemux⟩ := start_late hnew hd hf
        refine iff_of_false ?_ (by simp)
        rintro ⟨t, ht, hkeeps⟩
        obtain rfl := Option.some.inj (heq.symm.trans ht)
        have hnull := (hkeeps info io rfl hne st hst).2
        rw [hdemux] at hnull
        cases hnull

theorem Inv.start {s s' : Globals × Int} {info : EncoderInfo} {io : StartIo}
    (h : step s (.start info io) = some s') (hkeeps : KeepsPointers s (.start info io) s') : Inv s' := by
  have h : irrEncoderStart s.1 info io = some s' := h
  simp only [irrEncoderStart, Option.bind_eq_bind, Option.bind_eq_some_iff] at h
  obtain ⟨s₁, hr, h⟩ := h
  obtain ⟨hnew, -⟩ := register_spec hr
  intro st hst
  cases hd : reachesDemux s₁ info io with
  | false =>
    obtain ⟨s₂, r, st', heq, -, hst', htrans, hdemux⟩ := start_early hnew hd
    obtain rfl := Option.some.inj (heq.symm.trans h)
    obtain rfl := Option.some.inj (hst'.symm.trans hst)
    exact .inl ⟨htrans, hdemux⟩
  | true =>
    cases hf : failsLate info io with
    | false =>
      obtain ⟨s₂, st', heq, hst', -, hsound⟩ := start_whole hnew hd hf
      obtain rfl := Option.some.inj (heq.symm.trans h)
      obtain rfl := Option.some.inj (hst'.symm.trans hst)
      exact hsound
    | true =>
      obtain ⟨s₂, r, st', heq, hne, hst', -⟩ := start_late hnew hd hf
      obtain rfl := Option.some.inj (heq.symm.trans h)
      exact .inl (hkeeps info io rfl hne st hst)

/-- A sound streamer can be written to in every state. -/
theorem write_some {s : Globals × Int} (hinv : Inv s) (io : WriteIo) : ∃ r, irrEncoderWrite s.1 io = some (s.1, r) := by
  unfold irrEncoderWrite
  cases hst : s.1.streamer with
  | none => exact ⟨_, rfl⟩
  | some st =>
    simp only
    split
    · exact ⟨_, rfl⟩
    · rcases hinv st hst with ⟨-, hd⟩ | ⟨t, d, -, hd, -, hdemux⟩
      · rw [hd]
        exact ⟨_, rfl⟩
      · rw [hd]
        simp only [demuxAt, hdemux]
        split <;> exact ⟨_, rfl⟩

/-- A call that stops the streamer: without a transcoder it faults, and with one it leaves a sound state. -/
def Stops (s : Globals × Int) (result : Option (Globals × Int)) : Prop :=
  (Stoppable s.1 ∧ ∃ s', result = some s' ∧ Inv s') ∨ (¬Stoppable s.1 ∧ result = none)

theorem Stops.of_no_streamer {s : Globals × Int} {r : Int} (hinv : Inv s) (hst : s.1.streamer = none) :
    Stops s (some (s.1, r)) := by
  refine .inl ⟨fun st h => ?_, _, rfl, hinv⟩
  rw [hst] at h
  cases h

/-- Stopping a sound streamer clears both pointers. -/
theorem irrStreamStop_stops {s : Globals × Int} (hinv : Inv s) : Stops s (irrStreamStop s.1) := by
  unfold irrStreamStop
  cases hst : s.1.streamer with
  | none => exact .of_no_streamer hinv hst
  | some st =>
    by_cases htrans : st.pTrans.isSome
    · obtain ⟨heap, heq⟩ := stop_sound (hinv st hst) htrans
      simp only [heq, Option.bind_eq_bind, Option.bind_some]
      refine .inl ⟨fun st' h => ?_, _, rfl, fun st' h => ?_⟩
      · obtain rfl := Option.some.inj (hst.symm.trans h)
        exact htrans
      · obtain rfl := Option.some.inj h
        exact .inl ⟨rfl, rfl⟩
    · refine .inr ⟨fun h => htrans (h st hst), ?_⟩
      simp only [stop_none (Option.not_isSome_iff_eq_none.mp htrans), Option.bind_eq_bind, Option.bind_none]

/-- The same for `Unregister`, which leaves no streamer. -/
theorem irrEncoderStop_stops {s : Globals × Int} (hinv : Inv s) : Stops s (irrEncoderStop s.1) := by
  unfold irrEncoderStop
  cases hst : s.1.streamer with
  | none => exact .of_no_streamer hinv hst
  | some st =>
    have hdestroy := destroy_isSome (hinv st hst)
    simp only [Option.bind_eq_bind]
    cases hd : st.destroy s.1.heap with
    | none =>
      refine .inr ⟨fun h => ?_, rfl⟩
      have hsome := hdestroy.mpr (h st hst)
      rw [hd] at hsome
      cases hsome
    | some heap =>
      refine .inl ⟨fun st' h => ?_, _, rfl, fun st' h => ?_⟩
      · obtain rfl := Option.some.inj (hst.symm.trans h)
        rw [hd] at hdestroy
        exact hdestroy.mp rfl
      · cases h

/-! ## Runs -/

theorem KeepsPointers.of_not_start {s s' : Globals × Int} {op : Op} (h : ∀ info io, op ≠ .start info io) :
    KeepsPointers s op s' := by
  intro info io hop
  exact absurd hop (h info io)

theorem Stops.iff_stoppable {s : Globals × Int} {op : Op} (h : Stops s (step s op))
    (hop : ∀ info io, op ≠ .start info io) :
    (∃ s', step s op = some s' ∧ KeepsPointers s op s') ↔ Stoppable s.1 := by
  rcases h with ⟨hstop, s', heq, -⟩ | ⟨hstop, heq⟩
  · exact iff_of_true ⟨s', heq, .of_not_start hop⟩ hstop
  · refine iff_of_false ?_ hstop
    rintro ⟨s', h, -⟩
    cases heq.symm.trans h

theorem Stops.inv {s s' : Globals × Int} {result : Option (Globals × Int)} (h : Stops s result)
    (hs' : result = some s') : Inv s' := by
  rcases h with ⟨-, t, heq, ht⟩ | ⟨-, heq⟩
  · obtain rfl := Option.some.inj (heq.symm.trans hs')
    exact ht
  · cases heq.symm.trans hs'

/-- One call, from a sound state. -/
theorem step_iff {s : Globals × Int} (hinv : Inv s) (op : Op) :
    (∃ s', step s op = some s' ∧ KeepsPointers s op s') ↔ Allowed s op := by
  cases op with
  | start info io => exact start_iff hinv info io
  | streamStop => exact Stops.iff_stoppable (irrStreamStop_stops hinv) (by simp)
  | write io =>
    obtain ⟨r, heq⟩ := write_some hinv io
    exact iff_of_true ⟨(s.1, r), heq, .of_not_start (by simp)⟩ trivial
  | encoderStop => exact Stops.iff_stoppable (irrEncoderStop_stops hinv) (by simp)

theorem Inv.step {s s' : Globals × Int} {op : Op} (hinv : Inv s) (h : step s op = some s')
    (hkeeps : KeepsPointers s op s') : Inv s' := by
  cases op with
  | start info io => exact Inv.start h hkeeps
  | streamStop => exact (irrStreamStop_stops hinv).inv h
  | write io =>
    obtain ⟨r, heq⟩ := write_some hinv io
    obtain rfl := Option.some.inj (heq.symm.trans h)
    exact hinv
  | encoderStop => exact (irrEncoderStop_stops hinv).inv h

/-- **The lifecycle is safe exactly under its protocol.** In a run no call uses a null or deleted transcoder or
demuxer, and no failed start leaves a pointer behind, if and only if every streamer that is stopped, destroyed or
replaced has a transcoder, and no start fails once it has made its demuxer. -/
theorem service_safe_iff (ops : List Op) :
    Runs.Succeeds step KeepsPointers (init, 0) ops ↔ Runs.Requires step Allowed (init, 0) ops := by
  refine Runs.succeeds_iff (I := Inv) (fun s op h => step_iff h op) (fun s op s' h => h.step) ops (init, 0) ?_
  intro st hst
  cases hst

/-- A start without a port for the server, and then the stop that follows: `m_pTrans` is null in it. -/
theorem stop_after_failed_start_faults :
    let info : EncoderInfo := ⟨true, "irrv:264".toList, "qsv".toList, .vaSurfaceId, 0⟩
    let io : StartIo := ⟨none, true, false, true, true, true, true⟩
    ¬Runs.Succeeds step KeepsPointers (init, 0) [.start info io, .encoderStop] := by
  rintro info io ⟨s', hstart, -, s'', hstop, -⟩
  have hfailed : step (init, 0) (.start info io) = some ({ init with streamer := some .new }, einval) := rfl
  obtain rfl := Option.some.inj (hfailed.symm.trans hstart)
  cases hstop

end CloudStreaming.Encoder.Service
