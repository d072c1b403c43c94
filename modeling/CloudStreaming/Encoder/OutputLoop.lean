import CloudStreaming.Lib.OrderedMap
import Mathlib.Data.List.Nodup

/-!
# The output loop over the filters (`encoder/shared/CTransCoder.cpp:722-993`)

`doOutput` goes over `m_mFilters` with a range-`for`. For each filter it takes the frames there are, encodes them and
writes the packets. A filter that has no frame and whose last error is `EIO` makes it delete all filters and erase their
entries, from inside the loop: the entry at which the loop stands is one of them, and the loop goes on from it.

| here | there |
| --- | --- |
| `CTransCoder.filters`  | `m_mFilters`: the address of each filter |
| `CTransCoder.deleted`  | not in the source: the filters that were deleted |
| `CTransCoder.done`     | not in the source: the keys of the filters processed in this call |
| `FilterIo`             | what `pop`, the encoder, the muxer and `getLastError` give for one filter |
| `outputFrom`           | the loop; the list is that of the entries from the position of the iterator on |
| `none`                 | a position is used whose entry was erased, or a filter that was deleted |

The encoders are left out here (`Controls.lean`); `m_mStreamFound` has an entry for every filter, since a filter comes
from a decoder and a decoder from `newInputStream`.
-/

namespace CloudStreaming.Encoder.Output

/-- `AVERROR(EIO)`. -/
def AVERROR_EIO : Int := -5

/-- One round of the screen capture (`:943-970`): what the MJPEG encoder's `write` gives, and the muxer for each packet. -/
structure MjpegIo where
  write : Int
  packets : List Int

/-- One frame: the results of `write` and `addStream`, of the muxer for each packet that was read, and of the read that
ended it. -/
structure FrameIo where
  write : Int
  addStream : Int
  packets : List Int
  readEnd : Int
  mjpeg : Option MjpegIo

/-- One filter: the frames that `pop` gives before it gives null, the round of a flush, and `getLastError`. -/
structure FilterIo where
  frames : List FrameIo
  flush : FrameIo
  lastError : Int

structure CTransCoder where
  filters : List (Int × Nat)
  streams : List Int
  streamFound : Int → Bool
  deleted : List Nat
  done : List Int

/-- The packets go to the muxer until it fails; `some` is the value that `doOutput` returns then. -/
def muxAll : List Int → Option Int
  | [] => none
  | ret :: rest => if ret < 0 then some ret else muxAll rest

/-- The screen capture (`:943-970`), where it is due. -/
def screenCapture : Option MjpegIo → Option Int
  | none => none
  | some m => if m.write < 0 then some m.write else muxAll m.packets

/-- What follows the `write` to the encoder (`:868-970`). -/
def readPackets (io : FrameIo) : Option Int :=
  match muxAll io.packets with
  | some ret => some ret
  | none => if io.readEnd = AVERROR_EIO then some io.readEnd else screenCapture io.mjpeg

def allStreamFound (streams : List Int) (found : Int → Bool) : Bool := streams.all found

/-- A frame that was popped (`:835-866`): the value of an early return, and `m_mStreamFound`. -/
def encodeFrame (streams : List Int) (idx : Int) (found : Int → Bool) (io : FrameIo) : Option Int × (Int → Bool) :=
  if io.write < 0 then (some io.write, found)
  else if !found idx && decide (io.addStream < 0) then (some io.addStream, found)
  else
    let found := Function.update found idx true
    if allStreamFound streams found then (readPackets io, found) else (none, found)

/-- The `while` over the frames (`:825-979`). -/
def popFrames (streams : List Int) (flush : Bool) (idx : Int) (last : FrameIo) :
    List FrameIo → (Int → Bool) → Option Int × (Int → Bool)
  | [], found => (if flush then readPackets last else none, found)
  | io :: rest, found =>
    match encodeFrame streams idx found io with
    | (some ret, found) => (some ret, found)
    | (none, found) => popFrames streams flush idx last rest found

/-- The filter gave no frame and failed (`:981-983`). -/
def FilterIo.failed (io : FilterIo) : Bool := io.frames.isEmpty && io.lastError == AVERROR_EIO

/-- All filters are deleted and erased (`:984-987`). -/
def eraseFilters (s : CTransCoder) : CTransCoder :=
  { s with filters := [], deleted := s.deleted ++ s.filters.map Prod.snd }

/-- The body for the filter at the position `e`: the value of an early return, and the state. -/
def filterBody (flush : Bool) (io : FilterIo) (e : Int × Nat) (s : CTransCoder) : Option Int × CTransCoder :=
  let r := popFrames s.streams flush e.1 io.flush io.frames s.streamFound
  let s := { s with streamFound := r.2, done := s.done ++ [e.1] }
  match r.1 with
  | some ret => (some ret, s)
  | none => (none, if io.failed then eraseFilters s else s)

/-- The loop from a position on: the position and the filter are used, and the position once more for the next one. -/
def outputFrom (flush : Bool) (io : Int → FilterIo) : List (Int × Nat) → CTransCoder → Option (Int × CTransCoder)
  | [], s => some (0, s)
  | e :: rest, s =>
    if e ∈ s.filters ∧ e.2 ∉ s.deleted then
      match filterBody flush (io e.1) e s with
      | (some ret, s) => some (ret, s)
      | (none, s) => if e ∈ s.filters then outputFrom flush io rest s else none
    else none

/-- `doOutput` (`:722`). -/
def doOutput (flush : Bool) (io : Int → FilterIo) (s : CTransCoder) : Option (Int × CTransCoder) :=
  outputFrom flush io s.filters s

/-- Between two calls, with the filters `m`. -/
def idle (m : OrderedMap Int Nat) (streams : List Int) (found : Int → Bool) : CTransCoder :=
  ⟨m.entries, streams, found, [], []⟩

/-! ## What the call should do -/

/-- The call returns without using an erased position or a deleted filter; each filter was processed at most once, and
the map is as it was, or empty with all its filters deleted. -/
structure Completes (flush : Bool) (io : Int → FilterIo) (s : CTransCoder) : Prop where
  returns : ∃ ret s', doOutput flush io s = some (ret, s') ∧ s'.done.Nodup ∧
    (∀ idx ∈ s'.done, ∃ e ∈ s.filters, e.1 = idx) ∧
    (s'.filters = s.filters ∨ s'.filters = [] ∧ ∀ e ∈ s.filters, e.2 ∈ s'.deleted)

/-- No filter that the call gets to fails: up to the first early return, each has a frame or another last error. -/
def NoFailure (flush : Bool) (io : Int → FilterIo) (streams : List Int) : List (Int × Nat) → (Int → Bool) → Prop
  | [], _ => True
  | e :: rest, found =>
    match popFrames streams flush e.1 (io e.1).flush (io e.1).frames found with
    | (some _, _) => True
    | (none, found) => (io e.1).failed = false ∧ NoFailure flush io streams rest found

/-! ## The loop -/

section
variable {flush : Bool} {io : Int → FilterIo} {e : Int × Nat} {s : CTransCoder}

/-- The entry of a failing filter is erased with all others. -/
theorem outputFrom_failed {rest : List (Int × Nat)} {found : Int → Bool}
    (hpop : popFrames s.streams flush e.1 (io e.1).flush (io e.1).frames s.streamFound = (none, found))
    (hfailed : (io e.1).failed = true) : outputFrom flush io (e :: rest) s = none := by
  unfold outputFrom filterBody
  simp only [hpop, hfailed, if_true]
  split
  · exact if_neg (by simp [eraseFilters])
  · rfl

/-- An early return leaves the map as it is. -/
theorem outputFrom_early {rest : List (Int × Nat)} {ret : Int} {found : Int → Bool}
    (hpop : popFrames s.streams flush e.1 (io e.1).flush (io e.1).frames s.streamFound = (some ret, found))
    (he : e ∈ s.filters) (hdel : e.2 ∉ s.deleted) :
    outputFrom flush io (e :: rest) s = some (ret, { s with streamFound := found, done := s.done ++ [e.1] }) := by
  unfold outputFrom filterBody
  simp only [hpop]
  rw [if_pos ⟨he, hdel⟩]

/-- Any other filter takes the loop to the next entry. -/
theorem outputFrom_next {rest : List (Int × Nat)} {found : Int → Bool}
    (hpop : popFrames s.streams flush e.1 (io e.1).flush (io e.1).frames s.streamFound = (none, found))
    (hfailed : (io e.1).failed = false) (he : e ∈ s.filters) (hdel : e.2 ∉ s.deleted) :
    outputFrom flush io (e :: rest) s =
      outputFrom flush io rest { s with streamFound := found, done := s.done ++ [e.1] } := by
  rw [outputFrom, if_pos ⟨he, hdel⟩]
  simp only [filterBody, hpop, hfailed]
  exact if_pos he

/-- The loop over the entries that are left: it is through exactly when none of them fails, with every key processed at
most once and the map untouched. -/
theorem outputFrom_spec (flush : Bool) (io : Int → FilterIo) (rest : List (Int × Nat)) :
    ∀ s : CTransCoder, s.deleted = [] → (∀ e ∈ rest, e ∈ s.filters) → (s.done ++ rest.map Prod.fst).Nodup →
      (NoFailure flush io s.streams rest s.streamFound →
        ∃ ret s', outputFrom flush io rest s = some (ret, s') ∧ s'.filters = s.filters ∧ s'.done.Nodup ∧
          ∀ idx ∈ s'.done, idx ∈ s.done ∨ idx ∈ rest.map Prod.fst) ∧
      (¬ NoFailure flush io s.streams rest s.streamFound → outputFrom flush io rest s = none) := by
  induction rest with
  | nil =>
    intro s hdel hmem hnodup
    refine ⟨fun _ => ⟨0, s, rfl, rfl, by simpa using hnodup, fun idx h => Or.inl h⟩, fun h => absurd trivial h⟩
  | cons e rest ih =>
    intro s hdel hmem hnodup
    have he : e ∈ s.filters := hmem e List.mem_cons_self
    have hnd : e.2 ∉ s.deleted := by simp [hdel]
    have hdone : (s.done ++ [e.1]).Nodup := by
      refine hnodup.sublist ?_
      simp
    have hsub : ∀ idx ∈ s.done ++ [e.1], idx ∈ s.done ∨ idx ∈ (e :: rest).map Prod.fst := by
      intro idx h
      rcases List.mem_append.mp h with h | h
      · exact Or.inl h
      · exact Or.inr (by simp [List.mem_singleton.mp h])
    cases hpop : popFrames s.streams flush e.1 (io e.1).flush (io e.1).frames s.streamFound with
    | mk ret found =>
      cases ret with
      | some ret =>
        have hno : NoFailure flush io s.streams (e :: rest) s.streamFound := by
          simp only [NoFailure, hpop]
        exact ⟨fun _ => ⟨ret, _, outputFrom_early hpop he hnd, rfl, hdone, hsub⟩, fun h => absurd hno h⟩
      | none =>
        have hno : NoFailure flush io s.streams (e :: rest) s.streamFound ↔
            (io e.1).failed = false ∧ NoFailure flush io s.streams rest found := by
          simp only [NoFailure, hpop]
        rw [hno]
        cases hfailed : (io e.1).failed with
        | true => exact ⟨fun h => absurd h.1 (by simp), fun _ => outputFrom_failed hpop hfailed⟩
        | false =>
          rw [outputFrom_next hpop hfailed he hnd]
          obtain ⟨hthrough, hstuck⟩ := ih { s with streamFound := found, done := s.done ++ [e.1] } hdel
            (fun e' h => hmem e' (List.mem_cons_of_mem _ h)) (by simpa using hnodup)
          refine ⟨fun h => ?_, fun h => hstuck fun h' => h ⟨rfl, h'⟩⟩
          obtain ⟨ret, s', hrun, hfilters, hnd', hkeys⟩ := hthrough h.2
          refine ⟨ret, s', hrun, hfilters, hnd', fun idx hidx => ?_⟩
          rcases hkeys idx hidx with h | h
          · exact hsub idx h
          · exact Or.inr (by simpa using Or.inr (by simpa using h))

end

/-- **Output loop.** For every map of filters and all outcomes of the calls, the call completes without using what it
has erased exactly when no filter that it gets to has no frame and `EIO` as its last error. -/
theorem doOutput_completes_iff (flush : Bool) (io : Int → FilterIo) (m : OrderedMap Int Nat) (streams : List Int)
    (found : Int → Bool) :
    Completes flush io (idle m streams found) ↔ NoFailure flush io streams m.entries found := by
  have hkeys : (m.entries.map Prod.fst).Nodup := by
    refine List.pairwise_map.mpr (m.ascending.imp ?_)
    intro e e' h
    exact ne_of_lt h
  obtain ⟨hthrough, hstuck⟩ := outputFrom_spec flush io m.entries (idle m streams found) rfl
    (fun e h => h) (by simpa [idle] using hkeys)
  constructor
  · rintro ⟨ret, s', hrun, -⟩
    by_contra hno
    rw [doOutput] at hrun
    rw [show outputFrom flush io (idle m streams found).filters (idle m streams found) = none from hstuck hno] at hrun
    cases hrun
  · intro hno
    obtain ⟨ret, s', hrun, hfilters, hnodup, hsub⟩ := hthrough hno
    refine ⟨ret, s', hrun, hnodup, ?_, Or.inl hfilters⟩
    intro idx hidx
    rcases hsub idx hidx with h | h
    · cases h
    · obtain ⟨e, he, rfl⟩ := List.mem_map.mp h
      exact ⟨e, he, rfl⟩

/-- One filter that gives no frame and `EIO`. -/
def failing : FilterIo := ⟨[], ⟨0, 0, [], -11, none⟩, AVERROR_EIO⟩

def oneFilter : OrderedMap Int Nat := OrderedMap.empty.insert 0 0x1000

/-- The loop goes on from the entry it has erased. -/
theorem failing_filter_dangles : ¬ Completes false (fun _ => failing) (idle oneFilter [0] fun _ => true) := by
  rintro ⟨ret, s', hrun, -⟩
  have hnone : doOutput false (fun _ => failing) (idle oneFilter [0] fun _ => true) = none := rfl
  rw [hnone] at hrun
  cases hrun

end CloudStreaming.Encoder.Output
