import CloudStreaming.Irrv.Protocol
import Mathlib.Logic.Function.Basic

/-!
# Regions of interest (`irrv/irrv_protocol.cpp:428-448`, `encoder/shared/CTransCoder.cpp:1437-1473`, with `FFMPEG_v42`)

A client sends one control event for each region; the first one says how many there will be. `irrv_checknewconn`
collects them in an array of eight. Its `do`-`while` tests the count after decrementing it, so a count of 0 goes on
below zero, and nothing compares it with the size of the array; when it is through, the count that is passed on is that
of the event received last, which has overwritten the first. `setRegionOfInterest` does check the count, but it stores
the number and each region as it goes, and a region that it rejects leaves what it has stored.

| here | there |
| --- | --- |
| `AVRoI`       | the structure of the patched FFmpeg, with the types of its copy `AVRoI2` (`irrv-receiver/CSendRecvMessage.h:46`) |
| `events i`    | the content of `vctrl` after it was received for the `i + 1`-st time in the loop |
| `collect`     | the loop; `room` counts the elements of `roi_para` behind `roi_index` |
| `none`        | `roi_para` is written past its end, or the decoder 0 that is not there is used |
| `decoder0`    | width and height of `m_mDecoders[0]` |

`x` and `width` are 16 bits wide, so that their sum is an exact `int`.
-/

namespace CloudStreaming.Encoder.Roi

open Irrv

def MAX_ROI_NUM : Nat := 8

structure AVRoI where
  x : Int16
  y : Int16
  width : UInt16
  height : UInt16
  roiValue : Int8
  deriving DecidableEq, Repr

/-- `AVRoI roi_para[MAX_ROI_NUM] = {0}`. -/
def AVRoI.zero : AVRoI := ⟨0, 0, 0, 0, 0⟩

/-! ## Collecting the regions -/

/-- `vctrl.roi`, converted member by member. -/
def roiOf (v : Vctrl) : AVRoI :=
  ⟨v.u1.toUInt16.toInt16, v.u2.toUInt16.toInt16, v.u3.toUInt16, v.u4.toUInt16, v.u5.toUInt8.toInt8⟩

/-- The loop (`:431-443`); `roi_num` is an `int`, of which it only matters when it gets to 0. -/
def collect (events : Nat → Vctrl) : Nat → Nat → UInt32 → Vctrl → (Nat → AVRoI) → Option (Vctrl × (Nat → AVRoI))
  | 0, _, _, _, _ => none
  | room + 1, roiIndex, roiNum, vctrl, roiPara =>
    let roiPara := Function.update roiPara roiIndex (roiOf vctrl)
    let roiNum := roiNum - 1
    if roiNum = 0 then some (vctrl, roiPara)
    else collect events room (roiIndex + 1) roiNum (events roiIndex) roiPara

/-- The branch `IRRV_CTRL_ROI_SETTING`: what it passes to `irr_stream_set_region_of_interest`. -/
def roiSetting (vctrl : Vctrl) (events : Nat → Vctrl) : Option (Int × (Nat → AVRoI)) :=
  (collect events MAX_ROI_NUM 0 vctrl.u0 vctrl fun _ => AVRoI.zero).map fun r => (r.1.u0.toInt32.toInt, r.2)

/-- The event whose content is in `vctrl` after `n` rounds. -/
def lastEvent (events : Nat → Vctrl) (first : Vctrl) (index n : Nat) : Vctrl :=
  if n = 1 then first else events (index + n - 2)

/-- The loop ends in bounds exactly for a count between 1 and the room there is. -/
theorem collect_spec (events : Nat → Vctrl) {room : Nat} (hroom : room ≤ MAX_ROI_NUM) (index : Nat) (n : UInt32)
    (v : Vctrl) (para : Nat → AVRoI) :
    (1 ≤ n.toNat ∧ n.toNat ≤ room →
      ∃ para', collect events room index n v para = some (lastEvent events v index n.toNat, para')) ∧
    (¬ (1 ≤ n.toNat ∧ n.toNat ≤ room) → collect events room index n v para = none) := by
  induction room generalizing index n v para with
  | zero =>
    refine ⟨fun h => by omega, fun _ => rfl⟩
  | succ room ih =>
    have hroom' : room ≤ MAX_ROI_NUM := by omega
    have hsub : (n - 1).toNat = (2 ^ 32 - 1 + n.toNat) % 2 ^ 32 := by
      rw [UInt32.toNat_sub]
      rfl
    have hn := n.toNat_lt
    have hmax : room ≤ 8 := hroom'
    by_cases hone : n - 1 = 0
    · have hn1 : n.toNat = 1 := by
        have hzero : (n - 1).toNat = 0 := by rw [hone]; rfl
        omega
      have hcollect : collect events (room + 1) index n v para = some (v, Function.update para index (roiOf v)) := by
        simp only [collect, if_pos hone]
      refine ⟨fun _ => ⟨Function.update para index (roiOf v), ?_⟩, fun h => by omega⟩
      rw [hcollect, lastEvent, if_pos hn1]
    · have hne : n.toNat ≠ 1 := by
        intro h1
        refine hone (UInt32.toNat_inj.mp ?_)
        rw [hsub, h1]
        rfl
      have hcollect : collect events (room + 1) index n v para =
          collect events room (index + 1) (n - 1) (events index) (Function.update para index (roiOf v)) := by
        simp only [collect, if_neg hone]
      obtain ⟨hin, hout⟩ := ih hroom' (index + 1) (n - 1) (events index) (Function.update para index (roiOf v))
      constructor
      · rintro ⟨h1, hle⟩
        obtain ⟨para', hpara⟩ := hin ⟨by omega, by omega⟩
        refine ⟨para', hcollect.trans (hpara.trans ?_)⟩
        have hlast : lastEvent events (events index) (index + 1) (n - 1).toNat = lastEvent events v index n.toNat := by
          unfold lastEvent
          rw [if_neg hne]
          split
          · congr 1
            omega
          · congr 1
            omega
        rw [hlast]
      · intro h
        exact hcollect.trans (hout (by omega))

/-- The branch passes on the count of the last event, or runs past the array. -/
theorem roiSetting_spec (first : Vctrl) (events : Nat → Vctrl) :
    (1 ≤ first.u0.toNat ∧ first.u0.toNat ≤ MAX_ROI_NUM →
      ∃ para, roiSetting first events = some ((lastEvent events first 0 first.u0.toNat).u0.toInt32.toInt, para)) ∧
    (¬ (1 ≤ first.u0.toNat ∧ first.u0.toNat ≤ MAX_ROI_NUM) → roiSetting first events = none) := by
  obtain ⟨hin, hout⟩ := collect_spec events (Nat.le_refl _) 0 first.u0 first fun _ => AVRoI.zero
  constructor
  · intro hcount
    obtain ⟨para, hpara⟩ := hin hcount
    refine ⟨para, ?_⟩
    rw [roiSetting, hpara]
    rfl
  · intro hcount
    rw [roiSetting, hout hcount]
    rfl

/-- The loop ends inside the array and the count of the first event is passed on. -/
def Collected (first : Vctrl) (events : Nat → Vctrl) : Prop :=
  ∃ count para, roiSetting first events = some (count, para) ∧ count = first.u0.toInt32.toInt

/-- There are between one and eight regions, and the last event says the same number as the first. -/
def Consistent (first : Vctrl) (events : Nat → Vctrl) : Prop :=
  1 ≤ first.u0.toNat ∧ first.u0.toNat ≤ MAX_ROI_NUM ∧
    (first.u0.toNat ≠ 1 → (events (first.u0.toNat - 2)).u0 = first.u0)

theorem collected_iff (first : Vctrl) (events : Nat → Vctrl) : Collected first events ↔ Consistent first events := by
  obtain ⟨hin, hout⟩ := roiSetting_spec first events
  by_cases hcount : 1 ≤ first.u0.toNat ∧ first.u0.toNat ≤ MAX_ROI_NUM
  · obtain ⟨para, hset⟩ := hin hcount
    have hiff : Collected first events ↔ (lastEvent events first 0 first.u0.toNat).u0 = first.u0 := by
      constructor
      · rintro ⟨count, para', hr, hc⟩
        rw [hset] at hr
        obtain ⟨rfl, -⟩ := Prod.mk.inj (Option.some.inj hr)
        have hint := Int32.toInt_inj.mp hc
        simpa using congrArg Int32.toUInt32 hint
      · intro h
        exact ⟨_, para, hset, by rw [h]⟩
    rw [hiff]
    unfold lastEvent Consistent
    rw [Nat.zero_add]
    by_cases h1 : first.u0.toNat = 1
    · simp [h1, MAX_ROI_NUM]
    · rw [if_neg h1]
      exact ⟨fun h => ⟨hcount.1, hcount.2, fun _ => h⟩, fun h => h.2.2 h1⟩
  · constructor
    · rintro ⟨count, para, hr, -⟩
      rw [hout hcount] at hr
      cases hr
    · intro h
      exact absurd ⟨h.1, h.2.1⟩ hcount

/-! ## Storing them -/

structure CTransCoder where
  decoder0 : Option (Int × Int)
  setROI : Bool
  numROI : Int
  roiPara : Nat → AVRoI

/-- The three tests (`:1449-1462`). -/
def accepts (width height : Int) (r : AVRoI) : Bool :=
  if r.x.toInt < 0 ∨ r.y.toInt < 0 ∨ r.width.toNat ≤ 0 ∨ r.height.toNat ≤ 0 then false
  else if r.x.toInt + r.width.toNat > width ∨ r.y.toInt + r.height.toNat > height then false
  else if r.roiValue.toInt < -51 ∨ r.roiValue.toInt > 51 then false
  else true

/-- The loop (`:1448-1468`): the regions it leaves, and whether it got to the end. -/
def storeRegions (width height : Int) (roiPara : Nat → AVRoI) : Nat → Nat → (Nat → AVRoI) → (Nat → AVRoI) × Bool
  | 0, _, stored => (stored, true)
  | n + 1, loop, stored =>
    if accepts width height (roiPara loop) then
      storeRegions width height roiPara n (loop + 1) (Function.update stored loop (roiPara loop))
    else (stored, false)

/-- `setRegionOfInterest` (`CTransCoder.cpp:1437`). -/
def setRegionOfInterest (s : CTransCoder) (roiNum : Int) (roiPara : Nat → AVRoI) : Option CTransCoder :=
  if roiNum ≤ 0 ∨ roiNum > MAX_ROI_NUM then some s
  else
    match s.decoder0 with
    | none => none
    | some (width, height) =>
      let r := storeRegions width height roiPara roiNum.toNat 0 s.roiPara
      some { s with numROI := roiNum, roiPara := r.1, setROI := s.setROI || r.2 }

/-- A region inside the picture, with a value in range. -/
structure Valid (width height : Int) (r : AVRoI) : Prop where
  left : 0 ≤ r.x.toInt
  top : 0 ≤ r.y.toInt
  wide : 0 < r.width.toNat
  high : 0 < r.height.toNat
  right : r.x.toInt + r.width.toNat ≤ width
  bottom : r.y.toInt + r.height.toNat ≤ height
  value : -51 ≤ r.roiValue.toInt ∧ r.roiValue.toInt ≤ 51

/-- All regions are accepted: they are valid, and they are what is stored. -/
structure Accepted (s s' : CTransCoder) (roiNum : Int) (roiPara : Nat → AVRoI) : Prop where
  valid : ∃ width height, s.decoder0 = some (width, height) ∧
    ∀ i : Nat, (i : Int) < roiNum → Valid width height (roiPara i)
  setROI : s'.setROI = true
  numROI : s'.numROI = roiNum
  stored : ∀ i : Nat, (i : Int) < roiNum → s'.roiPara i = roiPara i

/-- The three members are as they were. -/
def Unchanged (s s' : CTransCoder) : Prop :=
  s'.numROI = s.numROI ∧ s'.roiPara = s.roiPara ∧ s'.setROI = s.setROI

/-- The setter returns, and it has accepted everything or changed nothing. -/
def AllOrNothing (s : CTransCoder) (roiNum : Int) (roiPara : Nat → AVRoI) : Prop :=
  ∃ s', setRegionOfInterest s roiNum roiPara = some s' ∧ (Accepted s s' roiNum roiPara ∨ Unchanged s s')

/-- The count is out of range; or there is a decoder and all regions are valid, or what is stored before the first
invalid one is there already. -/
def Settable (s : CTransCoder) (roiNum : Int) (roiPara : Nat → AVRoI) : Prop :=
  roiNum ≤ 0 ∨ roiNum > MAX_ROI_NUM ∨
    ∃ width height, s.decoder0 = some (width, height) ∧
      ((∀ i : Nat, (i : Int) < roiNum → Valid width height (roiPara i)) ∨
        (s.numROI = roiNum ∧ ∀ i : Nat, (i : Int) < roiNum →
          (∀ j, j ≤ i → Valid width height (roiPara j)) → s.roiPara i = roiPara i))

theorem accepts_iff {width height : Int} {r : AVRoI} : accepts width height r = true ↔ Valid width height r := by
  unfold accepts
  constructor
  · intro h
    split at h
    · cases h
    · split at h
      · cases h
      · split at h
        · cases h
        · exact ⟨by omega, by omega, by omega, by omega, by omega, by omega, by omega⟩
  · rintro ⟨hx, hy, hw, hh, hr, hb, hv⟩
    rw [if_neg (by omega), if_neg (by omega), if_neg (by omega)]

/-- The loop gets to the end when every region is accepted, and stores the ones before the first that is not. -/
theorem storeRegions_spec (width height : Int) (roiPara : Nat → AVRoI) (n loop : Nat) (stored : Nat → AVRoI) :
    ((storeRegions width height roiPara n loop stored).2 = true ↔
      ∀ i, loop ≤ i → i < loop + n → accepts width height (roiPara i) = true) ∧
    ∀ i, (loop ≤ i ∧ i < loop + n ∧ (∀ j, loop ≤ j → j ≤ i → accepts width height (roiPara j) = true) →
        (storeRegions width height roiPara n loop stored).1 i = roiPara i) ∧
      (¬ (loop ≤ i ∧ i < loop + n ∧ ∀ j, loop ≤ j → j ≤ i → accepts width height (roiPara j) = true) →
        (storeRegions width height roiPara n loop stored).1 i = stored i) := by
  induction n generalizing loop stored with
  | zero =>
    refine ⟨⟨fun _ i h1 h2 => by omega, fun _ => rfl⟩, fun i => ⟨fun h => by omega, fun _ => rfl⟩⟩
  | succ n ih =>
    cases hacc : accepts width height (roiPara loop) with
    | false =>
      have hstore : storeRegions width height roiPara (n + 1) loop stored = (stored, false) := by
        simp [storeRegions, hacc]
      rw [hstore]
      refine ⟨⟨fun h => absurd h (by simp), fun h => ?_⟩, fun i => ⟨?_, fun _ => rfl⟩⟩
      · have := h loop (Nat.le_refl _) (by omega)
        simp [hacc] at this
      · rintro ⟨hle, -, hall⟩
        exact absurd (hall loop (Nat.le_refl _) hle) (by simp [hacc])
    | true =>
      have hstore : storeRegions width height roiPara (n + 1) loop stored =
          storeRegions width height roiPara n (loop + 1) (Function.update stored loop (roiPara loop)) := by
        simp [storeRegions, hacc]
      obtain ⟨hend, hregions⟩ := ih (loop + 1) (Function.update stored loop (roiPara loop))
      rw [hstore]
      constructor
      · rw [hend]
        constructor
        · intro h i hle hlt
          rcases Nat.eq_or_lt_of_le hle with rfl | hlt'
          · exact hacc
          · exact h i hlt' (by omega)
        · intro h i hle hlt
          exact h i (by omega) (by omega)
      · intro i
        obtain ⟨hin, hout⟩ := hregions i
        constructor
        · rintro ⟨hle, hlt, hall⟩
          rcases Nat.eq_or_lt_of_le hle with rfl | hlt'
          · rw [hout (by omega), Function.update_self]
          · exact hin ⟨hlt', by omega, fun j hj hji => hall j (by omega) hji⟩
        · intro hnot
          have hne : i ≠ loop := by
            rintro rfl
            refine hnot ⟨Nat.le_refl _, by omega, fun j hj hji => ?_⟩
            obtain rfl : j = i := by omega
            exact hacc
          rw [hout ?_, Function.update_of_ne hne]
          rintro ⟨hle, hlt, hall⟩
          refine hnot ⟨by omega, by omega, fun j hj hji => ?_⟩
          rcases Nat.eq_or_lt_of_le hj with rfl | hlt'
          · exact hacc
          · exact hall j hlt' hji

/-- What the loop over `n` regions leaves unchanged, it has not stored. -/
theorem storeRegions_eq_iff (width height : Int) (roiPara stored : Nat → AVRoI) (n : Nat) :
    (storeRegions width height roiPara n 0 stored).1 = stored ↔
      ∀ i, i < n → (∀ j, j ≤ i → Valid width height (roiPara j)) → stored i = roiPara i := by
  obtain ⟨-, hregions⟩ := storeRegions_spec width height roiPara n 0 stored
  constructor
  · intro heq i hi hall
    have hstored := (hregions i).1 ⟨Nat.zero_le i, by omega, fun j _ hj => accepts_iff.mpr (hall j hj)⟩
    rw [heq] at hstored
    exact hstored
  · intro h
    funext i
    by_cases hcase : 0 ≤ i ∧ i < 0 + n ∧ ∀ j, 0 ≤ j → j ≤ i → accepts width height (roiPara j) = true
    · rw [(hregions i).1 hcase]
      obtain ⟨-, hi, hall⟩ := hcase
      exact (h i (by omega) fun j hj => accepts_iff.mp (hall j (Nat.zero_le j) hj)).symm
    · exact (hregions i).2 hcase

/-- Where there is a decoder and the count is in range, everything follows from the loop. -/
theorem allOrNothing_iff_of_decoder {s : CTransCoder} {roiNum w h : Int} {roiPara : Nat → AVRoI}
    (hrange : ¬ (roiNum ≤ 0 ∨ roiNum > MAX_ROI_NUM)) (hdec : s.decoder0 = some (w, h)) :
    AllOrNothing s roiNum roiPara ↔
      (∀ i : Nat, (i : Int) < roiNum → Valid w h (roiPara i)) ∨
        (s.numROI = roiNum ∧ ∀ i : Nat, (i : Int) < roiNum →
          (∀ j, j ≤ i → Valid w h (roiPara j)) → s.roiPara i = roiPara i) := by
  have hn : ∀ i : Nat, (i : Int) < roiNum ↔ i < roiNum.toNat := fun i => by omega
  have hset : setRegionOfInterest s roiNum roiPara = some { s with
      numROI := roiNum
      roiPara := (storeRegions w h roiPara roiNum.toNat 0 s.roiPara).1
      setROI := s.setROI || (storeRegions w h roiPara roiNum.toNat 0 s.roiPara).2 } := by
    rw [setRegionOfInterest, if_neg hrange, hdec]
  obtain ⟨hend, hregions⟩ := storeRegions_spec w h roiPara roiNum.toNat 0 s.roiPara
  have hok : (storeRegions w h roiPara roiNum.toNat 0 s.roiPara).2 = true ↔
      ∀ i : Nat, (i : Int) < roiNum → Valid w h (roiPara i) := by
    rw [hend]
    constructor
    · intro hacc i hi
      exact accepts_iff.mp (hacc i (Nat.zero_le i) (by omega))
    · intro hvalid i _ hi
      exact accepts_iff.mpr (hvalid i (by omega))
  by_cases hvalid : ∀ i : Nat, (i : Int) < roiNum → Valid w h (roiPara i)
  · refine iff_of_true ⟨_, hset, Or.inl ⟨⟨w, h, hdec, hvalid⟩, ?_, rfl, ?_⟩⟩ (Or.inl hvalid)
    · simp [hok.mpr hvalid]
    · intro i hi
      refine (hregions i).1 ⟨Nat.zero_le i, by omega, fun j _ hj => accepts_iff.mpr (hvalid j ?_)⟩
      omega
  · rw [or_iff_right hvalid]
    have hfalse : (storeRegions w h roiPara roiNum.toNat 0 s.roiPara).2 = false := by
      rw [← Bool.not_eq_true]
      exact fun htrue => hvalid (hok.mp htrue)
    have hkept := storeRegions_eq_iff w h roiPara s.roiPara roiNum.toNat
    simp only [hn]
    constructor
    · rintro ⟨s', hs', hacc | ⟨hnum, hpara, -⟩⟩
      · obtain ⟨w', h', hdec', hvalid'⟩ := hacc.valid
        rw [hdec] at hdec'
        obtain ⟨rfl, rfl⟩ := Prod.mk.inj (Option.some.inj hdec')
        exact absurd hvalid' hvalid
      · rw [hset] at hs'
        obtain rfl := Option.some.inj hs'
        exact ⟨hnum.symm, hkept.mp hpara⟩
    · rintro ⟨hnum, hpara⟩
      refine ⟨_, hset, Or.inr ⟨hnum.symm, hkept.mpr hpara, ?_⟩⟩
      simp [hfalse]

theorem allOrNothing_iff (s : CTransCoder) (roiNum : Int) (roiPara : Nat → AVRoI) :
    AllOrNothing s roiNum roiPara ↔ Settable s roiNum roiPara := by
  unfold Settable
  rw [← or_assoc]
  by_cases hrange : roiNum ≤ 0 ∨ roiNum > MAX_ROI_NUM
  · have hset : setRegionOfInterest s roiNum roiPara = some s := by rw [setRegionOfInterest, if_pos hrange]
    exact iff_of_true ⟨s, hset, Or.inr ⟨rfl, rfl, rfl⟩⟩ (Or.inl hrange)
  · rw [or_iff_right hrange]
    cases hdec : s.decoder0 with
    | none =>
      have hset : setRegionOfInterest s roiNum roiPara = none := by rw [setRegionOfInterest, if_neg hrange, hdec]
      constructor
      · rintro ⟨s', hs', -⟩
        rw [hset] at hs'
        cases hs'
      · rintro ⟨w, h, hsome, -⟩
        cases hsome
    | some size =>
      obtain ⟨w, h⟩ := size
      rw [allOrNothing_iff_of_decoder hrange hdec]
      constructor
      · intro hcase
        exact ⟨w, h, rfl, hcase⟩
      · rintro ⟨w', h', hsize, hcase⟩
        obtain ⟨rfl, rfl⟩ := Prod.mk.inj (Option.some.inj hsize)
        exact hcase

/-- **Regions of interest.** The loop ends in bounds with the announced count exactly when that is between one and eight
and the last event repeats it; and the setter accepts everything or changes nothing exactly when the count is out of
range, or there is a decoder and either no region is invalid or none before the first invalid one is new. -/
theorem roi_request_iff (first : Vctrl) (events : Nat → Vctrl) (s : CTransCoder) (roiNum : Int)
    (roiPara : Nat → AVRoI) :
    (Collected first events ↔ Consistent first events) ∧
      (AllOrNothing s roiNum roiPara ↔ Settable s roiNum roiPara) :=
  ⟨collected_iff first events, allOrNothing_iff s roiNum roiPara⟩

/-- A control for a region with the count `n`. -/
def roiEvent (n x : UInt32) : Vctrl := ⟨23, n, x, 0, 100, 100, 10, 0⟩

/-- A count of 0 runs past the array; two regions, the second outside the picture, leave the number 2 and the first of
them stored. -/
theorem roi_zero_and_late_rejection :
    ¬ Collected (roiEvent 0 0) (fun _ => roiEvent 0 0) ∧
      ¬ AllOrNothing ⟨some (1920, 1080), false, 0, fun _ => .zero⟩ 2 fun i => roiOf (roiEvent 2 (1900 * i.toUInt32)) := by
  constructor
  · rw [collected_iff]
    intro h
    exact absurd h.1 (by decide)
  · rw [allOrNothing_iff_of_decoder (by decide) rfl]
    rintro (hvalid | ⟨hnum, -⟩)
    · have hright := (hvalid 1 (by decide)).right
      revert hright
      decide
    · cases hnum

end CloudStreaming.Encoder.Roi
