import CloudStreaming.Lib.Fields
import CloudStreaming.Streamer.Controller
import CloudStreaming.Streamer.KeyBlock

/-!
# Control messages on the wire (`ctrl-sdl.h:31-122`, `ctrl-sdl.cpp:83-170`, `core/ctrl-msg.cpp:61-161`)

A control message is a packed structure that starts with its own size and its type. The functions that build one put most
fields in network order; `sdlmsg_ntoh` and `ctrlsys_ntoh` turn them back where the message has arrived. The coordinates of
a mouse motion travel in host order, and those of the other mouse messages as 16 bits in a `LONG`.

| here | there |
| --- | --- |
| `SdlmsgKeyboard`, `SdlmsgMouse` | `sdlmsg_keyboard_t`, `sdlmsg_mouse_t` of a Windows build: packed, `LONG`s of 32 bits |
| `bytes`, `ofBytes`  | the structure in memory, and a buffer looked at through a pointer to it |
| `Built`             | one call of a function that builds a message |
| `message`, `arrived` | what is sent, and what it is after the conversion |

A buffer shorter than the structure it is looked at as reads as zeros here; there the bytes behind it are read. The fields
`latency_msg` of `E2ELATENCY_TELEMETRY_ENABLED` are left out.
-/

namespace CloudStreaming.Streamer

open Fields KeyBlock

namespace SdlMessages

/-! ## The structures -/

structure SdlmsgKeyboard where
  msgsize : UInt16
  msgtype : UInt8
  which : UInt8
  isPressed : UInt8
  unused0 : UInt8
  scancode : UInt16
  sdlkey : Int32
  unicode : UInt32
  sdlmod : UInt16
  deriving DecidableEq

structure SdlmsgMouse where
  msgsize : UInt16
  msgtype : UInt8
  which : UInt8
  isPressed : UInt8
  mousebutton : UInt8
  mousestate : UInt8
  relativeMouseMode : UInt8
  mousex : Int32
  mousey : Int32
  mouseRelX : Int32
  mouseRelY : Int32
  tvSec : Int32
  tvUsec : Int32
  deriving DecidableEq

namespace SdlmsgKeyboard

def widths : List Nat := [2, 1, 1, 1, 1, 2, 4, 4, 2]

/-- `sizeof(sdlmsg_keyboard_t)`. -/
def size : Nat := 18

def fields (k : SdlmsgKeyboard) : List (Nat × Nat) :=
  [(2, k.msgsize.toNat), (1, k.msgtype.toNat), (1, k.which.toNat), (1, k.isPressed.toNat), (1, k.unused0.toNat),
    (2, k.scancode.toNat), (4, k.sdlkey.toUInt32.toNat), (4, k.unicode.toNat), (2, k.sdlmod.toNat)]

def bytes (k : SdlmsgKeyboard) : List UInt8 := encode k.fields

def ofBytes (b : List UInt8) : SdlmsgKeyboard :=
  let f := split widths b
  { msgsize := .ofNat (f.getD 0 0)
    msgtype := .ofNat (f.getD 1 0)
    which := .ofNat (f.getD 2 0)
    isPressed := .ofNat (f.getD 3 0)
    unused0 := .ofNat (f.getD 4 0)
    scancode := .ofNat (f.getD 5 0)
    sdlkey := (UInt32.ofNat (f.getD 6 0)).toInt32
    unicode := .ofNat (f.getD 7 0)
    sdlmod := .ofNat (f.getD 8 0) }

@[simp] theorem bytes_length (k : SdlmsgKeyboard) : k.bytes.length = size := encode_length k.fields

theorem fields_lt (k : SdlmsgKeyboard) : ∀ f ∈ k.fields, f.2 < 256 ^ f.1 := by
  have h16 := fun x : UInt16 => x.toNat_lt
  have h32 := fun x : UInt32 => x.toNat_lt
  have h8 := fun x : UInt8 => x.toNat_lt
  simp [fields, h8, h16, h32]

/-- The structure looked at in the memory it is in. -/
theorem ofBytes_bytes (k : SdlmsgKeyboard) (rest : List UInt8) : ofBytes (k.bytes ++ rest) = k := by
  have h : split widths (k.bytes ++ rest) = k.fields.map Prod.snd := split_encode_of_lt k.fields_lt rest
  simp only [ofBytes, h]
  simp [fields]

end SdlmsgKeyboard

namespace SdlmsgMouse

def widths : List Nat := [2, 1, 1, 1, 1, 1, 1, 4, 4, 4, 4, 4, 4]

/-- `sizeof(sdlmsg_mouse_t)`. -/
def size : Nat := 32

def fields (m : SdlmsgMouse) : List (Nat × Nat) :=
  [(2, m.msgsize.toNat), (1, m.msgtype.toNat), (1, m.which.toNat), (1, m.isPressed.toNat), (1, m.mousebutton.toNat),
    (1, m.mousestate.toNat), (1, m.relativeMouseMode.toNat), (4, m.mousex.toUInt32.toNat), (4, m.mousey.toUInt32.toNat),
    (4, m.mouseRelX.toUInt32.toNat), (4, m.mouseRelY.toUInt32.toNat), (4, m.tvSec.toUInt32.toNat),
    (4, m.tvUsec.toUInt32.toNat)]

def bytes (m : SdlmsgMouse) : List UInt8 := encode m.fields

def ofBytes (b : List UInt8) : SdlmsgMouse :=
  let f := split widths b
  { msgsize := .ofNat (f.getD 0 0)
    msgtype := .ofNat (f.getD 1 0)
    which := .ofNat (f.getD 2 0)
    isPressed := .ofNat (f.getD 3 0)
    mousebutton := .ofNat (f.getD 4 0)
    mousestate := .ofNat (f.getD 5 0)
    relativeMouseMode := .ofNat (f.getD 6 0)
    mousex := (UInt32.ofNat (f.getD 7 0)).toInt32
    mousey := (UInt32.ofNat (f.getD 8 0)).toInt32
    mouseRelX := (UInt32.ofNat (f.getD 9 0)).toInt32
    mouseRelY := (UInt32.ofNat (f.getD 10 0)).toInt32
    tvSec := (UInt32.ofNat (f.getD 11 0)).toInt32
    tvUsec := (UInt32.ofNat (f.getD 12 0)).toInt32 }

@[simp] theorem bytes_length (m : SdlmsgMouse) : m.bytes.length = size := encode_length m.fields

theorem fields_lt (m : SdlmsgMouse) : ∀ f ∈ m.fields, f.2 < 256 ^ f.1 := by
  have h16 := fun x : UInt16 => x.toNat_lt
  have h32 := fun x : UInt32 => x.toNat_lt
  have h8 := fun x : UInt8 => x.toNat_lt
  simp [fields, h8, h16, h32]

/-- The structure looked at in the memory it is in. -/
theorem ofBytes_bytes (m : SdlmsgMouse) (rest : List UInt8) : ofBytes (m.bytes ++ rest) = m := by
  have h : split widths (m.bytes ++ rest) = m.fields.map Prod.snd := split_encode_of_lt m.fields_lt rest
  simp only [ofBytes, h]
  simp [fields]

end SdlmsgMouse

/-! ## Building and converting -/

def msgtypeMousekey : UInt8 := 2
def msgtypeMousemotion : UInt8 := 3
def msgtypeMousewheel : UInt8 := 4

/-- A 16-bit value in a `LONG`. -/
def long (x : UInt16) : Int32 := x.toUInt32.toInt32

def htons : UInt16 → UInt16 := ntohs
def htonl : UInt32 → UInt32 := ntohl

/-- `sdlmsg_keyboard` (`ctrl-sdl.cpp:116`). -/
def sdlmsgKeyboard (pressed : UInt8) (scancode : UInt16) (key : Int32) (mod : UInt16) (unicode : UInt32) :
    SdlmsgKeyboard where
  msgsize := htons (.ofNat SdlmsgKeyboard.size)
  msgtype := msgtypeKeyboard
  which := 0
  isPressed := pressed
  unused0 := 0
  scancode := htons scancode
  sdlkey := (htonl key.toUInt32).toInt32
  unicode := htonl unicode
  sdlmod := htons mod

/-- `bzero`, then the size and the type. -/
def mouseMessage (msgtype : UInt8) : SdlmsgMouse :=
  ⟨htons (.ofNat SdlmsgMouse.size), msgtype, 0, 0, 0, 0, 0, 0, 0, 0, 0, 0, 0⟩

/-- `sdlmsg_mousekey` (`:132`). -/
def sdlmsgMousekey (pressed button : UInt8) (x y : UInt16) : SdlmsgMouse :=
  { mouseMessage msgtypeMousekey with
    isPressed := pressed, mousex := long (htons x), mousey := long (htons y), mousebutton := button }

/-- `sdlmsg_mousewheel` (`:146`). -/
def sdlmsgMousewheel (mousex mousey : UInt16) : SdlmsgMouse :=
  { mouseMessage msgtypeMousewheel with mousex := long (htons mousex), mousey := long (htons mousey) }

/-- `sdlmsg_mousemotion` (`:158`). -/
def sdlmsgMousemotion (mousex mousey relx rely : Int32) (state : UInt8) (relativeMouseMode : Int32) : SdlmsgMouse :=
  { mouseMessage msgtypeMousemotion with
    mousestate := state, relativeMouseMode := relativeMouseMode.toUInt32.toUInt8
    mousex := mousex, mousey := mousey, mouseRelX := relx, mouseRelY := rely }

/-- `sdlmsg_ntoh` of a keyboard message (`:90-95`). -/
def SdlmsgKeyboard.ntoh (k : SdlmsgKeyboard) : SdlmsgKeyboard :=
  { k with
    scancode := if k.scancode ≠ 0 then ntohs k.scancode else k.scancode
    sdlkey := if k.sdlkey ≠ 0 then (ntohl k.sdlkey.toUInt32).toInt32 else k.sdlkey
    unicode := if k.unicode ≠ 0 then ntohl k.unicode else k.unicode
    sdlmod := if k.sdlmod ≠ 0 then ntohs k.sdlmod else k.sdlmod }

/-- A coordinate (`:105-108`): its low 16 bits. -/
def ntohLong (x : Int32) : Int32 := if x ≠ 0 then long (ntohs x.toUInt32.toUInt16) else x

/-- `sdlmsg_ntoh` of a mouse button or wheel (`:103-109`). -/
def SdlmsgMouse.ntoh (m : SdlmsgMouse) : SdlmsgMouse :=
  { m with
    mousex := ntohLong m.mousex, mousey := ntohLong m.mousey
    mouseRelX := ntohLong m.mouseRelX, mouseRelY := ntohLong m.mouseRelY }

def msgtypeOf (b : List UInt8) : UInt8 := b.getD 2 0

/-- `sdlmsg_ntoh` (`:84`), in place. A motion keeps its fields (`:97-102`). -/
def sdlmsgNtoh (b : List UInt8) : List UInt8 :=
  if msgtypeOf b = msgtypeKeyboard then (SdlmsgKeyboard.ofBytes b).ntoh.bytes ++ b.drop SdlmsgKeyboard.size
  else if msgtypeOf b = msgtypeMousekey ∨ msgtypeOf b = msgtypeMousewheel then
    (SdlmsgMouse.ofBytes b).ntoh.bytes ++ b.drop SdlmsgMouse.size
  else b

/-! ## Round trip -/

theorem ntohs_bytes {x : UInt16} {a b : Nat} (ha : a < 256) (hb : b < 256) (hx : x.toNat = a + b * 256) :
    (ntohs x).toNat = b + a * 256 := by
  have hlow : x.toNat % 256 = a := by omega
  have hhigh : x.toNat / 256 = b := by omega
  rw [ntohs, UInt16.toNat_ofNat', hlow, hhigh, Nat.mod_eq_of_lt (by omega), Nat.add_comm]

theorem exists_bytes (x : UInt16) : ∃ a b, a < 256 ∧ b < 256 ∧ x.toNat = a + b * 256 := by
  have hx := x.toNat_lt
  exact ⟨x.toNat % 256, x.toNat / 256, by omega, by omega, by omega⟩

theorem ntohs_ntohs (x : UInt16) : ntohs (ntohs x) = x := by
  obtain ⟨a, b, ha, hb, hx⟩ := exists_bytes x
  apply UInt16.toNat_inj.mp
  rw [ntohs_bytes hb ha (ntohs_bytes ha hb hx), hx]

@[simp] theorem ntohs_htons (x : UInt16) : ntohs (htons x) = x := ntohs_ntohs x

@[simp] theorem ntohl_htonl (x : UInt32) : ntohl (htonl x) = x := Config.ntohl_ntohl x

@[simp] theorem htons_eq_zero {x : UInt16} : htons x = 0 ↔ x = 0 := by
  constructor
  · intro h
    have := congrArg ntohs h
    rwa [ntohs_htons] at this
  · rintro rfl
    rfl

@[simp] theorem htonl_eq_zero {x : UInt32} : htonl x = 0 ↔ x = 0 := by
  constructor
  · intro h
    have := congrArg ntohl h
    rwa [ntohl_htonl] at this
  · rintro rfl
    rfl

theorem long_inj {x y : UInt16} : long x = long y ↔ x = y := by
  constructor
  · intro h
    have := congrArg (fun z : Int32 => z.toUInt32.toUInt16) h
    simpa [long] using this
  · rintro rfl
    rfl

/-- A coordinate of 16 bits arrives. -/
@[simp] theorem ntohLong_htons (x : UInt16) : ntohLong (long (htons x)) = long x := by
  have hzero : long (htons x) = 0 ↔ x = 0 := by
    rw [← htons_eq_zero (x := x)]
    exact long_inj (y := 0)
  unfold ntohLong
  split
  · simp [long]
  next h =>
    obtain rfl := hzero.mp (not_not.mp h)
    rfl

@[simp] theorem ntohLong_zero : ntohLong 0 = 0 := rfl

theorem toInt32_eq_zero {x : UInt32} : x.toInt32 = 0 ↔ x = 0 := by
  constructor
  · intro h
    have := congrArg Int32.toUInt32 h
    rwa [UInt32.toUInt32_toInt32] at this
  · rintro rfl
    rfl

/-! ## Reports of the client (`ctrl-msg.cpp:127-160`) -/

/-- The size is the first field. -/
theorem netLength_encode (n : UInt16) (fs : List (Nat × Nat)) :
    netLength (encode ((2, (htons n).toNat) :: fs)) = n.toNat := by
  obtain ⟨a, b, ha, hb, hn⟩ := exists_bytes n
  have hswap : (htons n).toNat = b + a * 256 := ntohs_bytes ha hb hn
  have hlow : UInt8.ofNat (b + a * 256) = UInt8.ofNat b := UInt8.toNat_inj.mp (by simp only [UInt8.toNat_ofNat']; omega)
  have hhigh : (b + a * 256) / 256 = a := by omega
  rw [encode_cons, hswap, hn]
  simp only [netLength, le, List.cons_append, List.getD_cons_zero, List.getD_cons_succ, hlow, hhigh, UInt8.toNat_ofNat']
  omega

theorem le_bytes {a b c d : Nat} (ha : a < 256) (hb : b < 256) (hc : c < 256) (hd : d < 256) :
    le 4 (a + b * 256 + c * 65536 + d * 16777216) = [UInt8.ofNat a, UInt8.ofNat b, UInt8.ofNat c, UInt8.ofNat d] := by
  have hval : a + b * 256 + c * 65536 + d * 16777216 = value [UInt8.ofNat a, UInt8.ofNat b, UInt8.ofNat c, UInt8.ofNat d] := by
    simp only [value, UInt8.toNat_ofNat']
    omega
  rw [hval]
  exact le_value [UInt8.ofNat a, UInt8.ofNat b, UInt8.ofNat c, UInt8.ofNat d]

theorem le_htonl (x : UInt32) : le 4 (htonl x).toNat = (le 4 x.toNat).reverse := by
  obtain ⟨a, b, c, d, ha, hb, hc, hd, hx⟩ : ∃ a b c d, a < 256 ∧ b < 256 ∧ c < 256 ∧ d < 256 ∧
      x.toNat = a + b * 256 + c * 65536 + d * 16777216 := by
    have hlt := x.toNat_lt
    exact ⟨x.toNat % 256, x.toNat / 256 % 256, x.toNat / 65536 % 256, x.toNat / 16777216, by omega, by omega, by omega,
      by omega, by omega⟩
  rw [show (htonl x).toNat = _ from Config.ntohl_bytes ha hb hc hd hx, le_bytes hd hc hb ha, hx, le_bytes ha hb hc hd]
  rfl

/-- A message of a 4-byte head, which says its size and that it is a report, and six words. -/
def report (words : List UInt32) : List UInt8 :=
  encode ([(2, (htons (.ofNat ctrlmsgSystemNetreportSize)).toNat), (1, ctrlMsgtypeSystem.toNat),
    (1, ctrlMsgsysSubtypeNetreport.toNat)] ++ words.map fun w => (4, (htonl w).toNat))

/-- `ctrlsys_netreport` (`ctrl-msg.cpp:128`). -/
def ctrlsysNetreport (duration framecount pktcount pktloss bytecount capacity : UInt32) : List UInt8 :=
  report [duration, framecount, pktcount, pktloss, bytecount, capacity]

def delayMagic : UInt32 := 0xde1a

/-- `ctrlsys_netreport_delay` (`:148`), with its times and its bandwidth as the conversions leave them; `pad` is 0. -/
def ctrlsysNetreportDelay (firstDelay lastDelay estimatedBw : UInt32) : List UInt8 :=
  report [delayMagic, firstDelay, lastDelay, estimatedBw, 3, 0]

/-- The report in host order. -/
def reportArrived (words : List UInt32) : List UInt8 :=
  encode ([(2, ctrlmsgSystemNetreportSize), (1, ctrlMsgtypeSystem.toNat), (1, ctrlMsgsysSubtypeNetreport.toNat)] ++
    words.map fun w => (4, w.toNat))

theorem report_length {words : List UInt32} (h : words.length = 6) : (report words).length = ctrlmsgSystemNetreportSize := by
  match words, h with
  | [a, b, c, d, e, f], _ => rfl

/-- **Round trip** of the reports: `ctrlsys_ntoh` accepts them and leaves the words they were built from. Both kinds have
one size, so that a delay report is taken for a network report. -/
theorem ctrlsysNtoh_report {words : List UInt32} (h : words.length = 6) :
    ctrlsysNtoh (report words) = (reportArrived words, true) := by
  have hnet : netLength (report words) = ctrlmsgSystemNetreportSize := netLength_encode _ _
  match words, h with
  | [a, b, c, d, e, f], _ =>
    have hsub : (report [a, b, c, d, e, f]).getD 3 0 = ctrlMsgsysSubtypeNetreport := rfl
    have hgt : ¬ ctrlMsgsysSubtypeNetreport ≤ 1 := by decide
    simp only [ctrlsysNtoh, hsub, if_neg hgt, if_true, hnet, ne_eq, not_true_eq_false, if_false]
    have hrev : ∀ w : UInt32, (le 4 (htonl w).toNat).reverse = le 4 w.toNat := fun w => by
      rw [le_htonl, List.reverse_reverse]
    have hwords : reportArrived [a, b, c, d, e, f] =
        encode [(2, ctrlmsgSystemNetreportSize), (1, ctrlMsgtypeSystem.toNat), (1, ctrlMsgsysSubtypeNetreport.toNat)] ++
          [a, b, c, d, e, f].flatMap fun w => (le 4 (htonl w).toNat).reverse := by
      simp only [hrev]
      rfl
    rw [hwords]
    rfl

/-! ## What is sent and what arrives -/

/-- A call of one of the functions that build a message. -/
inductive Built where
  | keyboard (pressed : UInt8) (scancode : UInt16) (key : Int32) (mod : UInt16) (unicode : UInt32)
  | mousekey (pressed button : UInt8) (x y : UInt16)
  | mousewheel (mousex mousey : UInt16)
  | mousemotion (mousex mousey relx rely : Int32) (state : UInt8) (relativeMouseMode : Int32)
  deriving DecidableEq

namespace Built

def message : Built → List UInt8
  | keyboard pressed scancode key mod unicode => (sdlmsgKeyboard pressed scancode key mod unicode).bytes
  | mousekey pressed button x y => (sdlmsgMousekey pressed button x y).bytes
  | mousewheel x y => (sdlmsgMousewheel x y).bytes
  | mousemotion x y relx rely state mode => (sdlmsgMousemotion x y relx rely state mode).bytes

/-- The structure with the values of the call; its size stays in network order. -/
def arrived : Built → List UInt8
  | keyboard pressed scancode key mod unicode =>
    SdlmsgKeyboard.bytes
      { sdlmsgKeyboard pressed scancode key mod unicode with
        scancode := scancode, sdlkey := key, unicode := unicode, sdlmod := mod }
  | mousekey pressed button x y =>
    SdlmsgMouse.bytes { sdlmsgMousekey pressed button x y with mousex := long x, mousey := long y }
  | mousewheel x y => SdlmsgMouse.bytes { sdlmsgMousewheel x y with mousex := long x, mousey := long y }
  | mousemotion x y relx rely state mode => (sdlmsgMousemotion x y relx rely state mode).bytes

end Built

theorem SdlmsgKeyboard.msgtype_bytes (k : SdlmsgKeyboard) (rest : List UInt8) : msgtypeOf (k.bytes ++ rest) = k.msgtype := by
  simp [msgtypeOf, bytes, fields, le]

theorem SdlmsgMouse.msgtype_bytes (m : SdlmsgMouse) (rest : List UInt8) : msgtypeOf (m.bytes ++ rest) = m.msgtype := by
  simp [msgtypeOf, bytes, fields, le]

theorem drop_bytes {b rest : List UInt8} {n : Nat} (h : b.length = n) : (b ++ rest).drop n = rest := by
  rw [← h, List.drop_left]

/-- The values of the call are in the structure that arrives. -/
theorem keyboard_ntoh (pressed : UInt8) (scancode : UInt16) (key : Int32) (mod : UInt16) (unicode : UInt32) :
    (sdlmsgKeyboard pressed scancode key mod unicode).ntoh =
      { sdlmsgKeyboard pressed scancode key mod unicode with
        scancode := scancode, sdlkey := key, unicode := unicode, sdlmod := mod } := by
  have h16 : ∀ x : UInt16, (if htons x ≠ 0 then ntohs (htons x) else htons x) = x := by
    intro x
    by_cases hx : x = 0
    · subst hx
      rfl
    · simp [hx]
  have h32 : ∀ x : UInt32, (if htonl x ≠ 0 then ntohl (htonl x) else htonl x) = x := by
    intro x
    by_cases hx : x = 0
    · subst hx
      rfl
    · simp [hx]
  have hkey : (if (htonl key.toUInt32).toInt32 ≠ 0 then (ntohl (htonl key.toUInt32).toInt32.toUInt32).toInt32
      else (htonl key.toUInt32).toInt32) = key := by
    simp only [ne_eq, toInt32_eq_zero, UInt32.toUInt32_toInt32]
    have hswap := congrArg UInt32.toInt32 (h32 key.toUInt32)
    rw [apply_ite UInt32.toInt32] at hswap
    simpa using hswap
  rw [SdlmsgKeyboard.ntoh]
  simp only [sdlmsgKeyboard, SdlmsgKeyboard.mk.injEq, true_and]
  exact ⟨h16 scancode, hkey, h32 unicode, h16 mod⟩

/-- **Round trip**: what is sent arrives with the values it was built from, in a buffer that may go on behind it. -/
theorem sdlmsgNtoh_message (e : Built) (rest : List UInt8) : sdlmsgNtoh (e.message ++ rest) = e.arrived ++ rest := by
  cases e with
  | keyboard pressed scancode key mod unicode =>
    simp only [sdlmsgNtoh, Built.message, Built.arrived, SdlmsgKeyboard.msgtype_bytes, SdlmsgKeyboard.ofBytes_bytes,
      drop_bytes (SdlmsgKeyboard.bytes_length _), keyboard_ntoh]
    rfl
  | mousekey pressed button x y =>
    simp only [sdlmsgNtoh, Built.message, Built.arrived, SdlmsgMouse.msgtype_bytes, SdlmsgMouse.ofBytes_bytes,
      drop_bytes (SdlmsgMouse.bytes_length _)]
    simp [sdlmsgMousekey, mouseMessage, SdlmsgMouse.ntoh, msgtypeMousekey, msgtypeKeyboard]
  | mousewheel x y =>
    simp only [sdlmsgNtoh, Built.message, Built.arrived, SdlmsgMouse.msgtype_bytes, SdlmsgMouse.ofBytes_bytes,
      drop_bytes (SdlmsgMouse.bytes_length _)]
    simp [sdlmsgMousewheel, mouseMessage, SdlmsgMouse.ntoh, msgtypeMousewheel, msgtypeMousekey, msgtypeKeyboard]
  | mousemotion x y relx rely state mode =>
    simp only [sdlmsgNtoh, Built.message, Built.arrived, SdlmsgMouse.msgtype_bytes]
    simp [sdlmsgMousemotion, mouseMessage, msgtypeMousemotion, msgtypeMousewheel, msgtypeMousekey, msgtypeKeyboard]

/-- A built message carries its own length. -/
theorem message_wellFormed (e : Built) : WellFormed e.message := by
  cases e with
  | keyboard pressed scancode key mod unicode =>
    have hlen := SdlmsgKeyboard.bytes_length (sdlmsgKeyboard pressed scancode key mod unicode)
    refine ⟨by rw [Built.message, hlen]; decide, by rw [Built.message, hlen]; decide, ?_⟩
    rw [Built.message, hlen]
    exact netLength_encode (.ofNat SdlmsgKeyboard.size) _
  | mousekey pressed button x y =>
    have hlen := SdlmsgMouse.bytes_length (sdlmsgMousekey pressed button x y)
    refine ⟨by rw [Built.message, hlen]; decide, by rw [Built.message, hlen]; decide, ?_⟩
    rw [Built.message, hlen]
    exact netLength_encode (.ofNat SdlmsgMouse.size) _
  | mousewheel x y =>
    have hlen := SdlmsgMouse.bytes_length (sdlmsgMousewheel x y)
    refine ⟨by rw [Built.message, hlen]; decide, by rw [Built.message, hlen]; decide, ?_⟩
    rw [Built.message, hlen]
    exact netLength_encode (.ofNat SdlmsgMouse.size) _
  | mousemotion x y relx rely state mode =>
    have hlen := SdlmsgMouse.bytes_length (sdlmsgMousemotion x y relx rely state mode)
    refine ⟨by rw [Built.message, hlen]; decide, by rw [Built.message, hlen]; decide, ?_⟩
    rw [Built.message, hlen]
    exact netLength_encode (.ofNat SdlmsgMouse.size) _

/-- It is none of the system's, and is left as it is. -/
theorem message_not_system (hooks : Hooks) (e : Built) : ctrlsysHandleMessage hooks e.message = (false, e.message) := by
  cases e <;> rfl

end SdlMessages

end CloudStreaming.Streamer
