import CloudStreaming.Lib.Bytes

/-!
# The IRRV wire format (`irrv/irrv_protocol.h`)

An event is a 16-byte header `irrv_event_t` and a body that depends on its type. All fields are
`uint32_t`, except the two 16-byte identifiers of `irrv_vauth_t`.

| event | sender | body |
| --- | --- | --- |
| `VHEAD`, `VHEAD_ACK` | server, client | `irrv_vhead_t`, 32 bytes |
| `VFRAME`             | server         | `irrv_vframe_t`, 32 bytes, then `data_size` bytes of frame data |
| `VAUTH`, `VAUTH_ACK` | client, server | `irrv_vauth_t`, 60 bytes |
| `VCTRL`              | client         | `irrv_vctrl_t`, 32 bytes |
| `MESSAGE`            | server         | `irrv_message_t`, 32 bytes |
-/

namespace CloudStreaming.Irrv

open Bytes

abbrev Buf := List UInt8

/-! ## Constants -/

def irrvMagic : UInt32 := 0xc9c9d2c6

def irrvEventVhead : UInt32 := 0x1000
def irrvEventVheadAck : UInt32 := 0x1001
def irrvEventVframe : UInt32 := 0x1002
def irrvEventVctrl : UInt32 := 0x1004
def irrvEventVauth : UInt32 := 0x1006
def irrvEventVauthAck : UInt32 := 0x1007
def irrvEventMessage : UInt32 := 0x100c

/-- `sizeof(irrv_event_t)`. -/
def eventLen : Nat := 16
/-- `sizeof` of every body but `irrv_vauth_t`. -/
def bodyLen : Nat := 32
/-- `sizeof(irrv_vauth_t)`. -/
def vauthLen : Nat := 60

/-- A string literal in an `irrv_uuid_t`: zero-padded to `IRRV_UUID_LEN` bytes. -/
def uuid (s : List UInt8) : Buf := s ++ zeros (16 - s.length)

/-- `DEFAULT_AUTH_ID`, "irrv_id". -/
def authId : Buf := uuid [0x69, 0x72, 0x72, 0x76, 0x5f, 0x69, 0x64]

/-- `DEFAULT_AUTH_KEY`, "irrv_key". -/
def authKey : Buf := uuid [0x69, 0x72, 0x72, 0x76, 0x5f, 0x6b, 0x65, 0x79]

/-- `AuthResult`. -/
inductive AuthResult where
  | failed
  | passed

def AuthResult.toWord : AuthResult → UInt32
  | .failed => 0
  | .passed => 1

/-! ## Control messages -/

/-- `irrv_vctrl_t`: the type and the seven words of the union. -/
structure Vctrl where
  ctrlType : UInt32
  u0 : UInt32
  u1 : UInt32
  u2 : UInt32
  u3 : UInt32
  u4 : UInt32
  u5 : UInt32
  u6 : UInt32
  deriving DecidableEq, Repr

def Vctrl.toBytes (v : Vctrl) : Buf := words [v.ctrlType, v.u0, v.u1, v.u2, v.u3, v.u4, v.u5, v.u6]

def Vctrl.ofBytes (b : Buf) : Vctrl :=
  ⟨wordAt b 0, wordAt b 1, wordAt b 2, wordAt b 3, wordAt b 4, wordAt b 5, wordAt b 6, wordAt b 7⟩

/-- `IRRV_CTRL_END`, the last key of `VCtrlTypeMap`; its keys are all the numbers up to it. -/
def irrvCtrlEnd : UInt32 := 29

/-! ## Events -/

def event (magic type size value : UInt32) : Buf := words [magic, type, size, value]

/-- `irrv_vhead_event_t`, from the server (`VHEAD`) or the client (`VHEAD_ACK`, with `value` 1). -/
def vheadEvent (type value flags width height format auth : UInt32) : Buf :=
  event irrvMagic type 48 value ++ words [flags, width, height, format, auth, 0, 0, 0]

/-- `irrv_vframe_event_t`. -/
def vframeEvent (flags dataSize width height : UInt32) : Buf :=
  event irrvMagic irrvEventVframe 48 0 ++ words [flags, dataSize, 0, 0, width, height, 0, 0]

/-- `irrv_vauth_event_t` of the server. -/
def vauthAckEvent (result : AuthResult) : Buf :=
  event irrvMagic irrvEventVauthAck 76 0 ++ zeros 32 ++ words [result.toWord, 0, 0, 0, 0, 0, 0]

/-- `irrv_message_event_t`. -/
def messageEvent (msg value : UInt32) : Buf :=
  event irrvMagic irrvEventMessage 48 0 ++ words [msg, value, 0, 0, 0, 0, 0, 0]

/-- `irrv_vctrl_event_t` of the client. -/
def vctrlEvent (v : Vctrl) : Buf := event irrvMagic irrvEventVctrl 48 0 ++ v.toBytes

/-- `irrv_vauth_event_t` of the client; the library leaves the magic 0 (`CSendRecvMessage.cpp:160-164`). -/
def vauthEvent (id key : Buf) : Buf :=
  event 0 irrvEventVauth 76 0 ++ id ++ key ++ words [0, 0, 0, 0, 0, 0, 0]

@[simp] theorem event_length (magic type size value : UInt32) : (event magic type size value).length = eventLen := rfl

@[simp] theorem vframeEvent_length (flags dataSize width height : UInt32) :
    (vframeEvent flags dataSize width height).length = 48 := rfl

@[simp] theorem Vctrl.toBytes_length (v : Vctrl) : v.toBytes.length = bodyLen := rfl

@[simp] theorem vctrlEvent_length (v : Vctrl) : (vctrlEvent v).length = 48 := rfl

/-- The type field of an event in front of anything. -/
theorem event_type (magic type size value : UInt32) (b : Buf) : wordAt (event magic type size value ++ b) 1 = type :=
  wordAt_words b _ 1 (by simp)

theorem header_type (magic type size value : UInt32) : wordAt (event magic type size value) 1 = type := by
  have h := event_type magic type size value []
  rwa [List.append_nil] at h

theorem Vctrl.ofBytes_toBytes (v : Vctrl) (b : Buf) : Vctrl.ofBytes (v.toBytes ++ b) = v := by
  have h := wordAt_words b [v.ctrlType, v.u0, v.u1, v.u2, v.u3, v.u4, v.u5, v.u6]
  simp only [Vctrl.ofBytes, Vctrl.toBytes]
  rw [h 0 (by simp), h 1 (by simp), h 2 (by simp), h 3 (by simp), h 4 (by simp), h 5 (by simp), h 6 (by simp),
    h 7 (by simp)]
  rfl

end CloudStreaming.Irrv
