import SpriteRuntime.Foundation.StructFormat
import SpriteRuntime.Runtime.DamiaoFeedback

/-!
# Raw CAN sockets

A raw socket gives a CAN FD frame as 72 bytes and a classic one as 16.  A frame is received only
with the two time stamps of the kernel; without them it is an error of its own kind, which the
callers may pass over.
-/

namespace SpriteRuntime

open Foundation

/-! ## Frames as bytes -/

/-- `struct.Struct("=IBBBB64s")` of a little-endian host. -/
def canFdFormat : List StructField :=
  [.unsigned 4, .unsigned 1, .unsigned 1, .unsigned 1, .unsigned 1, .bytes 64]

/-- `CANFD_FRAME.pack(can_id, length, flags, 0, 0, payload)`. -/
def CanFdFrame.pack (frame : CanFdFrame) : Except String (List UInt8) :=
  packStruct canFdFormat [.integer frame.canId, .integer frame.length, .integer frame.flags,
    .integer 0, .integer 0, .bytes frame.payload]

/-- The fields that `unpack` gives of a frame, with the flags of a CAN FD frame. -/
structure RawCanFrame where
  rawId : ℕ
  length : ℕ
  data : List UInt8
  isFd : Bool
  bitRateSwitch : Bool
  errorStateIndicator : Bool

/-- How `receive` fails. -/
inductive SocketCanError where
  | wouldBlock
  | timestamp (text : String)
  | runtime (text : String)
  deriving DecidableEq

/-- `CANFD_FRAME.unpack`, or `CAN_FRAME.unpack` with the format `=IB3x8s`. -/
def unpackCanFrame (payload : List UInt8) : Except SocketCanError RawCanFrame :=
  if payload.length = 72 then
    let flags := unsignedField payload 5 1
    .ok
      { rawId := unsignedField payload 0 4
        length := unsignedField payload 4 1
        data := (payload.drop 8).take 64
        isFd := true
        bitRateSwitch := flags &&& 0x01 ≠ 0
        errorStateIndicator := flags &&& 0x02 ≠ 0 }
  else if payload.length = 16 then
    .ok
      { rawId := unsignedField payload 0 4
        length := unsignedField payload 4 1
        data := (payload.drop 8).take 8
        isFd := false
        bitRateSwitch := false
        errorStateIndicator := false }
  else .error (.runtime s!"unexpected SocketCAN frame size: {payload.length}")

/-! ## Time stamps -/

/-- A control message beside a frame. -/
structure AncillaryItem where
  level : ℤ
  kind : ℤ
  payload : List UInt8

/-- `socket.SOL_SOCKET`. -/
def solSocket : ℤ := 1

/-- `SO_TIMESTAMPING_LINUX_64`. -/
def soTimestampingLinux64 : ℤ := 37

/-- Two numbers of `struct.unpack_from("=6q", payload)`, seconds and nanoseconds. -/
def timespecNs (payload : List UInt8) (index : ℕ) : ℤ :=
  signedField payload (8 * index) * 1000000000 + signedField payload (8 * (index + 1))

/-- The stamps of one control message of the right kind. -/
def itemTimestampsNs (payload : List UInt8) : Except SocketCanError (ℤ × ℤ) :=
  if payload.length < 6 * 8 then
    .error (.timestamp "SCM_TIMESTAMPING payload is shorter than three timespec values")
  else if timespecNs payload 0 ≤ 0 then
    .error (.timestamp "kernel software RX timestamp is missing")
  else if timespecNs payload 4 ≤ 0 then
    .error (.timestamp "raw hardware RX timestamp is missing; software fallback is forbidden")
  else .ok (timespecNs payload 0, timespecNs payload 4)

/-- `_socket_timestamps_ns`: the software and the raw hardware time stamp. -/
def socketTimestampsNs : List AncillaryItem → Except SocketCanError (ℤ × ℤ)
  | [] => .error (.timestamp "SCM_TIMESTAMPING evidence is missing")
  | item :: rest =>
      if item.level ≠ solSocket ∨ item.kind ≠ soTimestampingLinux64 then socketTimestampsNs rest
      else itemTimestampsNs item.payload

/-! ## Receiving -/

def canEffFlag : ℕ := 0x80000000

def canRtrFlag : ℕ := 0x40000000

def canErrFlag : ℕ := 0x20000000

def canIdMask : ℕ := 0x1FFFFFFF

/-- A received frame with the flag that no decoder looks at. -/
structure ReceivedSocketFrame extends ReceivedCanFrame where
  errorStateIndicator : Bool

/-- What `recvmsg` gives, and what the clock says afterwards. -/
structure SocketMessage where
  payload : List UInt8
  ancillary : List AncillaryItem
  clockNs : ℤ

/-- `SocketCanReceiver.receive`, given the message that was waiting. -/
def SocketMessage.receive (message : SocketMessage) (interface : String) :
    Except SocketCanError ReceivedSocketFrame := do
  let (softwareNs, hardwareNs) ← socketTimestampsNs message.ancillary
  raiseIf (message.clockNs < softwareNs)
    (.runtime "kernel RX timestamp is in the future relative to userspace")
  let raw ← unpackCanFrame message.payload
  raiseIf (raw.data.length < raw.length) (.runtime s!"invalid CAN payload length: {raw.length}")
  return {
    interface
    canId := raw.rawId &&& canIdMask
    data := raw.data.take raw.length
    isExtended := raw.rawId &&& canEffFlag ≠ 0
    isRemote := raw.rawId &&& canRtrFlag ≠ 0
    isError := raw.rawId &&& canErrFlag ≠ 0
    isFd := raw.isFd
    bitRateSwitch := raw.bitRateSwitch
    errorStateIndicator := raw.errorStateIndicator
    softwareTimestampNs := softwareNs
    hardwareTimestampNs := hardwareNs
    userspaceReceiveTimestampNs := message.clockNs }

/-- `SocketCanReceiver.receive`; nothing may be waiting. -/
def receiveSocket (interface : String) : Option SocketMessage →
    Except SocketCanError ReceivedSocketFrame
  | none => .error .wouldBlock
  | some message => message.receive interface

/-- The message has both time stamps, and the clock agrees with them. -/
structure SocketMessage.Stamped (message : SocketMessage) (softwareNs hardwareNs : ℤ) : Prop where
  stamps : socketTimestampsNs message.ancillary = .ok (softwareNs, hardwareNs)
  past : softwareNs ≤ message.clockNs

/-! ## What is received -/

section Stamps

variable {payload : List UInt8} {ancillary : List AncillaryItem} {softwareNs hardwareNs : ℤ}

theorem itemTimestampsNs_pos (accepted : itemTimestampsNs payload = .ok (softwareNs, hardwareNs)) :
    0 < softwareNs ∧ 0 < hardwareNs := by
  unfold itemTimestampsNs at accepted
  split_ifs at accepted with _ software hardware
  have same := Prod.mk.inj (Except.ok.inj accepted)
  rw [← same.1, ← same.2]
  exact ⟨not_le.mp software, not_le.mp hardware⟩

/-- Accepted time stamps are there. -/
theorem socketTimestampsNs_pos
    (accepted : socketTimestampsNs ancillary = .ok (softwareNs, hardwareNs)) :
    0 < softwareNs ∧ 0 < hardwareNs := by
  induction ancillary with
  | nil => cases accepted
  | cons item rest induction =>
      rw [socketTimestampsNs] at accepted
      split at accepted
      · exact induction accepted
      · exact itemTimestampsNs_pos accepted

theorem itemTimestampsNs_error {error : SocketCanError}
    (refused : itemTimestampsNs payload = .error error) : ∃ text, error = .timestamp text := by
  unfold itemTimestampsNs at refused
  split_ifs at refused
  · exact ⟨_, (Except.error.inj refused).symm⟩
  · exact ⟨_, (Except.error.inj refused).symm⟩
  · exact ⟨_, (Except.error.inj refused).symm⟩

/-- Time stamps fail in their own way only. -/
theorem socketTimestampsNs_error {error : SocketCanError}
    (refused : socketTimestampsNs ancillary = .error error) : ∃ text, error = .timestamp text := by
  induction ancillary with
  | nil => exact ⟨_, (Except.error.inj refused).symm⟩
  | cons item rest induction =>
      rw [socketTimestampsNs] at refused
      split at refused
      · exact induction refused
      · exact itemTimestampsNs_error refused

end Stamps

/-! ## Round trip -/

/-- The 64 bytes that are packed of a frame. -/
def CanFdFrame.body (frame : CanFdFrame) : List UInt8 :=
  (frame.payload ++ List.replicate 64 0).take 64

theorem length_body (frame : CanFdFrame) : frame.body.length = 64 := by
  simp [CanFdFrame.body]

/-- What the sockets that hear a frame receive. -/
def CanFdFrame.received (frame : CanFdFrame) (interface : String)
    (softwareNs hardwareNs clockNs : ℤ) : ReceivedSocketFrame where
  interface
  canId := frame.canId.toNat &&& canIdMask
  data := frame.body.take frame.length
  isExtended := frame.canId.toNat &&& canEffFlag ≠ 0
  isRemote := frame.canId.toNat &&& canRtrFlag ≠ 0
  isError := frame.canId.toNat &&& canErrFlag ≠ 0
  isFd := true
  bitRateSwitch := frame.flags &&& 0x01 ≠ 0
  errorStateIndicator := frame.flags &&& 0x02 ≠ 0
  softwareTimestampNs := softwareNs
  hardwareTimestampNs := hardwareNs
  userspaceReceiveTimestampNs := clockNs

section RoundTrip

variable {frame : CanFdFrame} {payload : List UInt8}

theorem unpackFields_canFd (payload : List UInt8) :
    unpackFields canFdFormat payload =
      [.integer (unsignedField payload 0 4), .integer (unsignedField payload 4 1),
        .integer (unsignedField payload 5 1), .integer (unsignedField payload 6 1),
        .integer (unsignedField payload 7 1), .bytes ((payload.drop 8).take 64)] := by
  simp only [canFdFormat, unpackFields, List.drop_drop]
  rfl

/-- Short payloads are padded. -/
theorem pack_body (frame : CanFdFrame) : { frame with payload := frame.body }.pack = frame.pack := by
  have padded : (StructField.bytes 64).pack (.bytes frame.body) =
      (StructField.bytes 64).pack (.bytes frame.payload) := by
    rw [StructField.pack, StructField.pack, List.take_left' (length_body frame)]
    rfl
  simp only [CanFdFrame.pack, canFdFormat, packStruct, padded]

/-- A packed frame is unpacked field for field. -/
theorem unpackCanFrame_pack (packed : frame.pack = .ok payload) :
    unpackCanFrame payload = .ok
      { rawId := frame.canId.toNat
        length := frame.length
        data := frame.body
        isFd := true
        bitRateSwitch := frame.flags &&& 0x01 ≠ 0
        errorStateIndicator := frame.flags &&& 0x02 ≠ 0 } := by
  rw [← pack_body] at packed
  have size : payload.length = 72 := length_packStruct packed
  have fields := unpackFields_of_packStruct packed
    (.cons trivial (.cons trivial (.cons trivial (.cons trivial (.cons trivial
      (.cons (length_body frame) .nil))))))
  rw [unpackFields_canFd] at fields
  simp only [List.cons.injEq, StructValue.integer.injEq, StructValue.bytes.injEq, and_true]
    at fields
  obtain ⟨rawId, length, flags, _, _, data⟩ := fields
  have rawId : unsignedField payload 0 4 = frame.canId.toNat := by
    rw [← rawId, Int.toNat_natCast]
  rw [unpackCanFrame, if_pos size, rawId, Int.ofNat_inj.mp length, Int.ofNat_inj.mp flags, data]

theorem socketMessage_receive_pack {message : SocketMessage} {softwareNs hardwareNs : ℤ}
    (packed : frame.pack = .ok message.payload) (stamped : message.Stamped softwareNs hardwareNs)
    (interface : String) :
    message.receive interface =
      if 64 < frame.length then .error (.runtime s!"invalid CAN payload length: {frame.length}")
      else .ok (frame.received interface softwareNs hardwareNs message.clockNs) := by
  rw [SocketMessage.receive, stamped.stamps, except_ok_bind]
  simp only [raiseIf, if_neg (not_lt.mpr stamped.past), unpackCanFrame_pack packed, length_body,
    except_ok_bind]
  split
  · rfl
  · rfl

end RoundTrip

/-! ## Accepted frames -/

/-- What the callers of `receive` rely on. -/
structure ReceivedSocketFrame.WellFormed (frame : ReceivedSocketFrame) : Prop where
  masked : frame.canId ≤ canIdMask
  size : frame.data.length ≤ if frame.isFd then 64 else 8
  classic : frame.isFd = false → frame.bitRateSwitch = false ∧ frame.errorStateIndicator = false
  software : 0 < frame.softwareTimestampNs
  hardware : 0 < frame.hardwareTimestampNs
  past : frame.softwareTimestampNs ≤ frame.userspaceReceiveTimestampNs

section Accepted

variable {message : SocketMessage} {interface : String} {frame : ReceivedSocketFrame}
  {payload : List UInt8} {raw : RawCanFrame}

theorem unpackCanFrame_size (unpacked : unpackCanFrame payload = .ok raw) :
    raw.data.length ≤ (if raw.isFd then 64 else 8) ∧
      (raw.isFd = false → raw.bitRateSwitch = false ∧ raw.errorStateIndicator = false) := by
  unfold unpackCanFrame at unpacked
  split_ifs at unpacked with fd classic
  · obtain rfl := Except.ok.inj unpacked
    exact ⟨List.length_take_le _ _, fun isClassic => by cases isClassic⟩
  · obtain rfl := Except.ok.inj unpacked
    exact ⟨List.length_take_le _ _, fun _ => ⟨rfl, rfl⟩⟩

theorem unpackCanFrame_error {error : SocketCanError} (unknown : unpackCanFrame payload = .error error) :
    ∃ text, error = .runtime text := by
  unfold unpackCanFrame at unknown
  split_ifs at unknown
  exact ⟨_, (Except.error.inj unknown).symm⟩

theorem receive_wellFormed (accepted : message.receive interface = .ok frame) :
    frame.WellFormed ∧ frame.interface = interface := by
  simp only [SocketMessage.receive, except_bind_eq_ok, raiseIf_eq_ok, exists_const, not_lt]
    at accepted
  obtain ⟨⟨softwareNs, hardwareNs⟩, stamps, past, raw, unpacked, _, same⟩ := accepted
  obtain rfl := Except.ok.inj same
  obtain ⟨software, hardware⟩ := socketTimestampsNs_pos stamps
  obtain ⟨size, classic⟩ := unpackCanFrame_size unpacked
  refine ⟨⟨Nat.and_le_right, ?_, classic, software, hardware, past⟩, rfl⟩
  exact (List.length_take_le' _ _).trans size

/-- A frame without its time stamps is refused as such, and no other frame is. -/
theorem receive_timestamp_iff :
    (∃ text, message.receive interface = .error (.timestamp text)) ↔
      ∀ stamps, socketTimestampsNs message.ancillary ≠ .ok stamps := by
  cases stamps : socketTimestampsNs message.ancillary with
  | error error =>
      obtain ⟨text, rfl⟩ := socketTimestampsNs_error stamps
      have refused : message.receive interface = .error (.timestamp text) := by
        rw [SocketMessage.receive, stamps]
        rfl
      exact iff_of_true ⟨text, refused⟩ fun _ same => by cases same
  | ok known =>
      refine iff_of_false ?_ fun never => never known rfl
      rintro ⟨text, refused⟩
      simp only [SocketMessage.receive, stamps, except_ok_bind, except_bind_eq_error,
        raiseIf_eq_error] at refused
      obtain ⟨_, early⟩ | ⟨_, _, unknown | ⟨raw, _, ⟨_, long⟩ | ⟨_, _, returned⟩⟩⟩ := refused
      · cases early
      · obtain ⟨_, same⟩ := unpackCanFrame_error unknown
        cases same
      · cases long
      · cases returned

end Accepted

/-- Packed frames are received field for field, what is received is well formed, and only frames
without time stamps are passed over. -/
theorem socketFrames_roundTrip (message : SocketMessage) (interface : String) :
    (∀ (frame : CanFdFrame) softwareNs hardwareNs, frame.pack = .ok message.payload →
      message.Stamped softwareNs hardwareNs →
      message.receive interface =
        if 64 < frame.length then .error (.runtime s!"invalid CAN payload length: {frame.length}")
        else .ok (frame.received interface softwareNs hardwareNs message.clockNs)) ∧
    (∀ frame, message.receive interface = .ok frame →
      frame.WellFormed ∧ frame.interface = interface) ∧
    ((∃ text, message.receive interface = .error (.timestamp text)) ↔
      ∀ stamps, socketTimestampsNs message.ancillary ≠ .ok stamps) :=
  ⟨fun _ _ _ packed stamped => socketMessage_receive_pack packed stamped interface,
    fun _ => receive_wellFormed, receive_timestamp_iff⟩

end SpriteRuntime
