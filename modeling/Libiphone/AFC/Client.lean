import Libiphone.Connection

/-!
# The AFC client and what it takes from `AFC.h`

`AFC.c` keeps, for each client, its connection, one `AFCPacket` that it reuses for every
request (its `packet_num` counts the requests sent), and a `GMutex`.  `AFC.h`, which declares
`AFCPacket` and `AFCFilePacket` and defines the operation and error codes, is not among the
sources.  What the code takes from it is the parameter `AfcDefs`, which carries the facts the
code relies on: a header is 40 bytes (`sizeof(AFCPacket)`, and the spec's "custom 40-byte
header") and reads back as it was written; the four response codes the receive path tells apart
are distinct; and every error code differs from `AFC_E_SUCCESS`, which is 0 (`afc_receive_data`
documents "0 on successful receive").  Every theorem about the client holds for every such
table; `sampleDefs` is one, at which the model can be evaluated.

`afcClientNew` is `afc_client_new`: a new client's packet is numbered 0 with both lengths 0, so
its first request goes out numbered 1.
-/

namespace Libiphone.AFC

/-- The header `AFCPacket` of every AFC packet, without the magic, which the receive path only
logs and the send path always fills with `AFC_MAGIC`. -/
structure AFCPacket where
  entireLength : UInt64
  thisLength : UInt64
  packetNum : UInt64
  operation : UInt64
  deriving DecidableEq, Repr

/-- What `AFC.c` uses from `AFC.h`. -/
structure AfcDefs where
  /-- The `sizeof(AFCPacket)` bytes of a header as it lies in memory, `AFC_MAGIC` first. -/
  encodeHeader : AFCPacket → List UInt8
  /-- The header that 40 received bytes hold. -/
  decodeHeader : List UInt8 → AFCPacket
  length_encodeHeader : ∀ h, (encodeHeader h).length = 40
  decodeHeader_encodeHeader : ∀ h, decodeHeader (encodeHeader h) = h
  /-- The bytes of an `AFCFilePacket` asking for `size` bytes of the file `filehandle`. -/
  filePacket : UInt64 → Nat → List UInt8
  opStatus : UInt64
  opData : UInt64
  opReadDir : UInt64
  opRemovePath : UInt64
  opMakeDir : UInt64
  opGetFileInfo : UInt64
  opGetDevinfo : UInt64
  opFileOpen : UInt64
  opFileOpenRes : UInt64
  opRead : UInt64
  opWrite : UInt64
  opFileSeek : UInt64
  opFileTell : UInt64
  opFileTellRes : UInt64
  opFileClose : UInt64
  opFileSetSize : UInt64
  opRenamePath : UInt64
  opFileLock : UInt64
  opMakeLink : UInt64
  opSetFileTime : UInt64
  opTruncate : UInt64
  responses_nodup : [opStatus, opData, opFileOpenRes, opFileTellRes].Nodup
  eUnknownError : Int
  eOpHeaderInvalid : Int
  eInvalidArgument : Int
  eOpNotSupported : Int
  eIoError : Int
  eInternalError : Int
  eMuxError : Int
  eNoMem : Int
  eNotEnoughData : Int
  eDirNotEmpty : Int
  /-- `(afc_error_t)param1`: a status code from the device as an `afc_error_t`. -/
  ofStatus : UInt64 → Int
  errors_ne_success : ∀ e ∈ [eUnknownError, eOpHeaderInvalid, eInvalidArgument, eOpNotSupported,
    eIoError, eInternalError, eMuxError, eNoMem, eNotEnoughData, eDirNotEmpty], e ≠ 0

/-- `AFC_E_SUCCESS`. -/
def eSuccess : Int := 0

/-- `struct afc_client_int` as `afc_client_new` leaves it: the connection and the packet are
never NULL in a client that exists.  `file_handle` and `lock`, which it sets to 0, are read by
none of the operations. -/
structure AfcClient where
  connection : Conn
  afcPacket : AFCPacket
  /-- What has been done to the client's mutex so far. -/
  mutex : List MutexEvent

/-- `afc_lock`. -/
def afcLock (c : AfcClient) : AfcClient := { c with mutex := c.mutex ++ [.lock] }

/-- `afc_unlock`. -/
def afcUnlock (c : AfcClient) : AfcClient := { c with mutex := c.mutex ++ [.unlock] }

@[simp] theorem afcLock_mutex (c : AfcClient) : (afcLock c).mutex = c.mutex ++ [.lock] := rfl
@[simp] theorem afcUnlock_mutex (c : AfcClient) : (afcUnlock c).mutex = c.mutex ++ [.unlock] := rfl
@[simp] theorem afcLock_connection (c : AfcClient) : (afcLock c).connection = c.connection := rfl
@[simp] theorem afcUnlock_connection (c : AfcClient) : (afcUnlock c).connection = c.connection :=
  rfl
@[simp] theorem afcLock_afcPacket (c : AfcClient) : (afcLock c).afcPacket = c.afcPacket := rfl
@[simp] theorem afcUnlock_afcPacket (c : AfcClient) : (afcUnlock c).afcPacket = c.afcPacket := rfl

/-- A call leaves the client's mutex locked and unlocked once, in that order, or untouched. -/
abbrev Balanced (client client' : AfcClient) : Prop := MutexEvent.Balanced client.mutex client'.mutex

/-- A call that locks the client, leaves the mutex alone, and unlocks it is balanced. -/
theorem locked_unlock (client client' : AfcClient) (h : client'.mutex = (afcLock client).mutex) :
    Balanced client (afcUnlock client') :=
  .inr (by simp [h])

/-- `afc_client_new(device, dst_port, client)` (lines 374-409), given whether `device` is
non-NULL, the connection `iphone_device_connect` opens (none when it fails), and whether the
`malloc` of the packet succeeds; it returns the code and what it leaves in `*client`.  The new
packet is numbered 0 with both lengths 0, and its operation code is what `malloc` left there,
`operation`: every operation sets it before it sends.  The `malloc` of the client itself is not
checked, and the model takes it to succeed. -/
def afcClientNew (D : AfcDefs) (device : Bool) (connect : Option Conn) (packetAllocated : Bool)
    (operation : UInt64) : Int × Option AfcClient :=
  if device then
    match connect with
    | none => (D.eMuxError, none)
    | some connection =>
      if packetAllocated then (eSuccess, some ⟨connection, ⟨0, 0, 0, operation⟩, []⟩)
      else (D.eNoMem, none)
  else (D.eInvalidArgument, none)

namespace AfcDefs

variable (D : AfcDefs)

theorem eMuxError_ne : D.eMuxError ≠ eSuccess := D.errors_ne_success _ (by simp)
theorem eOpHeaderInvalid_ne : D.eOpHeaderInvalid ≠ eSuccess := D.errors_ne_success _ (by simp)
theorem eNotEnoughData_ne : D.eNotEnoughData ≠ eSuccess := D.errors_ne_success _ (by simp)
theorem eOpNotSupported_ne : D.eOpNotSupported ≠ eSuccess := D.errors_ne_success _ (by simp)
theorem eIoError_ne : D.eIoError ≠ eSuccess := D.errors_ne_success _ (by simp)
theorem eInvalidArgument_ne : D.eInvalidArgument ≠ eSuccess := D.errors_ne_success _ (by simp)

theorem opData_ne_opStatus : D.opData ≠ D.opStatus := by
  have := D.responses_nodup; simp_all [eq_comm]

theorem opFileOpenRes_ne_opStatus : D.opFileOpenRes ≠ D.opStatus := by
  have := D.responses_nodup; simp_all [eq_comm]

theorem opFileTellRes_ne_opStatus : D.opFileTellRes ≠ D.opStatus := by
  have := D.responses_nodup; simp_all [eq_comm]

end AfcDefs

/-! ## A table to evaluate the model at -/

/-- `AFC_MAGIC`, "CFA6LPAA" (spec §6). -/
def afcMagic : List UInt8 := [0x43, 0x46, 0x41, 0x36, 0x4c, 0x50, 0x41, 0x41]

/-- A `uint64_t` as it lies in memory on a little-endian host. -/
def u64Bytes (x : UInt64) : List UInt8 := leBytes 8 x.toNat

/-- The `uint64_t` that eight bytes of memory hold on a little-endian host. -/
def u64Of (bs : List UInt8) : UInt64 := UInt64.ofNat (ofLeBytes (bs.take 8))

theorem u64Of_u64Bytes_append (x : UInt64) (rest : List UInt8) :
    u64Of (u64Bytes x ++ rest) = x := by
  apply UInt64.toNat.inj
  have hx : x.toNat < 256 ^ 8 := x.toNat_lt_size
  rw [u64Of, u64Bytes, List.take_left' (length_leBytes 8 _), ofLeBytes_leBytes,
    Nat.mod_eq_of_lt hx, UInt64.toNat_ofNat_of_lt hx]

/-- The little-endian layout of `AFCPacket`: the magic, then the four 64-bit fields. -/
def leEncodeHeader (h : AFCPacket) : List UInt8 :=
  afcMagic ++ u64Bytes h.entireLength ++ u64Bytes h.thisLength ++ u64Bytes h.packetNum ++
    u64Bytes h.operation

def leDecodeHeader (bs : List UInt8) : AFCPacket :=
  ⟨u64Of (bs.drop 8), u64Of (bs.drop 16), u64Of (bs.drop 24), u64Of (bs.drop 32)⟩

theorem leDecodeHeader_leEncodeHeader (h : AFCPacket) : leDecodeHeader (leEncodeHeader h) = h := by
  simp only [leDecodeHeader, leEncodeHeader, List.append_assoc]
  have h8 : ∀ (x : UInt64) (r : List UInt8), (u64Bytes x ++ r).drop 8 = r := fun x r =>
    List.drop_left' (length_leBytes 8 _)
  rw [List.drop_left' (by rfl : afcMagic.length = 8), u64Of_u64Bytes_append,
    show 16 = 8 + 8 from rfl, ← List.drop_drop, List.drop_left' (by rfl : afcMagic.length = 8),
    h8, u64Of_u64Bytes_append,
    show 24 = 8 + 8 + 8 from rfl, ← List.drop_drop, ← List.drop_drop,
    List.drop_left' (by rfl : afcMagic.length = 8), h8, h8, u64Of_u64Bytes_append,
    show 32 = 8 + 8 + 8 + 8 from rfl, ← List.drop_drop, ← List.drop_drop, ← List.drop_drop,
    List.drop_left' (by rfl : afcMagic.length = 8), h8, h8, h8,
    ← List.append_nil (u64Bytes h.operation), u64Of_u64Bytes_append]

/-- One table that meets `AfcDefs`: the little-endian layout, and the codes numbered as the AFC
protocol numbers them. -/
def sampleDefs : AfcDefs where
  encodeHeader := leEncodeHeader
  decodeHeader := leDecodeHeader
  length_encodeHeader h := by simp [leEncodeHeader, u64Bytes, afcMagic]
  decodeHeader_encodeHeader := leDecodeHeader_leEncodeHeader
  filePacket handle size := u64Bytes handle ++ leBytes 8 size
  opStatus := 0x01
  opData := 0x02
  opReadDir := 0x03
  opRemovePath := 0x08
  opMakeDir := 0x09
  opGetFileInfo := 0x0a
  opGetDevinfo := 0x0b
  opFileOpen := 0x0d
  opFileOpenRes := 0x0e
  opRead := 0x0f
  opWrite := 0x10
  opFileSeek := 0x11
  opFileTell := 0x12
  opFileTellRes := 0x13
  opFileClose := 0x14
  opFileSetSize := 0x15
  opRenamePath := 0x18
  opFileLock := 0x1b
  opMakeLink := 0x1c
  opSetFileTime := 0x1e
  opTruncate := 0x07
  responses_nodup := by decide
  eUnknownError := 1
  eOpHeaderInvalid := 2
  eInvalidArgument := 7
  eOpNotSupported := 15
  eIoError := 20
  eInternalError := 23
  eMuxError := 30
  eNoMem := 31
  eNotEnoughData := 32
  eDirNotEmpty := 33
  ofStatus x := x.toNat
  errors_ne_success := by decide

end Libiphone.AFC
