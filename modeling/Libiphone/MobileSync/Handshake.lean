import Libiphone.MobileSync

/-!
# The MobileSync handshake

`mobilesync_client_new` (`MobileSync.c`, lines 534-627) connects to the device and runs the
version exchange.  It receives the device's first message, which should read
`["DLMessageVersionExchange", 100, 100, ...]`; when items 1 and 2 are the integers 100 and 100 it
answers `["DLMessageVersionExchange", "DLVersionsOk"]` and receives the reply, which should begin
with `"DLMessageDeviceReady"`.  Only then does it set `*client`.

libplist and `iphone_device_connect` are not among the sources.  A message is the items of the
array `plist_from_bin` builds from the bytes `mobilesync_recv` hands it, none when it builds no
array (`plist_array_get_item` then hands out NULL); the codec is a parameter, and so is the
connection `iphone_device_connect` opens, none when it fails.

What the code does with the two messages, when each arrives as a whole frame on a connection
where no receive fails, is `mobilesyncClientNew_frames`: the call reports success when the
versions are not both 100, or when the reply starts with `"DLMessageDeviceReady"`, and sets
`*client` only in the second case.  The name of the first message is only logged (line 564).
`mobilesync_client_free` is recorded as called or not; its disconnect message and the
`iphone_device_disconnect` after it are left out, since they change neither the result nor
`*client`.
-/

namespace Libiphone.MobileSync

/-- An item of a MobileSync array, by its `plist_type`. -/
inductive SyncNode
  | string (s : String)
  | uint (u : UInt64)
  | other
  deriving DecidableEq, Repr

/-- What `mobilesync_client_new` takes from outside the sources: the codes of `MobileSync.h` it
returns, all different, and libplist's `plist_to_bin` and `plist_from_bin` on an array. -/
structure HandshakeDefs extends MobileSyncDefs where
  eUnknownError : Int
  eBadVersion : Int
  codes_nodup : [eSuccess, eInvalidArg, eMuxError, eUnknownError, eBadVersion].Nodup
  toBin : List SyncNode → List UInt8
  fromBin : List UInt8 → Option (List SyncNode)

/-- `MSYNC_VERSION_INT1`. -/
def msyncVersionInt1 : UInt64 := 100

/-- `MSYNC_VERSION_INT2`. -/
def msyncVersionInt2 : UInt64 := 100

/-- `plist_array_get_item(array, n)`: NULL past the end of the array, and for no array. -/
def arrayItem (array : Option (List SyncNode)) (n : Nat) : Option SyncNode := array.bind (·[n]?)

/-- Lines 569-583: items 1 and 2 are integers, and they are `MSYNC_VERSION_INT1` and
`MSYNC_VERSION_INT2`. -/
def versionsOk (array : Option (List SyncNode)) : Bool :=
  match arrayItem array 1, arrayItem array 2 with
  | some (.uint ver1), some (.uint ver2) => ver1 = msyncVersionInt1 && ver2 = msyncVersionInt2
  | _, _ => false

/-- Lines 596-609: item 0 is the string `DLMessageDeviceReady`. -/
def deviceReady (array : Option (List SyncNode)) : Bool :=
  match arrayItem array 0 with
  | some (.string msg) => msg = "DLMessageDeviceReady"
  | _ => false

/-- What `mobilesync_client_new` returns and leaves in `*client`, and whether it called
`mobilesync_client_free` on the client it built. -/
structure NewClient where
  ret : Int
  client : Option MobileSyncClient
  freed : Bool

variable (H : HandshakeDefs)

/-- The array `plist_from_bin` builds from what `mobilesync_recv` handed it; none when the
receive failed and `array` stayed NULL. -/
def receivedArray (r : Received) : Option (List SyncNode) := r.handed.bind H.fromBin

/-- `mobilesync_client_new(device, dst_port, client)` (lines 534-627): `device` says whether the
device is non-NULL, `client` is NULL or points at `*client`, which must be NULL, and `connect`
is the connection `iphone_device_connect` opens.  On the version mismatch path `ret` is still
the result of the first `mobilesync_recv`. -/
def mobilesyncClientNew (device : Bool) (dstPort : Int) (client : Option (Option MobileSyncClient))
    (connect : Option Conn) : NewClient :=
  match client with
  | some none =>
    if device ∧ dstPort ≠ 0 then
      match connect with
      | none => ⟨H.eUnknownError, none, false⟩
      | some connection =>
        match mobilesyncRecv H.toMobileSyncDefs ⟨connection⟩ (some none) with
        | (r, clientLoc) =>
          if versionsOk (receivedArray H r) then
            match mobilesyncSend H.toMobileSyncDefs clientLoc
                (some (H.toBin [.string "DLMessageVersionExchange", .string "DLVersionsOk"])) with
            | (_, clientLoc) =>
              match mobilesyncRecv H.toMobileSyncDefs clientLoc (some none) with
              | (r', clientLoc) =>
                if deviceReady (receivedArray H r') then ⟨eSuccess, some clientLoc, false⟩
                else ⟨H.eBadVersion, none, true⟩
          else ⟨r.ret, none, decide (r.ret ≠ eSuccess)⟩
    else ⟨H.eInvalidArg, none, false⟩
  | _ => ⟨H.eInvalidArg, none, false⟩

section Frames

variable {H}

/-- With the device's two messages `first` and `reply` arriving as whole frames, on a connection
where no receive fails, the call succeeds when the versions are not both 100 or the reply starts
with `DLMessageDeviceReady`, and sets `*client` exactly in the second case. -/
theorem mobilesyncClientNew_frames {conn : Conn} {first reply rest : List UInt8} {dstPort : Int}
    (hport : dstPort ≠ 0) (h1 : first.length < 2 ^ 32) (h2 : reply.length < 2 ^ 32)
    (hpend : conn.pending = frame first ++ frame reply ++ rest) (hrel : conn.Reliable)
    (hw1 : conn.Whole 0 4) (hw2 : conn.Whole (frame first).length ((frame first).length + 4)) :
    (mobilesyncClientNew H true dstPort (some none) (some conn)).ret =
        (if versionsOk (H.fromBin first) then
          if deviceReady (H.fromBin reply) then eSuccess else H.eBadVersion
        else eSuccess) ∧
      (mobilesyncClientNew H true dstPort (some none) (some conn)).client.isSome =
        (versionsOk (H.fromBin first) && deviceReady (H.fromBin reply)) := by
  obtain ⟨hret1, hhand1, hafter1⟩ :=
    @mobilesyncRecv_frame H.toMobileSyncDefs ⟨conn⟩ first _ h1
      (by rw [hpend, List.append_assoc]) hrel hw1
  rcases hm1 : mobilesyncRecv H.toMobileSyncDefs ⟨conn⟩ (some none) with ⟨r, c1⟩
  rw [hm1] at hret1 hhand1 hafter1
  dsimp only at hret1 hhand1 hafter1
  simp only [mobilesyncClientNew, hm1, receivedArray, hhand1, Option.some_bind, hport, ne_eq,
    not_false_eq_true, and_self, if_true]
  by_cases hv : versionsOk (H.fromBin first)
  · rcases hs : mobilesyncSend H.toMobileSyncDefs c1
        (some (H.toBin [.string "DLMessageVersionExchange", .string "DLVersionsOk"])) with
      ⟨sent, c2⟩
    have hin : c2.connection.inbound = c1.connection.inbound := by
      rw [← mobilesyncSend_inbound H.toMobileSyncDefs c1, hs]
    obtain ⟨-, hhand2, -⟩ := @mobilesyncRecv_frame H.toMobileSyncDefs c2 reply rest h2
      (by rw [Conn.pending_of_inbound hin, hafter1.pending, hpend, List.append_assoc,
        List.drop_left]) ((hafter1.reliable hrel).of_inbound hin)
      ((hafter1.whole (by simpa only [Nat.zero_add, Nat.add_comm] using hw2)).of_inbound hin)
    rcases hm2 : mobilesyncRecv H.toMobileSyncDefs c2 (some none) with ⟨r', c3⟩
    rw [hm2] at hhand2
    dsimp only at hhand2
    simp only [hv, if_true, hs, hm2, hhand2, Option.some_bind, Bool.true_and]
    cases deviceReady (H.fromBin reply) <;> simp
  · simp [hv, hret1]

end Frames

/-- Distinct codes, and a codec that reads the bytes `[1]`, `[2]` and `[3]` as three messages a
device could send: a version exchange announcing versions 100 and 101, a message of another name
announcing 100 and 100, and the device-ready reply. -/
def sampleHandshakeDefs : HandshakeDefs where
  eInvalidArg := -1
  eMuxError := -2
  eInvalidArg_ne := by decide
  eMuxError_ne := by decide
  eUnknownError := -3
  eBadVersion := -4
  codes_nodup := by decide
  toBin _ := [0]
  fromBin bytes :=
    if bytes = [1] then some [.string "DLMessageVersionExchange", .uint 100, .uint 101]
    else if bytes = [2] then some [.string "DLMessagePing", .uint 100, .uint 100]
    else if bytes = [3] then some [.string "DLMessageDeviceReady"]
    else none

/-- The version exchange announcing versions 100 and 101, followed by the device-ready reply, is
a success that leaves `*client` NULL; a first message of another name announcing 100 and 100,
followed by the same reply, is a success that sets it. -/
theorem mobilesyncClientNew_version_mismatch :
    let mismatch : Conn := ⟨[frame [1], frame [3]], [], []⟩
    let misnamed : Conn := ⟨[frame [2], frame [3]], [], []⟩
    (mobilesyncClientNew sampleHandshakeDefs true 1 (some none) (some mismatch)).ret = eSuccess ∧
      (mobilesyncClientNew sampleHandshakeDefs true 1 (some none) (some mismatch)).client = none ∧
      (mobilesyncClientNew sampleHandshakeDefs true 1 (some none) (some misnamed)).ret = eSuccess ∧
      (mobilesyncClientNew sampleHandshakeDefs true 1 (some none) (some misnamed)).client.isSome := by
  intro mismatch misnamed
  obtain ⟨h1, h2⟩ := @mobilesyncClientNew_frames sampleHandshakeDefs mismatch [1] [3] [] 1
    (by decide) (by decide) (by decide) (by decide) (by decide) (by decide) (by decide)
  obtain ⟨h3, h4⟩ := @mobilesyncClientNew_frames sampleHandshakeDefs misnamed [2] [3] [] 1
    (by decide) (by decide) (by decide) (by decide) (by decide) (by decide) (by decide)
  exact ⟨h1.trans (by decide), Option.not_isSome_iff_eq_none.mp (by rw [h2]; decide),
    h3.trans (by decide), by rw [h4]; decide⟩

end Libiphone.MobileSync
