import Libiphone.AFC.Receive
import Libiphone.AFC.Dispatch
import Libiphone.AFC.Strings

/-!
# The AFC operations that send one request

Every operation of `AFC.c` but `afc_file_read` and `afc_file_write` (in `FileIO`) has the same
shape: check the arguments, lock the client, set the operation code with both lengths 0, send
the request with `afc_dispatch_packet`, receive the answer with `afc_receive_data`, unlock.
Nine of them do nothing else: `afcRequest` is that body, and each keeps its own definition under
its source name, applied to its operation code, its request bytes and the code it returns when
the dispatch fails.  The others keep their own bodies, because each does something the others do
not: `afc_remove_path` turns `AFC_E_UNKNOWN_ERROR` into `AFC_E_DIR_NOT_EMPTY`,
`afc_get_device_info` tests the dispatch with `< 0` rather than `<= 0`, `afc_get_file_info` does
not test it at all, and four read data out of the answer.

Pointers that the code dereferences before it tests them (`strlen(dir)` in
`afc_make_directory`, `strlen(from)` in `afc_rename_path`, …) are C strings in the model; a
pointer it tests first is an `Option`.  An out-parameter `T *p` is an `Option T`, NULL or a
pointer to its current value, and the operation returns the value it leaves there.

The main result is `afcRequest_mutex` and its like for each operation: every return path that
locked the client unlocks it once.

`afc_get_device_info_key` looks a key up in the list `afc_get_device_info` returns.  Its loop
steps one string at a time, not one pair, so a value equal to the key is taken for a key
(`afcGetDeviceInfoKey_value_is_key`).  `afcGetDeviceInfoKey_frame` says what it returns for any
answer that arrives whole, the walk `lookupKey` over the strings of the payload, and
`lookupKey_pairs` that the walk agrees with `pairValue`, the reading of the list as pairs, when
no value is itself the key.
-/

namespace Libiphone.AFC

variable (D : AfcDefs)

/-! ## The shared body -/

/-- The body of the simple requests (lines 888-908 of `afc_rename_path`, and the same in eight
others): lock, send one packet carrying `payload`, return `failCode` when the dispatch returned at
most 0, else receive the answer and return its code; unlock on both paths. -/
def afcRequest (operation : UInt64) (payload : List UInt8) (failCode : Int) (client : AfcClient) :
    Int × AfcClient :=
  match afcDispatchPacket D (withPacket (afcLock client) operation 0 0) payload with
  | (bytes, client) =>
    if bytes ≤ 0 then (failCode, afcUnlock client)
    else
      match afcReceiveData D client with
      | (r, client) => (r.ret, afcUnlock client)

/-- `afc_rename_path(client, from, to)` (lines 878-908). -/
def afcRenamePath (client : AfcClient) (fromPath toPath : CString) : Int × AfcClient :=
  afcRequest D D.opRenamePath (fromPath.withNul ++ toPath.withNul) D.eNotEnoughData client

/-- `afc_make_directory(client, dir)` (lines 920-946). -/
def afcMakeDirectory (client : AfcClient) (dir : CString) : Int × AfcClient :=
  afcRequest D D.opMakeDir dir.withNul D.eNotEnoughData client

/-- `afc_file_close(client, handle)` (lines 1223-1256). -/
def afcFileClose (client : AfcClient) (handle : UInt64) : Int × AfcClient :=
  if handle = 0 then (D.eInvalidArgument, client)
  else afcRequest D D.opFileClose (u64Bytes handle) D.eUnknownError client

/-- `afc_file_lock(client, handle, operation)` (lines 1270-1307). -/
def afcFileLock (client : AfcClient) (handle operation : UInt64) : Int × AfcClient :=
  if handle = 0 then (D.eInvalidArgument, client)
  else afcRequest D D.opFileLock (u64Bytes handle ++ u64Bytes operation) D.eUnknownError client

/-- `afc_file_seek(client, handle, offset, whence)` (lines 1319-1353): the handle, `whence` as a
32-bit integer, four bytes of padding and the 64-bit offset. -/
def afcFileSeek (client : AfcClient) (handle : UInt64) (offset whence : Int) : Int × AfcClient :=
  if handle = 0 then (D.eInvalidArgument, client)
  else
    afcRequest D D.opFileSeek
      (u64Bytes handle ++ leBytes 4 (whence % 2 ^ 32).toNat ++ leBytes 4 0 ++
        leBytes 8 (offset % 2 ^ 64).toNat)
      D.eNotEnoughData client

/-- `afc_file_truncate(client, handle, newsize)` (lines 1413-1444). -/
def afcFileTruncate (client : AfcClient) (handle newsize : UInt64) : Int × AfcClient :=
  if handle = 0 then (D.eInvalidArgument, client)
  else afcRequest D D.opFileSetSize (u64Bytes handle ++ u64Bytes newsize) D.eNotEnoughData client

/-- `afc_truncate(client, path, newsize)` (lines 1456-1487), `newsize` an `off_t`. -/
def afcTruncate (client : AfcClient) (path : CString) (newsize : Int) : Int × AfcClient :=
  afcRequest D D.opTruncate (leBytes 8 (newsize % 2 ^ 64).toNat ++ path.withNul) D.eNotEnoughData
    client

/-- `afc_make_link(client, linktype, target, linkname)` (lines 1500-1536). -/
def afcMakeLink (client : AfcClient) (linktype : UInt64) (target linkname : CString) :
    Int × AfcClient :=
  afcRequest D D.opMakeLink (u64Bytes linktype ++ target.withNul ++ linkname.withNul)
    D.eNotEnoughData client

/-- `afc_set_file_time(client, path, mtime)` (lines 1548-1578). -/
def afcSetFileTime (client : AfcClient) (path : CString) (mtime : UInt64) : Int × AfcClient :=
  afcRequest D D.opSetFileTime (u64Bytes mtime ++ path.withNul) D.eNotEnoughData client

/-! ## Operations with bodies of their own -/

/-- `afc_remove_path(client, path)` (lines 836-866): an answer of `AFC_E_UNKNOWN_ERROR` is
reported as `AFC_E_DIR_NOT_EMPTY`. -/
def afcRemovePath (client : AfcClient) (path : Option CString) : Int × AfcClient :=
  match path with
  | none => (D.eInvalidArgument, client)
  | some path =>
    match afcDispatchPacket D (withPacket (afcLock client) D.opRemovePath 0 0) path.withNul with
    | (bytes, client) =>
      if bytes ≤ 0 then (D.eNotEnoughData, afcUnlock client)
      else
        match afcReceiveData D client with
        | (r, client) =>
          (if r.ret = D.eUnknownError then D.eDirNotEmpty else r.ret, afcUnlock client)

/-- `afc_read_directory(client, dir, list)` (lines 712-747): on success `*list` is the list of
names in the answer. -/
def afcReadDirectory (client : AfcClient) (dir : Option CString)
    (list : Option (Option (List (List UInt8)))) :
    Int × Option (Option (List (List UInt8))) × AfcClient :=
  match dir, list with
  | some dir, some none =>
    match afcDispatchPacket D (withPacket (afcLock client) D.opReadDir 0 0) dir.withNul with
    | (bytes, client) =>
      if bytes ≤ 0 then (D.eNotEnoughData, list, afcUnlock client)
      else
        match afcReceiveData D client with
        | (r, client) =>
          if r.ret ≠ eSuccess then (r.ret, list, afcUnlock client)
          else (r.ret, some (makeStringsList r.dumpHere r.bytes), afcUnlock client)
  | _, _ => (D.eInvalidArgument, list, client)

/-- `afc_get_device_info(client, infos)` (lines 756-791): the request carries no data, and only
a negative dispatch count is an error. -/
def afcGetDeviceInfo (client : AfcClient) (infos : Option (Option (List (List UInt8)))) :
    Int × Option (Option (List (List UInt8))) × AfcClient :=
  match infos with
  | none => (D.eInvalidArgument, infos, client)
  | some _ =>
    match afcDispatchPacket D (withPacket (afcLock client) D.opGetDevinfo 0 0) [] with
    | (bytes, client) =>
      if bytes < 0 then (D.eNotEnoughData, infos, afcUnlock client)
      else
        match afcReceiveData D client with
        | (r, client) =>
          if r.ret ≠ eSuccess then (r.ret, infos, afcUnlock client)
          else (r.ret, some (makeStringsList r.dumpHere r.bytes), afcUnlock client)

/-- `afc_get_file_info(client, path, infolist)` (lines 960-985): the dispatch count is not
looked at, and `*infolist` is set whenever the answer left a buffer. -/
def afcGetFileInfo (client : AfcClient) (path : Option CString)
    (infolist : Option (Option (List (List UInt8)))) :
    Int × Option (Option (List (List UInt8))) × AfcClient :=
  match path, infolist with
  | some path, some _ =>
    match afcDispatchPacket D (withPacket (afcLock client) D.opGetFileInfo 0 0) path.withNul with
    | (_, client) =>
      match afcReceiveData D client with
      | (r, client) =>
        match r.dumpHere with
        | some received => (r.ret, some (makeStringsList (some received) r.bytes), afcUnlock client)
        | none => (r.ret, infolist, afcUnlock client)
  | _, _ => (D.eInvalidArgument, infolist, client)

/-- `afc_file_open(client, filename, file_mode, handle)` (lines 1000-1047): the request is the
32-bit mode, four zero bytes and the name; `*handle` is 0 unless the answer succeeds with a
buffer, whose first eight bytes it then holds. -/
def afcFileOpen (client : AfcClient) (filename : CString) (fileMode : Nat) :
    Int × UInt64 × AfcClient :=
  match afcDispatchPacket D (withPacket (afcLock client) D.opFileOpen 0 0)
      (leBytes 4 fileMode ++ leBytes 4 0 ++ filename.withNul) with
  | (bytes, client) =>
    if bytes ≤ 0 then (D.eNotEnoughData, 0, afcUnlock client)
    else
      match afcReceiveData D client with
      | (r, client) =>
        match r.dumpHere with
        | some data =>
          if r.ret = eSuccess ∧ 0 < r.bytes then (r.ret, u64Of data, afcUnlock client)
          else (r.ret, 0, afcUnlock client)
        | none => (r.ret, 0, afcUnlock client)

/-- `afc_file_tell(client, handle, position)` (lines 1364-1399): `*position` is set from an
answer with a buffer and a positive count, whatever the return value. -/
def afcFileTell (client : AfcClient) (handle : UInt64) : Int × Option UInt64 × AfcClient :=
  if handle = 0 then (D.eInvalidArgument, none, client)
  else
    match afcDispatchPacket D (withPacket (afcLock client) D.opFileTell 0 0) (u64Bytes handle) with
    | (bytes, client) =>
      if bytes ≤ 0 then (D.eNotEnoughData, none, afcUnlock client)
      else
        match afcReceiveData D client with
        | (r, client) =>
          match r.dumpHere with
          | some buffer =>
            if 0 < r.bytes then (r.ret, some (u64Of buffer), afcUnlock client)
            else (r.ret, none, afcUnlock client)
          | none => (r.ret, none, afcUnlock client)

/-! ## One key of the device information -/

/-- What `afc_get_device_info_key` leaves in `*value`. -/
inductive Lookup
  /-- NULL: no string of the list is the key. -/
  | notFound
  /-- A copy of the string after the first one that is the key. -/
  | found (value : List UInt8)
  /-- The loop went through a NULL pointer: the list itself is NULL, or the key is its last
  string and `strdup` is handed the list's terminating NULL. -/
  | nullDeref
  deriving DecidableEq, Repr

/-- The loop of `afc_get_device_info_key` (lines 816-821): walk the list one string at a time
and copy the string after the first one equal to `key`. -/
def lookupKey (key : List UInt8) : List (List UInt8) → Lookup
  | [] => .notFound
  | s :: rest =>
    if s = key then
      match rest with
      | value :: _ => .found value
      | [] => .nullDeref
    else lookupKey key rest

/-- `afc_get_device_info_key(client, key, value)` (lines 803-826): `*value` is NULL first; on a
successful `afc_get_device_info` the loop looks the key up in the list it returned, which the
loop walks even when it is NULL.  `kvps` starts uninitialised, and `afc_get_device_info` never
reads it. -/
def afcGetDeviceInfoKey (client : AfcClient) (key : Option CString) : Int × Lookup × AfcClient :=
  match key with
  | none => (D.eInvalidArgument, .notFound, client)
  | some key =>
    match afcGetDeviceInfo D client (some none) with
    | (ret, kvps, client) =>
      if ret ≠ eSuccess then (ret, .notFound, client)
      else
        match kvps with
        | some (some kvps) => (ret, lookupKey key.bytes kvps, client)
        | _ => (ret, .nullDeref, client)

/-- What the device information is read as: the strings are the pairs `(s0, s1), (s2, s3), …`,
and the value of `key` is that of the first pair whose key it is.  A last string without a value
is no pair. -/
def pairValue (key : List UInt8) : List (List UInt8) → Option (List UInt8)
  | k :: value :: rest => if k = key then some value else pairValue key rest
  | _ => none

/-- On a list of pairs none of whose values is the key, the walk of `afc_get_device_info_key`
finds what the pairs say. -/
theorem lookupKey_pairs (key : List UInt8) (pairs : List (List UInt8 × List UInt8))
    (hvalues : ∀ p ∈ pairs, p.2 ≠ key) :
    lookupKey key (pairs.map fun p => [p.1, p.2]).flatten =
      ((pairValue key (pairs.map fun p => [p.1, p.2]).flatten).map .found).getD .notFound := by
  induction pairs with
  | nil => rfl
  | cons p pairs ih =>
    have hv : p.2 ≠ key := hvalues p (List.mem_cons_self _ _)
    by_cases hk : p.1 = key
    · simp [lookupKey, pairValue, hk]
    · simp [lookupKey, pairValue, hk, hv, ih fun q hq => hvalues q (List.mem_cons_of_mem _ hq)]

/-- The pairs `(b, c)` and `(a, d)`, looked up for the key `a`. -/
theorem lookupKey_pairs_second :
    lookupKey [0x61] ([([0x62], [0x63]), ([0x61], [0x64])].map fun p => [p.1, p.2]).flatten =
      ((pairValue [0x61] ([([0x62], [0x63]), ([0x61], [0x64])].map
        fun p => [p.1, p.2]).flatten).map .found).getD .notFound :=
  lookupKey_pairs [0x61] [([0x62], [0x63]), ([0x61], [0x64])] (by decide)

section Answer

variable {D}

/-- A device-information request whose answer comes as one well-formed data frame succeeds
with the strings of its payload: a request without data never fails to dispatch, and the
dispatch leaves the inbound side as it was, with the packet numbered one past the client's. -/
theorem afcGetDeviceInfo_frame {client : AfcClient} {f : Frame} {rest : List UInt8}
    (infos : Option (List (List UInt8)))
    (hwf : f.WellFormed D (client.afcPacket.packetNum + 1)) (hsmall : f.payload.length < 2 ^ 31)
    (hpend : client.connection.pending = f.bytes D ++ rest)
    (hrel : client.connection.Reliable) (hhead : client.connection.Whole 0 40)
    (hfirst : client.connection.Whole 40 f.header.thisLength.toNat) :
    (afcGetDeviceInfo D client (some infos)).1 = eSuccess ∧
      (afcGetDeviceInfo D client (some infos)).2.1 =
        some (makeStringsList (some f.payload) f.payload.length) := by
  rcases hd : afcDispatchPacket D (withPacket (afcLock client) D.opGetDevinfo 0 0) [] with
    ⟨bytes, c1⟩
  have hin : (afcDispatchPacket D (withPacket (afcLock client) D.opGetDevinfo 0 0)
      []).2.connection.inbound = client.connection.inbound := afcDispatchPacket_inbound _
  have hnum :
      (afcDispatchPacket D (withPacket (afcLock client) D.opGetDevinfo 0 0) []).2.afcPacket = _ :=
    afcDispatchPacket_afcPacket _
  have hbytes := afcDispatchPacket_nil_nonneg (D := D)
    (withPacket (afcLock client) D.opGetDevinfo 0 0) rfl
  rw [hd] at hin hnum hbytes
  have hwf1 : f.WellFormed D c1.afcPacket.packetNum := by
    rwa [hnum, dispatchHeader_packetNum]
  obtain ⟨hret, hdump, hlen, -⟩ := afcReceiveData_frame hwf1 hsmall
    ((Conn.pending_of_inbound hin).trans hpend) (hrel.of_inbound hin) (hhead.of_inbound hin)
    (hfirst.of_inbound hin)
  simp only [afcGetDeviceInfo, hd, if_neg (not_lt.mpr hbytes), hret, ne_eq, not_true_eq_false,
    if_false, hlen, true_and]
  rcases hp : f.payload with _ | ⟨b, bs⟩
  · cases (afcReceiveData D c1).1.dumpHere <;> simp [makeStringsList]
  · rw [hp] at hdump
    cases hr : (afcReceiveData D c1).1.dumpHere with
    | none => rw [hr] at hdump; simp at hdump
    | some buf => rw [hr] at hdump; simp only [Option.getD_some] at hdump; rw [hdump]

/-- On such an answer `afc_get_device_info_key` succeeds and looks the key up in the strings of
the payload, or in a NULL list when the payload is empty. -/
theorem afcGetDeviceInfoKey_frame {client : AfcClient} {f : Frame} {rest : List UInt8}
    (key : CString)
    (hwf : f.WellFormed D (client.afcPacket.packetNum + 1)) (hsmall : f.payload.length < 2 ^ 31)
    (hpend : client.connection.pending = f.bytes D ++ rest)
    (hrel : client.connection.Reliable) (hhead : client.connection.Whole 0 40)
    (hfirst : client.connection.Whole 40 f.header.thisLength.toNat) :
    (afcGetDeviceInfoKey D client (some key)).1 = eSuccess ∧
      (afcGetDeviceInfoKey D client (some key)).2.1 =
        if f.payload = [] then .nullDeref else lookupKey key.bytes (nulSegments f.payload) := by
  obtain ⟨hret, hlist⟩ := afcGetDeviceInfo_frame none hwf hsmall hpend hrel hhead hfirst
  rcases hi : afcGetDeviceInfo D client (some none) with ⟨ret, kvps, c⟩
  rw [hi] at hret hlist
  subst hret hlist
  simp only [afcGetDeviceInfoKey, hi, ne_eq, not_true_eq_false, if_false, true_and]
  by_cases hp : f.payload = []
  · simp [hp, makeStringsList]
  · simp only [makeStringsList_length hp, if_neg hp, and_self]

end Answer

/-- A data packet numbered 1 carrying `payload`, as `sampleDefs` lays it out. -/
def deviceInfoAnswer (payload : List UInt8) : Frame :=
  ⟨⟨UInt64.ofNat (40 + payload.length), UInt64.ofNat (40 + payload.length), 1, 0x02⟩, payload⟩

/-- A client whose device-information request goes out in one send and is answered by
`deviceInfoAnswer payload`, handed to one receive. -/
def deviceInfoClient (payload : List UInt8) : AfcClient :=
  ⟨⟨[(deviceInfoAnswer payload).bytes sampleDefs], [40], []⟩, ⟨0, 0, 0, 0⟩, []⟩

theorem afcGetDeviceInfoKey_sample (payload : List UInt8) (key : CString)
    (h : payload.length < 2 ^ 31) :
    (afcGetDeviceInfoKey sampleDefs (deviceInfoClient payload) (some key)).1 = eSuccess ∧
      (afcGetDeviceInfoKey sampleDefs (deviceInfoClient payload) (some key)).2.1 =
        if payload = [] then .nullDeref else lookupKey key.bytes (nulSegments payload) := by
  have hlen : (UInt64.ofNat (40 + payload.length)).toNat = 40 + payload.length :=
    UInt64.toNat_ofNat_of_lt (by unfold UInt64.size; omega)
  have hcuts : cuts (deviceInfoClient payload).connection.inbound = [40 + payload.length] := by
    simp [deviceInfoClient, cuts, Frame.length_bytes, deviceInfoAnswer]
  exact @afcGetDeviceInfoKey_frame sampleDefs (deviceInfoClient payload) (deviceInfoAnswer payload)
    [] key ⟨rfl, by simp [deviceInfoAnswer, hlen], le_refl _,
      by simp [deviceInfoAnswer, hlen]; omega, by simp [deviceInfoAnswer, hlen], .inl rfl⟩ h rfl
    (by simp [Conn.Reliable, deviceInfoClient, ← List.length_pos, Frame.length_bytes])
    (by rw [Conn.Whole, hcuts]; simp)
    (by rw [Conn.Whole, hcuts]; simp [deviceInfoAnswer, hlen])

/-- The device information `a`, `Model`, `Model`, `X` holds the pairs `(a, Model)` and
`(Model, X)`, but `afc_get_device_info_key` returns `Model` for the key `Model`: it matched the
value of the first pair.  On the one string `Model` it hands `strdup` the list's terminating
NULL, and on an empty answer it walks a NULL list. -/
theorem afcGetDeviceInfoKey_value_is_key :
    let model : CString := ⟨[0x4d, 0x6f, 0x64, 0x65, 0x6c], by decide⟩
    let payload : List UInt8 := [0x61, 0] ++ model.withNul ++ model.withNul ++ [0x58, 0]
    pairValue model.bytes (nulSegments payload) = some [0x58] ∧
      (afcGetDeviceInfoKey sampleDefs (deviceInfoClient payload) (some model)).1 = eSuccess ∧
      (afcGetDeviceInfoKey sampleDefs (deviceInfoClient payload) (some model)).2.1 =
        .found model.bytes ∧
      (afcGetDeviceInfoKey sampleDefs (deviceInfoClient model.withNul) (some model)).2.1 =
        .nullDeref ∧
      (afcGetDeviceInfoKey sampleDefs (deviceInfoClient []) (some model)).2.1 = .nullDeref := by
  intro model payload
  obtain ⟨hret, hval⟩ := afcGetDeviceInfoKey_sample payload model (by decide)
  refine ⟨by decide, hret, hval.trans (by decide), ?_, ?_⟩
  · exact (afcGetDeviceInfoKey_sample model.withNul model (by decide)).2.trans (by decide)
  · exact (afcGetDeviceInfoKey_sample [] model (by decide)).2.trans (by decide)

/-! ## Every return path unlocks what it locked -/

section Mutex

variable {D}

theorem afcRequest_mutex (operation : UInt64) (payload : List UInt8) (failCode : Int)
    (client : AfcClient) : Balanced client (afcRequest D operation payload failCode client).2 := by
  unfold afcRequest
  dsimp only
  split_ifs <;> exact locked_unlock _ _ (by simp)

theorem afcRenamePath_mutex (client : AfcClient) (fromPath toPath : CString) :
    Balanced client (afcRenamePath D client fromPath toPath).2 := by
  unfold afcRenamePath; exact afcRequest_mutex ..

theorem afcMakeDirectory_mutex (client : AfcClient) (dir : CString) :
    Balanced client (afcMakeDirectory D client dir).2 := by
  unfold afcMakeDirectory; exact afcRequest_mutex ..

theorem afcTruncate_mutex (client : AfcClient) (path : CString) (newsize : Int) :
    Balanced client (afcTruncate D client path newsize).2 := by
  unfold afcTruncate; exact afcRequest_mutex ..

theorem afcMakeLink_mutex (client : AfcClient) (linktype : UInt64) (target linkname : CString) :
    Balanced client (afcMakeLink D client linktype target linkname).2 := by
  unfold afcMakeLink; exact afcRequest_mutex ..

theorem afcSetFileTime_mutex (client : AfcClient) (path : CString) (mtime : UInt64) :
    Balanced client (afcSetFileTime D client path mtime).2 := by
  unfold afcSetFileTime; exact afcRequest_mutex ..

theorem afcFileClose_mutex (client : AfcClient) (handle : UInt64) :
    Balanced client (afcFileClose D client handle).2 := by
  unfold afcFileClose; split_ifs
  · exact .inl rfl
  · exact afcRequest_mutex ..

theorem afcFileLock_mutex (client : AfcClient) (handle operation : UInt64) :
    Balanced client (afcFileLock D client handle operation).2 := by
  unfold afcFileLock; split_ifs
  · exact .inl rfl
  · exact afcRequest_mutex ..

theorem afcFileSeek_mutex (client : AfcClient) (handle : UInt64) (offset whence : Int) :
    Balanced client (afcFileSeek D client handle offset whence).2 := by
  unfold afcFileSeek; split_ifs
  · exact .inl rfl
  · exact afcRequest_mutex ..

theorem afcFileTruncate_mutex (client : AfcClient) (handle newsize : UInt64) :
    Balanced client (afcFileTruncate D client handle newsize).2 := by
  unfold afcFileTruncate; split_ifs
  · exact .inl rfl
  · exact afcRequest_mutex ..

theorem afcRemovePath_mutex (client : AfcClient) (path : Option CString) :
    Balanced client (afcRemovePath D client path).2 := by
  unfold afcRemovePath
  rcases path with _ | path
  · exact .inl rfl
  · dsimp only
    split_ifs <;> exact locked_unlock _ _ (by simp)

theorem afcReadDirectory_mutex (client : AfcClient) (dir : Option CString)
    (list : Option (Option (List (List UInt8)))) :
    Balanced client (afcReadDirectory D client dir list).2.2 := by
  unfold afcReadDirectory
  rcases dir with _ | dir
  · exact .inl rfl
  rcases list with _ | _ | list
  · exact .inl rfl
  · dsimp only
    split_ifs <;> exact locked_unlock _ _ (by simp)
  · exact .inl rfl

theorem afcGetDeviceInfo_mutex (client : AfcClient) (infos : Option (Option (List (List UInt8)))) :
    Balanced client (afcGetDeviceInfo D client infos).2.2 := by
  unfold afcGetDeviceInfo
  rcases infos with _ | infos
  · exact .inl rfl
  · dsimp only
    split_ifs <;> exact locked_unlock _ _ (by simp)

theorem afcGetDeviceInfoKey_mutex (client : AfcClient) (key : Option CString) :
    Balanced client (afcGetDeviceInfoKey D client key).2.2 := by
  unfold afcGetDeviceInfoKey
  rcases key with _ | key
  · exact .inl rfl
  · have h := afcGetDeviceInfo_mutex (D := D) client (some none)
    rcases hi : afcGetDeviceInfo D client (some none) with ⟨ret, kvps, c⟩
    rw [hi] at h
    dsimp only
    split_ifs
    · exact h
    · split <;> exact h

theorem afcGetFileInfo_mutex (client : AfcClient) (path : Option CString)
    (infolist : Option (Option (List (List UInt8)))) :
    Balanced client (afcGetFileInfo D client path infolist).2.2 := by
  unfold afcGetFileInfo
  rcases path with _ | path
  · exact .inl rfl
  rcases infolist with _ | infolist
  · exact .inl rfl
  · dsimp only
    split <;> exact locked_unlock _ _ (by simp)

theorem afcFileOpen_mutex (client : AfcClient) (filename : CString) (fileMode : Nat) :
    Balanced client (afcFileOpen D client filename fileMode).2.2 := by
  unfold afcFileOpen
  dsimp only
  split_ifs <;> (try split) <;> exact locked_unlock _ _ (by simp)

theorem afcFileTell_mutex (client : AfcClient) (handle : UInt64) :
    Balanced client (afcFileTell D client handle).2.2 := by
  unfold afcFileTell
  split_ifs
  · exact .inl rfl
  · dsimp only
    split_ifs <;> (try split) <;> exact locked_unlock _ _ (by simp)

end Mutex

end Libiphone.AFC
