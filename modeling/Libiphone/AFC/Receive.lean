import Libiphone.AFC.Client

/-!
# Receiving an AFC packet

`afc_receive_data` (`AFC.c`, lines 534-671) reads one packet: its 40-byte header in one
receive, then the first `this_length - 40` payload bytes in one more, then the rest of the
payload in a loop of receives into a buffer of `entire_len = (uint32_t)entire_length - 40`
bytes.  A short header or a short first part is an error; the loop stops at the first receive
that gets nothing, or whose count reads back as a non-positive `int`, and what it has counted so
far is kept.  The operation code then decides the return value: a status with a non-zero code is
that code, data, file-handle and position answers succeed, anything else is not supported.

The model keeps everything the function writes through its pointers, and in addition the size
of the buffer it allocates and every store into it, so that what it writes out of bounds can be
stated.  The main facts proved here are:

* `receiveRest_reliable`: on a connection with no failures, the loop reads exactly what is
  missing, however the bytes are chunked;
* `afcReceiveData_frame`: a well-formed frame whose header and first part each arrive in one
  receive comes back whole, and `afcReceiveData_frames` for a stream of such frames;
* `receiveRest_stores_le`: the loop never stores past the buffer, so the only store that can
  is the first part's.
-/

namespace Libiphone.AFC

/-- What one call of `afc_receive_data` leaves behind. -/
structure Received where
  /-- The return value. -/
  ret : Int
  /-- `*dump_here`: NULL, or the buffer, of which the first `*bytes` bytes are counted. -/
  dumpHere : Option (List UInt8)
  /-- `*bytes`. -/
  bytes : Int
  /-- The size `malloc(entire_len)` was asked for, once the header was accepted. -/
  alloc : Option Nat
  /-- Each receive into the buffer: the offset it wrote at and how many bytes it wrote. -/
  stores : List (Nat × Nat)
  /-- Whether `param1` was read out of the first eight bytes of the buffer. -/
  readsParam : Bool
  deriving Repr

/-- A return before the buffer is allocated. -/
def Received.early (ret bytes : Int) : Received := ⟨ret, none, bytes, none, [], false⟩

/-- The loop that reads the rest of a payload (lines 614-622): while `current_count` is short of
`entire_len`, receive what is missing into the buffer at `current_count`; stop at the first
receive whose count, read back as an `int`, is not positive.  It returns `current_count`,
`*bytes`, the bytes counted, the stores into the buffer and the connection.  `current_count`
stays at most `entire_len < 2 ^ 32`, so its `uint32_t` sum never wraps. -/
def receiveRest (entireLen currentCount : Nat) (bytes : Int) (c : Conn) :
    Nat × Int × List UInt8 × List (Nat × Nat) × Conn :=
  if currentCount < entireLen then
    match iphoneDeviceRecv c (entireLen - currentCount) with
    | (_, got, c') =>
      if hb : asInt32 got.length ≤ 0 then
        (currentCount, asInt32 got.length, [], [(currentCount, got.length)], c')
      else
        have : got.length ≠ 0 := fun h => hb (by simp [h])
        match receiveRest entireLen (currentCount + got.length) (asInt32 got.length) c' with
        | (cc, b, buf, stores, c'') => (cc, b, got ++ buf, (currentCount, got.length) :: stores, c'')
  else (currentCount, bytes, [], [], c)
termination_by entireLen - currentCount

section Loop

variable {entireLen currentCount : Nat} {bytes : Int} {c : Conn}

theorem receiveRest_done (h : ¬ currentCount < entireLen) :
    receiveRest entireLen currentCount bytes c = (currentCount, bytes, [], [], c) := by
  rw [receiveRest, if_neg h]

theorem receiveRest_break {ok : Bool} {got : List UInt8} {c' : Conn} (h : currentCount < entireLen)
    (hr : iphoneDeviceRecv c (entireLen - currentCount) = (ok, got, c'))
    (hb : asInt32 got.length ≤ 0) :
    receiveRest entireLen currentCount bytes c =
      (currentCount, asInt32 got.length, [], [(currentCount, got.length)], c') := by
  rw [receiveRest, if_pos h, hr]; simp only [dif_pos hb]

theorem receiveRest_next {ok : Bool} {got : List UInt8} {c' : Conn} (h : currentCount < entireLen)
    (hr : iphoneDeviceRecv c (entireLen - currentCount) = (ok, got, c'))
    (hb : ¬ asInt32 got.length ≤ 0) :
    receiveRest entireLen currentCount bytes c =
      let r := receiveRest entireLen (currentCount + got.length) (asInt32 got.length) c'
      (r.1, r.2.1, got ++ r.2.2.1, (currentCount, got.length) :: r.2.2.2.1, r.2.2.2.2) := by
  rw [receiveRest, if_pos h, hr]; simp only [dif_neg hb]

/-- On a connection where no receive fails, the loop reads exactly the missing bytes, however
they are chunked, as long as no chunk is so long that its count reads back negative. -/
theorem receiveRest_reliable (bytes : Int) (hlt : entireLen < 2 ^ 31)
    (hle : currentCount ≤ entireLen) (hc : c.Reliable) (hp : entireLen - currentCount ≤ c.pending.length) :
    (receiveRest entireLen currentCount bytes c).1 = entireLen ∧
      (receiveRest entireLen currentCount bytes c).2.2.1 =
        c.pending.take (entireLen - currentCount) ∧
      c.After (entireLen - currentCount) (receiveRest entireLen currentCount bytes c).2.2.2.2 := by
  induction currentCount, bytes, c using receiveRest.induct entireLen with
  | case1 cc bytes c h ok got c' hr hb =>
    have hne : c.pending ≠ [] := fun h0 => by simp [h0] at hp; omega
    have hok := recv_ok_of_reliable hc hne (show 0 < entireLen - cc by omega)
    obtain ⟨hlen, -, -⟩ := recv_spec hr
    simp only [hr] at hok
    rw [asInt32_of_lt (by omega)] at hb
    omega
  | case2 cc bytes c h ok got c' hr hb _ _ _ _ _ _ _ ih =>
    obtain ⟨hlen, htake, hafter⟩ := recv_spec hr
    obtain ⟨h1, h2, h3⟩ := ih (by omega) (hafter.reliable hc)
      (by rw [hafter.pending, List.length_drop]; omega)
    have hsplit : entireLen - cc = got.length + (entireLen - (cc + got.length)) := by omega
    rw [receiveRest_next h hr hb]
    dsimp only
    refine ⟨h1, ?_, ?_⟩
    · rw [h2, hafter.pending, hsplit, List.take_add, ← htake]
    · rw [hsplit]; exact hafter.trans h3
  | case3 cc bytes c h =>
    rw [receiveRest_done h, show entireLen - cc = 0 by omega]
    exact ⟨by omega, by simp, Conn.After.refl c⟩

/-- Whatever the connection does, the loop leaves a connection that the receives consumed. -/
theorem receiveRest_after (entireLen currentCount : Nat) (bytes : Int) (c : Conn) :
    ∃ k, c.After k (receiveRest entireLen currentCount bytes c).2.2.2.2 := by
  induction currentCount, bytes, c using receiveRest.induct entireLen with
  | case1 cc bytes c h ok got c' hr hb =>
    exact ⟨_, by rw [receiveRest_break h hr hb]; exact (recv_spec hr).2.2⟩
  | case2 cc bytes c h ok got c' hr hb _ _ _ _ _ _ _ ih =>
    obtain ⟨k, hk⟩ := ih
    exact ⟨_, by rw [receiveRest_next h hr hb]; exact (recv_spec hr).2.2.trans hk⟩
  | case3 cc bytes c h => exact ⟨0, by rw [receiveRest_done h]; exact Conn.After.refl c⟩

end Loop

/-- `(uint32_t)x - sizeof(AFCPacket)`, kept in a `uint32_t`. -/
def lengthAfterHeader (x : UInt64) : Nat := (x.toNat % 2 ^ 32 + 2 ^ 32 - 40) % 2 ^ 32

/-- The end of `afc_receive_data` (lines 628-670), once `current_count` bytes `buf` are in a
buffer of `entire_len` bytes: `param1`, then the operation code. -/
def checkOperation (D : AfcDefs) (operation : UInt64) (entireLen : Nat) (buf : List UInt8)
    (bytes : Int) (stores : List (Nat × Nat)) : Received :=
  let param1 : UInt64 := if 8 ≤ buf.length then u64Of buf else 0 - 1
  let kept : Received := ⟨eSuccess, some buf, asInt32 buf.length, some entireLen, stores,
    decide (8 ≤ buf.length)⟩
  if operation = D.opStatus then
    if param1 ≠ 0 then { kept with ret := D.ofStatus param1, dumpHere := none, bytes := bytes }
    else kept
  else if operation = D.opData ∨ operation = D.opFileOpenRes ∨ operation = D.opFileTellRes then
    kept
  else { kept with ret := D.eOpNotSupported, dumpHere := none, bytes := 0 }

/-- The end of `afc_receive_data` once the first `this_len` bytes `first` are in the buffer
(lines 612-670): the loop for the rest, then the operation check.  `bytes` is `*bytes` so far
and `stores` the stores into the buffer so far. -/
def finishPayload (D : AfcDefs) (operation : UInt64) (entireLen thisLen : Nat) (first : List UInt8)
    (bytes : Int) (stores : List (Nat × Nat)) (c : Conn) : Received × Conn :=
  match receiveRest entireLen thisLen bytes c with
  | (_, bytes, buf, more, c) =>
    (checkOperation D operation entireLen (first ++ buf) bytes (stores ++ more), c)

/-- `afc_receive_data` after a header with the right packet number, `this_length >= 40` and a
payload (lines 588-670), given `entire_len` and `this_len`: the buffer is allocated, and the
first `this_len` bytes must arrive in one receive. -/
def receivePayload (D : AfcDefs) (operation : UInt64) (entireLen thisLen : Nat) (c : Conn) :
    Received × Conn :=
  if 0 < thisLen then
    match iphoneDeviceRecv c thisLen with
    | (_, got, c) =>
      if asInt32 got.length ≤ 0 ∨ got.length < thisLen then
        (⟨D.eNotEnoughData, none, asInt32 got.length, some entireLen, [(0, got.length)], false⟩, c)
      else finishPayload D operation entireLen thisLen got (asInt32 got.length) [(0, got.length)] c
  else finishPayload D operation entireLen thisLen [] 40 [] c

/-- `afc_receive_data` once the 40 header bytes are in (lines 556-670): the packet number, the
two lengths, and then the payload. -/
def receiveAfterHeader (D : AfcDefs) (packetNum : UInt64) (header : AFCPacket) (c : Conn) :
    Received × Conn :=
  if header.packetNum ≠ packetNum then (.early D.eOpHeaderInvalid 40, c)
  else if header.thisLength.toNat < 40 then (.early D.eOpHeaderInvalid 40, c)
  else if header.thisLength = header.entireLength ∧ header.entireLength.toNat = 40 then
    (.early (if header.operation = D.opData then eSuccess else D.eIoError) 0, c)
  else receivePayload D header.operation (lengthAfterHeader header.entireLength)
    (lengthAfterHeader header.thisLength) c

/-- `afc_receive_data(client, &dump_here, &bytes)` (lines 534-671). -/
@[irreducible] def afcReceiveData (D : AfcDefs) (client : AfcClient) : Received × AfcClient :=
  match iphoneDeviceRecv client.connection 40 with
  | (_, hdr, conn) =>
    let r : Received × Conn :=
      if asInt32 hdr.length ≤ 0 ∨ hdr.length < 40 then (.early D.eMuxError (asInt32 hdr.length), conn)
      else receiveAfterHeader D client.afcPacket.packetNum (D.decodeHeader hdr) conn
    (r.1, { client with connection := r.2 })

@[simp] theorem afcReceiveData_afcPacket (D : AfcDefs) (client : AfcClient) :
    (afcReceiveData D client).2.afcPacket = client.afcPacket := by
  unfold afcReceiveData; split; rfl

@[simp] theorem afcReceiveData_mutex (D : AfcDefs) (client : AfcClient) :
    (afcReceiveData D client).2.mutex = client.mutex := by
  unfold afcReceiveData; split; rfl

/-- The receive does not look at the mutex. -/
theorem afcReceiveData_lock (D : AfcDefs) (client : AfcClient) :
    afcReceiveData D (afcLock client) =
      ((afcReceiveData D client).1, afcLock (afcReceiveData D client).2) := by
  unfold afcReceiveData; rfl

/-! ## Every call consumes what its receives took -/

section Progress

variable {D : AfcDefs} {operation : UInt64} {entireLen thisLen : Nat}

theorem finishPayload_after {first : List UInt8} {bytes : Int} {stores : List (Nat × Nat)}
    (c : Conn) :
    ∃ k, c.After k (finishPayload D operation entireLen thisLen first bytes stores c).2 := by
  obtain ⟨k, hk⟩ := receiveRest_after entireLen thisLen bytes c
  rcases hrr : receiveRest entireLen thisLen bytes c with ⟨cc, b, buf, more, c2⟩
  rw [hrr] at hk
  exact ⟨k, by simpa only [finishPayload, hrr] using hk⟩

theorem receivePayload_after (c : Conn) :
    ∃ k, c.After k (receivePayload D operation entireLen thisLen c).2 := by
  unfold receivePayload
  split_ifs
  · rcases hr : iphoneDeviceRecv c thisLen with ⟨ok, got, c1⟩
    have h1 := (recv_spec hr).2.2
    dsimp only
    split_ifs
    · exact ⟨_, h1⟩
    · obtain ⟨k, hk⟩ : ∃ k, c1.After k (finishPayload D operation entireLen thisLen got
          (asInt32 got.length) [(0, got.length)] c1).2 := finishPayload_after c1
      exact ⟨_, h1.trans hk⟩
  · exact finishPayload_after c

theorem receiveAfterHeader_after {packetNum : UInt64} {header : AFCPacket} (c : Conn) :
    ∃ k, c.After k (receiveAfterHeader D packetNum header c).2 := by
  unfold receiveAfterHeader
  split_ifs <;> first | exact receivePayload_after c | exact ⟨0, .refl c⟩

/-- Every call only takes pending bytes. -/
theorem afcReceiveData_after (client : AfcClient) :
    ∃ k, client.connection.After k (afcReceiveData D client).2.connection := by
  rcases hr : iphoneDeviceRecv client.connection 40 with ⟨ok, hdr, conn⟩
  have h1 := (recv_spec hr).2.2
  rw [afcReceiveData]
  simp only [hr]
  split_ifs
  · exact ⟨_, h1⟩
  · obtain ⟨k, hk⟩ :=
      @receiveAfterHeader_after D client.afcPacket.packetNum (D.decodeHeader hdr) conn
    exact ⟨_, h1.trans hk⟩

@[simp] theorem afcReceiveData_wire (client : AfcClient) :
    (afcReceiveData D client).2.connection.wire = client.connection.wire := by
  obtain ⟨_, hk⟩ := afcReceiveData_after (D := D) client
  exact hk.wire

@[simp] theorem afcReceiveData_sendCaps (client : AfcClient) :
    (afcReceiveData D client).2.connection.sendCaps = client.connection.sendCaps := by
  obtain ⟨_, hk⟩ := afcReceiveData_after (D := D) client
  exact hk.sendCaps

/-- A call that succeeds took a whole header, so it used up at least one chunk: the loops that
call `afc_receive_data` until it fails make progress on every round. -/
theorem afcReceiveData_size_lt {client : AfcClient}
    (h : (afcReceiveData D client).1.ret = eSuccess) :
    (afcReceiveData D client).2.connection.size < client.connection.size := by
  rcases hr : iphoneDeviceRecv client.connection 40 with ⟨ok, hdr, conn⟩
  rw [afcReceiveData] at h ⊢
  simp only [hr] at h ⊢
  split_ifs at h ⊢ with hbad
  · exact absurd h D.eMuxError_ne
  · have hne : client.connection.inbound ≠ [] := by
      intro h0
      simp only [iphoneDeviceRecv, h0, Prod.mk.injEq] at hr
      obtain ⟨-, rfl, -⟩ := hr
      simp at hbad
    have hsize : conn.size < client.connection.size := by
      simpa only [hr] using recv_size_lt hne (show 0 < 40 by omega)
    obtain ⟨k, hk⟩ : ∃ k, conn.After k
        (receiveAfterHeader D client.afcPacket.packetNum (D.decodeHeader hdr) conn).2 :=
      receiveAfterHeader_after conn
    exact lt_of_le_of_lt hk.size hsize

end Progress

/-! ## Packets that arrive as sent -/

section Whole

variable {D : AfcDefs}

/-- An AFC packet as the device sends it: a header, and the bytes after it. -/
structure Frame where
  header : AFCPacket
  payload : List UInt8

/-- The bytes of a frame on the wire. -/
def Frame.bytes (D : AfcDefs) (f : Frame) : List UInt8 := D.encodeHeader f.header ++ f.payload

@[simp] theorem Frame.length_bytes (f : Frame) : (f.bytes D).length = 40 + f.payload.length := by
  simp [Frame.bytes, D.length_encodeHeader]

/-- The answers `afc_receive_data` returns as a success once the payload `buf` is in: data, a
file handle, a position, or a status whose code is 0. -/
def Accepted (D : AfcDefs) (operation : UInt64) (buf : List UInt8) : Prop :=
  operation = D.opData ∨ operation = D.opFileOpenRes ∨ operation = D.opFileTellRes ∨
    (operation = D.opStatus ∧ 8 ≤ buf.length ∧ u64Of buf = 0)

theorem checkOperation_accepted {operation : UInt64} {buf : List UInt8} (entireLen : Nat)
    (bytes : Int) (stores : List (Nat × Nat)) (h : Accepted D operation buf) :
    let r := checkOperation D operation entireLen buf bytes stores
    r.ret = eSuccess ∧ r.dumpHere = some buf ∧ r.bytes = asInt32 buf.length := by
  rcases h with rfl | rfl | rfl | ⟨rfl, h8, h0⟩
  · simp [checkOperation, D.opData_ne_opStatus]
  · simp [checkOperation, D.opFileOpenRes_ne_opStatus]
  · simp [checkOperation, D.opFileTellRes_ne_opStatus]
  · simp [checkOperation, h8, h0]

theorem lengthAfterHeader_of {x : UInt64} (h40 : 40 ≤ x.toNat) (h32 : x.toNat < 2 ^ 32) :
    lengthAfterHeader x = x.toNat - 40 := by
  rw [lengthAfterHeader, Nat.mod_eq_of_lt h32]; omega

/-- A payload whose first `this_len` bytes arrive in one receive, on a connection where no
receive fails, is read whole: the operation check then sees exactly the payload, and the
receives have consumed exactly it. -/
theorem receivePayload_whole (operation : UInt64) {entireLen : Nat} (thisLen : Nat)
    {payload rest : List UInt8} {c : Conn} (hle : thisLen ≤ entireLen)
    (hlen : payload.length = entireLen) (hsmall : entireLen < 2 ^ 31)
    (hpend : c.pending = payload ++ rest) (hrel : c.Reliable) (hw : c.Whole 0 thisLen) :
    ∃ bytes stores, (receivePayload D operation entireLen thisLen c).1 =
        checkOperation D operation entireLen payload bytes stores ∧
      c.After entireLen (receivePayload D operation entireLen thisLen c).2 := by
  by_cases h0 : 0 < thisLen
  · obtain ⟨hgot, hafter⟩ := recv_exact hrel hw (by rw [hpend, List.length_append]; omega)
    rcases hr : iphoneDeviceRecv c thisLen with ⟨ok, got, c1⟩
    simp only [hr] at hgot hafter
    have hfirst : got = payload.take thisLen := by
      rw [hgot, hpend, List.take_append_of_le_length (by omega)]
    have hglen : got.length = thisLen := by rw [hfirst, List.length_take]; omega
    obtain ⟨-, hbuf, hafter2⟩ := receiveRest_reliable (asInt32 got.length) hsmall hle
      (hafter.reliable hrel)
      (by rw [hafter.pending, hpend, List.length_drop, List.length_append]; omega)
    rcases hrr : receiveRest entireLen thisLen (asInt32 got.length) c1 with
      ⟨cc, b, buf, more, c2⟩
    simp only [hrr] at hbuf hafter2
    have hpos : ¬ (asInt32 got.length ≤ 0 ∨ got.length < thisLen) := by
      rw [asInt32_of_lt (by omega)]; omega
    have hrest : buf = payload.drop thisLen := by
      rw [hbuf, hafter.pending, hpend, List.drop_append_of_le_length (by omega),
        List.take_left' (by simp; omega)]
    have hafter3 := hafter.trans hafter2
    rw [show thisLen + (entireLen - thisLen) = entireLen by omega] at hafter3
    simp only [receivePayload, if_pos h0, hr, if_neg hpos, finishPayload, hrr]
    exact ⟨b, [(0, got.length)] ++ more, by rw [hfirst, hrest, List.take_append_drop], hafter3⟩
  · have hT0 : thisLen = 0 := by omega
    subst hT0
    obtain ⟨-, hbuf, hafter2⟩ := receiveRest_reliable 40 hsmall hle
      hrel (by rw [hpend, List.length_append]; omega)
    rcases hrr : receiveRest entireLen 0 40 c with ⟨cc, b, buf, more, c2⟩
    simp only [hrr, Nat.sub_zero] at hbuf hafter2
    have hrest : buf = payload := by rw [hbuf, hpend, List.take_left' hlen]
    simp only [receivePayload, if_neg h0, finishPayload, hrr, List.nil_append]
    exact ⟨b, more, by rw [hrest], hafter2⟩

/-- A first receive that hands over a whole header, whatever the connection holds after it: the
header is read as sent and `afc_receive_data` goes on to its checks. -/
theorem afcReceiveData_of_recv {client : AfcClient} {ok : Bool} {header : AFCPacket} {c1 : Conn}
    (hr : iphoneDeviceRecv client.connection 40 = (ok, D.encodeHeader header, c1)) :
    afcReceiveData D client =
      ((receiveAfterHeader D client.afcPacket.packetNum header c1).1,
        { client with connection := (receiveAfterHeader D client.afcPacket.packetNum header c1).2 }) := by
  have hfull : ¬ (asInt32 (D.encodeHeader header).length ≤ 0 ∨
      (D.encodeHeader header).length < 40) := by
    rw [D.length_encodeHeader, asInt32_of_lt (by omega)]; omega
  rw [afcReceiveData]
  simp only [hr, if_neg hfull, D.decodeHeader_encodeHeader]

/-- A header with the request's number, `this_length >= 40` and a payload leads to the payload. -/
theorem receiveAfterHeader_payload {packetNum : UInt64} {header : AFCPacket} (c : Conn)
    (hnum : header.packetNum = packetNum) (h40 : 40 ≤ header.thisLength.toNat)
    (hpay : ¬ (header.thisLength = header.entireLength ∧ header.entireLength.toNat = 40)) :
    receiveAfterHeader D packetNum header c = receivePayload D header.operation
      (lengthAfterHeader header.entireLength) (lengthAfterHeader header.thisLength) c := by
  simp only [receiveAfterHeader, hnum, ne_eq, not_true_eq_false, if_false, if_neg hpay,
    if_neg (show ¬ header.thisLength.toNat < 40 by omega)]

/-- A header that arrives in one receive on a connection with no failures is read as sent, and
`afc_receive_data` goes on to its checks with the bytes after it. -/
theorem afcReceiveData_header {client : AfcClient} {header : AFCPacket} {more : List UInt8}
    (hpend : client.connection.pending = D.encodeHeader header ++ more)
    (hrel : client.connection.Reliable) (hw : client.connection.Whole 0 40) :
    ∃ c1, client.connection.After 40 c1 ∧
      afcReceiveData D client =
        ((receiveAfterHeader D client.afcPacket.packetNum header c1).1,
          { client with
            connection := (receiveAfterHeader D client.afcPacket.packetNum header c1).2 }) := by
  have h40 : 40 ≤ client.connection.pending.length := by
    rw [hpend, List.length_append, D.length_encodeHeader]; omega
  obtain ⟨hgot, hafter⟩ := recv_exact hrel hw h40
  rcases hr : iphoneDeviceRecv client.connection 40 with ⟨ok, hdr, c1⟩
  simp only [hr] at hgot hafter
  have hhdr : hdr = D.encodeHeader header := by
    rw [hgot, hpend, List.take_left' (D.length_encodeHeader header)]
  exact ⟨c1, hafter, afcReceiveData_of_recv (hhdr ▸ hr)⟩

/-- An answer frame to the request numbered `packetNum`, as `afc_receive_data` takes it whole:
its header carries the request's number and lengths with `40 ≤ this_length ≤ entire_length`, its
payload is the `entire_length - 40` bytes after the header, and its operation is one the receive
returns success for: DATA, or FILE_OPEN_RES, FILE_TELL_RES or a STATUS of 0, each with the 8
bytes the code reads. -/
structure Frame.WellFormed (D : AfcDefs) (packetNum : UInt64) (f : Frame) : Prop where
  packetNum_eq : f.header.packetNum = packetNum
  thisLength_ge : 40 ≤ f.header.thisLength.toNat
  thisLength_le : f.header.thisLength.toNat ≤ f.header.entireLength.toNat
  entireLength_lt : f.header.entireLength.toNat < 2 ^ 32
  payload_length : f.payload.length = f.header.entireLength.toNat - 40
  operation : f.header.operation = D.opData ∨
    ((f.header.operation = D.opFileOpenRes ∨ f.header.operation = D.opFileTellRes ∨
      (f.header.operation = D.opStatus ∧ u64Of f.payload = 0)) ∧ 8 ≤ f.payload.length)

theorem Frame.WellFormed.accepted {f : Frame} {packetNum : UInt64}
    (h : f.WellFormed D packetNum) : Accepted D f.header.operation f.payload := by
  rcases h.operation with h | ⟨h | h | ⟨h, h0⟩, h8⟩
  · exact .inl h
  · exact .inr (.inl h)
  · exact .inr (.inr (.inl h))
  · exact .inr (.inr (.inr ⟨h, h8, h0⟩))

/-- The checks after a well-formed header, on a connection holding its payload whose first
`this_length - 40` bytes arrive in one receive, accept the frame and read its payload whole. -/
theorem receiveAfterHeader_frame {packetNum : UInt64} {f : Frame} {rest : List UInt8} {c : Conn}
    (hwf : f.WellFormed D packetNum) (hsmall : f.payload.length < 2 ^ 31)
    (hpend : c.pending = f.payload ++ rest) (hrel : c.Reliable)
    (hfirst : c.Whole 0 (f.header.thisLength.toNat - 40)) :
    (receiveAfterHeader D packetNum f.header c).1.ret = eSuccess ∧
      (receiveAfterHeader D packetNum f.header c).1.dumpHere.getD [] = f.payload ∧
      (receiveAfterHeader D packetNum f.header c).1.bytes = f.payload.length ∧
      c.After f.payload.length (receiveAfterHeader D packetNum f.header c).2 := by
  simp only [receiveAfterHeader, hwf.packetNum_eq, ne_eq, not_true_eq_false, if_false,
    show ¬ f.header.thisLength.toNat < 40 by have := hwf.thisLength_ge; omega]
  by_cases hempty : f.header.thisLength = f.header.entireLength ∧ f.header.entireLength.toNat = 40
  · have hnil : f.payload = [] := List.eq_nil_of_length_eq_zero (by rw [hwf.payload_length]; omega)
    have hdata : f.header.operation = D.opData := by
      rcases hwf.operation with h | ⟨-, h8⟩
      · exact h
      · rw [hnil] at h8; simp at h8
    simp only [if_pos hempty, if_pos hdata, Received.early, Option.getD_none, hnil, List.length_nil,
      true_and]
    exact ⟨rfl, Conn.After.refl c⟩
  · have hE := lengthAfterHeader_of (le_trans hwf.thisLength_ge hwf.thisLength_le)
      hwf.entireLength_lt
    have hT := lengthAfterHeader_of hwf.thisLength_ge
      (lt_of_le_of_lt hwf.thisLength_le hwf.entireLength_lt)
    obtain ⟨b, st, hr, hafter⟩ := receivePayload_whole (D := D) f.header.operation
      (f.header.thisLength.toNat - 40) (by have := hwf.thisLength_le; omega)
      hwf.payload_length (by rw [← hwf.payload_length]; exact hsmall) hpend hrel hfirst
    simp only [if_neg hempty, hE, hT]
    obtain ⟨h1, h2, h3⟩ := checkOperation_accepted (f.header.entireLength.toNat - 40) b st
      hwf.accepted
    rw [hr, h1, h2, h3, asInt32_of_lt hsmall, hwf.payload_length]
    exact ⟨rfl, rfl, rfl, hafter⟩

/-- One well-formed answer frame, whose header and first `this_length - 40` payload bytes each
arrive in one receive on a connection where no receive fails, comes back whole. -/
theorem afcReceiveData_frame {client : AfcClient} {f : Frame} {rest : List UInt8}
    (hwf : f.WellFormed D client.afcPacket.packetNum) (hsmall : f.payload.length < 2 ^ 31)
    (hpend : client.connection.pending = f.bytes D ++ rest)
    (hrel : client.connection.Reliable) (hhead : client.connection.Whole 0 40)
    (hfirst : client.connection.Whole 40 f.header.thisLength.toNat) :
    (afcReceiveData D client).1.ret = eSuccess ∧
      (afcReceiveData D client).1.dumpHere.getD [] = f.payload ∧
      (afcReceiveData D client).1.bytes = f.payload.length ∧
      client.connection.After (f.bytes D).length (afcReceiveData D client).2.connection := by
  obtain ⟨c1, hafter, heq⟩ := afcReceiveData_header
    (show client.connection.pending = D.encodeHeader f.header ++ (f.payload ++ rest) by
      rw [hpend, Frame.bytes, List.append_assoc]) hrel hhead
  have hpend1 : c1.pending = f.payload ++ rest := by
    rw [hafter.pending, hpend, Frame.bytes, List.append_assoc,
      List.drop_left' (D.length_encodeHeader _)]
  have hT40 : f.header.thisLength.toNat - 40 + 40 = f.header.thisLength.toNat := by
    have := hwf.thisLength_ge; omega
  obtain ⟨h1, h2, h3, hafter2⟩ := receiveAfterHeader_frame hwf hsmall hpend1
    (hafter.reliable hrel) (hafter.whole (by rwa [hT40]))
  rw [heq]
  refine ⟨h1, h2, h3, ?_⟩
  have := hafter.trans hafter2
  rwa [Frame.length_bytes]

/-- A first part that a call succeeds on arrived in one receive. -/
theorem receivePayload_success {operation : UInt64} {entireLen thisLen : Nat} {c : Conn}
    (hrel : c.Reliable) (hok : (receivePayload D operation entireLen thisLen c).1.ret = eSuccess) :
    c.Whole 0 thisLen := by
  by_cases h0 : 0 < thisLen
  · apply whole_of_recv_length hrel
    by_contra hshort
    rcases hr : iphoneDeviceRecv c thisLen with ⟨ok, got, c1⟩
    simp only [hr] at hshort
    have hcut : asInt32 got.length ≤ 0 ∨ got.length < thisLen := .inr (by omega)
    simp only [receivePayload, if_pos h0, hr, if_pos hcut] at hok
    exact D.eNotEnoughData_ne hok
  · exact fun p _ => .inr (by omega)

/-- On a connection where no receive fails, a call that succeeds on a well-formed frame got its
header and its first part each in one receive, however the frame was chunked: it returned the
payload and consumed exactly the frame. -/
theorem afcReceiveData_success {client : AfcClient} {f : Frame} {rest : List UInt8}
    (hwf : f.WellFormed D client.afcPacket.packetNum) (hsmall : f.payload.length < 2 ^ 31)
    (hpend : client.connection.pending = f.bytes D ++ rest) (hrel : client.connection.Reliable)
    (hok : (afcReceiveData D client).1.ret = eSuccess) :
    (afcReceiveData D client).1.dumpHere.getD [] = f.payload ∧
      (afcReceiveData D client).1.bytes = f.payload.length ∧
      client.connection.After (f.bytes D).length (afcReceiveData D client).2.connection := by
  have hhead : client.connection.Whole 0 40 := by
    apply whole_of_recv_length hrel
    by_contra hshort
    rcases hr : iphoneDeviceRecv client.connection 40 with ⟨ok, hdr, conn⟩
    simp only [hr] at hshort
    have hcut : asInt32 hdr.length ≤ 0 ∨ hdr.length < 40 := .inr (by omega)
    rw [afcReceiveData] at hok
    simp only [hr, if_pos hcut] at hok
    exact D.eMuxError_ne hok
  obtain ⟨c1, hafter, heq⟩ := afcReceiveData_header
    (show client.connection.pending = D.encodeHeader f.header ++ (f.payload ++ rest) by
      rw [hpend, Frame.bytes, List.append_assoc]) hrel hhead
  have hpend1 : c1.pending = f.payload ++ rest := by
    rw [hafter.pending, hpend, Frame.bytes, List.append_assoc,
      List.drop_left' (D.length_encodeHeader _)]
  rw [heq] at hok ⊢
  have hfirst : c1.Whole 0 (f.header.thisLength.toNat - 40) := by
    by_cases hempty :
        f.header.thisLength = f.header.entireLength ∧ f.header.entireLength.toNat = 40
    · exact fun p _ => .inr (by rw [hempty.1, hempty.2]; omega)
    · have hT := lengthAfterHeader_of hwf.thisLength_ge
        (lt_of_le_of_lt hwf.thisLength_le hwf.entireLength_lt)
      simp only [receiveAfterHeader, hwf.packetNum_eq, ne_eq, not_true_eq_false, if_false,
        show ¬ f.header.thisLength.toNat < 40 by have := hwf.thisLength_ge; omega,
        if_neg hempty, hT] at hok
      exact receivePayload_success (hafter.reliable hrel) hok
  obtain ⟨-, h2, h3, hafter2⟩ := receiveAfterHeader_frame hwf hsmall hpend1
    (hafter.reliable hrel) hfirst
  refine ⟨h2, h3, ?_⟩
  have := hafter.trans hafter2
  rwa [Frame.length_bytes]

/-- `n` successive calls of `afc_receive_data` on one client. -/
def receiveRun (D : AfcDefs) : Nat → AfcClient → List Received × AfcClient
  | 0, c => ([], c)
  | n + 1, c =>
    ((afcReceiveData D c).1 :: (receiveRun D n (afcReceiveData D c).2).1,
      (receiveRun D n (afcReceiveData D c).2).2)

/-- Counting offsets of the pending stream of `c` from `base`, the header of each frame, and the
first `this_length - 40` bytes of its payload, each arrive in one receive. -/
def HeadsWhole (D : AfcDefs) (c : Conn) : Nat → List Frame → Prop
  | _, [] => True
  | base, f :: fs =>
    c.Whole base (base + 40) ∧ c.Whole (base + 40) (base + f.header.thisLength.toNat) ∧
      HeadsWhole D c (base + (f.bytes D).length) fs

instance HeadsWhole.decidable (D : AfcDefs) (c : Conn) :
    ∀ base fs, Decidable (HeadsWhole D c base fs)
  | _, [] => isTrue trivial
  | base, f :: fs =>
    haveI := HeadsWhole.decidable D c (base + (f.bytes D).length) fs
    inferInstanceAs (Decidable (_ ∧ _ ∧ _))

theorem HeadsWhole.after {c c' : Conn} {k : Nat} (h : c.After k c') :
    ∀ {base : Nat} {fs : List Frame}, HeadsWhole D c (base + k) fs → HeadsWhole D c' base fs
  | _, [], _ => trivial
  | base, f :: fs, ⟨h1, h2, h3⟩ =>
    ⟨h.whole (by simpa only [Nat.add_right_comm] using h1),
      h.whole (by simpa only [Nat.add_right_comm] using h2),
      HeadsWhole.after h (by simpa only [Nat.add_right_comm] using h3)⟩

/-- Which bytes arrive together is a matter of the inbound chunks alone. -/
theorem HeadsWhole.of_inbound {c c' : Conn} (h : c'.inbound = c.inbound) :
    ∀ {base : Nat} {fs : List Frame}, HeadsWhole D c base fs → HeadsWhole D c' base fs
  | _, [], _ => trivial
  | _, _ :: _, ⟨h1, h2, h3⟩ =>
    ⟨h1.of_inbound h, h2.of_inbound h, HeadsWhole.of_inbound h h3⟩

/-- Successive calls of `afc_receive_data` on a stream of well-formed answer frames return
each frame's payload in turn, as long as every header and every first part arrives in one
receive, on a connection where no receive fails. -/
theorem afcReceiveData_frames {frames : List Frame} :
    ∀ {client : AfcClient} {rest : List UInt8},
    (∀ f ∈ frames, f.WellFormed D client.afcPacket.packetNum ∧ f.payload.length < 2 ^ 31) →
    client.connection.pending = (frames.map (Frame.bytes D)).flatten ++ rest →
    client.connection.Reliable → HeadsWhole D client.connection 0 frames →
    (receiveRun D frames.length client).1.map (fun r => (r.ret, r.dumpHere.getD [], r.bytes)) =
      frames.map (fun f => (eSuccess, f.payload, (f.payload.length : Int))) := by
  induction frames with
  | nil => intros; rfl
  | cons f fs ih =>
    intro client rest hwf hpend hrel hwhole
    obtain ⟨hh, hf, hfs⟩ := hwhole
    obtain ⟨hw, hsmall⟩ := hwf f (List.mem_cons_self _ _)
    obtain ⟨h1, h2, h3, hafter⟩ := afcReceiveData_frame hw hsmall
      (show client.connection.pending = f.bytes D ++ ((fs.map (Frame.bytes D)).flatten ++ rest) by
        simp [hpend]) hrel hh (by simpa using hf)
    simp only [receiveRun, List.map_cons, h1, h2, h3, List.length_cons]
    refine congrArg _ (@ih _ rest (fun g hg => by simpa using hwf g (List.mem_cons_of_mem _ hg))
      ?_ (hafter.reliable hrel) (HeadsWhole.after hafter (by simpa using hfs)))
    rw [hafter.pending, hpend]
    simp

/-- Two answers, a data frame and a status of 0, the second split across three receives. -/
def twoAnswers : List Frame := [⟨⟨43, 43, 1, 0x02⟩, [1, 2, 3]⟩, ⟨⟨48, 40, 1, 0x01⟩, [0, 0, 0, 0, 0, 0, 0, 0]⟩]

/-- A client waiting for answer 1 whose connection holds `twoAnswers`, chunked as listed. -/
def twoAnswersClient : AfcClient :=
  ⟨⟨[(twoAnswers.map (Frame.bytes sampleDefs)).flatten.take 83, [0, 0, 0, 0], [0, 0, 0, 0]], [], []⟩,
    ⟨0, 0, 1, 0⟩, []⟩

theorem afcReceiveData_frames_sample :
    (receiveRun sampleDefs 2 twoAnswersClient).1.map (fun r => (r.ret, r.dumpHere.getD [], r.bytes)) =
      [(eSuccess, [1, 2, 3], 3), (eSuccess, [0, 0, 0, 0, 0, 0, 0, 0], 8)] :=
  @afcReceiveData_frames sampleDefs twoAnswers _ []
    (by
      simp only [twoAnswers, List.mem_cons, List.mem_singleton, List.not_mem_nil, or_false]
      rintro f (rfl | rfl)
      · exact ⟨⟨rfl, by decide, by decide, by decide, by decide, .inl rfl⟩, by decide⟩
      · exact ⟨⟨rfl, by decide, by decide, by decide, by decide,
          .inr ⟨.inr (.inr ⟨rfl, by decide⟩), by decide⟩⟩, by decide⟩)
    (by decide) (by decide) (by decide)

/-- A header split across two receives is refused even though the frame is well formed and
every receive gets at least one byte. -/
theorem afcReceiveData_split_header :
    let f : Frame := ⟨⟨43, 43, 1, 0x02⟩, [1, 2, 3]⟩
    let client : AfcClient :=
      ⟨⟨[(f.bytes sampleDefs).take 1, (f.bytes sampleDefs).drop 1], [], []⟩, ⟨0, 0, 1, 0⟩, []⟩
    f.WellFormed sampleDefs client.afcPacket.packetNum ∧ client.connection.Reliable ∧
      client.connection.pending = f.bytes sampleDefs ∧
      (afcReceiveData sampleDefs client).1.ret = sampleDefs.eMuxError :=
  ⟨⟨rfl, by decide, by decide, by decide, by decide, .inl rfl⟩, by decide, by decide, by
    simp [afcReceiveData, Frame.bytes, sampleDefs, leEncodeHeader, u64Bytes, leBytes, afcMagic,
      iphoneDeviceRecv, Received.early, asInt32]⟩

/-- A header whose packet number is not the one the client waits for is refused as soon as it is
read, and the payload after it stays pending. -/
theorem afcReceiveData_stale {client : AfcClient} (header : AFCPacket) {more : List UInt8}
    (hpend : client.connection.pending = D.encodeHeader header ++ more)
    (hrel : client.connection.Reliable) (hw : client.connection.Whole 0 40)
    (hnum : header.packetNum ≠ client.afcPacket.packetNum) :
    (afcReceiveData D client).1.ret = D.eOpHeaderInvalid ∧
      (afcReceiveData D client).2.connection.pending = more := by
  obtain ⟨c1, hafter, heq⟩ := afcReceiveData_header hpend hrel hw
  rw [heq]
  simp only [receiveAfterHeader, hnum, ne_eq, not_false_eq_true, if_true, Received.early, true_and]
  rw [hafter.pending, hpend, List.drop_left' (D.length_encodeHeader _)]

/-- A stale answer with three payload bytes, followed by the answer the client waits for: the
call fails, and the next call would start three bytes into the stream, not at the next header. -/
theorem afcReceiveData_stale_leaves_payload :
    let stale : Frame := ⟨⟨43, 43, 0, 0x02⟩, [1, 2, 3]⟩
    let next : Frame := ⟨⟨43, 43, 1, 0x02⟩, [4, 5, 6]⟩
    let client : AfcClient :=
      ⟨⟨[stale.bytes sampleDefs ++ next.bytes sampleDefs], [], []⟩, ⟨0, 0, 1, 0⟩, []⟩
    (afcReceiveData sampleDefs client).1.ret = sampleDefs.eOpHeaderInvalid ∧
      (afcReceiveData sampleDefs client).2.connection.pending = [1, 2, 3] ++ next.bytes sampleDefs :=
  afcReceiveData_stale ⟨43, 43, 0, 0x02⟩
    (by simp [Conn.pending, Frame.bytes]) (by decide) (by decide) (by decide)

end Whole

/-! ## Answers a device should not send -/

section Malformed

variable {D : AfcDefs} {operation : UInt64} {entireLen thisLen : Nat} {c : Conn}

@[simp] theorem checkOperation_alloc {buf : List UInt8} {bytes : Int} {stores : List (Nat × Nat)} :
    (checkOperation D operation entireLen buf bytes stores).alloc = some entireLen := by
  unfold checkOperation; dsimp only; split_ifs <;> rfl

@[simp] theorem checkOperation_stores {buf : List UInt8} {bytes : Int}
    {stores : List (Nat × Nat)} :
    (checkOperation D operation entireLen buf bytes stores).stores = stores := by
  unfold checkOperation; dsimp only; split_ifs <;> rfl

/-- With `this_len > entire_len`, a first part that arrives whole is stored past the end of the
buffer of `entire_len` bytes: its `this_len` bytes go in at offset 0, and the loop for the rest
does not run. -/
theorem receivePayload_overrun {ok : Bool} {got : List UInt8} {c1 : Conn}
    (hlt : entireLen < thisLen) (hsmall : thisLen < 2 ^ 31)
    (hr : iphoneDeviceRecv c thisLen = (ok, got, c1)) (hlen : got.length = thisLen) :
    (receivePayload D operation entireLen thisLen c).1.alloc = some entireLen ∧
      (receivePayload D operation entireLen thisLen c).1.stores = [(0, thisLen)] := by
  have hfull : ¬ (asInt32 got.length ≤ 0 ∨ got.length < thisLen) := by
    rw [asInt32_of_lt (by omega)]; omega
  simp only [receivePayload, if_pos (show 0 < thisLen by omega), hr, if_neg hfull, finishPayload,
    receiveRest_done (show ¬ thisLen < entireLen by omega), checkOperation_alloc,
    checkOperation_stores, List.append_nil]
  exact ⟨trivial, by rw [hlen]⟩

/-- A data answer announcing 50 bytes in all and 60 in its first part: `afc_receive_data`
allocates 10 bytes and receives 20 into them. -/
theorem afcReceiveData_overruns_buffer :
    let client : AfcClient :=
      ⟨⟨[leEncodeHeader ⟨50, 60, 1, 0x02⟩ ++ List.replicate 20 7], [], []⟩, ⟨0, 0, 1, 0⟩, []⟩
    (afcReceiveData sampleDefs client).1.alloc = some 10 ∧
      (afcReceiveData sampleDefs client).1.stores = [(0, 20)] := by
  intro client
  rw [@afcReceiveData_of_recv sampleDefs client true ⟨50, 60, 1, 0x02⟩ ⟨[List.replicate 20 7], [], []⟩
    rfl, @receiveAfterHeader_payload sampleDefs _ ⟨50, 60, 1, 0x02⟩ _ rfl (by decide) (by decide)]
  exact receivePayload_overrun (by decide) (by decide)
    (show iphoneDeviceRecv _ 20 = (true, List.replicate 20 7, ⟨[], [], []⟩) from rfl) rfl

/-- A data answer whose first part arrives whole and whose next receive fails is a success: the
caller gets the first part alone, and a count short of `entire_len`. -/
theorem receivePayload_cut {ok ok' : Bool} {got : List UInt8} {c1 c2 : Conn}
    (hpos : 0 < thisLen) (hlt : thisLen < entireLen) (hsmall : entireLen < 2 ^ 31)
    (hr : iphoneDeviceRecv c thisLen = (ok, got, c1)) (hlen : got.length = thisLen)
    (hr' : iphoneDeviceRecv c1 (entireLen - thisLen) = (ok', [], c2)) :
    (receivePayload D D.opData entireLen thisLen c).1.ret = eSuccess ∧
      (receivePayload D D.opData entireLen thisLen c).1.dumpHere = some got ∧
      (receivePayload D D.opData entireLen thisLen c).1.bytes = thisLen := by
  have hfull : ¬ (asInt32 got.length ≤ 0 ∨ got.length < thisLen) := by
    rw [asInt32_of_lt (by omega)]; omega
  have hcut : receiveRest entireLen thisLen (asInt32 got.length) c1 = _ :=
    receiveRest_break hlt hr' (by simp)
  obtain ⟨h1, h2, h3⟩ := checkOperation_accepted entireLen 0 [(0, got.length), (thisLen, 0)]
    (show Accepted D D.opData got from .inl rfl)
  simp only [receivePayload, if_pos hpos, hr, if_neg hfull, finishPayload, hcut, List.append_nil,
    List.length_nil, asInt32_zero, List.singleton_append]
  rw [h1, h2, h3, hlen, asInt32_of_lt (by omega)]
  exact ⟨rfl, rfl, rfl⟩

/-- A data answer announcing 10 payload bytes, 5 of them in its first part, after which the
connection fails: `afc_receive_data` returns success with 5 bytes. -/
theorem afcReceiveData_truncated_success :
    let client : AfcClient :=
      ⟨⟨[leEncodeHeader ⟨50, 45, 1, 0x02⟩, [1, 2, 3, 4, 5], []], [], []⟩, ⟨0, 0, 1, 0⟩, []⟩
    (afcReceiveData sampleDefs client).1.ret = eSuccess ∧
      (afcReceiveData sampleDefs client).1.bytes = 5 ∧
      (afcReceiveData sampleDefs client).1.dumpHere = some [1, 2, 3, 4, 5] ∧
      lengthAfterHeader 50 = 10 := by
  intro client
  rw [@afcReceiveData_of_recv sampleDefs client true ⟨50, 45, 1, 0x02⟩ ⟨[[1, 2, 3, 4, 5], []], [], []⟩
    rfl, @receiveAfterHeader_payload sampleDefs _ ⟨50, 45, 1, 0x02⟩ _ rfl (by decide) (by decide)]
  obtain ⟨hret, hdump, hbytes⟩ := @receivePayload_cut sampleDefs 10 5
    ⟨[[1, 2, 3, 4, 5], []], [], []⟩ true false [1, 2, 3, 4, 5] ⟨[[]], [], []⟩ ⟨[], [], []⟩ (by decide) (by decide) (by decide) rfl rfl rfl
  exact ⟨hret, hbytes, hdump, rfl⟩

end Malformed

end Libiphone.AFC
