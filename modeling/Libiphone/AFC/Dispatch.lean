import Libiphone.AFC.Client

/-!
# Sending an AFC request

`afc_dispatch_packet` (`AFC.c`, lines 443-522) sends one request.  It numbers the client's
`AFCPacket`, fills in the lengths the caller left at 0, and sends the header and the data.  A
packet whose `this_length` differs from its `entire_length` goes out in three sends: the
header, the first `this_length - 40` bytes of data, the rest.  Any other goes out in two.  The
function returns the number of bytes sent, 0 when no byte of the header went out, and -1 when
`length` is shorter than the packet announces.  On the three-send path it returns the count of
the last send alone.

Every operation of the client prepares the packet with `withPacket` and then dispatches.  The
facts proved here are that a dispatch touches neither the receive side of the connection nor
the mutex, and `afcDispatchPacket_whole`: a one-packet request whose two sends go through puts
the header and the data on the wire and returns `40 + length`.
-/

namespace Libiphone.AFC

/-- What an operation does before `afc_dispatch_packet`: it sets the operation code and the two
lengths (both 0 for a request that goes out as one packet). -/
def withPacket (client : AfcClient) (operation entireLength thisLength : UInt64) : AfcClient :=
  { client with afcPacket :=
      { client.afcPacket with operation, entireLength, thisLength } }

@[simp] theorem withPacket_mutex (client : AfcClient) (operation entireLength thisLength : UInt64) :
    (withPacket client operation entireLength thisLength).mutex = client.mutex := rfl

@[simp] theorem withPacket_connection (client : AfcClient)
    (operation entireLength thisLength : UInt64) :
    (withPacket client operation entireLength thisLength).connection = client.connection := rfl

/-- `(length) ? sizeof(AFCPacket) + length : sizeof(AFCPacket)` (line 458). -/
def packetLength (length : UInt64) : UInt64 := if length ≠ 0 then 40 + length else 40

/-- Lines 457-460: a zero `entire_length` becomes `packetLength length`, and so does
`this_length`. -/
def fillEntireLength (p : AFCPacket) (length : UInt64) : AFCPacket :=
  if p.entireLength = 0 then
    { p with entireLength := packetLength length, thisLength := packetLength length }
  else p

/-- Lines 461-463: a zero `this_length` becomes 40. -/
def fillThisLength (p : AFCPacket) : AFCPacket :=
  if p.thisLength = 0 then { p with thisLength := 40 } else p

/-- The header `afc_dispatch_packet` sends, and leaves in the client (lines 455-463). -/
def dispatchHeader (p : AFCPacket) (length : UInt64) : AFCPacket :=
  fillThisLength (fillEntireLength { p with packetNum := p.packetNum + 1 } length)

/-- Lines 467-497: the header, then `offset = this_length - 40` bytes of `data`, then the
rest; the count returned is the last send's alone.  Every caller that takes this path sets
`this_length` to 48 and passes at least 8 bytes, so `offset` is 8 and lies inside `data`. -/
def dispatchSplit (D : AfcDefs) (header : AFCPacket) (data : List UInt8) (c : Conn) :
    Int × Conn :=
  if UInt64.ofNat data.length < header.entireLength - header.thisLength then (-1, c)
  else
    match iphoneDeviceSend c (D.encodeHeader header) with
    | (_, sent, c) =>
      if sent = 0 then (0, c)
      else
        match iphoneDeviceSend c (data.take (header.thisLength.toNat - 40)) with
        | (_, sent', c) =>
          if sent' = 0 then (asInt32 sent, c)
          else
            match iphoneDeviceSend c (data.drop (header.thisLength.toNat - 40)) with
            | (_, sent'', c) => (asInt32 sent'', c)

/-- Lines 498-518: the header, then all of `data` if there is any. -/
def dispatchWhole (D : AfcDefs) (header : AFCPacket) (data : List UInt8) (c : Conn) :
    Int × Conn :=
  match iphoneDeviceSend c (D.encodeHeader header) with
  | (_, sent, c) =>
    if sent = 0 then (0, c)
    else if 0 < data.length then
      match iphoneDeviceSend c data with
      | (_, sent', c) => (asInt32 (sent + sent'), c)
    else (asInt32 sent, c)

/-- Line 467: two packets when the lengths differ, one otherwise. -/
def dispatchSend (D : AfcDefs) (header : AFCPacket) (data : List UInt8) (c : Conn) : Int × Conn :=
  if header.thisLength ≠ header.entireLength then dispatchSplit D header data c
  else dispatchWhole D header data c

/-- `afc_dispatch_packet(client, data, length)` (lines 443-522), `data` being the `length` bytes
the caller passes.  The client and its packet are never NULL in the model, so the first check
never fires. -/
@[irreducible] def afcDispatchPacket (D : AfcDefs) (client : AfcClient) (data : List UInt8) :
    Int × AfcClient :=
  match dispatchSend D (dispatchHeader client.afcPacket (UInt64.ofNat data.length)) data
      client.connection with
  | (bytes, c) =>
    (bytes, { client with
      connection := c, afcPacket := dispatchHeader client.afcPacket (UInt64.ofNat data.length) })

/-! ## What a dispatch leaves alone -/

section Frame

variable {D : AfcDefs} {header : AFCPacket} {data : List UInt8}

theorem dispatchSplit_inbound (c : Conn) :
    (dispatchSplit D header data c).2.inbound = c.inbound := by
  unfold dispatchSplit
  dsimp only
  split_ifs <;> rfl

theorem dispatchWhole_inbound (c : Conn) :
    (dispatchWhole D header data c).2.inbound = c.inbound := by
  unfold dispatchWhole
  dsimp only
  split_ifs <;> rfl

@[simp] theorem afcDispatchPacket_mutex (client : AfcClient) :
    (afcDispatchPacket D client data).2.mutex = client.mutex := by
  unfold afcDispatchPacket; split; rfl

@[simp] theorem afcDispatchPacket_afcPacket (client : AfcClient) :
    (afcDispatchPacket D client data).2.afcPacket =
      dispatchHeader client.afcPacket (UInt64.ofNat data.length) := by
  unfold afcDispatchPacket; split; rfl

/-- Sends never touch what the coming receives will be handed. -/
@[simp] theorem afcDispatchPacket_inbound (client : AfcClient) :
    (afcDispatchPacket D client data).2.connection.inbound = client.connection.inbound := by
  unfold afcDispatchPacket
  split
  rename_i heq
  rw [← congrArg (·.2.inbound) heq]
  unfold dispatchSend
  split_ifs
  · exact dispatchSplit_inbound _
  · exact dispatchWhole_inbound _

@[simp] theorem afcDispatchPacket_size (client : AfcClient) :
    (afcDispatchPacket D client data).2.connection.size = client.connection.size := by
  simp only [Conn.size, afcDispatchPacket_inbound]

end Frame

/-! ## A request that goes out whole -/

theorem toNat_packetLength {n : Nat} (hn : 0 < n) (h : n + 40 < 2 ^ 64) :
    (packetLength (UInt64.ofNat n)).toNat = 40 + n := by
  have hof : (UInt64.ofNat n).toNat = n := UInt64.toNat_ofNat_of_lt (by unfold UInt64.size; omega)
  have hne : UInt64.ofNat n ≠ 0 := fun h0 => by rw [h0] at hof; simp at hof; omega
  rw [packetLength, if_pos hne]
  show ((40 : UInt64).val + (UInt64.ofNat n).val).val = _
  rw [Fin.val_add]
  show (40 + (UInt64.ofNat n).toNat) % _ = _
  rw [hof]
  exact Nat.mod_eq_of_lt (by unfold UInt64.size; omega)

/-- The header of a one-packet request with `n` bytes of data, when no length wraps. -/
theorem dispatchHeader_zero {p : AFCPacket} {n : Nat} (h0 : p.entireLength = 0) (hn : 0 < n)
    (h : n + 40 < 2 ^ 64) :
    dispatchHeader p (UInt64.ofNat n) =
      { p with packetNum := p.packetNum + 1, entireLength := packetLength (UInt64.ofNat n),
               thisLength := packetLength (UInt64.ofNat n) } := by
  have hne : packetLength (UInt64.ofNat n) ≠ 0 := fun h0' => by
    have := toNat_packetLength hn h; rw [h0'] at this; simp at this; omega
  simp [dispatchHeader, fillEntireLength, fillThisLength, h0, hne]

/-- A one-packet request whose header and data each go out in one send puts both on the wire
and returns `40 + length`. -/
theorem afcDispatchPacket_whole {D : AfcDefs} {client : AfcClient} {data : List UInt8}
    (h0 : client.afcPacket.entireLength = 0) (hn : 0 < data.length) (h : data.length + 40 < 2 ^ 31)
    (hcap : 40 ≤ client.connection.sendCaps.headD 0)
    (hcap' : data.length ≤ client.connection.sendCaps.tail.headD 0) :
    afcDispatchPacket D client data =
      (40 + (data.length : Int),
        { client with
          connection := { client.connection with
            sendCaps := client.connection.sendCaps.tail.tail,
            wire := client.connection.wire ++
              D.encodeHeader (dispatchHeader client.afcPacket (UInt64.ofNat data.length)) ++ data },
          afcPacket := dispatchHeader client.afcPacket (UInt64.ofNat data.length) }) := by
  have hhdr := dispatchHeader_zero (p := client.afcPacket) h0 hn (by omega)
  have hsend : dispatchSend D (dispatchHeader client.afcPacket (UInt64.ofNat data.length)) data
      client.connection = dispatchWhole D (dispatchHeader client.afcPacket
        (UInt64.ofNat data.length)) data client.connection := by
    rw [dispatchSend, if_neg (by rw [hhdr]; exact not_not.mpr rfl)]
  have h1 := send_all client.connection
    (D.encodeHeader (dispatchHeader client.afcPacket (UInt64.ofNat data.length)))
    (by rw [D.length_encodeHeader]; exact hcap)
  rw [D.length_encodeHeader] at h1
  have h2 := send_all { client.connection with
      sendCaps := client.connection.sendCaps.tail,
      wire := client.connection.wire ++
        D.encodeHeader (dispatchHeader client.afcPacket (UInt64.ofNat data.length)) } data hcap'
  simp only [afcDispatchPacket, hsend, dispatchWhole, h1, hn, h2, if_true,
    show (40 : Nat) ≠ 0 by omega, if_false]
  rw [asInt32_of_lt (by omega)]
  push_cast
  rfl

/-! ## A write packet that goes out whole -/

/-- The header of an `AFC_OP_WRITE` packet carrying a chunk of `size` bytes, numbered
`packetNum`. -/
def writeHeader (D : AfcDefs) (packetNum : UInt64) (size : Nat) : AFCPacket :=
  ⟨48 + UInt64.ofNat size, 48, packetNum, D.opWrite⟩

/-- The client once the write packet carrying `chunk` has gone out whole. -/
def afterWrite (D : AfcDefs) (client : AfcClient) (handle : UInt64) (chunk : List UInt8) :
    AfcClient :=
  { client with
    connection := { client.connection with
      sendCaps := client.connection.sendCaps.drop 3,
      wire := client.connection.wire ++
        D.encodeHeader (writeHeader D (client.afcPacket.packetNum + 1) chunk.length) ++
        u64Bytes handle ++ chunk },
    afcPacket := writeHeader D (client.afcPacket.packetNum + 1) chunk.length }

@[simp] theorem afterWrite_mutex (D : AfcDefs) (client : AfcClient) (handle : UInt64)
    (chunk : List UInt8) : (afterWrite D client handle chunk).mutex = client.mutex := rfl

@[simp] theorem afterWrite_inbound (D : AfcDefs) (client : AfcClient) (handle : UInt64)
    (chunk : List UInt8) :
    (afterWrite D client handle chunk).connection.inbound = client.connection.inbound := rfl

theorem afterWrite_lock (D : AfcDefs) (client : AfcClient) (handle : UInt64) (chunk : List UInt8) :
    afterWrite D (afcLock client) handle chunk = afcLock (afterWrite D client handle chunk) := rfl

theorem drop_three (caps : List Nat) : caps.drop 3 = caps.tail.tail.tail := by
  rcases caps with _ | ⟨_, _ | ⟨_, _ | ⟨_, _⟩⟩⟩ <;> rfl

/-- A write packet whose three sends each go through (lines 465-497) puts its header, the handle
and the chunk on the wire, and returns the count of the chunk's send. -/
theorem afcDispatchPacket_write {D : AfcDefs} {client : AfcClient} {handle : UInt64}
    {chunk : List UInt8} (hpos : 0 < chunk.length) (hsmall : chunk.length < 2 ^ 31)
    (hcaps : CapsCover [40, 8, chunk.length] client.connection.sendCaps) :
    afcDispatchPacket D (withPacket client D.opWrite (48 + UInt64.ofNat chunk.length) 48)
        (u64Bytes handle ++ chunk) =
      ((chunk.length : Int), afterWrite D client handle chunk) := by
  obtain ⟨h1, h2, h3, -⟩ := hcaps
  have hof : (UInt64.ofNat chunk.length).toNat = chunk.length :=
    UInt64.toNat_ofNat_of_lt (by unfold UInt64.size; omega)
  have hsum : ((48 : UInt64) + UInt64.ofNat chunk.length).toNat = 48 + chunk.length := by
    rw [UInt64.toNat_add, hof, show (48 : UInt64).toNat = 48 from rfl]
    exact Nat.mod_eq_of_lt (by unfold UInt64.size; omega)
  have hE : (48 : UInt64) + UInt64.ofNat chunk.length ≠ 0 := fun h0 => by
    rw [h0, show (0 : UInt64).toNat = 0 from rfl] at hsum
    omega
  have hhdr :
      dispatchHeader (withPacket client D.opWrite (48 + UInt64.ofNat chunk.length) 48).afcPacket
        (UInt64.ofNat (u64Bytes handle ++ chunk).length) =
      writeHeader D (client.afcPacket.packetNum + 1) chunk.length := by
    simp only [dispatchHeader, fillEntireLength, fillThisLength, withPacket, if_neg hE,
      show (48 : UInt64) ≠ 0 by decide, if_false]
    rfl
  have hne : ¬ (48 : UInt64) = 48 + UInt64.ofNat chunk.length := fun h => by
    rw [← h, show (48 : UInt64).toNat = 48 from rfl] at hsum
    omega
  have hlen : ¬ UInt64.ofNat (u64Bytes handle ++ chunk).length <
      48 + UInt64.ofNat chunk.length - 48 := by
    rw [add_sub_cancel_left, UInt64.lt_def, BitVec.lt_def,
      UInt64.toBitVec_eq_of_lt (by simp [u64Bytes, length_leBytes, UInt64.size]; omega),
      UInt64.toBitVec_eq_of_lt (by unfold UInt64.size; omega)]
    simp [u64Bytes, length_leBytes]
  have h8 : (48 : UInt64).toNat - 40 = (u64Bytes handle).length := by
    rw [u64Bytes, length_leBytes]; rfl
  have hs1 := send_all client.connection
    (D.encodeHeader (writeHeader D (client.afcPacket.packetNum + 1) chunk.length))
    (by rw [D.length_encodeHeader]; exact h1)
  rw [D.length_encodeHeader] at hs1
  have hs2 := send_all { client.connection with
      sendCaps := client.connection.sendCaps.tail,
      wire := client.connection.wire ++
        D.encodeHeader (writeHeader D (client.afcPacket.packetNum + 1) chunk.length) }
    (u64Bytes handle) (by rw [u64Bytes, length_leBytes]; exact h2)
  have hs3 := send_all { client.connection with
      sendCaps := client.connection.sendCaps.tail.tail,
      wire := client.connection.wire ++
        D.encodeHeader (writeHeader D (client.afcPacket.packetNum + 1) chunk.length) ++
          u64Bytes handle } chunk h3
  dsimp only [writeHeader] at hs1 hs2 hs3 hhdr
  simp only [afcDispatchPacket, hhdr, dispatchSend, ne_eq, hne, not_false_eq_true, if_true,
    dispatchSplit, hlen, if_false, h8, List.take_left', List.drop_left', withPacket_connection, hs1,
    hs2, hs3, show (40 : Nat) ≠ 0 by omega, show (u64Bytes handle).length ≠ 0 by
      rw [u64Bytes, length_leBytes]; omega, asInt32_of_lt hsmall]
  rw [afterWrite, drop_three]
  rfl

@[simp] theorem dispatchHeader_packetNum (p : AFCPacket) (length : UInt64) :
    (dispatchHeader p length).packetNum = p.packetNum + 1 := by
  simp only [dispatchHeader, fillThisLength, fillEntireLength]
  split_ifs <;> rfl

/-- A request without data goes out in one send of its 40-byte header, so the count
`afc_dispatch_packet` returns for it is never negative. -/
theorem afcDispatchPacket_nil_nonneg {D : AfcDefs} (client : AfcClient)
    (h0 : client.afcPacket.entireLength = 0) : 0 ≤ (afcDispatchPacket D client []).1 := by
  have hhdr : (dispatchHeader client.afcPacket (UInt64.ofNat 0)).thisLength =
      (dispatchHeader client.afcPacket (UInt64.ofNat 0)).entireLength := by
    simp [dispatchHeader, fillEntireLength, fillThisLength, h0, packetLength]
  simp only [afcDispatchPacket, List.length_nil, dispatchSend, hhdr, ne_eq, not_true_eq_false,
    if_false, dispatchWhole, iphoneDeviceSend, D.length_encodeHeader, lt_self_iff_false]
  split_ifs
  · exact le_rfl
  · show 0 ≤ asInt32 _
    rw [asInt32_of_lt (lt_of_le_of_lt (min_le_right _ _) (by norm_num))]
    exact Int.natCast_nonneg _

end Libiphone.AFC
