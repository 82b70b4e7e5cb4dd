import Libiphone.AFC.Operations

/-!
# One request and its answer

Every operation of `AFC.c` but `afc_file_read` and `afc_file_write` sends one request and reads
one answer.  This module says what such an exchange does on a connection that carries it
(`Carries`): the sends of the request go through, no receive fails, and the answer's header and
first part each arrive in one receive.  What the device answers is left open: any operation code,
any status.

* `afcReceiveData_complete`: an answer that carries the packet number the client waits for, and
  the payload its lengths announce, is read to its end.  The call returns `Frame.code`, the code
  the frame stands for, and the next answer is then first in the stream.  An answer with another
  number leaves its payload behind (`afcReceiveData_stale`).
* `afcDispatchPacket_request`: a request with `n` bytes of data puts the header `requestHeader`,
  numbered one past the client's last, and then the data on the wire.
* `dispatch_receive`: the two together, on the locked client, as every such operation does them,
  leave the client as `Exchanged` says; `afcRequest_exchange` is the shared body of the nine
  simple operations.
-/

namespace Libiphone.AFC

/-! ## Answers read to their end -/

/-- An answer to the request numbered `packetNum` whose lengths hold together: `this_length` lies
between 40 and `entire_length`, which fits the `uint32_t` it is read into, and the payload is as
long as `entire_length` announces.  Unlike `Frame.WellFormed`, it may carry any operation code
and any status. -/
structure Frame.Complete (packetNum : UInt64) (f : Frame) : Prop where
  packetNum_eq : f.header.packetNum = packetNum
  thisLength_ge : 40 ≤ f.header.thisLength.toNat
  thisLength_le : f.header.thisLength.toNat ≤ f.header.entireLength.toNat
  entireLength_lt : f.header.entireLength.toNat < 2 ^ 32
  payload_length : f.payload.length = f.header.entireLength.toNat - 40

instance (packetNum : UInt64) (f : Frame) : Decidable (f.Complete packetNum) :=
  decidable_of_iff (f.header.packetNum = packetNum ∧ 40 ≤ f.header.thisLength.toNat ∧
      f.header.thisLength.toNat ≤ f.header.entireLength.toNat ∧
      f.header.entireLength.toNat < 2 ^ 32 ∧ f.payload.length = f.header.entireLength.toNat - 40)
    ⟨fun ⟨h1, h2, h3, h4, h5⟩ => ⟨h1, h2, h3, h4, h5⟩,
      fun ⟨h1, h2, h3, h4, h5⟩ => ⟨h1, h2, h3, h4, h5⟩⟩

/-- The code `afc_receive_data` returns for an answer it has read to its end (lines 574-670): for
an empty answer, success if it is data and `AFC_E_IO_ERROR` otherwise; for any other, what the
operation check makes of its payload. -/
def Frame.code (D : AfcDefs) (f : Frame) : Int :=
  if f.header.thisLength = f.header.entireLength ∧ f.header.entireLength.toNat = 40 then
    if f.header.operation = D.opData then eSuccess else D.eIoError
  else (checkOperation D f.header.operation f.payload.length f.payload 0 []).ret

section Answer

variable {D : AfcDefs}

/-- The operation check returns a code that depends on the operation and the payload alone. -/
theorem checkOperation_ret (operation : UInt64) (buf : List UInt8) {entireLen entireLen' : Nat}
    {bytes bytes' : Int} {stores stores' : List (Nat × Nat)} :
    (checkOperation D operation entireLen buf bytes stores).ret =
      (checkOperation D operation entireLen' buf bytes' stores').ret := by
  unfold checkOperation; dsimp only; split_ifs <;> rfl

/-- The checks after the header of a complete answer, on a connection holding its payload whose
first part arrives in one receive, read the payload to its end and return the answer's code. -/
theorem receiveAfterHeader_complete {packetNum : UInt64} {f : Frame} {rest : List UInt8}
    {c : Conn} (hf : f.Complete packetNum) (hsmall : f.payload.length < 2 ^ 31)
    (hpend : c.pending = f.payload ++ rest) (hrel : c.Reliable)
    (hfirst : c.Whole 0 (f.header.thisLength.toNat - 40)) :
    (receiveAfterHeader D packetNum f.header c).1.ret = f.code D ∧
      c.After f.payload.length (receiveAfterHeader D packetNum f.header c).2 := by
  simp only [receiveAfterHeader, hf.packetNum_eq, ne_eq, not_true_eq_false, if_false,
    show ¬ f.header.thisLength.toNat < 40 by have := hf.thisLength_ge; omega]
  by_cases hempty : f.header.thisLength = f.header.entireLength ∧ f.header.entireLength.toNat = 40
  · have hnil : f.payload = [] := List.eq_nil_of_length_eq_zero (by rw [hf.payload_length]; omega)
    simp only [if_pos hempty, Frame.code, Received.early, hnil, List.length_nil]
    exact ⟨trivial, Conn.After.refl c⟩
  · have hE := lengthAfterHeader_of (le_trans hf.thisLength_ge hf.thisLength_le)
      hf.entireLength_lt
    have hT := lengthAfterHeader_of hf.thisLength_ge
      (lt_of_le_of_lt hf.thisLength_le hf.entireLength_lt)
    obtain ⟨b, st, hr, hafter⟩ := receivePayload_whole (D := D) f.header.operation
      (f.header.thisLength.toNat - 40) (by have := hf.thisLength_le; omega)
      hf.payload_length (by rw [← hf.payload_length]; exact hsmall) hpend hrel hfirst
    simp only [if_neg hempty, hE, hT, Frame.code]
    rw [hr, hf.payload_length]
    exact ⟨checkOperation_ret _ _, hafter⟩

/-- A complete answer, whose header and first part each arrive in one receive on a connection
where no receive fails, is read to its end: the call returns the answer's code and consumes
exactly the frame. -/
theorem afcReceiveData_complete {client : AfcClient} {f : Frame} {rest : List UInt8}
    (hf : f.Complete client.afcPacket.packetNum) (hsmall : f.payload.length < 2 ^ 31)
    (hpend : client.connection.pending = f.bytes D ++ rest)
    (hrel : client.connection.Reliable) (hhead : client.connection.Whole 0 40)
    (hfirst : client.connection.Whole 40 f.header.thisLength.toNat) :
    (afcReceiveData D client).1.ret = f.code D ∧
      client.connection.After (f.bytes D).length (afcReceiveData D client).2.connection := by
  obtain ⟨c1, hafter, heq⟩ := afcReceiveData_header
    (show client.connection.pending = D.encodeHeader f.header ++ (f.payload ++ rest) by
      rw [hpend, Frame.bytes, List.append_assoc]) hrel hhead
  have hpend1 : c1.pending = f.payload ++ rest := by
    rw [hafter.pending, hpend, Frame.bytes, List.append_assoc,
      List.drop_left' (D.length_encodeHeader _)]
  have hT40 : f.header.thisLength.toNat - 40 + 40 = f.header.thisLength.toNat := by
    have := hf.thisLength_ge; omega
  obtain ⟨h1, hafter2⟩ := receiveAfterHeader_complete hf hsmall hpend1
    (hafter.reliable hrel) (hafter.whole (by rwa [hT40]))
  rw [heq, Frame.length_bytes]
  exact ⟨h1, hafter.trans hafter2⟩

end Answer

/-! ## Requests sent whole -/

/-- The header of a request sent as one packet with `n` bytes of data, numbered `packetNum`:
`afc_dispatch_packet` sets both lengths of a packet whose lengths are 0 to `packetLength n`
(lines 457-460). -/
def requestHeader (packetNum operation : UInt64) (n : Nat) : AFCPacket :=
  ⟨packetLength (UInt64.ofNat n), packetLength (UInt64.ofNat n), packetNum, operation⟩

/-- The sends of such a request: the header, then the data if there is any (lines 505-512). -/
def requestSends (payload : List UInt8) : List Nat :=
  if payload = [] then [40] else [40, payload.length]

/-- The bytes of such a request on the wire. -/
def requestBytes (D : AfcDefs) (packetNum operation : UInt64) (payload : List UInt8) :
    List UInt8 :=
  D.encodeHeader (requestHeader packetNum operation payload.length) ++ payload

/-- The client once its request has gone out whole. -/
def sentRequest (D : AfcDefs) (client : AfcClient) (operation : UInt64) (payload : List UInt8) :
    AfcClient :=
  { client with
    connection := { client.connection with
      sendCaps := client.connection.sendCaps.drop (requestSends payload).length,
      wire := client.connection.wire ++
        requestBytes D (client.afcPacket.packetNum + 1) operation payload },
    afcPacket := requestHeader (client.afcPacket.packetNum + 1) operation payload.length }

theorem packetLength_ne_zero {n : Nat} (h : n + 40 < 2 ^ 64) : packetLength (UInt64.ofNat n) ≠ 0 := by
  rcases Nat.eq_zero_or_pos n with rfl | hn
  · decide
  · intro h0
    have h40 := toNat_packetLength hn h
    rw [h0, show (0 : UInt64).toNat = 0 from rfl] at h40
    omega

theorem dispatchHeader_request (client : AfcClient) (operation : UInt64) (n : Nat)
    (h : n + 40 < 2 ^ 64) :
    dispatchHeader (withPacket client operation 0 0).afcPacket (UInt64.ofNat n) =
      requestHeader (client.afcPacket.packetNum + 1) operation n := by
  simp [dispatchHeader, fillEntireLength, fillThisLength, withPacket, packetLength_ne_zero h,
    requestHeader]

/-- A request with data of fewer than `2 ^ 31 - 40` bytes, on a packet whose lengths are 0, whose
sends all go through, puts its header and its data on the wire and returns `40 + length`. -/
theorem afcDispatchPacket_request {D : AfcDefs} (client : AfcClient) {operation : UInt64}
    {payload : List UInt8} (h : payload.length + 40 < 2 ^ 31)
    (hcaps : CapsCover (requestSends payload) client.connection.sendCaps) :
    afcDispatchPacket D (withPacket client operation 0 0) payload =
      (40 + (payload.length : Int), sentRequest D client operation payload) := by
  have hhdr := dispatchHeader_request client operation payload.length (by omega)
  rcases eq_or_ne payload [] with rfl | hne
  · obtain ⟨hcap, -⟩ := hcaps
    have hsend := send_all client.connection
      (D.encodeHeader (requestHeader (client.afcPacket.packetNum + 1) operation 0))
      (by rw [D.length_encodeHeader]; exact hcap)
    rw [D.length_encodeHeader] at hsend
    simp only [List.length_nil] at hhdr
    simp only [afcDispatchPacket, List.length_nil, hhdr, dispatchSend, requestHeader, ne_eq,
      not_true_eq_false, if_false, dispatchWhole, withPacket_connection]
    rw [← requestHeader, hsend]
    simp only [show (40 : Nat) ≠ 0 by omega, lt_self_iff_false, if_false, asInt32_of_lt
      (show 40 < 2 ^ 31 by omega), sentRequest, requestSends, requestBytes, if_true,
      List.length_singleton, List.drop_one, List.append_nil, List.length_nil, Nat.cast_zero,
      add_zero, Nat.cast_ofNat]
    rfl
  · obtain ⟨hcap, hcap', -⟩ := (show CapsCover [40, payload.length] client.connection.sendCaps by
      simpa [requestSends, hne] using hcaps)
    rw [@afcDispatchPacket_whole D (withPacket client operation 0 0) payload rfl
      (List.length_pos.mpr hne) (by omega) hcap hcap', hhdr]
    simp only [sentRequest, requestSends, if_neg hne, List.length_cons, List.length_nil,
      ← List.tail_drop, List.drop_one, requestBytes, List.append_assoc]
    rfl

/-! ## The exchange -/

/-- The connection of `client` carries a request with `payload` and its answer `f`, followed by
`rest`: every send of the request goes through, no receive fails, `f` answers the request and is
first in the stream, and its header and first part each arrive in one receive. -/
structure Carries (D : AfcDefs) (client : AfcClient) (payload : List UInt8) (f : Frame)
    (rest : List UInt8) : Prop where
  size_lt : payload.length + 40 < 2 ^ 31
  caps : CapsCover (requestSends payload) client.connection.sendCaps
  complete : f.Complete (client.afcPacket.packetNum + 1)
  payload_lt : f.payload.length < 2 ^ 31
  pending : client.connection.pending = f.bytes D ++ rest
  reliable : client.connection.Reliable
  head : client.connection.Whole 0 40
  first : client.connection.Whole 40 f.header.thisLength.toNat

/-- What an exchange leaves: the request on the wire and the answer consumed, the request's packet
in the client, and the mutex locked and unlocked once. -/
structure Exchanged (D : AfcDefs) (client : AfcClient) (operation : UInt64) (payload : List UInt8)
    (f : Frame) (client' : AfcClient) : Prop where
  connection : (sentRequest D client operation payload).connection.After (f.bytes D).length
    client'.connection
  afcPacket : client'.afcPacket =
    requestHeader (client.afcPacket.packetNum + 1) operation payload.length
  mutex : client'.mutex = client.mutex ++ [.lock, .unlock]

section Exchange

variable {D : AfcDefs} {client : AfcClient} {operation : UInt64} {payload : List UInt8} {f : Frame}
  {rest : List UInt8}

/-- The dispatch and the receive of an operation, on the client it has locked: the dispatch
returns `40 + length`, the receive the answer's code, and once unlocked the client is left as
`Exchanged` says. -/
theorem dispatch_receive (operation : UInt64) (h : Carries D client payload f rest) :
    ∃ c r c', afcDispatchPacket D (withPacket (afcLock client) operation 0 0) payload =
        (40 + (payload.length : Int), c) ∧ afcReceiveData D c = (r, c') ∧ r.ret = f.code D ∧
      Exchanged D client operation payload f (afcUnlock c') := by
  rw [afcDispatchPacket_request (afcLock client) h.size_lt h.caps]
  have hin : (sentRequest D (afcLock client) operation payload).connection.inbound =
      client.connection.inbound := rfl
  obtain ⟨hret, hafter⟩ := @afcReceiveData_complete D (sentRequest D (afcLock client)
    operation payload) f rest h.complete h.payload_lt ((Conn.pending_of_inbound hin).trans h.pending)
    (h.reliable.of_inbound hin) (h.head.of_inbound hin) (h.first.of_inbound hin)
  exact ⟨_, _, _, rfl, rfl, hret, hafter, by simp [sentRequest], by simp [sentRequest]⟩

/-- The shared body of the nine simple operations returns the answer's code, whatever the code
it returns on a failed dispatch. -/
theorem afcRequest_exchange (failCode : Int) (h : Carries D client payload f rest) :
    (afcRequest D operation payload failCode client).1 = f.code D ∧
      Exchanged D client operation payload f (afcRequest D operation payload failCode client).2 := by
  obtain ⟨c, r, c', hd, hr, hret, hex⟩ := dispatch_receive operation h
  simp only [afcRequest, hd, hr, show ¬ (40 + (payload.length : Int) ≤ 0) by omega, if_false]
  exact ⟨hret, hex⟩

end Exchange

end Libiphone.AFC
