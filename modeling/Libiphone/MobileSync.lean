import Libiphone.Connection

/-!
# MobileSync framing

`mobilesync_send` (`MobileSync.c`, lines 705-733) sends a binary plist as one frame: its length
as a big-endian `uint32_t`, then its bytes, in one `iphone_device_send`.  `mobilesync_recv`
(lines 659-693) reads the frame back: the 4-byte length in one `iphone_device_recv`, then the
body in a loop of receives until `datalen` bytes are in or a receive fails, and hands what it got
to `plist_from_bin`.  The plist codec is libplist's and not modelled: the model takes the bytes
`plist_to_bin` produced, and returns the bytes `plist_from_bin` is handed.

The count of the first receive is never looked at.  When it gets fewer than 4 bytes, the
missing bytes of `datalen` keep their initial 0, and the call goes on with that length.  The
facts proved here:

* `receiveBody_reliable`: on a connection where no receive fails, the body loop reads exactly
  `datalen` bytes, however they are chunked;
* `mobilesyncSend_all` and `mobilesyncRecv_frame`: a frame sent whole, whose 4-byte length
  arrives in one receive, comes back whole;
* a frame whose length is split across two receives is handed over as an empty body.
-/

namespace Libiphone.MobileSync

/-- `MOBILESYNC_E_SUCCESS`, which `mobilesync_recv` also compares the result of
`iphone_device_recv` with: both mean 0. -/
def eSuccess : Int := 0

/-- The other return codes `mobilesync_recv` and `mobilesync_send` use, from `MobileSync.h`,
which is not among the sources; each differs from success. -/
structure MobileSyncDefs where
  eInvalidArg : Int
  eMuxError : Int
  eInvalidArg_ne : eInvalidArg ≠ eSuccess
  eMuxError_ne : eMuxError ≠ eSuccess

/-- `struct mobilesync_client_int`: its connection. -/
structure MobileSyncClient where
  connection : Conn

variable (M : MobileSyncDefs)

/-! ## Sending -/

/-- The bytes `mobilesync_send` sends for the `plist_to_bin` output `content`: the length as a
big-endian `uint32_t`, and that many bytes of `content`. -/
def frame (content : List UInt8) : List UInt8 :=
  beBytes 4 (content.length % 2 ^ 32) ++ content.take (content.length % 2 ^ 32)

/-- `mobilesync_send(client, plist)` (lines 705-733), `plist` given by its `plist_to_bin`
output, or NULL. -/
def mobilesyncSend (client : MobileSyncClient) (plist : Option (List UInt8)) :
    Int × MobileSyncClient :=
  match plist with
  | none => (M.eInvalidArg, client)
  | some content =>
    match iphoneDeviceSend client.connection (frame content) with
    | (ok, _, c) => (if ok then eSuccess else M.eMuxError, ⟨c⟩)

/-- A frame shorter than `2 ^ 32` bytes is its length and then all of it. -/
theorem frame_of_lt {content : List UInt8} (h : content.length < 2 ^ 32) :
    frame content = beBytes 4 content.length ++ content := by
  rw [frame, Nat.mod_eq_of_lt h, List.take_length]

/-- A frame the connection takes in one send goes out whole, and the call succeeds. -/
theorem mobilesyncSend_all {client : MobileSyncClient} {content : List UInt8}
    (h : (frame content).length ≤ client.connection.sendCaps.headD 0) :
    mobilesyncSend M client (some content) =
      (eSuccess, ⟨{ client.connection with
        sendCaps := client.connection.sendCaps.tail,
        wire := client.connection.wire ++ frame content }⟩) := by
  simp only [mobilesyncSend, send_all _ _ h, if_true]

/-- A send never touches what the coming receives will be handed. -/
@[simp] theorem mobilesyncSend_inbound (client : MobileSyncClient) (plist : Option (List UInt8)) :
    (mobilesyncSend M client plist).2.connection.inbound = client.connection.inbound := by
  cases plist <;> rfl

/-! ## Receiving -/

/-- The body loop of `mobilesync_recv` (lines 673-676): while `received_bytes < datalen` and the
last receive succeeded, receive what is missing.  It returns whether the last receive
succeeded, the bytes received, and the connection. -/
def receiveBody (datalen receivedBytes : Nat) (ok : Bool) (c : Conn) :
    Bool × List UInt8 × Conn :=
  if h : receivedBytes < datalen ∧ ok = true then
    match hr : iphoneDeviceRecv c (datalen - receivedBytes) with
    | (ok', got, c') =>
      have : datalen - (receivedBytes + got.length) + (if ok' then 1 else 0) <
          datalen - receivedBytes + (if ok then 1 else 0) := by
        have hle := (recv_spec hr).1
        obtain ⟨hlt, rfl⟩ := h
        cases ok' with
        | false => simp only [Bool.false_eq_true, if_false, if_true]; omega
        | true =>
          have hpos := recv_ok_length (c := c) (show 0 < datalen - receivedBytes by omega)
          rw [hr] at hpos
          have := hpos rfl
          simp only [if_true] at this ⊢
          omega
      match receiveBody datalen (receivedBytes + got.length) ok' c' with
      | (ok'', body, c'') => (ok'', got ++ body, c'')
  else (ok, [], c)
termination_by datalen - receivedBytes + (if ok then 1 else 0)

/-- `ntohl(datalen)` once the first receive has written `got` over the four zero bytes of
`datalen`. -/
def prefixLength (got : List UInt8) : Nat := ofBeBytes (got ++ List.replicate (4 - got.length) 0)

/-- What `mobilesync_recv` returns, and the bytes it hands to `plist_from_bin`, if it calls it. -/
structure Received where
  ret : Int
  handed : Option (List UInt8)

/-- `mobilesync_recv(client, plist)` (lines 659-693); `plist` is NULL, or points at a plist that
must be NULL. -/
def mobilesyncRecv (client : MobileSyncClient) (plist : Option (Option (List UInt8))) :
    Received × MobileSyncClient :=
  match plist with
  | some none =>
    match iphoneDeviceRecv client.connection 4 with
    | (ok, got, c) =>
      match receiveBody (prefixLength got) 0 ok c with
      | (ok', body, c') => if ok' then (⟨eSuccess, some body⟩, ⟨c'⟩) else (⟨M.eMuxError, none⟩, ⟨c'⟩)
  | _ => (⟨M.eInvalidArg, none⟩, client)

section Body

variable {datalen receivedBytes : Nat} {ok : Bool} {c : Conn}

theorem receiveBody_stop (h : ¬ (receivedBytes < datalen ∧ ok = true)) :
    receiveBody datalen receivedBytes ok c = (ok, [], c) := by
  rw [receiveBody, dif_neg h]

theorem receiveBody_next {ok' : Bool} {got : List UInt8} {c' : Conn}
    (h : receivedBytes < datalen ∧ ok = true)
    (hr : iphoneDeviceRecv c (datalen - receivedBytes) = (ok', got, c')) :
    receiveBody datalen receivedBytes ok c =
      let r := receiveBody datalen (receivedBytes + got.length) ok' c'
      (r.1, got ++ r.2.1, r.2.2) := by
  rw [receiveBody, dif_pos h]
  split
  rename_i heq
  rw [hr] at heq
  cases heq
  rfl

/-- On a connection where no receive fails, the loop reads exactly the missing bytes, however
they are chunked. -/
theorem receiveBody_reliable :
    ok = true → c.Reliable → datalen - receivedBytes ≤ c.pending.length →
    (receiveBody datalen receivedBytes ok c).1 = true ∧
      (receiveBody datalen receivedBytes ok c).2.1 = c.pending.take (datalen - receivedBytes) ∧
      c.After (datalen - receivedBytes) (receiveBody datalen receivedBytes ok c).2.2 := by
  induction receivedBytes, ok, c using receiveBody.induct datalen with
  | case1 rb ok c h ok' got c' hr _ _ _ _ _ ih =>
    intro _ hrel hp
    have hne : c.pending ≠ [] := fun h0 => by simp [h0] at hp; omega
    have hok := recv_ok_of_reliable hrel hne (show 0 < datalen - rb by omega)
    obtain ⟨hle, htake, hafter⟩ := recv_spec hr
    simp only [hr] at hok
    obtain ⟨rfl, hpos⟩ := hok
    obtain ⟨h1, h2, h3⟩ := ih rfl (hafter.reliable hrel)
      (by rw [hafter.pending, List.length_drop]; omega)
    have hsplit : datalen - rb = got.length + (datalen - (rb + got.length)) := by omega
    rw [receiveBody_next h hr]
    dsimp only
    refine ⟨h1, ?_, ?_⟩
    · rw [h2, hafter.pending, hsplit, List.take_add, ← htake]
    · rw [hsplit]; exact hafter.trans h3
  | case2 rb ok c h =>
    rintro rfl _ _
    have h0 : datalen - rb = 0 := by simp at h; omega
    rw [receiveBody_stop h, h0]
    exact ⟨rfl, by simp, Conn.After.refl c⟩

end Body

/-- A frame whose 4-byte length arrives in one receive, on a connection where no receive fails,
comes back whole, and the receives consume exactly the frame. -/
theorem mobilesyncRecv_frame {client : MobileSyncClient} {content rest : List UInt8}
    (hlen : content.length < 2 ^ 32) (hpend : client.connection.pending = frame content ++ rest)
    (hrel : client.connection.Reliable) (hw : client.connection.Whole 0 4) :
    (mobilesyncRecv M client (some none)).1.ret = eSuccess ∧
      (mobilesyncRecv M client (some none)).1.handed = some content ∧
      client.connection.After (frame content).length
        (mobilesyncRecv M client (some none)).2.connection := by
  rw [frame_of_lt hlen] at hpend ⊢
  rw [List.append_assoc] at hpend
  have h4 : 4 ≤ client.connection.pending.length := by
    rw [hpend, List.length_append, length_beBytes]; omega
  obtain ⟨hgot, hafter⟩ := recv_exact hrel hw h4
  have hne : client.connection.pending ≠ [] := fun h0 => by rw [h0] at h4; simp at h4
  have hok := (recv_ok_of_reliable hrel hne (show 0 < 4 by omega)).1
  rcases hr : iphoneDeviceRecv client.connection 4 with ⟨ok, got, c⟩
  simp only [hr] at hgot hafter hok
  subst hok
  have hprefix : got = beBytes 4 content.length := by
    rw [hgot, hpend, List.take_left' (length_beBytes 4 _)]
  have hdatalen : prefixLength got = content.length := by
    rw [prefixLength, hprefix, length_beBytes, Nat.sub_self, List.replicate_zero, List.append_nil,
      ofBeBytes_beBytes, Nat.mod_eq_of_lt (by omega)]
  have hpend' : c.pending = content ++ rest := by
    rw [hafter.pending, hpend, List.drop_left' (length_beBytes 4 _)]
  obtain ⟨h1, h2, h3⟩ := receiveBody_reliable rfl (hafter.reliable hrel)
    (show content.length - 0 ≤ c.pending.length by rw [hpend']; simp)
  rcases hb : receiveBody content.length 0 true c with ⟨ok', body, c'⟩
  simp only [hb] at h1 h2 h3
  subst h1
  simp only [mobilesyncRecv, hr, hdatalen, hb, if_true]
  refine ⟨trivial, by rw [h2, hpend', Nat.sub_zero, List.take_left' rfl], ?_⟩
  have := hafter.trans h3
  rwa [Nat.sub_zero, ← length_beBytes 4 content.length, ← List.length_append] at this

/-- The frame of the one-byte body `[0x41]`, its length split after its first byte: the call
reads a length of 0, hands `plist_from_bin` an empty body, and reports success. -/
theorem mobilesyncRecv_split_length :
    let client : MobileSyncClient := ⟨⟨[[0], [0, 0, 1, 0x41]], [], []⟩⟩
    client.connection.pending = frame [0x41] ∧
      (mobilesyncRecv M client (some none)).1.ret = eSuccess ∧
      (mobilesyncRecv M client (some none)).1.handed = some [] :=
  ⟨by decide, by
    simp [mobilesyncRecv, iphoneDeviceRecv, prefixLength, ofBeBytes, ofLeBytes, receiveBody_stop]⟩

end Libiphone.MobileSync
