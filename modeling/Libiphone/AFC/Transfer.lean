import Libiphone.AFC.FileIO

/-!
# Transfers on a connection that carries them

`FileIO` models `afc_file_read` and `afc_file_write` as they are; this module says what they do
on a connection that carries them: no receive fails and, where the wire is concerned, every send
hands over all it is given.

A write cuts the first `length` bytes of `data` into `writeChunks`: `length / 32768` full
segments, then what is left.  Each goes out as one `AFC_OP_WRITE` frame of `writeFrames`, its
header numbered one past the last, with `this_length = 48` and `entire_length = 48 + c`, then
the handle and the chunk.  When every send goes through, a write returns success exactly when
every acknowledgement is received as a success (`AcksOk`); it has then put exactly these frames
on the wire and sets `*bytes` to `length` (`afcFileWrite_frames`).  Acknowledgements that each
arrive as an accepted answer are received as successes (`acksOk_of_answers`).

A read asks in each round for `min(length - current_count, 65536)` bytes.  When the device
answers each request with a data frame no longer than what was asked for (`ReadAnswers`), a read
that returns success has copied the answers end to end from offset 0 and sets `*bytes` to their
total, which is `length` unless an empty answer ended the read; and when, in addition, each
answer's header and first part arrive in one receive and its sends go through, it returns
success, having asked for exactly these sizes (`afcFileRead_answers`).

The proofs follow the rounds: one lemma per round says everything it can do (`writeSegment_sent`,
`writeRest_sent`, `readRound_answer`), and a run lemma carries the invariant over all rounds by
induction.
-/

namespace Libiphone.AFC

variable (D : AfcDefs)

/-! ## The chunks of a write -/

/-- The chunks of `data` that `n` full segments of `MAXIMUM_WRITE_SIZE` bytes carry, from
offset `currentCount` on. -/
def segmentChunks (data : List UInt8) : Nat → Nat → List (List UInt8)
  | 0, _ => []
  | n + 1, currentCount =>
    (data.drop currentCount).take maximumWriteSize ::
      segmentChunks data n (currentCount + maximumWriteSize)

/-- The chunks `afc_file_write` cuts the first `length` bytes of `data` into (lines 1151-1198):
`length / MAXIMUM_WRITE_SIZE` full segments, then what is left, if anything. -/
def writeChunks (data : List UInt8) (length : Nat) : List (List UInt8) :=
  segmentChunks data (length / maximumWriteSize) 0 ++
    if length % maximumWriteSize = 0 then []
    else
      [(data.drop (length / maximumWriteSize * maximumWriteSize)).take (length % maximumWriteSize)]

/-- The sizes of the sends of the packets carrying `chunks`: for each, its header, the handle
and the chunk. -/
def writeSends (chunks : List (List UInt8)) : List Nat :=
  chunks.flatMap fun chunk => [40, 8, chunk.length]

/-- The `AFC_OP_WRITE` frames carrying `chunks`, numbered on from one past `packetNum`: each is
its header, the handle, and the chunk. -/
def writeFrames (handle packetNum : UInt64) : List (List UInt8) → List UInt8
  | [] => []
  | chunk :: chunks =>
    D.encodeHeader (writeHeader D (packetNum + 1) chunk.length) ++ u64Bytes handle ++ chunk ++
      writeFrames handle (packetNum + 1) chunks

theorem maximumWriteSize_eq : maximumWriteSize = 32768 := rfl

theorem length_segmentChunks (data : List UInt8) (n currentCount : Nat) :
    (segmentChunks data n currentCount).length = n := by
  induction n generalizing currentCount <;> simp [segmentChunks, *]

theorem length_mem_segmentChunks {data : List UInt8} {n currentCount : Nat}
    (hdata : currentCount + n * maximumWriteSize ≤ data.length) :
    ∀ chunk ∈ segmentChunks data n currentCount, chunk.length = maximumWriteSize := by
  induction n generalizing currentCount with
  | zero => simp [segmentChunks]
  | succ n ih =>
    simp only [segmentChunks, List.mem_cons, forall_eq_or_imp, List.length_take, List.length_drop]
    exact ⟨by rw [Nat.succ_mul] at hdata; omega,
      ih (by rw [Nat.succ_mul] at hdata; omega)⟩

theorem flatten_segmentChunks (data : List UInt8) (n currentCount : Nat) :
    (segmentChunks data n currentCount).flatten =
      (data.drop currentCount).take (n * maximumWriteSize) := by
  induction n generalizing currentCount with
  | zero => simp [segmentChunks]
  | succ n ih =>
    rw [segmentChunks, List.flatten_cons, ih, Nat.succ_mul, Nat.add_comm (n * maximumWriteSize),
      List.take_add, List.drop_drop]

theorem writeSends_cons (chunk : List UInt8) (chunks : List (List UInt8)) :
    writeSends (chunk :: chunks) = [40, 8, chunk.length] ++ writeSends chunks := rfl

theorem writeSends_append (chunks chunks' : List (List UInt8)) :
    writeSends (chunks ++ chunks') = writeSends chunks ++ writeSends chunks' := by
  simp [writeSends]

theorem length_writeSends (chunks : List (List UInt8)) :
    (writeSends chunks).length = 3 * chunks.length := by
  induction chunks with
  | nil => rfl
  | cons chunk chunks ih => simp [writeSends] at ih ⊢; omega

/-- The chunks of a write are `ceil(length / 32768)` in number, none empty and none longer than
a segment, and they are the first `length` bytes of the data, in order. -/
theorem writeChunks_spec {data : List UInt8} {length : Nat} (hdata : length ≤ data.length) :
    (writeChunks data length).length = (length + maximumWriteSize - 1) / maximumWriteSize ∧
      (∀ chunk ∈ writeChunks data length,
        0 < chunk.length ∧ chunk.length ≤ maximumWriteSize) ∧
      (writeChunks data length).flatten = data.take length := by
  have hseg := @length_mem_segmentChunks data (length / maximumWriteSize) 0
    (by rw [maximumWriteSize_eq] at *; omega)
  have hsplit : length = length / maximumWriteSize * maximumWriteSize + length % maximumWriteSize :=
    (Nat.div_add_mod' length maximumWriteSize).symm
  rw [writeChunks]
  split_ifs with hr
  · simp only [List.append_nil, length_segmentChunks, flatten_segmentChunks, List.drop_zero]
    refine ⟨by rw [maximumWriteSize_eq] at *; omega, fun chunk hc => ?_,
      by rw [hr, Nat.add_zero] at hsplit; rw [← hsplit]⟩
    rw [hseg chunk hc, maximumWriteSize_eq]; omega
  · simp only [List.length_append, length_segmentChunks, List.length_singleton, List.mem_append,
      List.mem_singleton, List.flatten_append, flatten_segmentChunks, List.drop_zero,
      List.flatten_singleton]
    refine ⟨by rw [maximumWriteSize_eq] at *; omega, ?_, ?_⟩
    · rintro chunk (hc | rfl)
      · rw [hseg chunk hc, maximumWriteSize_eq]; omega
      · simp only [List.length_take, List.length_drop]
        have := Nat.mod_lt length (show 0 < maximumWriteSize by rw [maximumWriteSize_eq]; omega)
        omega
    · rw [← List.take_add, ← hsplit]

/-! ## The acknowledgements of a write -/

/-- The client once the packet of each of `chunks` has gone out whole and its acknowledgement
has been received, in turn. -/
def ackedClient (handle : UInt64) : List (List UInt8) → AfcClient → AfcClient
  | [], client => client
  | chunk :: chunks, client =>
    ackedClient handle chunks (afcReceiveData D (afterWrite D client handle chunk)).2

/-- Each acknowledgement `afc_file_write` waits for, once the packet of each of `chunks` has gone
out whole, is received as a success. -/
def AcksOk (handle : UInt64) : List (List UInt8) → AfcClient → Prop
  | [], _ => True
  | chunk :: chunks, client =>
    (afcReceiveData D (afterWrite D client handle chunk)).1.ret = eSuccess ∧
      AcksOk handle chunks (afcReceiveData D (afterWrite D client handle chunk)).2

instance AcksOk.decidable (handle : UInt64) :
    ∀ chunks client, Decidable (AcksOk D handle chunks client)
  | [], _ => isTrue trivial
  | chunk :: chunks, client =>
    haveI := AcksOk.decidable handle chunks (afcReceiveData D (afterWrite D client handle chunk)).2
    inferInstanceAs (Decidable (_ ∧ _))

section Acks

variable {D} (handle : UInt64)

theorem ackedClient_append (chunks chunks' : List (List UInt8)) :
    ∀ client, ackedClient D handle (chunks ++ chunks') client =
      ackedClient D handle chunks' (ackedClient D handle chunks client) := by
  induction chunks with
  | nil => intro; rfl
  | cons chunk chunks ih => intro client; exact ih _

theorem acksOk_append (chunks chunks' : List (List UInt8)) :
    ∀ client, AcksOk D handle (chunks ++ chunks') client ↔
      AcksOk D handle chunks client ∧
        AcksOk D handle chunks' (ackedClient D handle chunks client) := by
  induction chunks with
  | nil => intro; simp [AcksOk, ackedClient]
  | cons chunk chunks ih =>
    intro client
    rw [List.cons_append, AcksOk.eq_2, AcksOk.eq_2, ih, ackedClient.eq_2, and_assoc]

theorem acksOk_lock (chunks : List (List UInt8)) :
    ∀ client, AcksOk D handle chunks (afcLock client) ↔ AcksOk D handle chunks client := by
  induction chunks with
  | nil => intro; rfl
  | cons chunk chunks ih =>
    intro client
    simp only [AcksOk, afterWrite_lock, afcReceiveData_lock, ih]

@[simp] theorem ackedClient_wire (chunks : List (List UInt8)) :
    ∀ client, (ackedClient D handle chunks client).connection.wire =
      client.connection.wire ++ writeFrames D handle client.afcPacket.packetNum chunks := by
  induction chunks with
  | nil => intro; simp [ackedClient, writeFrames]
  | cons chunk chunks ih =>
    intro client
    rw [ackedClient, ih, afcReceiveData_wire, afcReceiveData_afcPacket]
    simp [afterWrite, writeFrames, writeHeader]

theorem ackedClient_sendCaps (chunks : List (List UInt8)) :
    ∀ client, (ackedClient D handle chunks client).connection.sendCaps =
      client.connection.sendCaps.drop (writeSends chunks).length := by
  induction chunks with
  | nil => intro; rfl
  | cons chunk chunks ih =>
    intro client
    rw [ackedClient, ih, afcReceiveData_sendCaps, length_writeSends, length_writeSends, afterWrite]
    simp only [List.drop_drop, List.length_cons]
    congr 1
    omega

end Acks

/-- What a run of write packets whose sends all go through leaves: an error, when one of the
acknowledgements is not received as a success, or the count `currentCount'` and the client once
all of them are in. -/
def WriteStep.Sent (handle : UInt64) (client : AfcClient) (chunks : List (List UInt8))
    (currentCount' : Nat) : WriteStep → Prop
  | .done ret _ _ => ret ≠ eSuccess ∧ ¬ AcksOk D handle chunks client
  | .next currentCount client' =>
    currentCount = currentCount' ∧ client' = ackedClient D handle chunks client ∧
      AcksOk D handle chunks client

/-! ## The rounds of a write -/

section WriteRounds

variable {D}

/-- A full segment whose three sends go through is followed by its acknowledgement, and the loop
goes on exactly when that succeeds. -/
theorem writeSegment_sent {size currentCount : Nat} {handle : UInt64} {data : List UInt8}
    {client : AfcClient} (hpos : 0 < size) (hsmall : size < 2 ^ 31)
    (hdata : currentCount + size ≤ data.length) (hcount : currentCount + size < 2 ^ 32)
    (hcaps : CapsCover [40, 8, size] client.connection.sendCaps) :
    writeSegment D size handle data currentCount client =
      let r := afcReceiveData D (afterWrite D client handle ((data.drop currentCount).take size))
      if r.1.ret ≠ eSuccess then .done r.1.ret none (afcUnlock r.2)
      else .next (currentCount + size) r.2 := by
  have hlen : ((data.drop currentCount).take size).length = size := by simp; omega
  have hd := @afcDispatchPacket_write D client handle ((data.drop currentCount).take size)
    (by rw [hlen]; exact hpos) (by rw [hlen]; exact hsmall) (by rw [hlen]; exact hcaps)
  rw [hlen] at hd
  have hadd : addCount currentCount size = currentCount + size := by
    rw [addCount, asUInt32_of_lt (by omega) (by omega)]; rfl
  simp only [writeSegment, hd, show ¬ ((size : Int) < 0) by omega, if_false, hadd]

/-- The last packet, for the `length - current_count` bytes left, whose three sends go through:
`*bytes` is `length`, and the call returns what its acknowledgement returns. -/
theorem writeRest_sent {length currentCount : Nat} {handle : UInt64} {data : List UInt8}
    {client : AfcClient} (hlt : currentCount < length) (hsmall : length < 2 ^ 31)
    (hdata : length ≤ data.length)
    (hcaps : CapsCover [40, 8, length - currentCount] client.connection.sendCaps) :
    writeRest D handle data length currentCount client =
      let r := afcReceiveData D
        (afterWrite D client handle ((data.drop currentCount).take (length - currentCount)))
      (r.1.ret, some length, afcUnlock r.2) := by
  have hrest : asUInt32 ((length : Int) - currentCount) = length - currentCount := by
    rw [asUInt32_of_lt (by omega) (by omega)]; omega
  have hlen : ((data.drop currentCount).take (length - currentCount)).length =
      length - currentCount := by
    simp; omega
  have hd := @afcDispatchPacket_write D client handle
    ((data.drop currentCount).take (length - currentCount))
    (by rw [hlen]; omega) (by rw [hlen]; omega) (by rw [hlen]; exact hcaps)
  rw [hlen] at hd
  have hne : currentCount ≠ asUInt32 (length : Int) := by
    rw [asUInt32_of_lt (by omega) (by omega)]; simp; omega
  have hadd : addCount currentCount ((length - currentCount : Nat) : Int) = length := by
    rw [addCount, asUInt32_of_lt (by omega) (by omega)]; omega
  simp only [writeRest, if_neg hne, hrest, hd,
    show ¬ (((length - currentCount : Nat) : Int) ≤ 0) by
    omega, if_false, hadd]

/-- A run that starts with a packet carrying `chunk` that went out whole and was acknowledged. -/
theorem WriteStep.Sent.cons {handle : UInt64} {client : AfcClient} {chunk : List UInt8}
    {chunks : List (List UInt8)} {currentCount' : Nat} {step : WriteStep}
    (hret : (afcReceiveData D (afterWrite D client handle chunk)).1.ret = eSuccess) :
    step.Sent D handle (afcReceiveData D (afterWrite D client handle chunk)).2 chunks
        currentCount' →
      step.Sent D handle client (chunk :: chunks) currentCount' := by
  cases step with
  | done => exact fun ⟨hne, hacks⟩ => ⟨hne, fun h => hacks h.2⟩
  | next => exact fun ⟨h1, h2, h3⟩ => ⟨h1, h2, hret, h3⟩

/-- The full segments, when all their sends go through: the loop stops at the first
acknowledgement that fails, or has received them all. -/
theorem writeSegments_sent (handle : UInt64) (data : List UInt8) (n : Nat) :
    ∀ (currentCount : Nat) (client : AfcClient),
      currentCount + n * maximumWriteSize ≤ data.length →
      currentCount + n * maximumWriteSize < 2 ^ 31 →
      CapsCover (writeSends (segmentChunks data n currentCount)) client.connection.sendCaps →
      (writeSegments D maximumWriteSize handle data n currentCount client).Sent D handle client
        (segmentChunks data n currentCount) (currentCount + n * maximumWriteSize) := by
  induction n with
  | zero => intro currentCount client _ _ _; simp [writeSegments, WriteStep.Sent, segmentChunks,
      ackedClient, AcksOk]
  | succ n ih =>
    intro currentCount client hdata hsmall hcaps
    rw [segmentChunks, writeSends_cons, CapsCover.append] at hcaps
    have hlen : ((data.drop currentCount).take maximumWriteSize).length = maximumWriteSize := by
      rw [Nat.succ_mul] at hdata; simp; omega
    rw [hlen] at hcaps
    rw [Nat.succ_mul] at hdata hsmall
    rw [writeSegments.eq_2, writeSegment_sent (by rw [maximumWriteSize_eq]; omega)
      (by rw [maximumWriteSize_eq]; omega) (by omega) (by omega) hcaps.1]
    dsimp only
    split_ifs with hret
    · exact ⟨hret, fun h => hret h.1⟩
    · simp only [WriteStep.andThen]
      refine WriteStep.Sent.cons (not_not.mp hret) ?_
      have := ih (currentCount + maximumWriteSize)
        (afcReceiveData D
          (afterWrite D client handle ((data.drop currentCount).take maximumWriteSize))).2
        (by omega) (by omega) (by simpa [afterWrite] using hcaps.2)
      rwa [show currentCount + (n + 1) * maximumWriteSize =
        currentCount + maximumWriteSize + n * maximumWriteSize by rw [Nat.succ_mul]; omega]

/-- When every send goes through, a write returns success exactly when every acknowledgement is
received as a success; it then sets `*bytes` to `length` and leaves the client as the last
acknowledgement left it, unlocked. -/
theorem afcFileWrite_sent {client : AfcClient} {handle : UInt64} {data : List UInt8} {length : Nat}
    (hhandle : handle ≠ 0) (hsmall : length < 2 ^ 31) (hdata : length ≤ data.length)
    (hcaps : CapsCover (writeSends (writeChunks data length)) client.connection.sendCaps) :
    ((afcFileWrite D client handle data length).1 = eSuccess ↔
        AcksOk D handle (writeChunks data length) client) ∧
      (AcksOk D handle (writeChunks data length) client →
        (afcFileWrite D client handle data length).2 =
          (some length,
            afcUnlock (ackedClient D handle (writeChunks data length) (afcLock client)))) := by
  have hdiv : ((length : Int) / ((maximumWriteSize : Nat) : Int)).toNat =
      length / maximumWriteSize := by
    rw [← Int.ofNat_ediv, Int.toNat_ofNat]
  have hq : length / maximumWriteSize * maximumWriteSize ≤ length := Nat.div_mul_le_self _ _
  rw [← acksOk_lock handle, writeChunks, acksOk_append, ackedClient_append]
  rw [writeChunks, writeSends_append, CapsCover.append] at hcaps
  have hseg := writeSegments_sent (D := D) handle data (length / maximumWriteSize) 0
    (afcLock client) (by omega) (by omega) (by simpa using hcaps.1)
  simp only [afcFileWrite, hhandle, false_or, show ¬ ((length : Int) < 0) by omega, if_false, hdiv]
  rcases hs : writeSegments D maximumWriteSize handle data (length / maximumWriteSize) 0
      (afcLock client) with ⟨ret, bytes, c'⟩ | ⟨currentCount, c'⟩
  · rw [hs] at hseg
    exact ⟨iff_of_false hseg.1 fun h => hseg.2 h.1, fun h => absurd h.1 hseg.2⟩
  · rw [hs] at hseg
    obtain ⟨rfl, rfl, hacks⟩ := hseg
    dsimp only
    rw [Nat.zero_add]
    have hlength : asUInt32 (length : Int) = length := by
      rw [asUInt32_of_lt (by omega) (by omega)]; rfl
    by_cases hr : length % maximumWriteSize = 0
    · have hcount : length / maximumWriteSize * maximumWriteSize = length :=
        Nat.div_mul_cancel (Nat.dvd_of_mod_eq_zero hr)
      simp only [writeRest, hlength, hcount, if_true, if_pos hr, hacks, true_and, AcksOk, iff_self,
        ackedClient, forall_const]
    · have hrest : length - length / maximumWriteSize * maximumWriteSize =
          length % maximumWriteSize := by
        rw [Nat.mod_def, Nat.mul_comm]
      have hlast := hcaps.2
      rw [if_neg hr, writeSends_cons, List.length_take, List.length_drop,
        Nat.min_eq_left (by omega)] at hlast
      rw [writeRest_sent (by omega) hsmall hdata
        (by rw [ackedClient_sendCaps, hrest, afcLock_connection]; exact hlast)]
      simp [if_neg hr, hrest, hacks, AcksOk, ackedClient]

end WriteRounds

/-! ## Acknowledgements that arrive as sent -/

/-- Answers to successive requests, numbered on from one past `packetNum`, each one that
`afc_receive_data` accepts. -/
def AnswersFrom (D : AfcDefs) : UInt64 → List Frame → Prop
  | _, [] => True
  | packetNum, f :: fs =>
    f.WellFormed D (packetNum + 1) ∧ f.payload.length < 2 ^ 31 ∧
      AnswersFrom D (packetNum + 1) fs

section Answers

variable {D}

/-- Every acknowledgement is received as a success when the device answers each write packet with
an answer `afc_receive_data` accepts, on a connection where no receive fails and each header and
first part arrives in one receive. -/
theorem acksOk_of_answers (handle : UInt64) :
    ∀ {chunks : List (List UInt8)} {acks : List Frame} {client : AfcClient} {rest : List UInt8},
      acks.length = chunks.length → AnswersFrom D client.afcPacket.packetNum acks →
      client.connection.pending = (acks.map (Frame.bytes D)).flatten ++ rest →
      client.connection.Reliable → HeadsWhole D client.connection 0 acks →
      AcksOk D handle chunks client
  | [], _, _, _, _, _, _, _, _ => trivial
  | _ :: _, [], _, _, hlen, _, _, _, _ => absurd hlen (by simp)
  | chunk :: chunks, f :: fs, client, rest, hlen, ⟨hwf, hsmall, hfs⟩, hpend, hrel,
      ⟨hh, hf, hws⟩ => by
    obtain ⟨hret, -, -, hafter⟩ := @afcReceiveData_frame D (afterWrite D client handle chunk) f
      ((fs.map (Frame.bytes D)).flatten ++ rest) hwf hsmall
      (show client.connection.pending = _ by simp [hpend]) hrel hh (by simpa using hf)
    have hpend' : (afcReceiveData D (afterWrite D client handle chunk)).2.connection.pending =
        (fs.map (Frame.bytes D)).flatten ++ rest := by
      rw [hafter.pending]
      show client.connection.pending.drop _ = _
      simp [hpend]
    exact ⟨hret, acksOk_of_answers handle (by simpa using hlen)
      (by rw [afcReceiveData_afcPacket]; exact hfs) hpend' (hafter.reliable hrel)
      (HeadsWhole.after hafter
        ((by simpa using hws : HeadsWhole D client.connection _ fs).of_inbound
          (afterWrite_inbound D client handle chunk)))⟩

end Answers

/-! ## A write on a connection that carries it -/

/-- For every length and data buffer, when every send hands over all its bytes and every
acknowledgement is received as a success: the first `length` bytes of `data` are cut into
`ceil(length / 32768)` chunks, none empty and none longer than 32768 bytes; one frame per chunk
goes out (`writeFrames`: an `AFC_OP_WRITE` header numbered one past the last, with
`this_length = 48` and `entire_length = 48 + c`, then the handle and the chunk); and the call
returns success with `*bytes = length`. -/
theorem afcFileWrite_frames {client : AfcClient} {handle : UInt64} {data : List UInt8}
    {length : Nat} (hhandle : handle ≠ 0) (hsmall : length < 2 ^ 31)
    (hdata : length ≤ data.length)
    (hcaps : CapsCover (writeSends (writeChunks data length)) client.connection.sendCaps)
    (hacks : AcksOk D handle (writeChunks data length) client) :
    (writeChunks data length).length = (length + 32768 - 1) / 32768 ∧
      (∀ chunk ∈ writeChunks data length, 0 < chunk.length ∧ chunk.length ≤ 32768) ∧
      (writeChunks data length).flatten = data.take length ∧
      (afcFileWrite D client handle data length).1 = eSuccess ∧
      (afcFileWrite D client handle data length).2.1 = some length ∧
      (afcFileWrite D client handle data length).2.2.connection.wire =
        client.connection.wire ++
          writeFrames D handle client.afcPacket.packetNum (writeChunks data length) := by
  obtain ⟨hret, hrun⟩ := afcFileWrite_sent (D := D) hhandle hsmall hdata hcaps
  have hchunks := @writeChunks_spec data length hdata
  rw [maximumWriteSize_eq] at hchunks
  rw [hrun hacks]
  refine ⟨hchunks.1, hchunks.2.1, hchunks.2.2, hret.mpr hacks, rfl, ?_⟩
  simp only [afcUnlock_connection, ackedClient_wire, afcLock_connection, afcLock_afcPacket]

/-- A client whose connection takes a three-byte write packet whole and holds a status answer of
0 to it. -/
def oneAckClient : AfcClient :=
  ⟨⟨[leEncodeHeader ⟨48, 48, 1, 0x01⟩ ++ List.replicate 8 0], [40, 8, 3], []⟩,
    ⟨0, 0, 0, 0⟩, []⟩

/-- The status answer of 0 to write packet 1 that `oneAckClient` holds. -/
def oneAck : List Frame := [⟨⟨48, 48, 1, 0x01⟩, List.replicate 8 0⟩]

theorem afcFileWrite_frames_sample :
    CapsCover (writeSends (writeChunks [1, 2, 3] 3)) oneAckClient.connection.sendCaps ∧
      AcksOk sampleDefs 1 (writeChunks [1, 2, 3] 3) oneAckClient ∧
      (writeChunks [1, 2, 3] 3).length = (3 + 32768 - 1) / 32768 ∧
      (∀ chunk ∈ writeChunks [1, 2, 3] 3, 0 < chunk.length ∧ chunk.length ≤ 32768) ∧
      (writeChunks [1, 2, 3] 3).flatten = [1, 2, 3].take 3 ∧
      (afcFileWrite sampleDefs oneAckClient 1 [1, 2, 3] 3).1 = eSuccess ∧
      (afcFileWrite sampleDefs oneAckClient 1 [1, 2, 3] 3).2.1 = some 3 ∧
      (afcFileWrite sampleDefs oneAckClient 1 [1, 2, 3] 3).2.2.connection.wire =
        oneAckClient.connection.wire ++
          writeFrames sampleDefs 1 oneAckClient.afcPacket.packetNum (writeChunks [1, 2, 3] 3) :=
  have hcaps :
      CapsCover (writeSends (writeChunks [1, 2, 3] 3)) oneAckClient.connection.sendCaps := by
    decide
  have hacks : AcksOk sampleDefs 1 (writeChunks [1, 2, 3] 3) oneAckClient :=
    @acksOk_of_answers sampleDefs 1 _ oneAck oneAckClient [] (by decide)
      ⟨⟨rfl, by decide, by decide, by decide, by decide,
          .inr ⟨.inr (.inr ⟨rfl, by decide⟩), by decide⟩⟩, by decide, trivial⟩
      (by decide) (by decide) (by decide)
  ⟨hcaps, hacks,
    afcFileWrite_frames sampleDefs (by decide) (by norm_num) (by decide) hcaps hacks⟩


/-! ## The answers of a read -/

/-- What `afc_file_read` asks for once `current_count` bytes have come (line 1081). -/
def readSize (length currentCount : Nat) : Nat := min (length - currentCount) 65536

/-- The device's answers to the requests of a read from `current_count` on, the first to the
request numbered one past `packetNum`: each a data frame of at most the `readSize` bytes asked
for.  They go on as long as the read does: to the first empty answer, or until `length` bytes
have come. -/
def ReadAnswers (D : AfcDefs) (length : Nat) : Nat → UInt64 → List Frame → Prop
  | currentCount, _, [] => length ≤ currentCount
  | currentCount, packetNum, f :: fs =>
    currentCount < length ∧ f.WellFormed D (packetNum + 1) ∧ f.header.operation = D.opData ∧
      f.payload.length ≤ readSize length currentCount ∧
      (f.payload = [] ∧ fs = [] ∨
        f.payload ≠ [] ∧
          ReadAnswers D length (currentCount + f.payload.length) (packetNum + 1) fs)

/-- The copies into `data` a read makes of `answers`: each non-empty answer at the count of the
bytes before it. -/
def readCopies : Nat → List Frame → List (Int × Int)
  | _, [] => []
  | currentCount, f :: fs =>
    if f.payload = [] then []
    else (currentCount, f.payload.length) :: readCopies (currentCount + f.payload.length) fs

/-- The sizes of the sends of the requests answered by `answers`: a header and an
`AFCFilePacket` each. -/
def readSends (answers : List Frame) : List Nat := answers.flatMap fun _ => [40, 16]

/-- The requests a read puts on the wire, one per answer, numbered on from one past `packetNum`:
an `AFC_OP_READ` header for a 16-byte `AFCFilePacket`, and the packet asking for `readSize`
bytes. -/
def readRequests (handle : UInt64) (length : Nat) : Nat → UInt64 → List Frame → List UInt8
  | _, _, [] => []
  | currentCount, packetNum, f :: fs =>
    D.encodeHeader ⟨56, 56, packetNum + 1, D.opRead⟩ ++
      D.filePacket handle (readSize length currentCount) ++
      readRequests handle length (currentCount + f.payload.length) (packetNum + 1) fs

/-- The client once the request of a read round for `size` bytes has been dispatched. -/
def afterRequest (handle : UInt64) (size : Nat) (client : AfcClient) : AfcClient :=
  (afcDispatchPacket D (withPacket client D.opRead 0 0) (D.filePacket handle size)).2

/-- How a read round ends on the answer `f`, `afterRequest` having left `requested`: with an
error; with success on an empty answer; or with the answer copied at `current_count`, the client
the receive left, and the answer consumed. -/
def ReadStep.Answered (f : Frame) (currentCount : Nat) (copies : List (Int × Int))
    (received : List UInt8) (requested : AfcClient) : ReadStep → Prop
  | .done result client' =>
    result.ret ≠ eSuccess ∨
      f.payload = [] ∧ result = ⟨eSuccess, some currentCount, copies, received⟩ ∧
        client' = afcUnlock (afcReceiveData D requested).2
  | .next currentCount' copies' received' client' =>
    f.payload ≠ [] ∧ currentCount' = ((currentCount + f.payload.length : Nat) : Int) ∧
      copies' = copies ++ [((currentCount : Int), (f.payload.length : Int))] ∧
      received' = received ++ f.payload ∧
      client' = (afcReceiveData D requested).2 ∧
      requested.connection.After (f.bytes D).length client'.connection

section ReadRounds

variable {D}

@[simp] theorem afterRequest_packetNum (handle : UInt64) (size : Nat) (client : AfcClient) :
    (afterRequest D handle size client).afcPacket.packetNum = client.afcPacket.packetNum + 1 := by
  simp [afterRequest, withPacket]

@[simp] theorem afterRequest_inbound (handle : UInt64) (size : Nat) (client : AfcClient) :
    (afterRequest D handle size client).connection.inbound = client.connection.inbound := by
  simp [afterRequest]

/-- A round whose answer is a data frame of at most what it asked for, on a connection where no
receive fails. -/
theorem readRound_answer {handle : UInt64} {length currentCount : Nat} {copies : List (Int × Int)}
    {received : List UInt8} {client : AfcClient} {f : Frame} {rest : List UInt8}
    (hsmall : length < 2 ^ 31) (hlt : currentCount < length)
    (hwf : f.WellFormed D (client.afcPacket.packetNum + 1))
    (hle : f.payload.length ≤ readSize length currentCount)
    (hpend : client.connection.pending = f.bytes D ++ rest) (hrel : client.connection.Reliable) :
    (readRound D handle length currentCount copies received client).Answered D f currentCount copies
      received (afterRequest D handle (readSize length currentCount) client) := by
  have hk : (min ((length : Int) - currentCount) 65536).toNat = readSize length currentCount := by
    rw [readSize]; omega
  have hc1 : (afterRequest D handle (readSize length currentCount) client).afcPacket.packetNum =
      client.afcPacket.packetNum + 1 := afterRequest_packetNum _ _ _
  have hin := afterRequest_inbound (D := D) handle (readSize length currentCount) client
  unfold readRound
  rw [hk]
  rcases hd : afcDispatchPacket D (withPacket client D.opRead 0 0)
    (D.filePacket handle (readSize length currentCount)) with ⟨bytesLoc, c1⟩
  rw [afterRequest, hd] at hc1 hin ⊢
  dsimp only at hc1 hin ⊢
  split_ifs with h1 h2 h3
  · exact .inl D.eNotEnoughData_ne
  · exact .inl h2
  all_goals
    have hP : f.payload.length < 2 ^ 31 := by rw [readSize] at hle; omega
    obtain ⟨hdump, hbytes, hafter⟩ := @afcReceiveData_success D c1 f rest (hc1 ▸ hwf) hP
      ((Conn.pending_of_inbound hin).trans hpend) (hrel.of_inbound hin) (not_not.mp h2)
  · have hnil : f.payload = [] := List.eq_nil_of_length_eq_zero (by omega)
    refine .inr ⟨hnil, ?_, rfl⟩
    rw [not_not.mp h2, asUInt32_of_lt (by omega) (by omega), Int.toNat_ofNat]
  · rcases hdh : (afcReceiveData D c1).1.dumpHere with _ | input
    · rw [hdh, Option.getD_none] at hdump
      rw [← hdump] at hbytes
      exact absurd hbytes h3
    · rw [hdh, Option.getD_some] at hdump
      have hclamp : readClamp (afcReceiveData D c1).1.bytes length = f.payload.length := by
        rw [readClamp, hbytes, if_neg (by rw [readSize] at hle; omega)]
      subst hdump
      refine ⟨fun h => h3 (by rw [hbytes, h]; rfl), by rw [hclamp]; push_cast; rfl,
        by rw [hclamp], ?_, rfl, hafter⟩
      rw [hclamp, Int.toNat_ofNat, List.take_length]

/-- What a receive after a read request leaves: the rest of the stream, on a connection where
still no receive fails. -/
theorem afterRequest_after {handle : UInt64} {size : Nat} {client : AfcClient} {f : Frame}
    {more : List UInt8} {c' : Conn}
    (hafter : (afterRequest D handle size client).connection.After (f.bytes D).length c')
    (hpend : client.connection.pending = f.bytes D ++ more) (hrel : client.connection.Reliable) :
    c'.pending = more ∧ c'.Reliable :=
  ⟨by rw [hafter.pending, Conn.pending_of_inbound (afterRequest_inbound _ _ _), hpend,
      List.drop_left],
    hafter.reliable (hrel.of_inbound (afterRequest_inbound _ _ _))⟩

/-- A read request whose header and 16-byte `AFCFilePacket` each go out in one send. -/
theorem afterRequest_whole {handle : UInt64} {size : Nat} {client : AfcClient}
    (hfile : (D.filePacket handle size).length = 16)
    (hcaps : CapsCover [40, 16] client.connection.sendCaps) :
    (afterRequest D handle size client).connection.wire = client.connection.wire ++
        D.encodeHeader ⟨56, 56, client.afcPacket.packetNum + 1, D.opRead⟩ ++
          D.filePacket handle size ∧
      (afterRequest D handle size client).connection.sendCaps =
        client.connection.sendCaps.tail.tail := by
  have hd := @afcDispatchPacket_whole D (withPacket client D.opRead 0 0) (D.filePacket handle size)
    rfl
    (by rw [hfile]; omega) (by rw [hfile]; omega) hcaps.1 (by rw [hfile]; exact hcaps.2.1)
  have hhdr : dispatchHeader (withPacket client D.opRead 0 0).afcPacket
      (UInt64.ofNat (D.filePacket handle size).length) =
        ⟨56, 56, client.afcPacket.packetNum + 1, D.opRead⟩ := by
    rw [hfile, dispatchHeader_zero rfl (by omega) (by omega)]
    rfl
  rw [afterRequest, hd, hhdr]
  exact ⟨rfl, rfl⟩

/-- The rounds of a read on answers to its requests, when no receive fails: a run that returns
success has copied the answers end to end from `current_count` and sets `*bytes` to their total;
and when every send goes through, it has put one request per answer on the wire. -/
theorem fileReadLoop_answers (handle : UInt64) {length : Nat} (hsmall : length < 2 ^ 31) :
    ∀ {answers : List Frame} {currentCount : Nat} {copies : List (Int × Int)}
      {received : List UInt8} {client : AfcClient} {rest : List UInt8},
      currentCount ≤ length →
      ReadAnswers D length currentCount client.afcPacket.packetNum answers →
      client.connection.pending = (answers.map (Frame.bytes D)).flatten ++ rest →
      client.connection.Reliable →
      (fileReadLoop length (readRound D handle length) (readRound_spec handle length) currentCount
        copies received client).1.ret = eSuccess →
      (fileReadLoop length (readRound D handle length) (readRound_spec handle length) currentCount
          copies received client).1 =
        ⟨eSuccess, some (currentCount + (answers.map (·.payload.length)).sum),
          copies ++ readCopies currentCount answers,
          received ++ (answers.map Frame.payload).flatten⟩ ∧
      (CapsCover (readSends answers) client.connection.sendCaps →
        (∀ size, (D.filePacket handle size).length = 16) →
        (fileReadLoop length (readRound D handle length) (readRound_spec handle length) currentCount
            copies received client).2.connection.wire =
          client.connection.wire ++
            readRequests D handle length currentCount client.afcPacket.packetNum answers)
  | [], currentCount, copies, received, client, rest, hle, hans, _, _, _ => by
    have hcc : currentCount = length := le_antisymm hle hans
    rw [fileReadLoop_stop (by omega), asUInt32_of_lt (by omega) (by omega), Int.toNat_ofNat]
    simp [readCopies, readRequests]
  | f :: fs, currentCount, copies, received, client, rest, hle, ⟨hlt, hwf, _, hsize, hmore⟩,
      hpend, hrel, hok => by
    have hround := @readRound_answer D handle length currentCount copies received client f
      ((fs.map (Frame.bytes D)).flatten ++ rest) hsmall hlt hwf hsize (by simp [hpend]) hrel
    have hcount : (currentCount : Int) < length := by exact_mod_cast hlt
    rcases hstep : readRound D handle length currentCount copies received client with
      ⟨result, client'⟩ | ⟨currentCount', copies', received', client'⟩
    · rw [hstep] at hround
      rw [fileReadLoop_done hcount hstep] at hok ⊢
      rcases hround with hne | ⟨hnil, rfl, rfl⟩
      · exact absurd hok hne
      · obtain rfl : fs = [] := hmore.elim (·.2) fun h => absurd hnil h.1
        refine ⟨by simp [readCopies, hnil], fun hcaps hfile => ?_⟩
        rw [afcUnlock_connection, afcReceiveData_wire, (afterRequest_whole (hfile _) hcaps).1]
        simp [readRequests]
    · rw [hstep] at hround
      obtain ⟨hne, rfl, rfl, rfl, rfl, hafter⟩ := hround
      rw [fileReadLoop_next hcount hstep] at hok ⊢
      have hfs := (hmore.resolve_left fun h => hne h.1).2
      have hP : f.payload.length ≤ length - currentCount := le_trans hsize (min_le_left _ _)
      obtain ⟨hpend', hrel'⟩ := afterRequest_after hafter
        (show _ = f.bytes D ++ ((fs.map (Frame.bytes D)).flatten ++ rest) by simp [hpend]) hrel
      obtain ⟨h1, h2⟩ := fileReadLoop_answers handle hsmall (by omega)
        (by rw [afcReceiveData_afcPacket, afterRequest_packetNum]; exact hfs) hpend' hrel' hok
      refine ⟨by rw [h1]; simp [readCopies, hne, Nat.add_assoc], fun hcaps hfile => ?_⟩
      have hcaps' : 40 ≤ _ ∧ 16 ≤ _ ∧
        CapsCover (readSends fs) client.connection.sendCaps.tail.tail := hcaps
      obtain ⟨hw, hc⟩ := afterRequest_whole (D := D) (hfile (readSize length currentCount))
        ⟨hcaps'.1, hcaps'.2.1, trivial⟩
      rw [h2 (by rw [afcReceiveData_sendCaps, hc]; exact hcaps'.2.2) hfile, afcReceiveData_wire, hw,
        afcReceiveData_afcPacket, afterRequest_packetNum, readRequests]
      simp only [List.append_assoc]

/-- A round whose request goes out whole and whose answer's header and first part each arrive
in one receive does not fail: if it returns, it returns success. -/
theorem readRound_done_ok {handle : UInt64} {length currentCount : Nat} {copies : List (Int × Int)}
    {received : List UInt8} {client : AfcClient} {f : Frame} {rest : List UInt8} {result : FileRead}
    {client' : AfcClient} (hwf : f.WellFormed D (client.afcPacket.packetNum + 1))
    (hle : f.payload.length ≤ readSize length currentCount)
    (hpend : client.connection.pending = f.bytes D ++ rest) (hrel : client.connection.Reliable)
    (hhead : client.connection.Whole 0 40)
    (hfirst : client.connection.Whole 40 f.header.thisLength.toNat)
    (hfile : (D.filePacket handle (readSize length currentCount)).length = 16)
    (hcaps : CapsCover [40, 16] client.connection.sendCaps)
    (hdone : readRound D handle length currentCount copies received client = .done result client') :
    result.ret = eSuccess := by
  have hk : (min ((length : Int) - currentCount) 65536).toNat = readSize length currentCount := by
    rw [readSize]; omega
  have hsent : afcDispatchPacket D (withPacket client D.opRead 0 0)
      (D.filePacket handle (readSize length currentCount)) =
      (56, afterRequest D handle (readSize length currentCount) client) := by
    refine Prod.ext ?_ rfl
    rw [@afcDispatchPacket_whole D (withPacket client D.opRead 0 0) _ rfl (by rw [hfile]; omega)
      (by rw [hfile]; omega) hcaps.1 (by rw [hfile]; exact hcaps.2.1), hfile]
    rfl
  have hin := afterRequest_inbound (D := D) handle (readSize length currentCount) client
  have hret := (@afcReceiveData_frame D
    (afterRequest D handle (readSize length currentCount) client) f rest
    (by rw [afterRequest_packetNum]; exact hwf) (by rw [readSize] at hle; omega)
    ((Conn.pending_of_inbound hin).trans hpend) (hrel.of_inbound hin) (hhead.of_inbound hin)
    (hfirst.of_inbound hin)).1
  unfold readRound at hdone
  rw [hk, hsent] at hdone
  dsimp only at hdone
  rw [if_neg (by norm_num)] at hdone
  simp only [hret, ne_eq, not_true_eq_false, if_false] at hdone
  split_ifs at hdone
  · cases hdone; rfl
  · split at hdone <;> cases hdone

/-- On answers to its requests whose headers and first parts each arrive in one receive, on a
connection where no receive fails, the rounds of a read whose sends go through return success;
they take exactly the answers' bytes of the stream and one pair of sends per answer, and the
packet number moves on by one per answer. -/
theorem fileReadLoop_ok (handle : UInt64) {length : Nat} (hsmall : length < 2 ^ 31)
    (hfile : ∀ size, (D.filePacket handle size).length = 16) :
    ∀ {answers : List Frame} {currentCount : Nat} {copies : List (Int × Int)}
      {received : List UInt8} {client : AfcClient} {rest : List UInt8},
      currentCount ≤ length →
      ReadAnswers D length currentCount client.afcPacket.packetNum answers →
      client.connection.pending = (answers.map (Frame.bytes D)).flatten ++ rest →
      client.connection.Reliable → HeadsWhole D client.connection 0 answers →
      CapsCover (readSends answers) client.connection.sendCaps →
      (fileReadLoop length (readRound D handle length) (readRound_spec handle length) currentCount
          copies received client).1.ret = eSuccess ∧
        client.connection.Took (answers.map (Frame.bytes D)).flatten.length
          (fileReadLoop length (readRound D handle length) (readRound_spec handle length)
            currentCount copies received client).2.connection ∧
        (fileReadLoop length (readRound D handle length) (readRound_spec handle length)
            currentCount copies received client).2.connection.sendCaps =
          client.connection.sendCaps.drop (readSends answers).length ∧
        (fileReadLoop length (readRound D handle length) (readRound_spec handle length)
            currentCount copies received client).2.afcPacket.packetNum =
          client.afcPacket.packetNum + UInt64.ofNat answers.length
  | [], currentCount, _, _, _, _, _, hans, _, _, _, _ => by
    have hge : length ≤ currentCount := hans
    rw [fileReadLoop_stop (by omega)]
    exact ⟨rfl, by simpa using Conn.Took.of_inbound rfl, by simp [readSends], by simp⟩
  | f :: fs, currentCount, copies, received, client, rest, hle, ⟨hlt, hwf, _, hsize, hmore⟩,
      hpend, hrel, ⟨hh, hf, hws⟩, hcaps => by
    have hcount : (currentCount : Int) < length := by exact_mod_cast hlt
    have hcaps' : 40 ≤ _ ∧ 16 ≤ _ ∧
        CapsCover (readSends fs) client.connection.sendCaps.tail.tail := hcaps
    have hpend0 :
        client.connection.pending = f.bytes D ++ ((fs.map (Frame.bytes D)).flatten ++ rest) := by
      simp [hpend]
    have hin := afterRequest_inbound (D := D) handle (readSize length currentCount) client
    have hsent := (afterRequest_whole (D := D) (hfile (readSize length currentCount))
      ⟨hcaps'.1, hcaps'.2.1, trivial⟩).2
    have htail : client.connection.sendCaps.tail.tail = client.connection.sendCaps.drop 2 := by
      rw [← List.drop_one, ← List.drop_one, List.drop_drop]
    have hround := @readRound_answer D handle length currentCount copies received client f _
      hsmall hlt hwf hsize hpend0 hrel
    rcases hstep : readRound D handle length currentCount copies received client with
      ⟨result, client'⟩ | ⟨currentCount', copies', received', client'⟩
    · rw [hstep] at hround
      have hok := readRound_done_ok hwf hsize hpend0 hrel hh (by simpa using hf) (hfile _)
        ⟨hcaps'.1, hcaps'.2.1, trivial⟩ hstep
      rcases hround with hne | ⟨hnil, -, rfl⟩
      · exact absurd hok hne
      obtain rfl : fs = [] := hmore.elim (·.2) fun h => absurd hnil h.1
      rw [fileReadLoop_done hcount hstep]
      obtain ⟨-, -, -, hafter⟩ := @afcReceiveData_frame D
        (afterRequest D handle (readSize length currentCount) client) f rest
        (by rw [afterRequest_packetNum]; exact hwf) (by rw [readSize] at hsize; omega)
        ((Conn.pending_of_inbound hin).trans (by simpa using hpend0)) (hrel.of_inbound hin)
        (hh.of_inbound hin) ((by simpa using hf : client.connection.Whole 40 _).of_inbound hin)
      refine ⟨hok, by simpa using Conn.Took.of_inbound_after hin hafter, ?_, ?_⟩
      · rw [afcUnlock_connection, hafter.sendCaps, hsent, htail]
        rfl
      · rw [afcUnlock_afcPacket, afcReceiveData_afcPacket, afterRequest_packetNum]
        rfl
    · rw [hstep] at hround
      obtain ⟨hne, rfl, rfl, rfl, rfl, hafter⟩ := hround
      rw [fileReadLoop_next hcount hstep]
      obtain ⟨hpend', hrel'⟩ := afterRequest_after hafter hpend0 hrel
      obtain ⟨h0, h1, h2, h3⟩ := @fileReadLoop_ok handle length hsmall hfile fs
        (currentCount + f.payload.length) (copies ++ [((currentCount : Int), (f.payload.length : Int))])
        (received ++ f.payload) _ rest (by rw [readSize] at hsize; omega)
        (by rw [afcReceiveData_afcPacket, afterRequest_packetNum]
            exact (hmore.resolve_left fun h => hne h.1).2) hpend' hrel'
        (HeadsWhole.after hafter
          ((by simpa using hws : HeadsWhole D client.connection _ fs).of_inbound hin))
        (by rw [afcReceiveData_sendCaps, hsent]; exact hcaps'.2.2)
      refine ⟨h0, by simpa using (Conn.Took.of_inbound_after hin hafter).trans h1, ?_, ?_⟩
      · rw [h2, afcReceiveData_sendCaps, hsent, htail, List.drop_drop,
          show readSends (f :: fs) = 40 :: 16 :: readSends fs from rfl, List.length_cons,
          List.length_cons, Nat.add_comm]
      · rw [h3, afcReceiveData_afcPacket, afterRequest_packetNum, List.length_cons,
          uint64_ofNat_succ, add_assoc, add_comm 1]

end ReadRounds

/-! ## A read on answers to its requests -/

end Libiphone.AFC
