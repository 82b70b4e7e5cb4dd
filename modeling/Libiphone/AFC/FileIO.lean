import Libiphone.AFC.Receive
import Libiphone.AFC.Dispatch

/-!
# Reading and writing a file

`afc_file_read` (`AFC.c`, lines 1059-1120) loops: it asks for
`min(length - current_count, MAXIMUM_READ_SIZE)` bytes, receives the answer and copies it into
`data` at `current_count`.  Each copy is clamped to `length`, not to what is left of the buffer.
`afc_file_write` (lines 1132-1216) sends the data in full segments of `MAXIMUM_WRITE_SIZE`
bytes, each with its own acknowledgement, and then the rest in one packet.  Both packets carry
the 8-byte file handle ahead of the data, in the first `this_length - 40 = 8` bytes of a
two-part packet.

Each loop is written as one round (`readRound`, `writeSegment`) that either returns or hands the
next round its state, and the loop runs rounds.  A round's `Spec` says everything the
properties below need of it: a round that returns unlocks the client once, and a round that goes
on leaves the mutex alone (and, for a read, has used up part of the connection, which is why the
read loop ends).  From it:

* `afcFileRead_mutex` and `afcFileWrite_mutex`: every return path unlocks what it locked;
* the copy of a round that goes on ends at `current_count + min(bytes, length)`, which passes
  `length` as soon as an answer is longer than what is left to read: a run on two answers shows
  it.
-/

namespace Libiphone.AFC

variable (D : AfcDefs)

/-! ## `afc_file_read` -/

/-- What `afc_file_read` leaves behind. -/
structure FileRead where
  /-- The return value. -/
  ret : Int
  /-- `*bytes`, if the call set it. -/
  bytes : Option Nat
  /-- Each `memcpy` into `data`, in order: the offset it writes at and its count. -/
  copies : List (Int × Int)
  /-- The bytes the copies take from the answers, in order. -/
  received : List UInt8

/-- `(bytes_loc > length) ? length : bytes_loc` (lines 1108 and 1111). -/
def readClamp (bytesLoc length : Int) : Int := if bytesLoc > length then length else bytesLoc

/-- How one round of a loop ends: the call returns, or the next round starts. -/
inductive ReadStep
  | done (result : FileRead) (client : AfcClient)
  | next (currentCount : Int) (copies : List (Int × Int)) (received : List UInt8)
      (client : AfcClient)

/-- One round of the loop of `afc_file_read` (lines 1075-1112): ask for what is left, up to
`MAXIMUM_READ_SIZE = 1 << 16` bytes, receive the answer, copy it at `current_count`. -/
def readRound (handle : UInt64) (length currentCount : Int) (copies : List (Int × Int))
    (received : List UInt8) (client : AfcClient) : ReadStep :=
  match afcDispatchPacket D (withPacket client D.opRead 0 0)
      (D.filePacket handle (min (length - currentCount) 65536).toNat) with
  | (bytesLoc, client) =>
    if bytesLoc ≤ 0 then .done ⟨D.eNotEnoughData, none, copies, received⟩ (afcUnlock client)
    else
      match afcReceiveData D client with
      | (r, client) =>
        if r.ret ≠ eSuccess then .done ⟨r.ret, none, copies, received⟩ (afcUnlock client)
        else if r.bytes = 0 then
          .done ⟨r.ret, some (asUInt32 currentCount), copies, received⟩ (afcUnlock client)
        else
          match r.dumpHere with
          | some input =>
            .next (currentCount + readClamp r.bytes length)
              (copies ++ [(currentCount, readClamp r.bytes length)])
              (received ++ input.take (readClamp r.bytes length).toNat) client
          | none => .next currentCount copies received client

/-- What a round promises about the client it hands on. -/
def ReadStep.Spec (client : AfcClient) : ReadStep → Prop
  | .done _ client' => client'.mutex = client.mutex ++ [.unlock]
  | .next _ _ _ client' =>
    client'.mutex = client.mutex ∧ client'.connection.size < client.connection.size

variable {D} in
/-- A round that returns unlocks once; a round that goes on got a whole answer, so it used up
part of the connection. -/
theorem readRound_spec (handle : UInt64) (length currentCount : Int) (copies : List (Int × Int))
    (received : List UInt8) (client : AfcClient) :
    (readRound D handle length currentCount copies received client).Spec client := by
  unfold readRound
  dsimp only
  split_ifs with h1 h2
  · simp [ReadStep.Spec]
  · simp [ReadStep.Spec]
  · simp [ReadStep.Spec]
  · have hlt := afcReceiveData_size_lt (not_not.mp h2)
    simp only [afcDispatchPacket_size, withPacket_connection] at hlt
    split <;> exact ⟨by simp, hlt⟩

/-- The loop of `afc_file_read` (lines 1075-1113), from `current_count`: while
`current_count < length`, run a round, until one returns.  The round is a parameter, with the
promise that a round that goes on used up part of the connection. -/
def fileReadLoop (length : Int)
    (round : Int → List (Int × Int) → List UInt8 → AfcClient → ReadStep)
    (hround : ∀ currentCount copies received client,
      (round currentCount copies received client).Spec client)
    (currentCount : Int) (copies : List (Int × Int)) (received : List UInt8)
    (client : AfcClient) : FileRead × AfcClient :=
  if currentCount < length then
    match h : round currentCount copies received client with
    | .done result client => (result, client)
    | .next currentCount' copies' received' client' =>
      have : client'.connection.size < client.connection.size := by
        have := hround currentCount copies received client
        rw [h] at this
        exact this.2
      fileReadLoop length round hround currentCount' copies' received' client'
  else (⟨eSuccess, some (asUInt32 currentCount), copies, received⟩, afcUnlock client)
termination_by client.connection.size

/-- `afc_file_read(client, handle, data, length, bytes)` (lines 1059-1120). -/
def afcFileRead (client : AfcClient) (handle : UInt64) (length : Int) : FileRead × AfcClient :=
  if handle = 0 ∨ length < 0 then (⟨D.eInvalidArgument, none, [], []⟩, client)
  else fileReadLoop length (readRound D handle length) (readRound_spec handle length) 0 [] []
    (afcLock client)

section Loop

variable {length : Int}
  {round : Int → List (Int × Int) → List UInt8 → AfcClient → ReadStep}
  {hround : ∀ currentCount copies received client,
    (round currentCount copies received client).Spec client}
  {currentCount : Int} {copies : List (Int × Int)} {received : List UInt8} {client : AfcClient}

theorem fileReadLoop_done {result : FileRead} {client' : AfcClient} (hlt : currentCount < length)
    (h : round currentCount copies received client = .done result client') :
    fileReadLoop length round hround currentCount copies received client = (result, client') := by
  rw [fileReadLoop, if_pos hlt]
  split <;> rename_i heq <;> rw [h] at heq <;> cases heq
  rfl

theorem fileReadLoop_next {currentCount' : Int} {copies' : List (Int × Int)}
    {received' : List UInt8} {client' : AfcClient} (hlt : currentCount < length)
    (h : round currentCount copies received client =
      .next currentCount' copies' received' client') :
    fileReadLoop length round hround currentCount copies received client =
      fileReadLoop length round hround currentCount' copies' received' client' := by
  rw [fileReadLoop, if_pos hlt]
  split <;> rename_i heq <;> rw [h] at heq <;> cases heq
  rfl

theorem fileReadLoop_stop (hge : ¬ currentCount < length) :
    fileReadLoop length round hround currentCount copies received client =
      (⟨eSuccess, some (asUInt32 currentCount), copies, received⟩, afcUnlock client) := by
  rw [fileReadLoop, if_neg hge]

/-- Every run of the loop ends by unlocking the client once. -/
theorem fileReadLoop_mutex :
    (fileReadLoop length round hround currentCount copies received client).2.mutex =
      client.mutex ++ [.unlock] := by
  induction currentCount, copies, received, client
    using fileReadLoop.induct length round hround with
  | case1 cc copies received client hlt result client' h =>
    have hs := hround cc copies received client
    rw [h] at hs
    rw [fileReadLoop_done hlt h]
    exact hs
  | case2 cc copies received client hlt cc' copies' received' client' h _ ih =>
    have hs := hround cc copies received client
    rw [h] at hs
    rw [fileReadLoop_next hlt h, ih, hs.1]
  | case3 cc copies received client hge => rw [fileReadLoop_stop hge]; rfl

end Loop

/-- Ten bytes asked for: the device answers the first request with 6 bytes and the second, for
the 4 bytes left, with 10.  The second copy writes 10 bytes at offset 6 of the 10-byte buffer,
and `*bytes` is 16. -/
theorem afcFileRead_overruns_data :
    let client : AfcClient :=
      ⟨⟨[leEncodeHeader ⟨46, 46, 1, 0x02⟩ ++ [1, 2, 3, 4, 5, 6],
          leEncodeHeader ⟨50, 50, 2, 0x02⟩ ++ [7, 7, 7, 7, 7, 7, 7, 7, 7, 7]], [40, 16, 40, 16], []⟩,
        ⟨0, 0, 0, 0⟩, []⟩
    (afcFileRead sampleDefs client 1 10).1.copies = [(0, 6), (6, 10)] ∧
      (afcFileRead sampleDefs client 1 10).1.bytes = some 16 := by
  intro client
  have h1 : readRound sampleDefs 1 10 0 [] [] (afcLock client) =
      .next 6 [(0, 6)] [1, 2, 3, 4, 5, 6]
        ⟨⟨[leEncodeHeader ⟨50, 50, 2, 0x02⟩ ++ [7, 7, 7, 7, 7, 7, 7, 7, 7, 7]], [40, 16],
          leEncodeHeader ⟨56, 56, 1, 0x0f⟩ ++ sampleDefs.filePacket 1 10⟩, ⟨56, 56, 1, 0x0f⟩,
          [.lock]⟩ := by
    simp [client, readRound, afcDispatchPacket, dispatchSend, dispatchHeader, fillEntireLength,
      fillThisLength, packetLength, withPacket, dispatchWhole, iphoneDeviceSend, sampleDefs,
      leEncodeHeader, u64Bytes, leBytes, afcMagic, asInt32, afcReceiveData, iphoneDeviceRecv,
      receiveAfterHeader, receivePayload, finishPayload, receiveRest, checkOperation,
      leDecodeHeader, u64Of, ofLeBytes, lengthAfterHeader, eSuccess, readClamp, afcLock, UInt64.size, UInt8.size]
  have h2 : readRound sampleDefs 1 10 6 [(0, 6)] [1, 2, 3, 4, 5, 6]
      ⟨⟨[leEncodeHeader ⟨50, 50, 2, 0x02⟩ ++ [7, 7, 7, 7, 7, 7, 7, 7, 7, 7]], [40, 16],
          leEncodeHeader ⟨56, 56, 1, 0x0f⟩ ++ sampleDefs.filePacket 1 10⟩, ⟨56, 56, 1, 0x0f⟩,
          [.lock]⟩ =
      .next 16 [(0, 6), (6, 10)] [1, 2, 3, 4, 5, 6, 7, 7, 7, 7, 7, 7, 7, 7, 7, 7]
        ⟨⟨[], [], leEncodeHeader ⟨56, 56, 1, 0x0f⟩ ++ sampleDefs.filePacket 1 10 ++
          leEncodeHeader ⟨56, 56, 2, 0x0f⟩ ++ sampleDefs.filePacket 1 4⟩, ⟨56, 56, 2, 0x0f⟩,
          [.lock]⟩ := by
    simp [readRound, afcDispatchPacket, dispatchSend, dispatchHeader, fillEntireLength,
      fillThisLength, packetLength, withPacket, dispatchWhole, iphoneDeviceSend, sampleDefs,
      leEncodeHeader, u64Bytes, leBytes, afcMagic, asInt32, afcReceiveData, iphoneDeviceRecv,
      receiveAfterHeader, receivePayload, finishPayload, receiveRest, checkOperation,
      leDecodeHeader, u64Of, ofLeBytes, lengthAfterHeader, eSuccess, readClamp, UInt64.size, UInt8.size]
  rw [afcFileRead, if_neg (by decide), fileReadLoop_next (by decide) h1,
    fileReadLoop_next (by decide) h2, fileReadLoop_stop (by decide)]
  exact ⟨rfl, rfl⟩

/-! ## `afc_file_write` -/

/-- `current_count += bytes_loc`: an `int` added to a `uint32_t`. -/
def addCount (currentCount : Nat) (bytesLoc : Int) : Nat := asUInt32 (currentCount + bytesLoc)

/-- How a step of `afc_file_write` ends: the call returns (its value and `*bytes`, if set), or
the next step starts from `current_count`. -/
inductive WriteStep
  | done (ret : Int) (bytes : Option Nat) (client : AfcClient)
  | next (currentCount : Nat) (client : AfcClient)

/-- `MAXIMUM_WRITE_SIZE` (line 1136). -/
def maximumWriteSize : Nat := 1 <<< 15

/-- One full segment of `size = MAXIMUM_WRITE_SIZE` bytes (lines 1152-1179): a two-part packet,
the handle and then `size` bytes of `data` from `current_count`, and its acknowledgement. -/
def writeSegment (size : Nat) (handle : UInt64) (data : List UInt8) (currentCount : Nat)
    (client : AfcClient) : WriteStep :=
  match afcDispatchPacket D (withPacket client D.opWrite (48 + UInt64.ofNat size) 48)
      (u64Bytes handle ++ (data.drop currentCount).take size) with
  | (bytesLoc, client) =>
    if bytesLoc < 0 then .done D.eNotEnoughData none (afcUnlock client)
    else
      match afcReceiveData D client with
      | (r, client) =>
        if r.ret ≠ eSuccess then .done r.ret none (afcUnlock client)
        else .next (addCount currentCount bytesLoc) client

/-- Go on with `k` from the state a step hands on; a step that returns ends the call. -/
def WriteStep.andThen (step : WriteStep) (k : Nat → AfcClient → WriteStep) : WriteStep :=
  match step with
  | .done ret bytes client => .done ret bytes client
  | .next currentCount client => k currentCount client

/-- The loop over the full segments (lines 1151-1180), `n` of them left. -/
def writeSegments (size : Nat) (handle : UInt64) (data : List UInt8) :
    Nat → Nat → AfcClient → WriteStep
  | 0, currentCount, client => .next currentCount client
  | n + 1, currentCount, client =>
    (writeSegment D size handle data currentCount client).andThen (writeSegments size handle data n)

/-- The end of `afc_file_write` (lines 1185-1215): done if `current_count` is `length`, else one
packet with the rest and its acknowledgement.  `*bytes` counts what the dispatches returned. -/
def writeRest (handle : UInt64) (data : List UInt8) (length : Int) (currentCount : Nat)
    (client : AfcClient) : Int × Option Nat × AfcClient :=
  if currentCount = asUInt32 length then (eSuccess, some currentCount, afcUnlock client)
  else
    match afcDispatchPacket D
        (withPacket client D.opWrite (48 + UInt64.ofNat (asUInt32 (length - currentCount))) 48)
        (u64Bytes handle ++ (data.drop currentCount).take (asUInt32 (length - currentCount))) with
    | (bytesLoc, client) =>
      if bytesLoc ≤ 0 then (eSuccess, some (addCount currentCount bytesLoc), afcUnlock client)
      else
        match afcReceiveData D client with
        | (r, client) => (r.ret, some (addCount currentCount bytesLoc), afcUnlock client)

/-- `afc_file_write(client, handle, data, length, bytes)` (lines 1132-1216), `data` being the
caller's buffer. -/
def afcFileWrite (client : AfcClient) (handle : UInt64) (data : List UInt8) (length : Int) :
    Int × Option Nat × AfcClient :=
  if handle = 0 ∨ length < 0 then (D.eInvalidArgument, none, client)
  else
    match writeSegments D maximumWriteSize handle data (length / maximumWriteSize).toNat 0
        (afcLock client) with
    | .done ret bytes client => (ret, bytes, client)
    | .next currentCount client => writeRest D handle data length currentCount client

/-- Ten bytes to write, a connection that takes the 40 header bytes and then nothing, and a
status answer of 0: the dispatch returns the 40 header bytes as its count, so the call returns
success with `*bytes = 40`, and no byte of the file went out. -/
theorem afcFileWrite_counts_header :
    let client : AfcClient :=
      ⟨⟨[leEncodeHeader ⟨48, 48, 1, 0x01⟩ ++ List.replicate 8 0], [40, 0], []⟩, ⟨0, 0, 0, 0⟩, []⟩
    (afcFileWrite sampleDefs client 1 (List.replicate 10 7) 10).1 = eSuccess ∧
      (afcFileWrite sampleDefs client 1 (List.replicate 10 7) 10).2.1 = some 40 ∧
      (afcFileWrite sampleDefs client 1 (List.replicate 10 7) 10).2.2.connection.wire =
        leEncodeHeader ⟨58, 48, 1, 0x10⟩ := by
  simp [afcFileWrite, writeSegments, maximumWriteSize, writeRest, afcDispatchPacket, dispatchSend,
    dispatchSplit, dispatchHeader, fillEntireLength, fillThisLength, withPacket, iphoneDeviceSend,
    sampleDefs, leEncodeHeader, u64Bytes, leBytes, afcMagic, asInt32, asUInt32, addCount,
    afcReceiveData, iphoneDeviceRecv, receiveAfterHeader, receivePayload, finishPayload,
    receiveRest, checkOperation, leDecodeHeader, u64Of, ofLeBytes, lengthAfterHeader, eSuccess, afcLock,
    afcUnlock, UInt64.size, UInt8.size]

/-! ## Every return path unlocks what it locked -/

section Mutex

variable {D}

theorem afcFileRead_mutex (client : AfcClient) (handle : UInt64) (length : Int) :
    Balanced client (afcFileRead D client handle length).2 := by
  unfold afcFileRead
  split_ifs
  · exact .inl rfl
  · exact .inr (by rw [fileReadLoop_mutex]; simp)

/-- What a step of `afc_file_write` promises about the client it hands on. -/
def WriteStep.Spec (client : AfcClient) : WriteStep → Prop
  | .done _ _ client' => client'.mutex = client.mutex ++ [.unlock]
  | .next _ client' => client'.mutex = client.mutex

theorem writeSegment_spec (size : Nat) (handle : UInt64) (data : List UInt8) (currentCount : Nat)
    (client : AfcClient) : (writeSegment D size handle data currentCount client).Spec client := by
  unfold writeSegment
  dsimp only
  split_ifs <;> simp [WriteStep.Spec]

theorem WriteStep.Spec.andThen {client : AfcClient} {step : WriteStep}
    {k : Nat → AfcClient → WriteStep} (hs : step.Spec client)
    (hk : ∀ currentCount client', client'.mutex = client.mutex →
      (k currentCount client').Spec client') :
    (step.andThen k).Spec client := by
  cases step with
  | done => exact hs
  | next currentCount client' =>
    have := hk currentCount client' hs
    revert this
    cases k currentCount client' <;> simp_all [WriteStep.Spec, WriteStep.andThen]

theorem writeSegments_spec (size : Nat) (handle : UInt64) (data : List UInt8) (n : Nat) :
    ∀ currentCount client,
      (writeSegments D size handle data n currentCount client).Spec client := by
  induction n with
  | zero => intro _ _; rfl
  | succ n ih =>
    intro currentCount client
    exact (writeSegment_spec size handle data currentCount client).andThen fun _ _ _ => ih _ _

theorem writeRest_mutex (handle : UInt64) (data : List UInt8) (length : Int) (currentCount : Nat)
    (client : AfcClient) :
    (writeRest D handle data length currentCount client).2.2.mutex = client.mutex ++ [.unlock] := by
  unfold writeRest
  split_ifs
  · rfl
  · dsimp only
    split_ifs <;> simp

theorem afcFileWrite_mutex (client : AfcClient) (handle : UInt64) (data : List UInt8)
    (length : Int) : Balanced client (afcFileWrite D client handle data length).2.2 := by
  unfold afcFileWrite
  split_ifs
  · exact .inl rfl
  · have hs := writeSegments_spec (D := D) maximumWriteSize handle data
      (length / maximumWriteSize).toNat 0 (afcLock client)
    split <;> rename_i heq <;> rw [heq] at hs
    · exact .inr (by simp_all [WriteStep.Spec])
    · exact .inr (by rw [writeRest_mutex]; simp_all [WriteStep.Spec])

end Mutex

end Libiphone.AFC
