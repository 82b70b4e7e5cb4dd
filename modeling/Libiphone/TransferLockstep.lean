import Libiphone.Lockstep
import Libiphone.AFC.Transfer

/-!
# Transfers keep in step too

`session_lockstep` covers the calls that send one request.  `afc_file_read` and
`afc_file_write` send one request per round and read one answer per request, so a session that
moves file data stays in step only if every round consumes exactly its answer, and the call after
a transfer starts where the transfer's last answer ended.

`transcript_lockstep` says that it does, over any sequence of the seventeen operations of the AFC
client.  Give each call the answers it should get (`AfcCall.Answered`): one complete frame for a
call that sends one request, data frames of at most the size asked for for a read, and one
answer that `afc_receive_data` accepts per chunk for a write.  Lay them end to end in the stream,
with every header and first part arriving in one receive, on a connection where no receive
fails and every send goes through.  Then

* every read and every write returns success, and every other call what it makes of its
  answer's code (`AfcCall.expected`);
* the wire gains exactly each call's requests in turn (`AfcCall.sent`), numbered on from the
  client's last;
* the stream loses exactly the answers, and the packet number moves on by one per answer.

What calls take of the stream while they also send is `Conn.Took` (`Libiphone.Connection`).
`AfcCall.step` says what one call takes and sends, from `AfcCall.exchange` for a call that sends
one request, and from the rounds of a read (`fileReadLoop_ok`) and of a write
(`ackedClient_took`); the session follows by induction over the calls.
-/

namespace Libiphone

open AFC

/-! ## Where the answers' chunks end, across calls -/

section Heads

variable {D : AfcDefs}

theorem HeadsWhole.took {c c' : Conn} {k : Nat} (h : c.Took k c') :
    ∀ {base : Nat} {fs : List Frame}, HeadsWhole D c (base + k) fs → HeadsWhole D c' base fs
  | _, [], _ => trivial
  | base, f :: fs, ⟨h1, h2, h3⟩ =>
    ⟨h.whole (by simpa only [Nat.add_right_comm] using h1),
      h.whole (by simpa only [Nat.add_right_comm] using h2),
      HeadsWhole.took h (by simpa only [Nat.add_right_comm] using h3)⟩

theorem HeadsWhole.append {c : Conn} {gs : List Frame} (fs : List Frame) :
    ∀ {base : Nat}, HeadsWhole D c base (fs ++ gs) ↔
      HeadsWhole D c base fs ∧
        HeadsWhole D c (base + (fs.map (Frame.bytes D)).flatten.length) gs := by
  induction fs with
  | nil => simp [HeadsWhole]
  | cons f fs ih =>
    intro base
    simp only [List.cons_append, HeadsWhole, List.append_eq, ih, List.map_cons, List.flatten_cons,
      List.length_append, Nat.add_assoc, and_assoc]

end Heads

/-! ## The rounds of a transfer -/

section Rounds

variable {D : AfcDefs}

/-- The acknowledgements of a write, each an answer `afc_receive_data` accepts and each header
and first part arriving in one receive, are consumed in turn: the rounds take exactly their
bytes of the stream, and the packet number moves on by one per chunk. -/
theorem ackedClient_took (handle : UInt64) :
    ∀ {chunks : List (List UInt8)} {acks : List Frame} {client : AfcClient} {rest : List UInt8},
      acks.length = chunks.length → AnswersFrom D client.afcPacket.packetNum acks →
      client.connection.pending = (acks.map (Frame.bytes D)).flatten ++ rest →
      client.connection.Reliable → HeadsWhole D client.connection 0 acks →
      client.connection.Took (acks.map (Frame.bytes D)).flatten.length
          (ackedClient D handle chunks client).connection ∧
        (ackedClient D handle chunks client).afcPacket.packetNum =
          client.afcPacket.packetNum + UInt64.ofNat chunks.length
  | [], [], _, _, _, _, _, _, _ => ⟨by simpa using Conn.Took.of_inbound rfl, by simp [ackedClient]⟩
  | [], _ :: _, _, _, hlen, _, _, _, _ => absurd hlen (by simp)
  | _ :: _, [], _, _, hlen, _, _, _, _ => absurd hlen (by simp)
  | chunk :: chunks, f :: fs, client, rest, hlen, ⟨hwf, hsmall, hfs⟩, hpend, hrel,
      ⟨hh, hf, hws⟩ => by
    have hin := afterWrite_inbound D client handle chunk
    obtain ⟨-, -, -, hafter⟩ := @afcReceiveData_frame D (afterWrite D client handle chunk) f
      ((fs.map (Frame.bytes D)).flatten ++ rest) hwf hsmall
      (show client.connection.pending = _ by simp [hpend]) hrel hh (by simpa using hf)
    have hpend' : (afcReceiveData D (afterWrite D client handle chunk)).2.connection.pending =
        (fs.map (Frame.bytes D)).flatten ++ rest := by
      rw [hafter.pending]
      show client.connection.pending.drop _ = _
      simp [hpend]
    obtain ⟨htook, hpkt⟩ := ackedClient_took handle (by simpa using hlen)
      (by rw [afcReceiveData_afcPacket]; exact hfs) hpend' (hafter.reliable hrel)
      (HeadsWhole.after hafter
        ((by simpa using hws : HeadsWhole D client.connection _ fs).of_inbound hin))
    refine ⟨by simpa using (Conn.Took.of_inbound_after hin hafter).trans htook, ?_⟩
    rw [ackedClient, hpkt, afcReceiveData_afcPacket, List.length_cons, uint64_ofNat_succ]
    simp only [afterWrite, writeHeader]
    rw [add_assoc, add_comm 1]

end Rounds

/-! ## One call -/

namespace AfcCall

variable (D : AfcDefs)

/-- The answers the device gives a call, the first answering the request numbered one past
`packetNum`: one complete frame, for a call that sends one request; data frames of at most what
each round asks for, for a read whose arguments pass its checks (`ReadAnswers`); one answer
`afc_receive_data` accepts per chunk, for such a write (`AnswersFrom`).  A call whose arguments
fail its checks has no such answers (`False`), so a session that holds one is not covered. -/
def Answered (packetNum : UInt64) (call : AfcCall) (answers : List Frame) : Prop :=
  match call.request D, call with
  | some (_, payload), _ =>
    ∃ f, answers = [f] ∧ payload.length + 40 < 2 ^ 31 ∧ f.Complete (packetNum + 1) ∧
      f.payload.length < 2 ^ 31
  | none, fileRead handle length =>
    handle ≠ 0 ∧ 0 ≤ length ∧ length < 2 ^ 31 ∧ ReadAnswers D length.toNat 0 packetNum answers
  | none, fileWrite handle data length =>
    handle ≠ 0 ∧ 0 ≤ length ∧ length < 2 ^ 31 ∧ length.toNat ≤ data.length ∧
      answers.length = (writeChunks data length.toNat).length ∧ AnswersFrom D packetNum answers
  | none, _ => False

/-- The requests the call puts on the wire, numbered on from one past `packetNum`. -/
def sent (packetNum : UInt64) (call : AfcCall) (answers : List Frame) : List UInt8 :=
  match call.request D, call with
  | some (operation, payload), _ => requestBytes D (packetNum + 1) operation payload
  | none, fileRead handle length => readRequests D handle length.toNat 0 packetNum answers
  | none, fileWrite handle data length =>
    writeFrames D handle packetNum (writeChunks data length.toNat)
  | none, _ => []

/-- How many bytes each send of the call is given. -/
def sendSizes (call : AfcCall) (answers : List Frame) : List Nat :=
  match call.request D, call with
  | some (_, payload), _ => requestSends payload
  | none, fileRead _ _ => readSends answers
  | none, fileWrite _ data length => writeSends (writeChunks data length.toNat)
  | none, _ => []

/-- The code the call should return on `answers`: success for a transfer, and for any other call
what it makes of its answer's code. -/
def expected (call : AfcCall) (answers : List Frame) : Int :=
  match call.request D, call with
  | some _, _ => (answers.map fun f => call.reported D (f.code D)).headD eSuccess
  | none, _ => eSuccess

/-- What a call leaves when it gets `answers`: it returns the code expected, its receives take
exactly the answers' bytes, its requests go on the wire, each of its sends uses up one send of
the connection, and the packet number moves on by one per answer. -/
structure Stepped (call : AfcCall) (client : AfcClient) (answers : List Frame) : Prop where
  ret : call.ret D client = call.expected D answers
  took : client.connection.Took (answers.map (Frame.bytes D)).flatten.length
    (call.run D client).connection
  wire : (call.run D client).connection.wire =
    client.connection.wire ++ call.sent D client.afcPacket.packetNum answers
  sendCaps : (call.run D client).connection.sendCaps =
    client.connection.sendCaps.drop (call.sendSizes D answers).length
  packetNum : (call.run D client).afcPacket.packetNum =
    client.afcPacket.packetNum + UInt64.ofNat answers.length

variable {D}

section Step

variable {call : AfcCall} {client : AfcClient} {answers : List Frame} {rest : List UInt8}

theorem step_single {operation : UInt64} {payload : List UInt8}
    (hreq : call.request D = some (operation, payload))
    (hans : call.Answered D client.afcPacket.packetNum answers)
    (hpend : client.connection.pending = (answers.map (Frame.bytes D)).flatten ++ rest)
    (hrel : client.connection.Reliable) (hheads : HeadsWhole D client.connection 0 answers)
    (hcaps : CapsCover (call.sendSizes D answers) client.connection.sendCaps) :
    call.Stepped D client answers := by
  obtain ⟨f, rfl, hsize, hc, hfs⟩ : ∃ f, answers = [f] ∧ payload.length + 40 < 2 ^ 31 ∧
      f.Complete (client.afcPacket.packetNum + 1) ∧ f.payload.length < 2 ^ 31 := by
    simpa only [Answered, hreq] using hans
  obtain ⟨hh, hf, -⟩ := hheads
  obtain ⟨hret, hex⟩ := exchange hreq (⟨hsize, by simpa only [sendSizes, hreq] using hcaps, hc,
    hfs, by simpa using hpend, hrel, hh, by simpa using hf⟩ : Carries D client payload f rest)
  have hin : (sentRequest D client operation payload).connection.inbound =
      client.connection.inbound := rfl
  refine ⟨by simp only [hret, expected, hreq]; rfl, ?_, ?_, ?_, ?_⟩
  · simpa using Conn.Took.of_inbound_after hin hex.connection
  · simp only [hex.connection.wire, sentRequest, sent, hreq]
  · simp only [hex.connection.sendCaps, sentRequest, sendSizes, hreq]
  · rw [hex.afcPacket]
    rfl

theorem step_fileRead {handle : UInt64} {length : Int}
    (hfile : ∀ size, (D.filePacket handle size).length = 16)
    (hans : (fileRead handle length).Answered D client.afcPacket.packetNum answers)
    (hpend : client.connection.pending = (answers.map (Frame.bytes D)).flatten ++ rest)
    (hrel : client.connection.Reliable) (hheads : HeadsWhole D client.connection 0 answers)
    (hcaps : CapsCover ((fileRead handle length).sendSizes D answers) client.connection.sendCaps) :
    (fileRead handle length).Stepped D client answers := by
  obtain ⟨hhandle, hl0, hl, hra⟩ := hans
  have hn : ((length.toNat : Nat) : Int) = length := Int.toNat_of_nonneg hl0
  have hsmall : length.toNat < 2 ^ 31 := by omega
  obtain ⟨hok, htook, hcaps', hpkt⟩ := @fileReadLoop_ok D handle length.toNat hsmall hfile answers
    0 [] [] (afcLock client) rest (Nat.zero_le _) hra hpend hrel hheads hcaps
  have hwire := (@fileReadLoop_answers D handle length.toNat hsmall answers 0 [] []
    (afcLock client) rest (Nat.zero_le _) hra hpend hrel hok).2 hcaps hfile
  rw [Nat.cast_zero, hn] at hok hwire htook hcaps' hpkt
  have hargs : ¬ (handle = 0 ∨ length < 0) := not_or.mpr ⟨hhandle, by omega⟩
  refine ⟨?_, ?_, ?_, ?_, ?_⟩ <;> simp only [ret, run, afcFileRead, if_neg hargs]
  · exact hok
  · exact htook
  · exact hwire
  · exact hcaps'
  · exact hpkt

theorem step_fileWrite {handle : UInt64} {data : List UInt8} {length : Int}
    (hans : (fileWrite handle data length).Answered D client.afcPacket.packetNum answers)
    (hpend : client.connection.pending = (answers.map (Frame.bytes D)).flatten ++ rest)
    (hrel : client.connection.Reliable) (hheads : HeadsWhole D client.connection 0 answers)
    (hcaps : CapsCover ((fileWrite handle data length).sendSizes D answers)
      client.connection.sendCaps) :
    (fileWrite handle data length).Stepped D client answers := by
  obtain ⟨hhandle, hl0, hl, hdata, hlen, hfrom⟩ := hans
  have hn : ((length.toNat : Nat) : Int) = length := Int.toNat_of_nonneg hl0
  have hacks := acksOk_of_answers handle hlen hfrom hpend hrel hheads
  obtain ⟨hret, hrun⟩ := @afcFileWrite_sent D client handle data length.toNat hhandle (by omega)
    hdata hcaps
  rw [hn] at hret hrun
  obtain ⟨htook, hpkt⟩ := @ackedClient_took D handle _ answers (afcLock client) rest hlen hfrom
    hpend hrel hheads
  have hafter := hrun hacks
  refine ⟨hret.mpr hacks, ?_, ?_, ?_, ?_⟩ <;> simp only [run, hafter, afcUnlock_connection,
    afcUnlock_afcPacket]
  · exact htook
  · rw [ackedClient_wire]
    rfl
  · rw [ackedClient_sendCaps]
    rfl
  · rw [hpkt, ← hlen]
    rfl

/-- Every call that gets the answers it should, on a connection that carries them, does what
`Stepped` says. -/
theorem step (hfile : ∀ handle size, (D.filePacket handle size).length = 16)
    (hans : call.Answered D client.afcPacket.packetNum answers)
    (hpend : client.connection.pending = (answers.map (Frame.bytes D)).flatten ++ rest)
    (hrel : client.connection.Reliable) (hheads : HeadsWhole D client.connection 0 answers)
    (hcaps : CapsCover (call.sendSizes D answers) client.connection.sendCaps) :
    call.Stepped D client answers := by
  rcases hreq : call.request D with _ | ⟨operation, payload⟩
  · cases call with
    | fileRead handle length => exact step_fileRead (hfile handle) hans hpend hrel hheads hcaps
    | fileWrite handle data length => exact step_fileWrite hans hpend hrel hheads hcaps
    | _ => simp only [Answered, hreq] at hans
  · exact step_single hreq hans hpend hrel hheads hcaps

end Step

end AfcCall

/-! ## Sessions -/

/-- The answers of each call of a session, the first call's first answering the request
numbered one past `packetNum`. -/
def SessionAnswered (D : AfcDefs) : UInt64 → List AfcCall → List (List Frame) → Prop
  | _, [], [] => True
  | packetNum, call :: calls, answers :: answerss =>
    call.Answered D packetNum answers ∧
      SessionAnswered D (packetNum + UInt64.ofNat answers.length) calls answerss
  | _, _, _ => False

/-- The requests of a session on the wire, numbered on from one past `packetNum`. -/
def sessionWire (D : AfcDefs) : UInt64 → List AfcCall → List (List Frame) → List UInt8
  | packetNum, call :: calls, answers :: answerss =>
    call.sent D packetNum answers ++
      sessionWire D (packetNum + UInt64.ofNat answers.length) calls answerss
  | _, _, _ => []

variable {D : AfcDefs}

/-- Over any sequence of calls of the AFC client, each getting the answers it should, laid end to
end in the stream with every header and first part arriving in one receive, on a connection
where no receive fails and every send goes through: each call returns the code expected, the
wire gains exactly the calls' requests in turn, numbered on from the client's last, and the
stream loses exactly the answers. -/
theorem transcript_lockstep (hfile : ∀ handle size, (D.filePacket handle size).length = 16)
    {calls : List AfcCall} :
    ∀ {answerss : List (List Frame)} {client : AfcClient} {rest : List UInt8},
    SessionAnswered D client.afcPacket.packetNum calls answerss →
    client.connection.pending = (answerss.flatten.map (Frame.bytes D)).flatten ++ rest →
    client.connection.Reliable → HeadsWhole D client.connection 0 answerss.flatten →
    CapsCover (List.zipWith (AfcCall.sendSizes D) calls answerss).flatten
      client.connection.sendCaps →
    AfcCall.results D calls client = List.zipWith (AfcCall.expected D) calls answerss ∧
      (AfcCall.runAll D calls client).connection.pending = rest ∧
      (AfcCall.runAll D calls client).connection.wire =
        client.connection.wire ++ sessionWire D client.afcPacket.packetNum calls answerss ∧
      (AfcCall.runAll D calls client).afcPacket.packetNum =
        client.afcPacket.packetNum + UInt64.ofNat answerss.flatten.length := by
  induction calls with
  | nil =>
    rintro (_ | _) client rest hans hpend - - -
    · simp only [List.flatten_nil, List.map_nil, List.nil_append] at hpend
      exact ⟨rfl, hpend, by simp [sessionWire, AfcCall.runAll], by simp [AfcCall.runAll]⟩
    · exact hans.elim
  | cons call calls ih =>
    rintro (_ | ⟨answers, answerss⟩) client rest hans hpend hrel hheads hcaps
    · exact hans.elim
    obtain ⟨hcall, hans⟩ := hans
    rw [List.flatten_cons, List.map_append, List.flatten_append, List.append_assoc] at hpend
    rw [List.flatten_cons, HeadsWhole.append] at hheads
    rw [List.zipWith_cons_cons, List.flatten_cons, CapsCover.append] at hcaps
    have hs := AfcCall.step hfile hcall hpend hrel hheads.1 hcaps.1
    obtain ⟨h1, h2, h3, h4⟩ := ih (hs.packetNum ▸ hans)
      (by rw [hs.took.pending, hpend, List.drop_left]) (hs.took.reliable hrel)
      (HeadsWhole.took hs.took (by simpa using hheads.2)) (hs.sendCaps ▸ hcaps.2)
    refine ⟨by rw [AfcCall.results, hs.ret, h1]; rfl, h2, ?_, ?_⟩
    · rw [AfcCall.runAll, List.foldl_cons, ← AfcCall.runAll, h3, hs.wire, hs.packetNum,
        sessionWire, List.append_assoc]
    · rw [AfcCall.runAll, List.foldl_cons, ← AfcCall.runAll, h4, hs.packetNum, List.flatten_cons,
        List.length_append, uint64_ofNat_add, add_assoc]

/-- A `mkdir` of `a`, a write of three bytes to the file with handle 1, and a read of three bytes
from it. -/
def transferCalls : List AfcCall :=
  [.makeDirectory ⟨[0x61], by decide⟩, .fileWrite 1 [1, 2, 3] 3, .fileRead 1 3]

/-- A status of 0 answering request 1, another answering write packet 2, and three bytes of data
answering read request 3. -/
def transferAnswers : List (List Frame) :=
  [[⟨⟨48, 48, 1, 0x01⟩, List.replicate 8 0⟩], [⟨⟨48, 48, 2, 0x01⟩, List.replicate 8 0⟩],
    [⟨⟨43, 43, 3, 0x02⟩, [1, 2, 3]⟩]]

/-- A new client whose connection hands over the three answers in one chunk and lets the seven
sends of the session through. -/
def transferClient : AfcClient :=
  ⟨⟨[(transferAnswers.flatten.map (Frame.bytes sampleDefs)).flatten], [40, 2, 40, 8, 3, 40, 16],
    []⟩, ⟨0, 0, 0, 0⟩, []⟩

set_option maxRecDepth 2000 in
theorem transcript_lockstep_sample :
    AfcCall.results sampleDefs transferCalls transferClient = [eSuccess, eSuccess, eSuccess] ∧
      (AfcCall.runAll sampleDefs transferCalls transferClient).connection.pending = [] ∧
      (AfcCall.runAll sampleDefs transferCalls transferClient).afcPacket.packetNum = 3 := by
  have hfile : ∀ handle size, (sampleDefs.filePacket handle size).length = 16 :=
    fun handle size => by simp [sampleDefs, u64Bytes, length_leBytes]
  have hans : SessionAnswered sampleDefs 0 transferCalls transferAnswers :=
    ⟨⟨_, rfl, by decide, by decide, by decide⟩,
      ⟨by decide, by decide, by decide, by decide, rfl,
        ⟨rfl, by decide, by decide, by decide, by decide, .inr ⟨.inr (.inr ⟨rfl, by decide⟩),
          by decide⟩⟩, by decide, trivial⟩,
      ⟨by decide, by decide, by decide,
        ⟨by decide, ⟨rfl, by decide, by decide, by decide, by decide, .inl rfl⟩, rfl, by decide,
          .inr ⟨by decide, Nat.le_refl 3⟩⟩⟩, trivial⟩
  obtain ⟨h1, h2, -, h4⟩ := @transcript_lockstep sampleDefs hfile transferCalls transferAnswers
    transferClient [] hans (by decide) (by decide) (by decide) (by decide)
  exact ⟨h1.trans (by decide), h2, h4⟩

end Libiphone
