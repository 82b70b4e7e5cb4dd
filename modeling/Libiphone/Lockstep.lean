import Libiphone.Sessions
import Libiphone.AFC.Exchange

/-!
# An AFC session keeps in step with its device

`AFC.c` numbers every request one past the last, and `afc_receive_data` takes an answer only if
it carries the number of the request just sent.  Nothing else ties an answer to its request:
the answers share one stream, and each call reads from wherever the last one stopped.  So the
client and the device stay in step only as long as every call consumes exactly its answer.

`session_lockstep` says that they do, over any sequence of the calls that send one request,
whatever the device answers with: as long as it answers the requests in order with complete
frames (`AnswersComplete`) whose headers and first parts each arrive in one receive, and every
send goes through,

* the `i`-th call returns what it makes of the `i`-th answer's code (`AfcCall.reported`);
* the wire holds exactly the requests, numbered on from the client's last (`requestsWire`);
* the stream holds exactly what followed the answers, and the packet number has moved on by one
  for each call.

Each call goes through `dispatch_receive` once (`AfcCall.exchange`), and the session follows by
induction over the calls.
-/

namespace Libiphone

open AFC

namespace AfcCall

variable (D : AfcDefs)

/-- The code the call returns. -/
def ret : AfcCall → AfcClient → Int
  | readDirectory dir list, c => (afcReadDirectory D c dir list).1
  | getDeviceInfo infos, c => (afcGetDeviceInfo D c infos).1
  | removePath path, c => (afcRemovePath D c path).1
  | renamePath fromPath toPath, c => (afcRenamePath D c fromPath toPath).1
  | makeDirectory dir, c => (afcMakeDirectory D c dir).1
  | getFileInfo path infolist, c => (afcGetFileInfo D c path infolist).1
  | fileOpen filename fileMode, c => (afcFileOpen D c filename fileMode).1
  | fileRead handle length, c => (afcFileRead D c handle length).1.ret
  | fileWrite handle data length, c => (afcFileWrite D c handle data length).1
  | fileClose handle, c => (afcFileClose D c handle).1
  | fileLock handle operation, c => (afcFileLock D c handle operation).1
  | fileSeek handle offset whence, c => (afcFileSeek D c handle offset whence).1
  | fileTell handle, c => (afcFileTell D c handle).1
  | fileTruncate handle newsize, c => (afcFileTruncate D c handle newsize).1
  | truncate path newsize, c => (afcTruncate D c path newsize).1
  | makeLink linktype target linkname, c => (afcMakeLink D c linktype target linkname).1
  | setFileTime path mtime, c => (afcSetFileTime D c path mtime).1

/-- The codes the calls return, made one after the other. -/
def results : List AfcCall → AfcClient → List Int
  | [], _ => []
  | call :: calls, c => call.ret D c :: results calls (call.run D c)

/-- The request a call sends, its operation code and its data, when it is a call that sends one
request and its arguments pass its checks. -/
def request : AfcCall → Option (UInt64 × List UInt8)
  | readDirectory (some dir) (some none) => some (D.opReadDir, dir.withNul)
  | readDirectory _ _ => none
  | getDeviceInfo (some _) => some (D.opGetDevinfo, [])
  | getDeviceInfo none => none
  | removePath (some path) => some (D.opRemovePath, path.withNul)
  | removePath none => none
  | renamePath fromPath toPath => some (D.opRenamePath, fromPath.withNul ++ toPath.withNul)
  | makeDirectory dir => some (D.opMakeDir, dir.withNul)
  | getFileInfo (some path) (some _) => some (D.opGetFileInfo, path.withNul)
  | getFileInfo _ _ => none
  | fileOpen filename fileMode =>
    some (D.opFileOpen, leBytes 4 fileMode ++ leBytes 4 0 ++ filename.withNul)
  | fileRead _ _ => none
  | fileWrite _ _ _ => none
  | fileClose handle => if handle = 0 then none else some (D.opFileClose, u64Bytes handle)
  | fileLock handle operation =>
    if handle = 0 then none else some (D.opFileLock, u64Bytes handle ++ u64Bytes operation)
  | fileSeek handle offset whence =>
    if handle = 0 then none
    else
      some (D.opFileSeek, u64Bytes handle ++ leBytes 4 (whence % 2 ^ 32).toNat ++ leBytes 4 0 ++
        leBytes 8 (offset % 2 ^ 64).toNat)
  | fileTell handle => if handle = 0 then none else some (D.opFileTell, u64Bytes handle)
  | fileTruncate handle newsize =>
    if handle = 0 then none else some (D.opFileSetSize, u64Bytes handle ++ u64Bytes newsize)
  | truncate path newsize => some (D.opTruncate, leBytes 8 (newsize % 2 ^ 64).toNat ++ path.withNul)
  | makeLink linktype target linkname =>
    some (D.opMakeLink, u64Bytes linktype ++ target.withNul ++ linkname.withNul)
  | setFileTime path mtime => some (D.opSetFileTime, u64Bytes mtime ++ path.withNul)

/-- What the call makes of its answer's code: `afc_remove_path` reports `AFC_E_UNKNOWN_ERROR` as
`AFC_E_DIR_NOT_EMPTY` (lines 861-862); every other call returns the code as it is. -/
def reported : AfcCall → Int → Int
  | removePath _, r => if r = D.eUnknownError then D.eDirNotEmpty else r
  | _, r => r

variable {D}

/-- A call that sends one request, on a connection that carries it and its answer, returns what
it makes of the answer's code and leaves the client as the exchange does. -/
theorem exchange {call : AfcCall} {operation : UInt64} {payload : List UInt8}
    (hreq : call.request D = some (operation, payload)) {client : AfcClient} {f : Frame}
    {rest : List UInt8} (h : Carries D client payload f rest) :
    call.ret D client = call.reported D (f.code D) ∧
      Exchanged D client operation payload f (call.run D client) := by
  obtain ⟨c, r, c', hd, hr, hret, hex⟩ := dispatch_receive operation h
  have hpos : ¬ (40 + (payload.length : Int) ≤ 0) := by omega
  have hneg : ¬ (40 + (payload.length : Int) < 0) := by omega
  cases call with
  | readDirectory dir list =>
    rcases dir with _ | dir <;> rcases list with _ | _ | list <;> cases hreq
    simp only [ret, run, reported]
    unfold afcReadDirectory
    simp only [hd, hr, if_neg hpos]
    split_ifs <;> exact ⟨hret, hex⟩
  | getDeviceInfo infos =>
    rcases infos with _ | infos <;> cases hreq
    simp only [ret, run, reported]
    unfold afcGetDeviceInfo
    simp only [hd, hr, if_neg hneg]
    split_ifs <;> exact ⟨hret, hex⟩
  | removePath path =>
    rcases path with _ | path <;> cases hreq
    simp only [ret, run, reported]
    unfold afcRemovePath
    simp only [hd, hr, if_neg hpos]
    exact ⟨by rw [hret], hex⟩
  | getFileInfo path infolist =>
    rcases path with _ | path <;> rcases infolist with _ | infolist <;> cases hreq
    simp only [ret, run, reported]
    unfold afcGetFileInfo
    simp only [hd, hr]
    split <;> exact ⟨hret, hex⟩
  | fileOpen filename fileMode =>
    cases hreq
    simp only [ret, run, reported]
    unfold afcFileOpen
    simp only [hd, hr, if_neg hpos]
    split
    · split_ifs <;> exact ⟨hret, hex⟩
    · exact ⟨hret, hex⟩
  | fileTell handle =>
    by_cases hh : handle = 0 <;> simp only [request, hh, if_true, if_false] at hreq <;> cases hreq
    simp only [ret, run, reported]
    unfold afcFileTell
    simp only [if_neg hh, hd, hr, if_neg hpos]
    split
    · split_ifs <;> exact ⟨hret, hex⟩
    · exact ⟨hret, hex⟩
  | renamePath _ _ | makeDirectory _ | truncate _ _ | makeLink _ _ _ | setFileTime _ _ =>
    cases hreq
    exact afcRequest_exchange _ h
  | fileClose handle | fileLock handle _ | fileSeek handle _ _ | fileTruncate handle _ =>
    by_cases hh : handle = 0 <;> simp only [request, hh, if_true, if_false] at hreq <;> cases hreq
    simp only [ret, run, afcFileClose, afcFileLock, afcFileSeek, afcFileTruncate, if_neg hh]
    exact afcRequest_exchange _ h
  | fileRead _ _ | fileWrite _ _ _ => cases hreq

end AfcCall

/-! ## Sessions -/

/-- Answers to the requests numbered on from one past `packetNum`, each complete, with a payload
whose count reads back positive. -/
def AnswersComplete : UInt64 → List Frame → Prop
  | _, [] => True
  | packetNum, f :: fs =>
    f.Complete (packetNum + 1) ∧ f.payload.length < 2 ^ 31 ∧ AnswersComplete (packetNum + 1) fs

instance AnswersComplete.decidable : ∀ packetNum fs, Decidable (AnswersComplete packetNum fs)
  | _, [] => isTrue trivial
  | packetNum, _ :: fs =>
    haveI := AnswersComplete.decidable (packetNum + 1) fs
    inferInstanceAs (Decidable (_ ∧ _ ∧ _))

/-- The requests on the wire, numbered on from one past `packetNum`. -/
def requestsWire (D : AfcDefs) : UInt64 → List (UInt64 × List UInt8) → List UInt8
  | _, [] => []
  | packetNum, (operation, payload) :: reqs =>
    requestBytes D (packetNum + 1) operation payload ++ requestsWire D (packetNum + 1) reqs

variable {D : AfcDefs}

/-- Over any sequence of calls that each send one request, answered in order by complete frames
whose headers and first parts each arrive in one receive, on a connection where no receive fails
and every send goes through: each call returns what it makes of its own answer's code, the wire
gains exactly the requests, numbered on from the client's last, and the stream loses exactly the
answers. -/
theorem session_lockstep {calls : List AfcCall} :
    ∀ {reqs : List (UInt64 × List UInt8)} {answers : List Frame} {client : AfcClient}
      {rest : List UInt8},
    calls.map (AfcCall.request D) = reqs.map some →
    (∀ r ∈ reqs, r.2.length + 40 < 2 ^ 31) →
    calls.length = answers.length →
    AnswersComplete client.afcPacket.packetNum answers →
    client.connection.pending = (answers.map (Frame.bytes D)).flatten ++ rest →
    client.connection.Reliable →
    HeadsWhole D client.connection 0 answers →
    CapsCover (reqs.flatMap fun r => requestSends r.2) client.connection.sendCaps →
    AfcCall.results D calls client =
        List.zipWith (fun call f => call.reported D (f.code D)) calls answers ∧
      (AfcCall.runAll D calls client).connection.pending = rest ∧
      (AfcCall.runAll D calls client).connection.wire =
        client.connection.wire ++ requestsWire D client.afcPacket.packetNum reqs ∧
      (AfcCall.runAll D calls client).afcPacket.packetNum =
        client.afcPacket.packetNum + UInt64.ofNat calls.length := by
  induction calls with
  | nil =>
    intro reqs answers client rest hreq _ hlen _ hpend
    obtain rfl : reqs = [] := List.map_eq_nil_iff.mp hreq.symm
    obtain rfl : answers = [] := List.length_eq_zero.mp hlen.symm
    simp only [List.map_nil, List.flatten_nil, List.nil_append] at hpend
    exact fun _ _ _ => ⟨rfl, hpend, by simp [AfcCall.runAll, requestsWire],
      by simp [AfcCall.runAll]⟩
  | cons call calls ih =>
    intro reqs answers client rest hreq hsize hlen hans hpend hrel hwhole hcaps
    obtain ⟨⟨operation, payload⟩, reqs, rfl⟩ : ∃ r rs, reqs = r :: rs :=
      List.exists_cons_of_ne_nil (by rintro rfl; cases hreq)
    obtain ⟨f, answers, rfl⟩ : ∃ f fs, answers = f :: fs :=
      List.exists_cons_of_ne_nil (by rintro rfl; cases hlen)
    simp only [List.map_cons, List.cons.injEq] at hreq
    obtain ⟨hc, hfs, hans⟩ := hans
    obtain ⟨hh, hf, hwhole⟩ := hwhole
    rw [List.flatMap_cons, CapsCover.append] at hcaps
    have hcarry : Carries D client payload f ((answers.map (Frame.bytes D)).flatten ++ rest) :=
      ⟨hsize _ (List.mem_cons_self _ _), hcaps.1, hc, hfs, by simp [hpend], hrel, hh,
        by simpa using hf⟩
    obtain ⟨hret, hafter, hpacket, -⟩ := AfcCall.exchange hreq.1 hcarry
    have hnum : (call.run D client).afcPacket.packetNum = client.afcPacket.packetNum + 1 := by
      rw [hpacket]; rfl
    have hpend' : (call.run D client).connection.pending =
        (answers.map (Frame.bytes D)).flatten ++ rest := by
      rw [hafter.pending, show (sentRequest D client operation payload).connection.pending =
        client.connection.pending from rfl, hpend]
      simp
    obtain ⟨h1, h2, h3, h4⟩ := ih hreq.2 (fun r hr => hsize r (List.mem_cons_of_mem _ hr))
      (Nat.succ.inj hlen) (hnum ▸ hans) hpend' (hafter.reliable (hrel.of_inbound rfl))
      (HeadsWhole.after hafter (HeadsWhole.of_inbound (show
        (sentRequest D client operation payload).connection.inbound = client.connection.inbound
        from rfl) hwhole))
      (by rw [hafter.sendCaps]; exact hcaps.2)
    refine ⟨by rw [AfcCall.results, hret, h1]; rfl, h2, ?_, ?_⟩
    · rw [AfcCall.runAll, List.foldl_cons, ← AfcCall.runAll, h3, hafter.wire, hnum]
      simp [sentRequest, requestsWire]
    · rw [AfcCall.runAll, List.foldl_cons, ← AfcCall.runAll, h4, hnum, List.length_cons,
        uint64_ofNat_succ, add_assoc, add_comm 1]

/-- A `mkdir` of `a`, then a request for the device information. -/
def sessionCalls : List AfcCall :=
  [.makeDirectory ⟨[0x61], by decide⟩, .getDeviceInfo (some none)]

/-- A status of 0 answering request 1, then three bytes of data answering request 2. -/
def sessionAnswers : List Frame :=
  [⟨⟨48, 48, 1, 0x01⟩, List.replicate 8 0⟩, ⟨⟨43, 43, 2, 0x02⟩, [1, 2, 3]⟩]

/-- A connection that hands over both answers in one chunk and lets the three sends through. -/
def sessionConn : Conn := ⟨[(sessionAnswers.map (Frame.bytes sampleDefs)).flatten], [40, 2, 40], []⟩

/-- The client `afc_client_new` makes on `sessionConn`. -/
def sessionClient : AfcClient := ⟨sessionConn, ⟨0, 0, 0, 0⟩, []⟩

theorem session_lockstep_sample :
    afcClientNew sampleDefs true (some sessionConn) true 0 = (eSuccess, some sessionClient) ∧
      AfcCall.results sampleDefs sessionCalls sessionClient = [eSuccess, eSuccess] ∧
      (AfcCall.runAll sampleDefs sessionCalls sessionClient).connection.pending = [] ∧
      (AfcCall.runAll sampleDefs sessionCalls sessionClient).afcPacket.packetNum = 2 := by
  obtain ⟨h1, h2, -, h4⟩ := @session_lockstep sampleDefs sessionCalls
    [(0x09, [0x61, 0]), (0x0b, [])] sessionAnswers sessionClient [] (by decide) (by decide) rfl
    (by decide) (by decide) (by decide) (by decide) (by decide)
  exact ⟨rfl, h1.trans (by decide), h2, h4⟩

end Libiphone
