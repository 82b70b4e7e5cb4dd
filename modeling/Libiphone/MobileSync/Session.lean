import Libiphone.MobileSync.Handshake

/-!
# A MobileSync client from its handshake to its release

`mobilesync_client_new` runs the version exchange and hands out a client; its user then sends
and receives binary plists on it with `mobilesync_send` and `mobilesync_recv`, in any order, and
`mobilesync_client_free` (lines 643-650) sends the disconnect message of `mobilesync_disconnect`
(lines 629-641) before it closes the connection.  Nothing in a frame ties it to the call that
reads it: the client and the device keep in step only if every call consumes exactly its own
frame.

`clientLifecycle_lockstep` says that they do, over the whole life of a client.  Let the device's
two handshake messages, then the frames the session reads, lie end to end in the stream, each
length arriving in one receive, on a connection where no receive fails and every send takes its
frame whole; and let the device announce versions 100 and 100 and then be ready.  Then

* `mobilesync_client_new` succeeds and hands out a client;
* every call of the session returns what it should (`SyncCall.expected`), and each
  `mobilesync_recv` hands the next frame's body to `plist_from_bin`, in turn;
* the stream loses exactly those frames, and the wire gains exactly the frames of what the
  client sends over its life (`lifeSends`): the `DLVersionsOk` answer, the session's plists in
  call order, and the disconnect message.

`mobilesyncClientNew_ready` says what the handshake leaves, `SyncCall.runAll_frames` what a
session does, and `mobilesyncClientFree_sends` what the release sends; the lifecycle is the
three in turn.
-/

namespace Libiphone.MobileSync

/-! ## Releasing a client -/

/-- The array `mobilesync_client_new` answers a version exchange with (lines 590-592). -/
def versionsOkMessage : List SyncNode :=
  [.string "DLMessageVersionExchange", .string "DLVersionsOk"]

/-- The array `mobilesync_disconnect` sends (lines 634-636). -/
def disconnectMessage : List SyncNode :=
  [.string "DLMessageDisconnect", .string "All done, thanks for the memories"]

variable (H : HandshakeDefs)

/-- `mobilesync_disconnect(client)` (lines 629-641): it sends `disconnectMessage`, and drops
what `mobilesync_send` returns. -/
def mobilesyncDisconnect (client : Option MobileSyncClient) : Option MobileSyncClient :=
  client.map fun c => (mobilesyncSend H.toMobileSyncDefs c (some (H.toBin disconnectMessage))).2

/-- `mobilesync_client_free(client)` (lines 643-650), given the `IPHONE_E_INVALID_ARG` it returns
for NULL, whose value is not among the sources, and what `iphone_device_disconnect` returns: the
code, and the client as the disconnect message left it before its connection is closed. -/
def mobilesyncClientFree (iphoneEInvalidArg : Int) (client : Option MobileSyncClient)
    (disconnect : Int) : Int × Option MobileSyncClient :=
  match client with
  | none => (iphoneEInvalidArg, none)
  | some c => (if disconnect = 0 then eSuccess else H.eMuxError, mobilesyncDisconnect H (some c))

/-- Releasing a client whose connection takes the disconnect message whole puts its frame on the
wire, and nothing else. -/
theorem mobilesyncClientFree_sends (iphoneEInvalidArg : Int) {client : MobileSyncClient}
    (disconnect : Int)
    (h : (frame (H.toBin disconnectMessage)).length ≤ client.connection.sendCaps.headD 0) :
    (mobilesyncClientFree H iphoneEInvalidArg (some client) disconnect).2 =
      some ⟨{ client.connection with
        sendCaps := client.connection.sendCaps.tail
        wire := client.connection.wire ++ frame (H.toBin disconnectMessage) }⟩ := by
  simp only [mobilesyncClientFree, mobilesyncDisconnect, Option.map_some', mobilesyncSend_all _ h]

/-! ## The handshake -/

/-- No length of `bodies`' frames, laid from offset `base` of the pending stream, is split
between two receives. -/
def LengthsWhole (c : Conn) : Nat → List (List UInt8) → Prop
  | _, [] => True
  | base, body :: bodies =>
    c.Whole base (base + 4) ∧ LengthsWhole c (base + (frame body).length) bodies

instance LengthsWhole.decidable (c : Conn) :
    ∀ base bodies, Decidable (LengthsWhole c base bodies)
  | _, [] => isTrue trivial
  | base, body :: bodies =>
    haveI := LengthsWhole.decidable c (base + (frame body).length) bodies
    inferInstanceAs (Decidable (_ ∧ _))

theorem LengthsWhole.took {c c' : Conn} {k : Nat} (h : c.Took k c') :
    ∀ {base : Nat} {bodies : List (List UInt8)},
      LengthsWhole c (base + k) bodies → LengthsWhole c' base bodies
  | _, [], _ => trivial
  | base, _ :: _, ⟨h1, h2⟩ =>
    ⟨h.whole (by simpa only [Nat.add_right_comm] using h1),
      LengthsWhole.took h (by simpa only [Nat.add_right_comm] using h2)⟩

/-- A handshake whose two messages arrive as whole frames, each length in one receive, on a
connection where no receive fails and whose first send takes the answer whole, in which the
versions are 100 and 100 and the device is ready: the call succeeds and hands out a client whose
connection has taken exactly the two frames from the stream and sent exactly the frame of
`versionsOkMessage`, on the first send. -/
theorem mobilesyncClientNew_ready {conn : Conn} {first reply rest : List UInt8} {dstPort : Int}
    (hport : dstPort ≠ 0) (h1 : first.length < 2 ^ 32) (h2 : reply.length < 2 ^ 32)
    (hv : versionsOk (H.fromBin first)) (hd : deviceReady (H.fromBin reply))
    (hpend : conn.pending = frame first ++ frame reply ++ rest) (hrel : conn.Reliable)
    (hw : LengthsWhole conn 0 [first, reply])
    (hcap : (frame (H.toBin versionsOkMessage)).length ≤ conn.sendCaps.headD 0) :
    ∃ client, mobilesyncClientNew H true dstPort (some none) (some conn) =
        ⟨eSuccess, some client, false⟩ ∧
      conn.Took (frame first ++ frame reply).length client.connection ∧
      client.connection.sendCaps = conn.sendCaps.tail ∧
      client.connection.wire = conn.wire ++ frame (H.toBin versionsOkMessage) := by
  obtain ⟨hw1, hw2, -⟩ := hw
  obtain ⟨-, hhand1, hafter1⟩ := @mobilesyncRecv_frame H.toMobileSyncDefs ⟨conn⟩ first _ h1
    (by rw [hpend, List.append_assoc]) hrel hw1
  rcases hm1 : mobilesyncRecv H.toMobileSyncDefs ⟨conn⟩ (some none) with ⟨r, c1⟩
  rw [hm1] at hhand1 hafter1
  dsimp only at hhand1 hafter1
  rcases hs : mobilesyncSend H.toMobileSyncDefs c1 (some (H.toBin versionsOkMessage)) with
    ⟨sent, c2⟩
  have hc2 : c2.connection = { c1.connection with
      sendCaps := c1.connection.sendCaps.tail
      wire := c1.connection.wire ++ frame (H.toBin versionsOkMessage) } := by
    rw [@mobilesyncSend_all H.toMobileSyncDefs c1 (H.toBin versionsOkMessage)
      (by rwa [hafter1.sendCaps])] at hs
    cases hs
    rfl
  have hin : c2.connection.inbound = c1.connection.inbound := by rw [hc2]
  obtain ⟨-, hhand2, hafter2⟩ := @mobilesyncRecv_frame H.toMobileSyncDefs c2 reply rest h2
    (by rw [Conn.pending_of_inbound hin, hafter1.pending, hpend, List.append_assoc,
      List.drop_left]) ((hafter1.reliable hrel).of_inbound hin)
    ((hafter1.whole (by simpa only [Nat.zero_add, Nat.add_comm] using hw2)).of_inbound hin)
  rcases hm2 : mobilesyncRecv H.toMobileSyncDefs c2 (some none) with ⟨r', c3⟩
  rw [hm2] at hhand2 hafter2
  dsimp only at hhand2 hafter2
  refine ⟨c3, ?_, ?_, ?_, ?_⟩
  · rw [versionsOkMessage] at hs
    simp only [mobilesyncClientNew, hport, ne_eq, not_false_eq_true, and_self, if_true, hm1,
      receivedArray, hhand1, Option.some_bind, hv, hs, hm2, hhand2, hd]
  · simpa using (Conn.Took.of_after hafter1).trans (Conn.Took.of_inbound_after hin hafter2)
  · rw [hafter2.sendCaps, hc2]
    exact congrArg List.tail hafter1.sendCaps
  · rw [hafter2.wire, hc2]
    exact congrArg (· ++ _) hafter1.wire

/-! ## A session -/

/-- A call of the MobileSync client on its connection, with its arguments. -/
inductive SyncCall
  /-- `mobilesync_send(client, plist)`, the plist given by its `plist_to_bin` output, or NULL. -/
  | send (plist : Option (List UInt8))
  /-- `mobilesync_recv(client, plist)`: `plist` is NULL, or points at a plist, which must be
  NULL. -/
  | recv (plist : Option (Option (List UInt8)))

namespace SyncCall

/-- The `plist_to_bin` output the call sends, when its plist is not NULL. -/
def sends : SyncCall → List (List UInt8)
  | send (some content) => [content]
  | _ => []

/-- How many frames the call reads: one for `mobilesync_recv` with `*plist` NULL. -/
def reads : SyncCall → Nat
  | recv (some none) => 1
  | _ => 0

variable (M : MobileSyncDefs)

/-- What the call returns. -/
def ret : SyncCall → MobileSyncClient → Int
  | send plist, c => (mobilesyncSend M c plist).1
  | recv plist, c => (mobilesyncRecv M c plist).1.ret

/-- The client after the call. -/
def run : SyncCall → MobileSyncClient → MobileSyncClient
  | send plist, c => (mobilesyncSend M c plist).2
  | recv plist, c => (mobilesyncRecv M c plist).2

/-- What the call hands to `plist_from_bin`, if it reads. -/
def handed : SyncCall → MobileSyncClient → List (Option (List UInt8))
  | recv (some none), c => [(mobilesyncRecv M c (some none)).1.handed]
  | _, _ => []

/-- What the calls, made one after the other, return. -/
def results : List SyncCall → MobileSyncClient → List Int
  | [], _ => []
  | call :: calls, c => call.ret M c :: results calls (call.run M c)

/-- What the calls, made one after the other, hand to `plist_from_bin`. -/
def received : List SyncCall → MobileSyncClient → List (Option (List UInt8))
  | [], _ => []
  | call :: calls, c => call.handed M c ++ received calls (call.run M c)

/-- The client after the calls, made one after the other. -/
def runAll (calls : List SyncCall) (client : MobileSyncClient) : MobileSyncClient :=
  calls.foldl (fun c call => call.run M c) client

@[simp] theorem runAll_cons (call : SyncCall) (calls : List SyncCall) (c : MobileSyncClient) :
    runAll M (call :: calls) c = runAll M calls (call.run M c) := rfl

/-- What the call returns when its sends go through and its frame arrives whole: success, unless
`plist` is NULL, or `*plist` is not. -/
def expected : SyncCall → Int
  | send (some _) => eSuccess
  | recv (some none) => eSuccess
  | _ => M.eInvalidArg

theorem eq_of_reads {call : SyncCall} (h : call.reads ≠ 0) : call = recv (some none) := by
  rcases call with (_ | _) | (_ | (_ | _)) <;> first | rfl | exact (h rfl).elim

theorem handed_of_reads {call : SyncCall} (h : call.reads = 0) (c : MobileSyncClient) :
    call.handed M c = [] := by
  rcases call with (_ | _) | (_ | (_ | _)) <;> first | rfl | simp [reads] at h

variable {M}

/-- A call that reads nothing, on a connection that takes its frame in one send, returns what it
should, puts the frame of its plist on the wire with one send, and leaves the receive side
alone. -/
theorem run_sends {call : SyncCall} (hread : call.reads = 0) {client : MobileSyncClient}
    (hcaps : CapsCover (call.sends.map fun content => (frame content).length)
      client.connection.sendCaps) :
    call.ret M client = call.expected M ∧
      (call.run M client).connection.inbound = client.connection.inbound ∧
      (call.run M client).connection.sendCaps =
        client.connection.sendCaps.drop call.sends.length ∧
      (call.run M client).connection.wire =
        client.connection.wire ++ (call.sends.map frame).flatten := by
  rcases call with (_ | content) | (_ | (_ | _))
  · exact ⟨rfl, rfl, rfl, (List.append_nil _).symm⟩
  · simp [ret, run, mobilesyncSend_all M hcaps.1, expected, sends]
  · exact ⟨rfl, rfl, rfl, (List.append_nil _).symm⟩
  · cases hread
  · exact ⟨rfl, rfl, rfl, (List.append_nil _).symm⟩

/-- Over any sequence of sends and receives, on a connection that takes every frame in one send
and hands over every length in one receive, with no failed receive: each call returns what it
should, each receive hands the next frame's body to `plist_from_bin`, the stream loses exactly
the frames read, and the wire gains exactly the frames of the plists sent, in order, one send
each. -/
theorem runAll_frames {calls : List SyncCall} :
    ∀ {client : MobileSyncClient} {bodies : List (List UInt8)} {rest : List UInt8},
    CapsCover ((calls.flatMap sends).map fun content => (frame content).length)
      client.connection.sendCaps →
    (calls.map reads).sum = bodies.length → (∀ body ∈ bodies, body.length < 2 ^ 32) →
    client.connection.pending = (bodies.map frame).flatten ++ rest →
    client.connection.Reliable → LengthsWhole client.connection 0 bodies →
    results M calls client = calls.map (expected M) ∧ received M calls client = bodies.map some ∧
      (runAll M calls client).connection.pending = rest ∧
      (runAll M calls client).connection.sendCaps =
        client.connection.sendCaps.drop (calls.flatMap sends).length ∧
      (runAll M calls client).connection.wire =
        client.connection.wire ++ ((calls.flatMap sends).map frame).flatten := by
  induction calls with
  | nil =>
    intro client bodies rest _ hreads _ hpend _ _
    obtain rfl : bodies = [] := List.length_eq_zero.mp hreads.symm
    exact ⟨rfl, rfl, by simpa using hpend, rfl, by simp [runAll]⟩
  | cons call calls ih =>
    intro client bodies rest hcaps hreads hsize hpend hrel hwhole
    rw [List.flatMap_cons, List.map_append, CapsCover.append, List.length_map] at hcaps
    rw [List.map_cons, List.sum_cons] at hreads
    by_cases hread : call.reads = 0
    · obtain ⟨hret, hin, hsent, hwire⟩ := run_sends (M := M) hread hcaps.1
      obtain ⟨h1, h2, h3, h4, h5⟩ := ih (by rw [hsent]; exact hcaps.2)
        (by rw [← hreads, hread, Nat.zero_add]) hsize (by rw [Conn.pending_of_inbound hin, hpend])
        (hrel.of_inbound hin) (LengthsWhole.took (Conn.Took.of_inbound hin) hwhole)
      refine ⟨by rw [results, hret, h1, List.map_cons],
        by rw [received, handed_of_reads M hread, h2, List.nil_append], h3, ?_, ?_⟩
      · rw [runAll_cons, h4, hsent, List.drop_drop, List.flatMap_cons, List.length_append,
          Nat.add_comm]
      · rw [runAll_cons, h5, hwire, List.flatMap_cons, List.map_append, List.flatten_append,
          List.append_assoc]
    · obtain rfl := eq_of_reads hread
      obtain ⟨body, bodies, rfl⟩ : ∃ b bs, bodies = b :: bs :=
        List.exists_cons_of_ne_nil (by rintro rfl; simp [reads] at hreads)
      obtain ⟨hw, hws⟩ := hwhole
      obtain ⟨hret, hhand, hafter⟩ := mobilesyncRecv_frame M (hsize body (List.mem_cons_self _ _))
        (show client.connection.pending = frame body ++ ((bodies.map frame).flatten ++ rest) by
          simp [hpend]) hrel hw
      have hafter' : client.connection.After (frame body).length
          ((recv (some none)).run M client).connection := hafter
      obtain ⟨h1, h2, h3, h4, h5⟩ := ih (by rw [hafter'.sendCaps]; simpa [sends] using hcaps.2)
        (by simpa [reads, Nat.add_comm] using hreads)
        (fun b hb => hsize b (List.mem_cons_of_mem _ hb))
        (by rw [hafter'.pending, hpend, List.map_cons, List.flatten_cons, List.append_assoc,
          List.drop_left]) (hafter'.reliable hrel)
        (LengthsWhole.took (Conn.Took.of_after hafter') (by simpa using hws))
      refine ⟨by rw [results, h1, List.map_cons]; exact List.cons_eq_cons.mpr ⟨hret, rfl⟩,
        by rw [received, handed, hhand, h2]; rfl, h3, ?_, ?_⟩
      · rw [runAll_cons, h4, hafter'.sendCaps]
        rfl
      · rw [runAll_cons, h5, hafter'.wire]
        rfl

end SyncCall

/-! ## The life of a client -/

/-- The `plist_to_bin` outputs a client sends over its life: the answer to the version exchange,
what the calls of its session send, and the disconnect message. -/
def lifeSends (calls : List SyncCall) : List (List UInt8) :=
  H.toBin versionsOkMessage :: calls.flatMap SyncCall.sends ++ [H.toBin disconnectMessage]

/-- Over the whole life of a client, from `mobilesync_client_new` through any sequence of sends
and receives to `mobilesync_client_free`: when the device's two handshake messages and then the
frames the session reads lie end to end in the stream, each length arriving in one receive, on a
connection where no receive fails and every send takes its frame whole, and the device announces
versions 100 and 100 and then is ready, the handshake hands out a client, every call returns
what it should, each receive hands the next frame's body to `plist_from_bin`, the stream loses
exactly the device's frames, and the wire gains exactly the frames of `lifeSends`, in order. -/
theorem clientLifecycle_lockstep (iphoneEInvalidArg disconnect : Int) {conn : Conn}
    {first reply rest : List UInt8} {bodies : List (List UInt8)} {dstPort : Int}
    {calls : List SyncCall} (hport : dstPort ≠ 0) (hfirst : first.length < 2 ^ 32)
    (hreply : reply.length < 2 ^ 32) (hv : versionsOk (H.fromBin first))
    (hd : deviceReady (H.fromBin reply)) (hreads : (calls.map SyncCall.reads).sum = bodies.length)
    (hsize : ∀ body ∈ bodies, body.length < 2 ^ 32)
    (hpend : conn.pending = ((first :: reply :: bodies).map frame).flatten ++ rest)
    (hrel : conn.Reliable) (hw : LengthsWhole conn 0 (first :: reply :: bodies))
    (hcaps : CapsCover ((lifeSends H calls).map fun content => (frame content).length)
      conn.sendCaps) :
    ∃ client, mobilesyncClientNew H true dstPort (some none) (some conn) =
        ⟨eSuccess, some client, false⟩ ∧
      SyncCall.results H.toMobileSyncDefs calls client =
        calls.map (SyncCall.expected H.toMobileSyncDefs) ∧
      SyncCall.received H.toMobileSyncDefs calls client = bodies.map some ∧
      ∃ client', (mobilesyncClientFree H iphoneEInvalidArg
          (some (SyncCall.runAll H.toMobileSyncDefs calls client)) disconnect).2 = some client' ∧
        client'.connection.pending = rest ∧
        client'.connection.wire = conn.wire ++ ((lifeSends H calls).map frame).flatten := by
  obtain ⟨hw1, hw2, hws⟩ := hw
  rw [lifeSends, List.map_append, List.map_cons, List.cons_append, CapsCover, CapsCover.append,
    List.length_map] at hcaps
  obtain ⟨hcap, hmid, hlast, -⟩ := hcaps
  obtain ⟨client, hnew, htook, hsc, hwire⟩ := @mobilesyncClientNew_ready H conn first reply
    ((bodies.map frame).flatten ++ rest) dstPort hport hfirst hreply hv hd (by simp [hpend]) hrel
    ⟨hw1, hw2, trivial⟩ hcap
  obtain ⟨h1, h2, h3, h4, h5⟩ := @SyncCall.runAll_frames H.toMobileSyncDefs calls client bodies
    rest (by rw [hsc]; exact hmid) hreads hsize (by rw [htook.pending, hpend]; simp) (htook.reliable hrel)
    (LengthsWhole.took htook (by simpa using hws))
  refine ⟨client, hnew, h1, h2, _, mobilesyncClientFree_sends H iphoneEInvalidArg disconnect
    (by rw [h4, hsc]; exact hlast), h3, ?_⟩
  simp [h5, hwire, lifeSends]

/-- A handshake on messages `[2]` and `[3]`, which announce versions 100 and 100 and the device
ready; a session that sends `[5]` and reads the frame of `[4]`; and the release. -/
def syncCalls : List SyncCall := [.send (some [5]), .recv (some none)]

/-- A connection that hands over the three frames of the device in one chunk, and lets the
three sends of the client's life through. -/
def syncConn : Conn := ⟨[frame [2] ++ frame [3] ++ frame [4]], [5, 5, 5], []⟩

theorem clientLifecycle_lockstep_sample :
    ∃ client, mobilesyncClientNew sampleHandshakeDefs true 1 (some none) (some syncConn) =
        ⟨eSuccess, some client, false⟩ ∧
      SyncCall.results sampleHandshakeDefs.toMobileSyncDefs syncCalls client =
        [eSuccess, eSuccess] ∧
      SyncCall.received sampleHandshakeDefs.toMobileSyncDefs syncCalls client = [some [4]] ∧
      ∃ client', (mobilesyncClientFree sampleHandshakeDefs (-1)
          (some (SyncCall.runAll sampleHandshakeDefs.toMobileSyncDefs syncCalls client)) 0).2 =
          some client' ∧
        client'.connection.pending = [] ∧
        client'.connection.wire = frame [0] ++ frame [5] ++ frame [0] := by
  obtain ⟨client, h1, h2, h3, client', h4, h5, h6⟩ := @clientLifecycle_lockstep
    sampleHandshakeDefs (-1) 0 syncConn [2] [3] [] [[4]] 1 syncCalls (by decide) (by decide)
    (by decide) (by decide) (by decide) rfl (by decide) (by decide) (by decide) (by decide)
    (by decide)
  exact ⟨client, h1, h2, h3, client', h4, h5, h6.trans (by decide)⟩

end Libiphone.MobileSync
