import Libiphone.Connection

/-!
# The NotificationProxy client

`NotificationProxy.c` talks to the device's notification proxy in XML plists, each sent as one
frame: its length as a big-endian `uint32_t`, then its bytes (`np_plist_send`, lines 104-141).
`iphone_np_get_notification` (lines 331-424) reads a frame back with one
`iphone_mux_recv_timeout` for the length and one for the body, and loops over neither: a length
that comes in fewer than 4 bytes makes it return `IPHONE_E_TIMEOUT`, the bytes it got dropped,
and a body that comes short is handed to `plist_from_xml` as it is.

libplist is not among the sources.  The model takes its XML codec as a parameter and reads a
dict as the list of its children in order (keys, strings, and nodes of other types), which is
all `iphone_np_get_notification` looks at.  The threads `iphone_np_set_notify_callback` starts
are the subject of `Libiphone.NP.Notifier`; here every call runs alone.

## What is proved here

* `npPlistSend_all`: a plist whose two sends go through puts its frame on the wire, and the call
  succeeds;
* `receiveNotification_frame`: a frame whose length and body each arrive in one receive, on a
  connection where no receive fails, is handed to `plist_from_xml` whole, and the receives
  consume exactly the frame; successive calls then hand over successive frames;
* every operation either returns before it locks the client or locks it once and unlocks it once,
  on every return path.
-/

namespace Libiphone.NP

/-- `IPHONE_E_SUCCESS`. -/
def eSuccess : Int := 0

/-- A child of a dict plist, as the client builds and reads them: a key, a string, or a node of
another type (a nested dict or array is one such node). -/
inductive PNode
  | key (s : String)
  | string (s : String)
  | other
  deriving DecidableEq, Repr

/-- What the NotificationProxy functions take from outside the sources: the `iphone_error_t`
codes of `libiphone.h` they return, all different; `np_default_notifications` of
`NotificationProxy.h`; and libplist's `plist_to_xml` and `plist_from_xml` on a dict
(`fromXml` is `none` where `plist_from_xml` leaves the dict NULL). -/
structure NpDefs where
  eInvalidArg : Int
  ePlistError : Int
  eTimeout : Int
  eUnknownError : Int
  codes_nodup : [eSuccess, eInvalidArg, ePlistError, eTimeout, eUnknownError].Nodup
  defaultNotifications : List String
  toXml : List PNode → List UInt8
  fromXml : List UInt8 → Option (List PNode)

/-- `struct iphone_np_client_int`: the connection (NULL while a callback is being removed, and
once the client is freed), what has been done to the mutex, and whether a notifier thread is
set. -/
structure NpClient where
  connection : Option Conn
  mutex : List MutexEvent
  notifier : Bool

/-- `np_lock` (lines 79-83). -/
def npLock (client : NpClient) : NpClient := { client with mutex := client.mutex ++ [.lock] }

/-- `np_unlock` (lines 89-93). -/
def npUnlock (client : NpClient) : NpClient := { client with mutex := client.mutex ++ [.unlock] }

@[simp] theorem npLock_mutex (client : NpClient) :
    (npLock client).mutex = client.mutex ++ [.lock] := rfl

@[simp] theorem npUnlock_mutex (client : NpClient) :
    (npUnlock client).mutex = client.mutex ++ [.unlock] := rfl

@[simp] theorem npUnlock_connection (client : NpClient) :
    (npUnlock client).connection = client.connection := rfl

/-- A call leaves the client's mutex locked and unlocked once, in that order, or untouched. -/
abbrev Balanced (client client' : NpClient) : Prop := MutexEvent.Balanced client.mutex client'.mutex

/-- A call that locks the client, leaves the mutex alone, and unlocks it is balanced. -/
theorem locked_unlock (client client' : NpClient) (h : client'.mutex = (npLock client).mutex) :
    Balanced client (npUnlock client') :=
  .inr (by simp [h])

variable (N : NpDefs)

namespace NpDefs

theorem eTimeout_ne : N.eTimeout ≠ eSuccess := by
  have := N.codes_nodup; simp_all [eq_comm]

theorem eUnknownError_ne : N.eUnknownError ≠ eSuccess := by
  have := N.codes_nodup; simp_all [eq_comm]

theorem ePlistError_ne : N.ePlistError ≠ eSuccess := by
  have := N.codes_nodup; simp_all [eq_comm]

end NpDefs

/-! ## The transport -/

/-- Modelled from the spec: `iphone_mux_send(connection, data, len, &sent_bytes)`, a send of the
transport; it hands nothing over on a NULL connection. -/
def iphoneMuxSend (connection : Option Conn) (data : List UInt8) : Nat × Option Conn :=
  match connection with
  | none => (0, none)
  | some c =>
    match iphoneDeviceSend c data with
    | (_, sent, c) => (sent, some c)

/-- Modelled from the spec: `iphone_mux_recv_timeout(connection, data, len, &recv_bytes,
timeout)`, a receive of the transport; one that times out is handed nothing. -/
def iphoneMuxRecvTimeout (c : Conn) (len : Nat) : List UInt8 × Conn :=
  match iphoneDeviceRecv c len with
  | (_, got, c) => (got, c)

theorem muxRecv_exact {c : Conn} {len : Nat} (hc : c.Reliable) (hw : c.Whole 0 len)
    (hlen : len ≤ c.pending.length) :
    (iphoneMuxRecvTimeout c len).1 = c.pending.take len ∧
      c.After len (iphoneMuxRecvTimeout c len).2 :=
  recv_exact hc hw hlen

/-! ## Sending -/

/-- The bytes `np_plist_send` sends for the XML `xml` when both its sends go through. -/
def npFrame (xml : List UInt8) : List UInt8 := beBytes 4 xml.length ++ xml

/-- `np_plist_send(client, dict)` (lines 104-141) on the client's connection, `dict` given by
its `plist_to_xml` output `xml`: the length, then the XML; success only when the first send
hands over 4 bytes and the second all of the XML. -/
def npPlistSend (connection : Option Conn) (xml : List UInt8) : Int × Option Conn :=
  if xml.length = 0 then (N.ePlistError, connection)
  else
    match iphoneMuxSend connection (beBytes 4 xml.length) with
    | (bytes, c) =>
      if bytes = 4 then
        match iphoneMuxSend c xml with
        | (bytes, c) => (if 0 < asInt32 bytes ∧ bytes = xml.length then eSuccess else N.eUnknownError, c)
      else (N.eUnknownError, c)

/-- A plist whose two sends each hand over all they are given puts its frame on the wire. -/
theorem npPlistSend_all {c : Conn} {xml : List UInt8} (hne : 0 < xml.length)
    (hsmall : xml.length < 2 ^ 31) (hcap : 4 ≤ c.sendCaps.headD 0)
    (hcap' : xml.length ≤ c.sendCaps.tail.headD 0) :
    npPlistSend N (some c) xml =
      (eSuccess,
        some { c with sendCaps := c.sendCaps.tail.tail, wire := c.wire ++ npFrame xml }) := by
  have h1 := send_all c (beBytes 4 xml.length) (by rwa [length_beBytes])
  rw [length_beBytes] at h1
  have h2 := send_all { c with
      sendCaps := c.sendCaps.tail
      wire := c.wire ++ beBytes 4 xml.length } xml hcap'
  simp only [npPlistSend, iphoneMuxSend, h1, h2, if_neg (Nat.pos_iff_ne_zero.mp hne), if_true,
    asInt32_of_lt hsmall, and_true, npFrame, List.append_assoc,
    if_pos (show (0 : Int) < xml.length by omega)]

/-- `iphone_np_post_notification(client, notification)` (lines 213-242): the notification, then
a `Shutdown` command; the result of the first send is overwritten by the second's. -/
def iphoneNpPostNotification (client : NpClient) (notification : Option String) :
    Int × NpClient :=
  match notification with
  | none => (N.eInvalidArg, client)
  | some name =>
    match npPlistSend N client.connection
        (N.toXml [.key "Command", .string "PostNotification", .key "Name", .string name]) with
    | (_, c) =>
      match npPlistSend N c (N.toXml [.key "Command", .string "Shutdown"]) with
      | (res, c) => (res, npUnlock { npLock client with connection := c })

/-- `iphone_np_observe_notification(client, notification)` (lines 249-270). -/
def iphoneNpObserveNotification (client : NpClient) (notification : Option String) :
    Int × NpClient :=
  match notification with
  | none => (N.eInvalidArg, client)
  | some name =>
    match npPlistSend N client.connection
        (N.toXml [.key "Command", .string "ObserveNotification", .key "Name", .string name]) with
    | (res, c) => (res, npUnlock { npLock client with connection := c })

/-- The loop of `iphone_np_observe_notifications` (lines 306-312): observe each notification in
turn, and stop at the first that fails; `res` is the last result. -/
def observeEach (client : NpClient) (res : Int) : List String → Int × NpClient
  | [] => (res, client)
  | name :: names =>
    match iphoneNpObserveNotification N client (some name) with
    | (res, client) => if res ≠ eSuccess then (res, client) else observeEach client res names

/-- `iphone_np_observe_notifications(client, notification_spec)` (lines 292-315), the list
given up to its terminating NULL, or NULL for `np_default_notifications`. -/
def iphoneNpObserveNotifications (client : NpClient) (notificationSpec : Option (List String)) :
    Int × NpClient :=
  observeEach N client N.eUnknownError (notificationSpec.getD N.defaultNotifications)

/-! ## Receiving -/

/-- `plist_get_next_sibling(plist_find_node_by_key(dict, key))` and the siblings after it: the
children of `dict` after its first key `key`, none when it has no such key.  libplist is not among
the sources; `plist_find_node_by_key` is taken to look only at the dict's own children, not to
descend into a nested dict or array (a `PNode.other`). -/
def siblingsAfterKey (key : String) : List PNode → List PNode
  | [] => []
  | .key k :: rest => if k = key then rest else siblingsAfterKey key rest
  | _ :: rest => siblingsAfterKey key rest

/-- Lines 370-407: the result for a received dict, and the notification it names.  A relayed
notification needs a key `Name` and a string right after the command; `ProxyDeath` and every
other command are an unknown error; a dict without a string command is a plist error. -/
def readNotification (dict : List PNode) : Int × Option String :=
  match siblingsAfterKey "Command" dict with
  | .string cmd :: rest =>
    if cmd = "RelayNotification" then
      match rest with
      | .key nameKey :: .string name :: _ =>
        if nameKey = "Name" then (eSuccess, some name) else (N.ePlistError, none)
      | _ => (N.ePlistError, none)
    else (N.eUnknownError, none)
  | _ => (N.ePlistError, none)

/-- What `iphone_np_get_notification` returns, the notification it stores, and the bytes it
hands to `plist_from_xml`, if it calls it. -/
structure Notification where
  ret : Int
  notification : Option String
  handed : Option (List UInt8)

/-- `iphone_np_get_notification(client, notification)` (lines 331-424), `notification` being
`*notification`, which must be NULL.  On a little-endian host `(char)pktlen` is the first byte
the first receive wrote; `bytes` is unsigned, so `bytes <= 0` means that nothing came. -/
def iphoneNpGetNotification (client : NpClient) (notification : Option String) :
    Notification × NpClient :=
  match client.connection, notification with
  | some conn, none =>
    match iphoneMuxRecvTimeout conn 4 with
    | (pktlen, c) =>
      if pktlen.length < 4 then
        (⟨N.eTimeout, none, none⟩, npUnlock { npLock client with connection := some c })
      else if pktlen.headD 0 = 0 then
        match iphoneMuxRecvTimeout c (ofBeBytes pktlen) with
        | (xml, c) =>
          if xml.length = 0 then
            (⟨N.eUnknownError, none, none⟩, npUnlock { npLock client with connection := some c })
          else
            match N.fromXml xml with
            | none =>
              (⟨N.ePlistError, none, some xml⟩, npUnlock { npLock client with connection := some c })
            | some dict =>
              (⟨(readNotification N dict).1, (readNotification N dict).2, some xml⟩,
                npUnlock { npLock client with connection := some c })
      else (⟨N.eUnknownError, none, none⟩, npUnlock { npLock client with connection := some c })
  | _, _ => (⟨N.eInvalidArg, none, none⟩, client)

/-- `iphone_np_set_notify_callback(client, notify_cb)` (lines 466-500) when no notifier races
it: `notifyCb` says whether a callback is given, `created` whether `malloc` and
`g_thread_create` succeed.  A notifier already set is taken to exit once the connection is
cleared, so that `g_thread_join` returns, the notifier is cleared and the connection put back
(lines 474-481); whether it exits is the subject of `Libiphone.NP.Notifier`.  Removing a
callback returns `IPHONE_E_UNKNOWN_ERROR`. -/
def iphoneNpSetNotifyCallback (client : NpClient) (notifyCb created : Bool) : Int × NpClient :=
  if notifyCb && created then (eSuccess, npUnlock { npLock client with notifier := true })
  else (N.eUnknownError, npUnlock { npLock client with notifier := false })

/-! ## Frames that arrive whole -/

section Frames

variable {N}

theorem headD_beBytes {n : Nat} (h : n < 2 ^ 24) : (beBytes 4 n).headD 0 = 0 := by
  have h0 : n / 256 / 256 / 256 = 0 := by omega
  simp [beBytes, leBytes, h0]

/-- A frame whose length and body each arrive in one receive, on a connection where no receive
fails, is handed to `plist_from_xml` whole, the result is read from the dict it parses to, and
the receives consume exactly the frame. -/
theorem iphoneNpGetNotification_frame_eq {client : NpClient} {conn : Conn} {xml rest : List UInt8}
    (hconn : client.connection = some conn) (hne : 0 < xml.length) (hsmall : xml.length < 2 ^ 24)
    (hpend : conn.pending = npFrame xml ++ rest) (hrel : conn.Reliable)
    (hw : conn.Whole 0 4) (hw' : conn.Whole 4 (4 + xml.length)) :
    ∃ c, conn.After (npFrame xml).length c ∧
      iphoneNpGetNotification N client none =
        ((match N.fromXml xml with
          | none => ⟨N.ePlistError, none, some xml⟩
          | some dict => ⟨(readNotification N dict).1, (readNotification N dict).2, some xml⟩),
          npUnlock { npLock client with connection := some c }) := by
  have hflen : (npFrame xml).length = 4 + xml.length := by simp [npFrame]
  rw [npFrame, List.append_assoc] at hpend
  obtain ⟨hgot, hafter⟩ := muxRecv_exact hrel hw (by rw [hpend]; simp)
  rcases hr : iphoneMuxRecvTimeout conn 4 with ⟨pktlen, c1⟩
  simp only [hr] at hgot hafter
  have hpkt : pktlen = beBytes 4 xml.length := by
    rw [hgot, hpend, List.take_left' (length_beBytes 4 _)]
  subst hpkt
  have hlen : ofBeBytes (beBytes 4 xml.length) = xml.length := by
    rw [ofBeBytes_beBytes, Nat.mod_eq_of_lt (by omega)]
  have hpend1 : c1.pending = xml ++ rest := by
    rw [hafter.pending, hpend, List.drop_left' (length_beBytes 4 _)]
  obtain ⟨hxml, hafter1⟩ := muxRecv_exact (hafter.reliable hrel)
    (hafter.whole (by simpa only [Nat.zero_add, Nat.add_comm] using hw')) (by rw [hpend1]; simp)
  rcases hr1 : iphoneMuxRecvTimeout c1 xml.length with ⟨got, c2⟩
  simp only [hr1] at hxml hafter1
  rw [hpend1, List.take_left' rfl] at hxml
  subst hxml
  refine ⟨c2, hflen ▸ hafter.trans hafter1, ?_⟩
  simp only [iphoneNpGetNotification, hconn, hr, length_beBytes, headD_beBytes hsmall,
    lt_irrefl, if_false, if_true, hlen, hr1, Nat.pos_iff_ne_zero.mp hne]
  split <;> rfl

/-- Such a frame is handed to `plist_from_xml` whole, and the receives consume exactly the
frame. -/
theorem receiveNotification_frame {client : NpClient} {conn : Conn} {xml rest : List UInt8}
    (hconn : client.connection = some conn) (hne : 0 < xml.length) (hsmall : xml.length < 2 ^ 24)
    (hpend : conn.pending = npFrame xml ++ rest) (hrel : conn.Reliable)
    (hw : conn.Whole 0 4) (hw' : conn.Whole 4 (4 + xml.length)) :
    (iphoneNpGetNotification N client none).1.handed = some xml ∧
      ∃ c, (iphoneNpGetNotification N client none).2.connection = some c ∧
        conn.After (npFrame xml).length c := by
  obtain ⟨c, hafter, heq⟩ := iphoneNpGetNotification_frame_eq hconn hne hsmall hpend hrel hw hw'
  rw [heq]
  exact ⟨by split <;> rfl, c, rfl, hafter⟩

/-- `n` successive calls of `iphone_np_get_notification` on one client, with `*notification`
NULL each time. -/
def getRun (N : NpDefs) : Nat → NpClient → List Notification × NpClient
  | 0, client => ([], client)
  | n + 1, client =>
    ((iphoneNpGetNotification N client none).1 :: (getRun N n (iphoneNpGetNotification N client none).2).1,
      (getRun N n (iphoneNpGetNotification N client none).2).2)

/-- Counting offsets of the pending stream of `c` from `base`, the length of each frame, and its
body, each arrive in one receive. -/
def FramesWhole (c : Conn) : Nat → List (List UInt8) → Prop
  | _, [] => True
  | base, xml :: xmls =>
    c.Whole base (base + 4) ∧ c.Whole (base + 4) (base + 4 + xml.length) ∧
      FramesWhole c (base + (npFrame xml).length) xmls

instance FramesWhole.decidable (c : Conn) : ∀ base xmls, Decidable (FramesWhole c base xmls)
  | _, [] => isTrue trivial
  | base, xml :: xmls =>
    haveI := FramesWhole.decidable c (base + (npFrame xml).length) xmls
    inferInstanceAs (Decidable (_ ∧ _ ∧ _))

theorem FramesWhole.after {c c' : Conn} {k : Nat} (h : c.After k c') :
    ∀ {base : Nat} {xmls : List (List UInt8)},
      FramesWhole c (base + k) xmls → FramesWhole c' base xmls
  | _, [], _ => trivial
  | base, xml :: xmls, ⟨h1, h2, h3⟩ =>
    ⟨h.whole (by simpa only [Nat.add_right_comm] using h1),
      h.whole (by simpa only [Nat.add_right_comm] using h2),
      FramesWhole.after h (by simpa only [Nat.add_right_comm] using h3)⟩

/-- Successive calls of `iphone_np_get_notification` on a stream of frames as `np_plist_send`
sends them hand each frame's XML to `plist_from_xml` in turn, as long as every length and every
body arrives in one receive, on a connection where no receive fails. -/
theorem iphoneNpGetNotification_frames {xmls : List (List UInt8)} :
    ∀ {client : NpClient} {conn : Conn} {rest : List UInt8},
    (∀ xml ∈ xmls, 0 < xml.length ∧ xml.length < 2 ^ 24) →
    client.connection = some conn →
    conn.pending = (xmls.map npFrame).flatten ++ rest →
    conn.Reliable → FramesWhole conn 0 xmls →
    (getRun N xmls.length client).1.map (·.handed) = xmls.map some := by
  induction xmls with
  | nil => intros; rfl
  | cons xml xmls ih =>
    intro client conn rest hsize hconn hpend hrel hwhole
    obtain ⟨hw, hw', hws⟩ := hwhole
    obtain ⟨hne, hsmall⟩ := hsize xml (List.mem_cons_self _ _)
    obtain ⟨h1, c, hc, hafter⟩ := receiveNotification_frame (N := N) hconn hne hsmall
      (show conn.pending = npFrame xml ++ ((xmls.map npFrame).flatten ++ rest) by simp [hpend])
      hrel hw (by simpa using hw')
    simp only [getRun, List.map_cons, h1, List.length_cons]
    exact congrArg _ (@ih _ _ rest (fun x hx => hsize x (List.mem_cons_of_mem _ hx)) hc
      (by rw [hafter.pending, hpend]; simp) (hafter.reliable hrel)
      (FramesWhole.after hafter (by simpa using hws)))

/-- A table of distinct codes, with an XML codec that never parses, to run the model on; the
values of `libiphone.h` are not among the sources. -/
def sampleNpDefs : NpDefs where
  eInvalidArg := -1
  ePlistError := -2
  eTimeout := -3
  eUnknownError := -4
  codes_nodup := by decide
  defaultNotifications := []
  toXml _ := []
  fromXml _ := none

/-- Two frames, the second cut after its length. -/
theorem iphoneNpGetNotification_frames_sample :
    (getRun sampleNpDefs 2
        ⟨some ⟨[npFrame [1, 2, 3] ++ (npFrame [4, 5]).take 4, [4, 5]], [], []⟩, [], false⟩).1.map
      (·.handed) = [some [1, 2, 3], some [4, 5]] :=
  @iphoneNpGetNotification_frames sampleNpDefs [[1, 2, 3], [4, 5]] _ _ [] (by decide) rfl
    (by decide) (by decide) (by decide)

/-- A body split across two receives, each handed at least one byte, is handed to
`plist_from_xml` cut short. -/
theorem iphoneNpGetNotification_split_body :
    let conn : Conn := ⟨[(npFrame [1, 2, 3]).take 5, (npFrame [1, 2, 3]).drop 5], [], []⟩
    conn.Reliable ∧ conn.pending = npFrame [1, 2, 3] ∧
      (iphoneNpGetNotification sampleNpDefs ⟨some conn, [], false⟩ none).1.handed = some [1] := by
  decide

end Frames

/-! ## The relayed notification

`plist_find_node_by_key` finds the dict's first key `Command`, and the parse takes the command,
the key `Name` and the name as the three children right after it (lines 370-397): what it reads
depends on the order in which the dict lays out its entries. -/

section Relay

variable {N}

theorem siblingsAfterKey_append {key : String} {pre : List PNode} (hpre : .key key ∉ pre)
    (rest : List PNode) : siblingsAfterKey key (pre ++ .key key :: rest) = rest := by
  induction pre with
  | nil => simp [siblingsAfterKey]
  | cons n pre ih =>
    rw [List.mem_cons, not_or] at hpre
    cases n with
    | key k => simp [siblingsAfterKey, ih hpre.2, show k ≠ key from fun h => hpre.1 (h ▸ rfl)]
    | string _ | other => simp [siblingsAfterKey, ih hpre.2]

theorem siblingsAfterKey_eq_cons {key : String} {dict : List PNode} {x : PNode} {xs : List PNode}
    (h : siblingsAfterKey key dict = x :: xs) :
    ∃ pre, dict = pre ++ .key key :: x :: xs ∧ .key key ∉ pre := by
  induction dict with
  | nil => simp [siblingsAfterKey] at h
  | cons n dict ih =>
    cases n with
    | key k =>
      by_cases hk : k = key
      · rw [siblingsAfterKey, if_pos hk] at h
        exact ⟨[], by rw [h, hk]; rfl, List.not_mem_nil _⟩
      · rw [siblingsAfterKey, if_neg hk] at h
        obtain ⟨pre, rfl, hpre⟩ := ih h
        exact ⟨.key k :: pre, rfl, by simp [Ne.symm hk, hpre]⟩
    | string s | other =>
      obtain ⟨pre, rfl, hpre⟩ := ih h
      exact ⟨_ :: pre, rfl, by simp [hpre]⟩

/-- The parse returns success with `name` exactly on a dict whose first key `Command` is
followed by the string `RelayNotification`, the key `Name` and the string `name`. -/
theorem readNotification_eq_success (dict : List PNode) (name : String) :
    readNotification N dict = (eSuccess, some name) ↔
      ∃ pre post, dict = pre ++ .key "Command" :: .string "RelayNotification" :: .key "Name" ::
        .string name :: post ∧ .key "Command" ∉ pre := by
  constructor
  · intro h
    unfold readNotification at h
    split at h
    · rename_i cmd rest hs
      split_ifs at h with hcmd
      · split at h
        · rename_i nameKey name' post
          split_ifs at h with hname
          · cases h
            obtain ⟨pre, hdict, hpre⟩ := siblingsAfterKey_eq_cons hs
            exact ⟨pre, post, by rw [hdict, hcmd, hname], hpre⟩
          · exact absurd (congrArg Prod.fst h) N.ePlistError_ne
        · exact absurd (congrArg Prod.fst h) N.ePlistError_ne
      · exact absurd (congrArg Prod.fst h) N.eUnknownError_ne
    · exact absurd (congrArg Prod.fst h) N.ePlistError_ne
  · rintro ⟨pre, post, rfl, hpre⟩
    simp [readNotification, siblingsAfterKey_append hpre]

/-- On a frame that arrives whole, `iphone_np_get_notification` returns success with `name`
exactly when the dict the XML parses to lays out, after anything without a key `Command`, the
key `Command`, the string `RelayNotification`, the key `Name` and the string `name`, in that
order. -/
theorem iphoneNpGetNotification_relay {client : NpClient} {conn : Conn} {xml rest : List UInt8}
    {dict : List PNode} (name : String)
    (hconn : client.connection = some conn) (hne : 0 < xml.length) (hsmall : xml.length < 2 ^ 24)
    (hpend : conn.pending = npFrame xml ++ rest) (hrel : conn.Reliable)
    (hw : conn.Whole 0 4) (hw' : conn.Whole 4 (4 + xml.length))
    (hdict : N.fromXml xml = some dict) :
    ((iphoneNpGetNotification N client none).1.ret = eSuccess ∧
        (iphoneNpGetNotification N client none).1.notification = some name) ↔
      ∃ pre post, dict = pre ++ .key "Command" :: .string "RelayNotification" :: .key "Name" ::
        .string name :: post ∧ .key "Command" ∉ pre := by
  obtain ⟨c, -, heq⟩ := iphoneNpGetNotification_frame_eq hconn hne hsmall hpend hrel hw hw'
  rw [heq, hdict, ← readNotification_eq_success, Prod.ext_iff]

end Relay

/-- `sampleNpDefs` with a codec that parses the XML `[1]` as the dict
`{Command = RelayNotification, Name = s}` laid out with `Command` first, and every other XML as
the same dict laid out with `Name` first. -/
def relayNpDefs : NpDefs :=
  { sampleNpDefs with
    fromXml := fun xml => some (if xml = [1] then
      [.key "Command", .string "RelayNotification", .key "Name", .string "s"]
      else [.key "Name", .string "s", .key "Command", .string "RelayNotification"]) }

theorem iphoneNpGetNotification_relay_sample :
    (iphoneNpGetNotification relayNpDefs ⟨some ⟨[npFrame [1]], [], []⟩, [], false⟩ none).1.ret =
        eSuccess ∧
      (iphoneNpGetNotification relayNpDefs ⟨some ⟨[npFrame [1]], [], []⟩, [], false⟩ none).1.notification =
        some "s" :=
  (@iphoneNpGetNotification_relay relayNpDefs _ _ [1] [] _ "s" rfl (by decide) (by decide)
    (by decide) (by decide) (by decide) (by decide) rfl).mpr ⟨[], [], rfl, List.not_mem_nil _⟩

/-- The dict `{Command = RelayNotification, Name = s}` laid out with its `Name` entry first is a
plist error, where the same dict laid out the other way is the notification `s`. -/
theorem iphoneNpGetNotification_name_first :
    (iphoneNpGetNotification relayNpDefs ⟨some ⟨[npFrame [2]], [], []⟩, [], false⟩ none).1.ret =
        relayNpDefs.ePlistError ∧
      (iphoneNpGetNotification relayNpDefs ⟨some ⟨[npFrame [1]], [], []⟩, [], false⟩ none).1.notification =
        some "s" := by
  decide

/-! ## Observing a list of notifications -/

/-- The XML of the plist `iphone_np_observe_notification` sends for `name` (lines 257-261). -/
def observeXml (name : String) : List UInt8 :=
  N.toXml [.key "Command", .string "ObserveNotification", .key "Name", .string name]

section Observe

variable {N}

/-- One observation whose two sends go through puts its frame on the wire and succeeds. -/
theorem iphoneNpObserveNotification_all {client : NpClient} {c : Conn}
    (hconn : client.connection = some c) {name : String} (hne : 0 < (observeXml N name).length)
    (hsmall : (observeXml N name).length < 2 ^ 31) (hcap : 4 ≤ c.sendCaps.headD 0)
    (hcap' : (observeXml N name).length ≤ c.sendCaps.tail.headD 0) :
    iphoneNpObserveNotification N client (some name) =
      (eSuccess, { client with
        connection := some { c with sendCaps := c.sendCaps.tail.tail,
                                    wire := c.wire ++ npFrame (observeXml N name) },
        mutex := client.mutex ++ [.lock, .unlock] }) := by
  unfold observeXml at *
  simp [iphoneNpObserveNotification, hconn, npPlistSend_all N hne hsmall hcap hcap', npUnlock, npLock]

/-- Observations whose sends all go through send one frame per name, in order, each taking the
mutex once, and end with success, or with `res` when there is no name. -/
theorem observeEach_sends (names : List String) :
    ∀ {client : NpClient} {c : Conn} (res : Int), client.connection = some c →
    (∀ name ∈ names, 0 < (observeXml N name).length ∧ (observeXml N name).length < 2 ^ 31) →
    CapsCover (names.flatMap fun name => [4, (observeXml N name).length]) c.sendCaps →
    observeEach N client res names =
      (if names = [] then res else eSuccess,
        { client with
          connection := some { c with
            sendCaps := c.sendCaps.drop (2 * names.length),
            wire := c.wire ++ (names.map fun name => npFrame (observeXml N name)).flatten },
          mutex := client.mutex ++ (names.map fun _ => [MutexEvent.lock, .unlock]).flatten }) := by
  induction names with
  | nil =>
    intro client c res hconn _ _
    rcases client with ⟨_, mutex, notifier⟩
    cases hconn
    simp [observeEach]
  | cons name names ih =>
    intro client c res hconn hxml hcaps
    obtain ⟨hne, hsmall⟩ := hxml name (List.mem_cons_self _ _)
    rw [List.flatMap_cons, CapsCover.append] at hcaps
    obtain ⟨⟨hcap, hcap', -⟩, hcaps⟩ := hcaps
    have htail : c.sendCaps.tail.tail = c.sendCaps.drop 2 := by
      rw [← List.drop_one, ← List.drop_one, List.drop_drop]
    rw [observeEach, iphoneNpObserveNotification_all hconn hne hsmall hcap hcap']
    simp only [ne_eq, not_true_eq_false, if_false]
    rw [ih eSuccess rfl (fun n hn => hxml n (List.mem_cons_of_mem _ hn)) (htail ▸ hcaps)]
    simp [htail, List.drop_drop, Nat.mul_succ, Nat.add_comm, List.append_assoc]

end Observe

/-- `iphone_np_observe_notifications(client, notification_spec)`, on a connection that lets
every send through, sends one `ObserveNotification` frame for each name of the list, or of
`np_default_notifications` when the list is NULL, in order, and succeeds.  For an empty list it
sends nothing and returns `IPHONE_E_UNKNOWN_ERROR`, the value `res` starts with. -/
theorem iphoneNpObserveNotifications_sends {client : NpClient} {c : Conn}
    (hconn : client.connection = some c) (spec : Option (List String))
    (hxml : ∀ name ∈ spec.getD N.defaultNotifications,
      0 < (observeXml N name).length ∧ (observeXml N name).length < 2 ^ 31)
    (hcaps : CapsCover ((spec.getD N.defaultNotifications).flatMap fun name =>
      [4, (observeXml N name).length]) c.sendCaps) :
    iphoneNpObserveNotifications N client spec =
      (if spec.getD N.defaultNotifications = [] then N.eUnknownError else eSuccess,
        { client with
          connection := some { c with
            sendCaps := c.sendCaps.drop (2 * (spec.getD N.defaultNotifications).length),
            wire := c.wire ++ ((spec.getD N.defaultNotifications).map fun name =>
              npFrame (observeXml N name)).flatten },
          mutex := client.mutex ++
            ((spec.getD N.defaultNotifications).map fun _ => [MutexEvent.lock, .unlock]).flatten }) :=
  observeEach_sends _ _ hconn hxml hcaps

/-- `sampleNpDefs` with a codec that writes every plist as the one byte `<`. -/
def observeNpDefs : NpDefs := { sampleNpDefs with toXml := fun _ => [0x3c] }

theorem iphoneNpObserveNotifications_sends_two :
    iphoneNpObserveNotifications observeNpDefs ⟨some ⟨[], [4, 1, 4, 1], []⟩, [], false⟩
        (some ["a", "b"]) =
      (eSuccess, ⟨some ⟨[], [], npFrame [0x3c] ++ npFrame [0x3c]⟩,
        [.lock, .unlock, .lock, .unlock], false⟩) :=
  (iphoneNpObserveNotifications_sends observeNpDefs (c := ⟨[], [4, 1, 4, 1], []⟩) rfl
    (some ["a", "b"]) (by decide) (by decide)).trans rfl

/-! ## The mutex -/

section Mutex

variable {N}

theorem iphoneNpPostNotification_mutex (client : NpClient) (notification : Option String) :
    Balanced client (iphoneNpPostNotification N client notification).2 := by
  unfold iphoneNpPostNotification
  split
  · exact .inl rfl
  · repeat' split
    exact locked_unlock _ _ rfl

theorem iphoneNpObserveNotification_mutex (client : NpClient) (notification : Option String) :
    Balanced client (iphoneNpObserveNotification N client notification).2 := by
  unfold iphoneNpObserveNotification
  split
  · exact .inl rfl
  · split
    exact locked_unlock _ _ rfl

theorem iphoneNpGetNotification_mutex (client : NpClient) (notification : Option String) :
    Balanced client (iphoneNpGetNotification N client notification).2 := by
  unfold iphoneNpGetNotification
  split
  · repeat' split
    all_goals exact locked_unlock _ _ rfl
  · exact .inl rfl

theorem iphoneNpSetNotifyCallback_mutex (client : NpClient) (notifyCb created : Bool) :
    Balanced client (iphoneNpSetNotifyCallback N client notifyCb created).2 := by
  unfold iphoneNpSetNotifyCallback
  split <;> exact locked_unlock _ _ rfl

/-- However many notifications it observes, `iphone_np_observe_notifications` leaves the mutex
free if it found it free. -/
theorem observeEach_isFree (client : NpClient) (res : Int) (names : List String) :
    MutexEvent.isFree (observeEach N client res names).2.mutex =
      MutexEvent.isFree client.mutex := by
  induction names generalizing client res with
  | nil => rfl
  | cons name names ih =>
    have hbal := MutexEvent.isFree_of_balanced
      (iphoneNpObserveNotification_mutex (N := N) client (some name))
    rcases hobs : iphoneNpObserveNotification N client (some name) with ⟨res', client'⟩
    rw [hobs] at hbal
    simp only [observeEach, hobs]
    split
    · exact hbal
    · rw [ih, hbal]

theorem iphoneNpObserveNotifications_isFree (client : NpClient)
    (notificationSpec : Option (List String)) :
    MutexEvent.isFree (iphoneNpObserveNotifications N client notificationSpec).2.mutex =
      MutexEvent.isFree client.mutex :=
  observeEach_isFree _ _ _

end Mutex

end Libiphone.NP
