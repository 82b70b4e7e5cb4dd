import Libiphone.Basic

/-!
# The connection a client talks through

`iphone_device_recv`, `iphone_device_send` and the older `iphone_mux_*` calls are not among the
sources: they are the mux transport of the spec (§4.2, and the service-client boundary of §6).
Every theorem about a service client quantifies over what these calls do, and the model makes
that explicit.  A `Conn` holds the bytes sends have handed over so far, how many bytes each coming
send will hand over, and the *chunks* in which the pending inbound bytes will be handed to the
coming receives.

A receive asking for `len` bytes is handed the first `len` bytes of the next chunk, or the whole
chunk if it is shorter; what it leaves of the chunk waits for the next receive.  An empty chunk
is a receive that fails and is handed nothing.  Every way a transport can answer a run of
receives (each with at least one and at most the requested number of pending bytes, or with a
failure) is the run of one chunk list, the list of its answers, and every chunk list is such a
way; so a statement over every chunk list is a statement over every transport.

`cuts` are the offsets in the pending stream at which chunks end.  `Conn.Whole c a b` says that
no chunk ends strictly between offsets `a` and `b`: a receive that starts at `a` and asks for
`b - a` bytes gets all of them.
-/

namespace Libiphone

/-- Modelled from the spec: the transport end of a logical connection (§4.2 "Receiving",
§6 "Service-client boundary"), as a client's receives and sends find it. -/
structure Conn where
  /-- The chunks the coming receives are handed, in order; an empty one is a failed receive. -/
  inbound : List (List UInt8)
  /-- How many bytes each coming send hands over at most; past the end of the list, none. -/
  sendCaps : List Nat
  /-- The bytes the sends have handed over so far, in order. -/
  wire : List UInt8

namespace Conn

/-- The inbound bytes not yet received, in order. -/
def pending (c : Conn) : List UInt8 := c.inbound.flatten

/-- Every chunk is handed at least one byte: no receive fails while bytes are pending. -/
def Reliable (c : Conn) : Prop := ∀ chunk ∈ c.inbound, chunk ≠ []

/-- A measure no receive increases and every receive that asks for something decreases. -/
def size (c : Conn) : Nat := (c.inbound.map (·.length + 1)).sum

/-- What is pending is a matter of the inbound chunks alone. -/
theorem pending_of_inbound {c c' : Conn} (h : c'.inbound = c.inbound) : c'.pending = c.pending := by
  rw [pending, h, pending]

theorem Reliable.of_inbound {c c' : Conn} (h : c'.inbound = c.inbound) (hc : c.Reliable) :
    c'.Reliable := fun chunk hm => hc chunk (h ▸ hm)

end Conn

/-- The offsets in a stream of chunks at which a chunk ends. -/
def cuts : List (List UInt8) → List Nat
  | [] => []
  | chunk :: rest => chunk.length :: (cuts rest).map (chunk.length + ·)

/-- No chunk ends strictly between offsets `a` and `b` of the pending stream. -/
def Conn.Whole (c : Conn) (a b : Nat) : Prop := ∀ p ∈ cuts c.inbound, p ≤ a ∨ b ≤ p

theorem Conn.Whole.of_inbound {c c' : Conn} (h : c'.inbound = c.inbound) {a b : Nat}
    (hw : c.Whole a b) : c'.Whole a b := fun p hp => hw p (h ▸ hp)

instance (c : Conn) : Decidable c.Reliable :=
  inferInstanceAs (Decidable (∀ chunk ∈ c.inbound, chunk ≠ []))

instance (c : Conn) (a b : Nat) : Decidable (c.Whole a b) :=
  inferInstanceAs (Decidable (∀ p ∈ cuts c.inbound, p ≤ a ∨ b ≤ p))

/-- Modelled from the spec: `iphone_device_recv(connection, data, len, &recv_bytes)` — whether
it succeeded, the bytes written to `data` (their number is `recv_bytes`), and the connection
afterwards. -/
def iphoneDeviceRecv (c : Conn) (len : Nat) : Bool × List UInt8 × Conn :=
  match c.inbound with
  | [] => (false, [], c)
  | [] :: rest => (false, [], { c with inbound := rest })
  | (b :: bs) :: rest =>
    ((true, (b :: bs).take len,
      { c with inbound := if len < bs.length + 1 then (b :: bs).drop len :: rest else rest }))

/-- Modelled from the spec: `iphone_device_send(connection, data, len, &sent_bytes)` — whether
it handed over all of `data`, how many bytes it handed over (`sent_bytes`), and the connection
afterwards. -/
def iphoneDeviceSend (c : Conn) (data : List UInt8) : Bool × Nat × Conn :=
  let n := min (c.sendCaps.headD 0) data.length
  (decide (n = data.length), n, { c with sendCaps := c.sendCaps.tail, wire := c.wire ++ data.take n })

section Recv

variable {c : Conn} {len : Nat}

/-- A receive is handed a prefix of the pending stream and leaves the rest. -/
theorem recv_append_pending (c : Conn) (len : Nat) :
    (iphoneDeviceRecv c len).2.1 ++ (iphoneDeviceRecv c len).2.2.pending = c.pending := by
  rcases c with ⟨_ | ⟨_ | ⟨b, bs⟩, rest⟩, caps, wire⟩
  · rfl
  · rfl
  · by_cases hl : len < bs.length + 1
    · simp [iphoneDeviceRecv, Conn.pending, hl, ← List.append_assoc]
    · simp [iphoneDeviceRecv, Conn.pending, hl,
        List.take_of_length_le (show (b :: bs).length ≤ len by simp; omega)]

/-- What a receive is handed is the start of the pending stream. -/
theorem recv_eq_take (c : Conn) (len : Nat) :
    (iphoneDeviceRecv c len).2.1 = c.pending.take (iphoneDeviceRecv c len).2.1.length := by
  conv_rhs => rw [← recv_append_pending c len]
  simp

theorem recv_pending (c : Conn) (len : Nat) :
    (iphoneDeviceRecv c len).2.2.pending = c.pending.drop (iphoneDeviceRecv c len).2.1.length := by
  conv_rhs => rw [← recv_append_pending c len]
  simp

theorem length_recv_le (c : Conn) (len : Nat) : (iphoneDeviceRecv c len).2.1.length ≤ len := by
  rcases c with ⟨_ | ⟨_ | ⟨b, bs⟩, rest⟩, caps, wire⟩ <;>
    simp [iphoneDeviceRecv, Nat.min_le_left]

/-- A receive only touches the inbound side. -/
@[simp] theorem recv_wire (c : Conn) (len : Nat) : (iphoneDeviceRecv c len).2.2.wire = c.wire := by
  rcases c with ⟨_ | ⟨_ | ⟨b, bs⟩, rest⟩, caps, wire⟩ <;> rfl

@[simp] theorem recv_sendCaps (c : Conn) (len : Nat) :
    (iphoneDeviceRecv c len).2.2.sendCaps = c.sendCaps := by
  rcases c with ⟨_ | ⟨_ | ⟨b, bs⟩, rest⟩, caps, wire⟩ <;> rfl

theorem recv_size_le (c : Conn) (len : Nat) : (iphoneDeviceRecv c len).2.2.size ≤ c.size := by
  rcases c with ⟨_ | ⟨_ | ⟨b, bs⟩, rest⟩, caps, wire⟩
  · exact le_rfl
  · simp [iphoneDeviceRecv, Conn.size]
  · by_cases hl : len < bs.length + 1 <;> simp [iphoneDeviceRecv, Conn.size, hl]

/-- A receive that asks for something consumes something, if only a failure. -/
theorem recv_size_lt (hc : c.inbound ≠ []) (hlen : 0 < len) :
    (iphoneDeviceRecv c len).2.2.size < c.size := by
  rcases c with ⟨_ | ⟨_ | ⟨b, bs⟩, rest⟩, caps, wire⟩
  · exact absurd rfl hc
  · simp [iphoneDeviceRecv, Conn.size]
  · by_cases hl : len < bs.length + 1
    · simp [iphoneDeviceRecv, Conn.size, hl]; omega
    · simp [iphoneDeviceRecv, Conn.size, hl]

/-- A receive on a reliable connection with bytes pending succeeds and gets at least one. -/
theorem recv_ok_of_reliable (hc : c.Reliable) (hp : c.pending ≠ []) (hlen : 0 < len) :
    (iphoneDeviceRecv c len).1 = true ∧ 0 < (iphoneDeviceRecv c len).2.1.length := by
  rcases c with ⟨_ | ⟨_ | ⟨b, bs⟩, rest⟩, caps, wire⟩
  · exact absurd rfl hp
  · exact absurd rfl (hc [] (by simp))
  · simp [iphoneDeviceRecv]; omega

/-- A receive that succeeds was handed at least one byte. -/
theorem recv_ok_length (hlen : 0 < len) :
    (iphoneDeviceRecv c len).1 = true → 0 < (iphoneDeviceRecv c len).2.1.length := by
  rcases c with ⟨_ | ⟨_ | ⟨b, bs⟩, rest⟩, caps, wire⟩ <;> simp [iphoneDeviceRecv]
  omega

theorem recv_reliable (hc : c.Reliable) : (iphoneDeviceRecv c len).2.2.Reliable := by
  rcases c with ⟨_ | ⟨_ | ⟨b, bs⟩, rest⟩, caps, wire⟩
  · exact hc
  · exact fun x hx => hc x (List.mem_cons_of_mem _ hx)
  · intro x hx
    by_cases hl : len < bs.length + 1
    · simp only [iphoneDeviceRecv, hl, if_true, List.mem_cons] at hx
      rcases hx with rfl | hx
      · simp; omega
      · exact hc x (List.mem_cons_of_mem _ hx)
    · simp only [iphoneDeviceRecv, hl, if_false] at hx
      exact hc x (List.mem_cons_of_mem _ hx)

/-- A receive that takes `k` bytes shifts every later chunk end down by `k`. -/
theorem mem_cuts_recv {p : Nat} (hp : p ∈ cuts (iphoneDeviceRecv c len).2.2.inbound) :
    p + (iphoneDeviceRecv c len).2.1.length ∈ cuts c.inbound := by
  rcases c with ⟨_ | ⟨_ | ⟨b, bs⟩, rest⟩, caps, wire⟩
  · simp [iphoneDeviceRecv, cuts] at hp
  · simp_all [iphoneDeviceRecv, cuts]
  · by_cases hl : len < bs.length + 1
    · simp only [iphoneDeviceRecv, hl, if_true, cuts, List.mem_cons, List.mem_map] at hp
      simp only [iphoneDeviceRecv, cuts, List.mem_cons, List.mem_map, List.length_take,
        List.length_cons]
      rcases hp with rfl | ⟨q, hq, rfl⟩
      · left; simp; omega
      · right; exact ⟨q, hq, by simp; omega⟩
    · simp only [iphoneDeviceRecv, hl, if_false] at hp
      simp only [iphoneDeviceRecv, cuts, List.mem_cons, List.mem_map, List.length_cons,
        List.take_of_length_le (show (b :: bs).length ≤ len by simp; omega)]
      right; exact ⟨p, hp, by omega⟩

/-- A receive whose bytes arrive in one chunk gets all of them. -/
theorem recv_of_whole (hc : c.Reliable) (hw : c.Whole 0 len) (hlen : len ≤ c.pending.length) :
    (iphoneDeviceRecv c len).2.1 = c.pending.take len := by
  rcases c with ⟨_ | ⟨_ | ⟨b, bs⟩, rest⟩, caps, wire⟩
  · simp [Conn.pending] at hlen ⊢; simp [iphoneDeviceRecv, hlen]
  · exact absurd rfl (hc [] (by simp))
  · have hcut := hw (bs.length + 1) (by simp [cuts])
    simp only [iphoneDeviceRecv, Conn.pending, List.flatten_cons]
    rw [List.take_append_of_le_length (by simp; omega)]

/-- No chunk ends before the first one does. -/
theorem head_le_of_mem_cuts {chunk : List UInt8} {rest : List (List UInt8)} {p : Nat}
    (hp : p ∈ cuts (chunk :: rest)) : chunk.length ≤ p := by
  simp only [cuts, List.mem_cons, List.mem_map] at hp
  rcases hp with rfl | ⟨q, -, rfl⟩ <;> omega

/-- A receive on a reliable connection that is handed all `len` bytes it asks for found them in
one chunk. -/
theorem whole_of_recv_length (hc : c.Reliable) (h : len ≤ (iphoneDeviceRecv c len).2.1.length) :
    c.Whole 0 len := by
  rcases c with ⟨_ | ⟨_ | ⟨b, bs⟩, rest⟩, caps, wire⟩
  · intro p hp; simp [cuts] at hp
  · exact absurd rfl (hc [] (by simp))
  · intro p hp
    have := head_le_of_mem_cuts hp
    simp only [iphoneDeviceRecv, List.length_take, List.length_cons] at h this
    omega

end Recv

/-! ## Consuming the pending stream

`Conn.After c k c'` says that `c'` is what receives leave of `c` once they have taken its first
`k` pending bytes.  Every receiving function of a client produces such a `c'`, and the relation
composes, so the facts a run needs (where the stream stands, where chunks end, that no failure
appeared) are carried from one receive to the next without unfolding any of them again. -/

/-- `c'` is what receives leave of `c` once they have taken its first `k` pending bytes. -/
structure Conn.After (c : Conn) (k : Nat) (c' : Conn) : Prop where
  pending : c'.pending = c.pending.drop k
  cuts : ∀ p ∈ cuts c'.inbound, p + k ∈ cuts c.inbound
  reliable : c.Reliable → c'.Reliable
  wire : c'.wire = c.wire
  sendCaps : c'.sendCaps = c.sendCaps
  size : c'.size ≤ c.size

namespace Conn.After

variable {c c' c'' : Conn} {k k' : Nat}

theorem refl (c : Conn) : c.After 0 c := ⟨by simp, fun p hp => hp, id, rfl, rfl, le_rfl⟩

theorem trans (h : c.After k c') (h' : c'.After k' c'') : c.After (k + k') c'' where
  pending := by rw [h'.pending, h.pending, List.drop_drop]
  cuts p hp := by simpa [Nat.add_assoc, Nat.add_comm k'] using h.cuts _ (h'.cuts p hp)
  reliable hc := h'.reliable (h.reliable hc)
  wire := h'.wire.trans h.wire
  sendCaps := h'.sendCaps.trans h.sendCaps
  size := h'.size.trans h.size

/-- Chunk ends move down by what was consumed. -/
theorem whole (h : c.After k c') {a b : Nat} (hw : c.Whole (a + k) (b + k)) : c'.Whole a b :=
  fun p hp => by rcases hw _ (h.cuts p hp) with h | h <;> omega

end Conn.After

theorem recv_after (c : Conn) (len : Nat) :
    c.After (iphoneDeviceRecv c len).2.1.length (iphoneDeviceRecv c len).2.2 :=
  ⟨recv_pending c len, fun _ hp => mem_cuts_recv hp, recv_reliable, recv_wire c len,
    recv_sendCaps c len, recv_size_le c len⟩

/-- Everything a receive does, read off one of its results. -/
theorem recv_spec {c c' : Conn} {len : Nat} {ok : Bool} {got : List UInt8}
    (hr : iphoneDeviceRecv c len = (ok, got, c')) :
    got.length ≤ len ∧ got = c.pending.take got.length ∧ c.After got.length c' := by
  have h1 := length_recv_le c len
  have h2 := recv_eq_take c len
  have h3 := recv_after c len
  simp only [hr] at h1 h2 h3
  exact ⟨h1, h2, h3⟩

/-- A receive on a reliable connection whose next `len` bytes arrive in one chunk gets exactly
those bytes. -/
theorem recv_exact {c : Conn} {len : Nat} (hc : c.Reliable) (hw : c.Whole 0 len)
    (hlen : len ≤ c.pending.length) :
    (iphoneDeviceRecv c len).2.1 = c.pending.take len ∧
      c.After len (iphoneDeviceRecv c len).2.2 := by
  have h := recv_of_whole hc hw hlen
  refine ⟨h, ?_⟩
  have := recv_after c len
  rwa [h, List.length_take, Nat.min_eq_left hlen] at this

/-! ## Sends -/

section Send

variable {c : Conn} {data : List UInt8}

@[simp] theorem send_inbound (c : Conn) (data : List UInt8) :
    (iphoneDeviceSend c data).2.2.inbound = c.inbound := rfl

@[simp] theorem send_size (c : Conn) (data : List UInt8) :
    (iphoneDeviceSend c data).2.2.size = c.size := rfl

theorem send_sent_le (c : Conn) (data : List UInt8) :
    (iphoneDeviceSend c data).2.1 ≤ data.length :=
  Nat.min_le_right _ _

/-- A send hands over the first `sent` bytes of `data`, and only those. -/
theorem send_wire (c : Conn) (data : List UInt8) :
    (iphoneDeviceSend c data).2.2.wire = c.wire ++ data.take (iphoneDeviceSend c data).2.1 := rfl

/-- A send whose capacity covers `data` hands all of it over. -/
theorem send_all (c : Conn) (data : List UInt8) (h : data.length ≤ c.sendCaps.headD 0) :
    iphoneDeviceSend c data =
      (true, data.length, { c with sendCaps := c.sendCaps.tail, wire := c.wire ++ data }) := by
  have hn : min (c.sendCaps.headD 0) data.length = data.length := Nat.min_eq_right h
  simp only [iphoneDeviceSend, hn, decide_True, List.take_length]

/-- Each of the coming sends hands over all it is given, the `i`-th being given `sizes[i]`
bytes. -/
def CapsCover : List Nat → List Nat → Prop
  | [], _ => True
  | size :: sizes, caps => size ≤ caps.headD 0 ∧ CapsCover sizes caps.tail

instance CapsCover.decidable : ∀ sizes caps, Decidable (CapsCover sizes caps)
  | [], _ => isTrue trivial
  | _ :: sizes, caps =>
    haveI := CapsCover.decidable sizes caps.tail
    inferInstanceAs (Decidable (_ ∧ _))

theorem CapsCover.append {sizes sizes' : List Nat} :
    ∀ {caps : List Nat}, CapsCover (sizes ++ sizes') caps ↔
      CapsCover sizes caps ∧ CapsCover sizes' (caps.drop sizes.length) := by
  induction sizes with
  | nil => simp [CapsCover]
  | cons size sizes ih => intro caps; simp [CapsCover, ih, and_assoc]

end Send

/-! ## What receives take while sends go on

A run of calls that both receive and send leaves a connection whose wire and send capacities have
moved on, so it is not `Conn.After` the one it started from; `Conn.Took` keeps the receive side
of `Conn.After`, and composes the same way. -/

/-- `c'` is what calls leave of `c` once their receives have taken its first `k` pending bytes;
unlike `Conn.After`, the calls may have sent in between. -/
structure Conn.Took (c : Conn) (k : Nat) (c' : Conn) : Prop where
  pending : c'.pending = c.pending.drop k
  cuts : ∀ p ∈ cuts c'.inbound, p + k ∈ cuts c.inbound
  reliable : c.Reliable → c'.Reliable

namespace Conn.Took

variable {c c' c'' : Conn} {k k' : Nat}

theorem of_after (h : c.After k c') : c.Took k c' := ⟨h.pending, h.cuts, h.reliable⟩

/-- Sends take nothing. -/
theorem of_inbound (h : c'.inbound = c.inbound) : c.Took 0 c' :=
  ⟨by rw [Conn.pending_of_inbound h, List.drop_zero], fun p hp => by rwa [Nat.add_zero, ← h],
    fun hc => hc.of_inbound h⟩

theorem trans (h : c.Took k c') (h' : c'.Took k' c'') : c.Took (k + k') c'' where
  pending := by rw [h'.pending, h.pending, List.drop_drop]
  cuts p hp := by simpa [Nat.add_assoc, Nat.add_comm k'] using h.cuts _ (h'.cuts p hp)
  reliable hc := h'.reliable (h.reliable hc)

/-- A send, then receives that take `k` bytes. -/
theorem of_inbound_after (hin : c'.inbound = c.inbound) (h : c'.After k c'') : c.Took k c'' := by
  simpa using (of_inbound hin).trans (of_after h)

/-- Chunk ends move down by what was taken. -/
theorem whole (h : c.Took k c') {a b : Nat} (hw : c.Whole (a + k) (b + k)) : c'.Whole a b :=
  fun p hp => by rcases hw _ (h.cuts p hp) with h | h <;> omega

end Conn.Took

end Libiphone
