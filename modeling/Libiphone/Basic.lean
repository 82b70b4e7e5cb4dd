import Mathlib

/-!
# Bytes, machine integers and the client mutex

The clients move values between C buffers and integers in a few fixed ways, and each is
modelled here once:

* a count that the connection stores as a `uint32_t` and the caller reads back through an
  `int *` (`afc_receive_data` passes `(uint32_t*)bytes` for its `int *bytes`): `asInt32`, and
  an `int` stored into a `uint32_t`: `asUInt32`;
* a length prefix in network byte order (`htonl`, `ntohl`): `beBytes` and `ofBeBytes`;
* a multi-byte integer read out of a buffer on a little-endian host, such as `param1` in
  `afc_receive_data` or `pktlen` in `iphone_np_get_notification`: `leBytes` and `ofLeBytes`.

A C string is a `CString`, which cannot hold a NUL byte.  Every service client owns a `GMutex`;
the model keeps the locks and unlocks performed on it as a list of `MutexEvent`s.
-/

namespace Libiphone

/-! ## Counts read back as `int` -/

/-- A 32-bit count stored as `uint32_t` and read back through an `int *`: two's complement. -/
def asInt32 (n : Nat) : Int :=
  if n % 2 ^ 32 < 2 ^ 31 then ((n % 2 ^ 32 : Nat) : Int) else ((n % 2 ^ 32 : Nat) : Int) - 2 ^ 32

theorem asInt32_of_lt {n : Nat} (h : n < 2 ^ 31) : asInt32 n = n := by
  have h32 : n % 2 ^ 32 = n := Nat.mod_eq_of_lt (by omega)
  rw [asInt32, h32, if_pos h]

theorem asInt32_pos_iff {n : Nat} (h : n < 2 ^ 31) : 0 < asInt32 n ↔ 0 < n := by
  rw [asInt32_of_lt h]; omega

/-- A count of zero reads back as zero, and so fails every `*bytes <= 0` test. -/
@[simp] theorem asInt32_zero : asInt32 0 = 0 := rfl

/-- An `int` stored into a `uint32_t`, or added to one: taken modulo `2 ^ 32`. -/
def asUInt32 (n : Int) : Nat := (n % 2 ^ 32).toNat

theorem asUInt32_of_lt {n : Int} (h0 : 0 ≤ n) (h : n < 2 ^ 32) : asUInt32 n = n.toNat := by
  rw [asUInt32, Int.emod_eq_of_lt h0 h]

/-! ## Packet numbers

A packet number is a `uint64_t`, and counting packets on from it wraps. -/

theorem uint64_ofNat_add (a b : Nat) : UInt64.ofNat (a + b) = UInt64.ofNat a + UInt64.ofNat b :=
  UInt64.eq_of_toBitVec_eq (BitVec.ofNat_add a b)

theorem uint64_ofNat_succ (n : Nat) : UInt64.ofNat (n + 1) = UInt64.ofNat n + 1 :=
  UInt64.eq_of_toBitVec_eq (BitVec.ofNat_add n 1)

/-! ## Integers as bytes -/

/-- The `width` low bytes of `n`, least significant first. -/
def leBytes : Nat → Nat → List UInt8
  | 0, _ => []
  | width + 1, n => UInt8.ofNat n :: leBytes width (n / 256)

/-- Bytes read as an unsigned integer, least significant first. -/
def ofLeBytes : List UInt8 → Nat
  | [] => 0
  | b :: bs => b.toNat + 256 * ofLeBytes bs

/-- The `width` low bytes of `n`, most significant first: `htonl` for a width of four. -/
def beBytes (width n : Nat) : List UInt8 := (leBytes width n).reverse

/-- Bytes read as an unsigned integer, most significant first: `ntohl` on four bytes. -/
def ofBeBytes (bs : List UInt8) : Nat := ofLeBytes bs.reverse

@[simp] theorem length_leBytes (width n : Nat) : (leBytes width n).length = width := by
  induction width generalizing n <;> simp [leBytes, *]

@[simp] theorem length_beBytes (width n : Nat) : (beBytes width n).length = width := by
  simp [beBytes]

theorem ofLeBytes_leBytes (width n : Nat) : ofLeBytes (leBytes width n) = n % 256 ^ width := by
  induction width generalizing n with
  | zero => simp [leBytes, ofLeBytes, Nat.mod_one]
  | succ width ih =>
    have hb : (UInt8.ofNat n).toNat = n % 256 := rfl
    simp only [leBytes, ofLeBytes, hb, ih, Nat.pow_succ]
    rw [Nat.mul_comm (256 ^ width) 256, Nat.mod_mul]

theorem ofBeBytes_beBytes (width n : Nat) : ofBeBytes (beBytes width n) = n % 256 ^ width := by
  simp [ofBeBytes, beBytes, ofLeBytes_leBytes]

theorem ofLeBytes_lt (bs : List UInt8) : ofLeBytes bs < 256 ^ bs.length := by
  induction bs with
  | nil => simp [ofLeBytes]
  | cons b bs ih =>
    have hb : b.toNat < 256 := b.toNat_lt_size
    simp only [ofLeBytes, List.length_cons, Nat.pow_succ]
    omega

/-! ## C strings -/

/-- A C string: the bytes before its terminating NUL, of which there is no other. -/
structure CString where
  bytes : List UInt8
  no_nul : 0 ∉ bytes

/-- The `strlen(s) + 1` bytes a client copies or sends for `s`: the string and its NUL. -/
def CString.withNul (s : CString) : List UInt8 := s.bytes ++ [0]

@[simp] theorem CString.length_withNul (s : CString) : s.withNul.length = s.bytes.length + 1 := by
  simp [CString.withNul]

/-! ## The client mutex -/

/-- A `g_mutex_lock` or `g_mutex_unlock` on a client's mutex. -/
inductive MutexEvent
  | lock
  | unlock
  deriving DecidableEq, Repr

/-- The mutex is free after the events `log`: they pair up as lock, unlock, lock, unlock, … -/
def MutexEvent.isFree : List MutexEvent → Bool
  | [] => true
  | .lock :: .unlock :: log => isFree log
  | _ => false

@[simp] theorem MutexEvent.isFree_append_lock_unlock (log : List MutexEvent) :
    isFree (log ++ [.lock, .unlock]) = isFree log := by
  induction log using isFree.induct with
  | case1 => rfl
  | case2 log ih => simpa [isFree] using ih
  | case3 log hnil hpair =>
    match log, hpair with
    | .unlock :: _, _ => rfl
    | [.lock], _ => rfl
    | .lock :: .lock :: _, _ => rfl
    | .lock :: .unlock :: log, h => exact absurd rfl (h log)

/-- One call leaves the mutex as it found it: it either never locks it, or locks it once and
unlocks it once, in that order. -/
def MutexEvent.Balanced (before after : List MutexEvent) : Prop :=
  after = before ∨ after = before ++ [.lock, .unlock]

theorem MutexEvent.isFree_of_balanced {before after : List MutexEvent} (h : Balanced before after) :
    isFree after = isFree before := by
  rcases h with rfl | rfl <;> simp

end Libiphone
