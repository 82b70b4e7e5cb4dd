import Libiphone.Basic

/-!
# Lists of strings in an AFC answer

A directory listing, the device information and the information about a file all come back as
NUL-terminated strings laid end to end.  `make_strings_list` (`AFC.c`, lines 685-702) counts
the NULs among the first `true_length` bytes with `count_nullspaces` (lines 673-683) and then
copies that many strings, each starting just past the NUL that ended the one before.
-/

namespace Libiphone.AFC

/-- `count_nullspaces(string, number)` (lines 673-683): the NULs among the first `number`
bytes. -/
def countNullspaces : List UInt8 → Nat → Nat
  | [], _ => 0
  | _, 0 => 0
  | b :: bs, number + 1 => (if b = 0 then 1 else 0) + countNullspaces bs number

/-- `strdup(tokens + j)`: the bytes from offset `j` up to the next NUL. -/
def stringAt (tokens : List UInt8) (j : Nat) : List UInt8 := (tokens.drop j).takeWhile (· ≠ 0)

/-- The loop of `make_strings_list` (lines 695-698) with `nulls` strings left to copy, the next
one at offset `j`: the strings it copies, and the offsets of `tokens` it reads.  Each `strdup`
reads its string and the NUL after it, and the `strlen` of the copy reads no more of `tokens`. -/
def copyLoop (tokens : List UInt8) : Nat → Nat → List (List UInt8) × List Nat
  | 0, _ => ([], [])
  | nulls + 1, j =>
    let rest := copyLoop tokens nulls (j + (stringAt tokens j).length + 1)
    (stringAt tokens j :: rest.1, List.range' j ((stringAt tokens j).length + 1) ++ rest.2)

/-- The strings the loop copies. -/
def copyStrings (tokens : List UInt8) (nulls j : Nat) : List (List UInt8) :=
  (copyLoop tokens nulls j).1

/-- The offsets of `tokens` the loop reads. -/
def copyReads (tokens : List UInt8) (nulls j : Nat) : List Nat := (copyLoop tokens nulls j).2

/-- `make_strings_list(tokens, true_length)` (lines 685-702): NULL for a NULL buffer or a zero
length, else the list (without its terminating NULL).  A negative length counts no NUL. -/
def makeStringsList (tokens : Option (List UInt8)) (trueLength : Int) : Option (List (List UInt8)) :=
  match tokens with
  | none => none
  | some tokens =>
    if trueLength = 0 then none
    else some (copyStrings tokens (countNullspaces tokens trueLength.toNat) 0)

/-- What the loop is meant to copy: the NUL-terminated strings laid end to end in `bytes`,
without their NULs.  Bytes after the last NUL, which no NUL ends, are not a string. -/
def nulSegments (bytes : List UInt8) : List (List UInt8) := (bytes.splitOn 0).dropLast

@[simp] theorem copyStrings_zero (tokens : List UInt8) (j : Nat) : copyStrings tokens 0 j = [] := rfl

@[simp] theorem copyReads_zero (tokens : List UInt8) (j : Nat) : copyReads tokens 0 j = [] := rfl

theorem copyStrings_succ (tokens : List UInt8) (nulls j : Nat) :
    copyStrings tokens (nulls + 1) j =
      stringAt tokens j :: copyStrings tokens nulls (j + (stringAt tokens j).length + 1) := rfl

theorem copyReads_succ (tokens : List UInt8) (nulls j : Nat) :
    copyReads tokens (nulls + 1) j = List.range' j ((stringAt tokens j).length + 1) ++
      copyReads tokens nulls (j + (stringAt tokens j).length + 1) := rfl

@[simp] theorem length_copyStrings (tokens : List UInt8) (nulls j : Nat) :
    (copyStrings tokens nulls j).length = nulls := by
  induction nulls generalizing j <;> simp [copyStrings_succ, *]

/-! ## The loop, one byte of the buffer at a time

Read from offset `j + 1` of `x :: xs`, the loop sees what it sees from offset `j` of `xs`.  So
the strings copied from offset `0` of `x :: xs` are those of `xs` with `x` put in front of the
first one, or, when `x` is a NUL, an empty string in front of them; the same two cases as
`List.splitOnP_cons`. -/

section Cons

variable (x : UInt8) (xs : List UInt8)

@[simp] theorem stringAt_cons_succ (j : Nat) : stringAt (x :: xs) (j + 1) = stringAt xs j := rfl

theorem copyLoop_cons_succ (nulls j : Nat) :
    copyLoop (x :: xs) nulls (j + 1) =
      ((copyLoop xs nulls j).1, (copyLoop xs nulls j).2.map (1 + ·)) := by
  induction nulls generalizing j with
  | zero => rfl
  | succ nulls ih =>
    simp only [copyLoop, stringAt_cons_succ, Nat.add_right_comm j 1, ih, List.map_append,
      List.map_add_range', Nat.add_comm 1 j]

theorem copyStrings_cons_succ (nulls j : Nat) :
    copyStrings (x :: xs) nulls (j + 1) = copyStrings xs nulls j := by
  rw [copyStrings, copyLoop_cons_succ, copyStrings]

theorem copyReads_cons_succ (nulls j : Nat) :
    copyReads (x :: xs) nulls (j + 1) = (copyReads xs nulls j).map (1 + ·) := by
  rw [copyReads, copyLoop_cons_succ, copyReads]

theorem copyStrings_cons_nul (nulls : Nat) :
    copyStrings (0 :: xs) (nulls + 1) 0 = [] :: copyStrings xs nulls 0 := by
  simp [copyStrings_succ, stringAt, copyStrings_cons_succ]

theorem copyReads_cons_nul (nulls : Nat) :
    copyReads (0 :: xs) (nulls + 1) 0 = 0 :: (copyReads xs nulls 0).map (1 + ·) := by
  simp [copyReads_succ, stringAt, copyReads_cons_succ]

variable {x}

theorem stringAt_cons_zero (hx : x ≠ 0) : stringAt (x :: xs) 0 = x :: stringAt xs 0 := by
  simp [stringAt, List.takeWhile_cons, hx]

theorem copyStrings_cons (hx : x ≠ 0) (nulls : Nat) :
    copyStrings (x :: xs) nulls 0 = (copyStrings xs nulls 0).modifyHead (x :: ·) := by
  cases nulls with
  | zero => rfl
  | succ nulls =>
    simp only [copyStrings_succ, stringAt_cons_zero xs hx, List.length_cons, Nat.zero_add,
      copyStrings_cons_succ, List.modifyHead_cons]

theorem copyReads_cons (hx : x ≠ 0) (nulls : Nat) :
    copyReads (x :: xs) (nulls + 1) 0 = 0 :: (copyReads xs (nulls + 1) 0).map (1 + ·) := by
  simp only [copyReads_succ, stringAt_cons_zero xs hx, List.length_cons, Nat.zero_add,
    copyReads_cons_succ, List.range'_succ, List.map_cons, List.map_append, List.map_add_range',
    List.cons_append]

end Cons

theorem countNullspaces_cons (b : UInt8) (bs : List UInt8) (number : Nat) :
    countNullspaces (b :: bs) (number + 1) = (if b = 0 then 1 else 0) + countNullspaces bs number :=
  rfl

theorem below_succ {reads : List Nat} {number : Nat} (h : ∀ i ∈ reads, i < number) :
    ∀ i ∈ 0 :: reads.map (1 + ·), i < number + 1 := by
  simp only [List.mem_cons, List.mem_map]
  rintro i (rfl | ⟨i, hi, rfl⟩)
  · omega
  · have := h i hi; omega

theorem dropLast_modifyHead {α : Type} (f : α → α) :
    ∀ l : List α, (l.modifyHead f).dropLast = l.dropLast.modifyHead f
  | [] | [_] => rfl
  | _ :: _ :: _ => rfl

/-- The loop copies the NUL-terminated strings among the first `number` bytes, whatever
`number` is. -/
theorem copyStrings_countNullspaces (tokens : List UInt8) (number : Nat) :
    copyStrings tokens (countNullspaces tokens number) 0 = nulSegments (tokens.take number) := by
  induction tokens generalizing number with
  | nil => cases number <;> rfl
  | cons b bs ih =>
    cases number with
    | zero => cases bs <;> rfl
    | succ number =>
      have hne := List.splitOnP_ne_nil (· == (0 : UInt8)) (bs.take number)
      by_cases hb : b = 0
      · subst hb
        rw [countNullspaces_cons, if_pos rfl, Nat.add_comm, copyStrings_cons_nul, ih]
        simp [nulSegments, List.splitOn, List.dropLast_cons_of_ne_nil hne]
      · rw [countNullspaces_cons, if_neg hb, Nat.zero_add, copyStrings_cons bs hb, ih]
        simp [nulSegments, List.splitOn, hb, dropLast_modifyHead]

/-- Each `strdup` of the loop reads below `number`: the string it copies ends at one of the NULs
`count_nullspaces` counted. -/
theorem copyReads_countNullspaces (tokens : List UInt8) (number : Nat) :
    ∀ i ∈ copyReads tokens (countNullspaces tokens number) 0, i < number := by
  induction tokens generalizing number with
  | nil => simp [countNullspaces]
  | cons b bs ih =>
    cases number with
    | zero => simp [countNullspaces]
    | succ number =>
      rw [countNullspaces_cons]
      by_cases hb : b = 0
      · subst hb
        rw [if_pos rfl, Nat.add_comm, copyReads_cons_nul]
        exact below_succ (ih number)
      · rw [if_neg hb, Nat.zero_add]
        cases h : countNullspaces bs number with
        | zero => simp
        | succ nulls =>
          rw [copyReads_cons bs hb, ← h]
          exact below_succ (ih number)

theorem makeStringsList_length {tokens : List UInt8} (h : tokens ≠ []) :
    makeStringsList (some tokens) tokens.length = some (nulSegments tokens) := by
  rw [makeStringsList, if_neg (Nat.cast_ne_zero.mpr (by simpa using h)), Int.toNat_ofNat,
    copyStrings_countNullspaces, List.take_length]

theorem splitOn_withNul (strings : List CString) :
    (strings.map CString.withNul).flatten.splitOn 0 = strings.map CString.bytes ++ [[]] := by
  induction strings with
  | nil => rfl
  | cons s strings ih =>
    have hs : ∀ x ∈ s.bytes, ¬(x == (0 : UInt8)) = true := fun x hx h =>
      s.no_nul (by rwa [beq_iff_eq.mp h] at hx)
    rw [List.map_cons, List.flatten_cons, CString.withNul, List.append_assoc, List.singleton_append]
    simp only [List.splitOn] at ih ⊢
    rw [List.splitOnP_first _ _ hs 0 rfl, ih, List.map_cons, List.cons_append]

/-- `make_strings_list(tokens, n)`, for `0 < n ≤ |tokens|`, returns the NUL-terminated strings
among the first `n` bytes, in order, and the loop reads no byte at an offset of `n` or more; so
a list of C strings sent one after the other, each with its NUL, comes back as the list. -/
theorem makeStringsList_nulSegments :
    (∀ (tokens : List UInt8) (n : Nat), 0 < n → n ≤ tokens.length →
      makeStringsList (some tokens) n = some (nulSegments (tokens.take n)) ∧
      ∀ i ∈ copyReads tokens (countNullspaces tokens n) 0, i < n) ∧
    ∀ strings : List CString, strings ≠ [] →
      makeStringsList (some (strings.map CString.withNul).flatten)
          (strings.map CString.withNul).flatten.length =
        some (strings.map CString.bytes) := by
  refine ⟨fun tokens n hn _ => ⟨?_, copyReads_countNullspaces tokens n⟩,
    fun strings hs => ?_⟩
  · rw [makeStringsList, if_neg (by omega), Int.toNat_ofNat, copyStrings_countNullspaces]
  · obtain ⟨s, rest, rfl⟩ := List.exists_cons_of_ne_nil hs
    rw [makeStringsList_length (by simp [CString.withNul]), nulSegments, splitOn_withNul,
      List.dropLast_concat]

theorem makeStringsList_nulSegments_sample :
    makeStringsList (some [0x61, 0, 0x62, 0x63, 0, 0x64]) 6 = some [[0x61], [0x62, 0x63]] ∧
      let strings : List CString := [⟨[0x61], by decide⟩, ⟨[], by decide⟩]
      makeStringsList (some (strings.map CString.withNul).flatten)
        (strings.map CString.withNul).flatten.length = some [[0x61], []] :=
  ⟨(makeStringsList_nulSegments.1 _ 6 (by decide) (by decide)).1.trans (by decide),
    makeStringsList_nulSegments.2 _ (by simp)⟩

end Libiphone.AFC
