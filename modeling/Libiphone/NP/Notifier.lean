import Mathlib.Logic.Relation
import Libiphone.Basic

/-!
# The notifier thread

`iphone_np_set_notify_callback` starts a thread, `iphone_np_notifier` (lines 429-451), that
calls `iphone_np_get_notification` for as long as `client->connection` is not NULL.  Two calls
stop it: `iphone_np_set_notify_callback` again, which takes the client mutex, sets the
connection to NULL and joins the thread (lines 473-480), and `iphone_np_free_client`, which
releases the connection, sets it to NULL and joins the thread without the mutex (lines
188-194).

The model is the two threads and what they share: where each one is, which one holds the
mutex, the connection field, whether the connection object has been released, and the
notifier handle.  A step of a thread is one line that reads or writes shared state; the data the
receives move is the business of `Libiphone.NP.Client`, and here only whether the receive of the
length got a whole length, after which the body is received too.  The notifier checks the
connection at line 437 and again at line 339, and takes the mutex at line 343: between the check
and the lock, another thread can clear the connection.

## What is proved here

* `Inv`, kept by every step of both threads from both starting points: the mutex is held by the
  notifier exactly between its `np_lock` and `np_unlock`, by the caller exactly between its own;
* `removal_completes_iff`: once the caller waits in `g_thread_join`, the removal of the callback
  can complete if and only if the notifier is not waiting in `np_lock`; when it is, no thread can
  move;
* `removal_restores`: when the removal returns, whatever the interleaving, the notifier has
  returned, `client->notifier` is NULL and `client->connection` holds the connection again,
  which nothing released; the caller clears and restores the field under the mutex, and the
  notifier receives only under it;
* `freeing_completes`: `iphone_np_free_client` can always complete;
* the interleavings on which the removal deadlocks, and on which the notifier receives on a
  connection that `iphone_np_free_client` has already released, are reachable.
-/

namespace Libiphone.NP.Notifier

/-- The two threads that touch the client. -/
inductive Thread
  | notifier
  | caller
  deriving DecidableEq, Repr

/-- Where the notifier thread is, in `iphone_np_notifier` and the
`iphone_np_get_notification` it calls. -/
inductive NotifierPc
  /-- Line 437: `while (npt->client->connection)`. -/
  | loop
  /-- Line 339: `!client->connection` in `iphone_np_get_notification`. -/
  | check
  /-- Line 343: `np_lock(client)`. -/
  | lock
  /-- Line 345: the receive of the length, on `client->connection`. -/
  | recvLength
  /-- Line 357: the receive of the body, on `client->connection`. -/
  | recvBody
  /-- Lines 366 and 421: `np_unlock(client)`; then the callback and `sleep(1)`, which touch
  nothing shared. -/
  | unlock
  /-- Line 450: the thread function has returned. -/
  | exited
  deriving DecidableEq, Repr

/-- Where the thread that calls into the client is: removing the callback with
`iphone_np_set_notify_callback(client, NULL)`, or freeing the client. -/
inductive CallerPc
  /-- Line 473: `np_lock(client)`. -/
  | setLock
  /-- Lines 476-477: `conn = client->connection; client->connection = NULL`. -/
  | setClear
  /-- Line 478: `g_thread_join(client->notifier)`. -/
  | setJoin
  /-- Lines 479-480: `client->notifier = NULL; client->connection = conn`. -/
  | setRestore
  /-- Line 497: `np_unlock(client)`. -/
  | setUnlock
  /-- Lines 188-189: `if (client->connection) iphone_mux_free_client(client->connection)`. -/
  | freeRelease
  /-- Line 190: `client->connection = NULL`. -/
  | freeClear
  /-- Lines 191-193: `if (client->notifier) g_thread_join(client->notifier)`. -/
  | freeJoin
  /-- The call has returned. -/
  | done
  deriving DecidableEq, Repr

/-- The notifier holds the mutex at these points. -/
def NotifierPc.Locked : NotifierPc → Prop
  | .recvLength | .recvBody | .unlock => True
  | _ => False

/-- The caller holds the mutex at these points. -/
def CallerPc.Locked : CallerPc → Prop
  | .setClear | .setJoin | .setRestore | .setUnlock => True
  | _ => False

instance : DecidablePred NotifierPc.Locked := fun pc => by
  cases pc <;> simp only [NotifierPc.Locked] <;> infer_instance

instance : DecidablePred CallerPc.Locked := fun pc => by
  cases pc <;> simp only [CallerPc.Locked] <;> infer_instance

/-- The state the two threads share, and where each one is. -/
structure Threads where
  notifier : NotifierPc
  caller : CallerPc
  /-- The thread that holds the client mutex, if any. -/
  holder : Option Thread
  /-- `client->connection` is not NULL. -/
  connection : Bool
  /-- `client->notifier` is not NULL. -/
  notifierSet : Bool
  /-- The connection has been passed to `iphone_mux_free_client`. -/
  released : Bool
  /-- `conn`, the caller's copy of the connection field in `iphone_np_set_notify_callback`. -/
  saved : Bool
  /-- The notifier has received on a connection already released. -/
  recvAfterRelease : Bool
  deriving DecidableEq, Repr

/-! ## Steps -/

/-- One step of the notifier; `full` says whether the receive of the length got a whole length
that starts with a zero byte, so that the body is received next.  `none` when the notifier
cannot move: it waits in `np_lock`, or it has returned.  A receive on a NULL connection gets
nothing. -/
def notifierStep (s : Threads) (full : Bool) : Option Threads :=
  match s.notifier with
  | .loop => some { s with notifier := if s.connection then .check else .exited }
  | .check => some { s with notifier := if s.connection then .lock else .loop }
  | .lock =>
    if s.holder = none then some { s with notifier := .recvLength, holder := some .notifier }
    else none
  | .recvLength =>
    some { s with notifier := if s.connection && full then .recvBody else .unlock,
                  recvAfterRelease := s.recvAfterRelease || (s.connection && s.released) }
  | .recvBody =>
    some { s with notifier := .unlock,
                  recvAfterRelease := s.recvAfterRelease || (s.connection && s.released) }
  | .unlock => some { s with notifier := .loop, holder := none }
  | .exited => none

/-- One step of the caller; `none` when it cannot move: it waits in `np_lock` or in
`g_thread_join`, or it has returned. -/
def callerStep (s : Threads) : Option Threads :=
  match s.caller with
  | .setLock =>
    if s.holder = none then
      some { s with caller := if s.notifierSet then .setClear else .setUnlock, holder := some .caller }
    else none
  | .setClear => some { s with caller := .setJoin, saved := s.connection, connection := false }
  | .setJoin => if s.notifier = .exited then some { s with caller := .setRestore } else none
  | .setRestore => some { s with caller := .setUnlock, notifierSet := false, connection := s.saved }
  | .setUnlock => some { s with caller := .done, holder := none }
  | .freeRelease =>
    some (if s.connection then { s with caller := .freeClear, released := true }
      else { s with caller := .done })
  | .freeClear => some { s with caller := .freeJoin, connection := false }
  | .freeJoin =>
    if s.notifierSet then (if s.notifier = .exited then some { s with caller := .done } else none)
    else some { s with caller := .done }
  | .done => none

/-- Which thread moves, and for the notifier, how its receive of the length went. -/
inductive Action
  | notifier (full : Bool)
  | caller
  deriving DecidableEq, Repr

def step (s : Threads) : Action → Option Threads
  | .notifier full => notifierStep s full
  | .caller => callerStep s

/-- Some thread can move from `s` to `s'`. -/
def Step (s s' : Threads) : Prop := ∃ a, step s a = some s'

/-- A notifier running on a live connection, and a caller about to run from `caller`. -/
def start (caller : CallerPc) : Threads where
  notifier := .loop
  caller := caller
  holder := none
  connection := true
  notifierSet := true
  released := false
  saved := false
  recvAfterRelease := false

/-- The steps `as`, one after the other, as long as each can be taken. -/
def run (s : Threads) : List Action → Option Threads
  | [] => some s
  | a :: as => (step s a).bind (run · as)

theorem run_reachable : ∀ {s s' : Threads} {as : List Action},
    run s as = some s' → Relation.ReflTransGen Step s s'
  | _, _, [], h => by cases h; exact .refl
  | s, _, a :: as, h => by
    obtain ⟨t, ht, hrun⟩ := Option.bind_eq_some.mp h
    exact .head ⟨a, ht⟩ (run_reachable hrun)

/-- From a state where no thread can move, nothing else is reachable. -/
theorem eq_of_stuck {s s' : Threads} (hstuck : ∀ a, step s a = none)
    (h : Relation.ReflTransGen Step s s') : s' = s := by
  rcases h.cases_head with rfl | ⟨t, ⟨a, ha⟩, -⟩
  · rfl
  · rw [hstuck a] at ha; cases ha

/-! ## Mutual exclusion -/

/-- What holds in every state the two threads reach. -/
@[mk_iff] structure Inv (s : Threads) : Prop where
  notifier_holds : s.holder = some .notifier ↔ s.notifier.Locked
  caller_holds : s.holder = some .caller ↔ s.caller.Locked
  /-- While the caller joins in `iphone_np_set_notify_callback`, the connection is NULL. -/
  removing_cleared : s.caller = .setJoin → s.connection = false
  /-- While the caller joins in `iphone_np_free_client`, the connection is NULL. -/
  freeing_cleared : s.caller = .freeJoin → s.connection = false

theorem inv_start {caller : CallerPc} (h : caller = .setLock ∨ caller = .freeRelease) :
    Inv (start caller) := by
  rcases h with rfl | rfl <;>
    exact ⟨by simp [start, NotifierPc.Locked], by simp [start, CallerPc.Locked], by simp [start],
      by simp [start]⟩

theorem notifierStep_inv {s s' : Threads} {full : Bool} (hs : Inv s)
    (h : notifierStep s full = some s') : Inv s' := by
  rw [inv_iff] at hs ⊢
  obtain ⟨hn, hc, hr, hf⟩ := hs
  unfold notifierStep at h
  split at h <;> (try split_ifs at h) <;> cases h <;> simp_all [NotifierPc.Locked]

theorem callerStep_inv {s s' : Threads} (hs : Inv s) (h : callerStep s = some s') : Inv s' := by
  rw [inv_iff] at hs ⊢
  obtain ⟨hn, hc, hr, hf⟩ := hs
  unfold callerStep at h
  split at h <;> (try split_ifs at h) <;> cases h <;> simp_all [CallerPc.Locked]

theorem step_inv {s s' : Threads} (hs : Inv s) (h : Step s s') : Inv s' := by
  obtain ⟨a, ha⟩ := h
  cases a with
  | notifier full => exact notifierStep_inv hs ha
  | caller => exact callerStep_inv hs ha

theorem Inv.of_reachable {s s' : Threads} (hs : Inv s) (h : Relation.ReflTransGen Step s s') :
    Inv s' := by
  induction h with
  | refl => exact hs
  | tail _ hst ih => exact step_inv ih hst

/-! ## Stopping the notifier -/

/-- Besides its own line, a step of the notifier changes only who holds the mutex and whether it
has received on a released connection. -/
theorem notifierStep_frame {s s' : Threads} {full : Bool} (h : notifierStep s full = some s') :
    s'.caller = s.caller ∧ s'.connection = s.connection ∧ s'.notifierSet = s.notifierSet ∧
      s'.saved = s.saved ∧ s'.released = s.released := by
  unfold notifierStep at h
  split at h <;> (try split_ifs at h) <;> cases h <;> exact ⟨rfl, rfl, rfl, rfl, rfl⟩

theorem notifierStep_caller {s s' : Threads} {full : Bool} (h : notifierStep s full = some s') :
    s'.caller = s.caller :=
  (notifierStep_frame h).1

/-- A notifier on a NULL connection that does not wait for the mutex returns, the caller
standing still: from the loop head at once, from the check through the loop head, and from
between its `np_lock` and `np_unlock` once it has unlocked. -/
theorem notifier_exits {s : Threads} (hconn : s.connection = false)
    (hlock : s.notifier = .lock → s.holder = none) :
    ∃ s', Relation.ReflTransGen Step s s' ∧ s'.notifier = .exited ∧ s'.caller = s.caller := by
  have key : ∀ as,
      (∃ s', run s as = some s' ∧ s'.notifier = .exited ∧ s'.caller = s.caller) →
      ∃ s', Relation.ReflTransGen Step s s' ∧ s'.notifier = .exited ∧ s'.caller = s.caller :=
    fun _ ⟨s', h, h'⟩ => ⟨s', run_reachable h, h'⟩
  cases hpc : s.notifier with
  | loop => exact key [.notifier false] (by simp [run, step, notifierStep, hpc, hconn])
  | check =>
    exact key (.replicate 2 (.notifier false)) (by simp [run, step, notifierStep, hpc, hconn])
  | lock =>
    exact key (.replicate 4 (.notifier false))
      (by simp [run, step, notifierStep, hpc, hconn, hlock hpc])
  | recvLength =>
    exact key (.replicate 3 (.notifier false)) (by simp [run, step, notifierStep, hpc, hconn])
  | recvBody =>
    exact key (.replicate 3 (.notifier false)) (by simp [run, step, notifierStep, hpc, hconn])
  | unlock =>
    exact key (.replicate 2 (.notifier false)) (by simp [run, step, notifierStep, hpc, hconn])
  | exited => exact ⟨s, .refl, hpc, rfl⟩

/-- Once the caller of `iphone_np_set_notify_callback` waits in `g_thread_join`, the removal can
complete if and only if the notifier is not waiting in `np_lock`.  When it is, the caller holds
the mutex the notifier waits for, and the notifier never returns to the loop head where it would
see the NULL connection: neither thread can move. -/
theorem removal_completes_iff {s : Threads} (hs : Relation.ReflTransGen Step (start .setLock) s)
    (hjoin : s.caller = .setJoin) :
    (∃ s', Relation.ReflTransGen Step s s' ∧ s'.caller = .done) ↔ s.notifier ≠ .lock := by
  have hinv := (inv_start (.inl rfl)).of_reachable hs
  have hholder : s.holder = some .caller := hinv.caller_holds.mpr (by simp [hjoin, CallerPc.Locked])
  constructor
  · rintro ⟨s', hs', hdone⟩ hlock
    have hstuck : ∀ a, step s a = none := by
      rintro (_ | _) <;> simp [step, notifierStep, callerStep, hlock, hjoin, hholder]
    rw [eq_of_stuck hstuck hs', hjoin] at hdone
    cases hdone
  · intro hlock
    obtain ⟨t, ht, hex, hcaller⟩ :=
      notifier_exits (hinv.removing_cleared hjoin) (fun h => absurd h hlock)
    obtain ⟨u, hu, hdone⟩ :
        ∃ u, run t (.replicate 3 .caller) = some u ∧ u.caller = .done := by
      simp [run, step, callerStep, hcaller, hjoin, hex]
    exact ⟨u, ht.trans (run_reachable hu), hdone⟩

/-- The caller has taken the mutex and cleared the connection before the notifier has moved. -/
def clearedEarly : Threads :=
  { start .setLock with caller := .setJoin, holder := some .caller, connection := false,
                        saved := true }

/-- There the notifier is at its loop head, not in `np_lock`, so the removal can complete. -/
theorem removal_completes_iff_early :
    (∃ s', Relation.ReflTransGen Step clearedEarly s' ∧ s'.caller = .done) ↔
      clearedEarly.notifier ≠ .lock :=
  removal_completes_iff (s := clearedEarly) (@run_reachable _ _ [.caller, .caller] rfl) rfl

/-! ## Removing the callback -/

/-- Where the removal stands, by the caller's line: until it clears the field, the connection and
`client->notifier` are set; from then until it puts the field back, its copy `conn` holds the
connection; afterwards the connection is set again and `client->notifier` is NULL. -/
def RemovalStage (s : Threads) : Prop :=
  match s.caller with
  | .setLock | .setClear => s.connection = true ∧ s.notifierSet = true
  | .setJoin | .setRestore => s.saved = true
  | .setUnlock | .done => s.connection = true ∧ s.notifierSet = false
  | _ => False

/-- The points of `iphone_np_set_notify_callback` after its `g_thread_join` has returned. -/
def CallerPc.Joined : CallerPc → Prop
  | .setRestore | .setUnlock | .done => True
  | _ => False

/-- What holds in every state that `iphone_np_set_notify_callback(client, NULL)` and the notifier
reach: nothing releases the connection, the removal stands as `RemovalStage` says, and once the
join has returned the notifier has exited. -/
structure Removal (s : Threads) : Prop where
  not_released : s.released = false
  stage : RemovalStage s
  exited : s.caller.Joined → s.notifier = .exited

theorem removal_start : Removal (start .setLock) :=
  ⟨rfl, And.intro rfl rfl, False.elim⟩

theorem notifierStep_removal {s s' : Threads} {full : Bool} (hs : Removal s)
    (h : notifierStep s full = some s') : Removal s' := by
  obtain ⟨hcaller, hconn, hset, hsaved, hrel⟩ := notifierStep_frame h
  have hmoved : s.notifier ≠ .exited := fun hex => by simp [notifierStep, hex] at h
  refine ⟨hrel ▸ hs.not_released, ?_, fun hj => absurd (hs.exited (hcaller ▸ hj)) hmoved⟩
  have hst := hs.stage
  unfold RemovalStage at hst ⊢
  rwa [hcaller, hconn, hset, hsaved]

theorem callerStep_removal {s s' : Threads} (hs : Removal s) (h : callerStep s = some s') :
    Removal s' := by
  obtain ⟨hrel, hst, hex⟩ := hs
  unfold RemovalStage at hst
  unfold callerStep at h
  cases hc : s.caller <;> simp only [hc] at hst h <;> (try split_ifs at h) <;> cases h <;>
    exact ⟨hrel, by simp_all [RemovalStage], by simp_all [CallerPc.Joined]⟩

theorem Removal.of_reachable {s : Threads} (h : Relation.ReflTransGen Step (start .setLock) s) :
    Removal s := by
  induction h with
  | refl => exact removal_start
  | tail _ hst ih =>
    obtain ⟨a, ha⟩ := hst
    cases a with
    | notifier full => exact notifierStep_removal ih ha
    | caller => exact callerStep_removal ih ha

/-- The points `iphone_np_free_client` passes through. -/
def CallerPc.Freeing : CallerPc → Prop
  | .freeRelease | .freeClear | .freeJoin | .done => True
  | _ => False

theorem step_freeing {s s' : Threads} (h : Step s s') (hf : s.caller.Freeing) :
    s'.caller.Freeing := by
  obtain ⟨a, ha⟩ := h
  cases a with
  | notifier full => rwa [notifierStep_caller ha]
  | caller =>
    change callerStep s = some s' at ha
    unfold callerStep at ha
    split at ha <;> (try split_ifs at ha) <;> cases ha <;> simp_all [CallerPc.Freeing]

theorem freeing_of_reachable {s : Threads} (h : Relation.ReflTransGen Step (start .freeRelease) s) :
    s.caller.Freeing := by
  induction h with
  | refl => trivial
  | tail _ hst ih => exact step_freeing hst ih

/-- A caller waiting in the `g_thread_join` of `iphone_np_free_client` gets to return: it does not
hold the mutex, so the notifier can take it, and it finds the connection NULL. -/
theorem freeJoin_completes {s : Threads} (hinv : Inv s) (hjoin : s.caller = .freeJoin) :
    ∃ s', Relation.ReflTransGen Step s s' ∧ s'.caller = .done := by
  have hlock : s.notifier = .lock → s.holder = none := fun hpc => by
    have hn := hinv.notifier_holds
    have hc := hinv.caller_holds
    rw [hpc] at hn
    rw [hjoin] at hc
    rcases h : s.holder with _ | _ | _
    · rfl
    · exact absurd (hn.mp h) id
    · exact absurd (hc.mp h) id
  obtain ⟨t, ht, hex, hcaller⟩ := notifier_exits (hinv.freeing_cleared hjoin) hlock
  obtain ⟨u, hu, hdone⟩ : ∃ u, run t [.caller] = some u ∧ u.caller = .done := by
    simp only [run, step, callerStep, hcaller, hjoin, hex, if_true, Option.bind_some]
    split <;> simp
  exact ⟨u, ht.trans (run_reachable hu), hdone⟩

/-- `iphone_np_free_client` can always complete: from every state it reaches, it has a way to
return. -/
theorem freeing_completes {s : Threads} (hs : Relation.ReflTransGen Step (start .freeRelease) s) :
    ∃ s', Relation.ReflTransGen Step s s' ∧ s'.caller = .done := by
  have hinv := (inv_start (.inr rfl)).of_reachable hs
  have hclear : ∀ {t : Threads}, Inv t → t.caller = .freeClear →
      ∃ s', Relation.ReflTransGen Step t s' ∧ s'.caller = .done := fun {t} ht hpc => by
    have hstep : Step t { t with caller := .freeJoin, connection := false } :=
      ⟨.caller, by simp [step, callerStep, hpc]⟩
    obtain ⟨u, hu, hdone⟩ := freeJoin_completes (step_inv ht hstep) rfl
    exact ⟨u, .head hstep hu, hdone⟩
  have hfree := freeing_of_reachable hs
  cases hpc : s.caller <;> rw [hpc] at hfree <;> simp only [CallerPc.Freeing] at hfree
  · by_cases hconn : s.connection = true
    · have hstep : Step s { s with caller := .freeClear, released := true } :=
        ⟨.caller, by simp [step, callerStep, hpc, hconn]⟩
      obtain ⟨u, hu, hdone⟩ := hclear (step_inv hinv hstep) rfl
      exact ⟨u, .head hstep hu, hdone⟩
    · exact ⟨{ s with caller := .done },
        .single ⟨.caller, by simp [step, callerStep, hpc, hconn]⟩, rfl⟩
  · exact hclear hinv hpc
  · exact freeJoin_completes hinv hpc
  · exact ⟨s, .refl, hpc⟩

/-- From its start, with the notifier running, `iphone_np_free_client` can complete. -/
theorem freeing_completes_start :
    ∃ s', Relation.ReflTransGen Step (start .freeRelease) s' ∧ s'.caller = .done :=
  freeing_completes .refl

/-- The notifier passes its two checks of the connection; the caller then takes the mutex,
clears the connection and joins the notifier, which waits for the mutex: no thread can move,
and the caller never returns. -/
theorem removal_deadlock :
    let s : Threads := { start .setLock with
      notifier := .lock, caller := .setJoin, holder := some .caller, connection := false,
      saved := true }
    Relation.ReflTransGen Step (start .setLock) s ∧ s.notifier = .lock ∧ s.holder = some .caller ∧
      (∀ a, step s a = none) ∧ ∀ s', Relation.ReflTransGen Step s s' → s'.caller = .setJoin := by
  intro s
  have hstuck : ∀ a, step s a = none := by rintro (_ | _) <;> rfl
  exact ⟨@run_reachable _ _ [.notifier false, .notifier false, .caller, .caller] rfl, rfl, rfl,
    hstuck, fun s' h => by rw [eq_of_stuck hstuck h]⟩

/-- The notifier passes its checks and takes the mutex; the caller, in `iphone_np_free_client`,
releases the connection; the notifier receives on it before the caller clears the field. -/
theorem freeing_recv_after_release :
    ∃ s, Relation.ReflTransGen Step (start .freeRelease) s ∧ s.recvAfterRelease = true :=
  ⟨_, @run_reachable _ _
    [.notifier false, .notifier false, .notifier false, .caller, .notifier false] rfl, rfl⟩

end Libiphone.NP.Notifier
