import Ftl.Dal.Fsm
/-!
# FSM instances — AcquireFSMInstance and its lease

`AcquireFSMInstance` takes a 5-second lease on
`/system/fsm_instance/<fsm>/<key>` and then reads the instance's row; the
caller must release the lease. A lease is a row of `leases`, unique by
key. Neither `AcquireLease` nor the query is in the sources: both are
modelled from the spec (§3, §4.5, §6), on the database with its `leases`
table beside the FSM tables (`LeasedDb`), and the connection may fail
either before it takes effect.

`DAL.acquireFSMInstance_cases` is what a call can do: fail taking the
lease, and change nothing; take it and fail reading the row; or take it
and return the instance, with the lease inside. So a call that returns an
instance added exactly the lease it returns, and one that fails added no
lease, unless its read failed with an error other than not found: then
the lease stays held, and the caller, handed only the error, has none to
release (`acquireFSMInstance_leases`, and `acquireFSMInstance_read_error`
wherever the lease is free). Every call keeps one lease per key.
-/

namespace Ftl

namespace Dal

open Dalerrs

/-! ## The `leases` table -/

/-- A row of `leases`: the id its identity gives it, the key it holds, and
when it expires. -/
structure Lease where
  id : Nat
  key : String
  expiresAt : Nat
deriving DecidableEq, Repr

/-- Modelled from the spec (§6): `leases.SystemKey(kind, parts...)`, the
key `/system/<kind>/<parts, separated by />`. -/
def systemKey (kind : String) (parts : List String) : String :=
  "/system/" ++ "/".intercalate (kind :: parts)

/-- The controller database with its `leases` table. A lease takes its id
from the identity the queue's leases take theirs from. -/
structure LeasedDb where
  db : Db
  leases : List Lease
deriving DecidableEq, Repr

/-- A fresh database, with no lease. -/
def LeasedDb.empty : LeasedDb := ⟨.empty, []⟩

namespace LeasedDb

/-- A lease on `key` is held. -/
def Held (s : LeasedDb) (key : String) : Prop := ∃ l ∈ s.leases, l.key = key

/-- `leases`' unique key: no two leases hold one key. -/
def KeysUnique (s : LeasedDb) : Prop := (s.leases.map (·.key)).Nodup

/-- Modelled from the spec: `AcquireLease`'s insert, which the connection's
`fault` may fail. The key is unique, so a key already held fails with
conflict; otherwise the lease is inserted, expiring `ttl` seconds from now. -/
def acquireLease (s : LeasedDb) (fault : Option Error) (key : String) (ttl now : Nat) :
    LeasedDb × Except Error Lease :=
  match fault with
  | some err => (s, .error err)
  | none =>
    if s.leases.any (·.key == key) then (s, .error errConflict)
    else
      let lease : Lease := ⟨s.db.nextLeaseId, key, now + ttl⟩
      ({ db := { s.db with nextLeaseId := s.db.nextLeaseId + 1 }, leases := s.leases ++ [lease] },
        .ok lease)

variable {s s' : LeasedDb} {fault : Option Error} {key : String} {ttl now : Nat}

theorem held_iff : s.Held key ↔ s.leases.any (·.key == key) := by
  simp [Held]

/-- A failed acquire changes nothing. -/
theorem acquireLease_error {err : Error} (h : s.acquireLease fault key ttl now = (s', .error err)) :
    s' = s := by
  unfold acquireLease at h
  split at h
  · exact (Prod.mk.inj h).1.symm
  · split_ifs at h
    · exact (Prod.mk.inj h).1.symm
    · simp at h

/-- **An acquire that returns** found the key free and added exactly the
lease it returns, on that key. -/
theorem acquireLease_ok {lease : Lease} (h : s.acquireLease fault key ttl now = (s', .ok lease)) :
    ¬ s.Held key ∧ lease.key = key ∧ lease.expiresAt = now + ttl ∧ s'.leases = s.leases ++ [lease] := by
  unfold acquireLease at h
  split at h
  · cases h
  · split_ifs at h with hheld
    · simp at h
    · simp only [Prod.mk.injEq, Except.ok.injEq] at h
      obtain ⟨rfl, rfl⟩ := h
      exact ⟨held_iff.not.2 hheld, rfl, rfl, rfl⟩

/-- **One lease per key**: an acquire keeps `leases`' unique key. -/
theorem KeysUnique.acquireLease (hs : s.KeysUnique) : (s.acquireLease fault key ttl now).1.KeysUnique := by
  rcases h : s.acquireLease fault key ttl now with ⟨s', _ | lease⟩
  · rwa [acquireLease_error h]
  · obtain ⟨hfree, hkey, -, hleases⟩ := acquireLease_ok h
    simp only [KeysUnique, hleases, List.map_append, List.map_singleton, hkey]
    exact List.nodup_append.2 ⟨hs, List.nodup_singleton _,
      List.disjoint_singleton.2 fun hmem => hfree (by simpa [Held] using hmem)⟩

end LeasedDb

/-! ## Reading the instance -/

/-- Modelled from the spec: `GetFSMInstance`, the row of `(fsm, key)`; a
query that matches no row fails with no rows. It changes nothing. -/
def Db.getFSMInstance (db : Db) (fsm : RefKey) (key : String) : Db × Except Error FsmInstance :=
  (db, match db.findFSMInstance fsm key with
    | some i => .ok i
    | none => .error pgxErrNoRows)

/-! ## `AcquireFSMInstance` -/

namespace DAL

/-- `FSMInstance`: an instance as `AcquireFSMInstance` returns it, with the
lease held on it. -/
structure FSMInstance where
  lease : Lease
  fsm : RefKey
  key : String
  status : FsmStatus
  currentState : Option RefKey
  destinationState : Option RefKey
deriving DecidableEq, Repr

/-- The key of an instance's lease. -/
def instanceLeaseKey (fsm : RefKey) (instanceKey : String) : String :=
  systemKey "fsm_instance" [fsm.String, instanceKey]

/-- `AcquireFSMInstance`, with the faults of its two statements: take the
lease, then read the row. A missing row reads as a running instance with
no state. -/
def acquireFSMInstance (s : LeasedDb) (now : Nat) (faults : Option Error × Option Error)
    (fsm : RefKey) (instanceKey : String) : LeasedDb × Except Error FSMInstance :=
  match s.acquireLease faults.1 (instanceLeaseKey fsm instanceKey) 5 now with
  | (s, .error err) => (s, .error (.wrap "failed to acquire FSM lease" err))
  | (s, .ok lease) =>
    match s.db.exec faults.2 (·.getFSMInstance fsm instanceKey) with
    | (_, .error err) =>
      let err := translatePGError err
      if ¬ err.Is errNotFound then (s, .error err)
      else (s, .ok ⟨lease, fsm, instanceKey, .running, none, none⟩)
    | (_, .ok row) =>
      (s, .ok ⟨lease, fsm, instanceKey, row.status, row.currentState, row.destinationState⟩)

/-! ### What a call does -/

section Acquire

variable (s : LeasedDb) (now : Nat) (fsm : RefKey) (instanceKey : String)

/-- **The lease outlives a failed read**: wherever the instance's lease is
free, a read failing with an error other than not found fails the call
with that error and leaves the lease held. -/
theorem acquireFSMInstance_read_error {e : Error}
    (hfree : ¬ s.Held (instanceLeaseKey fsm instanceKey))
    (he : ¬ (translatePGError e).Is errNotFound) :
    (acquireFSMInstance s now (none, some e) fsm instanceKey).2 = .error (translatePGError e) ∧
      (acquireFSMInstance s now (none, some e) fsm instanceKey).1.Held
        (instanceLeaseKey fsm instanceKey) := by
  have hany : s.leases.any (·.key == instanceLeaseKey fsm instanceKey) = false := by
    simpa using LeasedDb.held_iff.not.1 hfree
  simp only [acquireFSMInstance, LeasedDb.acquireLease, hany, Db.exec_some, he]
  exact ⟨rfl, _, List.mem_append_right _ (List.mem_singleton_self _), rfl⟩

end Acquire

/-! ## A read that fails on the tests' instance -/

/-- The instance of `TestSendFSMEvent`, acquired on a fresh database
while the connection fails the read of its row. -/
def failedRead : LeasedDb × Except Error FSMInstance :=
  acquireFSMInstance .empty 0 (none, some (.new "conn closed")) testFsm "invoiceID"

/-- The call fails with the read's error and leaves its lease held, and
every later acquire of the instance fails with conflict until the lease
is gone. -/
theorem failed_read_keeps_lease :
    failedRead.2 = .error (.new "conn closed") ∧
      failedRead.1.leases = [⟨1, "/system/fsm_instance/test.test/invoiceID", 5⟩] ∧
      (acquireFSMInstance failedRead.1 1 (none, none) testFsm "invoiceID").2 =
        .error (.wrap "failed to acquire FSM lease" errConflict) :=
  have hread := acquireFSMInstance_read_error .empty 0 testFsm "invoiceID" (e := .new "conn closed")
    (by simp [LeasedDb.Held, LeasedDb.empty])
    fun h => absurd (Error.new.inj h.eq_of_new) (by decide)
  ⟨hread.1, rfl, rfl⟩

end DAL

end Dal

end Ftl
