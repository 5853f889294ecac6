import Ftl.Dal.Errs
import Mathlib.Logic.Relation
import Mathlib.Data.List.Nodup
import Mathlib.Algebra.Group.Int
/-!
# FSM instances on the async-call queue — StartFSMTransition

An FSM instance lives in two tables of the controller database
(001_init.sql): its row in `fsm_instances`, one per `(fsm, key)`, names the
transition in progress by `destination_state` and the async call that runs
it by `async_call_id`; the call is a row of `async_calls`, which the
executor acquires and completes. The SQL of the queries is not in the
sources: each statement is modelled from the spec (§4.4, §4.5) and runs
atomically. The DAL's calls are modelled from the code, as the sequence of
statements each runs on its connection, and a connection may fail any of
them before it takes effect.

`DAL.startFSMTransition` runs two statements, with no transaction around
them: it enqueues the call, and only then tries to bind it to the instance.
The statements of every caller interleave (`Db.Step`; callers that take
turns, `DAL.Call`, are one of the interleavings), and over every
interleaving an instance's `destination_state` and `async_call_id` are null
together and `(fsm, key)` names one row (`Db.inv_of_reachable`). What a
start leaves behind is `DAL.startFSMTransition_tables`: one that fails
after its first statement leaves its async call enqueued. So two starts of one instance, the
second failing with conflict as `TestSendFSMEvent` expects, leave two calls
of the instance pending, and the tables changed by the call that failed.
-/

namespace Ftl

namespace Dal

open Dalerrs

/-! ## The tables -/

/-- `schema.RefKey`: a declaration of a module. -/
structure RefKey where
  module : String
  name : String
deriving DecidableEq, Repr

/-- How a reference prints, `module.name` (`RefKey.String` is not in the sources). -/
def RefKey.String (r : RefKey) : String := r.module ++ "." ++ r.name

/-- `AsyncOriginFSM`: the FSM instance an async call runs a transition of. -/
structure AsyncOriginFSM where
  fsm : RefKey
  key : String

/-- Modelled from the spec: the origin column of an FSM's call holds
`fsm:<fsm_ref>:<instance_key>`. -/
def AsyncOriginFSM.String (o : AsyncOriginFSM) : String := "fsm:" ++ o.fsm.String ++ ":" ++ o.key

/-- `schema.RetryParams`; the backoffs in seconds. -/
structure RetryParams where
  count : Int := 0
  minBackoff : Nat := 0
  maxBackoff : Nat := 0

/-- Go's `int32(n)`: the low 32 bits of `n`, read as a signed number. -/
def int32 (n : Int) : Int := (n + 2 ^ 31) % 2 ^ 32 - 2 ^ 31

/-- `async_call_state`. -/
inductive AsyncCallState where
  | pending
  | executing
  | success
  | error
deriving DecidableEq, Repr

/-- A row of `async_calls`. -/
structure AsyncCall where
  id : Nat
  leaseId : Option Nat
  verb : RefKey
  state : AsyncCallState
  origin : String
  scheduledAt : Nat
  request : String
  response : Option String
  error : Option String
  remainingAttempts : Int
  backoff : Nat
  maxBackoff : Nat
deriving DecidableEq, Repr

/-- `fsm_status`. -/
inductive FsmStatus where
  | running
  | completed
  | failed
deriving DecidableEq, Repr

/-- A row of `fsm_instances`. -/
structure FsmInstance where
  id : Nat
  fsm : RefKey
  key : String
  status : FsmStatus
  currentState : Option RefKey
  destinationState : Option RefKey
  asyncCallId : Option Nat
deriving DecidableEq, Repr

/-- The key of `idx_fsm_instances_fsm_key`. -/
def FsmInstance.ref (i : FsmInstance) : RefKey × String := (i.fsm, i.key)

/-- A row's `destination_state` and `async_call_id` are null together. -/
def FsmInstance.Bound (i : FsmInstance) : Prop := i.destinationState.isSome = i.asyncCallId.isSome

/-- The two tables, with the identity sequences of their ids and of leases. -/
structure Db where
  asyncCalls : List AsyncCall
  fsmInstances : List FsmInstance
  nextAsyncCallId : Nat
  nextFsmInstanceId : Nat
  nextLeaseId : Nat
deriving DecidableEq, Repr

/-- A fresh database: empty tables, each identity starting at 1. -/
def Db.empty : Db := ⟨[], [], 1, 1, 1⟩

namespace Db

/-- The instance row of `(fsm, key)`, if there is one. -/
def findFSMInstance (db : Db) (fsm : RefKey) (key : String) : Option FsmInstance :=
  db.fsmInstances.find? fun i => i.ref == (fsm, key)

/-- The instance rows with `f` applied to that of `(fsm, key)`. -/
def updateInstances (db : Db) (fsm : RefKey) (key : String) (f : FsmInstance → FsmInstance) : Db :=
  { db with fsmInstances := db.fsmInstances.map fun i => if i.ref = (fsm, key) then f i else i }

/-- The calls of instance `(fsm, key)` that are pending or executing. -/
def inFlight (db : Db) (fsm : RefKey) (key : String) : List AsyncCall :=
  db.asyncCalls.filter fun c =>
    c.origin == (AsyncOriginFSM.mk fsm key).String &&
      (c.state == .pending || c.state == .executing)

@[simp] theorem updateInstances_asyncCalls (db : Db) (fsm : RefKey) (key : String)
    (f : FsmInstance → FsmInstance) : (db.updateInstances fsm key f).asyncCalls = db.asyncCalls :=
  rfl

theorem findFSMInstance_congr {db db' : Db} (h : db'.fsmInstances = db.fsmInstances)
    (fsm : RefKey) (key : String) : db'.findFSMInstance fsm key = db.findFSMInstance fsm key := by
  simp only [findFSMInstance, h]

end Db

/-! ## Statements

Each is atomic, and returns the new database with the statement's result. -/

/-- `sql.CreateAsyncCallParams`. -/
structure CreateAsyncCallParams where
  verb : RefKey
  origin : String
  request : String
  remainingAttempts : Int
  backoff : Nat
  maxBackoff : Nat

/-- The row `CreateAsyncCall` inserts: pending, due at once. -/
def CreateAsyncCallParams.row (p : CreateAsyncCallParams) (id now : Nat) : AsyncCall :=
  { id, leaseId := none, verb := p.verb, state := .pending, origin := p.origin,
    scheduledAt := now, request := p.request, response := none, error := none,
    remainingAttempts := p.remainingAttempts, backoff := p.backoff, maxBackoff := p.maxBackoff }

/-- `sql.StartFSMTransitionParams`. -/
structure StartFSMTransitionParams where
  fsm : RefKey
  key : String
  destinationState : RefKey
  asyncCallID : Nat

/-- The instance row the upsert inserts: running, in a transition to the
destination, bound to the call. -/
def StartFSMTransitionParams.row (p : StartFSMTransitionParams) (id : Nat) : FsmInstance :=
  { id, fsm := p.fsm, key := p.key, status := .running, currentState := none,
    destinationState := some p.destinationState, asyncCallId := some p.asyncCallID }

/-- The upsert's update of an idle instance. -/
def StartFSMTransitionParams.bind (p : StartFSMTransitionParams) (i : FsmInstance) : FsmInstance :=
  { i with destinationState := some p.destinationState, asyncCallId := some p.asyncCallID }

@[simp] theorem StartFSMTransitionParams.row_ref (p : StartFSMTransitionParams) (id : Nat) :
    (p.row id).ref = (p.fsm, p.key) := rfl

/-- A call Acquire may take at `now`: pending, or executing with its lease
reaped, and due. -/
def AsyncCall.Eligible (now : Nat) (c : AsyncCall) : Bool :=
  (c.state == .pending || (c.state == .executing && c.leaseId.isNone)) && decide (c.scheduledAt ≤ now)

/-- The earliest of some calls, by `scheduled_at` and then by id. -/
def AsyncCall.earliest : List AsyncCall → Option AsyncCall
  | [] => none
  | c :: cs =>
    match AsyncCall.earliest cs with
    | none => some c
    | some b =>
      if b.scheduledAt < c.scheduledAt ∨ (b.scheduledAt = c.scheduledAt ∧ b.id < c.id) then some b
      else some c

/-- The row of a call the executor completes at `now` with the verb's result. -/
def AsyncCall.complete (c : AsyncCall) (now : Nat) (result : Except String String) : AsyncCall :=
  match result with
  | .ok response => { c with state := .success, response := some response, leaseId := none }
  | .error e =>
    if 0 < c.remainingAttempts then
      { c with
        state := .pending
        scheduledAt := now + c.backoff
        backoff := min (c.backoff * 2) c.maxBackoff
        remainingAttempts := c.remainingAttempts - 1
        leaseId := none }
    else { c with state := .error, error := some e }

namespace Db

/-- A statement on the connection: `fault`, when there is one, fails it
before it takes effect (a lost connection, a cancelled context). -/
def exec {α : Type} (db : Db) (fault : Option Error) (stmt : Db → Db × Except Error α) :
    Db × Except Error α :=
  match fault with
  | some err => (db, .error err)
  | none => stmt db

@[simp] theorem exec_none {α : Type} (db : Db) (stmt : Db → Db × Except Error α) :
    db.exec none stmt = stmt db := rfl

@[simp] theorem exec_some {α : Type} (db : Db) (err : Error) (stmt : Db → Db × Except Error α) :
    db.exec (some err) stmt = (db, .error err) := rfl

/-- Modelled from the spec (Enqueue): insert a pending call, due now. -/
def createAsyncCall (db : Db) (now : Nat) (p : CreateAsyncCallParams) : Db × Except Error Nat :=
  ({ db with
      asyncCalls := db.asyncCalls ++ [p.row db.nextAsyncCallId now]
      nextAsyncCallId := db.nextAsyncCallId + 1 }, .ok db.nextAsyncCallId)

@[simp] theorem createAsyncCall_fsmInstances (db : Db) (now : Nat) (p : CreateAsyncCallParams) :
    (db.createAsyncCall now p).1.fsmInstances = db.fsmInstances := rfl

@[simp] theorem createAsyncCall_asyncCalls (db : Db) (now : Nat) (p : CreateAsyncCallParams) :
    (db.createAsyncCall now p).1.asyncCalls = db.asyncCalls ++ [p.row db.nextAsyncCallId now] := rfl

/-- The driver's error for a row whose `async_call_id` names no call. -/
def asyncCallFkeyViolation : Error :=
  .pg foreignKeyViolation "fsm_instances_async_call_id_fkey" "fsm_instances"
    "insert or update on table fsm_instances violates foreign key constraint"

/-- Modelled from the spec (Start transition, step 2), with the foreign key
of `async_call_id` from 001_init.sql: the upsert inserts the instance bound
to the call, or binds an idle one; on an instance in a transition its
`destination_state IS NULL` condition matches no row. -/
def startFSMTransition (db : Db) (p : StartFSMTransitionParams) : Db × Except Error Nat :=
  match db.findFSMInstance p.fsm p.key with
  | some i =>
    if i.destinationState.isSome then (db, .error pgxErrNoRows)
    else if db.asyncCalls.all (·.id != p.asyncCallID) then (db, .error asyncCallFkeyViolation)
    else (db.updateInstances p.fsm p.key p.bind, .ok i.id)
  | none =>
    if db.asyncCalls.all (·.id != p.asyncCallID) then (db, .error asyncCallFkeyViolation)
    else
      ({ db with
          fsmInstances := db.fsmInstances ++ [p.row db.nextFsmInstanceId]
          nextFsmInstanceId := db.nextFsmInstanceId + 1 }, .ok db.nextFsmInstanceId)

/-- **The upsert's three outcomes**: it fails and changes nothing, binds
the idle instance row of `(fsm, key)`, or inserts one. -/
theorem startFSMTransition_cases (db : Db) (p : StartFSMTransitionParams) :
    (∃ err, db.startFSMTransition p = (db, .error err)) ∨
    (∃ i, db.findFSMInstance p.fsm p.key = some i ∧
      db.startFSMTransition p = (db.updateInstances p.fsm p.key p.bind, .ok i.id)) ∨
    (db.findFSMInstance p.fsm p.key = none ∧
      db.startFSMTransition p =
        ({ db with
            fsmInstances := db.fsmInstances ++ [p.row db.nextFsmInstanceId]
            nextFsmInstanceId := db.nextFsmInstanceId + 1 }, .ok db.nextFsmInstanceId)) := by
  unfold startFSMTransition
  split
  · next i hfind =>
    split
    · exact .inl ⟨_, rfl⟩
    split
    · exact .inl ⟨_, rfl⟩
    · exact .inr (.inl ⟨i, hfind, rfl⟩)
  · next hfind =>
    split
    · exact .inl ⟨_, rfl⟩
    · exact .inr (.inr ⟨hfind, rfl⟩)

@[simp] theorem startFSMTransition_asyncCalls (db : Db) (p : StartFSMTransitionParams) :
    (db.startFSMTransition p).1.asyncCalls = db.asyncCalls := by
  rcases db.startFSMTransition_cases p with ⟨_, h⟩ | ⟨_, _, h⟩ | ⟨_, h⟩ <;> simp [h]

theorem startFSMTransition_error {db : Db} {p : StartFSMTransitionParams} {err : Error}
    (h : (db.startFSMTransition p).2 = .error err) : (db.startFSMTransition p).1 = db := by
  rcases db.startFSMTransition_cases p with ⟨_, he⟩ | ⟨_, _, he⟩ | ⟨_, he⟩ <;> simp [he] at h ⊢

/-- On an instance in a transition the upsert matches no row. -/
theorem startFSMTransition_busy {db : Db} {p : StartFSMTransitionParams} {i : FsmInstance}
    (h : db.findFSMInstance p.fsm p.key = some i) (hi : i.destinationState.isSome) :
    db.startFSMTransition p = (db, .error pgxErrNoRows) := by
  simp [startFSMTransition, h, hi]

/-- Modelled from the spec (Finish / fail / succeed): the update of the
instance row of `(fsm, key)`, which fails with no rows when there is none. -/
def updateFSMInstance (db : Db) (fsm : RefKey) (key : String) (f : FsmInstance → FsmInstance) :
    Db × Except Error Nat :=
  match db.findFSMInstance fsm key with
  | some i => (db.updateInstances fsm key f, .ok i.id)
  | none => (db, .error pgxErrNoRows)

/-- Finish: the destination becomes the current state; the transition is cleared. -/
def finishFSMTransition (db : Db) (fsm : RefKey) (key : String) : Db × Except Error Nat :=
  db.updateFSMInstance fsm key fun i =>
    { i with currentState := i.destinationState, destinationState := none, asyncCallId := none }

/-- Fail: the instance failed; the transition is cleared. -/
def failFSMInstance (db : Db) (fsm : RefKey) (key : String) : Db × Except Error Nat :=
  db.updateFSMInstance fsm key fun i =>
    { i with status := .failed, destinationState := none, asyncCallId := none }

/-- Succeed: the instance completed; the transition is cleared. -/
def succeedFSMInstance (db : Db) (fsm : RefKey) (key : String) : Db × Except Error Nat :=
  db.updateFSMInstance fsm key fun i =>
    { i with status := .completed, destinationState := none, asyncCallId := none }

/-! ### The executor's statements, modelled from the spec (§4.4) -/

/-- Acquire: the earliest eligible call becomes executing under a new lease. -/
def acquireAsyncCall (db : Db) (now : Nat) : Db × Except Error AsyncCall :=
  match AsyncCall.earliest (db.asyncCalls.filter (AsyncCall.Eligible now)) with
  | none => (db, .error pgxErrNoRows)
  | some c =>
    let c' := { c with state := .executing, leaseId := some db.nextLeaseId }
    ({ db with
        asyncCalls := db.asyncCalls.map fun d => if d.id = c.id then c' else d
        nextLeaseId := db.nextLeaseId + 1 }, .ok c')

theorem acquireAsyncCall_fsmInstances (db : Db) (now : Nat) :
    (db.acquireAsyncCall now).1.fsmInstances = db.fsmInstances := by
  unfold acquireAsyncCall
  split <;> rfl

/-- Complete, with the verb's response or error: success; a retry, pending
again after the backoff, which doubles up to its maximum; or, with no
attempts left, a terminal error. -/
def completeAsyncCall (db : Db) (id now : Nat) (result : Except String String) :
    Db × Except Error Unit :=
  if db.asyncCalls.any (·.id == id) then
    ({ db with asyncCalls := db.asyncCalls.map fun c => if c.id = id then c.complete now result else c },
      .ok ())
  else (db, .error pgxErrNoRows)

theorem completeAsyncCall_fsmInstances (db : Db) (id now : Nat) (result : Except String String) :
    (db.completeAsyncCall id now result).1.fsmInstances = db.fsmInstances := by
  unfold completeAsyncCall
  split <;> rfl

/-- The lease reaper deleted lease `leaseId`: `ON DELETE SET NULL` clears
it from the call that held it. -/
def expireLease (db : Db) (leaseId : Nat) : Db :=
  { db with
    asyncCalls := db.asyncCalls.map fun c => if c.leaseId = some leaseId then { c with leaseId := none } else c }

@[simp] theorem expireLease_fsmInstances (db : Db) (leaseId : Nat) :
    (db.expireLease leaseId).fsmInstances = db.fsmInstances := rfl

/-! ## Interleavings -/

/-- One statement, by any caller: the calls of every caller interleave at
this grain. -/
inductive Step : Db → Db → Prop
  | createAsyncCall (db : Db) (now : Nat) (p : CreateAsyncCallParams) :
      Step db (db.createAsyncCall now p).1
  | startFSMTransition (db : Db) (p : StartFSMTransitionParams) :
      Step db (db.startFSMTransition p).1
  | finishFSMTransition (db : Db) (fsm : RefKey) (key : String) :
      Step db (db.finishFSMTransition fsm key).1
  | failFSMInstance (db : Db) (fsm : RefKey) (key : String) :
      Step db (db.failFSMInstance fsm key).1
  | succeedFSMInstance (db : Db) (fsm : RefKey) (key : String) :
      Step db (db.succeedFSMInstance fsm key).1
  | acquireAsyncCall (db : Db) (now : Nat) : Step db (db.acquireAsyncCall now).1
  | completeAsyncCall (db : Db) (id now : Nat) (result : Except String String) :
      Step db (db.completeAsyncCall id now result).1
  | expireLease (db : Db) (leaseId : Nat) : Step db (db.expireLease leaseId)

/-- The databases some interleaving of statements reaches from a fresh one. -/
def Reachable (db : Db) : Prop := Relation.ReflTransGen Step empty db

/-- A failed statement changes nothing. -/
theorem exec_reaches {α : Type} {db : Db} {fault : Option Error} {stmt : Db → Db × Except Error α}
    (h : ∀ db, Step db (stmt db).1) : Relation.ReflTransGen Step db (db.exec fault stmt).1 := by
  cases fault with
  | some err => exact .refl
  | none => exact .single (h db)

/-- A failed statement leaves the database as it was, whether the
connection or the statement failed it. -/
theorem exec_error {α : Type} {db db' : Db} {fault : Option Error}
    {stmt : Db → Db × Except Error α} {err : Error}
    (hstmt : ∀ {err}, (stmt db).2 = .error err → (stmt db).1 = db)
    (he : db.exec fault stmt = (db', .error err)) : db' = db := by
  cases fault with
  | some e => exact (Prod.mk.inj he).1.symm
  | none =>
    rw [exec_none] at he
    have h := hstmt (congrArg Prod.snd he)
    rwa [he] at h

theorem exec_ok {α : Type} {db db' : Db} {fault : Option Error} {stmt : Db → Db × Except Error α}
    {a : α} (he : db.exec fault stmt = (db', .ok a)) : fault = none ∧ stmt db = (db', .ok a) := by
  cases fault with
  | some e => cases he
  | none => exact ⟨rfl, he⟩

/-! ## The instance table's invariant -/

/-- **The invariant of `fsm_instances`**: every row's `destination_state`
and `async_call_id` are null together, and `(fsm, key)` names one row. -/
structure Inv (db : Db) : Prop where
  bound : ∀ i ∈ db.fsmInstances, i.Bound
  unique : (db.fsmInstances.map FsmInstance.ref).Nodup

theorem inv_empty : empty.Inv := ⟨by simp [empty], by simp [empty]⟩

/-- The invariant reads the instance table only. -/
theorem Inv.congr {db db' : Db} (h : db'.fsmInstances = db.fsmInstances) (hi : db.Inv) :
    db'.Inv :=
  ⟨h ▸ hi.bound, h ▸ hi.unique⟩

/-- An update of the row of `(fsm, key)` that keeps its key and leaves it bound. -/
theorem Inv.updateInstances {db : Db} (hi : db.Inv) (fsm : RefKey) (key : String)
    {f : FsmInstance → FsmInstance} (hb : ∀ i, (f i).Bound) (hr : ∀ i, (f i).ref = i.ref) :
    (db.updateInstances fsm key f).Inv where
  bound := by
    simp only [Db.updateInstances, List.mem_map]
    rintro _ ⟨i, hi', rfl⟩
    split
    · exact hb i
    · exact hi.bound i hi'
  unique := by
    have hp : ∀ i, (if i.ref = (fsm, key) then f i else i).ref = i.ref := fun i => by
      split <;> simp [hr]
    simpa only [Db.updateInstances, List.map_map, Function.comp_def, hp] using hi.unique

theorem Inv.startFSMTransition {db : Db} (hi : db.Inv) (p : StartFSMTransitionParams) :
    (db.startFSMTransition p).1.Inv := by
  rcases db.startFSMTransition_cases p with ⟨_, h⟩ | ⟨_, _, h⟩ | ⟨hfind, h⟩ <;> rw [h]
  · exact hi
  · exact hi.updateInstances _ _ (fun _ => rfl) fun _ => rfl
  · have hnew : (p.fsm, p.key) ∉ db.fsmInstances.map FsmInstance.ref := by
      simpa [findFSMInstance, List.find?_eq_none] using hfind
    refine ⟨?_, ?_⟩
    · simp only [List.mem_append, List.mem_singleton]
      rintro i (hi' | rfl)
      · exact hi.bound i hi'
      · rfl
    · simpa [List.nodup_append, hnew] using hi.unique

/-- Finish, fail and succeed clear the transition and keep the key. -/
theorem Inv.updateFSMInstance {db : Db} (hi : db.Inv) {fsm : RefKey} {key : String}
    {f : FsmInstance → FsmInstance} (hb : ∀ i, (f i).Bound) (hr : ∀ i, (f i).ref = i.ref) :
    (db.updateFSMInstance fsm key f).1.Inv := by
  unfold Db.updateFSMInstance
  split
  · exact hi.updateInstances fsm key hb hr
  · exact hi

/-- **Each statement keeps the invariant.** -/
theorem Step.inv {db db' : Db} (h : Step db db') (hi : db.Inv) : db'.Inv := by
  cases h with
  | createAsyncCall => exact hi.congr (createAsyncCall_fsmInstances _ _ _)
  | startFSMTransition p => exact hi.startFSMTransition p
  | finishFSMTransition | failFSMInstance | succeedFSMInstance =>
    exact hi.updateFSMInstance (fun _ => rfl) fun _ => rfl
  | acquireAsyncCall => exact hi.congr (acquireAsyncCall_fsmInstances _ _)
  | completeAsyncCall => exact hi.congr (completeAsyncCall_fsmInstances _ _ _ _)
  | expireLease => exact hi.congr (expireLease_fsmInstances _ _)

theorem Inv.of_reaches {db db' : Db} (h : Relation.ReflTransGen Step db db') (hi : db.Inv) :
    db'.Inv := by
  induction h with
  | refl => exact hi
  | tail _ hstep ih => exact hstep.inv ih

/-- **Over every interleaving of every caller's statements**, an instance's
`destination_state` and `async_call_id` are null together, and `(fsm, key)`
names one row. -/
theorem inv_of_reachable {db : Db} (h : db.Reachable) : db.Inv :=
  Inv.of_reaches h inv_empty

end Db

/-! ## The DAL's calls -/

namespace DAL

/-- The async call `StartFSMTransition` creates for the event. -/
def asyncCallParams (fsm : RefKey) (executionKey : String) (destinationState : RefKey)
    (request : String) (retryParams : RetryParams) : CreateAsyncCallParams :=
  let origin : AsyncOriginFSM := ⟨fsm, executionKey⟩
  { verb := destinationState, origin := origin.String, request,
    remainingAttempts := int32 retryParams.count, backoff := retryParams.minBackoff,
    maxBackoff := retryParams.maxBackoff }

/-- `StartFSMTransition`, with the faults of its two statements: enqueue
the call, then bind it to the instance. An instance already in a
transition fails the second statement with no rows, which reads as
conflict. -/
def startFSMTransition (db : Db) (now : Nat) (faults : Option Error × Option Error)
    (fsm : RefKey) (executionKey : String) (destinationState : RefKey) (request : String)
    (retryParams : RetryParams) : Db × Except Error Unit :=
  match db.exec faults.1
      (·.createAsyncCall now (asyncCallParams fsm executionKey destinationState request retryParams)) with
  | (db, .error err) => (db, .error (.wrap "failed to create FSM async call" (translatePGError err)))
  | (db, .ok asyncCallID) =>
    match db.exec faults.2 (·.startFSMTransition
        { fsm, key := executionKey, destinationState, asyncCallID }) with
    | (db, .error err) =>
      if (translatePGError err).Is errNotFound then
        (db, .error (.wrap "transition already executing" errConflict))
      else (db, .error (.wrap "failed to start FSM transition" (translatePGError err)))
    | (db, .ok _) => (db, .ok ())

/-- What `FinishFSMTransition`, `FailFSMInstance` and `SucceedFSMInstance`
share: run the instance update, drop its row, translate its error. -/
def endTransition (db : Db) (fault : Option Error) (stmt : Db → Db × Except Error Nat) :
    Db × Except Error Unit :=
  let r := db.exec fault stmt
  (r.1, match r.2 with
    | .ok _ => .ok ()
    | .error err => .error (translatePGError err))

/-- `FinishFSMTransition`. -/
def finishFSMTransition (db : Db) (fault : Option Error) (fsm : RefKey) (instanceKey : String) :
    Db × Except Error Unit :=
  endTransition db fault (·.finishFSMTransition fsm instanceKey)

/-- `FailFSMInstance`. -/
def failFSMInstance (db : Db) (fault : Option Error) (fsm : RefKey) (instanceKey : String) :
    Db × Except Error Unit :=
  endTransition db fault (·.failFSMInstance fsm instanceKey)

/-- `SucceedFSMInstance`. -/
def succeedFSMInstance (db : Db) (fault : Option Error) (fsm : RefKey) (instanceKey : String) :
    Db × Except Error Unit :=
  endTransition db fault (·.succeedFSMInstance fsm instanceKey)

/-! ### What the calls do -/

/-- The database after `StartFSMTransition`'s first statement: its call enqueued. -/
def enqueued (db : Db) (now : Nat) (fsm : RefKey) (executionKey : String)
    (destinationState : RefKey) (request : String) (retryParams : RetryParams) : Db :=
  (db.createAsyncCall now (asyncCallParams fsm executionKey destinationState request retryParams)).1

section Start

variable (db : Db) (now : Nat) (fsm : RefKey) (executionKey : String) (destinationState : RefKey)
  (request : String) (retryParams : RetryParams)

/-- **The three outcomes of `StartFSMTransition`**: the enqueue fails and
nothing changed; the upsert fails, after the enqueue; or both succeed. -/
theorem startFSMTransition_cases (faults : Option Error × Option Error) :
    (∃ err, startFSMTransition db now faults fsm executionKey destinationState request
      retryParams = (db, .error err)) ∨
    (∃ err, startFSMTransition db now faults fsm executionKey destinationState request
      retryParams = (enqueued db now fsm executionKey destinationState request retryParams,
        .error err)) ∨
    ∃ n, ((enqueued db now fsm executionKey destinationState request retryParams).startFSMTransition
        ⟨fsm, executionKey, destinationState, db.nextAsyncCallId⟩).2 = .ok n ∧
      startFSMTransition db now faults fsm executionKey destinationState request retryParams =
        (((enqueued db now fsm executionKey destinationState request retryParams).startFSMTransition
          ⟨fsm, executionKey, destinationState, db.nextAsyncCallId⟩).1, .ok ()) := by
  unfold startFSMTransition
  split
  · next he => exact .inl ⟨_, by rw [Db.exec_error (fun h => by cases h) he]⟩
  · next he =>
    obtain ⟨-, he⟩ := Db.exec_ok he
    simp only [Db.createAsyncCall, Prod.mk.injEq, Except.ok.injEq] at he
    obtain ⟨rfl, rfl⟩ := he
    split
    · next he₂ =>
      rw [Db.exec_error Db.startFSMTransition_error he₂]
      exact .inr (.inl (by split <;> exact ⟨_, rfl⟩))
    · next _ _ n he₂ =>
      obtain ⟨-, he₂⟩ := Db.exec_ok he₂
      refine .inr (.inr ⟨n, ?_, ?_⟩) <;> simp only [enqueued, Db.createAsyncCall, he₂]

/-- `StartFSMTransition` is a run of statements. -/
theorem startFSMTransition_reaches (faults : Option Error × Option Error) :
    Relation.ReflTransGen Db.Step db
      (startFSMTransition db now faults fsm executionKey destinationState request retryParams).1 := by
  rcases startFSMTransition_cases db now fsm executionKey destinationState request retryParams
    faults with ⟨_, h⟩ | ⟨_, h⟩ | ⟨_, -, h⟩ <;> simp only [h]
  · exact .refl
  · exact .single (.createAsyncCall _ _ _)
  · exact .tail (.single (.createAsyncCall _ _ _)) (.startFSMTransition _ _)

/-- **The conflict path**: on an instance in a transition, the start
fails with conflict after enqueueing its call. -/
theorem startFSMTransition_conflict {i : FsmInstance}
    (h : db.findFSMInstance fsm executionKey = some i) (hi : i.destinationState.isSome) :
    startFSMTransition db now (none, none) fsm executionKey destinationState request retryParams =
      (enqueued db now fsm executionKey destinationState request retryParams,
        .error (.wrap "transition already executing" errConflict)) := by
  have hfind : (enqueued db now fsm executionKey destinationState request
      retryParams).findFSMInstance fsm executionKey = some i := by
    rw [enqueued, Db.findFSMInstance_congr (Db.createAsyncCall_fsmInstances _ _ _)]
    exact h
  have hbusy := Db.startFSMTransition_busy (p := ⟨fsm, executionKey, destinationState,
    db.nextAsyncCallId⟩) hfind hi
  simp only [enqueued, Db.createAsyncCall] at hbusy
  simp [startFSMTransition, enqueued, Db.createAsyncCall, hbusy, Error.Is.refl]

end Start

/-! ### Callers taking turns -/

/-- One DAL call, or one statement of the executor, run to its end before
the next begins. -/
inductive Call : Db → Db → Prop
  | startFSMTransition (db : Db) (now : Nat) (faults : Option Error × Option Error) (fsm : RefKey)
      (executionKey : String) (destinationState : RefKey) (request : String)
      (retryParams : RetryParams) :
      Call db (startFSMTransition db now faults fsm executionKey destinationState request
        retryParams).1
  | finishFSMTransition (db : Db) (fault : Option Error) (fsm : RefKey) (instanceKey : String) :
      Call db (finishFSMTransition db fault fsm instanceKey).1
  | failFSMInstance (db : Db) (fault : Option Error) (fsm : RefKey) (instanceKey : String) :
      Call db (failFSMInstance db fault fsm instanceKey).1
  | succeedFSMInstance (db : Db) (fault : Option Error) (fsm : RefKey) (instanceKey : String) :
      Call db (succeedFSMInstance db fault fsm instanceKey).1
  | acquireAsyncCall (db : Db) (now : Nat) : Call db (db.acquireAsyncCall now).1
  | completeAsyncCall (db : Db) (id now : Nat) (result : Except String String) :
      Call db (db.completeAsyncCall id now result).1
  | expireLease (db : Db) (leaseId : Nat) : Call db (db.expireLease leaseId)

/-- A call is a run of statements. -/
theorem Call.reaches {db db' : Db} (h : Call db db') : Relation.ReflTransGen Db.Step db db' := by
  cases h with
  | startFSMTransition => exact startFSMTransition_reaches ..
  | finishFSMTransition => exact Db.exec_reaches fun d => .finishFSMTransition d _ _
  | failFSMInstance => exact Db.exec_reaches fun d => .failFSMInstance d _ _
  | succeedFSMInstance => exact Db.exec_reaches fun d => .succeedFSMInstance d _ _
  | acquireAsyncCall => exact .single (.acquireAsyncCall _ _)
  | completeAsyncCall => exact .single (.completeAsyncCall _ _ _ _)
  | expireLease => exact .single (.expireLease _ _)

/-- The databases some sequence of calls reaches from a fresh one. -/
def Reachable (db : Db) : Prop := Relation.ReflTransGen Call Db.empty db

/-- Calls taking turns are one of the interleavings of their statements. -/
theorem Reachable.db {db : Db} (h : Reachable db) : db.Reachable := by
  induction h with
  | refl => exact .refl
  | tail _ hc ih => exact ih.trans hc.reaches

/-! ## `TestSendFSMEvent`'s two starts -/

/-- The FSM of `TestSendFSMEvent`. -/
def testFsm : RefKey := ⟨"test", "test"⟩

/-- The state its event moves to. -/
def testVerb : RefKey := ⟨"module", "verb"⟩

/-- The test's first start, on a fresh database. -/
def firstStart : Db × Except Error Unit :=
  startFSMTransition .empty 0 (none, none) testFsm "invoiceID" testVerb "{}" {}

/-- The second, which the test expects to fail with conflict. -/
def secondStart : Db × Except Error Unit :=
  startFSMTransition firstStart.1 0 (none, none) testFsm "invoiceID" testVerb "{}" {}

/-- Two calls, one after the other, reach it. -/
theorem reachable_secondStart : Reachable secondStart.1 :=
  .tail (.single (.startFSMTransition ..)) (.startFSMTransition ..)

/-- The two starts keep the invariant of `fsm_instances`. -/
theorem secondStart_inv : secondStart.1.Reachable ∧ secondStart.1.Inv :=
  ⟨reachable_secondStart.db, Db.inv_of_reachable reachable_secondStart.db⟩

/-- The first start left the instance in a transition, so the second
enqueues its call and fails with conflict. -/
theorem secondStart_eq :
    secondStart = (enqueued firstStart.1 0 testFsm "invoiceID" testVerb "{}" {},
      .error (.wrap "transition already executing" errConflict)) :=
  startFSMTransition_conflict _ _ _ _ _ _ _
    (i := ⟨1, testFsm, "invoiceID", .running, none, some testVerb, some 1⟩) (by decide) rfl

/-- The failed start leaves its call pending, beside the one of the
transition in progress: two calls of the instance are in flight, and the
instance is bound to the first. -/
theorem second_start_leaves_two_in_flight :
    Reachable secondStart.1 ∧
      secondStart.2 = .error (.wrap "transition already executing" errConflict) ∧
      (secondStart.1.inFlight testFsm "invoiceID").map (·.id) = [1, 2] ∧
      (secondStart.1.findFSMInstance testFsm "invoiceID").bind (·.asyncCallId) = some 1 := by
  refine ⟨reachable_secondStart, ?_⟩
  rw [secondStart_eq]
  exact ⟨rfl, by decide, by decide⟩

/-- The start that fails with conflict leaves `async_calls` with one more
row: its call, pending, with the instance's origin. -/
theorem conflicting_start_keeps_its_call :
    secondStart.2 = .error (.wrap "transition already executing" errConflict) ∧
      ∃ c, c.state = .pending ∧ c.origin = "fsm:test.test:invoiceID" ∧
        secondStart.1.asyncCalls = firstStart.1.asyncCalls ++ [c] := by
  rw [secondStart_eq]
  exact ⟨rfl, _, rfl, rfl, rfl⟩

end DAL

end Dal

end Ftl
