import Ftl.Dal.Sql
/-!
# The deployment tables — modules, deployments, runners, and their triggers

Three tables of the controller's schema (001_init.sql) hold what is deployed
where: a module has deployments (`ON DELETE CASCADE`), and a runner may run
one of them (`ON DELETE SET NULL`). What keeps them consistent is the schema
itself, not the program: unique indexes, two of them partial (one
deployment with replicas per module, one live runner per endpoint), the
foreign keys, and three triggers. Before a runner row is written,
`runners_set_reservation_timeout` gives a runner that becomes reserved a
timeout two minutes ahead and `runners_update_module_name` copies the name
of its deployment's module into it; after a deployment row is written,
`notify_event` announces the row's key on `deployments_events`.

The queries that write these tables are not in the sources, so a client here
is any statement that writes one row (`Stmt`): an insert, an update given as
the SET applied to the row with an id, a delete by id. `exec` is what
PostgreSQL does with it: the BEFORE triggers, the unique indexes in the order
they were created, the foreign keys, the cascades they fire, and the
notifications sent on commit; a statement that fails changes nothing. A
multi-row statement is these one after another, its intermediate states not
observed.

The columns no constraint or trigger reads (timestamps other than the
reservation's, schemas, labels) are left out. Times are seconds, the session
in UTC. `OLD` is NULL in an INSERT trigger (PostgreSQL 11 and later).
-/

namespace Ftl

namespace Dal

open Dalerrs Sql

/-! ## Rows -/

/-- A row of `modules`. -/
structure ModuleRow where
  id : Nat
  language : String
  name : String
deriving DecidableEq, Repr

/-- A row of `deployments`. -/
structure DeploymentRow where
  id : Nat
  moduleId : Nat
  key : String
  minReplicas : Int
deriving DecidableEq, Repr

/-- `runner_state`. -/
inductive RunnerState where
  | idle
  | reserved
  | assigned
  | dead
deriving DecidableEq, Repr

/-- A row of `runners`. -/
structure RunnerRow where
  id : Nat
  key : String
  reservationTimeout : Option Nat
  state : RunnerState
  endpoint : String
  moduleName : Option String
  deploymentId : Option Nat
deriving DecidableEq, Repr

/-- The three tables. -/
structure DeployDb where
  modules : List ModuleRow
  deployments : List DeploymentRow
  runners : List RunnerRow
deriving DecidableEq, Repr

/-- A fresh database. -/
def DeployDb.empty : DeployDb := ⟨[], [], []⟩

/-! ## Indexes, in the order each table's were created -/

/-- `modules`: the primary key, and `name TEXT UNIQUE`. -/
def moduleIndexes : List (UniqueIndex ModuleRow) :=
  [.on "modules_pkey" fun m => some m.id, .on "modules_name_key" fun m => some m.name]

/-- `deployments`: the primary key, `"key" UNIQUE`, `deployments_key_idx`,
and `deployments_unique_idx`, one deployment per module `WHERE min_replicas > 0`. -/
def deploymentIndexes : List (UniqueIndex DeploymentRow) :=
  [.on "deployments_pkey" fun d => some d.id, .on "deployments_key_key" fun d => some d.key,
    .on "deployments_key_idx" fun d => some d.key,
    .on "deployments_unique_idx" fun d => if 0 < d.minReplicas then some d.moduleId else none]

/-- `runners`: the primary key, `key UNIQUE`, the index `runners_key`, and
`runners_endpoint_not_dead_idx`, one runner per endpoint `WHERE state <> 'dead'`. -/
def runnerIndexes : List (UniqueIndex RunnerRow) :=
  [.on "runners_pkey" fun r => some r.id, .on "runners_key_key" fun r => some r.key,
    .on "runners_key" fun r => some r.key,
    .on "runners_endpoint_not_dead_idx" fun r => if r.state ≠ .dead then some r.endpoint else none]

/-- Two runners clash in none of the indexes when their ids and keys differ,
and their endpoints too if neither is dead. -/
theorem runnerIndexes_clash_eq_false {a b : RunnerRow} :
    (∀ idx ∈ runnerIndexes, idx.clash a b = false) ↔
      a.id ≠ b.id ∧ a.key ≠ b.key ∧ (a.state ≠ .dead → b.state ≠ .dead → a.endpoint ≠ b.endpoint) := by
  simp only [runnerIndexes, List.mem_cons, List.mem_singleton, List.not_mem_nil, or_false,
    forall_eq_or_imp, forall_eq, UniqueIndex.clash_on_eq_false]
  by_cases ha : a.state = .dead <;> by_cases hb : b.state = .dead <;> simp [ha, hb, ne_comm]

/-! ## Triggers -/

/-- `INTERVAL '2 minutes'`. -/
def reservationDefault : Nat := 120

/-- `runners_set_reservation_timeout()`: `IF OLD.state != 'reserved' AND
NEW.state = 'reserved' AND NEW.reservation_timeout IS NULL`, set it two
minutes from now. On INSERT there is no old row, the first test is NULL,
and the branch does not run. -/
def setReservationTimeout (now : Nat) (old : Option RunnerRow) (new : RunnerRow) : RunnerRow :=
  if (((sqlNe (old.map (·.state)) .reserved).and (some (new.state = .reserved))).and
      (some new.reservationTimeout.isNone)).holds then
    { new with reservationTimeout := some (now + reservationDefault) }
  else new

@[simp] theorem setReservationTimeout_state (now : Nat) (old : Option RunnerRow) (new : RunnerRow) :
    (setReservationTimeout now old new).state = new.state := by
  unfold setReservationTimeout; split <;> rfl

@[simp] theorem setReservationTimeout_deploymentId (now : Nat) (old : Option RunnerRow)
    (new : RunnerRow) : (setReservationTimeout now old new).deploymentId = new.deploymentId := by
  unfold setReservationTimeout; split <;> rfl

/-- **What the trigger does to the timeout**: a written runner has one when
it was written with one, or when it becomes reserved by an update of a row
that was not. -/
theorem setReservationTimeout_isSome (now : Nat) (old : Option RunnerRow) (new : RunnerRow) :
    (setReservationTimeout now old new).reservationTimeout.isSome =
      (new.reservationTimeout.isSome ||
        (decide (new.state = .reserved) && old.any (·.state ≠ .reserved))) := by
  unfold setReservationTimeout
  split <;> cases old <;> cases h : new.reservationTimeout <;> simp_all [not_imp_not]

namespace DeployDb

/-- What `runners_update_module_name()` selects for a deployment id: the name
of the module the deployment belongs to, NULL when no row joins. -/
def moduleNameOf (db : DeployDb) (deploymentId : Nat) : Option String :=
  (db.deployments.find? (·.id = deploymentId)).bind fun d =>
    (db.modules.find? (·.id = d.moduleId)).map (·.name)

/-- `runners_update_module_name()`: NULL without a deployment, else what the
SELECT finds. -/
def updateModuleName (db : DeployDb) (new : RunnerRow) : RunnerRow :=
  { new with moduleName := new.deploymentId.bind db.moduleNameOf }

/-- The BEFORE triggers of `runners`, in the order PostgreSQL fires them, by name. -/
def runnerTriggers (now : Nat) (db : DeployDb) (old : Option RunnerRow) (new : RunnerRow) :
    RunnerRow :=
  db.updateModuleName (setReservationTimeout now old new)

@[simp] theorem runnerTriggers_id (now : Nat) (db : DeployDb) (old : Option RunnerRow)
    (new : RunnerRow) : (db.runnerTriggers now old new).id = new.id := by
  simp only [runnerTriggers, updateModuleName, setReservationTimeout]; split <;> rfl

@[simp] theorem runnerTriggers_key (now : Nat) (db : DeployDb) (old : Option RunnerRow)
    (new : RunnerRow) : (db.runnerTriggers now old new).key = new.key := by
  simp only [runnerTriggers, updateModuleName, setReservationTimeout]; split <;> rfl

@[simp] theorem runnerTriggers_endpoint (now : Nat) (db : DeployDb) (old : Option RunnerRow)
    (new : RunnerRow) : (db.runnerTriggers now old new).endpoint = new.endpoint := by
  simp only [runnerTriggers, updateModuleName, setReservationTimeout]; split <;> rfl

@[simp] theorem runnerTriggers_state (now : Nat) (db : DeployDb) (old : Option RunnerRow)
    (new : RunnerRow) : (db.runnerTriggers now old new).state = new.state := by
  simp [runnerTriggers, updateModuleName]

@[simp] theorem runnerTriggers_deploymentId (now : Nat) (db : DeployDb) (old : Option RunnerRow)
    (new : RunnerRow) : (db.runnerTriggers now old new).deploymentId = new.deploymentId := by
  simp [runnerTriggers, updateModuleName]

@[simp] theorem runnerTriggers_reservationTimeout (now : Nat) (db : DeployDb)
    (old : Option RunnerRow) (new : RunnerRow) :
    (db.runnerTriggers now old new).reservationTimeout =
      (setReservationTimeout now old new).reservationTimeout := rfl

/-- The written runner holds what the SELECT finds for its deployment. -/
theorem runnerTriggers_moduleName (now : Nat) (db : DeployDb) (old : Option RunnerRow)
    (new : RunnerRow) :
    (db.runnerTriggers now old new).moduleName = new.deploymentId.bind db.moduleNameOf := by
  simp [runnerTriggers, updateModuleName]

/-- Whether `runners_deployment_id_fkey` finds the deployment a runner names. -/
def deploymentPresent (db : DeployDb) : Option Nat → Bool
  | none => true
  | some id => db.deployments.any (·.id = id)

end DeployDb

/-- A row change an AFTER trigger fires for, with the rows' keys. -/
inductive RowChange where
  | insert (new : String)
  | update (old new : String)
  | delete (old : String)

/-- `TG_OP`. -/
def RowChange.tgOp : RowChange → String
  | .insert _ => "INSERT"
  | .update _ _ => "UPDATE"
  | .delete _ => "DELETE"

/-- The key `notify_event()` puts in its payload: the old row's on DELETE,
the new row's otherwise. -/
def RowChange.key : RowChange → String
  | .insert new => new
  | .update _ new => new
  | .delete old => old

/-- A `pg_notify`: the channel, and the payload's table, action and key. -/
structure Notification where
  channel : String
  table : String
  action : String
  key : String
deriving DecidableEq, Repr

/-- The channel `notify_event()` picks for the table it fires on. -/
def notifyChannel (table : String) : Option String :=
  if table = "deployments" then some "deployments_events"
  else if table = "topics" then some "topics_events"
  else if table = "topic_events" then some "topic_events_events"
  else none

/-- `notify_event()`. -/
def notifyEvent (table : String) (change : RowChange) : List Notification :=
  ((notifyChannel table).map fun topic => ⟨topic, table, change.tgOp, change.key⟩).toList

/-- A change of a deployment row is one notification on `deployments_events`. -/
@[simp] theorem notifyEvent_deployments (change : RowChange) :
    notifyEvent "deployments" change = [⟨"deployments_events", "deployments", change.tgOp, change.key⟩] :=
  rfl

/-! ## Statements -/

/-- A statement that writes one row. An update is its SET, applied to the
row with the id. -/
inductive Stmt where
  | insertModule (row : ModuleRow)
  | updateModule (id : Nat) (set : ModuleRow → ModuleRow)
  | deleteModule (id : Nat)
  | insertDeployment (row : DeploymentRow)
  | updateDeployment (id : Nat) (set : DeploymentRow → DeploymentRow)
  | deleteDeployment (id : Nat)
  | insertRunner (row : RunnerRow)
  | updateRunner (id : Nat) (set : RunnerRow → RunnerRow)
  | deleteRunner (id : Nat)

/-- What a statement returns: the tables after it and the notifications it
sends on commit, or the error that rolls it back. -/
abbrev Outcome := Except Error (DeployDb × List Notification)

namespace DeployDb

/-- `ON DELETE SET NULL`: a runner of a deleted deployment is updated,
through its triggers, to no deployment. -/
def detach (now : Nat) (db : DeployDb) (gone : List Nat) (r : RunnerRow) : RunnerRow :=
  match r.deploymentId with
  | some id => if id ∈ gone then db.runnerTriggers now (some r) { r with deploymentId := none } else r
  | none => r

/-- Deleting the deployments `p` holds: the rows go, their runners are
detached, and each deletion is notified. -/
def dropDeployments (now : Nat) (db : DeployDb) (p : DeploymentRow → Bool) :
    DeployDb × List Notification :=
  ({ db with
      deployments := db.deployments.filter (!p ·)
      runners := db.runners.map (db.detach now ((db.deployments.filter p).map (·.id))) },
    (db.deployments.filter p).flatMap fun d => notifyEvent "deployments" (.delete d.key))

def insertModule (db : DeployDb) (row : ModuleRow) : Outcome := do
  checkUnique "modules" moduleIndexes db.modules row
  pure ({ db with modules := row :: db.modules }, [])

def updateModule (db : DeployDb) (id : Nat) (set : ModuleRow → ModuleRow) : Outcome :=
  match db.modules.find? (·.id = id) with
  | none => pure (db, [])
  | some old => do
    let row := set old
    let others := db.modules.filter (·.id ≠ id)
    checkUnique "modules" moduleIndexes others row
    checkUnreferenced "modules" "deployments_module_id_fkey" "deployments"
      (row.id ≠ old.id && db.deployments.any (·.moduleId = old.id))
    pure ({ db with modules := row :: others }, [])

/-- `DELETE FROM modules`: its deployments go with it (`ON DELETE CASCADE`). -/
def deleteModule (now : Nat) (db : DeployDb) (id : Nat) : DeployDb × List Notification :=
  let (db', notes) := db.dropDeployments now (·.moduleId = id)
  ({ db' with modules := db.modules.filter (·.id ≠ id) }, notes)

def insertDeployment (db : DeployDb) (row : DeploymentRow) : Outcome := do
  checkUnique "deployments" deploymentIndexes db.deployments row
  checkReference "deployments" "deployments_module_id_fkey" (db.modules.any (·.id = row.moduleId))
  pure ({ db with deployments := row :: db.deployments }, notifyEvent "deployments" (.insert row.key))

def updateDeployment (db : DeployDb) (id : Nat) (set : DeploymentRow → DeploymentRow) : Outcome :=
  match db.deployments.find? (·.id = id) with
  | none => pure (db, [])
  | some old => do
    let row := set old
    let others := db.deployments.filter (·.id ≠ id)
    checkUnique "deployments" deploymentIndexes others row
    checkUnreferenced "deployments" "runners_deployment_id_fkey" "runners"
      (row.id ≠ old.id && db.runners.any (·.deploymentId = some old.id))
    checkReference "deployments" "deployments_module_id_fkey" (db.modules.any (·.id = row.moduleId))
    pure ({ db with deployments := row :: others }, notifyEvent "deployments" (.update old.key row.key))

def insertRunner (now : Nat) (db : DeployDb) (new : RunnerRow) : Outcome := do
  let row := db.runnerTriggers now none new
  checkUnique "runners" runnerIndexes db.runners row
  checkReference "runners" "runners_deployment_id_fkey" (db.deploymentPresent row.deploymentId)
  pure ({ db with runners := row :: db.runners }, [])

def updateRunner (now : Nat) (db : DeployDb) (id : Nat) (set : RunnerRow → RunnerRow) : Outcome :=
  match db.runners.find? (·.id = id) with
  | none => pure (db, [])
  | some old => do
    let row := db.runnerTriggers now (some old) (set old)
    let others := db.runners.filter (·.id ≠ id)
    checkUnique "runners" runnerIndexes others row
    checkReference "runners" "runners_deployment_id_fkey" (db.deploymentPresent row.deploymentId)
    pure ({ db with runners := row :: others }, [])

/-- What PostgreSQL does with a statement at time `now`. -/
def exec (now : Nat) (db : DeployDb) : Stmt → Outcome
  | .insertModule row => db.insertModule row
  | .updateModule id set => db.updateModule id set
  | .deleteModule id => pure (db.deleteModule now id)
  | .insertDeployment row => db.insertDeployment row
  | .updateDeployment id set => db.updateDeployment id set
  | .deleteDeployment id => pure (db.dropDeployments now (·.id = id))
  | .insertRunner row => db.insertRunner now row
  | .updateRunner id set => db.updateRunner now id set
  | .deleteRunner id => pure ({ db with runners := db.runners.filter (·.id ≠ id) }, [])

/-! ## What each statement does when it commits -/

variable {now : Nat} {db : DeployDb} {r : DeployDb × List Notification}

theorem insertModule_eq_ok {row : ModuleRow} :
    db.insertModule row = .ok r ↔
      violated moduleIndexes db.modules row = none ∧
        ({ db with modules := row :: db.modules }, []) = r := by
  simp [insertModule, except_map_eq_ok]

theorem updateModule_eq_ok {id : Nat} {set : ModuleRow → ModuleRow} :
    db.updateModule id set = .ok r ↔
      (db.modules.find? (·.id = id) = none ∧ (db, []) = r) ∨
      ∃ old, db.modules.find? (·.id = id) = some old ∧
        violated moduleIndexes (db.modules.filter (·.id ≠ id)) (set old) = none ∧
        ((set old).id ≠ old.id → ∀ d ∈ db.deployments, d.moduleId ≠ old.id) ∧
        ({ db with modules := set old :: db.modules.filter (·.id ≠ id) }, []) = r := by
  unfold updateModule
  rcases h : db.modules.find? (·.id = id) with _ | old <;>
    simp [h, except_bind_eq_ok, except_map_eq_ok]

theorem insertDeployment_eq_ok {row : DeploymentRow} :
    db.insertDeployment row = .ok r ↔
      violated deploymentIndexes db.deployments row = none ∧
        (∃ m ∈ db.modules, m.id = row.moduleId) ∧
        ({ db with deployments := row :: db.deployments },
          notifyEvent "deployments" (.insert row.key)) = r := by
  simp [insertDeployment, except_bind_eq_ok, except_map_eq_ok]

theorem updateDeployment_eq_ok {id : Nat} {set : DeploymentRow → DeploymentRow} :
    db.updateDeployment id set = .ok r ↔
      (db.deployments.find? (·.id = id) = none ∧ (db, []) = r) ∨
      ∃ old, db.deployments.find? (·.id = id) = some old ∧
        violated deploymentIndexes (db.deployments.filter (·.id ≠ id)) (set old) = none ∧
        ((set old).id ≠ old.id → ∀ x ∈ db.runners, x.deploymentId ≠ some old.id) ∧
        (∃ m ∈ db.modules, m.id = (set old).moduleId) ∧
        ({ db with deployments := set old :: db.deployments.filter (·.id ≠ id) },
          notifyEvent "deployments" (.update old.key (set old).key)) = r := by
  unfold updateDeployment
  rcases h : db.deployments.find? (·.id = id) with _ | old <;>
    simp [h, except_bind_eq_ok, except_map_eq_ok]

theorem insertRunner_eq_ok {new : RunnerRow} :
    db.insertRunner now new = .ok r ↔
      violated runnerIndexes db.runners (db.runnerTriggers now none new) = none ∧
        db.deploymentPresent (db.runnerTriggers now none new).deploymentId ∧
        ({ db with runners := db.runnerTriggers now none new :: db.runners }, []) = r := by
  simp [insertRunner, except_bind_eq_ok, except_map_eq_ok]

theorem updateRunner_eq_ok {id : Nat} {set : RunnerRow → RunnerRow} :
    db.updateRunner now id set = .ok r ↔
      (db.runners.find? (·.id = id) = none ∧ (db, []) = r) ∨
      ∃ old, db.runners.find? (·.id = id) = some old ∧
        violated runnerIndexes (db.runners.filter (·.id ≠ id))
          (db.runnerTriggers now (some old) (set old)) = none ∧
        db.deploymentPresent (db.runnerTriggers now (some old) (set old)).deploymentId ∧
        ({ db with runners := db.runnerTriggers now (some old) (set old) ::
          db.runners.filter (·.id ≠ id) }, []) = r := by
  unfold updateRunner
  rcases h : db.runners.find? (·.id = id) with _ | old <;>
    simp [h, except_bind_eq_ok, except_map_eq_ok]

/-! ## Detaching a runner -/

/-- Setting a runner's deployment to NULL through its triggers clears its
module name and nothing else: the state does not change, so no timeout is set. -/
theorem runnerTriggers_detach (r : RunnerRow) :
    db.runnerTriggers now (some r) { r with deploymentId := none } =
      { r with deploymentId := none, moduleName := none } := by
  cases h : r.state <;> simp [runnerTriggers, setReservationTimeout, updateModuleName, h]

theorem detach_eq (gone : List Nat) (r : RunnerRow) :
    db.detach now gone r =
      if r.deploymentId.any (· ∈ gone) then { r with deploymentId := none, moduleName := none }
      else r := by
  unfold detach
  rcases h : r.deploymentId with _ | x
  · simp
  · by_cases hx : x ∈ gone <;> simp [hx, runnerTriggers_detach]

section detach

variable {gone : List Nat} {x : RunnerRow}

@[simp] theorem detach_id : (db.detach now gone x).id = x.id := by rw [detach_eq]; split <;> rfl
@[simp] theorem detach_key : (db.detach now gone x).key = x.key := by rw [detach_eq]; split <;> rfl
@[simp] theorem detach_state : (db.detach now gone x).state = x.state := by
  rw [detach_eq]; split <;> rfl
@[simp] theorem detach_endpoint : (db.detach now gone x).endpoint = x.endpoint := by
  rw [detach_eq]; split <;> rfl
@[simp] theorem detach_reservationTimeout :
    (db.detach now gone x).reservationTimeout = x.reservationTimeout := by
  rw [detach_eq]; split <;> rfl

theorem detach_deploymentId :
    (db.detach now gone x).deploymentId =
      if x.deploymentId.any (· ∈ gone) then none else x.deploymentId := by
  rw [detach_eq]; split <;> rfl

theorem detach_moduleName :
    (db.detach now gone x).moduleName =
      if x.deploymentId.any (· ∈ gone) then none else x.moduleName := by
  rw [detach_eq]; split <;> rfl

end detach

theorem deploymentPresent_iff {o : Option Nat} :
    db.deploymentPresent o = true ↔ ∀ id, o = some id → ∃ d ∈ db.deployments, d.id = id := by
  cases o <;> simp [deploymentPresent]

end DeployDb

end Dal

end Ftl
