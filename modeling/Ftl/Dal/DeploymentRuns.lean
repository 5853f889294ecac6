import Ftl.Dal.Deployments
import Mathlib.Logic.Relation
import Mathlib.Data.List.Nodup
/-!
# The deployment tables over every run of statements

What the schema keeps, whatever the clients write and in whatever order.
`DeployDb.Valid` is the constraints: every unique index holds and every
reference names a row. Each statement that commits keeps it
(`Valid.exec`), so every database a run of statements reaches from a fresh
one satisfies it (`valid_of_run`): in particular at most one live runner per
endpoint and at most one deployment with replicas per module. A statement
the constraints reject is reported by the sentinel of its violation
(`exec_error_translated`), and the notifications of a run let a listener
on `deployments_events` track the deployments' keys (`listen_of_run`).
-/

namespace Ftl

namespace Dal

open Dalerrs Sql Relation

namespace DeployDb

/-- What the constraints of the three tables guarantee. -/
structure Valid (db : DeployDb) : Prop where
  modules : Indexed moduleIndexes db.modules
  deployments : Indexed deploymentIndexes db.deployments
  runners : Indexed runnerIndexes db.runners
  deployment_module : ∀ d ∈ db.deployments, ∃ m ∈ db.modules, m.id = d.moduleId
  runner_deployment : ∀ x ∈ db.runners, ∀ id, x.deploymentId = some id →
    ∃ d ∈ db.deployments, d.id = id

theorem valid_empty : empty.Valid :=
  ⟨.nil, .nil, .nil, fun _ => nofun, fun _ => nofun⟩

variable {now : Nat} {db : DeployDb} {r : DeployDb × List Notification}

/-- A row `find?` returns by id has that id. -/
theorem id_of_find? {α : Type} {id : Nat} {f : α → Nat} {rows : List α} {row : α}
    (h : rows.find? (f · = id) = some row) : f row = id := by
  simpa using List.find?_some h

/-! ## Each statement keeps the constraints -/

theorem Valid.insertModule (hv : db.Valid) {row : ModuleRow} (h : db.insertModule row = .ok r) :
    r.1.Valid := by
  obtain ⟨hu, rfl⟩ := insertModule_eq_ok.1 h
  refine ⟨hv.modules.cons hu, hv.deployments, hv.runners, fun d hd => ?_, hv.runner_deployment⟩
  obtain ⟨m, hm, he⟩ := hv.deployment_module d hd
  exact ⟨m, .tail _ hm, he⟩

theorem Valid.updateModule (hv : db.Valid) {id : Nat} {set : ModuleRow → ModuleRow}
    (h : db.updateModule id set = .ok r) : r.1.Valid := by
  rcases updateModule_eq_ok.1 h with ⟨-, rfl⟩ | ⟨old, hold, hu, href, rfl⟩
  · exact hv
  refine ⟨(hv.modules.sublist (List.filter_sublist _)).cons hu, hv.deployments, hv.runners,
    fun d hd => ?_, hv.runner_deployment⟩
  obtain ⟨m, hm, he⟩ := hv.deployment_module d hd
  by_cases hmid : m.id = id
  · -- `d` refers to the updated row, so the update keeps its id
    have hold_id : old.id = d.moduleId := by rw [id_of_find? hold, ← hmid, he]
    have hkeep : (set old).id = old.id := by
      by_contra hne
      exact href hne d hd hold_id.symm
    exact ⟨set old, .head _, hkeep.trans hold_id⟩
  · exact ⟨m, .tail _ (List.mem_filter.2 ⟨hm, by simpa using hmid⟩), he⟩

/-- A deployment whose id is not among those a deletion removes is one it keeps. -/
theorem kept_of_not_gone {p : DeploymentRow → Bool} {d : DeploymentRow} (hd : d ∈ db.deployments)
    (h : ¬ (some d.id).any (· ∈ (db.deployments.filter p).map (·.id)) = true) : p d = false := by
  simp only [Option.any_some, List.mem_map, List.mem_filter, decide_eq_true_eq, not_exists,
    not_and] at h
  simpa using fun hp => h d ⟨hd, hp⟩ rfl

/-- The runners a deletion of deployments leaves keep their references. -/
theorem Valid.detach_references (hv : db.Valid) (p : DeploymentRow → Bool) :
    ∀ x ∈ db.runners.map (db.detach now ((db.deployments.filter p).map (·.id))), ∀ id,
      x.deploymentId = some id → ∃ d ∈ db.deployments.filter (!p ·), d.id = id := by
  simp only [List.mem_map]
  rintro _ ⟨x, hx, rfl⟩ id hid
  rw [detach_deploymentId] at hid
  split at hid
  · cases hid
  rename_i hgone
  obtain ⟨d, hd, rfl⟩ := hv.runner_deployment x hx id hid
  rw [hid] at hgone
  exact ⟨d, List.mem_filter.2 ⟨hd, by simp [kept_of_not_gone hd hgone]⟩, rfl⟩

theorem Valid.dropDeployments (hv : db.Valid) (p : DeploymentRow → Bool) :
    (db.dropDeployments now p).1.Valid := by
  refine ⟨hv.modules, hv.deployments.sublist (List.filter_sublist _),
    hv.runners.map (fun idx hidx x x' => ?_), fun d hd => hv.deployment_module d (List.mem_filter.1 hd).1,
    hv.detach_references p⟩
  simp only [runnerIndexes, List.mem_cons, List.mem_singleton, List.not_mem_nil, or_false] at hidx
  rcases hidx with rfl | rfl | rfl | rfl <;> simp [UniqueIndex.on]

theorem Valid.deleteModule (hv : db.Valid) (id : Nat) : (db.deleteModule now id).1.Valid := by
  have hd : (db.dropDeployments now (·.moduleId = id)).1.Valid := hv.dropDeployments _
  refine ⟨hv.modules.sublist (List.filter_sublist _), hd.deployments, hd.runners, fun d hdm => ?_,
    hd.runner_deployment⟩
  obtain ⟨m, hm, he⟩ := hv.deployment_module d (List.mem_filter.1 hdm).1
  have hne : ¬ d.moduleId = id := by simpa using (List.mem_filter.1 hdm).2
  exact ⟨m, List.mem_filter.2 ⟨hm, by simpa [he] using hne⟩, he⟩

theorem Valid.insertDeployment (hv : db.Valid) {row : DeploymentRow}
    (h : db.insertDeployment row = .ok r) : r.1.Valid := by
  obtain ⟨hu, hm, rfl⟩ := insertDeployment_eq_ok.1 h
  refine ⟨hv.modules, hv.deployments.cons hu, hv.runners, ?_, fun x hx id hid => ?_⟩
  · rintro d (_ | ⟨_, hd⟩)
    exacts [hm, hv.deployment_module d hd]
  · obtain ⟨d, hd, he⟩ := hv.runner_deployment x hx id hid
    exact ⟨d, .tail _ hd, he⟩

theorem Valid.updateDeployment (hv : db.Valid) {id : Nat} {set : DeploymentRow → DeploymentRow}
    (h : db.updateDeployment id set = .ok r) : r.1.Valid := by
  rcases updateDeployment_eq_ok.1 h with ⟨-, rfl⟩ | ⟨old, hold, hu, href, hm, rfl⟩
  · exact hv
  refine ⟨hv.modules, (hv.deployments.sublist (List.filter_sublist _)).cons hu, hv.runners, ?_,
    fun x hx did hdid => ?_⟩
  · rintro d (_ | ⟨_, hd⟩)
    exacts [hm, hv.deployment_module d (List.mem_filter.1 hd).1]
  obtain ⟨d, hd, rfl⟩ := hv.runner_deployment x hx did hdid
  by_cases hdi : d.id = id
  · -- `x` runs the updated row, so the update keeps its id
    have hold_id : old.id = d.id := (id_of_find? hold).trans hdi.symm
    have hkeep : (set old).id = old.id := by
      by_contra hne
      exact href hne x hx (hdid.trans (congrArg some hold_id.symm))
    exact ⟨set old, .head _, hkeep.trans hold_id⟩
  · exact ⟨d, .tail _ (List.mem_filter.2 ⟨hd, by simpa using hdi⟩), rfl⟩

theorem Valid.insertRunner (hv : db.Valid) {new : RunnerRow} (h : db.insertRunner now new = .ok r) :
    r.1.Valid := by
  obtain ⟨hu, hp, rfl⟩ := insertRunner_eq_ok.1 h
  refine ⟨hv.modules, hv.deployments, hv.runners.cons hu, hv.deployment_module, ?_⟩
  rintro x (_ | ⟨_, hx⟩)
  exacts [deploymentPresent_iff.1 hp, hv.runner_deployment x hx]

theorem Valid.updateRunner (hv : db.Valid) {id : Nat} {set : RunnerRow → RunnerRow}
    (h : db.updateRunner now id set = .ok r) : r.1.Valid := by
  rcases updateRunner_eq_ok.1 h with ⟨-, rfl⟩ | ⟨old, -, hu, hp, rfl⟩
  · exact hv
  refine ⟨hv.modules, hv.deployments, (hv.runners.sublist (List.filter_sublist _)).cons hu,
    hv.deployment_module, ?_⟩
  rintro x (_ | ⟨_, hx⟩)
  exacts [deploymentPresent_iff.1 hp, hv.runner_deployment x (List.mem_filter.1 hx).1]

/-- **Every statement that commits keeps the constraints.** -/
theorem Valid.exec (hv : db.Valid) {stmt : Stmt} (h : db.exec now stmt = .ok r) : r.1.Valid := by
  cases stmt with
  | insertModule row => exact hv.insertModule h
  | updateModule id set => exact hv.updateModule h
  | deleteModule id =>
    cases h
    exact hv.deleteModule id
  | insertDeployment row => exact hv.insertDeployment h
  | updateDeployment id set => exact hv.updateDeployment h
  | deleteDeployment id =>
    cases h
    exact hv.dropDeployments _
  | insertRunner row => exact hv.insertRunner h
  | updateRunner id set => exact hv.updateRunner h
  | deleteRunner id =>
    cases h
    exact ⟨hv.modules, hv.deployments, hv.runners.sublist (List.filter_sublist _),
      hv.deployment_module, fun x hx => hv.runner_deployment x (List.mem_filter.1 hx).1⟩

/-! ## Runs -/

/-- One statement that commits, of those `P` allows, at some time. -/
def Step (P : Stmt → Prop) (db db' : DeployDb) : Prop :=
  ∃ now stmt notes, P stmt ∧ db.exec now stmt = .ok (db', notes)

theorem valid_of_run {P : Stmt → Prop} {db : DeployDb} (h : ReflTransGen (Step P) empty db) :
    db.Valid := by
  induction h with
  | refl => exact valid_empty
  | tail _ hstep ih =>
    obtain ⟨now, stmt, notes, -, hexec⟩ := hstep
    exact ih.exec hexec

/-- The databases some run of statements reaches from a fresh one. -/
def Reachable (db : DeployDb) : Prop := ReflTransGen (Step fun _ => True) empty db

/-! ## What the constraints say -/

theorem Valid.modules_ids (hv : db.Valid) : (db.modules.map (·.id)).Nodup :=
  hv.modules.nodup_map (.head _)

theorem Valid.deployments_ids (hv : db.Valid) : (db.deployments.map (·.id)).Nodup :=
  hv.deployments.nodup_map (.head _)

/-- **What the schema guarantees over every run.** Whatever single-row
statements the clients run, in whatever order: the runners that are not
dead have distinct endpoints, at most one deployment of a module has
replicas, runners, deployments and modules are unique by key and name, and
every reference names a row. -/
theorem schema_holds_of_run {db : DeployDb} (h : Reachable db) :
    ((db.runners.filter (·.state ≠ .dead)).map (·.endpoint)).Nodup ∧
      ((db.deployments.filter (0 < ·.minReplicas)).map (·.moduleId)).Nodup ∧
      (db.runners.map (·.key)).Nodup ∧ (db.deployments.map (·.key)).Nodup ∧
      (db.modules.map (·.name)).Nodup ∧
      (∀ d ∈ db.deployments, ∃ m ∈ db.modules, m.id = d.moduleId) ∧
      ∀ x ∈ db.runners, ∀ id, x.deploymentId = some id → ∃ d ∈ db.deployments, d.id = id := by
  have hv := valid_of_run h
  have hlive := hv.runners.nodup (.tail _ (.tail _ (.tail _ (.head _))))
  have hactive := hv.deployments.nodup (.tail _ (.tail _ (.tail _ (.head _))))
  rw [filterMap_ite] at hlive hactive
  exact ⟨hlive, hactive, hv.runners.nodup_map (.tail _ (.head _)),
    hv.deployments.nodup_map (.tail _ (.head _)), hv.modules.nodup_map (.tail _ (.head _)),
    hv.deployment_module, hv.runner_deployment⟩

/-- A module `echo`, one deployment of it with a replica, and a runner of that deployment. -/
def echoModule : ModuleRow := ⟨1, "go", "echo"⟩

def echoDeployment : DeploymentRow := ⟨1, 1, "dpl-echo-1", 1⟩

def echoRunner : RunnerRow := ⟨1, "rnr-1", none, .assigned, "http://127.0.0.1:8893", none, some 1⟩

/-- The tables after the three inserts: the trigger has named the runner's module. -/
def echoDb : DeployDb := ⟨[echoModule], [echoDeployment], [{ echoRunner with moduleName := some "echo" }]⟩

/-- The three inserts, each allowed by `P`. -/
theorem echoDb_run {P : Stmt → Prop} (hm : P (.insertModule echoModule))
    (hd : P (.insertDeployment echoDeployment)) (hr : P (.insertRunner echoRunner)) :
    ReflTransGen (Step P) empty echoDb :=
  .tail (.tail (.single ⟨0, _, [], hm, rfl⟩) ⟨0, _, _, hd, rfl⟩) ⟨0, _, [], hr, rfl⟩

theorem echo_run_holds_schema :
    Reachable echoDb ∧
      ((echoDb.runners.filter (·.state ≠ .dead)).map (·.endpoint)).Nodup ∧
      ((echoDb.deployments.filter (0 < ·.minReplicas)).map (·.moduleId)).Nodup ∧
      (echoDb.runners.map (·.key)).Nodup ∧ (echoDb.deployments.map (·.key)).Nodup ∧
      (echoDb.modules.map (·.name)).Nodup ∧
      (∀ d ∈ echoDb.deployments, ∃ m ∈ echoDb.modules, m.id = d.moduleId) ∧
      ∀ x ∈ echoDb.runners, ∀ id, x.deploymentId = some id → ∃ d ∈ echoDb.deployments, d.id = id :=
  ⟨echoDb_run trivial trivial trivial, schema_holds_of_run (echoDb_run trivial trivial trivial)⟩

/-! ## The module name a runner holds

`runners_update_module_name` recomputes a runner's `module_name` each time
the runner is written, and the cascade that detaches a runner from a deleted
deployment goes through it too. Nothing recomputes it when the module or the
deployment changes: a run keeps every runner's name right as long as no
statement renames a module or moves a deployment to another
(`denormalised_of_run`), and one rename leaves a runner with the old name
(`rename_leaves_moduleName_stale`). -/

/-- The join the trigger's SELECT makes, as a relation. -/
def Joins (db : DeployDb) (deploymentId : Nat) (name : String) : Prop :=
  ∃ d ∈ db.deployments, d.id = deploymentId ∧ ∃ m ∈ db.modules, m.id = d.moduleId ∧ m.name = name

/-- Every runner holds the name of its deployment's module, as the trigger sets it. -/
def Denormalised (db : DeployDb) : Prop :=
  ∀ x ∈ db.runners, x.moduleName = x.deploymentId.bind db.moduleNameOf

end DeployDb

/-- The statements that neither rename a module nor move a deployment to another. -/
def Stmt.KeepsModuleNames : Stmt → Prop
  | .updateModule _ set => ∀ m, (set m).name = m.name
  | .updateDeployment _ set => ∀ d, (set d).moduleId = d.moduleId
  | _ => True

namespace DeployDb

variable {now : Nat} {db : DeployDb} {r : DeployDb × List Notification}

/-- Under the primary keys the SELECT finds the one row that joins. -/
theorem Valid.moduleNameOf_of_joins (hv : db.Valid) {did : Nat} {name : String}
    (h : db.Joins did name) : db.moduleNameOf did = some name := by
  obtain ⟨d, hd, rfl, m, hm, hmd, rfl⟩ := h
  simp only [moduleNameOf, find?_eq_of_nodup hv.deployments_ids hd, Option.some_bind, ← hmd,
    find?_eq_of_nodup hv.modules_ids hm, Option.map_some']

theorem Valid.joins_of_runner (hv : db.Valid) {x : RunnerRow} (hx : x ∈ db.runners) {did : Nat}
    (hxd : x.deploymentId = some did) : ∃ name, db.Joins did name := by
  obtain ⟨d, hd, rfl⟩ := hv.runner_deployment x hx did hxd
  obtain ⟨m, hm, hmd⟩ := hv.deployment_module d hd
  exact ⟨m.name, d, hd, rfl, m, hm, hmd, rfl⟩

/-- A row `find?` returns by a key the primary key holds is the row with that key. -/
theorem eq_of_find?_id {α : Type} {f : α → Nat} {rows : List α} (hnd : (rows.map f).Nodup)
    {id : Nat} {old row : α} (hold : rows.find? (f · = id) = some old) (hrow : row ∈ rows)
    (hid : f row = id) : row = old := by
  have h := find?_eq_of_nodup hnd hrow
  rw [hid] at h
  exact Option.some.inj (h.symm.trans hold)

/-- A statement that leaves the runners alone and keeps each join a runner
reads keeps the names right. -/
theorem Denormalised.of_joins {db' : DeployDb} (hv : db.Valid) (hv' : db'.Valid)
    (hden : db.Denormalised) (hr : db'.runners = db.runners)
    (hj : ∀ x ∈ db.runners, ∀ did name, x.deploymentId = some did → db.Joins did name →
      db'.Joins did name) :
    db'.Denormalised := by
  intro x hx
  rw [hr] at hx
  rw [hden x hx]
  rcases hxd : x.deploymentId with _ | did
  · rfl
  obtain ⟨name, hn⟩ := hv.joins_of_runner hx hxd
  simp only [Option.some_bind, hv.moduleNameOf_of_joins hn,
    hv'.moduleNameOf_of_joins (hj x hx did name hxd hn)]

/-- Deleting deployments, and keeping the modules `modules` of those that
stay, keeps the names right: a detached runner has neither deployment nor
name. -/
theorem Denormalised.drop (hv : db.Valid) (hden : db.Denormalised) (p : DeploymentRow → Bool)
    (modules : List ModuleRow)
    (hmods : ∀ d ∈ db.deployments, p d = false → ∀ m ∈ db.modules, m.id = d.moduleId → m ∈ modules)
    (hv' : ({ (db.dropDeployments now p).1 with modules := modules } : DeployDb).Valid) :
    ({ (db.dropDeployments now p).1 with modules := modules } : DeployDb).Denormalised := by
  intro x hx
  simp only [dropDeployments, List.mem_map] at hx
  obtain ⟨r, hr, rfl⟩ := hx
  rw [detach_moduleName, detach_deploymentId]
  split
  · rfl
  rename_i hgone
  rw [hden r hr]
  rcases hrd : r.deploymentId with _ | did
  · rfl
  obtain ⟨name, d, hd, rfl, m, hm, hmd, rfl⟩ := hv.joins_of_runner hr hrd
  rw [hrd] at hgone
  have hpd := kept_of_not_gone hd hgone
  simp only [Option.some_bind, hv.moduleNameOf_of_joins ⟨d, hd, rfl, m, hm, hmd, rfl⟩,
    hv'.moduleNameOf_of_joins ⟨d, List.mem_filter.2 ⟨hd, by simp [hpd]⟩, rfl, m,
      hmods d hd hpd m hm hmd, hmd, rfl⟩]

theorem Denormalised.runners {rows : List RunnerRow} (hden : db.Denormalised)
    (hrows : ∀ x ∈ rows, x ∈ db.runners ∨ x.moduleName = x.deploymentId.bind db.moduleNameOf) :
    ({ db with runners := rows } : DeployDb).Denormalised := fun x hx =>
  (hrows x hx).elim (hden x) id

/-- **A statement that renames no module and moves no deployment keeps
every runner's module name right.** -/
theorem Denormalised.exec (hv : db.Valid) (hden : db.Denormalised) {stmt : Stmt}
    (hk : stmt.KeepsModuleNames) (h : db.exec now stmt = .ok r) : r.1.Denormalised := by
  have hv' := hv.exec h
  cases stmt with
  | insertModule row =>
    obtain ⟨-, rfl⟩ := insertModule_eq_ok.1 h
    refine hden.of_joins hv hv' rfl fun _ _ did name _ ⟨d, hd, hdid, m, hm, hmd, hname⟩ => ?_
    exact ⟨d, hd, hdid, m, .tail _ hm, hmd, hname⟩
  | updateModule id set =>
    rcases updateModule_eq_ok.1 h with ⟨-, rfl⟩ | ⟨old, hold, -, href, rfl⟩
    · exact hden
    refine hden.of_joins hv hv' rfl fun _ _ did name _ ⟨d, hd, hdid, m, hm, hmd, hname⟩ => ?_
    refine ⟨d, hd, hdid, ?_⟩
    by_cases hmid : m.id = id
    · obtain rfl := eq_of_find?_id hv.modules_ids hold hm hmid
      have hkeep : (set m).id = m.id := by
        by_contra hne
        exact href hne d hd hmd.symm
      exact ⟨set m, .head _, hkeep.trans hmd, (hk m).trans hname⟩
    · exact ⟨m, .tail _ (List.mem_filter.2 ⟨hm, by simpa using hmid⟩), hmd, hname⟩
  | deleteModule id =>
    cases h
    refine hden.drop hv (·.moduleId = id) _ (fun d _ hpd m hm hmd => ?_) (hv.deleteModule id)
    exact List.mem_filter.2 ⟨hm, by simpa [hmd] using hpd⟩
  | insertDeployment row =>
    obtain ⟨-, -, rfl⟩ := insertDeployment_eq_ok.1 h
    refine hden.of_joins hv hv' rfl fun _ _ did name _ ⟨d, hd, hdid, m, hm, hmd, hname⟩ => ?_
    exact ⟨d, .tail _ hd, hdid, m, hm, hmd, hname⟩
  | updateDeployment id set =>
    rcases updateDeployment_eq_ok.1 h with ⟨-, rfl⟩ | ⟨old, hold, -, href, -, rfl⟩
    · exact hden
    refine hden.of_joins hv hv' rfl fun x hx did name hxd ⟨d, hd, hdid, m, hm, hmd, hname⟩ => ?_
    by_cases hdi : d.id = id
    · obtain rfl := eq_of_find?_id hv.deployments_ids hold hd hdi
      have hkeep : (set d).id = d.id := by
        by_contra hne
        exact href hne x hx (hxd.trans (congrArg some hdid.symm))
      exact ⟨set d, .head _, hkeep.trans hdid, m, hm, hmd.trans (hk d).symm, hname⟩
    · exact ⟨d, .tail _ (List.mem_filter.2 ⟨hd, by simpa using hdi⟩), hdid, m, hm, hmd, hname⟩
  | deleteDeployment id =>
    cases h
    exact hden.drop hv _ db.modules (fun _ _ _ _ hm _ => hm) (hv.dropDeployments _)
  | insertRunner row =>
    obtain ⟨-, -, rfl⟩ := insertRunner_eq_ok.1 h
    refine hden.runners fun x hx => ?_
    rcases List.mem_cons.1 hx with rfl | hx
    · exact .inr (by rw [runnerTriggers_moduleName, runnerTriggers_deploymentId])
    · exact .inl hx
  | updateRunner id set =>
    rcases updateRunner_eq_ok.1 h with ⟨-, rfl⟩ | ⟨old, -, -, -, rfl⟩
    · exact hden
    refine hden.runners fun x hx => ?_
    rcases List.mem_cons.1 hx with rfl | hx
    · exact .inr (by rw [runnerTriggers_moduleName, runnerTriggers_deploymentId])
    · exact .inl (List.mem_filter.1 hx).1
  | deleteRunner id =>
    cases h
    exact hden.runners fun x hx => .inl (List.mem_filter.1 hx).1

/-- **The module names stay right over every run that renames no module and
moves no deployment.** Whatever else the clients write, every runner holds
the name of the module of the deployment it runs, and no name when it runs
none. -/
theorem denormalised_of_run {db : DeployDb}
    (h : ReflTransGen (Step Stmt.KeepsModuleNames) empty db) : db.Denormalised := by
  induction h with
  | refl => exact fun _ => nofun
  | tail hrun hstep ih =>
    obtain ⟨now, stmt, notes, hk, hexec⟩ := hstep
    exact ih.exec (valid_of_run hrun) hk hexec

theorem echo_run_denormalised :
    ReflTransGen (Step Stmt.KeepsModuleNames) empty echoDb ∧ echoDb.Denormalised :=
  ⟨echoDb_run trivial trivial trivial, denormalised_of_run (echoDb_run trivial trivial trivial)⟩

/-- **A rename leaves the old name behind.** Renaming the module of a
deployment a runner runs succeeds, and the runner keeps the old name while
the join now gives the new one. -/
theorem rename_leaves_moduleName_stale (hv : db.Valid) (hden : db.Denormalised) {x : RunnerRow}
    (hx : x ∈ db.runners) {d : DeploymentRow} (hd : d ∈ db.deployments)
    (hxd : x.deploymentId = some d.id) {m : ModuleRow} (hm : m ∈ db.modules)
    (hmd : m.id = d.moduleId) {name : String} (hfresh : ∀ m' ∈ db.modules, m'.name ≠ name) :
    ∃ db', db.exec now (.updateModule m.id fun m => { m with name := name }) = .ok (db', []) ∧
      x ∈ db'.runners ∧ x.moduleName = some m.name ∧ db'.moduleNameOf d.id = some name ∧
      ¬ db'.Denormalised := by
  have hfind : db.modules.find? (·.id = m.id) = some m := find?_eq_of_nodup hv.modules_ids hm
  have hname : x.moduleName = some m.name := by
    rw [hden x hx, hxd, Option.some_bind, hv.moduleNameOf_of_joins ⟨d, hd, rfl, m, hm, hmd, rfl⟩]
  have hok : db.exec now (.updateModule m.id fun m => { m with name := name }) =
      .ok ({ db with modules := { m with name := name } :: db.modules.filter (·.id ≠ m.id) }, []) := by
    refine updateModule_eq_ok.2 (.inr ⟨m, hfind, violated_eq_none.2 ?_, fun h => absurd rfl h, rfl⟩)
    simp only [moduleIndexes, List.mem_cons, List.mem_singleton, List.not_mem_nil, or_false]
    rintro idx (rfl | rfl) r hr <;> simp only [UniqueIndex.on, decide_eq_false_iff_not]
    · exact fun h => of_decide_eq_true (List.mem_filter.1 hr).2 h.symm
    · exact fun h => hfresh r (List.mem_filter.1 hr).1 h.symm
  have hv' := hv.exec hok
  have hjoin : (({ db with modules := { m with name := name } :: db.modules.filter (·.id ≠ m.id) }
      : DeployDb)).moduleNameOf d.id = some name :=
    hv'.moduleNameOf_of_joins ⟨d, hd, rfl, _, .head _, hmd, rfl⟩
  refine ⟨_, hok, hx, hname, hjoin, fun hden' => hfresh m hm ?_⟩
  have := hden' x hx
  rw [hname, hxd, Option.some_bind, hjoin] at this
  exact Option.some.inj this

/-- Renaming `echo` to `echo2` leaves its runner named `echo`. -/
theorem echo_rename_leaves_stale :
    ∃ db', echoDb.exec 0 (.updateModule echoModule.id fun m => { m with name := "echo2" }) =
        .ok (db', []) ∧
      { echoRunner with moduleName := some "echo" } ∈ db'.runners ∧
      ({ echoRunner with moduleName := some "echo" } : RunnerRow).moduleName = some echoModule.name ∧
      db'.moduleNameOf echoDeployment.id = some "echo2" ∧ ¬ db'.Denormalised :=
  rename_leaves_moduleName_stale (valid_of_run (@echoDb_run (fun _ => True) trivial trivial trivial))
    (by unfold Denormalised; decide) (.head _) (.head _) rfl (.head _) rfl (by decide)

/-! ## Reservations

A runner that becomes reserved by an UPDATE from another state gets a
timeout from `runners_set_reservation_timeout` when the statement gives it
none. That is the only write the trigger covers: a run keeps every reserved
runner timed exactly as long as no INSERT writes a reserved runner without a
timeout and no UPDATE of a reserved runner clears its timeout
(`reservationsTimed_of_run`), and an INSERT of a reserved runner without one
stores it so (`insert_reserved_runner_untimed`). -/

/-- Every reserved runner has a reservation timeout. -/
def ReservationsTimed (db : DeployDb) : Prop :=
  ∀ x ∈ db.runners, x.state = .reserved → x.reservationTimeout.isSome

end DeployDb

/-- The statements that write no reserved runner without a timeout, except
by moving it into reserved from another state. -/
def Stmt.KeepsReservations : Stmt → Prop
  | .insertRunner row => row.state = .reserved → row.reservationTimeout.isSome
  | .updateRunner _ set => ∀ x, x.state = .reserved → x.reservationTimeout.isSome →
      (set x).state = .reserved → (set x).reservationTimeout.isSome
  | _ => True

namespace DeployDb

variable {now : Nat} {db : DeployDb} {r : DeployDb × List Notification}

theorem ReservationsTimed.runners {rows : List RunnerRow} (ht : db.ReservationsTimed)
    (hrows : ∀ x ∈ rows, x ∈ db.runners ∨ (x.state = .reserved → x.reservationTimeout.isSome)) :
    ({ db with runners := rows } : DeployDb).ReservationsTimed := fun x hx =>
  (hrows x hx).elim (ht x) id

theorem ReservationsTimed.exec (ht : db.ReservationsTimed) {stmt : Stmt}
    (hk : stmt.KeepsReservations) (h : db.exec now stmt = .ok r) : r.1.ReservationsTimed := by
  cases stmt with
  | insertModule row => obtain ⟨-, rfl⟩ := insertModule_eq_ok.1 h; exact ht
  | updateModule id set =>
    rcases updateModule_eq_ok.1 h with ⟨-, rfl⟩ | ⟨_, -, -, -, rfl⟩ <;> exact ht
  | deleteModule id =>
    cases h
    rintro _ hx
    simp only [deleteModule, dropDeployments, List.mem_map] at hx
    obtain ⟨x, hx, rfl⟩ := hx
    simpa using ht x hx
  | insertDeployment row => obtain ⟨-, -, rfl⟩ := insertDeployment_eq_ok.1 h; exact ht
  | updateDeployment id set =>
    rcases updateDeployment_eq_ok.1 h with ⟨-, rfl⟩ | ⟨_, -, -, -, -, rfl⟩ <;> exact ht
  | deleteDeployment id =>
    cases h
    rintro _ hx
    simp only [dropDeployments, List.mem_map] at hx
    obtain ⟨x, hx, rfl⟩ := hx
    simpa using ht x hx
  | insertRunner row =>
    obtain ⟨-, -, rfl⟩ := insertRunner_eq_ok.1 h
    refine ht.runners fun x hx => ?_
    rcases List.mem_cons.1 hx with rfl | hx
    · refine .inr fun hres => ?_
      simp only [runnerTriggers_state] at hres
      simpa [setReservationTimeout_isSome] using hk hres
    · exact .inl hx
  | updateRunner id set =>
    rcases updateRunner_eq_ok.1 h with ⟨-, rfl⟩ | ⟨old, hold, -, -, rfl⟩
    · exact ht
    refine ht.runners fun x hx => ?_
    rcases List.mem_cons.1 hx with rfl | hx
    · refine .inr fun hres => ?_
      simp only [runnerTriggers_state] at hres
      simp only [runnerTriggers_reservationTimeout, setReservationTimeout_isSome, hres,
        Option.any_some, Bool.or_eq_true, Bool.and_eq_true, decide_eq_true_eq]
      by_cases hold_res : old.state = .reserved
      · exact .inl (hk old hold_res (ht old (List.mem_of_find?_eq_some hold) hold_res) hres)
      · exact .inr ⟨trivial, by simpa using hold_res⟩
    · exact .inl (List.mem_filter.1 hx).1
  | deleteRunner id =>
    cases h
    exact ht.runners fun x hx => .inl (List.mem_filter.1 hx).1

/-- **Every reserved runner keeps a timeout over every run in which no
INSERT writes a reserved runner without one and no UPDATE of a reserved
runner clears it.** An UPDATE that makes a runner reserved need not give a
timeout: the trigger gives one. -/
theorem reservationsTimed_of_run {db : DeployDb}
    (h : ReflTransGen (Step Stmt.KeepsReservations) empty db) : db.ReservationsTimed := by
  induction h with
  | refl => exact fun _ => nofun
  | tail _ hstep ih =>
    obtain ⟨now, stmt, notes, hk, hexec⟩ := hstep
    exact ih.exec hk hexec

/-- The echo runner, reserved by an update that gives no timeout: the trigger gives one. -/
def echoReservedDb : DeployDb :=
  ⟨[echoModule], [echoDeployment],
    [{ echoRunner with moduleName := some "echo", state := .reserved, reservationTimeout := some 120 }]⟩

theorem echo_reserved_by_update_timed :
    ReflTransGen (Step Stmt.KeepsReservations) empty echoReservedDb ∧
      echoReservedDb.ReservationsTimed :=
  have h : ReflTransGen (Step Stmt.KeepsReservations) empty echoReservedDb :=
    .tail (@echoDb_run Stmt.KeepsReservations trivial trivial fun h => nomatch h)
      ⟨0, .updateRunner 1 fun x => { x with state := .reserved }, [], fun _ _ h _ => h, rfl⟩
  ⟨h, reservationsTimed_of_run h⟩

/-- **An INSERT gets no default reservation.** In an INSERT trigger there is
no old row, the test `OLD.state != 'reserved'` is NULL, and the IF does not
run: a runner inserted as reserved without a timeout is stored without one,
and a reserved runner without a timeout is in the table. -/
theorem insert_reserved_runner_untimed {new : RunnerRow} (hres : new.state = .reserved)
    (hnone : new.reservationTimeout = none)
    (hfresh : ∀ x ∈ db.runners, x.id ≠ new.id ∧ x.key ≠ new.key ∧ (x.state ≠ .dead → x.endpoint ≠ new.endpoint))
    (hdep : db.deploymentPresent new.deploymentId) :
    ∃ db', db.exec now (.insertRunner new) = .ok (db', []) ∧ ¬ db'.ReservationsTimed := by
  have hu : violated runnerIndexes db.runners (db.runnerTriggers now none new) = none := by
    refine violated_eq_none.2 fun idx hidx x hx => runnerIndexes_clash_eq_false.2 ?_ idx hidx
    obtain ⟨hid, hkey, hep⟩ := hfresh x hx
    simpa [Ne.symm hid, Ne.symm hkey, ne_comm] using fun _ => hep
  refine ⟨_, insertRunner_eq_ok.2 ⟨hu, by simpa using hdep, rfl⟩, fun ht => ?_⟩
  have := ht _ (.head _) (by simpa using hres)
  simp [setReservationTimeout_isSome, hnone] at this

/-- A runner inserted as reserved, with no timeout, into a fresh database. -/
theorem reserved_insert_untimed :
    ∃ db', empty.exec 0 (.insertRunner { echoRunner with state := .reserved, deploymentId := none }) =
      .ok (db', []) ∧ ¬ db'.ReservationsTimed :=
  insert_reserved_runner_untimed rfl rfl (fun _ => nofun) rfl

/-! ## Rejected statements -/

/-- A statement fails only by one of the schema's checks. -/
theorem exec_error_violation {stmt : Stmt} {err : Error} (h : db.exec now stmt = .error err) :
    Violation err := by
  cases stmt <;> simp only [exec, insertModule, updateModule, insertDeployment, updateDeployment,
    insertRunner, updateRunner] at h
  case deleteModule | deleteDeployment | deleteRunner => cases h
  case insertModule =>
    rcases except_bind_eq_error.1 h with h | ⟨_, -, h⟩
    exacts [checkUnique_error h, by cases h]
  case insertDeployment | insertRunner =>
    rcases except_bind_eq_error.1 h with h | ⟨_, -, h⟩
    · exact checkUnique_error h
    rcases except_bind_eq_error.1 h with h | ⟨_, -, h⟩
    exacts [checkReference_error h, by cases h]
  case updateModule | updateDeployment | updateRunner =>
    split at h
    · cases h
    rcases except_bind_eq_error.1 h with h | ⟨_, -, h⟩
    · exact checkUnique_error h
    rcases except_bind_eq_error.1 h with h | ⟨_, -, h⟩
    · first | exact checkUnreferenced_error h | exact checkReference_error h
    first
    | cases h
    | rcases except_bind_eq_error.1 h with h | ⟨_, -, h⟩
      exacts [checkReference_error h, by cases h]

/-- **What the DAL reports for a statement the schema rejects**: a row
that clashes in a unique index is a conflict, with PostgreSQL's message
naming the index; a reference to no row, or a referenced row changing its
key, is "not found", with the stem of the foreign key's name. -/
theorem exec_error_translated {stmt : Stmt} {err : Error} (h : db.exec now stmt = .error err) :
    (∃ table index, err = uniqueViolationError table index ∧ translatePGError err =
      .wrap ("duplicate key value violates unique constraint \"" ++ index ++ "\"") errConflict) ∨
    (∃ table constraint, err = foreignKeyViolationError table constraint ∧ translatePGError err =
      .wrap (trimSuffix (trimPrefix constraint (table ++ "_")) "_id_fkey") errNotFound) ∨
    (∃ table constraint referencing, err = stillReferencedError table constraint referencing ∧
      translatePGError err =
        .wrap (trimSuffix (trimPrefix constraint (referencing ++ "_")) "_id_fkey") errNotFound) :=
  translatePGError_of_violation (exec_error_violation h)

/-- Inserting `echo` again clashes in the primary key: a conflict
naming `modules_pkey`. -/
theorem duplicate_module_conflicts :
    echoDb.exec 0 (.insertModule echoModule) = .error (uniqueViolationError "modules" "modules_pkey") ∧
      translatePGError (uniqueViolationError "modules" "modules_pkey") =
        .wrap "duplicate key value violates unique constraint \"modules_pkey\"" errConflict := by
  have hexec : echoDb.exec 0 (.insertModule echoModule) = .error (uniqueViolationError "modules" "modules_pkey") :=
    rfl
  refine ⟨hexec, ?_⟩
  rcases exec_error_translated hexec with ⟨t, i, h, ht⟩ | ⟨t, c, h, -⟩ | ⟨t, c, r, h, -⟩
  · simp only [uniqueViolationError, Error.pg.injEq, true_and] at h
    obtain ⟨rfl, -⟩ := h
    exact ht
  all_goals simp [uniqueViolationError, foreignKeyViolationError, stillReferencedError,
    uniqueViolation, foreignKeyViolation] at h

/-! ## Notifications

`notify_event` fires after every row a statement inserts, updates or
deletes in `deployments`, cascades included, and its payload names one key:
the new row's for INSERT and UPDATE, the old row's for DELETE. A listener
on `deployments_events` that starts from the keys of the deployments and
replays the payloads in order (`listen`) holds the key of every deployment
of the database the run reaches, and, when no statement of the run changes
a deployment's key, nothing else (`listen_of_run`). An UPDATE that changes
a key names only the new one, so the old key stays with the listener. -/

end DeployDb

/-- An update of a deployment keeps its key. -/
def Stmt.KeepsDeploymentKeys : Stmt → Prop
  | .updateDeployment _ set => ∀ d, (set d).key = d.key
  | _ => True

namespace DeployDb

variable {now : Nat} {db : DeployDb}

/-- A run of committed statements, each allowed by `P`, with the
notifications they sent, in order. -/
inductive Run (P : Stmt → Prop) : DeployDb → List Notification → DeployDb → Prop
  | refl (db : DeployDb) : Run P db [] db
  | tail {db db' db'' : DeployDb} {log notes : List Notification} {now : Nat} {stmt : Stmt} :
      Run P db log db' → P stmt → db'.exec now stmt = .ok (db'', notes) → Run P db (log ++ notes) db''

theorem Run.valid {P : Stmt → Prop} {db db' : DeployDb} {log : List Notification} (hv : db.Valid)
    (h : Run P db log db') : db'.Valid := by
  induction h with
  | refl => exact hv
  | tail _ _ hexec ih => exact ih.exec hexec

/-- What a listener on `deployments_events` holds after one
notification: the payload's key added for INSERT and UPDATE, removed for
DELETE. -/
def hear (keys : List String) (n : Notification) : List String :=
  if n.channel = "deployments_events" then
    if n.action = "DELETE" then keys.filter (· ≠ n.key) else n.key :: keys
  else keys

/-- A listener that holds `keys` and then hears `log`, in order. -/
def listen (keys : List String) (log : List Notification) : List String := log.foldl hear keys

section listen

variable {keys : List String} {k : String}

@[simp] theorem listen_nil : listen keys [] = keys := rfl

@[simp] theorem listen_append {log notes : List Notification} :
    listen keys (log ++ notes) = listen (listen keys log) notes := List.foldl_append _ _ _ _

@[simp] theorem listen_insert {key : String} :
    listen keys (notifyEvent "deployments" (.insert key)) = key :: keys := rfl

@[simp] theorem listen_update {old new : String} :
    listen keys (notifyEvent "deployments" (.update old new)) = new :: keys := rfl

@[simp] theorem listen_delete {old : String} :
    listen keys (notifyEvent "deployments" (.delete old)) = keys.filter (· ≠ old) := rfl

/-- A listener hearing the deletion of rows drops their keys and nothing else. -/
theorem mem_listen_deletes {ds : List DeploymentRow} :
    k ∈ listen keys (ds.flatMap fun d => notifyEvent "deployments" (.delete d.key)) ↔
      k ∈ keys ∧ ∀ d ∈ ds, k ≠ d.key := by
  induction ds generalizing keys with
  | nil => simp
  | cons d ds ih =>
    rw [List.flatMap_cons, listen_append, ih, listen_delete]
    simp only [List.mem_filter, decide_eq_true_eq, List.forall_mem_cons, and_assoc]

end listen

/-- **What a statement does to `deployments`, and what it announces**:
nothing; a row inserted, announced under its key; a row replaced through
its SET, announced under the new key; or the rows of a predicate deleted,
each announced under its key. -/
theorem exec_deployments_cases {stmt : Stmt} {db' : DeployDb} {notes : List Notification}
    (h : db.exec now stmt = .ok (db', notes)) :
    (db'.deployments = db.deployments ∧ notes = []) ∨
    (∃ row, db'.deployments = row :: db.deployments ∧ notes = notifyEvent "deployments" (.insert row.key)) ∨
    (∃ id set old, stmt = .updateDeployment id set ∧ old ∈ db.deployments ∧ old.id = id ∧
      db'.deployments = set old :: db.deployments.filter (·.id ≠ id) ∧
      notes = notifyEvent "deployments" (.update old.key (set old).key)) ∨
    (∃ p : DeploymentRow → Bool, db'.deployments = db.deployments.filter (!p ·) ∧
      notes = (db.deployments.filter p).flatMap fun d => notifyEvent "deployments" (.delete d.key)) := by
  cases stmt with
  | insertModule row => obtain ⟨-, h⟩ := insertModule_eq_ok.1 h; cases h; exact .inl ⟨rfl, rfl⟩
  | updateModule id set =>
    rcases updateModule_eq_ok.1 h with ⟨-, h⟩ | ⟨_, -, -, -, h⟩ <;> cases h <;> exact .inl ⟨rfl, rfl⟩
  | deleteModule id => cases h; exact .inr (.inr (.inr ⟨_, rfl, rfl⟩))
  | insertDeployment row =>
    obtain ⟨-, -, h⟩ := insertDeployment_eq_ok.1 h
    cases h
    exact .inr (.inl ⟨row, rfl, rfl⟩)
  | updateDeployment id set =>
    rcases updateDeployment_eq_ok.1 h with ⟨-, h⟩ | ⟨old, hfind, -, -, -, h⟩
    · cases h; exact .inl ⟨rfl, rfl⟩
    · cases h
      exact .inr (.inr (.inl ⟨id, set, old, rfl, List.mem_of_find?_eq_some hfind, id_of_find? hfind,
        rfl, rfl⟩))
  | deleteDeployment id => cases h; exact .inr (.inr (.inr ⟨_, rfl, rfl⟩))
  | insertRunner row => obtain ⟨-, -, h⟩ := insertRunner_eq_ok.1 h; cases h; exact .inl ⟨rfl, rfl⟩
  | updateRunner id set =>
    rcases updateRunner_eq_ok.1 h with ⟨-, h⟩ | ⟨_, -, -, -, h⟩ <;> cases h <;> exact .inl ⟨rfl, rfl⟩
  | deleteRunner id => cases h; exact .inl ⟨rfl, rfl⟩

section hear

variable {stmt : Stmt} {db' : DeployDb} {notes : List Notification} {keys : List String}

/-- A listener that holds the key of every deployment before a statement
holds the key of every deployment after it. Deleted rows are announced
under keys no remaining row has, since keys are unique. -/
theorem exec_listen_complete (hv : db.Valid) (h : db.exec now stmt = .ok (db', notes))
    (hkeys : ∀ d ∈ db.deployments, d.key ∈ keys) : ∀ d ∈ db'.deployments, d.key ∈ listen keys notes := by
  rcases exec_deployments_cases h with ⟨hd, rfl⟩ | ⟨row, hd, rfl⟩ | ⟨id, set, old, -, -, -, hd, rfl⟩ |
    ⟨p, hd, rfl⟩ <;> rw [hd] <;> intro d hdm
  · exact hkeys d hdm
  · rw [listen_insert]
    exact List.mem_cons.2 ((List.mem_cons.1 hdm).imp (congrArg DeploymentRow.key) (hkeys d))
  · rw [listen_update]
    exact List.mem_cons.2 ((List.mem_cons.1 hdm).imp (congrArg DeploymentRow.key)
      fun hdm => hkeys d (List.mem_filter.1 hdm).1)
  · obtain ⟨hdm, hp⟩ := List.mem_filter.1 hdm
    refine mem_listen_deletes.2 ⟨hkeys d hdm, fun d' hd' hkey => ?_⟩
    obtain ⟨hd'm, hd'p⟩ := List.mem_filter.1 hd'
    obtain rfl : d' = d :=
      List.inj_on_of_nodup_map (hv.deployments.nodup_map (.tail _ (.head _))) hd'm hdm hkey.symm
    simp [hd'p] at hp

/-- A listener that holds only keys of deployments before a statement
that keeps every deployment's key holds only keys of deployments after it. -/
theorem exec_listen_sound (hv : db.Valid) (hk : stmt.KeepsDeploymentKeys)
    (h : db.exec now stmt = .ok (db', notes)) (hkeys : ∀ k ∈ keys, ∃ d ∈ db.deployments, d.key = k) :
    ∀ k ∈ listen keys notes, ∃ d ∈ db'.deployments, d.key = k := by
  rcases exec_deployments_cases h with ⟨hd, rfl⟩ | ⟨row, hd, rfl⟩ | ⟨id, set, old, rfl, hold, rfl, hd, rfl⟩ |
    ⟨p, hd, rfl⟩ <;> rw [hd] <;> intro k hkm
  · exact hkeys k hkm
  · rw [listen_insert] at hkm
    rcases List.mem_cons.1 hkm with rfl | hkm
    · exact ⟨row, List.mem_cons_self _ _, rfl⟩
    · obtain ⟨d, hdm, rfl⟩ := hkeys k hkm
      exact ⟨d, List.mem_cons_of_mem _ hdm, rfl⟩
  · rw [listen_update] at hkm
    rcases List.mem_cons.1 hkm with rfl | hkm
    · exact ⟨set old, List.mem_cons_self _ _, rfl⟩
    obtain ⟨d, hdm, rfl⟩ := hkeys k hkm
    by_cases hid : d.id = old.id
    · have : d = old := List.inj_on_of_nodup_map hv.deployments_ids hdm hold hid
      exact ⟨set old, List.mem_cons_self _ _, by rw [hk old, this]⟩
    · exact ⟨d, List.mem_cons_of_mem _ (List.mem_filter.2 ⟨hdm, by simpa using hid⟩), rfl⟩
  · obtain ⟨hkm, hgone⟩ := mem_listen_deletes.1 hkm
    obtain ⟨d, hdm, rfl⟩ := hkeys k hkm
    refine ⟨d, List.mem_filter.2 ⟨hdm, ?_⟩, rfl⟩
    cases hp : p d
    · rfl
    · exact absurd rfl (hgone d (List.mem_filter.2 ⟨hdm, hp⟩))

end hear

/-- **A listener on `deployments_events` tracks the deployments.**
Over every run from a database the constraints hold of, a listener that
starts from the keys of its deployments and hears every notification of
the run, in order, holds the key of every deployment at the end; and when
every statement of the run keeps each deployment's key, it holds no other
key. -/
theorem listen_of_run {P : Stmt → Prop} {db db' : DeployDb} {log : List Notification} (hv : db.Valid)
    (h : Run P db log db') :
    (∀ d ∈ db'.deployments, d.key ∈ listen (db.deployments.map (·.key)) log) ∧
    ((∀ stmt, P stmt → stmt.KeepsDeploymentKeys) →
      ∀ k ∈ listen (db.deployments.map (·.key)) log, ∃ d ∈ db'.deployments, d.key = k) := by
  induction h with
  | refl => exact ⟨fun d hd => List.mem_map_of_mem _ hd, fun _ k hk => by simpa using hk⟩
  | tail hrun hp hexec ih =>
    rw [listen_append]
    exact ⟨exec_listen_complete (hrun.valid hv) hexec ih.1,
      fun hk => exec_listen_sound (hrun.valid hv) (hk _ hp) hexec (ih.2 hk)⟩

/-- The echo run, then the deletion of its deployment. -/
def echoDeletedDb : DeployDb := (echoDb.dropDeployments 0 (·.id = 1)).1

/-- What that run sends: the insert of the deployment, then its delete. -/
def echoDeleteLog : List Notification :=
  [⟨"deployments_events", "deployments", "INSERT", "dpl-echo-1"⟩,
    ⟨"deployments_events", "deployments", "DELETE", "dpl-echo-1"⟩]

/-- A listener of the echo run and the deletion ends holding what the
database holds: no deployment. -/
theorem echo_delete_heard :
    Run Stmt.KeepsDeploymentKeys empty echoDeleteLog echoDeletedDb ∧
      (∀ d ∈ echoDeletedDb.deployments, d.key ∈ listen (empty.deployments.map (·.key)) echoDeleteLog) ∧
      ((∀ stmt, Stmt.KeepsDeploymentKeys stmt → stmt.KeepsDeploymentKeys) →
        ∀ k ∈ listen (empty.deployments.map (·.key)) echoDeleteLog,
          ∃ d ∈ echoDeletedDb.deployments, d.key = k) :=
  have h : Run Stmt.KeepsDeploymentKeys empty echoDeleteLog echoDeletedDb :=
    .tail (.tail (.tail (.tail (.refl _) (by exact trivial)
      (rfl : empty.exec 0 (.insertModule echoModule) = _)) (by exact trivial)
      (rfl : DeployDb.exec 0 ⟨[echoModule], [], []⟩ (.insertDeployment echoDeployment) = _)) (by exact trivial)
      (rfl : DeployDb.exec 0 ⟨[echoModule], [echoDeployment], []⟩ (.insertRunner echoRunner) = _))
      (by exact trivial) (rfl : echoDb.exec 0 (.deleteDeployment 1) = _)
  ⟨h, listen_of_run valid_empty h⟩

end DeployDb

end Dal

end Ftl
