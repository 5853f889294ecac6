import Ftl.BuildEngine.Deploy
import Ftl.BuildEngine.Schedules
/-!
# The build engine — the dev loop

`watchForModuleChanges` builds and deploys every local module, records
the hash of every schema in `controllerSchema`, and then serves three
sources in one `select`: the watcher's events, the schema changes the
schema sync publishes, and a timer, armed by a successful deploy, that
reports success to the listener unless an error came since. The schema
sync runs beside it, applying the controller's messages to
`controllerSchema` and publishing each message's change.

`DevLoop.Step` is one step of either, in any interleaving, and every
`BuildAndDeploy` of the loop is a `BuildAndDeployRun`, with whatever the
compiler and the deployments do at that moment. Two contracts fail on
some runs: success is reported while a module's last build failed
(`success_reported_while_broken`), and a schema the controller
publishes twice unchanged rebuilds the modules that depend on it when
the loop had not recorded its hash (`unchanged_schema_rebuilds`). What
holds of the hashes is `HashesSeen`: `moduleHashes` holds the hash of
the last schema the loop saw for each module, so one the loop has seen
triggers nothing (`schemaChange_skips_seen`).
-/


namespace Ftl

namespace BuildEngine

/-- A SHA-256 digest, 32 bytes: never equal to the `nil` a missing entry
of `moduleHashes` reads as. -/
abbrev Digest := BitVec 256

/-- `computeModuleHash`: SHA-256 of the schema's `String()`. Writing to a
SHA-256 hasher never fails, so neither does this. -/
def computeModuleHash (sha256 : String → Digest) (sch : SchemaModule) : Digest := sha256 sch.text

/-- A `PullSchemaResponse` from the controller, its schema parsed. -/
inductive PullMessage where
  | added (sch : SchemaModule)
  | changed (sch : SchemaModule)
  | removed (moduleName : String)

/-- The module a message is about. -/
def PullMessage.moduleName : PullMessage → String
  | .added sch | .changed sch => sch.name
  | .removed moduleName => moduleName

/-- A `schemaChange` the schema sync publishes: the change type, and the
module's schema (`nil` for a removal). -/
inductive SchemaChange where
  | added (sch : SchemaModule)
  | changed (sch : SchemaModule)
  | removed

/-- A call of the loop on the listener. -/
inductive Report where
  | success
  | failed (err : Error)

/-- `OnBuildSuccess` for nil, `OnBuildFailed` for an error. -/
def Report.ofResult : Option Error → Report
  | some err => .failed err
  | none => .success

/-! ## The engine's maps, as the loop and the schema sync change them -/

namespace Engine

/-- `moduleMetas` replaced by a map that stores each module under its name. -/
def withMetas (e : Engine) (moduleMetas : GoMap ModuleMeta) (h : MetasNamed moduleMetas) : Engine where
  moduleMetas := moduleMetas
  controllerSchema := e.controllerSchema
  metas_named {name meta} hk := h name meta.module (by simp [localModule, hk])
  controller_named := e.controller_named

/-- `moduleMetas.Delete`. -/
def eraseMeta (e : Engine) (name : String) : Engine where
  moduleMetas := e.moduleMetas.erase name
  controllerSchema := e.controllerSchema
  metas_named {k meta} hk := by
    by_cases h : k = name
    · subst h; simp [AList.lookup_erase] at hk
    · rw [AList.lookup_erase_ne h] at hk; exact e.metas_named hk
  controller_named := e.controller_named

/-- `controllerSchema.Delete`. -/
def eraseSchema (e : Engine) (name : String) : Engine where
  moduleMetas := e.moduleMetas
  controllerSchema := e.controllerSchema.erase name
  metas_named := e.metas_named
  controller_named {k sch} hk := by
    by_cases h : k = name
    · subst h; simp [AList.lookup_erase] at hk
    · rw [AList.lookup_erase_ne h] at hk; exact e.controller_named hk

@[simp] theorem withMetas_moduleMetas (e : Engine) (m : GoMap ModuleMeta) (h : MetasNamed m) :
    (e.withMetas m h).moduleMetas = m := rfl

@[simp] theorem withMetas_controllerSchema (e : Engine) (m : GoMap ModuleMeta) (h : MetasNamed m) :
    (e.withMetas m h).controllerSchema = e.controllerSchema := rfl

/-- The callback `startSchemaSync` returns, on one message: the engine
after it, and the change it publishes. -/
def syncSchema (e : Engine) : PullMessage → Engine × SchemaChange
  | .added sch => (e.storeSchema sch, .added sch)
  | .changed sch => (e.storeSchema sch, .changed sch)
  | .removed moduleName => (e.eraseSchema moduleName, .removed)

/-- `getDependentModuleNames`: the local modules that depend on the module. -/
def getDependentModuleNames (e : Engine) (moduleName : String) : List String :=
  e.moduleMetas.entries.filterMap fun p =>
    if moduleName ∈ p.2.module.dependencies then some p.1 else none

end Engine

/-- What `BuildRun` leaves in `moduleMetas` stores each module under its name. -/
theorem RunCtx.GroupsRun.sameModules {r : RunCtx} {groups : List (List String)} {st st' : RunState}
    (h : r.GroupsRun groups st st') : SameModules st'.moduleMetas st.moduleMetas := by
  induction h with
  | nil => exact .refl _
  | cons hg _ ih => exact ih.trans hg.sameModules

theorem BuildRun.metasNamed {env : Env} {callback : Option (Module → Except Error Unit)} {e : Engine}
    {moduleNames : List String} {result : Except Error Unit} {st : RunState}
    (h : BuildRun env callback e moduleNames result st) : MetasNamed st.moduleMetas := by
  unfold BuildRun at h
  dsimp only at h
  split at h
  · rw [h.2]; exact Engine.metasNamed _
  · split at h
    · exact h.elim
    · rw [h.2]; exact Engine.metasNamed _
    · split at h
      · rw [h.2]; exact Engine.metasNamed _
      · exact h.1.sameModules.metasNamed (Engine.metasNamed _)

theorem BuildAndDeployRun.metasNamed {env : Env} {e : Engine} {moduleNames : List String}
    {result : Option Error} {st : RunState} (h : BuildAndDeployRun env e moduleNames result st) :
    MetasNamed st.moduleMetas :=
  let ⟨_, hrun, _⟩ := h
  hrun.metasNamed

/-- The hashes the loop records once its initial build is done: one for
each schema in `controllerSchema`. -/
def snapshotHashes (sha256 : String → Digest) (controllerSchema : GoMap SchemaModule) : GoMap Digest :=
  controllerSchema.entries.foldl (fun hashes p => hashes.insert p.1 (computeModuleHash sha256 p.2)) ∅

private theorem lookup_foldl_insert (f : SchemaModule → Digest) (k : String) :
    ∀ (l : List (Σ _ : String, SchemaModule)) (acc : GoMap Digest), l.NodupKeys →
      (l.foldl (fun hashes p => hashes.insert p.1 (f p.2)) acc).lookup k =
        ((l.dlookup k).map f).or (acc.lookup k)
  | [], _, _ => by simp
  | ⟨k', v⟩ :: l, acc, hl => by
    obtain ⟨hk', hl⟩ := List.nodupKeys_cons.1 hl
    rw [List.foldl_cons, lookup_foldl_insert f k l _ hl]
    by_cases hk : k = k'
    · subst hk
      simp [List.dlookup_eq_none.2 hk', List.dlookup_cons_eq]
    · simp [List.dlookup_cons_ne l ⟨k', v⟩ hk, AList.lookup_insert_ne hk]

theorem lookup_snapshotHashes (sha256 : String → Digest) (controllerSchema : GoMap SchemaModule)
    (k : String) :
    (snapshotHashes sha256 controllerSchema).lookup k =
      (controllerSchema.lookup k).map (computeModuleHash sha256) := by
  rw [snapshotHashes, lookup_foldl_insert _ _ _ _ controllerSchema.nodupKeys]
  simp [AList.lookup]

/-! ## The loop -/

/-- Where the loop is: before the initial build, before recording the
hashes, and watching. -/
inductive Phase where
  | initial
  | snapshot
  | watching
deriving DecidableEq

/-- The dev loop and the schema sync feeding it. `reports`, `attempts`,
`lastSeen` and the schema paired with each pending change record the run;
the code keeps none of them. -/
structure DevLoop where
  engine : Engine
  phase : Phase
  moduleHashes : GoMap Digest
  didUpdateDeployments : Bool
  didError : Bool
  /-- The changes published and not yet received, oldest first, each with
  the schema `controllerSchema` held for its module just before the
  message. -/
  schemaChanges : List (SchemaChange × Option SchemaModule)
  /-- The listener's calls, newest first. -/
  reports : List Report
  /-- Each `BuildAndDeploy` of the loop, newest first: the modules it was
  asked for (every local module, for the initial one) and whether it
  returned nil. -/
  attempts : List (List String × Bool)
  /-- The schema whose hash `moduleHashes` holds for each module: the one
  in the snapshot, or the last `DEPLOYMENT_CHANGED` one received. -/
  lastSeen : GoMap SchemaModule

namespace DevLoop

/-- The loop as it starts, subscribed to both sources. -/
def start (e : Engine) : DevLoop := ⟨e, .initial, ∅, false, false, [], [], [], ∅⟩

/-- What the loop does around a `BuildAndDeploy` of `names` that returned
`result` and left `engine`: `didError` is cleared before the call; an
error sets it and goes to `OnBuildFailed`, and nil arms the timer. -/
def afterBuildAndDeploy (s : DevLoop) (names : List String) (engine : Engine) :
    Option Error → DevLoop
  | some err =>
    { s with
      engine := engine, didError := true, reports := .failed err :: s.reports
      attempts := (names, false) :: s.attempts }
  | none =>
    { s with
      engine := engine, didError := false, didUpdateDeployments := true
      attempts := (names, true) :: s.attempts }

section AfterBuildAndDeploy

variable (s : DevLoop) (names : List String) (engine : Engine) (result : Option Error)

@[simp] theorem afterBuildAndDeploy_moduleHashes :
    (s.afterBuildAndDeploy names engine result).moduleHashes = s.moduleHashes := by
  cases result <;> rfl

@[simp] theorem afterBuildAndDeploy_lastSeen :
    (s.afterBuildAndDeploy names engine result).lastSeen = s.lastSeen := by
  cases result <;> rfl

@[simp] theorem afterBuildAndDeploy_schemaChanges :
    (s.afterBuildAndDeploy names engine result).schemaChanges = s.schemaChanges := by
  cases result <;> rfl

@[simp] theorem afterBuildAndDeploy_engine :
    (s.afterBuildAndDeploy names engine result).engine = engine := by
  cases result <;> rfl

@[simp] theorem afterBuildAndDeploy_phase :
    (s.afterBuildAndDeploy names engine result).phase = s.phase := by
  cases result <;> rfl

@[simp] theorem afterBuildAndDeploy_didError :
    (s.afterBuildAndDeploy names engine result).didError = result.isSome := by
  cases result <;> rfl

@[simp] theorem afterBuildAndDeploy_didUpdateDeployments :
    (s.afterBuildAndDeploy names engine result).didUpdateDeployments =
      (result.isNone || s.didUpdateDeployments) := by
  cases result <;> rfl

@[simp] theorem afterBuildAndDeploy_attempts :
    (s.afterBuildAndDeploy names engine result).attempts = (names, result.isNone) :: s.attempts := by
  cases result <;> rfl

end AfterBuildAndDeploy

variable (sha256 : String → Digest)

/-- **One step of the dev loop or of the schema sync.** A watcher event
for a module already local (`moduleAdded`), or unknown or older than its
last build (`moduleChanged`), changes nothing and has no step. -/
inductive Step : DevLoop → DevLoop → Prop
  /-- The schema sync applies a message and publishes its change. -/
  | pull {s : DevLoop} (msg : PullMessage) :
      Step s
        { s with
          engine := (s.engine.syncSchema msg).1
          schemaChanges := s.schemaChanges ++
            [((s.engine.syncSchema msg).2, s.engine.controllerSchema.lookup msg.moduleName)] }
  /-- The initial `BuildAndDeploy` of every local module. An error goes to
  `OnBuildFailed`, and `didError` stays as it is. -/
  | initial {s : DevLoop} {env : Env} {result : Option Error} {st : RunState}
      (hp : s.phase = .initial) (hrun : BuildAndDeployRun env s.engine [] result st) :
      Step s
        { s with
          engine := s.engine.withMetas st.moduleMetas hrun.metasNamed, phase := .snapshot
          reports := .ofResult result :: s.reports
          attempts := (s.engine.modules, result.isNone) :: s.attempts }
  /-- The hash of every schema in `controllerSchema` is recorded. -/
  | snapshot {s : DevLoop} (hp : s.phase = .snapshot) :
      Step s
        { s with
          phase := .watching, moduleHashes := snapshotHashes sha256 s.engine.controllerSchema
          lastSeen := s.engine.controllerSchema }
  /-- The timer fires: success, unless `didError`. -/
  | timer {s : DevLoop} (hp : s.phase = .watching) (hu : s.didUpdateDeployments = true) :
      Step s
        { s with
          didUpdateDeployments := false
          reports := if s.didError then s.reports else .success :: s.reports }
  /-- `WatchEventModuleAdded` of a module that is not local: stored with
  no build time, then built and deployed. -/
  | moduleAdded {s : DevLoop} {module : Module} {env : Env} {result : Option Error} {st : RunState}
      (hp : s.phase = .watching) (hnew : module.name ∉ s.engine.moduleMetas)
      (hrun : BuildAndDeployRun env (s.engine.storeMeta module.name ⟨module, 0⟩ rfl) [module.name]
        result st) :
      Step s (s.afterBuildAndDeploy [module.name]
        ((s.engine.storeMeta module.name ⟨module, 0⟩ rfl).withMetas st.moduleMetas hrun.metasNamed) result)
  /-- `WatchEventModuleRemoved`: `terminateModuleDeployment` returns
  `terminated`, and the module is dropped. -/
  | moduleRemoved {s : DevLoop} (module : Module) (terminated : Option Error)
      (hp : s.phase = .watching) :
      Step s (match terminated with
        | some err =>
          { s with
            engine := s.engine.eraseMeta module.name, didError := true
            reports := .failed err :: s.reports }
        | none => { s with engine := s.engine.eraseMeta module.name, didUpdateDeployments := true })
  /-- `WatchEventModuleChanged` of a local module, not older than its last
  build: built and deployed. -/
  | moduleChanged {s : DevLoop} {module : Module} {time : Nat} {meta : ModuleMeta} {env : Env}
      {result : Option Error} {st : RunState} (hp : s.phase = .watching)
      (hmeta : s.engine.moduleMetas.lookup module.name = some meta)
      (htime : ¬ time < meta.lastBuildStartTime)
      (hrun : BuildAndDeployRun env s.engine [module.name] result st) :
      Step s (s.afterBuildAndDeploy [module.name] (s.engine.withMetas st.moduleMetas hrun.metasNamed) result)
  /-- A change other than `DEPLOYMENT_CHANGED` is received and dropped. -/
  | schemaChangeIgnored {s : DevLoop} {change : SchemaChange} {prior : Option SchemaModule}
      {rest : List (SchemaChange × Option SchemaModule)} (hp : s.phase = .watching)
      (hq : s.schemaChanges = (change, prior) :: rest) (hc : ∀ sch, change ≠ .changed sch) :
      Step s { s with schemaChanges := rest }
  /-- A `DEPLOYMENT_CHANGED` whose hash is the one recorded is dropped. -/
  | schemaUnchanged {s : DevLoop} {sch : SchemaModule} {prior : Option SchemaModule}
      {rest : List (SchemaChange × Option SchemaModule)} (hp : s.phase = .watching)
      (hq : s.schemaChanges = (.changed sch, prior) :: rest)
      (heq : s.moduleHashes.lookup sch.name = some (computeModuleHash sha256 sch)) :
      Step s { s with schemaChanges := rest, lastSeen := s.lastSeen.insert sch.name sch }
  /-- A `DEPLOYMENT_CHANGED` with a new hash, which no local module depends on. -/
  | schemaChangedNoDependents {s : DevLoop} {sch : SchemaModule} {prior : Option SchemaModule}
      {rest : List (SchemaChange × Option SchemaModule)} (hp : s.phase = .watching)
      (hq : s.schemaChanges = (.changed sch, prior) :: rest)
      (hne : s.moduleHashes.lookup sch.name ≠ some (computeModuleHash sha256 sch))
      (hdeps : s.engine.getDependentModuleNames sch.name = []) :
      Step s
        { s with
          schemaChanges := rest
          moduleHashes := s.moduleHashes.insert sch.name (computeModuleHash sha256 sch)
          lastSeen := s.lastSeen.insert sch.name sch }
  /-- A `DEPLOYMENT_CHANGED` with a new hash: the local modules depending
  on it are built and deployed. -/
  | schemaChanged {s : DevLoop} {sch : SchemaModule} {prior : Option SchemaModule}
      {rest : List (SchemaChange × Option SchemaModule)} {env : Env} {result : Option Error}
      {st : RunState} (hp : s.phase = .watching)
      (hq : s.schemaChanges = (.changed sch, prior) :: rest)
      (hne : s.moduleHashes.lookup sch.name ≠ some (computeModuleHash sha256 sch))
      (hdeps : s.engine.getDependentModuleNames sch.name ≠ [])
      (hrun : BuildAndDeployRun env s.engine (s.engine.getDependentModuleNames sch.name) result st) :
      Step s
        ({ s with
          schemaChanges := rest
          moduleHashes := s.moduleHashes.insert sch.name (computeModuleHash sha256 sch)
          lastSeen := s.lastSeen.insert sch.name sch }.afterBuildAndDeploy
            (s.engine.getDependentModuleNames sch.name)
            (s.engine.withMetas st.moduleMetas hrun.metasNamed) result)

/-- The states the loop reaches from its start on `e`. -/
def Reachable (e : Engine) (s : DevLoop) : Prop := Relation.ReflTransGen (Step sha256) (start e) s

/-! ## The hashes -/

/-- `moduleHashes` holds, for each module, the hash of the schema
`lastSeen` holds. -/
def HashesSeen (s : DevLoop) : Prop :=
  ∀ k, s.moduleHashes.lookup k = (s.lastSeen.lookup k).map (computeModuleHash sha256)

variable {sha256}

theorem hashesSeen_start (e : Engine) : HashesSeen sha256 (start e) := fun _ => by simp [start]

theorem HashesSeen.insert {s : DevLoop} (h : HashesSeen sha256 s) (sch : SchemaModule) (k : String) :
    (s.moduleHashes.insert sch.name (computeModuleHash sha256 sch)).lookup k =
      ((s.lastSeen.insert sch.name sch).lookup k).map (computeModuleHash sha256) := by
  simp only [GoMap.lookup_insert_ite]
  split
  · rfl
  · exact h k

/-- **Every step keeps `moduleHashes` the hashes of `lastSeen`.** -/
theorem Step.hashesSeen {s s' : DevLoop} (h : Step sha256 s s') (hs : HashesSeen sha256 s) :
    HashesSeen sha256 s' := by
  cases h with
  | snapshot => exact lookup_snapshotHashes _ _
  | moduleAdded | moduleChanged => exact fun k => by simpa using hs k
  | moduleRemoved _ terminated => cases terminated <;> exact hs
  | @schemaUnchanged sch _ _ _ _ heq =>
    intro k
    by_cases hk : k = sch.name
    · subst hk; simpa using heq
    · simpa [AList.lookup_insert_ne hk] using hs k
  | schemaChangedNoDependents => exact hs.insert _
  | schemaChanged => exact fun k => by simpa using hs.insert _ k
  | _ => exact hs

theorem Reachable.hashesSeen {e : Engine} {s : DevLoop} (h : Reachable sha256 e s) :
    HashesSeen sha256 s := by
  induction h with
  | refl => exact hashesSeen_start e
  | tail _ hstep ih => exact hstep.hashesSeen ih

/-- **A `DEPLOYMENT_CHANGED` the loop has seen triggers no
`BuildAndDeploy`.** When the loop receives a change whose schema renders
as the schema `lastSeen` holds for the module (the last
`DEPLOYMENT_CHANGED` one received, or else the snapshot's), it builds
nothing. -/
theorem schemaChange_skips_seen {e : Engine} {s s' : DevLoop} {sch : SchemaModule}
    {prior : Option SchemaModule} {rest : List (SchemaChange × Option SchemaModule)}
    (hreach : Reachable sha256 e s) (hstep : Step sha256 s s')
    (hq : s.schemaChanges = (.changed sch, prior) :: rest) (hrecv : s'.schemaChanges = rest)
    (hseen : (s.lastSeen.lookup sch.name).map (·.text) = some sch.text) :
    s'.attempts = s.attempts := by
  have hkeep : s.schemaChanges ≠ rest := by
    rw [hq]; exact fun h => by simpa using congrArg List.length h
  cases hstep with
  | pull =>
    have := congrArg List.length hrecv
    simp only [hq, List.length_append, List.length_cons, List.length_singleton] at this
    omega
  | moduleRemoved _ terminated => cases terminated <;> exact absurd hrecv hkeep
  | moduleAdded | moduleChanged => exact absurd (by simpa using hrecv) hkeep
  | initial | snapshot | timer => exact absurd hrecv hkeep
  | schemaChanged _ hq' hne =>
    rw [hq, List.cons.injEq, Prod.mk.injEq, SchemaChange.changed.injEq] at hq'
    obtain ⟨⟨rfl, -⟩, -⟩ := hq'
    obtain ⟨seen, hl, htext⟩ := Option.map_eq_some'.1 hseen
    exact absurd (by rw [hreach.hashesSeen, hl]; simp [computeModuleHash, htext]) hne
  | _ => rfl

/-! ## Success while a module is broken -/

/-- A local module whose most recent `BuildAndDeploy` returned an error. -/
def Broken (s : DevLoop) (name : String) : Prop :=
  name ∈ s.engine.moduleMetas ∧ (s.attempts.find? fun a => name ∈ a.1).map (·.2) = some false

instance (s : DevLoop) (name : String) : Decidable (Broken s name) :=
  inferInstanceAs (Decidable (_ ∧ _))

/-- A compiler on which `a` fails and `b` builds. -/
def aBrokenEnv : Env := chainEnv twoGraph [["a", "b"]] ["a"]

/-- The initial pass on `twoEngine`, `a` failing to compile. -/
def brokenInitialPass : Option Error × RunState :=
  (buildAndDeploySeq aBrokenEnv twoEngine []).get (by decide)

theorem brokenInitialPass_run :
    BuildAndDeployRun aBrokenEnv twoEngine [] brokenInitialPass.1 brokenInitialPass.2 :=
  buildAndDeployRun_of_seq (Option.eq_some_of_isSome (by decide))

/-- The engine the initial pass leaves. -/
def afterBrokenInitial : Engine :=
  twoEngine.withMetas brokenInitialPass.2.moduleMetas brokenInitialPass_run.metasNamed

/-- A compiler on which `b` builds, on `b`'s own graph. -/
def bEnv : Env := chainEnv ((∅ : Graph).insert "b" []) [["b"]] []

/-- `b` built and deployed again, after a change to it. -/
def bChangedPass : Option Error × RunState :=
  (buildAndDeploySeq bEnv afterBrokenInitial ["b"]).get (by decide)

theorem bChangedPass_run :
    BuildAndDeployRun bEnv afterBrokenInitial ["b"] bChangedPass.1 bChangedPass.2 :=
  buildAndDeployRun_of_seq (Option.eq_some_of_isSome (by decide))

/-- **Success is reported while `a` is broken.** The initial pass fails on
`a` and reports it, but leaves `didError` clear; `b` then changes and is
built and deployed, which arms the timer, and the timer reports success.
`a`'s last build failed, and `a` is still a local module. -/
theorem success_reported_while_broken (sha256 : String → Digest) :
    ∃ s s', Reachable sha256 twoEngine s ∧ Step sha256 s s' ∧ s'.reports = .success :: s.reports ∧
      Broken s' "a" := by
  have h₁ : Step sha256 (start twoEngine) _ := .initial rfl brokenInitialPass_run
  have hmeta : afterBrokenInitial.moduleMetas.lookup "b" = some ⟨⟨"b", []⟩, 1⟩ := by decide
  have hok : bChangedPass.1.isNone = true := by decide
  refine ⟨_, _, ((Relation.ReflTransGen.single h₁).tail (.snapshot rfl)).tail
    (@Step.moduleChanged sha256 _ ⟨"b", []⟩ 5 ⟨⟨"b", []⟩, 1⟩ bEnv _ _ rfl hmeta (by decide)
      bChangedPass_run), .timer (by simp) (by simp [hok]), ?_, ?_⟩
  · have hd : bChangedPass.1.isSome = false := by decide
    simp [hd]
  · have ha : "a" ∈ bChangedPass.2.moduleMetas := by decide
    have hf : brokenInitialPass.1.isNone = false := by decide
    have hm : twoEngine.modules = ["b", "a"] := by decide
    simp [Broken, start, ha, hf, hm]

/-! ## Schemas published twice -/

/-- The schema the controller publishes for `x`. -/
def xSchema : SchemaModule := ⟨"x", [], "x"⟩

/-- The graph of `a`, which depends on `x`, once the controller serves `x`. -/
def xGraph : Graph := ((∅ : Graph).insert "a" ["x"]).insert "x" []

/-- A compiler on which everything builds, on `xGraph`. -/
def xEnv : Env := chainEnv xGraph [["x"], ["a"]] []

/-- `a`, depending on `x`, which the controller does not serve yet. -/
def xEngine : Engine := .ofModules [⟨"a", ["x"]⟩] []

/-- The initial pass on `xEngine`: `Graph` fails, `x` being unknown. -/
def xInitialPass : Option Error × RunState := (buildAndDeploySeq xEnv xEngine []).get (by decide)

theorem xInitialPass_run : BuildAndDeployRun xEnv xEngine [] xInitialPass.1 xInitialPass.2 :=
  buildAndDeployRun_of_seq (Option.eq_some_of_isSome (by decide))

/-- The engine once the controller has published `x` as added, and then
as changed. -/
def xPublished : Engine :=
  (((xEngine.withMetas xInitialPass.2.moduleMetas xInitialPass_run.metasNamed).syncSchema
    (.added xSchema)).1.syncSchema (.changed xSchema)).1

/-- `a` built and deployed after `x`'s change. -/
def xRebuildPass : Option Error × RunState :=
  (buildAndDeploySeq xEnv xPublished (xPublished.getDependentModuleNames "x")).get (by decide)

theorem xRebuildPass_run :
    BuildAndDeployRun xEnv xPublished (xPublished.getDependentModuleNames "x") xRebuildPass.1
      xRebuildPass.2 :=
  buildAndDeployRun_of_seq (Option.eq_some_of_isSome (by decide))

/-- **A schema published twice unchanged rebuilds what depends on it.**
The controller publishes `x` after the loop took its snapshot, first as
added and then, unchanged, as changed. The loop drops the first and,
having no hash for `x`, takes the second for a change and builds `a`,
although `controllerSchema` held the same schema for `x` just before the
second message. The hash function plays no part: none is recorded for
`x`. -/
theorem unchanged_schema_rebuilds :
    ∃ s s', Reachable (fun _ => 0) xEngine s ∧ Step (fun _ => 0) s s' ∧
      s.schemaChanges = [(.changed xSchema, some xSchema)] ∧ s'.schemaChanges = [] ∧
      s'.attempts.length = s.attempts.length + 1 := by
  have h₁ : Step (fun _ => 0) (start xEngine) _ := .initial rfl xInitialPass_run
  have hcs : xEngine.controllerSchema.lookup xSchema.name = none := by decide
  have hdeps : xPublished.getDependentModuleNames "x" ≠ [] := by decide
  have r₄ := ((((Relation.ReflTransGen.single h₁).tail (.snapshot rfl)).tail
    (.pull (.added xSchema))).tail (.pull (.changed xSchema))).tail
      (@Step.schemaChangeIgnored (fun _ => 0) _ (.added xSchema) none [(.changed xSchema, some xSchema)] rfl rfl
        fun _ h => by cases h)
  exact ⟨_, _, r₄, @Step.schemaChanged (fun _ => 0) _ xSchema (some xSchema) [] xEnv _ _ rfl rfl
    (by simp [lookup_snapshotHashes, start, hcs]) hdeps xRebuildPass_run, rfl, by simp, by simp⟩

/-- `a`, depending on `x`, which the controller serves from the start. -/
def xKnownEngine : Engine := .ofModules [⟨"a", ["x"]⟩] [xSchema]

/-- The initial pass on `xKnownEngine`, everything building. -/
def xKnownInitialPass : Option Error × RunState := (buildAndDeploySeq xEnv xKnownEngine []).get (by decide)

theorem xKnownInitialPass_run :
    BuildAndDeployRun xEnv xKnownEngine [] xKnownInitialPass.1 xKnownInitialPass.2 :=
  buildAndDeployRun_of_seq (Option.eq_some_of_isSome (by decide))

/-- A digest for the run below that, unlike a constant, tells texts apart:
the text's code points, each below 0x110000, read as the digits of a
number in that base, taken mod 2^256. -/
def textDigest (text : String) : Digest :=
  BitVec.ofNat 256 (text.foldl (fun n c => n * 0x110000 + c.toNat) 0)

/-- The controller republishes `x`, in the snapshot, unchanged: the loop
receives it and builds nothing. -/
theorem republished_schema_skipped :
    ∃ s s', Reachable textDigest xKnownEngine s ∧ Step textDigest s s' ∧
      s.schemaChanges = [(.changed xSchema, some xSchema)] ∧ s'.schemaChanges = [] ∧
      (s.lastSeen.lookup xSchema.name).map (·.text) = some xSchema.text ∧ s'.attempts = s.attempts := by
  have h₁ : Step textDigest (start xKnownEngine) _ := .initial rfl xKnownInitialPass_run
  have hcs : xKnownEngine.controllerSchema.lookup xSchema.name = some xSchema := by decide
  have hseen : (xKnownEngine.controllerSchema.lookup xSchema.name).map (·.text) = some xSchema.text := by
    simp [hcs]
  have r₂ := (((Relation.ReflTransGen.single h₁).tail (.snapshot rfl)).tail (.pull (.changed xSchema)))
  refine ⟨_, _, r₂, @Step.schemaUnchanged textDigest _ xSchema (some xSchema) [] rfl rfl
    (by simp [lookup_snapshotHashes, start, hcs]), rfl, rfl, hseen, ?_⟩
  exact schemaChange_skips_seen r₂ (@Step.schemaUnchanged textDigest _ xSchema (some xSchema) [] rfl rfl
    (by simp [lookup_snapshotHashes, start, hcs])) rfl rfl hseen

end DevLoop

end BuildEngine

end Ftl
