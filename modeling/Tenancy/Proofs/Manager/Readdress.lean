import Tenancy.Manager.Step
import Tenancy.Proofs.Assoc

/-!
# Renaming connection strings

A connection string gets into a manager in one way only: as the text of the fault that it names no
database. `Manager.readdress f password` applies `f` to these texts wherever the manager holds
them, and puts another password into its configuration. No operation looks at either: every step
of the manager commutes with `readdress` (`readdress_step`).
-/

namespace Tenancy

variable (f : String → String) (password : String)

/-! ### Faults and what holds them -/

/-- A fault with another connection string. -/
def OpenFault.readdress : OpenFault → OpenFault
  | .noDatabase dsn => .noDatabase (f dsn)
  | .refused => .refused
  | .timeout limit => .timeout limit

/-- A fault with another connection string. -/
def SetupFault.readdress : SetupFault → SetupFault
  | .opening fault => .opening (fault.readdress f)
  | .ping fault => .ping fault

/-- An error with another connection string. -/
def PoolError.readdress : PoolError → PoolError
  | .setup tenant fault => .setup tenant (fault.readdress f)
  | e => e

lemma PoolError.readdress_ofLookup (tenant : TenantId) (cause : StoreError) :
    (ofLookup tenant cause).readdress f = ofLookup tenant cause := by
  unfold ofLookup
  split <;> rfl

namespace Manager

/-- An outcome with another connection string. -/
def Outcome.readdress : Outcome → Outcome
  | .failed e => .failed (e.readdress f)
  | outcome => outcome

/-- A report with another connection string. -/
def Report.readdress : Report → Report
  | .warmed result => .warmed (result.mapError (PoolError.readdress f))
  | report => report

/-- A stage with another connection string. -/
def Stage.readdress : Stage → Stage
  | .gathering warmed first => .gathering warmed (first.map (PoolError.readdress f))
  | stage => stage

/-- An answer with another connection string. -/
def Answer.readdress : Answer → Answer
  | .opened result => .opened (result.mapError (OpenFault.readdress f))
  | a => a

/-- An event with another connection string. -/
def Event.readdress : Event → Event
  | .resume task a => .resume task (a.readdress f)
  | e => e

@[simp] lemma Stage.parent?_readdress (s : Stage) : (s.readdress f).parent? = s.parent? := by
  cases s <;> rfl

@[simp] lemma Stage.isLoop_readdress (s : Stage) : (s.readdress f).isLoop = s.isLoop := by
  cases s <;> rfl

/-- A manager with other connection strings and another password. -/
def readdress (m : Manager) : Manager :=
  { m with
    config := { m.config with password }
    tasks := m.tasks.mapValues (Stage.readdress f)
    reports := m.reports.map fun r => (r.1, r.2.readdress f)
    outcomes := m.outcomes.mapValues (Outcome.readdress f) }

variable {f password} {m : Manager} {task : TaskId}

/-! ### What is read from a manager -/

@[simp] lemma readdress_entries : (m.readdress f password).entries = m.entries := rfl

@[simp] lemma readdress_pools : (m.readdress f password).pools = m.pools := rfl

lemma get?_tasks_readdress :
    (m.readdress f password).tasks.get? task = (m.tasks.get? task).map (Stage.readdress f) :=
  Assoc.get?_mapValues ..

lemma readdress_hasChildren : (m.readdress f password).hasChildren task = m.hasChildren task := by
  simp [hasChildren, readdress, Assoc.mapValues, Function.comp_def]

lemma readdress_hasLoops : (m.readdress f password).hasLoops = m.hasLoops := by
  simp [hasLoops, readdress, Assoc.mapValues, Function.comp_def]

lemma readdress_nextReport? :
    (m.readdress f password).nextReport? task = (m.nextReport? task).map (Report.readdress f) := by
  simp [nextReport?, readdress, List.find?_map, Function.comp_def]

lemma readdress_expectsReports :
    (m.readdress f password).expectsReports task = m.expectsReports task := by
  simp [expectsReports, readdress_hasChildren, readdress_nextReport?]

/-- Where a manager decides by something that connection strings have no part in. The condition
that `m.readdress f password` decides by is then the same one by definition. -/
lemma readdress_ite {p : Prop} [Decidable p] {a b a' b' : Manager}
    (ha : a.readdress f password = a') (hb : b.readdress f password = b') :
    (if p then a else b).readdress f password = if p then a' else b' := by
  rw [apply_ite (readdress f password), ha, hb]

/-! ### Tasks -/

lemma readdress_await (s : Stage) :
    (m.await task s).readdress f password =
      (m.readdress f password).await task (s.readdress f) := by
  simp only [await, readdress, Assoc.insert_mapValues]

lemma readdress_leave :
    (m.leave task).readdress f password = (m.readdress f password).leave task := by
  simp only [leave, readdress, Assoc.erase_mapValues]

lemma readdress_finish (outcome : Outcome) :
    (m.finish task outcome).readdress f password =
      (m.readdress f password).finish task (outcome.readdress f) := by
  simp only [finish, leave, readdress, Assoc.erase_mapValues, Assoc.insert_mapValues]

lemma readdress_report (parent : TaskId) (report : Report) :
    (m.report task parent report).readdress f password =
      (m.readdress f password).report task parent (report.readdress f) := by
  simp only [Manager.report, leave, readdress, Assoc.erase_mapValues, List.map_append,
    List.map_cons, List.map_nil]

lemma readdress_spawnAll (stages : List Stage) :
    (m.spawnAll stages).readdress f password =
      (m.readdress f password).spawnAll (stages.map (Stage.readdress f)) := by
  unfold spawnAll
  induction stages generalizing m with
  | nil => rfl
  | cons s rest ih =>
    rw [List.foldl_cons, ih, List.map_cons, List.foldl_cons]
    congr 1
    simp only [spawn, await, readdress, Assoc.insert_mapValues]

lemma readdress_dropReport :
    (m.dropReport task).readdress f password = (m.readdress f password).dropReport task := by
  simp only [dropReport, readdress, List.eraseP_map]
  rfl

/-! ### Getting a pool -/

lemma readdress_beginClose (tenant : TenantId) (id : PoolId) (reason : String) (next : Next) :
    (m.beginClose task tenant id reason next).readdress f password =
      (m.readdress f password).beginClose task tenant id reason next := by
  unfold beginClose
  rw [readdress_await]
  rfl

lemma readdress_fail (demand : Demand) (e : PoolError) :
    (m.fail task demand e).readdress f password =
      (m.readdress f password).fail task demand (e.readdress f) := by
  cases demand with
  | warm parent => exact readdress_report ..
  | get => exact readdress_finish ..
  | lease => exact readdress_finish ..

lemma readdress_giveUp (demand : Demand) (e : PoolError) :
    (m.giveUp task demand e).readdress f password =
      (m.readdress f password).giveUp task demand (e.readdress f) :=
  readdress_fail ..

lemma readdress_lend (id : PoolId) :
    (m.lend task id).readdress f password = (m.readdress f password).lend task id :=
  readdress_finish ..

lemma readdress_beginCreation (demand : Demand) (tenant : TenantId) :
    (m.beginCreation task demand tenant).readdress f password =
      (m.readdress f password).beginCreation task demand tenant := by
  unfold beginCreation
  exact readdress_ite (readdress_fail ..) (readdress_await ..)

lemma readdress_beginLease (tenant : TenantId) :
    (m.beginLease task tenant).readdress f password =
      (m.readdress f password).beginLease task tenant := by
  unfold beginLease
  refine readdress_ite (readdress_fail ..) ?_
  rw [readdress_entries]
  cases m.entries.get? tenant with
  | some id => exact readdress_lend ..
  | none => exact readdress_beginCreation ..

lemma readdress_deliver (demand : Demand) (tenant : TenantId) (id : PoolId) :
    (m.deliver task demand tenant id).readdress f password =
      (m.readdress f password).deliver task demand tenant id := by
  cases demand with
  | get => exact readdress_finish ..
  | warm parent => exact readdress_report ..
  | lease => exact readdress_ite (readdress_lend ..) (readdress_beginLease ..)

lemma readdress_beginGet (demand : Demand) (tenant : TenantId) :
    (m.beginGet task demand tenant).readdress f password =
      (m.readdress f password).beginGet task demand tenant := by
  unfold beginGet
  refine readdress_ite (readdress_fail ..) ?_
  rw [readdress_entries]
  cases m.entries.get? tenant with
  | some id => exact readdress_deliver ..
  | none => exact readdress_beginCreation ..

lemma readdress_afterLookup (demand : Demand) (tenant : TenantId)
    (result : Except StoreError Tenant) :
    (m.afterLookup task demand tenant result).readdress f password =
      (m.readdress f password).afterLookup task demand tenant result := by
  cases result with
  | error cause => exact (readdress_giveUp ..).trans (by rw [PoolError.readdress_ofLookup]; rfl)
  | ok record => exact readdress_ite (readdress_await ..) (readdress_giveUp ..)

lemma readdress_afterOpening (demand : Demand) (tenant : TenantId) (record : Tenant)
    (result : Except OpenFault (String × Nat)) :
    (m.afterOpening task demand tenant record result).readdress f password =
      (m.readdress f password).afterOpening task demand tenant record
        (result.mapError (OpenFault.readdress f)) := by
  cases result with
  | error fault => exact readdress_giveUp ..
  | ok opened => exact readdress_await ..

lemma readdress_enter (demand : Demand) (tenant : TenantId) (record : Tenant)
    (connections : ConnectionsId) :
    (m.enter task demand tenant record connections).readdress f password =
      (m.readdress f password).enter task demand tenant record connections := by
  unfold enter
  rw [readdress_entries]
  cases m.entries.get? tenant with
  | some winner => exact readdress_await ..
  | none => exact readdress_ite (readdress_beginClose ..) (readdress_deliver ..)

lemma readdress_afterFirstPing (demand : Demand) (tenant : TenantId) (record : Tenant)
    (connections : ConnectionsId) (result : Except PingFault Unit) :
    (m.afterFirstPing task demand tenant record connections result).readdress f password =
      (m.readdress f password).afterFirstPing task demand tenant record connections result := by
  cases result with
  | error fault => exact readdress_await ..
  | ok => exact readdress_enter ..

lemma readdress_afterRejecting (demand : Demand) (tenant : TenantId)
    (connections : ConnectionsId) (fault : PingFault) :
    (m.afterRejecting task demand tenant connections fault).readdress f password =
      (m.readdress f password).afterRejecting task demand tenant connections fault :=
  readdress_giveUp ..

lemma readdress_afterYielding (demand : Demand) (tenant : TenantId)
    (connections : ConnectionsId) (winner : PoolId) :
    (m.afterYielding task demand tenant connections winner).readdress f password =
      (m.readdress f password).afterYielding task demand tenant connections winner :=
  readdress_deliver ..

/-! ### Opening pools ahead of time -/

lemma readdress_awaitWarmed (warmed : Nat) (first : Option PoolError) :
    (m.awaitWarmed task warmed first).readdress f password =
      (m.readdress f password).awaitWarmed task warmed (first.map (PoolError.readdress f)) := by
  unfold awaitWarmed
  rw [readdress_expectsReports]
  refine readdress_ite (readdress_await ..) ?_
  cases first with
  | none => exact readdress_finish ..
  | some e => exact readdress_finish ..

lemma readdress_afterListing (result : Except StoreError (List Tenant)) :
    (m.afterListing task result).readdress f password =
      (m.readdress f password).afterListing task result := by
  cases result with
  | error cause => exact readdress_finish ..
  | ok tenants =>
    simp only [afterListing, readdress_awaitWarmed, readdress_spawnAll, List.map_map]
    rfl

lemma readdress_absorbWarmed (warmed : Nat) (first : Option PoolError) :
    (m.absorbWarmed task warmed first).readdress f password =
      (m.readdress f password).absorbWarmed task warmed (first.map (PoolError.readdress f)) := by
  simp only [absorbWarmed, readdress_nextReport?]
  cases m.nextReport? task with
  | none => rfl
  | some report =>
    cases report with
    | probed => rfl
    | warmed result =>
      cases result with
      | error e =>
        refine (readdress_awaitWarmed ..).trans ?_
        rw [readdress_dropReport]
        cases first <;> rfl
      | ok =>
        refine (readdress_awaitWarmed ..).trans ?_
        rw [readdress_dropReport]
        rfl

/-! ### Going through all pools -/

lemma readdress_rest (loop : Loop) :
    (m.rest task loop).readdress f password = (m.readdress f password).rest task loop := by
  unfold rest
  refine readdress_ite readdress_leave ?_
  cases loop <;> exact readdress_await ..

lemma readdress_finishSweep (sweeper : Sweeper) (loop : Loop) (outcome : Outcome) :
    (m.finishSweep task sweeper loop outcome).readdress f password =
      (m.readdress f password).finishSweep task sweeper loop (outcome.readdress f) := by
  cases sweeper with
  | caller => exact readdress_finish ..
  | loop => exact readdress_rest ..

lemma readdress_evictRest (sweeper : Sweeper) (count : Nat) (pools : List (TenantId × PoolId)) :
    (m.evictRest task sweeper count pools).readdress f password =
      (m.readdress f password).evictRest task sweeper count pools := by
  induction pools with
  | nil => exact readdress_finishSweep ..
  | cons e pools ih =>
    obtain ⟨tenant, id⟩ := e
    have hreason : (m.readdress f password).evictionReason = m.evictionReason := rfl
    unfold evictRest
    rw [readdress_pools, hreason]
    cases (m.pools[id]?).bind m.evictionReason with
    | some reason => exact readdress_ite (readdress_beginClose ..) ih
    | none => exact ih

lemma readdress_beginEviction (sweeper : Sweeper) :
    (m.beginEviction task sweeper).readdress f password =
      (m.readdress f password).beginEviction task sweeper :=
  readdress_evictRest ..

lemma readdress_awaitProbes (sweeper : Sweeper) (sweep : HealthSweep) :
    (m.awaitProbes task sweeper sweep).readdress f password =
      (m.readdress f password).awaitProbes task sweeper sweep := by
  unfold awaitProbes
  rw [readdress_expectsReports]
  exact readdress_ite (readdress_await ..) (readdress_finishSweep ..)

lemma readdress_beginCheck (sweeper : Sweeper) :
    (m.beginCheck task sweeper).readdress f password =
      (m.readdress f password).beginCheck task sweeper := by
  simp only [beginCheck, readdress_awaitProbes, readdress_spawnAll, List.map_map]
  rfl

lemma readdress_noteProbe (sweeper : Sweeper) (sweep : HealthSweep) (tenant : TenantId)
    (id : PoolId) (result : Except PingFault Unit) :
    (m.noteProbe task sweeper sweep tenant id result).readdress f password =
      (m.readdress f password).noteProbe task sweeper sweep tenant id result := by
  cases result with
  | ok => exact readdress_awaitProbes ..
  | error fault => exact readdress_ite (readdress_beginClose ..) (readdress_awaitProbes ..)

lemma readdress_absorbProbe (sweeper : Sweeper) (sweep : HealthSweep) :
    (m.absorbProbe task sweeper sweep).readdress f password =
      (m.readdress f password).absorbProbe task sweeper sweep := by
  simp only [absorbProbe, readdress_nextReport?]
  cases m.nextReport? task with
  | none => rfl
  | some report =>
    cases report with
    | warmed => rfl
    | probed => exact (readdress_noteProbe ..).trans (by rw [readdress_dropReport]; rfl)

/-! ### Retiring tenants and shutting down -/

lemma readdress_beginRetirement (tenant : TenantId) (reason : String) :
    (m.beginRetirement task tenant reason).readdress f password =
      (m.readdress f password).beginRetirement task tenant reason := by
  unfold beginRetirement
  rw [readdress_entries]
  cases m.entries.get? tenant with
  | some id => exact readdress_beginClose ..
  | none => exact readdress_finish ..

lemma readdress_afterUpdate (tenant : TenantId) (status : Status)
    (result : Except StoreError Unit) :
    (m.afterUpdate task tenant status result).readdress f password =
      (m.readdress f password).afterUpdate task tenant status result := by
  cases result with
  | error cause =>
    refine (readdress_finish ..).trans ?_
    rw [Outcome.readdress, PoolError.readdress_ofLookup]
    rfl
  | ok =>
    refine readdress_ite (readdress_finish ..) ?_
    rw [readdress_entries]
    cases m.entries.get? tenant with
    | some id => exact readdress_beginClose ..
    | none => exact readdress_finish ..

lemma readdress_finishShutdown (count : Option Nat) :
    (m.finishShutdown task count).readdress f password =
      (m.readdress f password).finishShutdown task count := by
  cases count <;> exact readdress_finish ..

lemma readdress_closeRest (count : Option Nat) (pools : List (TenantId × PoolId)) :
    (m.closeRest task count pools).readdress f password =
      (m.readdress f password).closeRest task count pools := by
  induction pools with
  | nil => exact readdress_finishShutdown ..
  | cons e pools ih =>
    exact readdress_ite (readdress_beginClose ..) ih

lemma readdress_awaitLoops (count : Option Nat) :
    (m.awaitLoops task count).readdress f password =
      (m.readdress f password).awaitLoops task count := by
  unfold awaitLoops
  rw [readdress_hasLoops]
  exact readdress_ite (readdress_await ..) (readdress_closeRest ..)

lemma readdress_beginShutdown (count : Option Nat) :
    (m.beginShutdown task count).readdress f password =
      (m.readdress f password).beginShutdown task count := by
  unfold beginShutdown
  exact readdress_ite (readdress_finishShutdown ..) (readdress_awaitLoops ..)

lemma readdress_drainRound (deadline : Nat) :
    (m.drainRound task deadline).readdress f password =
      (m.readdress f password).drainRound task deadline := by
  unfold drainRound
  exact readdress_ite (readdress_beginShutdown ..) (readdress_await ..)

lemma readdress_beginDrain (patience : Duration) :
    (m.beginDrain task patience).readdress f password =
      (m.readdress f password).beginDrain task patience :=
  readdress_drainRound ..

lemma readdress_beginLoops :
    (m.beginLoops task).readdress f password = (m.readdress f password).beginLoops task := by
  unfold beginLoops
  refine readdress_ite (readdress_finish ..) ((readdress_finish ..).trans ?_)
  rw [readdress_spawnAll, List.map_append, ← Option.toList_map, ← Option.toList_map,
    Option.map_map, Option.map_map]
  rfl

/-! ### Steps -/

lemma readdress_afterClosing (tenant : TenantId) (id : PoolId) (reason : String) (next : Next) :
    (m.afterClosing task tenant id reason next).readdress f password =
      (m.readdress f password).afterClosing task tenant id reason next := by
  cases next with
  | withdraw demand => exact readdress_fail ..
  | evict sweeper pools count => exact readdress_evictRest ..
  | probe sweeper sweep => exact readdress_awaitProbes ..
  | retire => exact readdress_finish ..
  | setStatus => exact readdress_finish ..
  | shutdown pools count => exact readdress_closeRest ..

lemma readdress_beginRound (loop : Loop) :
    (m.beginRound task loop).readdress f password =
      (m.readdress f password).beginRound task loop := by
  cases loop with
  | eviction => exact readdress_beginEviction ..
  | health => exact readdress_beginCheck ..

/-- What a task does with an answer goes with the connection string in it. -/
lemma readdress_answer (s : Stage) (a : Answer) :
    (m.answer task s a).readdress f password =
      (m.readdress f password).answer task (s.readdress f) (a.readdress f) := by
  cases s with
  | lookingUp demand tenant =>
    cases a with
    | tenant result => exact readdress_afterLookup ..
    | _ => rfl
  | opening demand tenant record deadline =>
    cases a with
    | opened result => exact readdress_afterOpening ..
    | elapsed => exact readdress_ite (readdress_giveUp ..) rfl
    | _ => rfl
  | pinging demand tenant record connections deadline =>
    cases a with
    | pinged result => exact readdress_afterFirstPing ..
    | elapsed => exact readdress_ite (readdress_afterFirstPing ..) rfl
    | _ => rfl
  | rejecting demand tenant connections fault =>
    cases a with
    | closed => exact readdress_afterRejecting ..
    | _ => rfl
  | yielding demand tenant connections winner =>
    cases a with
    | closed => exact readdress_afterYielding ..
    | _ => rfl
  | closing tenant id reason next =>
    cases a with
    | closed => exact readdress_afterClosing ..
    | _ => rfl
  | warmQueued parent tenant =>
    cases a with
    | proceed => exact readdress_beginGet ..
    | _ => rfl
  | listing =>
    cases a with
    | tenants result => exact readdress_afterListing ..
    | _ => rfl
  | gathering warmed first =>
    cases a with
    | proceed => exact readdress_absorbWarmed ..
    | _ => rfl
  | probeQueued parent tenant id =>
    cases a with
    | proceed => exact readdress_await ..
    | _ => rfl
  | probePinging parent tenant id deadline =>
    cases a with
    | pinged result => exact readdress_report ..
    | elapsed => exact readdress_ite (readdress_report ..) rfl
    | _ => rfl
  | probing sweeper sweep =>
    cases a with
    | proceed => exact readdress_absorbProbe ..
    | _ => rfl
  | updating tenant status =>
    cases a with
    | updated result => exact readdress_afterUpdate ..
    | _ => rfl
  | draining deadline wake =>
    cases a with
    | elapsed => exact readdress_ite (readdress_drainRound ..) rfl
    | _ => rfl
  | joining count =>
    cases a with
    | proceed =>
      simp only [answer, Stage.readdress, Answer.readdress, readdress_hasLoops]
      exact readdress_ite rfl (readdress_closeRest ..)
    | _ => rfl
  | loopQueued loop =>
    cases a with
    | proceed => exact readdress_rest ..
    | _ => rfl
  | loopSleeping loop wake =>
    cases a with
    | elapsed => exact readdress_ite (readdress_beginRound ..) rfl
    | proceed => exact readdress_ite readdress_leave rfl
    | _ => rfl

lemma readdress_resume (a : Answer) :
    (m.resume task a).readdress f password =
      (m.readdress f password).resume task (a.readdress f) := by
  unfold resume
  rw [get?_tasks_readdress]
  cases m.tasks.get? task with
  | some s => exact readdress_answer ..
  | none => rfl

lemma readdress_admitRequest (request : Request) :
    (m.admitRequest task request).readdress f password =
      (m.readdress f password).admitRequest task request := by
  cases request with
  | get tenant => exact readdress_beginGet ..
  | lease tenant => exact readdress_beginLease ..
  | evict => exact readdress_beginEviction ..
  | checkHealth => exact readdress_beginCheck ..
  | retire tenant reason => exact readdress_beginRetirement ..
  | setStatus tenant status => exact readdress_await ..
  | prewarm => exact readdress_await ..
  | drain patience => exact readdress_beginDrain ..
  | close => exact readdress_beginShutdown ..
  | start => exact readdress_beginLoops

lemma readdress_dropLease (lease : TaskId) :
    (m.dropLease lease).readdress f password = (m.readdress f password).dropLease lease := by
  have hleases : (m.readdress f password).leases = m.leases := rfl
  unfold dropLease
  rw [hleases]
  cases m.leases.get? lease <;> rfl

lemma readdress_cancel :
    (m.cancel task).readdress f password = (m.readdress f password).cancel task := by
  unfold cancel
  rw [get?_tasks_readdress]
  cases m.tasks.get? task with
  | none => rfl
  | some s =>
    simp only [Option.map_some, Stage.isLoop_readdress, Stage.parent?_readdress]
    refine readdress_ite rfl ?_
    simp only [readdress, Assoc.filter_mapValues, Stage.parent?_readdress, List.filter_map]
    rfl

/-- Every step of a manager goes with the connection strings in it. -/
theorem readdress_step (e : Event) :
    (m.step e).readdress f password = (m.readdress f password).step (e.readdress f) := by
  cases e with
  | call request => exact readdress_admitRequest ..
  | resume task a => exact readdress_resume ..
  | advance nanos => rfl
  | drop lease => exact readdress_dropLease ..
  | touch id => rfl
  | acquire id => rfl
  | release id => rfl
  | cancel task => exact readdress_cancel

end Manager

end Tenancy
