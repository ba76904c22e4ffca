import HermitAnalyze.Frame

/-!
# Runner: one launch of the deterministic runtime

The collaborators outside this source are parameters (`Env`), among them the runtime: a function of what
drives an execution, hence deterministic. `launch_config` and its wrappers set the replay and recording
flags, run once, and keep the log and the captured streams in the workspace.
-/

namespace Hermit.Analyze

open AnalyzeM

/-- The bisection of `schedule_search::search_for_critical_schedule` (not in this source), taken as a
parameter: from the baseline, the target and the answers of `test_fn` so far (newest first), the next
schedule to test or the critical schedule found. -/
structure Bisector where
  next : List SchedEvent → List SchedEvent → List (Bool × List SchedEvent) →
    List SchedEvent ⊕ CriticalSchedule

/-- Everything `phases.rs` calls that is not part of it. -/
structure Env (R : Type) where
  ops : RecordOps R
  /-- The deterministic runtime `hermit run`: an execution, or the reason it could not be launched. -/
  runtime : Exec R → Except String (RunRecord R)
  /-- `RunOpts::from_iter` on the passed-through run arguments. -/
  parseRunArgs : List String → RunArgs
  /-- The run arguments replay no file. Spec §3 has exactly one of the seed, `replay_preemptions_from`
  and `replay_schedule_from` drive a run, and the analyzer chooses each launch's replay itself. -/
  runArgsReplayNothing : ∀ args, (parseRunArgs args).replayPreemptionsFrom = none ∧
    (parseRunArgs args).replayScheduleFrom = none
  /-- `AnalyzeOpts::minimize` (in `analyze::minimize`): from the input preemption file and the world,
  the minimized record, a file holding it and its last matching log, with the files it writes. -/
  minimize : Path → World R → Except Failure (R × Path × Path) × List (Path × Content R)
  /-- `LogDiffCLIOpts::main` with the given ignored lines: whether two logs agree. -/
  logDiff : List String → Option (Content R) → Option (Content R) → Bool
  bisector : Bisector
  /-- The `j`-th `gen::<u64>()` of `Pcg64Mcg::seed_from_u64 s`. -/
  searchRng : UInt64 → Nat → UInt64
  /-- `rand::thread_rng().gen()`, the search seed when `analyze_seed` is absent. -/
  entropySeed : UInt64
  /-- The name `tempfile` gives the workspace; only shown in messages. -/
  tmpDir : String

variable {R α : Type} (env : Env R) (opts : AnalyzeOpts)

/-- `Path::with_extension` on a run name, which never carries an extension of its own here. -/
def withExtension (runname ext : String) : String := runname ++ "." ++ ext

def LOG_EXT : String := "log"
def PREEMPTS_EXT : String := "preempts"
def SCHED_EXT : String := "events"

def logPath (runname : String) : Path := .tmp (withExtension runname LOG_EXT)

def preemptsPath (runname : String) : Path := .tmp (withExtension runname PREEMPTS_EXT)

def stdoutPath (runname : String) : Path := .tmp (withExtension runname "stdout")

def stderrPath (runname : String) : Path := .tmp (withExtension runname "stderr")

def Path.display : Path → String
  | .tmp f => env.tmpDir ++ "/" ++ f
  | .user p => p

def zeroPad (width n : Nat) : String :=
  String.mk (List.replicate (width - (toString n).length) '0') ++ toString n

def getBaseRunopts : AnalyzeM R RunOpts :=
  let ro := env.parseRunArgs opts.runArgs
  if ro.noSequentializeThreads then
    bail "Error, cannot search through executions with --no-sequentialize-threads.  Determinism required."
  else pure ro.toRunOpts

def AnalyzeOpts.withRun1 (ro : RunOpts) : RunOpts :=
  match opts.run1Seed, opts.run1Preemptions with
  | some seed, _ => { ro with seed }
  | none, some path => { ro with replayPreemptionsFrom := some (.user path) }
  | none, none => ro

def AnalyzeOpts.withRun2 (ro : RunOpts) : RunOpts :=
  match opts.run2Seed, opts.run2Preemptions with
  | some seed, _ => { ro with seed }
  | none, some path => { ro with replayPreemptionsFrom := some (.user path) }
  | none, none => ro

def getRun1Runopts : AnalyzeM R RunOpts := do
  let ro ← getBaseRunopts env opts
  pure (opts.withRun1 ro)

def getRun2Runopts : AnalyzeM R RunOpts := do
  let ro ← getBaseRunopts env opts
  pure (opts.withRun2 ro)

/-- The preemption record or schedule a launch replays: none when the flag is unset, and no execution
when the file does not hold a record. -/
def replayInput (w : World R) : Option Path → Option (Option R)
  | none => some none
  | some p =>
    match w.read p with
    | some (.record r) => some (some r)
    | _ => none

/-- What drives the execution launched with `ro` in world `w`. -/
def execOf (ro : RunOpts) (w : World R) : Option (Exec R) := do
  let pr ← replayInput w ro.replayPreemptionsFrom
  let sc ← replayInput w ro.replayScheduleFrom
  pure (Exec.mk ro.seed ro.schedSeed ro.chaos ro.impreciseTimers pr sc)

/-- The stack traces one execution writes: one for each event it was asked about that fires, at the
event's path. -/
def stackOutputs (ro : RunOpts) (rec : RunRecord R) : List (Path × Content R) :=
  ro.stacktraceEvent.filterMap fun e => e.2.bind fun p => (rec.stack e.1).map fun s => (p, .text s)

def runOutputs (ro : RunOpts) (rec : RunRecord R) : List (Path × Content R) :=
  (ro.recordPreemptionsTo.toList.map fun p => (p, .record rec.recording)) ++ stackOutputs ro rec

/-- Modelled from the spec (the subprocess protocol): `RunOpts::run_verify`, one execution of the runtime
logging to `log`. -/
def runVerify (ro : RunOpts) (log : Path) : AnalyzeM R Output := do
  recordLaunch log ro
  match ← gets (execOf ro) with
  | none => bail "failed to read the replayed file"
  | some ex =>
    match env.runtime ex with
    | .error e => bail e
    | .ok rec => do
      writeFile log (.text rec.log)
      writeAll (runOutputs ro rec)
      pure rec.output

def launchConfig (runname : String) (runopts : RunOpts) : AnalyzeM R (Bool × Path) := do
  let logPath := logPath runname
  writeFile logPath (.text "")
  let out1 ← runVerify env runopts logPath
  writeFile (stdoutPath runname) (.text out1.stdout)
  writeFile (stderrPath runname) (.text out1.stderr)
  pure (opts.outputMatches out1, logPath)

def searchRunname (round : Nat) : String := "search_round_" ++ zeroPad 3 round

def searchRunopts (ro : RunOpts) (round : Nat) (schedSeed : UInt64) : RunOpts :=
  { ro with schedSeed := some schedSeed,
            recordPreemptionsTo := some (preemptsPath (searchRunname round)),
            impreciseTimers := opts.impreciseSearch || ro.impreciseTimers }

def launchSearch (round : Nat) (schedSeed : UInt64) : AnalyzeM R (Option Path) := do
  let runname := searchRunname round
  let ro ← getBaseRunopts env opts
  let (isAMatch, _) ← launchConfig env opts runname (searchRunopts opts ro round schedSeed)
  pure (if isAMatch then some (preemptsPath runname) else none)

def launchAndRecordPreempts (runname : String) (runopts : RunOpts) : AnalyzeM R (Bool × Path) :=
  launchConfig env opts runname { runopts with recordPreemptionsTo := some (preemptsPath runname) }

def launchFromPreemptsToSched (runname : String) (preemptsPath : Path)
    (recordSchedPath : Option Path) : AnalyzeM R Bool := do
  let ro ← getBaseRunopts env opts
  let ro := { ro with replayPreemptionsFrom := some preemptsPath }
  let ro := match recordSchedPath with
    | some path => { ro with recordPreemptionsTo := some path }
    | none => ro
  let (isAMatch, _) ← launchConfig env opts runname ro
  pure isAMatch

def launchForStacktraces (runname : String) (schedulePath : Path) (criticalEventIndex : UInt64) :
    AnalyzeM R (Bool × Path × Path × RunOpts) := do
  let stack1Path := Path.tmp (withExtension runname "stack1")
  let stack2Path := Path.tmp (withExtension runname "stack2")
  let ro ← getBaseRunopts env opts
  let ro := { ro with replayScheduleFrom := some schedulePath,
                      stacktraceEvent := [(criticalEventIndex - 1, some stack1Path),
                        (criticalEventIndex, some stack2Path)] }
  let (isAMatch, _) ← launchConfig env opts runname ro
  pure (isAMatch, stack1Path, stack2Path, ro)

/-! ### Spec lemmas -/

/-- The options `get_base_runopts` returns when the run arguments keep threads sequentialized. -/
def baseRunopts : RunOpts := (env.parseRunArgs opts.runArgs).toRunOpts

def replayRunopts (pp sp : Path) : RunOpts :=
  { baseRunopts env opts with replayPreemptionsFrom := some pp, recordPreemptionsTo := some sp }

def replayExec (r : R) : Exec R :=
  let b := baseRunopts env opts
  ⟨b.seed, b.schedSeed, b.chaos, b.impreciseTimers, some r, none⟩

def execMatches (ex : Exec R) : Bool :=
  match env.runtime ex with
  | .ok rec => opts.outputMatches rec.output
  | .error _ => false

def replayMatches (r : R) : Bool := execMatches env opts (replayExec env opts r)

def searchExec (schedSeed : UInt64) : Exec R :=
  let b := baseRunopts env opts
  ⟨b.seed, some schedSeed, b.chaos, opts.impreciseSearch || b.impreciseTimers, none, none⟩

variable {env opts} {w w' : World R}

theorem getBaseRunopts_ok {ro : RunOpts} (h : getBaseRunopts env opts w = (.ok ro, w')) :
    ro = baseRunopts env opts ∧ w' = w := by
  unfold getBaseRunopts at h
  split at h <;> simp_all [bail, baseRunopts]

theorem getBaseRunopts_seq {ro : RunOpts} (h : getBaseRunopts env opts w = (.ok ro, w')) :
    (env.parseRunArgs opts.runArgs).noSequentializeThreads = false := by
  cases hs : (env.parseRunArgs opts.runArgs).noSequentializeThreads
  · rfl
  · simp [getBaseRunopts, hs, bail] at h

theorem getBaseRunopts_bind_ok {f : RunOpts → AnalyzeM R α} {a : α}
    (h : (getBaseRunopts env opts >>= f) w = (.ok a, w')) : f (baseRunopts env opts) w = (.ok a, w') := by
  obtain ⟨ro, w₁, hb, hf⟩ := bind_ok h
  obtain ⟨rfl, rfl⟩ := getBaseRunopts_ok hb
  exact hf

@[simp] theorem baseRunopts_replayPreemptionsFrom :
    (baseRunopts env opts).replayPreemptionsFrom = none := by
  simp [baseRunopts, RunArgs.toRunOpts, (env.runArgsReplayNothing _).1]

@[simp] theorem baseRunopts_replayScheduleFrom : (baseRunopts env opts).replayScheduleFrom = none := by
  simp [baseRunopts, RunArgs.toRunOpts, (env.runArgsReplayNothing _).2]

theorem mem_baseRunopts_stackPaths {p : Path} (h : p ∈ (baseRunopts env opts).stackPaths) :
    ∃ u, p = .user u ∧ ∃ k, (k, some u) ∈ (env.parseRunArgs opts.runArgs).stacktraceEvent := by
  simp only [RunOpts.stackPaths, baseRunopts, RunArgs.toRunOpts, List.mem_filterMap, List.mem_map] at h
  obtain ⟨_, ⟨⟨k, o⟩, hk, rfl⟩, ho⟩ := h
  obtain ⟨u, rfl, rfl⟩ := Option.map_eq_some'.mp ho
  exact ⟨u, rfl, k, hk⟩

theorem tmp_not_mem_stackPaths {ro : RunOpts}
    (h : ro.stacktraceEvent = (baseRunopts env opts).stacktraceEvent) (f : String) :
    Path.tmp f ∉ ro.stackPaths := fun hm => by
  rw [RunOpts.stackPaths, h] at hm
  obtain ⟨u, hu, -⟩ := mem_baseRunopts_stackPaths hm
  cases hu

theorem mem_baseRunopts_recordPreemptionsTo {p : Path}
    (h : p ∈ (baseRunopts env opts).recordPreemptionsTo.toList) :
    ∃ u, p = .user u ∧ (env.parseRunArgs opts.runArgs).recordPreemptionsTo = some u := by
  simp only [baseRunopts, RunArgs.toRunOpts, Option.mem_toList, Option.mem_def, Option.map_eq_some'] at h
  obtain ⟨u, hu, rfl⟩ := h
  exact ⟨u, rfl, hu⟩

@[simp] theorem withRun1_stacktraceEvent (ro : RunOpts) :
    (opts.withRun1 ro).stacktraceEvent = ro.stacktraceEvent := by
  unfold AnalyzeOpts.withRun1; split <;> rfl

@[simp] theorem withRun1_replayScheduleFrom (ro : RunOpts) :
    (opts.withRun1 ro).replayScheduleFrom = ro.replayScheduleFrom := by
  unfold AnalyzeOpts.withRun1; split <;> rfl

theorem withRun1_replayPreemptionsFrom (hp : opts.run1Preemptions = none) (ro : RunOpts) :
    (opts.withRun1 ro).replayPreemptionsFrom = ro.replayPreemptionsFrom := by
  unfold AnalyzeOpts.withRun1; split <;> simp_all

@[simp] theorem withRun2_stacktraceEvent (ro : RunOpts) :
    (opts.withRun2 ro).stacktraceEvent = ro.stacktraceEvent := by
  unfold AnalyzeOpts.withRun2; split <;> rfl

@[simp] theorem withRun2_replayScheduleFrom (ro : RunOpts) :
    (opts.withRun2 ro).replayScheduleFrom = ro.replayScheduleFrom := by
  unfold AnalyzeOpts.withRun2; split <;> rfl

@[simp] theorem withRun2_stackPaths (ro : RunOpts) : (opts.withRun2 ro).stackPaths = ro.stackPaths := by
  simp [RunOpts.stackPaths]

theorem getRun1Runopts_ok {ro : RunOpts} (h : getRun1Runopts env opts w = (.ok ro, w')) :
    ro = opts.withRun1 (baseRunopts env opts) ∧ w' = w := by
  have h := getBaseRunopts_bind_ok h
  simp only [pure_apply, Prod.mk.injEq, Except.ok.injEq] at h
  exact ⟨h.1.symm, h.2.symm⟩

theorem getRun2Runopts_ok {ro : RunOpts} (h : getRun2Runopts env opts w = (.ok ro, w')) :
    ro = opts.withRun2 (baseRunopts env opts) ∧ w' = w := by
  have h := getBaseRunopts_bind_ok h
  simp only [pure_apply, Prod.mk.injEq, Except.ok.injEq] at h
  exact ⟨h.1.symm, h.2.symm⟩

theorem getBaseRunopts_frame {P : Path → Prop} : Frame P (getBaseRunopts env opts : AnalyzeM R _) := by
  unfold getBaseRunopts
  exact Frame.ite (Frame.bail _) (Frame.pure _)

def launchStart (w : World R) (runname : String) (ro : RunOpts) : World R :=
  (w.write (logPath runname) (.text "")).launch (logPath runname) ro

def launchWorld (w : World R) (runname : String) (ro : RunOpts) (rec : RunRecord R) : World R :=
  ((((launchStart w runname ro).write (logPath runname) (.text rec.log)).writeAll
    (runOutputs ro rec)).write (stdoutPath runname) (.text rec.output.stdout)).write
    (stderrPath runname) (.text rec.output.stderr)

theorem launchConfig_apply {runname : String} {ro : RunOpts} {ex : Exec R} {rec : RunRecord R}
    (hex : execOf ro (launchStart w runname ro) = some ex) (hr : env.runtime ex = .ok rec) :
    launchConfig env opts runname ro w =
      (.ok (opts.outputMatches rec.output, logPath runname), launchWorld w runname ro rec) := by
  simp only [launchStart] at hex
  simp [launchConfig, runVerify, bind_apply, recordLaunch, writeAll, gets, hex, hr, launchWorld,
    launchStart]

theorem launchConfig_error {runname : String} {ro : RunOpts} {ex : Exec R} {e : String}
    (hex : execOf ro (launchStart w runname ro) = some ex) (hr : env.runtime ex = .error e) :
    launchConfig env opts runname ro w = (.error (.error e), launchStart w runname ro) := by
  simp only [launchStart] at hex
  simp [launchConfig, runVerify, bind_apply, recordLaunch, gets, bail, hex, hr, launchStart]

/-- A launch succeeds exactly when the runtime could run what drives it. -/
theorem launchConfig_ok {runname : String} {ro : RunOpts} {r : Bool × Path}
    (h : launchConfig env opts runname ro w = (.ok r, w')) :
    ∃ ex rec, execOf ro (launchStart w runname ro) = some ex ∧ env.runtime ex = .ok rec ∧
      r = (opts.outputMatches rec.output, logPath runname) ∧ w' = launchWorld w runname ro rec := by
  cases hex : execOf ro (launchStart w runname ro) with
  | none =>
    simp [launchConfig, runVerify, bind_apply, recordLaunch, gets, bail, launchStart] at h hex
    simp [hex] at h
  | some ex =>
    cases hr : env.runtime ex with
    | error e =>
      simp [launchConfig, runVerify, bind_apply, recordLaunch, gets, bail, launchStart] at h hex
      simp [hex, hr] at h
    | ok rec =>
      rw [launchConfig_apply hex hr] at h
      simp only [Prod.mk.injEq, Except.ok.injEq] at h
      exact ⟨ex, rec, rfl, hr, h.1.symm, h.2.symm⟩

def RunOpts.outputPaths (ro : RunOpts) : List Path := ro.recordPreemptionsTo.toList ++ ro.stackPaths

/-- The paths a launch may write: its log and captured streams, and the runtime's outputs. -/
def launchPaths (runname : String) (ro : RunOpts) : List Path :=
  [logPath runname, stdoutPath runname, stderrPath runname] ++ ro.outputPaths

def runFiles (runname : String) : List Path :=
  [logPath runname, stdoutPath runname, stderrPath runname, preemptsPath runname]

theorem stackOutputs_paths (ro : RunOpts) (rec : RunRecord R) :
    ∀ pc ∈ stackOutputs ro rec, pc.1 ∈ ro.stackPaths := by
  intro pc hpc
  obtain ⟨e, he, hpe⟩ := List.mem_filterMap.mp hpc
  obtain ⟨p, hp, hs⟩ := Option.bind_eq_some.mp hpe
  obtain ⟨s, -, rfl⟩ := Option.map_eq_some'.mp hs
  exact List.mem_filterMap.mpr ⟨e, he, hp⟩

theorem runOutputs_paths (ro : RunOpts) (rec : RunRecord R) :
    ∀ pc ∈ runOutputs ro rec, pc.1 ∈ ro.outputPaths := by
  intro pc hpc
  rcases List.mem_append.mp hpc with hpc | hpc
  · obtain ⟨p, hp, rfl⟩ := List.mem_map.mp hpc
    exact List.mem_append_left _ hp
  · exact List.mem_append_right _ (stackOutputs_paths ro rec pc hpc)

theorem launchConfig_frame (runname : String) (ro : RunOpts) :
    Frame (· ∈ launchPaths runname ro) (launchConfig env opts runname ro) := by
  unfold launchConfig runVerify
  refine Frame.bind (Frame.writeFile (by simp [launchPaths])) fun _ => ?_
  refine Frame.bind (Frame.bind (Frame.recordLaunch _ _) fun _ =>
    Frame.bind (Frame.gets _) fun ex => ?_) fun _ => ?_
  · rcases ex with _ | ex
    · exact Frame.bail _
    · dsimp only
      rcases env.runtime ex with e | rec
      · exact Frame.bail _
      · exact Frame.bind (Frame.writeFile (by simp [launchPaths])) fun _ =>
          Frame.bind (Frame.writeAll fun pc h => List.mem_append_right _ (runOutputs_paths ro rec pc h))
            fun _ => Frame.pure _
  · exact Frame.bind (Frame.writeFile (by simp [launchPaths])) fun _ =>
      Frame.bind (Frame.writeFile (by simp [launchPaths])) fun _ => Frame.pure _

theorem withExtension_right_injective (runname : String) : Function.Injective (withExtension runname) := by
  intro e₁ e₂ h
  have h' := congrArg String.data h
  simp only [withExtension, String.data_append] at h'
  exact String.ext (List.append_cancel_left h')

@[simp] theorem withExtension_inj {runname e₁ e₂ : String} :
    withExtension runname e₁ = withExtension runname e₂ ↔ e₁ = e₂ :=
  (withExtension_right_injective runname).eq_iff

theorem tmp_withExtension_ne {runname e₁ e₂ : String} (h : e₁ ≠ e₂) :
    Path.tmp (withExtension runname e₁) ≠ Path.tmp (withExtension runname e₂) :=
  fun he => h (withExtension_right_injective runname (Path.tmp.inj he))

@[simp] theorem logPath_ne_stdoutPath (runname : String) : logPath runname ≠ stdoutPath runname :=
  tmp_withExtension_ne (by decide)

@[simp] theorem logPath_ne_stderrPath (runname : String) : logPath runname ≠ stderrPath runname :=
  tmp_withExtension_ne (by decide)

@[simp] theorem preemptsPath_ne_stdoutPath (runname : String) :
    preemptsPath runname ≠ stdoutPath runname := tmp_withExtension_ne (by decide)

@[simp] theorem preemptsPath_ne_stderrPath (runname : String) :
    preemptsPath runname ≠ stderrPath runname := tmp_withExtension_ne (by decide)

@[simp] theorem logPath_ne_preemptsPath (runname : String) : logPath runname ≠ preemptsPath runname :=
  tmp_withExtension_ne (by decide)

@[simp] theorem preemptsPath_ne_logPath (runname : String) : preemptsPath runname ≠ logPath runname :=
  tmp_withExtension_ne (by decide)

theorem launchWorld_read_of_not_mem {runname : String} {ro : RunOpts} {rec : RunRecord R} {q : Path}
    (hq : q ∉ launchPaths runname ro) : (launchWorld w runname ro rec).read q = w.read q := by
  have hout : q ∉ (runOutputs ro rec).map Prod.fst := fun hm => by
    obtain ⟨pc, hpc, rfl⟩ := List.mem_map.mp hm
    exact hq (List.mem_append_right _ (runOutputs_paths ro rec pc hpc))
  simp only [launchPaths, List.mem_append, List.mem_cons, List.not_mem_nil, or_false, not_or] at hq
  rw [launchWorld, World.read_write_of_ne _ _ hq.1.2.2, World.read_write_of_ne _ _ hq.1.2.1,
    World.read_writeAll_of_not_mem _ hout, World.read_write_of_ne _ _ hq.1.1, launchStart,
    World.read_launch, World.read_write_of_ne _ _ hq.1.1]

theorem not_mem_stackOutputs {ro : RunOpts} {p : Path} (hst : p ∉ ro.stackPaths) (rec : RunRecord R) :
    p ∉ (stackOutputs ro rec).map Prod.fst := fun hm => by
  obtain ⟨pc, hpc, rfl⟩ := List.mem_map.mp hm
  exact hst (stackOutputs_paths ro rec pc hpc)

theorem launchWorld_read_recording {runname : String} {ro : RunOpts} {rec : RunRecord R} {p : Path}
    (hto : ro.recordPreemptionsTo = some p) (hst : p ∉ ro.stackPaths)
    (h₁ : p ≠ stdoutPath runname) (h₂ : p ≠ stderrPath runname) :
    (launchWorld w runname ro rec).read p = some (.record rec.recording) := by
  rw [launchWorld, World.read_write_of_ne _ _ h₂, World.read_write_of_ne _ _ h₁, runOutputs, hto,
    World.writeAll_append, World.read_writeAll_of_not_mem _ (not_mem_stackOutputs hst rec)]
  exact World.read_write_self _ _ _

theorem launchWorld_read_log {runname : String} {ro : RunOpts} {rec : RunRecord R}
    (hto : ro.recordPreemptionsTo ≠ some (logPath runname)) (hst : logPath runname ∉ ro.stackPaths) :
    (launchWorld w runname ro rec).read (logPath runname) = some (.text rec.log) := by
  have hrec : logPath runname ∉ (ro.recordPreemptionsTo.toList.map fun p =>
      (p, (.record rec.recording : Content R))).map Prod.fst := by
    rcases hr : ro.recordPreemptionsTo with _ | p
    · simp
    · simp only [Option.toList_some, List.map_cons, List.map_nil, List.mem_singleton]
      rintro rfl
      exact hto hr
  rw [launchWorld, World.read_write_of_ne _ _ (logPath_ne_stderrPath _),
    World.read_write_of_ne _ _ (logPath_ne_stdoutPath _), runOutputs, World.writeAll_append,
    World.read_writeAll_of_not_mem _ (not_mem_stackOutputs hst rec), World.read_writeAll_of_not_mem _ hrec]
  exact World.read_write_self _ _ _

@[simp] theorem launchWorld_launches (runname : String) (ro : RunOpts) (rec : RunRecord R) :
    (launchWorld w runname ro rec).launches = (logPath runname, ro) :: w.launches := by
  simp [launchWorld, launchStart]

theorem execOf_of_no_replay {ro : RunOpts} (h₁ : ro.replayPreemptionsFrom = none)
    (h₂ : ro.replayScheduleFrom = none) :
    execOf ro w = some ⟨ro.seed, ro.schedSeed, ro.chaos, ro.impreciseTimers, none, none⟩ := by
  simp [execOf, replayInput, h₁, h₂]

theorem execOf_searchRunopts (round : Nat) (schedSeed : UInt64) (w : World R) :
    execOf (searchRunopts opts (baseRunopts env opts) round schedSeed) w = some (searchExec env opts schedSeed) :=
  execOf_of_no_replay baseRunopts_replayPreemptionsFrom baseRunopts_replayScheduleFrom

theorem replayRunopts_paths (runname : String) (pp sp : Path) :
    launchPaths runname (replayRunopts env opts pp sp) =
      [logPath runname, stdoutPath runname, stderrPath runname, sp] ++ (baseRunopts env opts).stackPaths :=
  rfl

theorem not_mem_replayRunopts_paths {runname : String} {pp sp : Path} {f : String}
    (h : Path.tmp f ∉ [logPath runname, stdoutPath runname, stderrPath runname, sp]) :
    Path.tmp f ∉ launchPaths runname (replayRunopts env opts pp sp) := by
  rw [replayRunopts_paths, List.mem_append, not_or]
  exact ⟨h, tmp_not_mem_stackPaths rfl _⟩

theorem execOf_replayRunopts (pp sp : Path) (w : World R) :
    execOf (replayRunopts env opts pp sp) w =
      match w.read pp with
      | some (.record r) => some (replayExec env opts r)
      | _ => none := by
  rcases hw : w.read pp with _ | ⟨r⟩ | _ | _ <;>
    simp [execOf, replayInput, replayRunopts, replayExec, hw]

theorem launchFromPreemptsToSched_ok {runname : String} {pp sp : Path} {m : Bool}
    (h : launchFromPreemptsToSched env opts runname pp (some sp) w = (.ok m, w'))
    (hpp : pp ≠ logPath runname) :
    ∃ r rec, w.read pp = some (.record r) ∧ env.runtime (replayExec env opts r) = .ok rec ∧
      m = opts.outputMatches rec.output ∧ w' = launchWorld w runname (replayRunopts env opts pp sp) rec := by
  have h := getBaseRunopts_bind_ok h
  change (launchConfig env opts runname (replayRunopts env opts pp sp) >>= fun x =>
    match x with | (isAMatch, _) => pure isAMatch) w = (.ok m, w') at h
  obtain ⟨⟨b, lp⟩, w₂, hl, h⟩ := bind_ok h
  obtain ⟨ex, rec, hex, hr, hres, rfl⟩ := launchConfig_ok hl
  simp only [pure_apply, Prod.mk.injEq, Except.ok.injEq] at h hres
  obtain ⟨rfl, rfl⟩ := hres
  obtain ⟨rfl, rfl⟩ := h
  rw [execOf_replayRunopts, launchStart, World.read_launch, World.read_write_of_ne _ _ hpp] at hex
  rcases hw : w.read pp with _ | ⟨r⟩ | _ | _ <;> simp [hw] at hex
  subst hex
  exact ⟨r, rec, rfl, hr, rfl, rfl⟩

theorem launchFromPreemptsToSched_frame (runname : String) (pp sp : Path) :
    Frame (· ∈ [logPath runname, stdoutPath runname, stderrPath runname, sp] ++
        (baseRunopts env opts).stackPaths)
      (launchFromPreemptsToSched env opts runname pp (some sp) : AnalyzeM R _) := by
  unfold launchFromPreemptsToSched
  refine Frame.bind_of_returns getBaseRunopts_frame (fun _ _ _ h => (getBaseRunopts_ok h).1)
    fun ro hro => ?_
  subst hro
  refine Frame.bind (Frame.mono (launchConfig_frame runname _) fun p hp => ?_) fun _ => Frame.pure _
  rwa [← replayRunopts_paths]

theorem launchSearch_ok {round : Nat} {schedSeed : UInt64} {res : Option Path}
    (h : launchSearch env opts round schedSeed w = (.ok res, w')) :
    ∃ rec, env.runtime (searchExec env opts schedSeed) = .ok rec ∧
      res = (if opts.outputMatches rec.output then some (preemptsPath (searchRunname round)) else none) ∧
      w' = launchWorld w (searchRunname round) (searchRunopts opts (baseRunopts env opts) round schedSeed) rec := by
  have h := getBaseRunopts_bind_ok h
  obtain ⟨⟨b, lp⟩, w₂, hl, h⟩ := bind_ok h
  obtain ⟨ex, rec, hex, hr, hres, rfl⟩ := launchConfig_ok hl
  simp only [pure_apply, Prod.mk.injEq, Except.ok.injEq] at h hres
  obtain ⟨rfl, rfl⟩ := hres
  obtain ⟨rfl, rfl⟩ := h
  rw [execOf_searchRunopts, Option.some.injEq] at hex
  subst hex
  exact ⟨rec, hr, rfl, rfl⟩

theorem searchRunopts_paths (round : Nat) (schedSeed : UInt64) :
    launchPaths (searchRunname round) (searchRunopts opts (baseRunopts env opts) round schedSeed) =
      runFiles (searchRunname round) ++ (baseRunopts env opts).stackPaths :=
  rfl

theorem launchSearch_frame (round : Nat) (schedSeed : UInt64) :
    Frame (· ∈ runFiles (searchRunname round) ++ (baseRunopts env opts).stackPaths)
      (launchSearch env opts round schedSeed : AnalyzeM R _) := by
  unfold launchSearch
  refine Frame.bind_of_returns getBaseRunopts_frame (fun _ _ _ h => (getBaseRunopts_ok h).1)
    fun ro hro => ?_
  subst hro
  refine Frame.bind (Frame.mono (launchConfig_frame _ _) fun p hp => ?_) fun _ => Frame.pure _
  rwa [← searchRunopts_paths]

theorem launchAndRecordPreempts_frame (runname : String) {ro : RunOpts}
    (hst : ro.stacktraceEvent = (baseRunopts env opts).stacktraceEvent) :
    Frame (· ∈ runFiles runname ++ (baseRunopts env opts).stackPaths)
      (launchAndRecordPreempts env opts runname ro : AnalyzeM R _) :=
  Frame.mono (launchConfig_frame _ _) fun p hp => by
    change p ∈ runFiles runname ++ ro.stacktraceEvent.filterMap (·.2) at hp
    rwa [hst] at hp

theorem launchForStacktraces_frame (runname : String) (schedulePath : Path) (idx : UInt64) :
    Frame (· ∈ [logPath runname, stdoutPath runname, stderrPath runname] ++
        (baseRunopts env opts).recordPreemptionsTo.toList ++
        [Path.tmp (withExtension runname "stack1"), Path.tmp (withExtension runname "stack2")])
      (launchForStacktraces env opts runname schedulePath idx : AnalyzeM R _) := by
  unfold launchForStacktraces
  refine Frame.bind_of_returns getBaseRunopts_frame (fun _ _ _ h => (getBaseRunopts_ok h).1)
    fun ro hro => ?_
  subst hro
  refine Frame.bind (Frame.mono (launchConfig_frame _ _) fun p hp => ?_) fun _ => Frame.pure _
  simpa only [launchPaths, RunOpts.outputPaths, List.append_assoc] using hp

theorem getBaseRunopts_apply (hseq : (env.parseRunArgs opts.runArgs).noSequentializeThreads = false)
    (w : World R) : getBaseRunopts env opts w = (.ok (baseRunopts env opts), w) := by
  simp [getBaseRunopts, hseq, baseRunopts]

theorem getRun1Runopts_apply (hseq : (env.parseRunArgs opts.runArgs).noSequentializeThreads = false)
    (w : World R) : getRun1Runopts env opts w = (.ok (opts.withRun1 (baseRunopts env opts)), w) := by
  rw [getRun1Runopts, bind_of_ok _ (getBaseRunopts_apply hseq w)]
  rfl

theorem getRun2Runopts_apply (hseq : (env.parseRunArgs opts.runArgs).noSequentializeThreads = false)
    (w : World R) : getRun2Runopts env opts w = (.ok (opts.withRun2 (baseRunopts env opts)), w) := by
  rw [getRun2Runopts, bind_of_ok _ (getBaseRunopts_apply hseq w)]
  rfl

theorem launchForStacktraces_eq (hseq : (env.parseRunArgs opts.runArgs).noSequentializeThreads = false)
    (runname : String) (sp : Path) (idx : UInt64) :
    let s1 := Path.tmp (withExtension runname "stack1")
    let s2 := Path.tmp (withExtension runname "stack2")
    let ro := { baseRunopts env opts with
      replayScheduleFrom := some sp, stacktraceEvent := [(idx - 1, some s1), (idx, some s2)] }
    (launchForStacktraces env opts runname sp idx : AnalyzeM R _) =
      launchConfig env opts runname ro >>= fun r => pure (r.1, s1, s2, ro) := by
  funext w
  rw [launchForStacktraces, bind_of_ok _ (getBaseRunopts_apply hseq w)]

theorem launchSearch_apply {round : Nat} {schedSeed : UInt64} {rec : RunRecord R}
    (hseq : (env.parseRunArgs opts.runArgs).noSequentializeThreads = false)
    (hr : env.runtime (searchExec env opts schedSeed) = .ok rec) :
    launchSearch env opts round schedSeed w =
      (.ok (if opts.outputMatches rec.output then some (preemptsPath (searchRunname round)) else none),
        launchWorld w (searchRunname round) (searchRunopts opts (baseRunopts env opts) round schedSeed)
          rec) := by
  rw [launchSearch, bind_of_ok _ (getBaseRunopts_apply hseq w),
    bind_of_ok _ (launchConfig_apply (execOf_searchRunopts _ _ _) hr)]
  rfl

theorem launchSearch_error {round : Nat} {schedSeed : UInt64} {e : String}
    (hseq : (env.parseRunArgs opts.runArgs).noSequentializeThreads = false)
    (hr : env.runtime (searchExec env opts schedSeed) = .error e) :
    launchSearch env opts round schedSeed w =
      (.error (.error e),
        launchStart w (searchRunname round) (searchRunopts opts (baseRunopts env opts) round schedSeed)) := by
  rw [launchSearch, bind_of_ok _ (getBaseRunopts_apply hseq w),
    bind_of_error _ (launchConfig_error (execOf_searchRunopts _ _ _) hr)]

theorem launchFromPreemptsToSched_apply {runname : String} {pp sp : Path} {r : R} {rec : RunRecord R}
    (hseq : (env.parseRunArgs opts.runArgs).noSequentializeThreads = false)
    (hpp : pp ≠ logPath runname) (hr : w.read pp = some (.record r))
    (hrun : env.runtime (replayExec env opts r) = .ok rec) :
    launchFromPreemptsToSched env opts runname pp (some sp) w =
      (.ok (opts.outputMatches rec.output), launchWorld w runname (replayRunopts env opts pp sp) rec) := by
  have hex : execOf (replayRunopts env opts pp sp) (launchStart w runname (replayRunopts env opts pp sp)) =
      some (replayExec env opts r) := by
    rw [execOf_replayRunopts, launchStart, World.read_launch, World.read_write_of_ne _ _ hpp, hr]
  rw [launchFromPreemptsToSched, bind_of_ok _ (getBaseRunopts_apply hseq w)]
  exact bind_of_ok _ (launchConfig_apply hex hrun)

theorem replayMatches_of_runtime {r : R} {rec : RunRecord R}
    (h : env.runtime (replayExec env opts r) = .ok rec) :
    replayMatches env opts r = opts.outputMatches rec.output := by
  simp [replayMatches, execMatches, h]

theorem getBaseRunopts_terminates : Terminates (getBaseRunopts env opts : AnalyzeM R _) := by
  unfold getBaseRunopts
  exact Terminates.ite (Terminates.bail _) (Terminates.pure _)

theorem launchConfig_terminates (runname : String) (ro : RunOpts) :
    Terminates (launchConfig env opts runname ro) := by
  unfold launchConfig runVerify
  refine Terminates.bind (Terminates.writeFile _ _) fun _ => ?_
  refine Terminates.bind (Terminates.bind (Terminates.recordLaunch _ _) fun _ =>
    Terminates.bind (Terminates.gets _) fun ex => ?_) fun _ => ?_
  · rcases ex with _ | ex
    · exact Terminates.bail _
    · dsimp only
      rcases env.runtime ex with e | rec
      · exact Terminates.bail _
      · exact Terminates.bind (Terminates.writeFile _ _) fun _ =>
          Terminates.bind (Terminates.writeAll _) fun _ => Terminates.pure _
  · exact Terminates.bind (Terminates.writeFile _ _) fun _ =>
      Terminates.bind (Terminates.writeFile _ _) fun _ => Terminates.pure _

theorem launchFromPreemptsToSched_terminates (runname : String) (pp : Path) (sp : Option Path) :
    Terminates (launchFromPreemptsToSched env opts runname pp sp : AnalyzeM R _) := by
  unfold launchFromPreemptsToSched
  exact Terminates.bind getBaseRunopts_terminates fun _ =>
    Terminates.bind (launchConfig_terminates _ _) fun _ => Terminates.pure _

end Hermit.Analyze
