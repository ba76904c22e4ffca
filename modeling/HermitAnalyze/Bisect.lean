import HermitAnalyze.Demo

/-!
# Phase 5: the bisection and its abstract search

`search_for_critical_schedule` is a parameter (`Bisector`); what this source adds is `test_fn`, which
writes each schedule the bisector asks about to a file of its own, has the runtime replay that file
and answers from the run's verdict. The loop driving the two computes what the bisector computes when
it asks the runtime directly (`bisectSpec`): the workspace, the probes' run names and the files in
between change nothing of the outcome.
-/

namespace Hermit.Analyze

open AnalyzeM

section

variable {R : Type} [DecidableEq R] (env : Env R) (opts : AnalyzeOpts)

def bisectRunname (i : Nat) : String := "bisect_round_" ++ toString i

/-- `test_fn` of `phase5_bisect_traces`, as its `i`-th call: replay `sched` and answer whether it
is a baseline (non-matching) run. -/
def testFn (baseOpts : RunOpts) (i : Nat) (sched : List SchedEvent) :
    AnalyzeM R (Bool × List SchedEvent) := do
  let runname := bisectRunname i
  let schedPath := Path.tmp (runname ++ ".events")
  writeFile schedPath (.record (env.ops.fromSchedEvents sched))
  let runopts := { baseOpts with replayScheduleFrom := some schedPath }
  let (isMatch, _) ← expect "Run failure" (launchConfig env opts runname runopts)
  pure (!isMatch, sched)

def bisectLoop (baseOpts : RunOpts) (baseline target : List SchedEvent) :
    Nat → Nat → List (Bool × List SchedEvent) → AnalyzeM R CriticalSchedule
  | 0, _, _ => fail .outOfFuel
  | fuel + 1, i, answers =>
    match env.bisector.next baseline target answers with
    | .inr crit => pure crit
    | .inl sched => do
      let ans ← inStep (.probe (i + 1)) (testFn env opts baseOpts (i + 1) sched)
      bisectLoop baseOpts baseline target fuel (i + 1) (ans :: answers)

def phase5BisectTraces (fuel : Nat) (target baseline : List SchedEvent) :
    AnalyzeM R CriticalSchedule := do
  let baseOpts ← getBaseRunopts env opts
  bisectLoop env opts baseOpts baseline target fuel 0 []

end

variable {R : Type} (env : Env R) (opts : AnalyzeOpts)

def schedExec (sched : List SchedEvent) : Exec R :=
  let b := baseRunopts env opts
  ⟨b.seed, b.schedSeed, b.chaos, b.impreciseTimers, none, some (env.ops.fromSchedEvents sched)⟩

/-- The runtime's verdict on `sched` as `test_fn` reports it: whether the replay is a baseline run, one
that does not match the criteria; none when the runtime cannot run it. -/
def probeVerdict (sched : List SchedEvent) : Option Bool :=
  match env.runtime (schedExec env opts sched) with
  | .ok rec => some (!opts.outputMatches rec.output)
  | .error _ => none

/-- The bisection in the abstract: the bisector asks the runtime directly, and a schedule the runtime
cannot run stops the search as the panic of `test_fn`'s `expect` does. -/
def bisectSpec (baseline target : List SchedEvent) :
    Nat → List (Bool × List SchedEvent) → Except Failure CriticalSchedule
  | 0, _ => .error .outOfFuel
  | fuel + 1, answers =>
    match env.bisector.next baseline target answers with
    | .inr crit => .ok crit
    | .inl sched =>
      match probeVerdict env opts sched with
      | some b => bisectSpec baseline target fuel ((b, sched) :: answers)
      | none => .error (.panic "Run failure")

variable {env opts}

theorem probeSchedPath_eq (i : Nat) :
    Path.tmp (bisectRunname i ++ ".events") = .tmp (withExtension (bisectRunname i) "events") := by
  rw [withExtension, String.append_assoc]
  rfl

variable (env opts) in
theorem execOf_probe (i : Nat) (sched : List SchedEvent) (w : World R) :
    let sp := Path.tmp (bisectRunname i ++ ".events")
    let ro := { baseRunopts env opts with replayScheduleFrom := some sp }
    execOf ro (launchStart (w.write sp (.record (env.ops.fromSchedEvents sched))) (bisectRunname i) ro) =
      some (schedExec env opts sched) := by
  have hsp : logPath (bisectRunname i) ≠ .tmp (bisectRunname i ++ ".events") := by
    rw [probeSchedPath_eq]
    exact tmp_withExtension_ne (by decide)
  simp [execOf, replayInput, launchStart, schedExec, hsp.symm]

variable (env opts) in
/-- One probe: `test_fn` answers with the runtime's verdict on the schedule it is given, and panics
when the runtime cannot run it. -/
theorem testFn_run (i : Nat) (sched : List SchedEvent) (w : World R) :
    ∃ w', testFn env opts (baseRunopts env opts) i sched w =
      (match probeVerdict env opts sched with
        | some b => .ok (b, sched)
        | none => .error (.panic "Run failure"), w') := by
  rw [testFn, bind_of_ok _ (writeFile_apply _ _ _)]
  dsimp only
  rw [expect]
  unfold probeVerdict
  rcases hr : env.runtime (schedExec env opts sched) with e | rec
  · rw [bind_of_error _ (unwrapWith_of_error _ (launchConfig_error (execOf_probe env opts i sched w) hr))]
    exact ⟨_, rfl⟩
  · rw [bind_of_ok _ (unwrapWith_of_ok _ (launchConfig_apply (execOf_probe env opts i sched w) hr))]
    exact ⟨_, rfl⟩

/-- The bisection loop ends as the abstract bisection does, from every world, probe count and list of
answers so far. -/
theorem bisectLoop_refines (baseline target : List SchedEvent) (fuel i : Nat)
    (answers : List (Bool × List SchedEvent)) (w : World R) :
    (bisectLoop env opts (baseRunopts env opts) baseline target fuel i answers w).1 =
      bisectSpec env opts baseline target fuel answers := by
  induction fuel generalizing i answers w with
  | zero => rfl
  | succ fuel ih =>
    rw [bisectLoop, bisectSpec]
    rcases env.bisector.next baseline target answers with sched | crit
    · obtain ⟨w₁, hw₁⟩ := testFn_run env opts (i + 1) sched (w.setStep (.probe (i + 1)))
      replace hw₁ := (inStep_apply (.probe (i + 1)) _ w).trans hw₁
      dsimp only
      rcases hv : probeVerdict env opts sched with _ | b <;> rw [hv] at hw₁
      · rw [bind_of_error _ hw₁]
      · rw [bind_of_ok _ hw₁, ih]
    · rfl

/-- Phase 5, under run arguments that keep threads sequentialized, ends as the abstract bisection from
the two endpoints and no answers: the critical schedule it returns is the one the bisector computes
from the runtime's verdicts on the schedules it asks about. -/
theorem phase5BisectTraces_refines
    (hseq : (env.parseRunArgs opts.runArgs).noSequentializeThreads = false) (fuel : Nat)
    (target baseline : List SchedEvent) (w : World R) :
    (phase5BisectTraces env opts fuel target baseline w).1 = bisectSpec env opts baseline target fuel [] := by
  rw [phase5BisectTraces, bind_of_ok _ (getBaseRunopts_apply hseq w)]
  exact bisectLoop_refines _ _ _ _ _ _

theorem phase5BisectTraces_refines_demo :
    ((demoEnv fun _ => true).parseRunArgs demoOpts.runArgs).noSequentializeThreads = false ∧
    (phase5BisectTraces (demoEnv fun _ => true) demoOpts 3 [⟨0, 1⟩] [] demoWorld).1 =
      bisectSpec (demoEnv fun _ => true) demoOpts [] [⟨0, 1⟩] 3 [] :=
  ⟨rfl, phase5BisectTraces_refines rfl 3 [⟨0, 1⟩] [] demoWorld⟩

example : bisectSpec (demoEnv fun _ => true) demoOpts [] [⟨0, 1⟩] 3 [] = .ok ⟨[⟨0, 1⟩], [⟨0, 1⟩], 1⟩ := by
  decide

/-! ### What phase 5 writes -/

def probeFiles (i : Nat) : List Path :=
  [.tmp (bisectRunname i ++ ".events"), logPath (bisectRunname i), stdoutPath (bisectRunname i),
    stderrPath (bisectRunname i)]

theorem testFn_frame (baseOpts : RunOpts) (i : Nat) (sched : List SchedEvent) :
    Frame (· ∈ probeFiles i ++ baseOpts.outputPaths) (testFn env opts baseOpts i sched) :=
  Frame.bind (Frame.writeFile (List.mem_cons_self _ _)) fun _ =>
    Frame.bind (Frame.unwrapWith (Frame.mono (launchConfig_frame _ _) fun _ hp =>
      List.mem_cons_of_mem _ hp)) fun ⟨_, _⟩ => Frame.pure _

/-- The bisection writes only what its probes write, each under its own probe's tag. -/
theorem bisectLoop_tagged (baseOpts : RunOpts) (baseline target : List SchedEvent) (fuel i : Nat)
    (answers : List (Bool × List SchedEvent)) :
    Tagged (fun st p => ∃ k, st = .probe k ∧ p ∈ probeFiles k ++ baseOpts.outputPaths)
      (bisectLoop env opts baseOpts baseline target fuel i answers) := by
  induction fuel generalizing i answers with
  | zero => exact Tagged.of_frame_false (Frame.fail _)
  | succ fuel ih =>
    rw [bisectLoop]
    split
    · exact Tagged.pure _
    · exact Tagged.bind (Tagged.mono (Tagged.inStep _ (testFn_frame _ _ _))
        fun _ _ ⟨hst, hp⟩ => ⟨_, hst, hp⟩) fun _ => ih _ _

theorem phase5BisectTraces_tagged (fuel : Nat) (target baseline : List SchedEvent) :
    Tagged (fun st p => ∃ k, st = .probe k ∧ p ∈ probeFiles k ++ (baseRunopts env opts).outputPaths)
      (phase5BisectTraces env opts fuel target baseline) :=
  Tagged.bind_of_returns (Tagged.of_frame_false getBaseRunopts_frame)
    (fun _ _ _ h => (getBaseRunopts_ok h).1) fun _ hro => hro ▸ bisectLoop_tagged _ _ _ _ _ _

end Hermit.Analyze
