import HermitAnalyze.Endpoints
import HermitAnalyze.Report

/-!
# The driver

`AnalyzeOpts::main` sequences the six phases. The three loops the source leaves unbounded (the
failure search, the baseline knockouts and the bisection) take a fuel bound; running out of it is
the failure `outOfFuel`, never a result.

A run of `main` that succeeds has found, from its two endpoints, the critical schedule of the
abstract bisection, and written the report of a matching replay of its failing side. Turned around
for the plain configuration (phase 1 runs the target itself; no minimizing, no self-check and no
baseline option), `main` returns the success code as soon as the runtime runs every replay it asks
for, the target's run and the replay of its normalized record match, the abstract bisection finds a
critical schedule, and the replay of its failing side matches and prints both traces. Run arguments
that give up sequentialized threads stop it before it runs anything.
-/

namespace Hermit.Analyze

open AnalyzeM

section

variable {R : Type} [DecidableEq R] (env : Env R) (opts : AnalyzeOpts)

def main (fuel : Nat) : AnalyzeM R ExitStatus := do
  let (target, baseline) ← mainEstablishEndpoints env opts fuel
  let critSched ← phase5BisectTraces env opts fuel target baseline
  let report ← inStep .phase6 (phase6RecordOutputs env opts critSched)
  match opts.reportFile with
  | some path => inStep .report (writeFile (.user path) (.report report))
  | none => pure ()
  pure (.exited (opts.successExitCode.getD 0))

end

variable {R : Type} {env : Env R} {opts : AnalyzeOpts} {w w' : World R}

/-- A run of `main` that succeeds exits with the success code, and has: endpoints from
`mainEstablishEndpoints`, the critical schedule the abstract bisection computes from them, a replay
of its failing side that matched the criteria, and, when a report file is given, a report in it whose
two traces are the ones that replay printed at events `idx - 1` and `idx`, whenever they fired. -/
theorem main_ok [DecidableEq R] {fuel : Nat} {code : ExitStatus}
    (h : main env opts fuel w = (.ok code, w')) :
    code = .exited (opts.successExitCode.getD 0) ∧
    ∃ target baseline crit rec,
      (mainEstablishEndpoints env opts fuel w).1 = .ok (target, baseline) ∧
      bisectSpec env opts baseline target fuel [] = .ok crit ∧
      env.runtime (schedExec env opts crit.failingSchedule) = .ok rec ∧
      opts.outputMatches rec.output = true ∧
      ∀ p, opts.reportFile = some p → ∃ s1 s2,
        w'.read (.user p) = some (.report ⟨reportHeader crit.criticalEventIndex, s1, s2⟩) ∧
        (∀ s, rec.stack (crit.criticalEventIndex - 1) = some s → s1 = s) ∧
        (∀ s, rec.stack crit.criticalEventIndex = some s → s2 = s) := by
  obtain ⟨⟨target, baseline⟩, w₁, hE, h1⟩ := bind_ok h
  obtain ⟨crit, w₂, h5, h2⟩ := bind_ok h1
  have hseq : (env.parseRunArgs opts.runArgs).noSequentializeThreads = false := by
    obtain ⟨ro, _, hb, -⟩ := bind_ok h5
    exact getBaseRunopts_seq hb
  have hspec := congrArg Prod.fst (getBaseRunopts_bind_ok h5)
  rw [bisectLoop_refines] at hspec
  obtain ⟨report, w₃, h6, h3⟩ := bind_ok h2
  obtain ⟨rec, s1, s2, hr, hm, hs1, hs2, rfl⟩ :=
    phase6RecordOutputs_ok hseq (congrArg Prod.fst ((inStep_apply _ _ _).symm.trans h6))
  rcases hrf : opts.reportFile with _ | path <;> simp only [hrf] at h3 <;>
    obtain ⟨rfl, u, hw⟩ := bind_pure_ok h3
  · exact ⟨rfl, target, baseline, crit, rec, congrArg Prod.fst hE, hspec, hr, hm, fun _ hp => nomatch hp⟩
  · obtain ⟨-, rfl⟩ := Prod.mk.inj hw
    refine ⟨rfl, target, baseline, crit, rec, congrArg Prod.fst hE, hspec, hr, hm, fun p hp => ?_⟩
    obtain rfl := Option.some.inj hp
    exact ⟨s1, s2, World.read_write_self _ _ _, text_eq_of_stackAfter hs1, text_eq_of_stackAfter hs2⟩

def raceReportOpts : AnalyzeOpts := { demoOpts with reportFile := some "report.json" }

theorem main_ok_race :
    main raceEnv raceReportOpts 3 demoWorld =
      (.ok (.exited 0), (main raceEnv raceReportOpts 3 demoWorld).2) ∧
    ExitStatus.exited 0 = .exited (raceReportOpts.successExitCode.getD 0) ∧
    ∃ target baseline crit rec,
      (mainEstablishEndpoints raceEnv raceReportOpts 3 demoWorld).1 = .ok (target, baseline) ∧
      bisectSpec raceEnv raceReportOpts baseline target 3 [] = .ok crit ∧
      raceEnv.runtime (schedExec raceEnv raceReportOpts crit.failingSchedule) = .ok rec ∧
      raceReportOpts.outputMatches rec.output = true ∧
      ∀ p, raceReportOpts.reportFile = some p → ∃ s1 s2,
        (main raceEnv raceReportOpts 3 demoWorld).2.read (.user p) =
          some (.report ⟨reportHeader crit.criticalEventIndex, s1, s2⟩) ∧
        (∀ s, rec.stack (crit.criticalEventIndex - 1) = some s → s1 = s) ∧
        (∀ s, rec.stack crit.criticalEventIndex = some s → s2 = s) := by
  have h : main raceEnv raceReportOpts 3 demoWorld =
      (.ok (.exited 0), (main raceEnv raceReportOpts 3 demoWorld).2) := by
    rw [← (by decide! : (main raceEnv raceReportOpts 3 demoWorld).1 = .ok (.exited 0))]
  exact ⟨h, main_ok h⟩

/-- Run arguments that do not keep threads sequentialized stop `main` in phase 1 with the error of
`get_base_runopts`, before it writes a file or launches a run. -/
theorem main_rejects_unsequentialized [DecidableEq R] (h1 : opts.run1Schedule = none) (h2 : opts.run2Schedule = none)
    (hseq : (env.parseRunArgs opts.runArgs).noSequentializeThreads = true) (fuel : Nat) (w : World R) :
    main env opts fuel w = (.error (.error
      "Error, cannot search through executions with --no-sequentialize-threads.  Determinism required."),
      w.setStep .phase1) := by
  simp [main, mainEstablishEndpoints, h1, h2, inStep, phase1EstablishTargetRun, getRun1Runopts,
    getBaseRunopts, hseq, bail, bind_apply]

variable [DecidableEq R]

section Plain

variable (hseq : (env.parseRunArgs opts.runArgs).noSequentializeThreads = false)
  (h1 : opts.run1Schedule = none) (h2 : opts.run2Schedule = none) (hp1 : opts.run1Preemptions = none)
  (hsc : opts.selfcheck = false) (hmin : opts.minimize = false) (hs2 : opts.run2Seed = none)
  (hp2 : opts.run2Preemptions = none)
include hseq h1 h2 hp1 hsc hmin hs2 hp2

/-- In the plain configuration `main` returns the success code when the runtime runs the target and
the replays of the normalized and the emptied record, the target's run and the first replay match,
the abstract bisection between the two recorded schedules finds a critical schedule within the
fuel, and the replay of that schedule's failing side matches. -/
theorem main_returns {fuel : Nat} {rec₁ rec₂ rec₃ rec₄ : RunRecord R} {crit : CriticalSchedule} {s₁ s₂ : String}
    (hrun₁ : env.runtime (run1Exec env opts) = .ok rec₁) (hm₁ : opts.outputMatches rec₁.output = true)
    (hrun₂ : env.runtime (replayExec env opts
      (env.ops.preemptionsOnly (env.ops.normalize rec₁.recording))) = .ok rec₂)
    (hm₂ : opts.outputMatches rec₂.output = true)
    (hrun₃ : env.runtime (replayExec env opts
      (env.ops.stripContents (env.ops.preemptionsOnly (env.ops.normalize rec₁.recording)))) = .ok rec₃)
    (hcrit : bisectSpec env opts (env.ops.schedEvents rec₃.recording) (env.ops.schedEvents rec₂.recording)
      fuel [] = .ok crit)
    (hrun₄ : env.runtime (schedExec env opts crit.failingSchedule) = .ok rec₄)
    (hm₄ : opts.outputMatches rec₄.output = true)
    (hs₁ : rec₄.stack (crit.criticalEventIndex - 1) = some s₁) (hs₂ : rec₄.stack crit.criticalEventIndex = some s₂)
    (w : World R) :
    (main env opts fuel w).1 = .ok (.exited (opts.successExitCode.getD 0)) := by
  obtain ⟨w₁, hE⟩ :=
    mainEstablishEndpoints_apply hseq h1 h2 hp1 hsc hmin hs2 hp2 fuel hrun₁ hm₁ hrun₂ hm₂ hrun₃ w
  obtain ⟨w₂, h5⟩ : ∃ w₂, phase5BisectTraces env opts fuel (env.ops.schedEvents rec₂.recording)
      (env.ops.schedEvents rec₃.recording) w₁ = (.ok crit, w₂) :=
    ⟨_, Prod.ext (by rw [phase5BisectTraces, bind_of_ok _ (getBaseRunopts_apply hseq w₁),
      bisectLoop_refines, hcrit]) rfl⟩
  have h6 := phase6RecordOutputs_result hseq crit (w₂.setStep .phase6)
  simp only [hrun₄, hs₁, hs₂, stackAfter, hm₄, ite_true] at h6
  rw [main, bind_of_ok _ hE]
  dsimp only
  rw [bind_of_ok _ h5, bind_of_ok _ ((inStep_apply _ _ _).trans (Prod.ext h6 rfl))]
  rcases opts.reportFile with _ | path <;> rfl

end Plain

/-- The race: the target's run fails, the emptied record's replay passes, the bisector swaps the two
events, and the final replay reaches both of them. -/
theorem main_returns_race :
    (main raceEnv demoOpts 3 demoWorld).1 = .ok (.exited (demoOpts.successExitCode.getD 0)) :=
  @main_returns _ raceEnv demoOpts _ rfl rfl rfl rfl rfl rfl rfl rfl 3 _ _ _ _ _ _ _
    rfl rfl rfl rfl rfl rfl rfl rfl rfl rfl demoWorld

end Hermit.Analyze
