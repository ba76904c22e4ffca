import HermitAnalyze.Search
import HermitAnalyze.Replay
import HermitAnalyze.Baseline

/-!
# The endpoints of the bisection

What `main` hands to phase 5. The target is always the schedule of a replay that matched: the driver
re-records it from the record phase 4 returns, which is the normalized record or a knockout of it that
still matched. The baseline is checked only in the minimize branch, where it is the schedule of the
next knockout, whose replay did not match; without `minimize` it is recorded from the emptied record
whatever that replay's verdict.
-/

namespace Hermit.Analyze

open AnalyzeM

section

variable {R : Type} [DecidableEq R] (env : Env R) (opts : AnalyzeOpts)

/-- Modelled from the spec: `detcore::preemptions::read_trace`, the schedule a recorded file holds. -/
def readTrace (p : Path) : AnalyzeM R (List SchedEvent) := do
  let pr ← loadRecord p
  pure (env.ops.schedEvents pr)

/-- `AnalyzeOpts::main` up to its call of `phase5_bisect_traces`: the target and the baseline it
passes there. -/
def mainEstablishEndpoints (fuel : Nat) : AnalyzeM R (List SchedEvent × List SchedEvent) := do
  (if opts.run1Schedule.isSome then todo else pure () : AnalyzeM R Unit)
  (if opts.run2Schedule.isSome then todo else pure () : AnalyzeM R Unit)
  let (run1LogPath, preemptsPath) ← inStep .phase1 (phase1EstablishTargetRun env opts fuel)
  let (minPreempts, minPreemptsPath, maybeMinLog) ←
    inStep .phase2 (phase2Minimize env opts preemptsPath)
  let minLogPath := maybeMinLog.getD run1LogPath
  inStep .phase3 (phase3StrictPreemptReplayCheck env opts minLogPath minPreemptsPath)
  let normalizedPreempts := env.ops.preemptionsOnly (env.ops.normalize minPreempts)
  let normalizedPreemptsPath := Path.tmp "final.preempts"
  inStep .finalPreempts (writeFile normalizedPreemptsPath (.record normalizedPreempts))
  let targetSchedEventsPath := Path.tmp "first_matching.events"
  inStep .targetEndpoint
    (saveFinalTargetSchedEvents env opts normalizedPreemptsPath targetSchedEventsPath)
  let (finalPr, nonMatchingSchedEventsPath) ←
    inStep .phase4 (phase4ChooseBaselineSchedEvents env opts fuel normalizedPreempts)
  inStep .baselineEndpoint (saveFinalBaselineSchedEvents env opts finalPr targetSchedEventsPath)
  let target ← readTrace env targetSchedEventsPath
  let baseline ← readTrace env nonMatchingSchedEventsPath
  pure (target, baseline)

end

variable {R : Type} {env : Env R} {opts : AnalyzeOpts} {w w' : World R}

theorem readTrace_ok {p : Path} {t : List SchedEvent} (h : readTrace env p w = (.ok t, w')) :
    ∃ r, w.read p = some (.record r) ∧ t = env.ops.schedEvents r ∧ w' = w := by
  obtain ⟨r, w₁, hl, h1⟩ := bind_ok h
  obtain ⟨hr, rfl⟩ := loadRecord_ok hl
  simp only [pure_apply, Prod.mk.injEq, Except.ok.injEq] at h1
  exact ⟨r, hr, h1.1.symm, h1.2.symm⟩

theorem readTrace_apply {p : Path} {r : R} (h : w.read p = some (.record r)) :
    readTrace env p w = (.ok (env.ops.schedEvents r), w) := by
  rw [readTrace, bind_of_ok _ (loadRecord_apply h)]
  rfl

theorem final_not_mem_phase4Paths : Path.tmp "final.preempts" ∉ phase4Paths env opts := by
  simp only [phase4Paths, nearbyPaths, List.mem_append, List.mem_map, Option.mem_toList, not_or]
  exact ⟨⟨⟨by decide, by decide⟩, fun ⟨_, _, h⟩ => Path.noConfusion h⟩, tmp_not_mem_stackPaths rfl _⟩

variable [DecidableEq R]

/-- What `main` has established when it reaches phase 5: `final.preempts` holds the normalized record
`np`, whose replay matched; phase 4, run on it, returned a record `pr'` and `run2_baseline.preempts`;
the target is the schedule the driver recorded into `first_matching.events` by replaying `pr'`, and
the baseline is what phase 4 left in `run2_baseline.preempts`. -/
theorem mainEstablishEndpoints_ok {fuel : Nat} {target baseline : List SchedEvent}
    (h : mainEstablishEndpoints env opts fuel w = (.ok (target, baseline), w')) :
    ∃ np pr' w₄ w₅, w'.read (.tmp "final.preempts") = some (.record np) ∧
      replayMatches env opts np = true ∧
      phase4ChooseBaselineSchedEvents env opts fuel np w₄ =
        (.ok (pr', preemptsPath "run2_baseline"), w₅) ∧
      (∃ rec, env.runtime (replayExec env opts pr') = .ok rec ∧
        w'.read (.tmp "first_matching.events") = some (.record rec.recording) ∧
        target = env.ops.schedEvents rec.recording) ∧
      ∃ rb, w₅.read (preemptsPath "run2_baseline") = some (.record rb) ∧
        w'.read (preemptsPath "run2_baseline") = some (.record rb) ∧
        baseline = env.ops.schedEvents rb := by
  unfold mainEstablishEndpoints at h
  obtain ⟨_, w₁, -, h1⟩ := bind_ok h
  obtain ⟨_, w₂, -, h2⟩ := bind_ok h1
  obtain ⟨⟨run1Log, pp⟩, w₃, -, h3⟩ := bind_ok h2
  obtain ⟨⟨mp, mpp, mml⟩, w₄, -, h4⟩ := bind_ok h3
  obtain ⟨_, w₅, -, h5⟩ := bind_ok h4
  obtain ⟨_, w₆, hfin, h6⟩ := bind_ok h5
  obtain ⟨-, rfl⟩ := Prod.mk.inj hfin
  obtain ⟨_, w₇, htarget, h7⟩ := bind_ok h6
  obtain ⟨r₀, rec₀, hr₀, hrun₀, hm₀, rfl⟩ := saveFinalTargetSchedEvents_ok htarget (by decide)
  simp only [World.read_setStep, World.read_write_self, Option.some.injEq,
    Content.record.injEq] at hr₀
  subst hr₀
  obtain ⟨⟨pr', sp⟩, w₈, hp4, h8⟩ := bind_ok h7
  simp only [inStep] at hp4
  obtain ⟨rfl, -⟩ := phase4ChooseBaselineSchedEvents_target hp4
  obtain ⟨_, w₉, hbase, h9⟩ := bind_ok h8
  obtain ⟨rec, hrun, rfl⟩ := saveFinalBaselineSchedEvents_ok hbase
  clear h h1 h2 h3 h4 h5 h6 h7 h8
  obtain ⟨t, w₁₀, ht, h10⟩ := bind_ok h9
  obtain ⟨rt, hrt, rfl, rfl⟩ := readTrace_ok ht
  obtain ⟨b, w₁₁, hb, h11⟩ := bind_ok h10
  obtain ⟨rb, hrb, rfl, rfl⟩ := readTrace_ok hb
  simp only [pure_apply, Prod.mk.injEq, Except.ok.injEq] at h11
  obtain ⟨⟨rfl, rfl⟩, rfl⟩ := h11
  have hfirst : (launchWorld ((w₈.setStep .baselineEndpoint).write (.tmp "final_pass.preempts")
      (.record pr')) "verify_baseline_endpoint" (replayRunopts env opts (.tmp "final_pass.preempts")
        (.tmp "first_matching.events")) rec).read (.tmp "first_matching.events") =
      some (.record rec.recording) := launchWorld_read_recording rfl (tmp_not_mem_stackPaths rfl _) (by decide) (by decide)
  rw [hrt, Option.some.injEq, Content.record.injEq] at hfirst
  subst hfirst
  refine ⟨_, pr', _, w₈, ?_, (replayMatches_of_runtime hrun₀).trans hm₀, hp4, ⟨rec, hrun, hrt, rfl⟩,
    rb, ?_, hrb, rfl⟩
  · rw [launchWorld_read_of_not_mem (by exact not_mem_replayRunopts_paths (by decide)),
      World.read_write_of_ne _ _ (by decide), World.read_setStep,
      (phase4ChooseBaselineSchedEvents_frame fuel _).read_eq_of_run hp4 final_not_mem_phase4Paths,
      World.read_setStep, launchWorld_read_of_not_mem (by exact not_mem_replayRunopts_paths (by decide))]
    simp
  · rw [launchWorld_read_of_not_mem (by exact not_mem_replayRunopts_paths (by decide)),
      World.read_write_of_ne _ _ (by decide), World.read_setStep] at hrb
    exact hrb

omit [DecidableEq R] in
private theorem knockouts_match_upto {np : R} {k : Nat} (h0 : replayMatches env opts np = true)
    (hk : ∀ j, 0 < j → j ≤ k →
      replayMatches env opts (env.ops.withLatestPreemptRemoved^[j] np) = true) :
    ∀ j ≤ k, replayMatches env opts (env.ops.withLatestPreemptRemoved^[j] np) = true
  | 0, _ => h0
  | j + 1, hj => hk (j + 1) (Nat.succ_pos j) hj

/-- Whenever `main` reaches phase 5, its target is the schedule of a replay that matched: that of the
`k`-th knockout of the normalized record left in `final.preempts`, every knockout up to which matched
(`k = 0` outside the minimize branch). -/
theorem mainEstablishEndpoints_target_matches {fuel : Nat} {target baseline : List SchedEvent}
    (h : (mainEstablishEndpoints env opts fuel w).1 = .ok (target, baseline)) :
    ∃ np k, (mainEstablishEndpoints env opts fuel w).2.read (.tmp "final.preempts") =
        some (.record np) ∧
      (∀ j ≤ k, replayMatches env opts (env.ops.withLatestPreemptRemoved^[j] np) = true) ∧
      ∃ rec, env.runtime (replayExec env opts (env.ops.withLatestPreemptRemoved^[k] np)) = .ok rec ∧
        opts.outputMatches rec.output = true ∧ target = env.ops.schedEvents rec.recording := by
  obtain ⟨np, pr', w₄, w₅, hnp, hm₀, hp4, ⟨rec, hrun, -, ht⟩, -⟩ :=
    mainEstablishEndpoints_ok (Prod.ext h rfl)
  obtain ⟨-, k, rfl, hk⟩ := phase4ChooseBaselineSchedEvents_target hp4
  have hall := knockouts_match_upto hm₀ hk
  exact ⟨np, k, hnp, hall, rec, hrun, (replayMatches_of_runtime hrun).symm.trans (hall k le_rfl), ht⟩

/-- With `minimize` and no baseline option, `main` reaches phase 5 with the schedules of a knockout
pair: the replay of the `k`-th knockout of the normalized record matched and gave the target, which the
driver re-recorded into `first_matching.events`; the replay of the next knockout did not match and
gave the baseline, left in `run2_baseline.preempts`. -/
theorem mainEstablishEndpoints_knockout_pair {fuel : Nat} {target baseline : List SchedEvent}
    (h : (mainEstablishEndpoints env opts fuel w).1 = .ok (target, baseline))
    (hm : opts.minimize = true) (hs : opts.run2Seed = none) (hp : opts.run2Preemptions = none) :
    ∃ np k, (mainEstablishEndpoints env opts fuel w).2.read (.tmp "final.preempts") =
        some (.record np) ∧
      (∀ j ≤ k, replayMatches env opts (env.ops.withLatestPreemptRemoved^[j] np) = true) ∧
      (∃ rec, env.runtime (replayExec env opts (env.ops.withLatestPreemptRemoved^[k] np)) = .ok rec ∧
        (mainEstablishEndpoints env opts fuel w).2.read (.tmp "first_matching.events") =
          some (.record rec.recording) ∧
        target = env.ops.schedEvents rec.recording) ∧
      ∃ rec', env.runtime (replayExec env opts (env.ops.withLatestPreemptRemoved^[k + 1] np)) =
          .ok rec' ∧
        opts.outputMatches rec'.output = false ∧
        (mainEstablishEndpoints env opts fuel w).2.read (preemptsPath "run2_baseline") =
          some (.record rec'.recording) ∧
        baseline = env.ops.schedEvents rec'.recording := by
  obtain ⟨np, pr', w₄, w₅, hnp, hm₀, hp4, htarget, rb, hrb₅, hrb, hb⟩ :=
    mainEstablishEndpoints_ok (Prod.ext h rfl)
  obtain ⟨-, k, rfl, hk⟩ := phase4ChooseBaselineSchedEvents_target hp4
  obtain ⟨rec', hrun', hm', hrb'⟩ := phase4ChooseBaselineSchedEvents_minimize hp4 hs hp hm
  rw [hrb₅, Option.some.injEq, Content.record.injEq] at hrb'
  subst hrb'
  exact ⟨np, k, hnp, knockouts_match_upto hm₀ hk, htarget, rec',
    by rwa [Function.iterate_succ_apply'], hm', hrb, hb⟩

theorem mainEstablishEndpoints_target_matches_demo :
    (mainEstablishEndpoints knockoutEnv knockoutOpts 5 (World.init knockoutFile)).1 =
      .ok ([⟨0, 1⟩, ⟨0, 2⟩], [⟨0, 1⟩]) ∧
    ∃ np k, (mainEstablishEndpoints knockoutEnv knockoutOpts 5 (World.init knockoutFile)).2.read
        (.tmp "final.preempts") = some (.record np) ∧
      (∀ j ≤ k, replayMatches knockoutEnv knockoutOpts
        (knockoutEnv.ops.withLatestPreemptRemoved^[j] np) = true) ∧
      ∃ rec, knockoutEnv.runtime (replayExec knockoutEnv knockoutOpts
          (knockoutEnv.ops.withLatestPreemptRemoved^[k] np)) = .ok rec ∧
        knockoutOpts.outputMatches rec.output = true ∧
        [⟨0, 1⟩, ⟨0, 2⟩] = knockoutEnv.ops.schedEvents rec.recording :=
  by refine ⟨?h, mainEstablishEndpoints_target_matches ?h⟩; decide

theorem mainEstablishEndpoints_knockout_pair_demo :
    (mainEstablishEndpoints knockoutEnv knockoutOpts 5 (World.init knockoutFile)).1 =
      .ok ([⟨0, 1⟩, ⟨0, 2⟩], [⟨0, 1⟩]) ∧ knockoutOpts.minimize = true ∧
    knockoutOpts.run2Seed = none ∧ knockoutOpts.run2Preemptions = none ∧
    ∃ np k, (mainEstablishEndpoints knockoutEnv knockoutOpts 5 (World.init knockoutFile)).2.read
        (.tmp "final.preempts") = some (.record np) ∧
      (∀ j ≤ k, replayMatches knockoutEnv knockoutOpts
        (knockoutEnv.ops.withLatestPreemptRemoved^[j] np) = true) ∧
      (∃ rec, knockoutEnv.runtime (replayExec knockoutEnv knockoutOpts
          (knockoutEnv.ops.withLatestPreemptRemoved^[k] np)) = .ok rec ∧
        (mainEstablishEndpoints knockoutEnv knockoutOpts 5 (World.init knockoutFile)).2.read
          (.tmp "first_matching.events") = some (.record rec.recording) ∧
        [⟨0, 1⟩, ⟨0, 2⟩] = knockoutEnv.ops.schedEvents rec.recording) ∧
      ∃ rec', knockoutEnv.runtime (replayExec knockoutEnv knockoutOpts
          (knockoutEnv.ops.withLatestPreemptRemoved^[k + 1] np)) = .ok rec' ∧
        knockoutOpts.outputMatches rec'.output = false ∧
        (mainEstablishEndpoints knockoutEnv knockoutOpts 5 (World.init knockoutFile)).2.read
          (preemptsPath "run2_baseline") = some (.record rec'.recording) ∧
        [⟨0, 1⟩] = knockoutEnv.ops.schedEvents rec'.recording :=
  ⟨by decide, rfl, rfl, rfl, mainEstablishEndpoints_knockout_pair (by decide) rfl rfl rfl⟩

/-- Without `minimize` or a baseline option, `main` reaches phase 5 with the schedule of the replay
of the emptied normalized record as its baseline, whatever that replay's verdict. -/
theorem mainEstablishEndpoints_strip_baseline {fuel : Nat} {target baseline : List SchedEvent}
    (h : (mainEstablishEndpoints env opts fuel w).1 = .ok (target, baseline))
    (hm : opts.minimize = false) (hs : opts.run2Seed = none) (hp : opts.run2Preemptions = none) :
    ∃ np rec, (mainEstablishEndpoints env opts fuel w).2.read (.tmp "final.preempts") =
        some (.record np) ∧
      env.runtime (replayExec env opts (env.ops.stripContents np)) = .ok rec ∧
      baseline = env.ops.schedEvents rec.recording := by
  obtain ⟨np, pr', w₄, w₅, hnp, -, hp4, -, rb, hrb₅, -, hb⟩ := mainEstablishEndpoints_ok (Prod.ext h rfl)
  obtain ⟨rec, hrun, hrb⟩ := phase4ChooseBaselineSchedEvents_strip hp4 hs hp hm
  rw [hrb₅, Option.some.injEq, Content.record.injEq] at hrb
  exact ⟨np, rec, hnp, hrun, hrb ▸ hb⟩

theorem mainEstablishEndpoints_strip_baseline_demo :
    (mainEstablishEndpoints (demoEnv fun _ => true) demoOpts 3 demoWorld).1 = .ok ([⟨0, 0⟩], []) ∧
    demoOpts.minimize = false ∧ demoOpts.run2Seed = none ∧ demoOpts.run2Preemptions = none ∧
    ∃ np rec, (mainEstablishEndpoints (demoEnv fun _ => true) demoOpts 3 demoWorld).2.read
        (.tmp "final.preempts") = some (.record np) ∧
      (demoEnv fun _ => true).runtime (replayExec (demoEnv fun _ => true) demoOpts
        ((demoEnv fun _ => true).ops.stripContents np)) = .ok rec ∧
      ([] : List SchedEvent) = (demoEnv fun _ => true).ops.schedEvents rec.recording :=
  have h : (mainEstablishEndpoints (demoEnv fun _ => true) demoOpts 3 demoWorld).1 = .ok ([⟨0, 0⟩], []) := by
    decide
  ⟨h, rfl, rfl, rfl, mainEstablishEndpoints_strip_baseline h rfl rfl rfl⟩

/-- With `run2_seed`, `main` reaches phase 5 with the schedule of one run under run2's options as its
baseline, whatever that run's verdict. -/
theorem mainEstablishEndpoints_run2Seed_baseline {fuel : Nat} {target baseline : List SchedEvent}
    {s : UInt64} (h : (mainEstablishEndpoints env opts fuel w).1 = .ok (target, baseline))
    (hs : opts.run2Seed = some s) :
    ∃ rec, env.runtime (run2Exec env opts) = .ok rec ∧ baseline = env.ops.schedEvents rec.recording := by
  obtain ⟨_, _, _, _, -, -, hp4, -, rb, hrb₅, -, hb⟩ := mainEstablishEndpoints_ok (Prod.ext h rfl)
  obtain ⟨-, rec, hrun, hrb⟩ := phase4ChooseBaselineSchedEvents_run2Seed hp4 hs
  rw [hrb₅, Option.some.injEq, Content.record.injEq] at hrb
  exact ⟨rec, hrun, hrb ▸ hb⟩

theorem mainEstablishEndpoints_run2Seed_baseline_demo :
    let opts := { demoOpts with run2Seed := some 7 }
    (mainEstablishEndpoints (demoEnv fun _ => true) opts 3 demoWorld).1 = .ok ([⟨0, 0⟩], [⟨0, 0⟩]) ∧
    opts.run2Seed = some 7 ∧
    ∃ rec, (demoEnv fun _ => true).runtime (run2Exec (demoEnv fun _ => true) opts) = .ok rec ∧
      [⟨0, 0⟩] = (demoEnv fun _ => true).ops.schedEvents rec.recording := by
  intro opts
  have h : (mainEstablishEndpoints (demoEnv fun _ => true) opts 3 demoWorld).1 =
      .ok ([⟨0, 0⟩], [⟨0, 0⟩]) := by
    decide
  exact ⟨h, rfl, mainEstablishEndpoints_run2Seed_baseline h rfl⟩

/-- Every run crashes and the criterion is the crash, so no replay of the analysis fails to match;
without `minimize`, `main` still reaches phase 5, with the emptied record's schedule `[]` as its
baseline. -/
theorem mainEstablishEndpoints_matching_baseline :
    (mainEstablishEndpoints (demoEnv fun _ => true) demoOpts 3 demoWorld).1 = .ok ([⟨0, 0⟩], []) ∧
      ∀ ex, execMatches (demoEnv fun _ => true) demoOpts ex = true :=
  ⟨by decide, fun _ => rfl⟩

section Plain

variable (hseq : (env.parseRunArgs opts.runArgs).noSequentializeThreads = false)
  (h1 : opts.run1Schedule = none) (h2 : opts.run2Schedule = none) (hp1 : opts.run1Preemptions = none)
  (hsc : opts.selfcheck = false) (hmin : opts.minimize = false) (hs2 : opts.run2Seed = none)
  (hp2 : opts.run2Preemptions = none)
include hseq h1 h2 hp1 hsc hmin hs2 hp2

/-- In the plain configuration, `main` reaches phase 5 with the schedule of the replay of the
normalized record as its target and that of the emptied record as its baseline. -/
theorem mainEstablishEndpoints_apply (fuel : Nat) {rec₁ rec₂ rec₃ : RunRecord R}
    (hrun₁ : env.runtime (run1Exec env opts) = .ok rec₁) (hm₁ : opts.outputMatches rec₁.output = true)
    (hrun₂ : env.runtime (replayExec env opts
      (env.ops.preemptionsOnly (env.ops.normalize rec₁.recording))) = .ok rec₂)
    (hm₂ : opts.outputMatches rec₂.output = true)
    (hrun₃ : env.runtime (replayExec env opts
      (env.ops.stripContents (env.ops.preemptionsOnly (env.ops.normalize rec₁.recording)))) = .ok rec₃)
    (w : World R) :
    ∃ w', mainEstablishEndpoints env opts fuel w =
      (.ok (env.ops.schedEvents rec₂.recording, env.ops.schedEvents rec₃.recording), w') := by
  rw [mainEstablishEndpoints]
  simp only [h1, h2, Option.isSome_none, Bool.false_eq_true, ite_false, bind_of_ok _ (pure_apply () _)]
  rw [bind_of_ok _ ((inStep_apply _ _ _).trans (phase1EstablishTargetRun_apply hseq hp1 hrun₁ hm₁ _)),
    bind_of_ok _ ((inStep_apply _ _ _).trans (phase2Minimize_load hmin ?pre)),
    bind_of_ok _ ((inStep_apply _ _ _).trans (phase3StrictPreemptReplayCheck_skip hsc _ _ _)),
    bind_of_ok _ ((inStep_apply _ _ _).trans (writeFile_apply _ _ _)),
    bind_of_ok _ ((inStep_apply _ _ _).trans
      (saveFinalTargetSchedEvents_apply hseq (by decide) ?final hrun₂ hm₂)),
    bind_of_ok _ ((inStep_apply _ _ _).trans
      (phase4ChooseBaselineSchedEvents_strip_apply hseq hs2 hp2 hmin hrun₃)),
    bind_of_ok _ ((inStep_apply _ _ _).trans (saveFinalBaselineSchedEvents_apply hseq hrun₂)),
    bind_of_ok _ (readTrace_apply ?target), bind_of_ok _ (readTrace_apply ?baseline)]
  · exact ⟨_, rfl⟩
  case pre =>
    rw [World.read_setStep]
    exact launchWorld_read_recording rfl (tmp_not_mem_stackPaths (withRun1_stacktraceEvent _) _) (by decide) (by decide)
  case final => simp
  case target => exact launchWorld_read_recording rfl (tmp_not_mem_stackPaths rfl _) (by decide) (by decide)
  case baseline =>
    dsimp only
    rw [launchWorld_read_of_not_mem (by exact not_mem_replayRunopts_paths (by decide)),
      World.read_write_of_ne _ _ (by decide), World.read_setStep]
    exact launchWorld_read_recording rfl (tmp_not_mem_stackPaths rfl _) (by decide) (by decide)

end Plain

end Hermit.Analyze
