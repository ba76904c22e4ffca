import HermitAnalyze.Demo

/-!
# Phase 4: the baseline endpoint

The three ways of choosing the baseline and the two endpoint recordings. The knockout loop carries
a record whose replays all matched and stops at the first knockout that does not match; it has no
bound of its own, and stops within `n + 1` knockouts only when knockouts shrink a measure `n` and the
knockout of a record of measure `0` cannot match.
-/

namespace Hermit.Analyze

open AnalyzeM

section

variable {R : Type} [DecidableEq R] (env : Env R) (opts : AnalyzeOpts)

def saveFinalBaselineSchedEvents (finalPreempts : R) (schedEventsPath : Path) : AnalyzeM R Unit := do
  let finalPreemptsPath := Path.tmp "final_pass.preempts"
  writeFile finalPreemptsPath (.record finalPreempts)
  let _ ← unwrap (launchFromPreemptsToSched env opts "verify_baseline_endpoint" finalPreemptsPath
    (some schedEventsPath))
  pure ()

def saveFinalTargetSchedEvents (finalPreemptsPath schedEventsPath : Path) : AnalyzeM R Unit := do
  let m ← unwrap (launchFromPreemptsToSched env opts "verify_target_endpoint" finalPreemptsPath
    (some schedEventsPath))
  if !m then bail "Final preemption record still does not match target criteria" else pure ()

def saveNearbyNonMatchingSchedEvents (matchingPreempts : R) (schedEventsPath : Path) :
    AnalyzeM R (Option R) :=
  let nonMatchingPreempts := env.ops.withLatestPreemptRemoved matchingPreempts
  match env.ops.validate nonMatchingPreempts with
  | .error e =>
    bail ("Hermit analyzer produced corrupt nearby non-matching preemption record, cannot " ++
      "proceed.\nError: " ++ e ++ "\n\nCorrupt record: " ++ env.ops.display nonMatchingPreempts)
  | .ok () => do
    let runname := "baseline_nearby_non_matching"
    let nonMatchingPreemptsPath := preemptsPath runname
    writeFile nonMatchingPreemptsPath (.record nonMatchingPreempts)
    if ← unwrap (launchFromPreemptsToSched env opts runname nonMatchingPreemptsPath
        (some schedEventsPath)) then
      pure (some nonMatchingPreempts)
    else pure none

/-- The knockout loop of `phase4_choose_baseline_sched_events`'s minimize branch. -/
def knockoutLoop (schedPath : Path) : Nat → R → AnalyzeM R (R × Path)
  | 0, _ => fail .outOfFuel
  | fuel + 1, pr => do
    match ← saveNearbyNonMatchingSchedEvents env opts pr schedPath with
    | some stillMatchingPr => knockoutLoop schedPath fuel stillMatchingPr
    | none => pure (pr, schedPath)

def phase4ChooseBaselineSchedEvents (fuel : Nat) (matchingPr : R) : AnalyzeM R (R × Path) := do
  let run2Opts ← getRun2Runopts env opts
  let runname := "run2_baseline"
  let schedPath := preemptsPath runname
  if opts.run2Seed.isSome then do
    let _ ← unwrap (launchAndRecordPreempts env opts runname run2Opts)
    pure (matchingPr, schedPath)
  else
    match opts.run2Preemptions with
    | some path => do
      let pr ← loadRecord (.user path)
      saveFinalBaselineSchedEvents env opts pr (.user path)
      pure (matchingPr, schedPath)
    | none =>
      if opts.minimize then knockoutLoop env opts schedPath fuel matchingPr
      else do
        let emptyPr := env.ops.stripContents matchingPr
        saveFinalBaselineSchedEvents env opts emptyPr schedPath
        pure (matchingPr, schedPath)

end

variable {R : Type} {env : Env R} {opts : AnalyzeOpts} {w w' : World R}

/-! ### The endpoint recordings -/

theorem saveFinalBaselineSchedEvents_ok {pr : R} {sp : Path}
    (h : saveFinalBaselineSchedEvents env opts pr sp w = (.ok (), w')) :
    ∃ rec, env.runtime (replayExec env opts pr) = .ok rec ∧
      w' = launchWorld (w.write (.tmp "final_pass.preempts") (.record pr)) "verify_baseline_endpoint"
        (replayRunopts env opts (.tmp "final_pass.preempts") sp) rec := by
  obtain ⟨_, w₁, hw, h⟩ := bind_ok h
  obtain ⟨-, rfl⟩ := Prod.mk.inj hw
  obtain ⟨m, w₂, hl, h⟩ := bind_ok h
  obtain ⟨r, rec, hr, hrun, -, rfl⟩ := launchFromPreemptsToSched_ok (ok_of_unwrapWith hl) (by decide)
  simp only [World.read_write_self, Option.some.injEq, Content.record.injEq] at hr
  subst hr
  exact ⟨rec, hrun, (Prod.mk.inj h).2.symm⟩

theorem saveFinalBaselineSchedEvents_apply {pr : R} {sp : Path} {rec : RunRecord R}
    (hseq : (env.parseRunArgs opts.runArgs).noSequentializeThreads = false)
    (hrun : env.runtime (replayExec env opts pr) = .ok rec) :
    saveFinalBaselineSchedEvents env opts pr sp w =
      (.ok (), launchWorld (w.write (.tmp "final_pass.preempts") (.record pr)) "verify_baseline_endpoint"
        (replayRunopts env opts (.tmp "final_pass.preempts") sp) rec) := by
  rw [saveFinalBaselineSchedEvents, bind_of_ok _ (writeFile_apply _ _ _), unwrap,
    bind_of_ok _ (unwrapWith_of_ok _
      (launchFromPreemptsToSched_apply hseq (by decide) (World.read_write_self _ _ _) hrun))]
  rfl

theorem saveFinalTargetSchedEvents_ok {pp sp : Path}
    (h : saveFinalTargetSchedEvents env opts pp sp w = (.ok (), w'))
    (hpp : pp ≠ logPath "verify_target_endpoint") :
    ∃ r rec, w.read pp = some (.record r) ∧ env.runtime (replayExec env opts r) = .ok rec ∧
      opts.outputMatches rec.output = true ∧
      w' = launchWorld w "verify_target_endpoint" (replayRunopts env opts pp sp) rec := by
  obtain ⟨m, w₁, hl, h⟩ := bind_ok h
  obtain ⟨r, rec, hr, hrun, rfl, rfl⟩ := launchFromPreemptsToSched_ok (ok_of_unwrapWith hl) hpp
  cases hm : opts.outputMatches rec.output
  · simp [hm, bail] at h
  · simp only [hm, Bool.not_true, Bool.false_eq_true, ite_false, pure_apply, Prod.mk.injEq] at h
    exact ⟨r, rec, hr, hrun, hm, h.2.symm⟩

theorem saveFinalTargetSchedEvents_apply {pp sp : Path} {r : R} {rec : RunRecord R}
    (hseq : (env.parseRunArgs opts.runArgs).noSequentializeThreads = false)
    (hpp : pp ≠ logPath "verify_target_endpoint") (hr : w.read pp = some (.record r))
    (hrun : env.runtime (replayExec env opts r) = .ok rec) (hm : opts.outputMatches rec.output = true) :
    saveFinalTargetSchedEvents env opts pp sp w =
      (.ok (), launchWorld w "verify_target_endpoint" (replayRunopts env opts pp sp) rec) := by
  rw [saveFinalTargetSchedEvents, unwrap,
    bind_of_ok _ (unwrapWith_of_ok _ (launchFromPreemptsToSched_apply hseq hpp hr hrun))]
  simp [hm]

theorem saveNearbyNonMatchingSchedEvents_ok {pr : R} {sp : Path} {res : Option R}
    (h : saveNearbyNonMatchingSchedEvents env opts pr sp w = (.ok res, w')) :
    env.ops.validate (env.ops.withLatestPreemptRemoved pr) = .ok () ∧
    ∃ rec, env.runtime (replayExec env opts (env.ops.withLatestPreemptRemoved pr)) = .ok rec ∧
      res = (if opts.outputMatches rec.output then some (env.ops.withLatestPreemptRemoved pr)
        else none) ∧
      w' = launchWorld (w.write (preemptsPath "baseline_nearby_non_matching")
          (.record (env.ops.withLatestPreemptRemoved pr))) "baseline_nearby_non_matching"
        (replayRunopts env opts (preemptsPath "baseline_nearby_non_matching") sp) rec := by
  unfold saveNearbyNonMatchingSchedEvents at h
  rcases hv : env.ops.validate (env.ops.withLatestPreemptRemoved pr) with e | ⟨⟩
  · simp [hv, bail] at h
  · simp only [hv] at h
    obtain ⟨_, w₁, hw, h⟩ := bind_ok h
    obtain ⟨-, rfl⟩ := Prod.mk.inj hw
    obtain ⟨m, w₂, hl, h⟩ := bind_ok h
    obtain ⟨r, rec, hr, hrun, rfl, rfl⟩ := launchFromPreemptsToSched_ok (ok_of_unwrapWith hl) (by simp)
    simp only [World.read_write_self, Option.some.injEq, Content.record.injEq] at hr
    subst hr
    refine ⟨rfl, rec, hrun, ?_⟩
    cases hm : opts.outputMatches rec.output <;>
      simpa [hm, Eq.comm] using h

theorem saveNearbyNonMatchingSchedEvents_apply {pr : R} {sp : Path} {rec : RunRecord R}
    (hseq : (env.parseRunArgs opts.runArgs).noSequentializeThreads = false)
    (hv : env.ops.validate (env.ops.withLatestPreemptRemoved pr) = .ok ())
    (hrun : env.runtime (replayExec env opts (env.ops.withLatestPreemptRemoved pr)) = .ok rec) :
    saveNearbyNonMatchingSchedEvents env opts pr sp w =
      (.ok (if opts.outputMatches rec.output then some (env.ops.withLatestPreemptRemoved pr) else none),
        launchWorld (w.write (preemptsPath "baseline_nearby_non_matching")
            (.record (env.ops.withLatestPreemptRemoved pr))) "baseline_nearby_non_matching"
          (replayRunopts env opts (preemptsPath "baseline_nearby_non_matching") sp) rec) := by
  unfold saveNearbyNonMatchingSchedEvents
  simp only [hv]
  rw [bind_of_ok _ (writeFile_apply _ _ _), unwrap, bind_of_ok _ (unwrapWith_of_ok _
    (launchFromPreemptsToSched_apply hseq (by simp) (World.read_write_self _ _ _) hrun))]
  cases opts.outputMatches rec.output <;> rfl

/-! ### The knockout loop -/

/-- The knockout loop, if it returns, returned the `k`-th knockout of the record it started from:
every knockout up to it was replayed and matched, the next one did not, and `sp` holds the schedule
recorded by that last replay. -/
theorem knockoutLoop_ok {sp sp' : Path} {fuel : Nat} {pr pr' : R}
    (h : knockoutLoop env opts sp fuel pr w = (.ok (pr', sp'), w'))
    (hsp : sp ≠ stdoutPath "baseline_nearby_non_matching" ∧
      sp ≠ stderrPath "baseline_nearby_non_matching") (hst : sp ∉ (baseRunopts env opts).stackPaths) :
    sp' = sp ∧ ∃ k, pr' = env.ops.withLatestPreemptRemoved^[k] pr ∧
      (∀ j, 0 < j → j ≤ k →
        replayMatches env opts (env.ops.withLatestPreemptRemoved^[j] pr) = true) ∧
      ∃ rec, env.runtime (replayExec env opts (env.ops.withLatestPreemptRemoved pr')) = .ok rec ∧
        opts.outputMatches rec.output = false ∧ w'.read sp = some (.record rec.recording) := by
  induction fuel generalizing pr w with
  | zero => simp [knockoutLoop] at h
  | succ fuel ih =>
    rw [knockoutLoop] at h
    obtain ⟨res, w₁, hs, h⟩ := bind_ok h
    obtain ⟨-, rec, hrun, rfl, rfl⟩ := saveNearbyNonMatchingSchedEvents_ok hs
    cases hm : opts.outputMatches rec.output
    · simp only [hm, Bool.false_eq_true, ite_false, pure_apply, Prod.mk.injEq] at h
      obtain ⟨⟨rfl, rfl⟩, rfl⟩ := h
      exact ⟨rfl, 0, rfl, fun j hj hjk => absurd hjk (by omega), rec, hrun, hm,
        launchWorld_read_recording rfl hst hsp.1 hsp.2⟩
    · simp only [hm, ite_true] at h
      obtain ⟨rfl, k, rfl, hk, hlast⟩ := ih h
      refine ⟨rfl, k + 1, (Function.iterate_succ_apply _ _ _).symm, fun j hj hjk => ?_, hlast⟩
      obtain ⟨i, rfl⟩ : ∃ i, j = i + 1 := ⟨j - 1, by omega⟩
      rw [Function.iterate_succ_apply]
      rcases Nat.eq_zero_or_pos i with rfl | hi
      · exact (replayMatches_of_runtime hrun).trans hm
      · exact hk i hi (by omega)

theorem saveNearbyNonMatchingSchedEvents_terminates (pr : R) (sp : Path) :
    Terminates (saveNearbyNonMatchingSchedEvents env opts pr sp) := by
  unfold saveNearbyNonMatchingSchedEvents
  dsimp only
  split
  · exact Terminates.bail _
  · exact Terminates.bind (Terminates.writeFile _ _) fun _ =>
      Terminates.bind (Terminates.unwrapWith (launchFromPreemptsToSched_terminates _ _ _)) fun _ =>
        Terminates.ite (Terminates.pure _) (Terminates.pure _)

/-- The knockout loop stops within `count r + 1` knockouts when each knockout of a record of positive
measure lowers the measure, and the knockout of a record of measure `0` fails `validate` or does not
match. -/
theorem knockoutLoop_terminates_within_count (count : R → Nat)
    (hdec : ∀ r, 0 < count r → count (env.ops.withLatestPreemptRemoved r) < count r)
    (hbase : ∀ r, count r = 0 → env.ops.validate (env.ops.withLatestPreemptRemoved r) = .ok () →
      replayMatches env opts (env.ops.withLatestPreemptRemoved r) = false)
    (sp : Path) (r : R) (w : World R) :
    (knockoutLoop env opts sp (count r + 1) r w).1 ≠ .error .outOfFuel := by
  suffices hn : ∀ n r w, count r < n → (knockoutLoop env opts sp n r w).1 ≠ .error .outOfFuel from
    hn _ r w (Nat.lt_succ_self _)
  intro n
  induction n with
  | zero => intro r w hr; omega
  | succ n ih =>
    intro r w hr
    rw [knockoutLoop]
    refine Terminates.bind_at (saveNearbyNonMatchingSchedEvents_terminates r sp) fun res w₁ hs => ?_
    obtain ⟨hv, rec, hrun, rfl, -⟩ := saveNearbyNonMatchingSchedEvents_ok hs
    cases hm : opts.outputMatches rec.output
    · simp [hm]
    · have hlt : count (env.ops.withLatestPreemptRemoved r) < n := by
        rcases Nat.eq_zero_or_pos (count r) with h0 | hpos
        · have := (replayMatches_of_runtime hrun).symm.trans (hbase r h0 hv)
          simp [hm] at this
        · exact lt_of_lt_of_le (hdec r hpos) (by omega)
      simpa [hm] using ih _ w₁ hlt

/-! ### Phase 4 -/

/-- Phase 4 returns `run2_baseline.preempts` and, as the record of the target, a knockout of the record
it was given whose replays all matched: the record itself outside the minimize branch. -/
theorem phase4ChooseBaselineSchedEvents_target {fuel : Nat} {pr pr' : R} {sp : Path}
    (h : phase4ChooseBaselineSchedEvents env opts fuel pr w = (.ok (pr', sp), w')) :
    sp = preemptsPath "run2_baseline" ∧ ∃ k, pr' = env.ops.withLatestPreemptRemoved^[k] pr ∧
      ∀ j, 0 < j → j ≤ k →
        replayMatches env opts (env.ops.withLatestPreemptRemoved^[j] pr) = true := by
  have hself : (pr', sp) = (pr, preemptsPath "run2_baseline") →
      sp = preemptsPath "run2_baseline" ∧ ∃ k, pr' = env.ops.withLatestPreemptRemoved^[k] pr ∧
        ∀ j, 0 < j → j ≤ k →
          replayMatches env opts (env.ops.withLatestPreemptRemoved^[j] pr) = true := by
    intro he
    obtain ⟨rfl, rfl⟩ := Prod.mk.inj he
    exact ⟨rfl, 0, rfl, fun j hj hjk => absurd hjk (by omega)⟩
  obtain ⟨ro, w₁, hro, h1⟩ := bind_ok h
  obtain ⟨rfl, rfl⟩ := getRun2Runopts_ok hro
  clear h hro
  dsimp only at h1
  split at h1
  · exact hself (bind_pure_ok h1).1
  · rcases hp : opts.run2Preemptions with _ | path <;> simp only [hp] at h1
    · split at h1
      · obtain ⟨rfl, k, hk, hmatch, -⟩ := knockoutLoop_ok h1 (by decide) (tmp_not_mem_stackPaths rfl _)
        exact ⟨rfl, k, hk, hmatch⟩
      · exact hself (bind_pure_ok h1).1
    · obtain ⟨_, _, -, h2⟩ := bind_ok h1
      exact hself (bind_pure_ok h2).1

theorem phase4ChooseBaselineSchedEvents_minimize {fuel : Nat} {pr pr' : R} {sp : Path}
    (h : phase4ChooseBaselineSchedEvents env opts fuel pr w = (.ok (pr', sp), w'))
    (hs : opts.run2Seed = none) (hp : opts.run2Preemptions = none) (hm : opts.minimize = true) :
    ∃ rec, env.runtime (replayExec env opts (env.ops.withLatestPreemptRemoved pr')) = .ok rec ∧
      opts.outputMatches rec.output = false ∧
      w'.read (preemptsPath "run2_baseline") = some (.record rec.recording) := by
  obtain ⟨ro, w₁, hro, h1⟩ := bind_ok h
  obtain ⟨rfl, rfl⟩ := getRun2Runopts_ok hro
  clear h hro
  simp only [hs, hp, hm, Option.isSome_none, Bool.false_eq_true, ite_false, ite_true] at h1
  obtain ⟨-, k, -, -, hlast⟩ := knockoutLoop_ok h1 (by decide) (tmp_not_mem_stackPaths rfl _)
  exact hlast

/-- Without `minimize` or a baseline option, phase 4 records as the baseline the schedule of the
replay of the emptied record, whatever that replay's verdict. -/
theorem phase4ChooseBaselineSchedEvents_strip {fuel : Nat} {pr pr' : R} {sp : Path}
    (h : phase4ChooseBaselineSchedEvents env opts fuel pr w = (.ok (pr', sp), w'))
    (hs : opts.run2Seed = none) (hp : opts.run2Preemptions = none) (hm : opts.minimize = false) :
    ∃ rec, env.runtime (replayExec env opts (env.ops.stripContents pr)) = .ok rec ∧
      w'.read (preemptsPath "run2_baseline") = some (.record rec.recording) := by
  obtain ⟨ro, w₁, hro, h1⟩ := bind_ok h
  obtain ⟨rfl, rfl⟩ := getRun2Runopts_ok hro
  clear h hro
  simp only [hs, hp, hm, Option.isSome_none, Bool.false_eq_true, ite_false] at h1
  obtain ⟨-, _, h2⟩ := bind_pure_ok h1
  obtain ⟨rec, hrun, rfl⟩ := saveFinalBaselineSchedEvents_ok h2
  exact ⟨rec, hrun, launchWorld_read_recording rfl (tmp_not_mem_stackPaths rfl _) (by decide) (by decide)⟩

theorem phase4ChooseBaselineSchedEvents_strip_apply {fuel : Nat} {pr : R} {rec : RunRecord R}
    (hseq : (env.parseRunArgs opts.runArgs).noSequentializeThreads = false)
    (hs : opts.run2Seed = none) (hp : opts.run2Preemptions = none) (hm : opts.minimize = false)
    (hrun : env.runtime (replayExec env opts (env.ops.stripContents pr)) = .ok rec) :
    phase4ChooseBaselineSchedEvents env opts fuel pr w =
      (.ok (pr, preemptsPath "run2_baseline"),
        launchWorld (w.write (.tmp "final_pass.preempts") (.record (env.ops.stripContents pr)))
          "verify_baseline_endpoint"
          (replayRunopts env opts (.tmp "final_pass.preempts") (preemptsPath "run2_baseline")) rec) := by
  rw [phase4ChooseBaselineSchedEvents, bind_of_ok _ (getRun2Runopts_apply hseq w)]
  simp only [hs, hp, hm, Option.isSome_none, Bool.false_eq_true, ite_false]
  rw [bind_of_ok _ (saveFinalBaselineSchedEvents_apply hseq hrun)]
  rfl

variable (env opts) in
def run2Exec : Exec R :=
  let ro := opts.withRun2 (baseRunopts env opts)
  ⟨ro.seed, ro.schedSeed, ro.chaos, ro.impreciseTimers, none, none⟩

/-- With `run2_seed`, phase 4 returns the record it was given and leaves in `run2_baseline.preempts`
the preemptions of one run under run2's options, whatever that run's verdict. -/
theorem phase4ChooseBaselineSchedEvents_run2Seed {fuel : Nat} {pr pr' : R} {sp : Path} {s : UInt64}
    (h : phase4ChooseBaselineSchedEvents env opts fuel pr w = (.ok (pr', sp), w'))
    (hs : opts.run2Seed = some s) :
    pr' = pr ∧ ∃ rec, env.runtime (run2Exec env opts) = .ok rec ∧
      w'.read (preemptsPath "run2_baseline") = some (.record rec.recording) := by
  obtain ⟨ro, w₁, hro, h1⟩ := bind_ok h
  obtain ⟨rfl, rfl⟩ := getRun2Runopts_ok hro
  clear h hro
  simp only [hs, Option.isSome_some, ite_true] at h1
  obtain ⟨hres, _, hl⟩ := bind_pure_ok h1
  obtain ⟨ex, rec, hex, hr, -, rfl⟩ := launchConfig_ok (ok_of_unwrapWith hl)
  have hex : ex = run2Exec env opts := by
    simp [execOf, replayInput, AnalyzeOpts.withRun2, hs] at hex
    rw [← hex, run2Exec, AnalyzeOpts.withRun2, hs]
  subst hex
  exact ⟨(Prod.mk.inj hres).1, rec, hr, launchWorld_read_recording rfl (tmp_not_mem_stackPaths (withRun2_stacktraceEvent _) _) (by decide) (by decide)⟩

/-- With `run2_preemptions`, phase 4 has the runtime record the replay of the user's file into that
same file. -/
theorem phase4ChooseBaselineSchedEvents_run2Preemptions {fuel : Nat} {pr : R} {res : R × Path}
    {p : String} (h : phase4ChooseBaselineSchedEvents env opts fuel pr w = (.ok res, w'))
    (hs : opts.run2Seed = none) (hp : opts.run2Preemptions = some p)
    (hst : .user p ∉ (baseRunopts env opts).stackPaths) :
    ∃ upr rec, w.read (.user p) = some (.record upr) ∧
      env.runtime (replayExec env opts upr) = .ok rec ∧
      w'.read (.user p) = some (.record rec.recording) := by
  obtain ⟨ro, w₁, hro, h1⟩ := bind_ok h
  obtain ⟨rfl, rfl⟩ := getRun2Runopts_ok hro
  clear h hro
  simp only [hs, hp, Option.isSome_none, Bool.false_eq_true, ite_false] at h1
  obtain ⟨upr, w₂, hl, h2⟩ := bind_ok h1
  obtain ⟨hupr, rfl⟩ := loadRecord_ok hl
  obtain ⟨-, _, h3⟩ := bind_pure_ok h2
  obtain ⟨rec, hrun, rfl⟩ := saveFinalBaselineSchedEvents_ok h3
  exact ⟨upr, rec, hupr, hrun, launchWorld_read_recording rfl hst (by simp [stdoutPath]) (by simp [stderrPath])⟩

/-! ### What phase 4 writes -/

theorem saveFinalBaselineSchedEvents_frame (pr : R) (sp : Path) :
    Frame (· ∈ [.tmp "final_pass.preempts", logPath "verify_baseline_endpoint",
        stdoutPath "verify_baseline_endpoint", stderrPath "verify_baseline_endpoint", sp] ++
        (baseRunopts env opts).stackPaths)
      (saveFinalBaselineSchedEvents env opts pr sp) :=
  Frame.bind (Frame.writeFile (List.mem_cons_self _ _)) fun _ =>
    Frame.bind (Frame.unwrapWith (Frame.mono (launchFromPreemptsToSched_frame _ _ _)
      fun _ hp => List.mem_cons_of_mem _ hp)) fun _ => Frame.pure _

theorem saveFinalTargetSchedEvents_frame (pp sp : Path) :
    Frame (· ∈ [logPath "verify_target_endpoint", stdoutPath "verify_target_endpoint",
        stderrPath "verify_target_endpoint", sp] ++ (baseRunopts env opts).stackPaths)
      (saveFinalTargetSchedEvents env opts pp sp) :=
  Frame.bind (Frame.unwrapWith (launchFromPreemptsToSched_frame _ _ _)) fun _ =>
    Frame.ite (Frame.bail _) (Frame.pure _)

def nearbyPaths (sp : Path) : List Path :=
  [preemptsPath "baseline_nearby_non_matching", logPath "baseline_nearby_non_matching",
    stdoutPath "baseline_nearby_non_matching", stderrPath "baseline_nearby_non_matching", sp]

theorem saveNearbyNonMatchingSchedEvents_frame (pr : R) (sp : Path) :
    Frame (· ∈ nearbyPaths sp ++ (baseRunopts env opts).stackPaths)
      (saveNearbyNonMatchingSchedEvents env opts pr sp) := by
  unfold saveNearbyNonMatchingSchedEvents
  dsimp only
  split
  · exact Frame.bail _
  · exact Frame.bind (Frame.writeFile (List.mem_cons_self _ _)) fun _ =>
      Frame.bind (Frame.unwrapWith (Frame.mono (launchFromPreemptsToSched_frame _ _ _)
        fun _ hp => List.mem_cons_of_mem _ hp)) fun _ => Frame.ite (Frame.pure _) (Frame.pure _)

theorem knockoutLoop_frame (sp : Path) (fuel : Nat) (pr : R) :
    Frame (· ∈ nearbyPaths sp ++ (baseRunopts env opts).stackPaths) (knockoutLoop env opts sp fuel pr) := by
  induction fuel generalizing pr with
  | zero => exact Frame.fail _
  | succ fuel ih =>
    exact Frame.bind (saveNearbyNonMatchingSchedEvents_frame _ _) fun res =>
      match res with
      | some p => ih p
      | none => Frame.pure _

/-- The files phase 4 may write: those of its launches and knockouts, the user's `run2_preemptions`
file, and the stack traces the run arguments ask for. -/
def phase4Paths (env : Env R) (opts : AnalyzeOpts) : List Path :=
  [logPath "run2_baseline", stdoutPath "run2_baseline", stderrPath "run2_baseline",
    preemptsPath "run2_baseline", .tmp "final_pass.preempts", logPath "verify_baseline_endpoint",
    stdoutPath "verify_baseline_endpoint", stderrPath "verify_baseline_endpoint"] ++
    nearbyPaths (preemptsPath "run2_baseline") ++ opts.run2Preemptions.toList.map .user ++
    (baseRunopts env opts).stackPaths

theorem mem_phase4Paths_of {l : List Path} (hl : ∀ p ∈ l, p ∈ phase4Paths env opts) {p : Path}
    (hp : p ∈ l ++ (baseRunopts env opts).stackPaths) : p ∈ phase4Paths env opts :=
  (List.mem_append.mp hp).elim (hl p) (List.mem_append_right _)

theorem phase4ChooseBaselineSchedEvents_frame (fuel : Nat) (pr : R) :
    Frame (· ∈ phase4Paths env opts) (phase4ChooseBaselineSchedEvents env opts fuel pr) := by
  have hfixed : ∀ l : List Path, (∀ p ∈ l, p ∈ [logPath "run2_baseline", stdoutPath "run2_baseline",
      stderrPath "run2_baseline", preemptsPath "run2_baseline", .tmp "final_pass.preempts",
      logPath "verify_baseline_endpoint", stdoutPath "verify_baseline_endpoint",
      stderrPath "verify_baseline_endpoint"]) → ∀ p ∈ l, p ∈ phase4Paths env opts :=
    fun _ hl p hp => List.mem_append_left _ (List.mem_append_left _ (List.mem_append_left _ (hl p hp)))
  unfold phase4ChooseBaselineSchedEvents getRun2Runopts
  refine Frame.bind_of_returns (Frame.bind getBaseRunopts_frame fun _ => Frame.pure _)
    (fun _ _ _ h => (getRun2Runopts_ok h).1) fun ro hro => ?_
  subst hro
  dsimp only
  split
  · exact Frame.bind (Frame.unwrapWith (Frame.mono
      (launchAndRecordPreempts_frame _ (withRun2_stacktraceEvent _))
      fun _ => mem_phase4Paths_of (hfixed _ (by decide)))) fun _ => Frame.pure _
  · rcases hu : opts.run2Preemptions with _ | path
    · dsimp only
      split
      · exact Frame.mono (knockoutLoop_frame _ _ _) fun _ => mem_phase4Paths_of fun _ hp =>
          List.mem_append_left _ (List.mem_append_left _ (List.mem_append_right _ hp))
      · exact Frame.bind (Frame.mono (saveFinalBaselineSchedEvents_frame _ _)
          fun _ => mem_phase4Paths_of (hfixed _ (by decide))) fun _ => Frame.pure _
    · refine Frame.bind (Frame.loadRecord _) fun _ => Frame.bind (Frame.mono
        (saveFinalBaselineSchedEvents_frame _ _) fun _ => mem_phase4Paths_of fun p hp => ?_)
          fun _ => Frame.pure _
      simp only [List.mem_cons, List.not_mem_nil, or_false] at hp
      rcases hp with rfl | rfl | rfl | rfl | rfl
      iterate 4 exact hfixed _ (by decide) _ (List.mem_singleton_self _)
      simp [phase4Paths, hu]

def knockoutFile : String → Option (Content (List Nat)) :=
  fun p => if p = "target.preempts" then some (.record [1, 2, 3]) else none

def knockoutOpts : AnalyzeOpts :=
  { demoOpts with minimize := true, run1Preemptions := some "target.preempts" }

/-- The program crashes when it replays at least two preemptions. -/
def knockoutEnv : Env (List Nat) := demoEnv fun ex => 2 ≤ (ex.replayPreemptions.getD []).length

theorem knockoutLoop_terminates_within_count_demo :
    (∀ r : List Nat, 0 < r.length →
      (knockoutEnv.ops.withLatestPreemptRemoved r).length < r.length) ∧
    (∀ r : List Nat, r.length = 0 →
      knockoutEnv.ops.validate (knockoutEnv.ops.withLatestPreemptRemoved r) = .ok () →
      replayMatches knockoutEnv knockoutOpts (knockoutEnv.ops.withLatestPreemptRemoved r) = false) ∧
    (knockoutLoop knockoutEnv knockoutOpts (preemptsPath "run2_baseline") ([1, 2, 3].length + 1)
      [1, 2, 3] demoWorld).1 ≠ .error .outOfFuel := by
  have hdec : ∀ r : List Nat, 0 < r.length →
      (knockoutEnv.ops.withLatestPreemptRemoved r).length < r.length := fun r hr => by
    show r.dropLast.length < r.length
    rw [List.length_dropLast]
    omega
  have hbase : ∀ r : List Nat, r.length = 0 →
      knockoutEnv.ops.validate (knockoutEnv.ops.withLatestPreemptRemoved r) = .ok () →
      replayMatches knockoutEnv knockoutOpts (knockoutEnv.ops.withLatestPreemptRemoved r) = false :=
    fun r hr _ => by rw [List.length_eq_zero.mp hr]; rfl
  exact ⟨hdec, hbase, knockoutLoop_terminates_within_count List.length hdec hbase _ _ _⟩

theorem knockoutLoop_all_match_outOfFuel (fuel : Nat) (sp : Path) (pr : List Nat)
    (w : World (List Nat)) :
    (knockoutLoop (demoEnv fun _ => true) { demoOpts with minimize := true } sp fuel pr w).1 =
      .error .outOfFuel := by
  induction fuel generalizing pr w with
  | zero => rfl
  | succ fuel ih =>
    rw [knockoutLoop, bind_of_ok _ (saveNearbyNonMatchingSchedEvents_apply rfl rfl rfl)]
    exact ih _ _

/-- With every run matching, phase 4's knockout loop never stops on the record `[3]`, whose replay
matched, although `List.dropLast` shortens every non-empty record. -/
theorem knockoutLoop_unbounded :
    replayMatches (demoEnv fun _ => true) demoOpts [3] = true ∧
    (∀ r : List Nat, 0 < r.length →
      ((demoEnv fun _ => true).ops.withLatestPreemptRemoved r).length < r.length) ∧
    ∀ fuel, (phase4ChooseBaselineSchedEvents (demoEnv fun _ => true) { demoOpts with minimize := true }
      fuel [3] demoWorld).1 = .error .outOfFuel := by
  refine ⟨rfl, fun r hr => ?_, fun fuel => knockoutLoop_all_match_outOfFuel fuel _ _ _⟩
  show r.dropLast.length < r.length
  rw [List.length_dropLast]
  omega

end Hermit.Analyze
