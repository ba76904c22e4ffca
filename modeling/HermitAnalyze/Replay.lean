import HermitAnalyze.Demo

/-!
# Phases 2 and 3: minimizing and the strict replay check

Phase 2 hands on the recorded preemptions as they are, or the minimizer's result with `--minimize`.
With `--selfcheck`, phase 3 replays the target's preemption record under phase 1's options and
accepts the record only when the replay matches, its log agrees with the target's up to the lines the
chaos generator prints, and the replay records the very record it replayed: the record is a fixed
point of replay.
-/

namespace Hermit.Analyze

open AnalyzeM

section

variable {R : Type} [DecidableEq R] (env : Env R) (opts : AnalyzeOpts)

/-- The minimizer's run: its files are written, then its result is returned. -/
def runMinimize (preemptsPath : Path) : AnalyzeM R (R × Path × Path) := fun w =>
  let (r, ws) := env.minimize preemptsPath w
  match writeAll ws w with
  | (_, w') => (r, w')

def phase2Minimize (preemptsPath : Path) : AnalyzeM R (R × Path × Option Path) :=
  if opts.minimize then do
    let (minPr, minPrPath, minLogPath) ← runMinimize env preemptsPath
    pure (minPr, minPrPath, some minLogPath)
  else do
    let loaded ← loadRecord preemptsPath
    pure (loaded, preemptsPath, none)

def logDiffPreemptionReplay (run1LogPath run2LogPath : Path) : AnalyzeM R Bool := do
  let log1 ← readFile run1LogPath
  let log2 ← readFile run2LogPath
  pure (env.logDiff ["CHAOSRAND"] log1 log2)

def preemptFilesEqual (path1 path2 : Path) : AnalyzeM R Bool := do
  let pr1 ← loadRecord path1
  let pr2 ← loadRecord path2
  pure (pr1 == pr2)

def phase3StrictPreemptReplayCheck (run1LogPath run1PreemptsPath : Path) : AnalyzeM R Unit :=
  if opts.selfcheck then do
    let run1bOpts ← getRun1Runopts env opts
    let run1bOpts := { run1bOpts with replayPreemptionsFrom := some run1PreemptsPath }
    let runname := "run1b_selfcheck"
    let (secondMatches, _) ← launchAndRecordPreempts env opts runname run1bOpts
    let status ← logDiffPreemptionReplay env run1LogPath (logPath runname)
    if !secondMatches then bail "First run matched criteria but second run did not."
    else if !status then
      bail ("Log differences found, aborting because --selfcheck requires perfect " ++
        "reproducibility of the target run!")
    else do
      let run1bPreemptsPath := preemptsPath runname
      if !(← preemptFilesEqual run1PreemptsPath run1bPreemptsPath) then
        bail ("The preemptions recorded by the additional run did not match the preemptions " ++
          "replayed (no fixed point): " ++ Path.display env run1PreemptsPath ++ " vs " ++
          Path.display env run1bPreemptsPath)
      else pure ()
  else pure ()

end

variable {R : Type} {env : Env R} {opts : AnalyzeOpts} {w w' : World R}

/-! ### Phase 2 -/

theorem phase2Minimize_load {pp : Path} {r : R} (hm : opts.minimize = false)
    (h : w.read pp = some (.record r)) : phase2Minimize env opts pp w = (.ok (r, pp, none), w) := by
  rw [phase2Minimize, if_neg (by simp [hm]), bind_of_ok _ (loadRecord_apply h)]
  rfl

/-- The minimizer writes what it returns; which files those are is its own business. -/
theorem runMinimize_frame (pp : Path) : Frame (fun _ => True) (runMinimize env pp) := fun w => by
  unfold runMinimize
  cases env.minimize pp w
  exact (Frame.writeAll fun _ _ => trivial :
    Frame (fun _ => True) (AnalyzeM.writeAll _ : AnalyzeM R Unit)) w

theorem phase2Minimize_frame (pp : Path) : Frame (fun _ => True) (phase2Minimize env opts pp) := by
  unfold phase2Minimize
  exact Frame.ite (Frame.bind (runMinimize_frame _) fun ⟨_, _, _⟩ => Frame.pure _)
    (Frame.bind (Frame.loadRecord _) fun _ => Frame.pure _)

/-! ### Phase 3 -/

theorem logDiffPreemptionReplay_frame {P : Path → Prop} (p₁ p₂ : Path) :
    Frame P (logDiffPreemptionReplay env p₁ p₂) :=
  Frame.bind (Frame.readFile _) fun _ => Frame.bind (Frame.readFile _) fun _ => Frame.pure _

variable [DecidableEq R]

theorem preemptFilesEqual_frame {P : Path → Prop} (p₁ p₂ : Path) :
    Frame P (preemptFilesEqual p₁ p₂ : AnalyzeM R Bool) :=
  Frame.bind (Frame.loadRecord _) fun _ => Frame.bind (Frame.loadRecord _) fun _ => Frame.pure _

theorem phase3StrictPreemptReplayCheck_skip (hs : opts.selfcheck = false) (log pp : Path) (w : World R) :
    phase3StrictPreemptReplayCheck env opts log pp w = (.ok (), w) := by
  rw [phase3StrictPreemptReplayCheck, if_neg (by simp [hs])]
  rfl

theorem phase3StrictPreemptReplayCheck_frame (log pp : Path) :
    Frame (· ∈ runFiles "run1b_selfcheck" ++ (baseRunopts env opts).stackPaths)
      (phase3StrictPreemptReplayCheck env opts log pp) := by
  unfold phase3StrictPreemptReplayCheck getRun1Runopts
  refine Frame.ite (Frame.bind_of_returns (Frame.bind getBaseRunopts_frame fun _ => Frame.pure _)
    (fun _ _ _ h => (getRun1Runopts_ok h).1) fun ro hro => ?_) (Frame.pure _)
  subst hro
  exact Frame.bind (launchAndRecordPreempts_frame _ (withRun1_stacktraceEvent _)) fun ⟨_, _⟩ =>
    Frame.bind (logDiffPreemptionReplay_frame _ _) fun _ =>
      Frame.ite (Frame.bail _) (Frame.ite (Frame.bail _) (Frame.bind (preemptFilesEqual_frame _ _)
        fun _ => Frame.ite (Frame.bail _) (Frame.pure _)))

end Hermit.Analyze
