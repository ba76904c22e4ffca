import HermitAnalyze.Demo

/-!
# The failure search and phase 1

`do_search` runs chaos rounds until one matches: the rounds before it all failed to match, none runs
after it, and its recorded preemptions end up at the destination. Its outcome is that of the abstract
search (`searchSpec`), which asks the runtime about each round in turn, so it returns as soon as its
fuel reaches the first matching round. Phase 1 hands on the recording of a matching run, its own or
the search's, and pairs a log with its own run only when it ran the target itself and that run
matched.
-/

namespace Hermit.Analyze

open AnalyzeM

section

variable {R : Type} [DecidableEq R] (env : Env R) (opts : AnalyzeOpts)

/-- The loop of `AnalyzeOpts::do_search` from round `round`; one `gen()` per round, so round `round`
draws the generator's `round`-th output. -/
def doSearchLoop (searchSeed : UInt64) (preemptsPath : Path) : Nat → Nat → AnalyzeM R Unit
  | 0, _ => fail .outOfFuel
  | fuel + 1, round => do
    let schedSeed := env.searchRng searchSeed round
    match ← unwrapWith (fun e => "Error: " ++ e) (launchSearch env opts round schedSeed) with
    | some preempts => do
      let _initSchedule ← loadRecord preempts
      copyFile "file copy to succeed" preempts preemptsPath
    | none => doSearchLoop searchSeed preemptsPath fuel (round + 1)

def doSearch (fuel : Nat) (preemptsPath : Path) : AnalyzeM R Unit :=
  doSearchLoop env opts (opts.analyzeSeed.getD env.entropySeed) preemptsPath fuel 0

/-- `AnalyzeOpts::phase1_establish_target_run`; the workspace is the `Path.tmp` namespace. -/
def phase1EstablishTargetRun (fuel : Nat) : AnalyzeM R (Path × Path) := do
  let run1Opts ← getRun1Runopts env opts
  let runname := "phase1_target"
  let preemptsPath := preemptsPath runname
  match opts.run1Preemptions with
  | some p => copyFile "copy file to succeed" (.user p) preemptsPath
  | none => pure ()
  let isAMatch ← match opts.run1Preemptions with
    | none => do
      let (m, _) ← launchAndRecordPreempts env opts runname run1Opts
      pure m
    | some _ => if opts.selfcheck then todo else pure true
  if !isAMatch then
    if opts.search then doSearch env opts fuel preemptsPath
    else bail "FAILED. The run did not match the target criteria. Try --search."
  pure (logPath runname, preemptsPath)

end

variable {R : Type} {env : Env R} {opts : AnalyzeOpts} {w w' : World R}

variable (env opts) in
def searchLaunch (seed : UInt64) (j : Nat) : Path × RunOpts :=
  (logPath (searchRunname j), searchRunopts opts (baseRunopts env opts) j (env.searchRng seed j))

private theorem searchRunname_record_ne (round : Nat) :
    preemptsPath (searchRunname round) ≠ stdoutPath (searchRunname round) ∧
      preemptsPath (searchRunname round) ≠ stderrPath (searchRunname round) := by
  simp

variable (env opts) in
theorem searchWorld_read_recording (w : World R) (seed : UInt64) (r : Nat) (rec : RunRecord R) :
    (launchWorld w (searchRunname r) (searchRunopts opts (baseRunopts env opts) r (env.searchRng seed r))
      rec).read (preemptsPath (searchRunname r)) = some (.record rec.recording) :=
  launchWorld_read_recording rfl (tmp_not_mem_stackPaths rfl _) (searchRunname_record_ne r).1 (searchRunname_record_ne r).2

theorem doSearchLoop_ok {seed : UInt64} {pp : Path} {fuel r : Nat}
    (h : doSearchLoop env opts seed pp fuel r w = (.ok (), w')) :
    ∃ k, r ≤ k ∧
      (∀ j, r ≤ j → j < k → ∃ rec, env.runtime (searchExec env opts (env.searchRng seed j)) = .ok rec ∧
        opts.outputMatches rec.output = false) ∧
      ∃ rec, env.runtime (searchExec env opts (env.searchRng seed k)) = .ok rec ∧
        opts.outputMatches rec.output = true ∧
        w'.read pp = some (.record rec.recording) ∧
        w'.read (preemptsPath (searchRunname k)) = some (.record rec.recording) ∧
        w'.launches = ((List.range' r (k + 1 - r)).map (searchLaunch env opts seed)).reverse ++ w.launches := by
  induction fuel generalizing r w with
  | zero => simp [doSearchLoop] at h
  | succ fuel ih =>
    rw [doSearchLoop] at h
    obtain ⟨res, w₁, hl, h⟩ := bind_ok h
    obtain ⟨rec, hrun, rfl, rfl⟩ := launchSearch_ok (ok_of_unwrapWith hl)
    have hrec : (launchWorld w (searchRunname r) (searchRunopts opts (baseRunopts env opts) r
        (env.searchRng seed r)) rec).read (preemptsPath (searchRunname r)) = some (.record rec.recording) :=
      launchWorld_read_recording rfl (tmp_not_mem_stackPaths rfl _) (searchRunname_record_ne r).1 (searchRunname_record_ne r).2
    cases hm : opts.outputMatches rec.output
    · simp only [hm, Bool.false_eq_true, ite_false] at h
      obtain ⟨k, hk, hbefore, rec', hrun', hm', hpp, hk', hl'⟩ := ih h
      refine ⟨k, by omega, fun j hj hjk => ?_, rec', hrun', hm', hpp, hk', ?_⟩
      · rcases Nat.eq_or_lt_of_le hj with rfl | hj
        · exact ⟨rec, hrun, hm⟩
        · exact hbefore j hj hjk
      · rw [hl', launchWorld_launches, show k + 1 - r = (k + 1 - (r + 1)) + 1 by omega,
          List.range'_succ]
        simp [searchLaunch]
    · simp only [hm, ite_true] at h
      obtain ⟨_, w₂, hload, h⟩ := bind_ok h
      obtain ⟨-, rfl⟩ := loadRecord_ok hload
      obtain ⟨c, hc, rfl⟩ := copyFile_ok h
      rw [hrec, Option.some.injEq] at hc
      subst hc
      refine ⟨r, le_rfl, fun j hj hjr => absurd hjr (by omega), rec, hrun, hm, by simp, ?_, ?_⟩
      · by_cases hp : preemptsPath (searchRunname r) = pp
        · subst hp; simp
        · rw [World.read_write_of_ne _ _ hp, hrec]
      · simp [searchLaunch]

/-- `do_search`, if it returns, stopped at the first round whose chaos run matched: every earlier round
was launched with its own draw of the generator and did not match, no later round was launched,
and the destination holds the preemptions that round recorded. -/
theorem doSearch_returns_first_match {fuel : Nat} {pp : Path}
    (h : (doSearch env opts fuel pp w).1 = .ok ()) :
    let seed := opts.analyzeSeed.getD env.entropySeed
    ∃ k, (∀ j < k, ∃ rec, env.runtime (searchExec env opts (env.searchRng seed j)) = .ok rec ∧
        opts.outputMatches rec.output = false) ∧
      ∃ rec, env.runtime (searchExec env opts (env.searchRng seed k)) = .ok rec ∧
        opts.outputMatches rec.output = true ∧
        (doSearch env opts fuel pp w).2.read pp = some (.record rec.recording) ∧
        (doSearch env opts fuel pp w).2.read (preemptsPath (searchRunname k)) =
          some (.record rec.recording) ∧
        (doSearch env opts fuel pp w).2.launches =
          ((List.range (k + 1)).map (searchLaunch env opts seed)).reverse ++ w.launches := by
  obtain ⟨k, -, hbefore, rec, hrun, hm, hpp, hk, hl⟩ := doSearchLoop_ok (Prod.ext h rfl)
  exact ⟨k, fun j hj => hbefore j (Nat.zero_le j) hj, rec, hrun, hm, hpp, hk,
    by rw [List.range_eq_range']; exact hl⟩

theorem doSearch_returns_first_match_round_two :
    (doSearch (demoEnv fun ex => ex.schedSeed == some 2) demoOpts 5 (preemptsPath "phase1_target")
      demoWorld).1 = .ok () ∧
    let env := demoEnv fun ex => ex.schedSeed == some 2
    let seed := demoOpts.analyzeSeed.getD env.entropySeed
    ∃ k, (∀ j < k, ∃ rec, env.runtime (searchExec env demoOpts (env.searchRng seed j)) = .ok rec ∧
        demoOpts.outputMatches rec.output = false) ∧
      ∃ rec, env.runtime (searchExec env demoOpts (env.searchRng seed k)) = .ok rec ∧
        demoOpts.outputMatches rec.output = true ∧
        (doSearch env demoOpts 5 (preemptsPath "phase1_target") demoWorld).2.read
          (preemptsPath "phase1_target") = some (.record rec.recording) ∧
        (doSearch env demoOpts 5 (preemptsPath "phase1_target") demoWorld).2.read
          (preemptsPath (searchRunname k)) = some (.record rec.recording) ∧
        (doSearch env demoOpts 5 (preemptsPath "phase1_target") demoWorld).2.launches =
          ((List.range (k + 1)).map (searchLaunch env demoOpts seed)).reverse ++ [] :=
  ⟨by decide, doSearch_returns_first_match (by decide)⟩

theorem doSearchLoop_returns (hseq : (env.parseRunArgs opts.runArgs).noSequentializeThreads = false)
    {seed : UInt64} {pp : Path} {r k fuel : Nat} (hk : r ≤ k) (hfuel : k < r + fuel)
    (hbefore : ∀ j, r ≤ j → j < k → ∃ rec, env.runtime (searchExec env opts (env.searchRng seed j)) = .ok rec ∧
      opts.outputMatches rec.output = false)
    (hmatch : ∃ rec, env.runtime (searchExec env opts (env.searchRng seed k)) = .ok rec ∧
      opts.outputMatches rec.output = true)
    (w : World R) : (doSearchLoop env opts seed pp fuel r w).1 = .ok () := by
  induction fuel generalizing r w with
  | zero => omega
  | succ fuel ih =>
    rw [doSearchLoop]
    rcases Nat.eq_or_lt_of_le hk with rfl | hlt
    · obtain ⟨rec, hrun, hm⟩ := hmatch
      have hrec := searchWorld_read_recording env opts w seed r rec
      rw [bind_of_ok _ (unwrapWith_of_ok _ (launchSearch_apply hseq hrun))]
      simp only [hm, ite_true]
      rw [bind_of_ok _ (loadRecord_apply hrec), copyFile_apply hrec]
    · obtain ⟨rec, hrun, hm⟩ := hbefore r le_rfl hlt
      rw [bind_of_ok _ (unwrapWith_of_ok _ (launchSearch_apply hseq hrun))]
      simp only [hm, Bool.false_eq_true, ite_false]
      exact ih hlt (by omega) (fun j hj hjk => hbefore j (by omega) hjk) _

/-- `do_search`, under run arguments that keep threads sequentialized, returns when its fuel outlasts
the first matching round: if every round before `k` runs and does not match and round `k` runs and
matches, `k + 1` rounds of fuel are enough. -/
theorem doSearch_returns (hseq : (env.parseRunArgs opts.runArgs).noSequentializeThreads = false)
    {fuel k : Nat} {pp : Path} (hfuel : k < fuel)
    (hbefore : ∀ j < k, ∃ rec, env.runtime (searchExec env opts
      (env.searchRng (opts.analyzeSeed.getD env.entropySeed) j)) = .ok rec ∧ opts.outputMatches rec.output = false)
    (hmatch : ∃ rec, env.runtime (searchExec env opts
      (env.searchRng (opts.analyzeSeed.getD env.entropySeed) k)) = .ok rec ∧ opts.outputMatches rec.output = true)
    (w : World R) : (doSearch env opts fuel pp w).1 = .ok () :=
  doSearchLoop_returns hseq (Nat.zero_le k) (by omega) (fun j _ hj => hbefore j hj) hmatch w

theorem doSearch_returns_round_two :
    let env := demoEnv fun ex => ex.schedSeed == some 2
    (env.parseRunArgs demoOpts.runArgs).noSequentializeThreads = false ∧ 2 < 5 ∧
    (∀ j < 2, ∃ rec, env.runtime (searchExec env demoOpts
      (env.searchRng (demoOpts.analyzeSeed.getD env.entropySeed) j)) = .ok rec ∧
        demoOpts.outputMatches rec.output = false) ∧
    (∃ rec, env.runtime (searchExec env demoOpts
      (env.searchRng (demoOpts.analyzeSeed.getD env.entropySeed) 2)) = .ok rec ∧
        demoOpts.outputMatches rec.output = true) ∧
    (doSearch env demoOpts 5 (preemptsPath "phase1_target") demoWorld).1 = .ok () :=
  have hbefore : ∀ j < 2, ∃ rec, (demoEnv fun ex => ex.schedSeed == some 2).runtime
      (searchExec (demoEnv fun ex => ex.schedSeed == some 2) demoOpts (UInt64.ofNat j)) = .ok rec ∧
        demoOpts.outputMatches rec.output = false
    | 0, _ => ⟨_, rfl, rfl⟩
    | 1, _ => ⟨_, rfl, rfl⟩
  ⟨rfl, by decide, hbefore, ⟨_, rfl, rfl⟩, doSearch_returns rfl (by decide) hbefore ⟨_, rfl, rfl⟩ demoWorld⟩

/-! ### The search in the abstract -/

variable (env opts) in
/-- The failure search in the abstract: the runtime's verdict on each round's chaos run, until one
matches; a round the runtime cannot run panics, as the search's `unwrap_or_else` does. -/
def searchSpec (seed : UInt64) : Nat → Nat → Except Failure Unit
  | 0, _ => .error .outOfFuel
  | fuel + 1, round =>
    match env.runtime (searchExec env opts (env.searchRng seed round)) with
    | .ok rec => if opts.outputMatches rec.output then .ok () else searchSpec seed fuel (round + 1)
    | .error e => .error (.panic ("Error: " ++ e))

theorem doSearchLoop_refines (hseq : (env.parseRunArgs opts.runArgs).noSequentializeThreads = false)
    (seed : UInt64) (pp : Path) (fuel round : Nat) (w : World R) :
    (doSearchLoop env opts seed pp fuel round w).1 = searchSpec env opts seed fuel round := by
  induction fuel generalizing round w with
  | zero => rfl
  | succ fuel ih =>
    rw [doSearchLoop, searchSpec]
    rcases hr : env.runtime (searchExec env opts (env.searchRng seed round)) with e | rec
    · rw [bind_of_error _ (unwrapWith_of_error _ (launchSearch_error hseq hr))]
    · rw [bind_of_ok _ (unwrapWith_of_ok _ (launchSearch_apply hseq hr))]
      have hrec := searchWorld_read_recording env opts w seed round rec
      cases hm : opts.outputMatches rec.output
      · simp only [hm, Bool.false_eq_true, ite_false]
        exact ih _ _
      · simp only [hm, ite_true]
        rw [bind_of_ok _ (loadRecord_apply hrec), copyFile_apply hrec]

/-- `do_search`, under run arguments that keep threads sequentialized, ends as the abstract search from
round `0`: its outcome, success, the panic of a round the runtime cannot run, or running out of
rounds, is decided by the runtime's verdicts on the rounds' chaos runs alone. -/
theorem doSearch_refines (hseq : (env.parseRunArgs opts.runArgs).noSequentializeThreads = false)
    (fuel : Nat) (pp : Path) (w : World R) :
    (doSearch env opts fuel pp w).1 = searchSpec env opts (opts.analyzeSeed.getD env.entropySeed) fuel 0 :=
  doSearchLoop_refines hseq _ pp fuel 0 w

theorem doSearch_refines_demo :
    let env := demoEnv fun ex => ex.schedSeed == some 2
    (env.parseRunArgs demoOpts.runArgs).noSequentializeThreads = false ∧
    (doSearch env demoOpts 5 (preemptsPath "phase1_target") demoWorld).1 =
      searchSpec env demoOpts (demoOpts.analyzeSeed.getD env.entropySeed) 5 0 :=
  ⟨rfl, doSearch_refines rfl 5 (preemptsPath "phase1_target") demoWorld⟩

example : searchSpec (demoEnv fun ex => ex.schedSeed == some 2) demoOpts 0 2 0 = .error .outOfFuel := by
  decide

variable (env opts) in
def run1Exec : Exec R :=
  let ro := opts.withRun1 (baseRunopts env opts)
  ⟨ro.seed, ro.schedSeed, ro.chaos, ro.impreciseTimers, none, none⟩

variable (env opts) in
abbrev phase1Runopts : RunOpts :=
  { opts.withRun1 (baseRunopts env opts) with recordPreemptionsTo := some (preemptsPath "phase1_target") }

theorem execOf_phase1 (hp : opts.run1Preemptions = none) (w : World R) :
    execOf (phase1Runopts env opts) (launchStart w "phase1_target" (phase1Runopts env opts)) =
      some (run1Exec env opts) :=
  execOf_of_no_replay ((withRun1_replayPreemptionsFrom hp _).trans baseRunopts_replayPreemptionsFrom)
    ((withRun1_replayScheduleFrom _).trans baseRunopts_replayScheduleFrom)

theorem phase1EstablishTargetRun_apply {fuel : Nat} {rec : RunRecord R}
    (hseq : (env.parseRunArgs opts.runArgs).noSequentializeThreads = false)
    (hp : opts.run1Preemptions = none) (hrun : env.runtime (run1Exec env opts) = .ok rec)
    (hm : opts.outputMatches rec.output = true) (w : World R) :
    phase1EstablishTargetRun env opts fuel w =
      (.ok (logPath "phase1_target", preemptsPath "phase1_target"),
        launchWorld w "phase1_target" (phase1Runopts env opts) rec) := by
  rw [phase1EstablishTargetRun, bind_of_ok _ (getRun1Runopts_apply hseq w)]
  simp only [hp, pure_apply, bind_of_ok _ (pure_apply () _)]
  rw [launchAndRecordPreempts, bind_of_ok _ (launchConfig_apply (execOf_phase1 hp w) hrun)]
  simp [hm, bind_apply]

theorem phase1EstablishTargetRun_own_run {fuel : Nat} {log pre : Path}
    (h : phase1EstablishTargetRun env opts fuel w = (.ok (log, pre), w'))
    (hp : opts.run1Preemptions = none) (hmatch : execMatches env opts (run1Exec env opts) = true) :
    ∃ rec, env.runtime (run1Exec env opts) = .ok rec ∧ w'.read log = some (.text rec.log) ∧
      w'.read pre = some (.record rec.recording) := by
  unfold phase1EstablishTargetRun at h
  obtain ⟨ro, w₁, hro, h1⟩ := bind_ok h
  obtain ⟨rfl, rfl⟩ := getRun1Runopts_ok hro
  simp only [hp, pure_apply, bind_of_ok _ (pure_apply () _)] at h1
  obtain ⟨m, w₂, hm, h2⟩ := bind_ok h1
  obtain ⟨ex, rec, hex, hr, rfl, rfl⟩ := launchConfig_ok hm
  have hex : ex = run1Exec env opts := by
    simp [execOf, replayInput, withRun1_replayPreemptionsFrom hp] at hex
    rw [← hex, run1Exec]
  subst hex
  simp only [execMatches, hr] at hmatch
  simp only [hmatch, Bool.not_true, Bool.false_eq_true, ite_false, pure_apply,
    bind_of_ok _ (pure_apply _ _), Prod.mk.injEq, Except.ok.injEq] at h2
  obtain ⟨⟨rfl, rfl⟩, rfl⟩ := h2
  exact ⟨rec, hr, launchWorld_read_log (by simp) (tmp_not_mem_stackPaths (withRun1_stacktraceEvent _) _),
    launchWorld_read_recording rfl (tmp_not_mem_stackPaths (withRun1_stacktraceEvent _) _) (by simp) (by simp)⟩

/-- Without `--search`, phase 1 whose own run of the target does not match fails with its message,
leaving that run's files in place. -/
theorem phase1EstablishTargetRun_no_match {fuel : Nat} {rec : RunRecord R}
    (hseq : (env.parseRunArgs opts.runArgs).noSequentializeThreads = false)
    (hp : opts.run1Preemptions = none) (hsearch : opts.search = false)
    (hrun : env.runtime (run1Exec env opts) = .ok rec) (hm : opts.outputMatches rec.output = false)
    (w : World R) :
    phase1EstablishTargetRun env opts fuel w =
      (.error (.error "FAILED. The run did not match the target criteria. Try --search."),
        launchWorld w "phase1_target" (phase1Runopts env opts) rec) := by
  rw [phase1EstablishTargetRun, bind_of_ok _ (getRun1Runopts_apply hseq w)]
  simp only [hp, pure_apply, bind_of_ok _ (pure_apply () _)]
  rw [launchAndRecordPreempts, bind_of_ok _ (launchConfig_apply (execOf_phase1 hp w) hrun)]
  simp [hm, hsearch, bind_apply, bail]

/-- Phase 1 without `run1_preemptions` hands on the preemptions recorded by a run that matched: its own
run of the target, or, when that run did not match, the first matching round of the search, every
earlier round having run and not matched. -/
theorem phase1EstablishTargetRun_matching {fuel : Nat} {log pre : Path}
    (h : phase1EstablishTargetRun env opts fuel w = (.ok (log, pre), w'))
    (hp : opts.run1Preemptions = none) :
    ∃ rec₁, env.runtime (run1Exec env opts) = .ok rec₁ ∧
      ((opts.outputMatches rec₁.output = true ∧ w'.read pre = some (.record rec₁.recording)) ∨
        (opts.outputMatches rec₁.output = false ∧ ∃ k,
          (∀ j < k, ∃ rec, env.runtime (searchExec env opts
              (env.searchRng (opts.analyzeSeed.getD env.entropySeed) j)) = .ok rec ∧
            opts.outputMatches rec.output = false) ∧
          ∃ rec, env.runtime (searchExec env opts
              (env.searchRng (opts.analyzeSeed.getD env.entropySeed) k)) = .ok rec ∧
            opts.outputMatches rec.output = true ∧ w'.read pre = some (.record rec.recording))) := by
  unfold phase1EstablishTargetRun at h
  obtain ⟨ro, w₁, hro, h1⟩ := bind_ok h
  obtain ⟨rfl, rfl⟩ := getRun1Runopts_ok hro
  simp only [hp, pure_apply, bind_of_ok _ (pure_apply () _)] at h1
  obtain ⟨m, w₂, hm, h2⟩ := bind_ok h1
  obtain ⟨ex, rec, hex, hr, rfl, rfl⟩ := launchConfig_ok hm
  clear h hro h1 hm
  obtain rfl := Option.some.inj (hex.symm.trans (execOf_phase1 hp _))
  rw [bind_of_ok _ (pure_apply _ _)] at h2
  refine ⟨rec, hr, ?_⟩
  cases hmatch : opts.outputMatches rec.output
  · cases hs : opts.search
    · simp [hmatch, hs, bail, bind_apply] at h2
    · simp only [hmatch, hs, Bool.not_false, ite_true] at h2
      obtain ⟨hlp, _, hsearch⟩ := bind_pure_ok h2
      obtain ⟨-, rfl⟩ := Prod.mk.inj hlp
      obtain ⟨k, -, hbefore, rec', hrun', hm', hpp, -⟩ := doSearchLoop_ok hsearch
      exact .inr ⟨rfl, k, fun j hj => hbefore j (Nat.zero_le j) hj, rec', hrun', hm', hpp⟩
  · simp only [hmatch, Bool.not_true, Bool.false_eq_true, ite_false, pure_apply,
      bind_of_ok _ (pure_apply _ _), Prod.mk.injEq, Except.ok.injEq] at h2
    obtain ⟨⟨-, rfl⟩, rfl⟩ := h2
    exact .inl ⟨rfl, launchWorld_read_recording rfl (tmp_not_mem_stackPaths (withRun1_stacktraceEvent _) _)
      (by simp) (by simp)⟩

def demoSearchOpts : AnalyzeOpts := { demoOpts with search := true }

theorem phase1EstablishTargetRun_matching_search :
    let env := demoEnv fun ex => ex.schedSeed == some 2
    phase1EstablishTargetRun env demoSearchOpts 5 demoWorld =
      (.ok (logPath "phase1_target", preemptsPath "phase1_target"),
        (phase1EstablishTargetRun env demoSearchOpts 5 demoWorld).2) ∧
    demoSearchOpts.run1Preemptions = none ∧
    ∃ rec₁, env.runtime (run1Exec env demoSearchOpts) = .ok rec₁ ∧
      ((demoSearchOpts.outputMatches rec₁.output = true ∧
          (phase1EstablishTargetRun env demoSearchOpts 5 demoWorld).2.read (preemptsPath "phase1_target") =
            some (.record rec₁.recording)) ∨
        (demoSearchOpts.outputMatches rec₁.output = false ∧ ∃ k,
          (∀ j < k, ∃ rec, env.runtime (searchExec env demoSearchOpts
              (env.searchRng (demoSearchOpts.analyzeSeed.getD env.entropySeed) j)) = .ok rec ∧
            demoSearchOpts.outputMatches rec.output = false) ∧
          ∃ rec, env.runtime (searchExec env demoSearchOpts
              (env.searchRng (demoSearchOpts.analyzeSeed.getD env.entropySeed) k)) = .ok rec ∧
            demoSearchOpts.outputMatches rec.output = true ∧
            (phase1EstablishTargetRun env demoSearchOpts 5 demoWorld).2.read (preemptsPath "phase1_target") =
              some (.record rec.recording))) := by
  intro env
  have h : phase1EstablishTargetRun env demoSearchOpts 5 demoWorld =
      (.ok (logPath "phase1_target", preemptsPath "phase1_target"),
        (phase1EstablishTargetRun env demoSearchOpts 5 demoWorld).2) := by
    rw [← (by decide : (phase1EstablishTargetRun env demoSearchOpts 5 demoWorld).1 =
      .ok (logPath "phase1_target", preemptsPath "phase1_target"))]
  exact ⟨h, rfl, phase1EstablishTargetRun_matching h rfl⟩

theorem phase1EstablishTargetRun_copy {fuel : Nat} {log pre : Path} {p : String}
    (h : phase1EstablishTargetRun env opts fuel w = (.ok (log, pre), w'))
    (hp : opts.run1Preemptions = some p) :
    w'.read pre = w.read (.user p) ∧ w'.read log = w.read log ∧ w'.launches = w.launches := by
  unfold phase1EstablishTargetRun at h
  obtain ⟨ro, w₁, hro, h1⟩ := bind_ok h
  obtain ⟨rfl, rfl⟩ := getRun1Runopts_ok hro
  simp only [hp] at h1
  obtain ⟨_, w₂, hcp, h2⟩ := bind_ok h1
  obtain ⟨c, hsrc, rfl⟩ := copyFile_ok hcp
  cases hs : opts.selfcheck
  · simp only [hs, Bool.false_eq_true, ite_false, pure_apply, bind_of_ok _ (pure_apply true _),
      Bool.not_true, bind_of_ok _ (pure_apply () _), Prod.mk.injEq, Except.ok.injEq] at h2
    obtain ⟨⟨rfl, rfl⟩, rfl⟩ := h2
    exact ⟨by simp [hsrc], World.read_write_of_ne _ _ (by simp), rfl⟩
  · simp [hs, AnalyzeM.todo, AnalyzeM.panicWith, bind_apply] at h2

/-- When phase 1 runs the target itself and that run matches, the log and the preemptions it returns
were written by that one run; from `run1_preemptions`, it copies the user's file and runs nothing, so
no log is written. -/
theorem phase1_log_pairs_own_run {fuel : Nat} {log pre : Path}
    (h : (phase1EstablishTargetRun env opts fuel w).1 = .ok (log, pre)) :
    (opts.run1Preemptions = none → execMatches env opts (run1Exec env opts) = true →
      ∃ rec, env.runtime (run1Exec env opts) = .ok rec ∧
        (phase1EstablishTargetRun env opts fuel w).2.read log = some (.text rec.log) ∧
        (phase1EstablishTargetRun env opts fuel w).2.read pre = some (.record rec.recording)) ∧
    (∀ p, opts.run1Preemptions = some p →
      (phase1EstablishTargetRun env opts fuel w).2.read pre = w.read (.user p) ∧
      (phase1EstablishTargetRun env opts fuel w).2.read log = w.read log ∧
      (phase1EstablishTargetRun env opts fuel w).2.launches = w.launches) :=
  ⟨phase1EstablishTargetRun_own_run (Prod.ext h rfl), fun _ => phase1EstablishTargetRun_copy (Prod.ext h rfl)⟩

theorem phase1_log_pairs_own_run_demo :
    (phase1EstablishTargetRun (demoEnv fun _ => true) demoOpts 1 demoWorld).1 =
      .ok (logPath "phase1_target", preemptsPath "phase1_target") ∧
    (demoOpts.run1Preemptions = none →
      execMatches (demoEnv fun _ => true) demoOpts (run1Exec (demoEnv fun _ => true) demoOpts) = true →
      ∃ rec, (demoEnv fun _ => true).runtime (run1Exec (demoEnv fun _ => true) demoOpts) = .ok rec ∧
        (phase1EstablishTargetRun (demoEnv fun _ => true) demoOpts 1 demoWorld).2.read
          (logPath "phase1_target") = some (.text rec.log) ∧
        (phase1EstablishTargetRun (demoEnv fun _ => true) demoOpts 1 demoWorld).2.read
          (preemptsPath "phase1_target") = some (.record rec.recording)) ∧
    (∀ p, demoOpts.run1Preemptions = some p →
      (phase1EstablishTargetRun (demoEnv fun _ => true) demoOpts 1 demoWorld).2.read
        (preemptsPath "phase1_target") = demoWorld.read (.user p) ∧
      (phase1EstablishTargetRun (demoEnv fun _ => true) demoOpts 1 demoWorld).2.read
        (logPath "phase1_target") = demoWorld.read (logPath "phase1_target") ∧
      (phase1EstablishTargetRun (demoEnv fun _ => true) demoOpts 1 demoWorld).2.launches =
        demoWorld.launches) :=
  ⟨by decide, phase1_log_pairs_own_run (by decide)⟩

def run1File : String → Option (Content (List Nat)) :=
  fun p => if p = "target.preempts" then some (.record [3]) else none

/-- With `run1_preemptions`, phase 1 returns a log path that no run wrote. -/
theorem phase1_run1_preemptions_no_log :
    (phase1EstablishTargetRun (demoEnv fun _ => true)
        { demoOpts with run1Preemptions := some "target.preempts" } 1 (World.init run1File)).1 =
      .ok (logPath "phase1_target", preemptsPath "phase1_target") ∧
    ¬ ∃ rec : RunRecord (List Nat),
      (phase1EstablishTargetRun (demoEnv fun _ => true)
          { demoOpts with run1Preemptions := some "target.preempts" } 1 (World.init run1File)).2.read
        (logPath "phase1_target") = some (.text rec.log) ∧
      (phase1EstablishTargetRun (demoEnv fun _ => true)
          { demoOpts with run1Preemptions := some "target.preempts" } 1 (World.init run1File)).2.read
        (preemptsPath "phase1_target") = some (.record rec.recording) := by
  refine ⟨by decide, fun ⟨rec, hlog, _⟩ => ?_⟩
  have hnone : (phase1EstablishTargetRun (demoEnv fun _ => true)
      { demoOpts with run1Preemptions := some "target.preempts" } 1 (World.init run1File)).2.read
        (logPath "phase1_target") = none := by decide
  rw [hnone] at hlog
  cases hlog

/-! ### What phase 1 writes -/

theorem doSearchLoop_frame (seed : UInt64) (pp : Path) (fuel round : Nat) :
    Frame (fun p => (∃ r, p ∈ runFiles (searchRunname r)) ∨ p = pp ∨ p ∈ (baseRunopts env opts).stackPaths)
      (doSearchLoop env opts seed pp fuel round) := by
  induction fuel generalizing round with
  | zero => exact Frame.fail _
  | succ fuel ih =>
    exact Frame.bind (Frame.unwrapWith (Frame.mono (launchSearch_frame _ _)
      fun p hp => (List.mem_append.mp hp).elim (fun h => .inl ⟨round, h⟩) (.inr ∘ .inr))) fun res =>
        match res with
        | some _ => Frame.bind (Frame.loadRecord _) fun _ => Frame.copyFile (.inr (.inl rfl))
        | none => ih _

theorem doSearch_frame (fuel : Nat) (pp : Path) :
    Frame (fun p => (∃ r, p ∈ runFiles (searchRunname r)) ∨ p = pp ∨ p ∈ (baseRunopts env opts).stackPaths)
      (doSearch env opts fuel pp) :=
  doSearchLoop_frame _ _ _ _

theorem phase1EstablishTargetRun_frame (fuel : Nat) :
    Frame (fun p => p ∈ runFiles "phase1_target" ∨ (∃ r, p ∈ runFiles (searchRunname r)) ∨
        p ∈ (baseRunopts env opts).stackPaths)
      (phase1EstablishTargetRun env opts fuel) := by
  unfold phase1EstablishTargetRun getRun1Runopts
  refine Frame.bind_of_returns (Frame.bind getBaseRunopts_frame fun _ => Frame.pure _)
    (fun _ _ _ h => (getRun1Runopts_ok h).1) fun ro hro => ?_
  subst hro
  rcases opts.run1Preemptions with _ | p <;> dsimp only
  on_goal 1 =>
    refine Frame.bind (Frame.pure _) fun _ => Frame.bind (Frame.mono
      (launchAndRecordPreempts_frame _ (withRun1_stacktraceEvent _)) fun _ h =>
        (List.mem_append.mp h).elim .inl (.inr ∘ .inr)) fun _ =>
        Frame.bind (Frame.pure _) fun _ => ?_
  on_goal 2 =>
    refine Frame.bind (Frame.copyFile (.inl (by simp [runFiles]))) fun _ =>
      Frame.ite (Frame.bind (Frame.panicWith _) fun _ => ?_) (Frame.bind (Frame.pure _) fun _ => ?_)
  -- the end of phase 1, once it knows whether its run matched
  all_goals
    exact Frame.ite (Frame.ite (Frame.bind (Frame.mono (doSearch_frame fuel _) fun _ h =>
      h.elim (.inr ∘ .inl) fun h => h.elim (fun h => .inl (h ▸ by simp [runFiles])) (.inr ∘ .inr))
        fun _ => Frame.pure _)
        (Frame.bind (Frame.bail _) fun _ => Frame.pure _)) (Frame.bind (Frame.pure _) fun _ => Frame.pure _)

end Hermit.Analyze
