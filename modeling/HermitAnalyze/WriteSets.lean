import HermitAnalyze.Main
import HermitAnalyze.Names

/-!
# Who writes which file

The write set of every step of `main`, and from them: two different steps write the same workspace
file only for the three run names the driver reuses after phase 4, distinct bisection probes write
distinct workspace files, and outside the workspace `main` writes only the report file, the user's
`run2_preemptions` file, the recording and stack traces the run arguments ask for, and whatever the
minimizer writes.
-/

namespace Hermit.Analyze

open AnalyzeM

variable {R : Type} {env : Env R} {opts : AnalyzeOpts}

/-! ### The run names of each step -/

def stepRunnames : Step → List String
  | .phase1 => ["phase1_target"]
  | .phase3 => ["run1b_selfcheck"]
  | .finalPreempts => ["final"]
  | .targetEndpoint => ["verify_target_endpoint", "first_matching"]
  | .phase4 => ["run2_baseline", "final_pass", "verify_baseline_endpoint", "baseline_nearby_non_matching"]
  | .baselineEndpoint => ["final_pass", "verify_baseline_endpoint", "first_matching"]
  | .phase6 => ["final_target_for_stacktraces", "final_baseline"]
  | .start | .phase2 | .probe _ | .report => []

/-- `s` is the run name of workspace files step `st` writes: one of its fixed names, a search round's
in phase 1, or the probe's own in a bisection probe. -/
def RunnameOf (st : Step) (s : String) : Prop :=
  s ∈ stepRunnames st ∨ (st = .phase1 ∧ ∃ round, s = searchRunname round) ∨
    ∃ i, st = .probe i ∧ s = bisectRunname i

/-- What step `st` may write: workspace files of its run names, and outside the workspace the user's
`run2_preemptions` file in phase 4, the report file at the end, the recording the run arguments `a`
ask for in the probes and phase 6, and the stack traces they ask for in every other launch. The
minimizer of phase 2, which is not part of this source, may write anything. -/
def MayWrite (a : RunArgs) (opts : AnalyzeOpts) (st : Step) : Path → Prop
  | .tmp f => st = .phase2 ∨ RunnameOf st (fileRunname f)
  | .user p => st = .phase2 ∨ (st = .phase4 ∧ opts.run2Preemptions = some p) ∨
      (st = .report ∧ opts.reportFile = some p) ∨
      ((st = .phase6 ∨ ∃ i, st = .probe i) ∧ a.recordPreemptionsTo = some p) ∨
      (st ∉ [.start, .finalPreempts, .phase6, .report] ∧ ∃ k, (k, some p) ∈ a.stacktraceEvent)

/-- The run names two steps share, with the steps that share them. -/
def sharedRunnames : List (String × Step × Step) :=
  [("first_matching", .targetEndpoint, .baselineEndpoint), ("final_pass", .phase4, .baselineEndpoint),
    ("verify_baseline_endpoint", .phase4, .baselineEndpoint)]

def namedSteps : List Step :=
  [.phase1, .phase3, .finalPreempts, .targetEndpoint, .phase4, .baselineEndpoint, .phase6]

theorem mem_namedSteps {st : Step} {s : String} (h : s ∈ stepRunnames st) : st ∈ namedSteps := by
  cases st <;> simp_all [stepRunnames, namedSteps]

theorem stepRunnames_shared {st₁ st₂ : Step} (hne : st₁ ≠ st₂) {s : String}
    (h₁ : s ∈ stepRunnames st₁) (h₂ : s ∈ stepRunnames st₂) :
    (s, st₁, st₂) ∈ sharedRunnames ∨ (s, st₂, st₁) ∈ sharedRunnames := by
  have key : ∀ a ∈ namedSteps, ∀ b ∈ namedSteps, a ≠ b → ∀ s ∈ stepRunnames a, s ∈ stepRunnames b →
      (s, a, b) ∈ sharedRunnames ∨ (s, b, a) ∈ sharedRunnames := by decide
  exact key _ (mem_namedSteps h₁) _ (mem_namedSteps h₂) hne s h₁ h₂

theorem stepRunnames_spelling : ∀ st ∈ namedSteps, ∀ s ∈ stepRunnames st,
    '.' ∉ s.data ∧ s.data.take 2 ≠ ['s', 'e'] ∧ s.data.take 2 ≠ ['b', 'i'] := by
  decide

theorem dot_not_mem_of_runnameOf {st : Step} {s : String} (h : RunnameOf st s) : '.' ∉ s.data := by
  rcases h with h | ⟨-, r, rfl⟩ | ⟨i, -, rfl⟩
  · exact (stepRunnames_spelling _ (mem_namedSteps h) s h).1
  · exact dot_not_mem_searchRunname r
  · exact dot_not_mem_bisectRunname i

theorem runnameOf_probe {i : Nat} {s : String} : RunnameOf (.probe i) s ↔ s = bisectRunname i := by
  simp [RunnameOf, stepRunnames]

/-- Two different steps share a run name only as `sharedRunnames` lists it. -/
theorem runnameOf_shared {st₁ st₂ : Step} {s : String} (h₁ : RunnameOf st₁ s) (h₂ : RunnameOf st₂ s)
    (hne : st₁ ≠ st₂) : (s, st₁, st₂) ∈ sharedRunnames ∨ (s, st₂, st₁) ∈ sharedRunnames := by
  have hse : ∀ st, s ∈ stepRunnames st → ∀ r, s ≠ searchRunname r := fun st hs r he =>
    (stepRunnames_spelling st (mem_namedSteps hs) s hs).2.1 (he ▸ searchRunname_take_two r)
  have hbi : ∀ st, s ∈ stepRunnames st → ∀ i, s ≠ bisectRunname i := fun st hs i he =>
    (stepRunnames_spelling st (mem_namedSteps hs) s hs).2.2 (he ▸ bisectRunname_take_two i)
  have hsb : ∀ r i, searchRunname r ≠ bisectRunname i := fun r i he => by
    have := congrArg (fun s : String => s.data.take 2) he
    simp only [searchRunname_take_two, bisectRunname_take_two] at this
    cases this
  rcases h₁ with h₁ | ⟨rfl, r, rfl⟩ | ⟨i, rfl, rfl⟩ <;>
    rcases h₂ with h₂ | ⟨rfl, r', hr'⟩ | ⟨j, rfl, hj⟩
  · exact stepRunnames_shared hne h₁ h₂
  · exact absurd hr' (hse _ h₁ r')
  · exact absurd hj (hbi _ h₁ j)
  · exact absurd rfl (hse _ h₂ r)
  · exact absurd rfl hne
  · exact absurd hj (hsb r j)
  · exact absurd rfl (hbi _ h₂ i)
  · exact absurd hr'.symm (hsb r' i)
  · exact absurd (congrArg Step.probe (bisectRunname_injective hj)) hne

section MayWrite

variable {a : RunArgs}

theorem mayWrite_withExtension {st : Step} {s : String} (ext : String) (h : RunnameOf st s) :
    MayWrite a opts st (.tmp (withExtension s ext)) :=
  .inr ((fileRunname_withExtension ext (dot_not_mem_of_runnameOf h)).symm ▸ h)

theorem mayWrite_of_runFiles {st : Step} {s : String} (h : RunnameOf st s) :
    ∀ p ∈ runFiles s, MayWrite a opts st p := by
  simp only [runFiles, List.mem_cons, List.not_mem_nil, or_false]
  rintro p (rfl | rfl | rfl | rfl) <;> exact mayWrite_withExtension _ h

def pathRunname : Path → Option String
  | .tmp f => some (fileRunname f)
  | .user _ => none

theorem mayWrite_of_forall {st : Step} {l : List Path}
    (h : ∀ p ∈ l, (pathRunname p).any (· ∈ stepRunnames st)) : ∀ p ∈ l, MayWrite a opts st p := by
  intro p hp
  have := h p hp
  cases p with
  | tmp f => exact .inr (.inl (by simpa [pathRunname] using this))
  | user u => simp [pathRunname] at this

theorem fileRunname_of_mayWrite_probe {i : Nat} {f : String} (h : MayWrite a opts (.probe i) (.tmp f)) :
    fileRunname f = bisectRunname i :=
  runnameOf_probe.mp (h.resolve_left Step.noConfusion)

theorem mayWrite_inStep {α : Type} {st : Step} {P : Path → Prop} {m : AnalyzeM R α} (h : Frame P m)
    (hP : ∀ p, P p → MayWrite a opts st p) : Tagged (MayWrite a opts) (inStep st m) :=
  Tagged.mono (Tagged.inStep st h) fun _ _ ⟨hst, hp⟩ => hst ▸ hP _ hp

end MayWrite

/-! ### The files the run arguments name -/

section RunArgs

theorem mayWrite_of_stackPaths {st : Step} (hst : st ∉ [.start, .finalPreempts, .phase6, .report])
    {p : Path} (hp : p ∈ (baseRunopts env opts).stackPaths) :
    MayWrite (env.parseRunArgs opts.runArgs) opts st p := by
  obtain ⟨u, rfl, hu⟩ := mem_baseRunopts_stackPaths hp
  exact .inr (.inr (.inr (.inr ⟨hst, hu⟩)))

theorem mayWrite_of_recordPreemptionsTo {st : Step} (hst : st = .phase6 ∨ ∃ i, st = .probe i)
    {p : Path} (hp : p ∈ (baseRunopts env opts).recordPreemptionsTo.toList) :
    MayWrite (env.parseRunArgs opts.runArgs) opts st p := by
  obtain ⟨u, rfl, hu⟩ := mem_baseRunopts_recordPreemptionsTo hp
  exact .inr (.inr (.inr (.inl ⟨hst, hu⟩)))

theorem mayWrite_append_stackPaths {st : Step} (hst : st ∉ [.start, .finalPreempts, .phase6, .report])
    {l : List Path} (hl : ∀ p ∈ l, MayWrite (env.parseRunArgs opts.runArgs) opts st p) :
    ∀ p ∈ l ++ (baseRunopts env opts).stackPaths, MayWrite (env.parseRunArgs opts.runArgs) opts st p :=
  fun p hp => (List.mem_append.mp hp).elim (hl p) (mayWrite_of_stackPaths hst)

theorem mayWrite_probeFiles (k : Nat) :
    ∀ p ∈ probeFiles k ++ (baseRunopts env opts).outputPaths,
      MayWrite (env.parseRunArgs opts.runArgs) opts (.probe k) p := by
  have he : bisectRunname k ++ ".events" = withExtension (bisectRunname k) "events" := by
    rw [withExtension, String.append_assoc]
    rfl
  have hk : RunnameOf (.probe k) (bisectRunname k) := .inr (.inr ⟨k, rfl, rfl⟩)
  simp only [probeFiles, RunOpts.outputPaths, List.mem_append, List.mem_cons, List.not_mem_nil, or_false]
  rintro p ((rfl | rfl | rfl | rfl) | hp | hp)
  · exact he ▸ mayWrite_withExtension _ hk
  iterate 3 exact mayWrite_withExtension _ hk
  · exact mayWrite_of_recordPreemptionsTo (.inr ⟨k, rfl⟩) hp
  · exact mayWrite_of_stackPaths (by simp) hp

theorem mayWrite_phase4 : ∀ p ∈ phase4Paths env opts, MayWrite (env.parseRunArgs opts.runArgs) opts .phase4 p := by
  intro p hp
  rw [phase4Paths, List.mem_append, List.mem_append] at hp
  rcases hp with (hp | hp) | hp
  · exact mayWrite_of_forall (by decide) p hp
  · obtain ⟨u, hu, rfl⟩ := List.mem_map.mp hp
    exact .inr (.inl ⟨rfl, by simpa using hu⟩)
  · exact mayWrite_of_stackPaths (by decide) hp

end RunArgs

/-! ### The write set of `main` -/

theorem mainEstablishEndpoints_tagged [DecidableEq R] (fuel : Nat) :
    Tagged (MayWrite (env.parseRunArgs opts.runArgs) opts) (mainEstablishEndpoints env opts fuel) := by
  have hguard : ∀ c : Bool, Tagged (MayWrite (env.parseRunArgs opts.runArgs) opts)
      (if c then todo else pure () : AnalyzeM R Unit) :=
    fun _ => Tagged.of_frame_false (Frame.ite (Frame.panicWith _) (Frame.pure _))
  have htrace : ∀ p, Tagged (MayWrite (env.parseRunArgs opts.runArgs) opts) (readTrace env p) :=
    fun _ => Tagged.of_frame_false (Frame.bind (Frame.loadRecord _) fun _ => Frame.pure _)
  have hphase1 : ∀ p, (p ∈ runFiles "phase1_target" ∨ (∃ r, p ∈ runFiles (searchRunname r)) ∨
      p ∈ (baseRunopts env opts).stackPaths) → MayWrite (env.parseRunArgs opts.runArgs) opts .phase1 p
    | p, .inl hp => mayWrite_of_runFiles (.inl (List.mem_singleton_self _)) p hp
    | p, .inr (.inl ⟨r, hp⟩) => mayWrite_of_runFiles (.inr (.inl ⟨rfl, r, rfl⟩)) p hp
    | _, .inr (.inr hp) => mayWrite_of_stackPaths (by decide) hp
  unfold mainEstablishEndpoints
  exact Tagged.bind (hguard _) fun _ => Tagged.bind (hguard _) fun _ =>
    Tagged.bind (mayWrite_inStep (phase1EstablishTargetRun_frame fuel) hphase1) fun ⟨_, _⟩ =>
    Tagged.bind (mayWrite_inStep (phase2Minimize_frame _) fun p _ => by cases p <;> exact .inl rfl)
      fun ⟨_, _, _⟩ =>
    Tagged.bind (mayWrite_inStep (phase3StrictPreemptReplayCheck_frame _ _)
      (mayWrite_append_stackPaths (by decide) (mayWrite_of_runFiles (.inl (by decide))))) fun _ =>
    Tagged.bind (mayWrite_inStep (Frame.writeFile (P := (· ∈ [Path.tmp "final.preempts"]))
      (List.mem_singleton_self _)) (mayWrite_of_forall (by decide))) fun _ =>
    Tagged.bind (mayWrite_inStep (saveFinalTargetSchedEvents_frame _ _)
      (mayWrite_append_stackPaths (by decide) (mayWrite_of_forall (by decide)))) fun _ =>
    Tagged.bind (mayWrite_inStep (phase4ChooseBaselineSchedEvents_frame _ _) mayWrite_phase4)
      fun ⟨_, _⟩ =>
    Tagged.bind (mayWrite_inStep (saveFinalBaselineSchedEvents_frame _ _)
      (mayWrite_append_stackPaths (by decide) (mayWrite_of_forall (by decide)))) fun _ =>
    Tagged.bind (htrace _) fun _ => Tagged.bind (htrace _) fun _ => Tagged.pure _

/-- Every write of `main` is one its step may make. -/
theorem main_tagged [DecidableEq R] (fuel : Nat) :
    Tagged (MayWrite (env.parseRunArgs opts.runArgs) opts) (main env opts fuel) := by
  unfold main
  refine Tagged.bind (mainEstablishEndpoints_tagged fuel) fun ⟨_, _⟩ =>
    Tagged.bind (Tagged.mono (phase5BisectTraces_tagged _ _ _) fun _ _ ⟨k, hk, hp⟩ =>
      hk ▸ mayWrite_probeFiles k _ hp) fun _ =>
    Tagged.bind (mayWrite_inStep (phase6RecordOutputs_frame _) fun p hp =>
      (List.mem_append.mp hp).elim (mayWrite_of_forall (by decide) p)
        (mayWrite_of_recordPreemptionsTo (.inl rfl))) fun _ => ?_
  rcases hr : opts.reportFile with _ | path <;> dsimp only
  · exact Tagged.bind (Tagged.pure _) fun _ => Tagged.pure _
  · exact Tagged.bind (mayWrite_inStep (Frame.writeFile (P := (· = Path.user path)) rfl)
      fun _ hp => hp ▸ .inr (.inr (.inl ⟨rfl, hr⟩))) fun _ => Tagged.pure _

/-! ### Writes outside the workspace -/

def run2File : String → Option (Content (List Nat)) :=
  fun p => if p = "baseline.preempts" then some (.record [1]) else none

/-- From `run2_preemptions`, `main` has the runtime write the user's file in phase 4, and then stops
reading `run2_baseline.preempts`, which that branch never writes. -/
theorem main_overwrites_run2_preemptions :
    (main (demoEnv fun _ => true) { demoOpts with run2Preemptions := some "baseline.preempts" } 3
        (World.init run2File)).1 = .error (.panic "load preemption record") ∧
    ∃ x ∈ (main (demoEnv fun _ => true) { demoOpts with run2Preemptions := some "baseline.preempts" }
        3 (World.init run2File)).2.writes, x.step = .phase4 ∧ x.path = .user "baseline.preempts" := by
  decide

/-- Outside the workspace, a run of `main` writes only the user's `run2_preemptions` file in phase 4,
the report file, the recording the run arguments ask for in the probes and phase 6, and their stack
traces in the other launches, apart from what the minimizer writes. -/
theorem main_user_writes [DecidableEq R] (fuel : Nat) (uf : String → Option (Content R)) :
    ∀ x ∈ (main env opts fuel (World.init uf)).2.writes, ∀ p, x.path = .user p →
      x.step = .phase2 ∨ (x.step = .phase4 ∧ opts.run2Preemptions = some p) ∨
        (x.step = .report ∧ opts.reportFile = some p) ∨
        ((x.step = .phase6 ∨ ∃ i, x.step = .probe i) ∧
          (env.parseRunArgs opts.runArgs).recordPreemptionsTo = some p) ∨
        (x.step ∉ [.start, .finalPreempts, .phase6, .report] ∧
          ∃ k, (k, some p) ∈ (env.parseRunArgs opts.runArgs).stacktraceEvent) := by
  intro x hxm p hp
  have h := (main_tagged fuel).mem_writes_init uf x hxm
  rwa [hp] at h

def recordingEnv : Env (List Nat) :=
  { demoEnv fun _ => true with
    parseRunArgs := fun _ => ⟨false, 0, none, true, false, some "rec.preempts", none, none, []⟩
    runArgsReplayNothing := fun _ => ⟨rfl, rfl⟩ }

theorem main_user_writes_probe_recording :
    let x : Write (List Nat) := ⟨.probe 1, .user "rec.preempts", .record [0]⟩
    x ∈ (main recordingEnv demoOpts 3 demoWorld).2.writes ∧ x.path = .user "rec.preempts" ∧
    (x.step = .phase2 ∨ (x.step = .phase4 ∧ demoOpts.run2Preemptions = some "rec.preempts") ∨
      (x.step = .report ∧ demoOpts.reportFile = some "rec.preempts") ∨
      ((x.step = .phase6 ∨ ∃ i, x.step = .probe i) ∧
        (recordingEnv.parseRunArgs demoOpts.runArgs).recordPreemptionsTo = some "rec.preempts") ∨
      (x.step ∉ [.start, .finalPreempts, .phase6, .report] ∧
        ∃ k, (k, some "rec.preempts") ∈ (recordingEnv.parseRunArgs demoOpts.runArgs).stacktraceEvent)) := by
  intro x
  have hx : x ∈ (main recordingEnv demoOpts 3 demoWorld).2.writes := by decide!
  refine ⟨hx, rfl, ?_⟩
  unfold demoWorld at hx
  exact main_user_writes 3 _ x hx "rec.preempts" rfl

/-! ### One writer per file -/

/-- Over every run of `main`, two different steps write the same workspace file only for the run names
and pairs of steps `sharedRunnames` lists (the minimizer's writes apart), and distinct bisection probes
write distinct workspace files. -/
theorem main_one_writer_per_file [DecidableEq R] (fuel : Nat) (uf : String → Option (Content R)) :
    (∀ x ∈ (main env opts fuel (World.init uf)).2.writes,
      ∀ y ∈ (main env opts fuel (World.init uf)).2.writes,
        x.step ≠ y.step → x.step ≠ .phase2 → y.step ≠ .phase2 → ∀ f, x.path = .tmp f →
          y.path = .tmp f → (fileRunname f, x.step, y.step) ∈ sharedRunnames ∨
            (fileRunname f, y.step, x.step) ∈ sharedRunnames) ∧
    ∀ x ∈ (main env opts fuel (World.init uf)).2.writes,
      ∀ y ∈ (main env opts fuel (World.init uf)).2.writes,
        ∀ i j, x.step = .probe i → y.step = .probe j → i ≠ j → ∀ f, x.path = .tmp f → y.path ≠ .tmp f := by
  have hmem : ∀ x ∈ (main env opts fuel (World.init uf)).2.writes,
      MayWrite (env.parseRunArgs opts.runArgs) opts x.step x.path :=
    (main_tagged fuel).mem_writes_init uf
  refine ⟨fun x hxm y hym hne hx2 hy2 f hxf hyf => ?_, fun x hxm y hym i j hi hj hij f hxf hyf => ?_⟩
  · have h₁ := hxf ▸ hmem x hxm
    have h₂ := hyf ▸ hmem y hym
    exact runnameOf_shared (h₁.resolve_left hx2) (h₂.resolve_left hy2) hne
  · have h₁ := hi ▸ hxf ▸ hmem x hxm
    have h₂ := hj ▸ hyf ▸ hmem y hym
    exact hij (bisectRunname_injective ((fileRunname_of_mayWrite_probe h₁).symm.trans
      (fileRunname_of_mayWrite_probe h₂)))

/-- Outside the workspace, distinct probes can write one file: under
`--record-preemptions-to=rec.preempts` every probe records into it. -/
example :
    let ws := (main recordingEnv demoOpts 3 demoWorld).2.writes
    ∃ x ∈ ws, ∃ y ∈ ws, x.step = .probe 1 ∧ y.step = .probe 2 ∧
      x.path = .user "rec.preempts" ∧ y.path = .user "rec.preempts" :=
  have h : (⟨.probe 1, .user "rec.preempts", .record [0]⟩ : Write (List Nat)) ∈
      (main recordingEnv demoOpts 3 demoWorld).2.writes ∧
      (⟨.probe 2, .user "rec.preempts", .record [0]⟩ : Write (List Nat)) ∈
      (main recordingEnv demoOpts 3 demoWorld).2.writes := by decide!
  ⟨_, h.1, _, h.2, rfl, rfl, rfl, rfl⟩

/-- On the run of `demoOpts` where everything matches, the target endpoint's recording and the driver's
after phase 4 both write `first_matching.events`. -/
theorem main_first_matching_two_writers :
    let ws := (main (demoEnv fun _ => true) demoOpts 3 demoWorld).2.writes
    ∃ x ∈ ws, ∃ y ∈ ws, x.step = .targetEndpoint ∧ y.step = .baselineEndpoint ∧
      x.path = .tmp "first_matching.events" ∧ y.path = .tmp "first_matching.events" :=
  ⟨⟨.targetEndpoint, .tmp "first_matching.events", .record [0]⟩, by decide!,
    ⟨.baselineEndpoint, .tmp "first_matching.events", .record [0]⟩, by decide!, rfl, rfl, rfl, rfl⟩

end Hermit.Analyze
