import HermitAnalyze.Bisect

/-!
# Phase 6 and the report

Phase 6 saves both sides of the critical schedule and replays the failing side once more, asking the
runtime for the stack traces at the critical event and the one before it; the report is those two
traces under a fixed header, and it is made only when that replay matches.
-/

namespace Hermit.Analyze

open AnalyzeM

section

variable {R : Type} [DecidableEq R] (env : Env R) (opts : AnalyzeOpts)

def phase6RecordOutputs (crit : CriticalSchedule) : AnalyzeM R Report := do
  let runname := "final_target_for_stacktraces"
  let finalFailingPath := Path.tmp (withExtension runname SCHED_EXT)
  writeFile finalFailingPath (.record (env.ops.fromSchedEvents crit.failingSchedule))
  let finalPassingPath := Path.tmp (withExtension "final_baseline" SCHED_EXT)
  writeFile finalPassingPath (.record (env.ops.fromSchedEvents crit.passingSchedule))
  let header := "These two operations, on different threads, are RACING with eachother.\n" ++
    "The current order of events " ++ toString (crit.criticalEventIndex - 1) ++ " and " ++
    toString crit.criticalEventIndex ++ " is causing a FAILURE.\n" ++
    "You must add synchronization to prevent these operations from racing, or give them a " ++
    "different order.\n"
  let (res, stack1Path, stack2Path, _) ←
    launchForStacktraces env opts runname finalFailingPath crit.criticalEventIndex
  let stack1 ← readToString stack1Path
  let stack2 ← readToString stack2Path
  if res then pure { header, stack1, stack2 }
  else bail "Internal error! Final run did NOT match the criteria as expected!"

end

variable {R : Type} {env : Env R} {opts : AnalyzeOpts} {w w' : World R}

/-- The header `phase6_record_outputs` puts above the stack traces of the critical event `idx`. -/
def reportHeader (idx : UInt64) : String :=
  "These two operations, on different threads, are RACING with eachother.\n" ++
    "The current order of events " ++ toString (idx - 1) ++ " and " ++
    toString idx ++ " is causing a FAILURE.\n" ++
    "You must add synchronization to prevent these operations from racing, or give them a " ++
    "different order.\n"

theorem launchForStacktraces_run
    (hseq : (env.parseRunArgs opts.runArgs).noSequentializeThreads = false) {runname : String}
    {sp : Path} {idx : UInt64} {sched : List SchedEvent} (hsp : sp ≠ logPath runname)
    (hr : w.read sp = some (.record (env.ops.fromSchedEvents sched))) :
    let s1 := Path.tmp (withExtension runname "stack1")
    let s2 := Path.tmp (withExtension runname "stack2")
    let ro := { baseRunopts env opts with
      replayScheduleFrom := some sp, stacktraceEvent := [(idx - 1, some s1), (idx, some s2)] }
    launchForStacktraces env opts runname sp idx w =
      match env.runtime (schedExec env opts sched) with
      | .ok rec => (.ok (opts.outputMatches rec.output, s1, s2, ro), launchWorld w runname ro rec)
      | .error e => (.error (.error e), launchStart w runname ro) := by
  intro s1 s2 ro
  have hex : execOf ro (launchStart w runname ro) = some (schedExec env opts sched) := by
    simp [execOf, replayInput, launchStart, ro, schedExec, World.read_write_of_ne _ _ hsp, hr]
  rw [launchForStacktraces_eq hseq]
  rcases hrun : env.runtime (schedExec env opts sched) with e | rec
  · exact bind_of_error _ (launchConfig_error hex hrun)
  · exact (bind_of_ok _ (launchConfig_apply hex hrun)).trans (pure_apply _ _)

/-- What a stack-trace file holds after a run: the trace its event printed, when the event fired, and
otherwise what the file held before. -/
def stackAfter (old : Option (Content R)) : Option String → Option (Content R)
  | some s => some (.text s)
  | none => old

theorem text_eq_of_stackAfter {old : Option (Content R)} {o : Option String} {t : String}
    (h : stackAfter old o = some (.text t)) : ∀ s, o = some s → t = s := by
  rintro s rfl
  simpa [stackAfter] using h.symm

theorem launchForStacktraces_read_stacks (runname : String) (sp : Path) (idx : UInt64) (rec : RunRecord R)
    (w : World R) :
    let s1 := Path.tmp (withExtension runname "stack1")
    let s2 := Path.tmp (withExtension runname "stack2")
    let ro := { baseRunopts env opts with
      replayScheduleFrom := some sp, stacktraceEvent := [(idx - 1, some s1), (idx, some s2)] }
    (launchWorld w runname ro rec).read s1 = stackAfter (w.read s1) (rec.stack (idx - 1)) ∧
      (launchWorld w runname ro rec).read s2 = stackAfter (w.read s2) (rec.stack idx) := by
  intro s1 s2 ro
  -- the recording goes to a file of the user's
  have hrec : ∀ q, q = s1 ∨ q = s2 →
      q ∉ (ro.recordPreemptionsTo.toList.map fun p => (p, (.record rec.recording : Content R))).map Prod.fst :=
    fun q hq hm => by
      simp only [List.map_map, Function.comp_def, List.map_id'] at hm
      obtain ⟨u, rfl, -⟩ := mem_baseRunopts_recordPreemptionsTo hm
      rcases hq with hq | hq <;> exact Path.noConfusion hq
  simp only [launchWorld, launchStart, runOutputs, World.writeAll_append]
  rcases hs1 : rec.stack (idx - 1) with _ | t1 <;> rcases hs2 : rec.stack idx with _ | t2 <;>
    simp [stackOutputs, ro, s1, s2, hs1, hs2, World.writeAll, stackAfter, logPath, LOG_EXT, stdoutPath, stderrPath,
      World.read_writeAll_of_not_mem _ (hrec _ (.inl rfl)), World.read_writeAll_of_not_mem _ (hrec _ (.inr rfl))]

/-- Phase 6 reports the traces its replay of the failing schedule leaves in the two stack-trace files,
when that replay matches the criteria; it panics when either file holds no text, and otherwise fails
with the runtime's error or its own internal error. -/
theorem phase6RecordOutputs_result
    (hseq : (env.parseRunArgs opts.runArgs).noSequentializeThreads = false) (crit : CriticalSchedule)
    (w : World R) :
    (phase6RecordOutputs env opts crit w).1 =
      match env.runtime (schedExec env opts crit.failingSchedule) with
      | .ok rec =>
        match stackAfter (w.read (.tmp (withExtension "final_target_for_stacktraces" "stack1")))
            (rec.stack (crit.criticalEventIndex - 1)),
          stackAfter (w.read (.tmp (withExtension "final_target_for_stacktraces" "stack2")))
            (rec.stack crit.criticalEventIndex) with
        | some (.text s1), some (.text s2) =>
          if opts.outputMatches rec.output then .ok ⟨reportHeader crit.criticalEventIndex, s1, s2⟩
          else .error (.error "Internal error! Final run did NOT match the criteria as expected!")
        | _, _ => .error (.panic "read_to_string")
      | .error e => .error (.error e) := by
  rw [phase6RecordOutputs, bind_of_ok _ (writeFile_apply _ _ _), bind_of_ok _ (writeFile_apply _ _ _)]
  dsimp only
  rw [bind_apply, launchForStacktraces_run hseq (tmp_withExtension_ne (by decide))
    ((World.read_write_of_ne _ _ (by decide)).trans (World.read_write_self _ _ _))]
  rcases env.runtime (schedExec env opts crit.failingSchedule) with e | rec
  · rfl
  · obtain ⟨h1, h2⟩ := launchForStacktraces_read_stacks "final_target_for_stacktraces"
      (.tmp (withExtension "final_target_for_stacktraces" SCHED_EXT)) crit.criticalEventIndex rec
      ((w.write (.tmp (withExtension "final_target_for_stacktraces" SCHED_EXT))
        (.record (env.ops.fromSchedEvents crit.failingSchedule))).write
        (.tmp (withExtension "final_baseline" SCHED_EXT))
        (.record (env.ops.fromSchedEvents crit.passingSchedule)))
    simp (disch := decide) only [World.read_write_of_ne] at h1 h2
    dsimp only
    generalize stackAfter (w.read (.tmp (withExtension "final_target_for_stacktraces" "stack1")))
      (rec.stack (crit.criticalEventIndex - 1)) = c1 at h1 ⊢
    generalize stackAfter (w.read (.tmp (withExtension "final_target_for_stacktraces" "stack2")))
      (rec.stack crit.criticalEventIndex) = c2 at h2 ⊢
    rw [bind_apply, readToString_eq, h1]
    rcases c1 with _ | _ | s1 | _
    case some.text =>
      dsimp only
      rw [bind_apply, readToString_eq, h2]
      rcases c2 with _ | _ | s2 | _
      case some.text => cases hm : opts.outputMatches rec.output <;> simp only [hm] <;> rfl
      all_goals rfl
    all_goals rfl

theorem phase6RecordOutputs_ok
    (hseq : (env.parseRunArgs opts.runArgs).noSequentializeThreads = false) {crit : CriticalSchedule}
    {w : World R} {rep : Report} (h : (phase6RecordOutputs env opts crit w).1 = .ok rep) :
    ∃ rec s1 s2, env.runtime (schedExec env opts crit.failingSchedule) = .ok rec ∧
      opts.outputMatches rec.output = true ∧
      stackAfter (w.read (.tmp (withExtension "final_target_for_stacktraces" "stack1")))
        (rec.stack (crit.criticalEventIndex - 1)) = some (.text s1) ∧
      stackAfter (w.read (.tmp (withExtension "final_target_for_stacktraces" "stack2")))
        (rec.stack crit.criticalEventIndex) = some (.text s2) ∧
      rep = ⟨reportHeader crit.criticalEventIndex, s1, s2⟩ := by
  rw [phase6RecordOutputs_result hseq] at h
  rcases hr : env.runtime (schedExec env opts crit.failingSchedule) with e | rec <;> rw [hr] at h
  · cases h
  dsimp only at h
  split at h
  next s1 s2 hs1 hs2 =>
    split at h
    next hm => exact ⟨rec, s1, s2, rfl, hm, hs1, hs2, (Except.ok.inj h).symm⟩
    next => cases h
  next => cases h

/-- A critical index past the failing schedule's last event: its trace is never printed, and phase 6
panics reading the missing file. -/
example : (phase6RecordOutputs (demoEnv fun _ => true) demoOpts ⟨[⟨0, 1⟩], [], 1⟩ demoWorld).1 =
    .error (.panic "read_to_string") := by
  decide

/-! ### What phase 6 writes -/

def phase6Files : List Path :=
  [.tmp (withExtension "final_target_for_stacktraces" SCHED_EXT),
    .tmp (withExtension "final_baseline" SCHED_EXT), logPath "final_target_for_stacktraces",
    stdoutPath "final_target_for_stacktraces", stderrPath "final_target_for_stacktraces",
    .tmp (withExtension "final_target_for_stacktraces" "stack1"),
    .tmp (withExtension "final_target_for_stacktraces" "stack2")]

/-- Phase 6 writes its own files, and the recording the run arguments ask for. -/
theorem phase6RecordOutputs_frame (crit : CriticalSchedule) :
    Frame (· ∈ phase6Files ++ (baseRunopts env opts).recordPreemptionsTo.toList)
      (phase6RecordOutputs env opts crit) := by
  unfold phase6RecordOutputs
  refine Frame.bind (Frame.writeFile (by simp [phase6Files])) fun _ =>
    Frame.bind (Frame.writeFile (by simp [phase6Files])) fun _ =>
      Frame.bind (Frame.mono (launchForStacktraces_frame _ _ _) fun p hp => ?_) fun ⟨_, _, _, _⟩ =>
        Frame.bind (Frame.readToString _) fun _ => Frame.bind (Frame.readToString _) fun _ =>
          Frame.ite (Frame.pure _) (Frame.bail _)
  simp only [List.mem_append, List.mem_cons, List.not_mem_nil, or_false] at hp
  rcases hp with ((rfl | rfl | rfl) | hp) | rfl | rfl
  iterate 3 exact List.mem_append_left _ (by simp [phase6Files])
  · exact List.mem_append_right _ hp
  all_goals exact List.mem_append_left _ (by simp [phase6Files])

end Hermit.Analyze
