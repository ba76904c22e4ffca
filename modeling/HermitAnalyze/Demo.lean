import HermitAnalyze.Runner

/-!
# A concrete instance

Collaborators to run the model on: records are lists of preemption points, knockouts drop the last
one, and the program crashes (exit 1) exactly when `crash` holds of what drives it.
-/

namespace Hermit.Analyze

def demoOps : RecordOps (List Nat) where
  normalize := id
  preemptionsOnly := id
  stripContents := fun _ => []
  withLatestPreemptRemoved := List.dropLast
  validate := fun _ => .ok ()
  fromSchedEvents := List.map SchedEvent.index
  schedEvents := List.map (SchedEvent.mk 0)
  display := toString

/-- A runtime whose recording is the record it replays, else its chaos seed; it prints the stack trace of
an event its recording reaches. -/
def demoRuntime (crash : Exec (List Nat) → Bool) (ex : Exec (List Nat)) :
    Except String (RunRecord (List Nat)) :=
  let recording := ex.replayPreemptions.getD (ex.replaySchedule.getD [(ex.schedSeed.getD 0).toNat])
  .ok { output := ⟨"", "", if crash ex then .exited 1 else .exited 0⟩
        log := "replayed"
        recording
        stack := fun i => if i.toNat < recording.length then some (toString i) else none }

def demoEnv (crash : Exec (List Nat) → Bool) : Env (List Nat) where
  ops := demoOps
  runtime := demoRuntime crash
  parseRunArgs := fun _ => ⟨false, 0, none, true, false, none, none, none, []⟩
  runArgsReplayNothing := fun _ => ⟨rfl, rfl⟩
  minimize := fun p w =>
    match w.read p with
    | some (.record r) => (.ok (r, p, logPath "phase1_target"), [])
    | _ => (.error (.panic "minimize"), [])
  logDiff := fun _ a b => a == b
  bisector := ⟨fun _ t answers => if answers.length < 2 then .inl t else .inr ⟨t, t, 1⟩⟩
  searchRng := fun _ n => n.toUInt64
  entropySeed := 0
  tmpDir := "/tmp/hermit_analyze"

/-- Criterion: exit code 1; nothing else set. -/
def demoOpts : AnalyzeOpts where
  targetStdout := none
  targetStderr := none
  targetExitCode := .exact 1
  search := false
  minimize := false
  selfcheck := false
  impreciseSearch := false
  run1Seed := none
  run1Preemptions := none
  run1Schedule := none
  run2Seed := none
  run2Preemptions := none
  run2Schedule := none
  analyzeSeed := none
  reportFile := none
  successExitCode := none
  runArgs := []

def demoWorld : World (List Nat) := World.init fun _ => none

/-! ### A race

Events `0` and `1` sit on two threads; an execution that replays nothing runs `0` first, and the
program fails (exit 1) exactly under that order. The bisector probes the swapped order and reports the
swap at index 1, a critical schedule of the spec's form. -/

def raceOps : RecordOps (List Nat) where
  normalize := id
  preemptionsOnly := id
  stripContents := fun _ => []
  withLatestPreemptRemoved := List.dropLast
  validate := fun _ => .ok ()
  fromSchedEvents := List.map SchedEvent.index
  schedEvents := List.map fun n => ⟨n, n⟩
  display := toString

/-- The racy program under the runtime: each event it reaches prints its stack trace. -/
def raceRuntime (ex : Exec (List Nat)) : Except String (RunRecord (List Nat)) :=
  let recording := ex.replayPreemptions.getD (ex.replaySchedule.getD [0, 1])
  .ok { output := ⟨"", "", if recording = [0, 1] then .exited 1 else .exited 0⟩
        log := "replayed"
        recording
        stack := fun i => if i.toNat < recording.length then some ("stack of event " ++ toString i) else none }

def raceEnv : Env (List Nat) where
  ops := raceOps
  runtime := raceRuntime
  parseRunArgs := fun _ => ⟨false, 0, none, true, false, none, none, none, []⟩
  runArgsReplayNothing := fun _ => ⟨rfl, rfl⟩
  minimize := fun p w =>
    match w.read p with
    | some (.record r) => (.ok (r, p, logPath "phase1_target"), [])
    | _ => (.error (.panic "minimize"), [])
  logDiff := fun _ a b => a == b
  bisector := ⟨fun _ t answers =>
    match answers with
    | [] => .inl t.reverse
    | (_, p) :: _ => .inr ⟨t, p, 1⟩⟩
  searchRng := fun _ n => n.toUInt64
  entropySeed := 0
  tmpDir := "/tmp/hermit_analyze"

end Hermit.Analyze
