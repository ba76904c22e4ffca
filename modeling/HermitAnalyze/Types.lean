import Mathlib.Data.List.Basic

/-!
# Data model of `hermit analyze`

The records that `analyze/phases.rs` passes between its phases and to the runtime it launches.
Types from crates outside this source (detcore, reverie, regex) keep only what this file reads of them.
-/

namespace Hermit.Analyze

/-- A path as the analyzer builds one: a file of its fresh workspace `tmp_dir`, or a path the user gave.
The workspace is created by phase 1 under a fresh name, so no user path lies inside it. -/
inductive Path
  | tmp (file : String)
  | user (path : String)
  deriving DecidableEq, Repr

inductive ExitStatus
  | exited (code : Int)
  | signaled (signal : Nat) (coreDumped : Bool)
  deriving DecidableEq, Repr

inductive ExitStatusConstraint
  | exact (code : Int)
  | nonZero
  | any
  deriving DecidableEq, Repr

/-- Modelled from the spec: `ExitStatusConstraint::is_match` (in `analyze::types`, not in this source),
the exit-code part of the criterion. -/
def ExitStatusConstraint.isMatch : ExitStatusConstraint → ExitStatus → Bool
  | .exact c, s => s == .exited c
  | .nonZero, s => s != .exited 0
  | .any, _ => true

structure Regex where
  isMatch : String → Bool

/-- `reverie::process::Output`, its byte streams taken through `String::from_utf8_lossy`. -/
structure Output where
  stdout : String
  stderr : String
  status : ExitStatus
  deriving DecidableEq, Repr

structure SchedEvent where
  thread : Nat
  index : Nat
  deriving DecidableEq, Repr

/-- `schedule_search::CriticalSchedule`; the index is a `usize` on the 64-bit hosts hermit runs on. -/
structure CriticalSchedule where
  failingSchedule : List SchedEvent
  passingSchedule : List SchedEvent
  criticalEventIndex : UInt64
  deriving DecidableEq, Repr

structure Report where
  header : String
  stack1 : String
  stack2 : String
  deriving DecidableEq, Repr

/-- What `RunOpts::from_iter` reads from the `hermit run` arguments the analyzer passes through: the flags
that drive an execution, `--no-sequentialize-threads`, and the replay, recording and stack-trace flags,
which a launch of this file keeps unless it sets its own. Their paths are the user's. -/
structure RunArgs where
  noSequentializeThreads : Bool
  seed : UInt64
  schedSeed : Option UInt64
  chaos : Bool
  impreciseTimers : Bool
  recordPreemptionsTo : Option String
  replayPreemptionsFrom : Option String
  replayScheduleFrom : Option String
  stacktraceEvent : List (UInt64 × Option String)
  deriving DecidableEq, Repr

/-- The fields of `RunOpts` (all in `det_opts.det_config`) that this file sets or that drive an execution. -/
structure RunOpts where
  seed : UInt64
  schedSeed : Option UInt64
  chaos : Bool
  impreciseTimers : Bool
  recordPreemptionsTo : Option Path
  replayPreemptionsFrom : Option Path
  replayScheduleFrom : Option Path
  stacktraceEvent : List (UInt64 × Option Path)
  deriving DecidableEq, Repr

/-- The run options parsed from `run_args`, before the analyzer sets any replay or recording flag. -/
def RunArgs.toRunOpts (a : RunArgs) : RunOpts :=
  { seed := a.seed, schedSeed := a.schedSeed, chaos := a.chaos, impreciseTimers := a.impreciseTimers,
    recordPreemptionsTo := a.recordPreemptionsTo.map .user,
    replayPreemptionsFrom := a.replayPreemptionsFrom.map .user,
    replayScheduleFrom := a.replayScheduleFrom.map .user,
    stacktraceEvent := a.stacktraceEvent.map fun e => (e.1, e.2.map .user) }

def RunOpts.stackPaths (ro : RunOpts) : List Path := ro.stacktraceEvent.filterMap (·.2)

/-- What determines one execution of the deterministic runtime: its seeds and the contents of the
preemption record or schedule it replays (the spec's three replay modes). -/
structure Exec (R : Type) where
  seed : UInt64
  schedSeed : Option UInt64
  chaos : Bool
  impreciseTimers : Bool
  replayPreemptions : Option R
  replaySchedule : Option R
  deriving DecidableEq, Repr

/-- What one execution produces: the captured output, the log the runtime writes, the preemption record
it records (with the schedule's events), and the stack trace it prints at an event, when that event
fires. -/
structure RunRecord (R : Type) where
  output : Output
  log : String
  recording : R
  stack : UInt64 → Option String

/-- The operations of `detcore::preemptions::PreemptionRecord` that this file calls; detcore is not part
of this source, so they are parameters of the model. `schedEvents` is what `read_trace` returns. -/
structure RecordOps (R : Type) where
  normalize : R → R
  preemptionsOnly : R → R
  stripContents : R → R
  withLatestPreemptRemoved : R → R
  validate : R → Except String Unit
  fromSchedEvents : List SchedEvent → R
  schedEvents : R → List SchedEvent
  display : R → String

structure AnalyzeOpts where
  targetStdout : Option Regex
  targetStderr : Option Regex
  targetExitCode : ExitStatusConstraint
  search : Bool
  minimize : Bool
  selfcheck : Bool
  impreciseSearch : Bool
  run1Seed : Option UInt64
  run1Preemptions : Option String
  run1Schedule : Option String
  run2Seed : Option UInt64
  run2Preemptions : Option String
  run2Schedule : Option String
  analyzeSeed : Option UInt64
  reportFile : Option String
  successExitCode : Option Int
  runArgs : List String

def AnalyzeOpts.outputMatches (opts : AnalyzeOpts) (out : Output) : Bool :=
  (opts.targetStdout.all fun pat => pat.isMatch out.stdout) &&
    (opts.targetStderr.all fun pat => pat.isMatch out.stderr) &&
    opts.targetExitCode.isMatch out.status

end Hermit.Analyze
