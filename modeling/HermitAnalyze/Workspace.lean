import HermitAnalyze.Types

/-!
# The analyzer's world and its computations

Files (the workspace and the user's own files), every write of a run with the pipeline step that made it,
and every launch of the runtime. `AnalyzeM` keeps the world on failure too, so that what a run wrote
before it stopped stays observable.
-/

namespace Hermit.Analyze

/-- What a file holds: a preemption record (`write_to_disk`, or the runtime's recording), text (a log,
a captured stream, a stack trace), or the JSON report. -/
inductive Content (R : Type)
  | record (r : R)
  | text (s : String)
  | report (r : Report)
  deriving DecidableEq, Repr

/-- The step of `main` that is running; ghost state that tags each write, for saying which step wrote
what. Every bisection probe is a step of its own. -/
inductive Step
  | start
  | phase1
  | phase2
  | phase3
  | finalPreempts
  | targetEndpoint
  | phase4
  | baselineEndpoint
  | probe (i : Nat)
  | phase6
  | report
  deriving DecidableEq, Repr

structure Write (R : Type) where
  step : Step
  path : Path
  content : Content R
  deriving DecidableEq, Repr

/-- The state a run of the analyzer threads: the user's files as they were, every write (newest first),
every launch of the runtime with its log path (newest first), and the running step. -/
structure World (R : Type) where
  userFiles : String → Option (Content R)
  writes : List (Write R)
  launches : List (Path × RunOpts)
  step : Step

variable {R α β : Type}

def World.init (userFiles : String → Option (Content R)) : World R :=
  { userFiles, writes := [], launches := [], step := .start }

/-- The contents of a file: its last write, else what the user had there. -/
def World.read (w : World R) (p : Path) : Option (Content R) :=
  match w.writes.find? (fun wr => wr.path == p) with
  | some wr => some wr.content
  | none =>
    match p with
    | .user s => w.userFiles s
    | .tmp _ => none

def World.write (w : World R) (p : Path) (c : Content R) : World R :=
  match w with
  | ⟨uf, ws, ls, st⟩ => ⟨uf, ⟨st, p, c⟩ :: ws, ls, st⟩

def World.writeAll (w : World R) : List (Path × Content R) → World R
  | [] => w
  | (p, c) :: rest => (w.write p c).writeAll rest

def World.launch (w : World R) (log : Path) (ro : RunOpts) : World R :=
  match w with
  | ⟨uf, ws, ls, st⟩ => ⟨uf, ws, (log, ro) :: ls, st⟩

def World.setStep (w : World R) (st : Step) : World R :=
  match w with
  | ⟨uf, ws, ls, _⟩ => ⟨uf, ws, ls, st⟩

namespace World

variable (w : World R)

@[simp] theorem read_write_self (p : Path) (c : Content R) : (w.write p c).read p = some c := by
  simp [read, write]

@[simp] theorem read_write_of_ne {p q : Path} (c : Content R) (h : q ≠ p) :
    (w.write p c).read q = w.read q := by
  simp [read, write, Ne.symm h]

@[simp] theorem write_launches (p : Path) (c : Content R) : (w.write p c).launches = w.launches := rfl

@[simp] theorem write_step (p : Path) (c : Content R) : (w.write p c).step = w.step := rfl

@[simp] theorem write_writes (p : Path) (c : Content R) :
    (w.write p c).writes = ⟨w.step, p, c⟩ :: w.writes := rfl

@[simp] theorem read_launch (log p : Path) (ro : RunOpts) : (w.launch log ro).read p = w.read p := rfl

@[simp] theorem launch_launches (log : Path) (ro : RunOpts) :
    (w.launch log ro).launches = (log, ro) :: w.launches := rfl

@[simp] theorem launch_step (log : Path) (ro : RunOpts) : (w.launch log ro).step = w.step := rfl

@[simp] theorem launch_writes (log : Path) (ro : RunOpts) : (w.launch log ro).writes = w.writes := rfl

@[simp] theorem setStep_step (st : Step) : (w.setStep st).step = st := rfl

@[simp] theorem setStep_writes (st : Step) : (w.setStep st).writes = w.writes := rfl

@[simp] theorem setStep_launches (st : Step) : (w.setStep st).launches = w.launches := rfl

@[simp] theorem read_setStep (st : Step) (p : Path) : (w.setStep st).read p = w.read p := rfl

theorem read_writeAll_of_not_mem {p : Path} {ws : List (Path × Content R)}
    (h : p ∉ ws.map Prod.fst) : (w.writeAll ws).read p = w.read p := by
  induction ws generalizing w with
  | nil => rfl
  | cons qc rest ih =>
    simp only [List.map_cons, List.mem_cons, not_or] at h
    rw [writeAll, ih _ h.2, read_write_of_ne _ _ h.1]

theorem writeAll_append (ws vs : List (Path × Content R)) :
    w.writeAll (ws ++ vs) = (w.writeAll ws).writeAll vs := by
  induction ws generalizing w with
  | nil => rfl
  | cons qc rest ih => exact ih _

@[simp] theorem writeAll_launches (ws : List (Path × Content R)) :
    (w.writeAll ws).launches = w.launches := by
  induction ws generalizing w with
  | nil => rfl
  | cons qc rest ih => simp [writeAll, ih]

@[simp] theorem writeAll_step (ws : List (Path × Content R)) : (w.writeAll ws).step = w.step := by
  induction ws generalizing w with
  | nil => rfl
  | cons qc rest ih => simp [writeAll, ih]

theorem writeAll_writes (ws : List (Path × Content R)) :
    (w.writeAll ws).writes = (ws.map fun pc => (⟨w.step, pc.1, pc.2⟩ : Write R)).reverse ++ w.writes := by
  induction ws generalizing w with
  | nil => rfl
  | cons qc rest ih => simp [writeAll, ih]

@[simp] theorem init_read_tmp (uf : String → Option (Content R)) (f : String) :
    (init uf).read (.tmp f) = none := rfl

end World

/-- How a run stops early: an `Err` handed to the caller (`bail!`, `?`), a panic (`unwrap`, `expect`,
`todo!`, `panic!`), or the model's bound on a loop the source leaves unbounded. -/
inductive Failure
  | error (msg : String)
  | panic (msg : String)
  | outOfFuel
  deriving DecidableEq, Repr

instance instDecidableEqExcept {ε α : Type} [DecidableEq ε] [DecidableEq α] :
    DecidableEq (Except ε α)
  | .error a, .error b => if h : a = b then isTrue (h ▸ rfl) else isFalse (by simp [h])
  | .ok a, .ok b => if h : a = b then isTrue (h ▸ rfl) else isFalse (by simp [h])
  | .error _, .ok _ => isFalse (by simp)
  | .ok _, .error _ => isFalse (by simp)

/-- A computation of the analyzer: from a world, a result or a failure, and the world it leaves. -/
def AnalyzeM (R α : Type) : Type := World R → Except Failure α × World R

instance : Monad (AnalyzeM R) where
  pure a := fun w => (.ok a, w)
  bind m f := fun w =>
    match m w with
    | (.ok a, w') => f a w'
    | (.error e, w') => (.error e, w')

namespace AnalyzeM

@[simp] theorem pure_apply (a : α) (w : World R) : (pure a : AnalyzeM R α) w = (.ok a, w) := rfl

theorem bind_apply (m : AnalyzeM R α) (f : α → AnalyzeM R β) (w : World R) :
    (m >>= f) w = match m w with
      | (.ok a, w') => f a w'
      | (.error e, w') => (.error e, w') := rfl

theorem bind_of_ok {m : AnalyzeM R α} {w w' : World R} {a : α} (f : α → AnalyzeM R β)
    (h : m w = (.ok a, w')) : (m >>= f) w = f a w' := by
  rw [bind_apply, h]

theorem bind_of_error {m : AnalyzeM R α} {w w' : World R} {e : Failure} (f : α → AnalyzeM R β)
    (h : m w = (.error e, w')) : (m >>= f) w = (.error e, w') := by
  rw [bind_apply, h]

theorem bind_ok {m : AnalyzeM R α} {f : α → AnalyzeM R β} {w w'' : World R} {b : β}
    (h : (m >>= f) w = (.ok b, w'')) : ∃ a w', m w = (.ok a, w') ∧ f a w' = (.ok b, w'') := by
  rw [bind_apply] at h
  match hm : m w, h with
  | (.ok a, w'), h => exact ⟨a, w', rfl, by simpa [hm] using h⟩
  | (.error e, w'), h => simp [hm] at h

theorem bind_pure_ok {m : AnalyzeM R α} {b b' : β} {w w' : World R}
    (h : (m >>= fun _ => pure b) w = (.ok b', w')) : b' = b ∧ ∃ a, m w = (.ok a, w') := by
  obtain ⟨a, w₁, hm, h⟩ := bind_ok h
  simp only [pure_apply, Prod.mk.injEq, Except.ok.injEq] at h
  exact ⟨h.1.symm, a, h.2 ▸ hm⟩

def fail (e : Failure) : AnalyzeM R α := fun w => (.error e, w)

def bail (msg : String) : AnalyzeM R α := fail (.error msg)

def panicWith (msg : String) : AnalyzeM R α := fail (.panic msg)

def todo : AnalyzeM R α := panicWith "not yet implemented"

/-- A panic in place of an `Err`: `.unwrap()`, `.expect(msg)`, `.unwrap_or_else(|e| panic!(..))`. -/
def unwrapWith (f : String → String) (m : AnalyzeM R α) : AnalyzeM R α := fun w =>
  match m w with
  | (.error (.error e), w') => (.error (.panic (f e)), w')
  | r => r

def unwrap (m : AnalyzeM R α) : AnalyzeM R α := unwrapWith id m

def expect (msg : String) (m : AnalyzeM R α) : AnalyzeM R α := unwrapWith (fun _ => msg) m

def writeFile (p : Path) (c : Content R) : AnalyzeM R Unit := fun w => (.ok (), w.write p c)

def gets (f : World R → α) : AnalyzeM R α := fun w => (.ok (f w), w)

def readFile (p : Path) : AnalyzeM R (Option (Content R)) := gets (·.read p)

def inStep (st : Step) (m : AnalyzeM R α) : AnalyzeM R α := fun w => m (w.setStep st)

def recordLaunch (log : Path) (ro : RunOpts) : AnalyzeM R Unit := fun w => (.ok (), w.launch log ro)

def writeAll (ws : List (Path × Content R)) : AnalyzeM R Unit := fun w => (.ok (), w.writeAll ws)

@[simp] theorem fail_apply (e : Failure) (w : World R) : (fail e : AnalyzeM R α) w = (.error e, w) := rfl

@[simp] theorem writeFile_apply (p : Path) (c : Content R) (w : World R) :
    writeFile p c w = (.ok (), w.write p c) := rfl

@[simp] theorem readFile_apply (p : Path) (w : World R) :
    (readFile p : AnalyzeM R _) w = (.ok (w.read p), w) := rfl

theorem inStep_apply (st : Step) (m : AnalyzeM R α) (w : World R) : inStep st m w = m (w.setStep st) :=
  rfl

theorem unwrapWith_of_ok {m : AnalyzeM R α} {w w' : World R} {a : α} (f : String → String)
    (h : m w = (.ok a, w')) : unwrapWith f m w = (.ok a, w') := by
  simp [unwrapWith, h]

theorem unwrapWith_of_error {m : AnalyzeM R α} {w w' : World R} {e : String} (f : String → String)
    (h : m w = (.error (.error e), w')) : unwrapWith f m w = (.error (.panic (f e)), w') := by
  simp [unwrapWith, h]

theorem ok_of_unwrapWith {m : AnalyzeM R α} {w w' : World R} {a : α} {f : String → String}
    (h : unwrapWith f m w = (.ok a, w')) : m w = (.ok a, w') := by
  unfold unwrapWith at h
  split at h <;> simp_all

end AnalyzeM

/-- `PreemptionReader::new(p).load_all()`: a file that holds no preemption record makes it panic. -/
def loadRecord (p : Path) : AnalyzeM R R := do
  match ← AnalyzeM.readFile p with
  | some (.record r) => pure r
  | _ => AnalyzeM.panicWith "load preemption record"

def copyFile (msg : String) (src dst : Path) : AnalyzeM R Unit := do
  match ← AnalyzeM.readFile src with
  | some c => AnalyzeM.writeFile dst c
  | none => AnalyzeM.panicWith msg

def readToString (p : Path) : AnalyzeM R String := do
  match ← AnalyzeM.readFile p with
  | some (.text s) => pure s
  | _ => AnalyzeM.panicWith "read_to_string"

theorem loadRecord_ok {p : Path} {w w' : World R} {r : R} (h : loadRecord p w = (.ok r, w')) :
    w.read p = some (.record r) ∧ w' = w := by
  rcases hw : w.read p with _ | ⟨r'⟩ | _ | _ <;>
    simp_all [loadRecord, AnalyzeM.bind_apply, AnalyzeM.readFile, AnalyzeM.gets, AnalyzeM.panicWith]

theorem loadRecord_apply {p : Path} {w : World R} {r : R} (h : w.read p = some (.record r)) :
    loadRecord p w = (.ok r, w) := by
  simp [loadRecord, AnalyzeM.bind_apply, AnalyzeM.readFile, AnalyzeM.gets, h]

theorem copyFile_ok {msg : String} {src dst : Path} {w w' : World R} (h : copyFile msg src dst w = (.ok (), w')) :
    ∃ c, w.read src = some c ∧ w' = w.write dst c := by
  rcases hw : w.read src with _ | c <;>
    simp_all [copyFile, AnalyzeM.bind_apply, AnalyzeM.readFile, AnalyzeM.gets, AnalyzeM.panicWith]

theorem copyFile_apply {msg : String} {src dst : Path} {w : World R} {c : Content R}
    (h : w.read src = some c) : copyFile msg src dst w = (.ok (), w.write dst c) := by
  simp [copyFile, AnalyzeM.bind_apply, AnalyzeM.readFile, AnalyzeM.gets, h]

theorem readToString_ok {p : Path} {w w' : World R} {s : String} (h : readToString p w = (.ok s, w')) :
    w.read p = some (.text s) ∧ w' = w := by
  rcases hw : w.read p with _ | _ | ⟨s'⟩ | _ <;>
    simp_all [readToString, AnalyzeM.bind_apply, AnalyzeM.readFile, AnalyzeM.gets, AnalyzeM.panicWith]

theorem readToString_apply {p : Path} {w : World R} {s : String} (h : w.read p = some (.text s)) :
    readToString p w = (.ok s, w) := by
  simp [readToString, AnalyzeM.bind_apply, AnalyzeM.readFile, AnalyzeM.gets, h]

theorem readToString_eq (p : Path) (w : World R) :
    readToString p w = (match w.read p with
      | some (.text s) => .ok s
      | _ => .error (.panic "read_to_string"), w) := by
  rcases hw : w.read p with _ | _ | s | _ <;>
    simp [readToString, AnalyzeM.bind_apply, AnalyzeM.readFile, AnalyzeM.gets, AnalyzeM.panicWith,
      AnalyzeM.fail, hw]

end Hermit.Analyze
