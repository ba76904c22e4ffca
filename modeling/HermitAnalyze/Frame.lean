import HermitAnalyze.Workspace

/-!
# Write sets

`Frame P m`: a run of `m`, whatever its outcome, keeps the user's files and the running step, and every
write it appends is tagged with that step and goes to a path satisfying `P`. One rule per primitive
and one for bind; the steps of the pipeline get theirs from these. `Tagged` is the same for a
computation that runs several steps, each write carrying its own tag. `Terminates m`: `m` never
exhausts the bound of a loop, that is, the source computation terminates.
-/

namespace Hermit.Analyze

open AnalyzeM

variable {R α β : Type}

theorem World.read_of_writes_append {w w' : World R} {ws : List (Write R)} {q : Path}
    (h : w'.writes = ws ++ w.writes) (hu : w'.userFiles = w.userFiles)
    (hq : ∀ x ∈ ws, x.path ≠ q) : w'.read q = w.read q := by
  have hf : w'.writes.find? (fun wr => wr.path == q) = w.writes.find? (fun wr => wr.path == q) := by
    rw [h, List.find?_append, List.find?_eq_none.mpr (by simpa using hq)]
    rfl
  simp only [World.read, hf, hu]

/-- `m` writes only paths satisfying `P`, tagged with the step it runs in. -/
def Frame (P : Path → Prop) (m : AnalyzeM R α) : Prop :=
  ∀ w, (m w).2.userFiles = w.userFiles ∧ (m w).2.step = w.step ∧
    ∃ ws, (m w).2.writes = ws ++ w.writes ∧ ∀ x ∈ ws, x.step = w.step ∧ P x.path

namespace Frame

variable {P Q : Path → Prop} {m : AnalyzeM R α}

theorem mono (h : Frame P m) (hPQ : ∀ p, P p → Q p) : Frame Q m := fun w => by
  obtain ⟨hu, hs, ws, hw, hx⟩ := h w
  exact ⟨hu, hs, ws, hw, fun x hm => ⟨(hx x hm).1, hPQ _ (hx x hm).2⟩⟩

theorem pure (a : α) : Frame P (Pure.pure a : AnalyzeM R α) := fun w => ⟨rfl, rfl, [], rfl, by simp⟩

theorem fail (e : Failure) : Frame P (AnalyzeM.fail e : AnalyzeM R α) :=
  fun w => ⟨rfl, rfl, [], rfl, by simp⟩

theorem bail (msg : String) : Frame P (AnalyzeM.bail msg : AnalyzeM R α) := fail _

theorem panicWith (msg : String) : Frame P (AnalyzeM.panicWith msg : AnalyzeM R α) := fail _

theorem bind_of_returns {f : α → AnalyzeM R β} {Q : α → Prop} (hm : Frame P m)
    (hQ : ∀ w a w', m w = (.ok a, w') → Q a) (hf : ∀ a, Q a → Frame P (f a)) :
    Frame P (m >>= f) := fun w => by
  obtain ⟨hu, hs, ws, hw, hx⟩ := hm w
  rw [bind_apply]
  match hmw : m w with
  | (.error e, w1) => simp only [hmw] at hu hs hw; exact ⟨hu, hs, ws, hw, hx⟩
  | (.ok a, w1) =>
    simp only [hmw] at hu hs hw
    obtain ⟨hu', hs', ws', hw', hx'⟩ := hf a (hQ w a w1 hmw) w1
    refine ⟨hu'.trans hu, hs'.trans hs, ws' ++ ws, by rw [hw', hw, List.append_assoc], ?_⟩
    intro x hmem
    rcases List.mem_append.mp hmem with h | h
    · exact ⟨(hx' x h).1.trans hs, (hx' x h).2⟩
    · exact hx x h

theorem bind {f : α → AnalyzeM R β} (hm : Frame P m) (hf : ∀ a, Frame P (f a)) :
    Frame P (m >>= f) :=
  bind_of_returns (Q := fun _ => True) hm (fun _ _ _ _ => trivial) fun a _ => hf a

theorem writeFile {p : Path} {c : Content R} (hp : P p) : Frame P (AnalyzeM.writeFile p c) :=
  fun w => ⟨by cases w; rfl, by simp, [⟨w.step, p, c⟩], by simp, by simpa using hp⟩

theorem gets (f : World R → α) : Frame P (AnalyzeM.gets f) := fun w => ⟨rfl, rfl, [], rfl, by simp⟩

theorem readFile (p : Path) : Frame P (AnalyzeM.readFile p : AnalyzeM R _) := gets _

theorem recordLaunch (log : Path) (ro : RunOpts) : Frame P (AnalyzeM.recordLaunch log ro : AnalyzeM R _) :=
  fun w => ⟨by cases w; rfl, by simp [AnalyzeM.recordLaunch], [], by simp [AnalyzeM.recordLaunch], by simp⟩

theorem writeAll {ws : List (Path × Content R)} (h : ∀ pc ∈ ws, P pc.1) :
    Frame P (AnalyzeM.writeAll ws) := fun w => by
  refine ⟨?_, by simp [AnalyzeM.writeAll], _, World.writeAll_writes w ws, ?_⟩
  · induction ws generalizing w with
    | nil => rfl
    | cons pc rest ih =>
      exact (ih (fun q hq => h q (List.mem_cons_of_mem _ hq)) (w.write pc.1 pc.2)).trans
        (by cases w; rfl)
  · intro x hx
    obtain ⟨pc, hpc, rfl⟩ := List.mem_map.mp (List.mem_reverse.mp hx)
    exact ⟨rfl, h pc hpc⟩

theorem unwrapWith {f : String → String} (h : Frame P m) : Frame P (AnalyzeM.unwrapWith f m) :=
  fun w => by
    unfold AnalyzeM.unwrapWith
    split <;> rename_i heq <;> simpa [heq] using h w

theorem ite {c : Prop} [Decidable c] {m₁ m₂ : AnalyzeM R α} (h₁ : Frame P m₁) (h₂ : Frame P m₂) :
    Frame P (if c then m₁ else m₂) := by
  split <;> assumption

theorem loadRecord (p : Path) : Frame P (Hermit.Analyze.loadRecord p : AnalyzeM R R) :=
  bind (readFile p) fun c => by rcases c with _ | ⟨_⟩ | _ | _ <;> first | exact pure _ | exact panicWith _

theorem readToString (p : Path) : Frame P (Hermit.Analyze.readToString p : AnalyzeM R String) :=
  bind (readFile p) fun c => by rcases c with _ | _ | ⟨_⟩ | _ <;> first | exact pure _ | exact panicWith _

theorem copyFile {msg : String} {src dst : Path} (hp : P dst) :
    Frame P (Hermit.Analyze.copyFile msg src dst : AnalyzeM R Unit) :=
  bind (readFile src) fun c => by rcases c with _ | _ <;> first | exact writeFile hp | exact panicWith _

theorem read_eq (h : Frame P m) (w : World R) {q : Path} (hq : ¬ P q) : (m w).2.read q = w.read q := by
  obtain ⟨hu, -, ws, hw, hx⟩ := h w
  exact World.read_of_writes_append hw hu fun x hmem he => hq (he ▸ (hx x hmem).2)

theorem read_eq_of_run (h : Frame P m) {w w' : World R} {r : Except Failure α} (hm : m w = (r, w'))
    {q : Path} (hq : ¬ P q) : w'.read q = w.read q := by
  have := h.read_eq w hq
  rwa [hm] at this

end Frame

/-- `m` appends writes whose step and path satisfy `G`; it may change the running step. -/
def Tagged (G : Step → Path → Prop) (m : AnalyzeM R α) : Prop :=
  ∀ w, (m w).2.userFiles = w.userFiles ∧
    ∃ ws, (m w).2.writes = ws ++ w.writes ∧ ∀ x ∈ ws, G x.step x.path

namespace Tagged

variable {G : Step → Path → Prop} {m : AnalyzeM R α}

theorem bind_of_returns {f : α → AnalyzeM R β} {Q : α → Prop} (hm : Tagged G m)
    (hQ : ∀ w a w', m w = (.ok a, w') → Q a) (hf : ∀ a, Q a → Tagged G (f a)) :
    Tagged G (m >>= f) := fun w => by
  obtain ⟨hu, ws, hw, hx⟩ := hm w
  rw [bind_apply]
  match hmw : m w with
  | (.error e, w1) => simp only [hmw] at hu hw; exact ⟨hu, ws, hw, hx⟩
  | (.ok a, w1) =>
    simp only [hmw] at hu hw
    obtain ⟨hu', ws', hw', hx'⟩ := hf a (hQ w a w1 hmw) w1
    refine ⟨hu'.trans hu, ws' ++ ws, by rw [hw', hw, List.append_assoc], ?_⟩
    intro x hmem
    rcases List.mem_append.mp hmem with h | h
    · exact hx' x h
    · exact hx x h

theorem bind {f : α → AnalyzeM R β} (hm : Tagged G m) (hf : ∀ a, Tagged G (f a)) :
    Tagged G (m >>= f) :=
  bind_of_returns (Q := fun _ => True) hm (fun _ _ _ _ => trivial) fun a _ => hf a

theorem pure (a : α) : Tagged G (Pure.pure a : AnalyzeM R α) := fun w => ⟨rfl, [], rfl, by simp⟩

theorem inStep {P : Path → Prop} (st : Step) (h : Frame P m) :
    Tagged (fun st' p => st' = st ∧ P p) (AnalyzeM.inStep st m) := fun w => by
  obtain ⟨hu, -, ws, hw, hx⟩ := h (w.setStep st)
  refine ⟨by simpa [AnalyzeM.inStep] using hu.trans (by cases w; rfl), ws,
    by simpa [AnalyzeM.inStep] using hw, fun x hmem => ?_⟩
  simpa using hx x hmem

theorem of_frame_false (h : Frame (fun _ => False) m) : Tagged G m := fun w => by
  obtain ⟨hu, -, ws, hw, hx⟩ := h w
  exact ⟨hu, ws, hw, fun x hmem => ((hx x hmem).2).elim⟩

theorem mono {G' : Step → Path → Prop} (h : Tagged G m) (hG : ∀ st p, G st p → G' st p) :
    Tagged G' m := fun w => by
  obtain ⟨hu, ws, hw, hx⟩ := h w
  exact ⟨hu, ws, hw, fun x hmem => hG _ _ (hx x hmem)⟩

/-- Started with no writes, a run makes only writes satisfying `G`. -/
theorem mem_writes_init (h : Tagged G m) (uf : String → Option (Content R)) :
    ∀ x ∈ (m (World.init uf)).2.writes, G x.step x.path := fun x hx => by
  obtain ⟨-, ws, hws, hG⟩ := h (World.init uf)
  exact hG x ((List.mem_append.mp (hws ▸ hx)).resolve_right (List.not_mem_nil x))

end Tagged

/-- `m` stops from every world without exhausting a loop bound: the computation of the source it
models terminates. -/
def Terminates (m : AnalyzeM R α) : Prop := ∀ w, (m w).1 ≠ .error .outOfFuel

namespace Terminates

variable {m : AnalyzeM R α}

theorem pure (a : α) : Terminates (Pure.pure a : AnalyzeM R α) := fun _ => by simp

theorem bail (msg : String) : Terminates (AnalyzeM.bail msg : AnalyzeM R α) := fun _ => by
  simp [AnalyzeM.bail]

theorem panicWith (msg : String) : Terminates (AnalyzeM.panicWith msg : AnalyzeM R α) := fun _ => by
  simp [AnalyzeM.panicWith]

theorem writeFile (p : Path) (c : Content R) : Terminates (AnalyzeM.writeFile p c) := fun _ => by simp

theorem gets (f : World R → α) : Terminates (AnalyzeM.gets f) := fun _ => by simp [AnalyzeM.gets]

theorem recordLaunch (log : Path) (ro : RunOpts) : Terminates (AnalyzeM.recordLaunch log ro : AnalyzeM R _) :=
  fun _ => by simp [AnalyzeM.recordLaunch]

theorem writeAll (ws : List (Path × Content R)) : Terminates (AnalyzeM.writeAll ws) := fun _ => by
  simp [AnalyzeM.writeAll]

theorem bind_at {f : α → AnalyzeM R β} {w : World R} (hm : Terminates m)
    (hf : ∀ a w₁, m w = (.ok a, w₁) → (f a w₁).1 ≠ .error .outOfFuel) :
    ((m >>= f) w).1 ≠ .error .outOfFuel := by
  have hw := hm w
  rw [bind_apply]
  match hmw : m w with
  | (.ok a, w1) => exact hf a w1 hmw
  | (.error e, w1) => rw [hmw] at hw; simpa using hw

theorem bind {f : α → AnalyzeM R β} (hm : Terminates m) (hf : ∀ a, Terminates (f a)) :
    Terminates (m >>= f) := fun _ => bind_at hm fun a w₁ _ => hf a w₁

theorem unwrapWith {f : String → String} (h : Terminates m) :
    Terminates (AnalyzeM.unwrapWith f m) := fun w => by
  have hw := h w
  unfold AnalyzeM.unwrapWith
  split <;> simp_all

theorem ite {c : Prop} [Decidable c] {m₁ m₂ : AnalyzeM R α} (h₁ : Terminates m₁)
    (h₂ : Terminates m₂) : Terminates (if c then m₁ else m₂) := by
  split <;> assumption

end Terminates

end Hermit.Analyze
