import HermitAnalyze.Bisect
import Mathlib.Data.Nat.Digits

/-!
# Run names

A workspace file is `<run name>.<extension>`, and a run name has no dot, so a file determines its run
name (`fileRunname`). The two numbered families of run names (search rounds and bisection probes) differ from each
other and from every fixed name in their first two characters, and within a family by the number.
-/

namespace Hermit.Analyze

/-! ### Decimal numerals -/

def digitValue (c : Char) : Nat := c.toNat - '0'.toNat

def pushDigit (acc : Nat) (c : Char) : Nat := 10 * acc + digitValue c

theorem digitValue_digitChar : ∀ k < 10, digitValue (Nat.digitChar k) = k := by decide

theorem foldl_toDigitsCore (fuel n : Nat) (ds : List Char) (h : n < fuel) :
    (Nat.toDigitsCore 10 fuel n ds).foldl pushDigit 0 = ds.foldl pushDigit n := by
  induction fuel generalizing n ds with
  | zero => omega
  | succ fuel ih =>
    have hd := digitValue_digitChar (n % 10) (Nat.mod_lt _ (by omega))
    rw [Nat.toDigitsCore]
    split
    · simp only [List.foldl_cons, pushDigit, hd]
      congr 1
      omega
    · rw [ih (n / 10) _ (by omega), List.foldl_cons, pushDigit, hd, Nat.div_add_mod]

theorem toString_injective : Function.Injective (toString : Nat → String) := by
  intro i j h
  have hij : Nat.toDigits 10 i = Nat.toDigits 10 j := congrArg String.data h
  have hread (n : Nat) : (Nat.toDigits 10 n).foldl pushDigit 0 = n :=
    foldl_toDigitsCore (n + 1) n [] (Nat.lt_succ_self n)
  rw [← hread i, ← hread j, hij]

/-! ### Run names have no dot -/

theorem digitChar_ne_dot : ∀ k < 10, Nat.digitChar k ≠ '.' := by decide

theorem dot_not_mem_toDigitsCore (fuel n : Nat) {ds : List Char} (h : '.' ∉ ds) :
    '.' ∉ Nat.toDigitsCore 10 fuel n ds := by
  induction fuel generalizing n ds with
  | zero => exact h
  | succ fuel ih =>
    have hd : '.' ∉ Nat.digitChar (n % 10) :: ds := by
      simp [h, (digitChar_ne_dot _ (Nat.mod_lt n (by omega))).symm]
    rw [Nat.toDigitsCore]
    split
    · exact hd
    · exact ih _ hd

theorem dot_not_mem_toString (n : Nat) : '.' ∉ (toString n).data :=
  dot_not_mem_toDigitsCore _ _ (List.not_mem_nil _)

theorem dot_not_mem_searchRunname (round : Nat) : '.' ∉ (searchRunname round).data := by
  simp only [searchRunname, zeroPad, String.data_append, List.mem_append, not_or]
  exact ⟨by decide, by simp [List.mem_replicate], dot_not_mem_toString round⟩

theorem dot_not_mem_bisectRunname (i : Nat) : '.' ∉ (bisectRunname i).data := by
  simp only [bisectRunname, String.data_append, List.mem_append, not_or]
  exact ⟨by decide, dot_not_mem_toString i⟩

/-- The run name of a workspace file: what stands before its first dot. -/
def fileRunname (f : String) : String := String.mk (f.data.takeWhile (· ≠ '.'))

theorem fileRunname_withExtension {s : String} (ext : String) (h : '.' ∉ s.data) :
    fileRunname (withExtension s ext) = s := by
  have hs : ∀ c ∈ s.data, decide (c ≠ '.') = true := fun c hc => by
    simpa using fun he : c = '.' => h (he ▸ hc)
  simp only [fileRunname, withExtension, String.data_append, List.append_assoc]
  rw [List.takeWhile_append_of_pos hs]
  simp

/-! ### The numbered families -/

theorem searchRunname_take_two (round : Nat) : (searchRunname round).data.take 2 = ['s', 'e'] := rfl

theorem bisectRunname_take_two (i : Nat) : (bisectRunname i).data.take 2 = ['b', 'i'] := rfl

theorem bisectRunname_injective : Function.Injective bisectRunname := by
  intro i j h
  have h' := congrArg String.data h
  simp only [bisectRunname, String.data_append] at h'
  exact toString_injective (String.ext (List.append_cancel_left h'))

end Hermit.Analyze
