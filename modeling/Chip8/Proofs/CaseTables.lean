import Chip8.Text.Case
import Mathlib.Data.List.Chain

/-!
# What the case tables say

A character beyond ASCII changes case as an expansion or a run of the tables says, and stays as it
is if none does.  So what is true of every change of case is found by going through the tables.  The
tables are in the order of their code points, and what stands before or after a range of them has no
part in how the characters of the range change.
-/

namespace Chip8.Text

variable {expansions : List (Nat × List Nat)} {runs : List CaseRun} {run : CaseRun}
  {n code first last : Nat}

/-! ### Runs -/

/-- The characters that a run moves, each with the one it becomes. -/
def CaseRun.moves (run : CaseRun) : List (Char × Char) :=
  (List.range ((run.last - run.first) / run.step + 1)).map fun k =>
    let code := run.first + run.step * k
    (Char.ofNat code, Char.ofNat (code + run.shift).toNat)

theorem CaseRun.image?_eq_some_iff :
    run.image? n = some code ↔
      (run.first ≤ n ∧ n ≤ run.last) ∧ (n - run.first) % run.step = 0 ∧
        code = (n + run.shift).toNat := by
  unfold image?
  by_cases h : (Nat.ble run.first n && Nat.ble n run.last &&
      (n - run.first) % run.step == 0) = true
  · rw [if_pos h]
    simp only [Bool.and_eq_true, Nat.ble_eq, beq_iff_eq] at h
    simp [h, eq_comm]
  · rw [if_neg h]
    simp only [Bool.and_eq_true, Nat.ble_eq, beq_iff_eq] at h
    simp only [reduceCtorEq, false_iff]
    rintro ⟨hrange, hstep, -⟩
    exact h ⟨hrange, hstep⟩

theorem CaseRun.mem_moves {c : Char} (h : run.image? c.toNat = some code) :
    (c, Char.ofNat code) ∈ run.moves := by
  obtain ⟨⟨hfirst, hlast⟩, hstep, rfl⟩ := image?_eq_some_iff.mp h
  have hplace : run.step * ((c.toNat - run.first) / run.step) = c.toNat - run.first :=
    Nat.mul_div_cancel' (Nat.dvd_of_mod_eq_zero hstep)
  have hle : (c.toNat - run.first) / run.step ≤ (run.last - run.first) / run.step :=
    Nat.div_le_div_right (Nat.sub_le_sub_right hlast run.first)
  have hcode : run.first + run.step * ((c.toNat - run.first) / run.step) = c.toNat := by
    omega
  refine List.mem_map.mpr ⟨_, List.mem_range.mpr (Nat.lt_succ_of_le hle), ?_⟩
  simp only [hcode, Char.ofNat_toNat]

/-! ### ASCII -/

/-- The characters of ASCII. -/
def ascii : List Char :=
  (List.range 128).map Char.ofNat

theorem mem_ascii {c : Char} (h : c.toNat < 128) : c ∈ ascii :=
  List.mem_map.mpr ⟨c.toNat, List.mem_range.mpr h, Char.ofNat_toNat c⟩

theorem toNat_toUpper_lt {c : Char} (h : c.toNat < 128) : c.toUpper.toNat < 128 := by
  have hall : (ascii.all fun c => Nat.blt c.toUpper.toNat 128) = true := by decide +kernel
  simpa using List.all_eq_true.mp hall c (mem_ascii h)

/-! ### Changes of case -/

/-- A character changes as an expansion or a run says, or not at all. -/
theorem recase_cases (expansions : List (Nat × List Nat)) (runs : List CaseRun) (c : Char) :
    (∃ codes, (c.toNat, codes) ∈ expansions ∧
        recase expansions runs c = codes.map Char.ofNat) ∨
      (∃ run ∈ runs, ∃ moved, (c, moved) ∈ run.moves ∧
        recase expansions runs c = [moved]) ∨
      recase expansions runs c = [c] := by
  unfold recase
  cases hexpansion : expansions.lookup c.toNat with
  | some codes =>
      obtain ⟨before, after, rfl, -⟩ := List.lookup_eq_some_iff.mp hexpansion
      exact .inl ⟨codes, by simp, rfl⟩
  | none =>
      cases hrun : runs.findSome? (·.image? c.toNat) with
      | some code =>
          obtain ⟨run, hmem, himage⟩ := List.exists_of_findSome?_eq_some hrun
          exact .inr (.inl ⟨run, hmem, _, CaseRun.mem_moves himage, rfl⟩)
      | none => exact .inr (.inr rfl)

/-! ### Parts of a table -/

/-- The entries of a table from the first that reaches a range of code points to the last that
starts before the end of it. -/
def window {α : Type} (low high : α → Nat) (first last : Nat) (entries : List α) : List α :=
  (entries.dropWhile fun entry => Nat.blt (high entry) first).takeWhile fun entry =>
    Nat.ble (low entry) last

section

variable {α β : Type} {low high : α → Nat} {entries : List α} {f : α → Option β}

theorem findSome?_takeWhile (hsorted : entries.Pairwise fun earlier later => low earlier ≤ low later)
    (hlow : ∀ entry ∈ entries, f entry ≠ none → low entry ≤ last) :
    (entries.takeWhile fun entry => Nat.ble (low entry) last).findSome? f =
      entries.findSome? f := by
  induction entries with
  | nil => rfl
  | cons entry rest ih =>
      obtain ⟨hentry, hrest⟩ := List.forall_mem_cons.mp hlow
      obtain ⟨hfirst, hpairs⟩ := List.pairwise_cons.mp hsorted
      by_cases hle : low entry ≤ last
      · rw [List.takeWhile_cons, if_pos (Nat.ble_eq.mpr hle), List.findSome?_cons,
          List.findSome?_cons, ih hpairs hrest]
      · -- what comes after a late entry is late as well
        rw [List.takeWhile_cons, if_neg (by simpa using hle), List.findSome?_nil, eq_comm,
          List.findSome?_eq_none_iff]
        intro other hother
        by_contra hsome
        have hreach := hlow other hother hsome
        rcases List.mem_cons.mp hother with rfl | hother
        · exact hle hreach
        · exact hle (Nat.le_trans (hfirst other hother) hreach)

theorem findSome?_dropWhile (hhigh : ∀ entry ∈ entries, f entry ≠ none → first ≤ high entry) :
    (entries.dropWhile fun entry => Nat.blt (high entry) first).findSome? f =
      entries.findSome? f := by
  induction entries with
  | nil => rfl
  | cons entry rest ih =>
      obtain ⟨hentry, hrest⟩ := List.forall_mem_cons.mp hhigh
      by_cases hlt : high entry < first
      · have hnone : f entry = none := by
          by_contra hsome
          exact absurd (hentry hsome) (Nat.not_le.mpr hlt)
        rw [List.dropWhile_cons, if_pos (by simpa using hlt), List.findSome?_cons, hnone]
        exact ih hrest
      · rw [List.dropWhile_cons, if_neg (by simpa using hlt)]

/-- A search finds the same in a table and in its part around what it searches for. -/
theorem findSome?_window (hsorted : entries.Pairwise fun earlier later => low earlier ≤ low later)
    (hreach : ∀ entry ∈ entries, f entry ≠ none → low entry ≤ last ∧ first ≤ high entry) :
    (window low high first last entries).findSome? f = entries.findSome? f := by
  unfold window
  rw [findSome?_takeWhile (hsorted.sublist (List.dropWhile_sublist _)),
    findSome?_dropWhile fun entry hentry hsome => (hreach entry hentry hsome).2]
  intro entry hentry hsome
  exact (hreach entry ((List.dropWhile_sublist _).subset hentry) hsome).1

end

/-- Tables and their parts around a range change the characters of the range alike. -/
theorem recase_window {c : Char}
    (hexpansions : expansions.Pairwise fun earlier later => earlier.1 ≤ later.1)
    (hruns : runs.Pairwise fun earlier later => earlier.first ≤ later.first)
    (hfirst : first ≤ c.toNat) (hlast : c.toNat ≤ last) :
    recase (window Prod.fst Prod.fst first last expansions)
      (window CaseRun.first CaseRun.last first last runs) c = recase expansions runs c := by
  have hlookup : (window Prod.fst Prod.fst first last expansions).lookup c.toNat =
      expansions.lookup c.toNat := by
    rw [List.lookup_eq_findSome?, List.lookup_eq_findSome?]
    refine findSome?_window hexpansions fun entry _ hsome => ?_
    have hentry : c.toNat = entry.1 := by
      by_contra hne
      simp [hne] at hsome
    exact ⟨hentry ▸ hlast, hentry ▸ hfirst⟩
  have hfind : (window CaseRun.first CaseRun.last first last runs).findSome?
      (·.image? c.toNat) = runs.findSome? (·.image? c.toNat) := by
    refine findSome?_window hruns fun run _ hsome => ?_
    obtain ⟨code, himage⟩ := Option.ne_none_iff_exists'.mp hsome
    obtain ⟨⟨hlow, hhigh⟩, -⟩ := CaseRun.image?_eq_some_iff.mp himage
    exact ⟨Nat.le_trans hlow hlast, Nat.le_trans hfirst hhigh⟩
  unfold recase
  rw [hlookup, hfind]

end Chip8.Text
