import Chip8.Text.Basic
import Mathlib.Data.List.TakeWhile

/-!
# Texts in pieces

Cutting a text and joining pieces undo each other where no piece holds the separator.  What is
trimmed off a text is a beginning and an end of the characters to trim, so trimming twice is
trimming once.
-/

namespace Chip8.Text

variable {sep c : Char} {t piece : Text} {pieces : List Text}

/-! ### Cutting and joining -/

/-- A text that is cut at a separator is cut there and on both sides. -/
theorem splitOn_append (sep : Char) (s t : Text) :
    splitOn sep (s ++ sep :: t) = splitOn sep s ++ splitOn sep t := by
  induction s with
  | nil => simp [splitOn]
  | cons c rest ih =>
      rw [List.cons_append, splitOn, splitOn, ih]
      split
      · rfl
      · cases hpieces : splitOn sep rest with
        | nil => exact absurd hpieces (splitOn_ne_nil sep rest)
        | cons piece pieces => rfl

theorem length_splitOn (sep : Char) (t : Text) :
    (splitOn sep t).length = t.count sep + 1 := by
  induction t with
  | nil => rfl
  | cons c rest ih =>
      rw [splitOn, List.count_cons]
      by_cases hc : c = sep
      · simp [hc, ih]
      · cases hpieces : splitOn sep rest with
        | nil => exact absurd hpieces (splitOn_ne_nil sep rest)
        | cons piece pieces =>
            rw [hpieces] at ih
            simpa [hc] using ih

theorem splitOn_of_not_mem (h : sep ∉ t) : splitOn sep t = [t] := by
  induction t with
  | nil => rfl
  | cons c rest ih =>
      rw [List.mem_cons, not_or] at h
      rw [splitOn, if_neg (Ne.symm h.1), ih h.2]

theorem splitOn_replicate (sep : Char) (count : Nat) :
    splitOn sep (List.replicate count sep) = List.replicate (count + 1) [] := by
  induction count with
  | zero => rfl
  | succ count ih => rw [List.replicate_succ, splitOn, if_pos rfl, ih]; rfl

/-- The pieces of a text do not hold the separator. -/
theorem not_mem_of_mem_splitOn (h : piece ∈ splitOn sep t) : sep ∉ piece := by
  induction t generalizing piece with
  | nil =>
      rw [splitOn, List.mem_singleton] at h
      simp [h]
  | cons c rest ih =>
      by_cases hc : c = sep
      · rw [splitOn, if_pos hc] at h
        rcases List.mem_cons.mp h with rfl | hrest
        · simp
        · exact ih hrest
      · -- the character joins the first piece of the rest
        cases hpieces : splitOn sep rest with
        | nil => exact absurd hpieces (splitOn_ne_nil sep rest)
        | cons first others =>
            rw [splitOn, if_neg hc, hpieces] at h
            rw [hpieces] at ih
            rcases List.mem_cons.mp h with rfl | hothers
            · simpa [Ne.symm hc] using ih List.mem_cons_self
            · exact ih (List.mem_cons_of_mem _ hothers)

/-- Pieces without the separator are found again in the text that joins them. -/
theorem splitOn_join (hne : pieces ≠ []) (h : ∀ piece ∈ pieces, sep ∉ piece) :
    splitOn sep (join [sep] pieces) = pieces := by
  induction pieces with
  | nil => contradiction
  | cons first rest ih =>
      obtain ⟨hfirst, hrest⟩ := List.forall_mem_cons.mp h
      cases rest with
      | nil => exact splitOn_of_not_mem hfirst
      | cons second others =>
          have hjoin : join [sep] (first :: second :: others) =
              first ++ sep :: join [sep] (second :: others) := by
            simp [join]
          rw [hjoin, splitOn_append, splitOn_of_not_mem hfirst, ih (by simp) hrest]
          rfl

/-- What a joined text holds stands in a separator or in a piece. -/
theorem mem_or_mem_of_mem_join {sep : Text} (h : c ∈ join sep pieces) :
    c ∈ sep ∨ ∃ piece ∈ pieces, c ∈ piece := by
  induction pieces with
  | nil => contradiction
  | cons first rest ih =>
      cases rest with
      | nil => exact .inr ⟨first, List.mem_cons_self, h⟩
      | cons second others =>
          rw [join, List.append_assoc, List.mem_append, List.mem_append] at h
          · rcases h with hfirst | hsep | hrest
            · exact .inr ⟨first, List.mem_cons_self, hfirst⟩
            · exact .inl hsep
            · rcases ih hrest with hsep | ⟨piece, hmem, hc⟩
              · exact .inl hsep
              · exact .inr ⟨piece, List.mem_cons_of_mem _ hmem, hc⟩
          · simp

/-! ### Trimming -/

variable {p q : Char → Bool}

/-- What is dropped from the end are characters to trim. -/
theorem exists_append_trimRight (p : Char → Bool) (t : Text) :
    ∃ tail, t = trimRight p t ++ tail ∧ ∀ c ∈ tail, p c = true := by
  induction t with
  | nil => exact ⟨[], rfl, by simp⟩
  | cons c rest ih =>
      obtain ⟨tail, htail, hall⟩ := ih
      cases hkept : trimRight p rest with
      | nil =>
          rw [hkept, List.nil_append] at htail
          by_cases hc : p c = true
          · refine ⟨c :: rest, by simp [trimRight, hkept, hc], ?_⟩
            rw [htail]
            exact List.forall_mem_cons.mpr ⟨hc, hall⟩
          · exact ⟨rest, by simp [trimRight, hkept, hc], htail ▸ hall⟩
      | cons d kept =>
          rw [hkept] at htail
          exact ⟨tail, by rw [trimRight, hkept, List.cons_append, ← htail], hall⟩

/-- What is left does not end with a character to trim. -/
theorem getLast?_trimRight (p : Char → Bool) (t : Text) :
    ∀ c, (trimRight p t).getLast? = some c → p c = false := by
  induction t with
  | nil => simp [trimRight]
  | cons first rest ih =>
      intro c hlast
      cases hkept : trimRight p rest with
      | nil =>
          cases hfirst : p first with
          | true => simp [trimRight, hkept, hfirst] at hlast
          | false =>
              obtain rfl : first = c := by simpa [trimRight, hkept, hfirst] using hlast
              exact hfirst
      | cons d kept =>
          rw [trimRight, hkept, List.getLast?_cons_cons] at hlast
          exact ih c (hkept ▸ hlast)

theorem trimRight_append_of_forall (s : Text) {tail : Text} (h : ∀ c ∈ tail, p c = true) :
    trimRight p (s ++ tail) = trimRight p s := by
  induction s with
  | nil =>
      induction tail with
      | nil => rfl
      | cons c rest ih =>
          obtain ⟨hc, hrest⟩ := List.forall_mem_cons.mp h
          have hnone : trimRight p rest = [] := ih hrest
          simp [trimRight, hnone, hc]
  | cons c rest ih => rw [List.cons_append, trimRight, trimRight, ih]

/-- It does not matter what is trimmed off the end before, if it would be trimmed off anyway. -/
theorem trim_trimRight (h : ∀ c, q c = true → p c = true) (t : Text) :
    trim p (trimRight q t) = trim p t := by
  obtain ⟨tail, htail, hall⟩ := exists_append_trimRight q t
  have hall : ∀ c ∈ tail, p c = true := fun c hmem => h c (hall c hmem)
  generalize trimRight q t = kept at htail ⊢
  subst htail
  unfold trim
  rw [List.dropWhile_append]
  split
  · -- all of the text is trimmed off from the beginning
    rename_i hnone
    rw [List.isEmpty_iff.mp hnone, List.dropWhile_eq_nil_iff.mpr hall]
  · rw [trimRight_append_of_forall _ hall]

theorem mem_of_mem_trim (h : c ∈ trim p t) : c ∈ t := by
  obtain ⟨tail, htail, -⟩ := exists_append_trimRight p (t.dropWhile p)
  have hdropped : c ∈ t.dropWhile p := by
    rw [htail]
    exact List.mem_append_left _ h
  exact (List.dropWhile_suffix p).mem hdropped

end Chip8.Text
