import Chip8.EditDistance
import Mathlib.Order.Bounds.Defs

/-!
# Fewest edits

An edit inserts, deletes or replaces one character.  The edit distance of two texts is the least
number of edits that turn one into the other.  It is found in rows of prefixes, and equal characters
are kept without a look at the neighbouring cells; that is right because neighbouring cells differ by
one at the most.
-/

namespace Chip8.Text

/-! ### Edits -/

/-- Holds when one edit turns a text into another. -/
inductive Edit : Text → Text → Prop
  | insert (before : Text) (c : Char) (after : Text) :
      Edit (before ++ after) (before ++ c :: after)
  | delete (before : Text) (c : Char) (after : Text) :
      Edit (before ++ c :: after) (before ++ after)
  | replace (before : Text) (c d : Char) (after : Text) :
      Edit (before ++ c :: after) (before ++ d :: after)

/-- Holds when that many edits, one after the other, turn a text into another. -/
inductive Edits : Nat → Text → Text → Prop
  | none (s : Text) : Edits 0 s s
  | next {n : Nat} {s t u : Text} (first : Edit s t) (rest : Edits n t u) : Edits (n + 1) s u

section

variable {m n : Nat} {s t u : Text}

theorem Edit.symm (h : Edit s t) : Edit t s := by
  cases h with
  | insert before c after => exact .delete before c after
  | delete before c after => exact .insert before c after
  | replace before c d after => exact .replace before d c after

theorem Edit.cons (c : Char) (h : Edit s t) : Edit (c :: s) (c :: t) := by
  cases h with
  | insert before d after => exact .insert (c :: before) d after
  | delete before d after => exact .delete (c :: before) d after
  | replace before d e after => exact .replace (c :: before) d e after

theorem Edit.reverse (h : Edit s t) : Edit s.reverse t.reverse := by
  cases h with
  | insert before c after => simpa using Edit.insert after.reverse c before.reverse
  | delete before c after => simpa using Edit.delete after.reverse c before.reverse
  | replace before c d after => simpa using Edit.replace after.reverse c d before.reverse

theorem Edits.trans (h : Edits m s t) (h' : Edits n t u) : Edits (m + n) s u := by
  induction h with
  | none s => rwa [Nat.zero_add]
  | next first _ ih =>
      rw [Nat.add_right_comm]
      exact .next first (ih h')

theorem Edits.symm (h : Edits n s t) : Edits n t s := by
  induction h with
  | none s => exact .none s
  | @next _ _ t _ first _ ih => exact ih.trans (.next first.symm (.none _))

theorem Edits.cons (c : Char) (h : Edits n s t) : Edits n (c :: s) (c :: t) := by
  induction h with
  | none s => exact .none (c :: s)
  | next first _ ih => exact .next (first.cons c) ih

theorem Edits.reverse (h : Edits n s t) : Edits n s.reverse t.reverse := by
  induction h with
  | none s => exact .none s.reverse
  | next first _ ih => exact .next first.reverse ih

theorem Edits.min (h : Edits m s t) (h' : Edits n s t) : Edits (min m n) s t := by
  rcases Nat.le_total m n with hle | hle
  · rwa [Nat.min_eq_left hle]
  · rwa [Nat.min_eq_right hle]

theorem edits_zero_iff : Edits 0 s t ↔ s = t := by
  constructor
  · rintro ⟨⟩
    rfl
  · rintro rfl
    exact .none s

theorem edits_nil (t : Text) : Edits t.length [] t := by
  induction t with
  | nil => exact .none []
  | cons c rest ih => exact .next (.insert [] c []) (ih.cons c)

end

/-! ### The fewest edits from the front -/

/-- The fewest edits that turn one text into another.  First characters that are equal are kept;
otherwise the first one is replaced, or deleted, or another one is inserted before it. -/
def fewestEdits : Text → Text → Nat
  | [], t => t.length
  | _ :: s, [] => s.length + 1
  | c :: s, d :: t =>
      if c = d then fewestEdits s t
      else 1 + min (min (fewestEdits s t) (fewestEdits s (d :: t))) (fewestEdits (c :: s) t)
termination_by s t => s.length + t.length

section

variable {n : Nat} {s t u : Text} {c d : Char}

theorem fewestEdits_nil_left (t : Text) : fewestEdits [] t = t.length := by
  rw [fewestEdits]

theorem fewestEdits_nil_right (s : Text) : fewestEdits s [] = s.length := by
  cases s with
  | nil => exact fewestEdits_nil_left []
  | cons c s => rw [fewestEdits, List.length_cons]

theorem fewestEdits_cons_self (c : Char) (s t : Text) :
    fewestEdits (c :: s) (c :: t) = fewestEdits s t := by
  rw [fewestEdits, if_pos rfl]

theorem fewestEdits_cons_of_ne (h : c ≠ d) (s t : Text) :
    fewestEdits (c :: s) (d :: t) =
      1 + min (min (fewestEdits s t) (fewestEdits s (d :: t))) (fewestEdits (c :: s) t) := by
  rw [fewestEdits, if_neg h]

/-- So few edits are enough. -/
theorem edits_fewestEdits (s t : Text) : Edits (fewestEdits s t) s t := by
  induction s, t using fewestEdits.induct with
  | case1 t =>
      rw [fewestEdits_nil_left]
      exact edits_nil t
  | case2 c s =>
      rw [fewestEdits_nil_right]
      exact (edits_nil (c :: s)).symm
  | case3 s c t ih =>
      rw [fewestEdits_cons_self]
      exact ih.cons c
  | case4 c s d t hne ihReplace ihDelete ihInsert =>
      have hreplace : Edits (fewestEdits s t + 1) (c :: s) (d :: t) :=
        .next (.replace [] c d s) (ihReplace.cons d)
      have hdelete : Edits (fewestEdits s (d :: t) + 1) (c :: s) (d :: t) :=
        .next (.delete [] c s) ihDelete
      have hinsert : Edits (fewestEdits (c :: s) t + 1) (c :: s) (d :: t) :=
        .next (.insert [] d (c :: s)) (ihInsert.cons d)
      rw [fewestEdits_cons_of_ne hne, Nat.add_comm, ← Nat.add_min_add_right,
        ← Nat.add_min_add_right]
      exact (hreplace.min hdelete).min hinsert

theorem fewestEdits_comm (s t : Text) : fewestEdits s t = fewestEdits t s := by
  induction s, t using fewestEdits.induct with
  | case1 t => rw [fewestEdits_nil_left, fewestEdits_nil_right]
  | case2 c s => rw [fewestEdits_nil_left, fewestEdits_nil_right]
  | case3 s c t ih => rw [fewestEdits_cons_self, fewestEdits_cons_self, ih]
  | case4 c s d t hne ihReplace ihDelete ihInsert =>
      rw [fewestEdits_cons_of_ne hne, fewestEdits_cons_of_ne (Ne.symm hne), ihReplace, ihDelete,
        ihInsert]
      omega

/-! ### One more character -/

/-- A character more on one side costs one edit at the most, if a character less does on the
other. -/
theorem fewestEdits_cons_right_le_of
    (h : ∀ c s', s = c :: s' → fewestEdits s' t ≤ fewestEdits (c :: s') t + 1) (d : Char) :
    fewestEdits s (d :: t) ≤ fewestEdits s t + 1 := by
  cases s with
  | nil =>
      rw [fewestEdits_nil_left, fewestEdits_nil_left]
      exact Nat.le_refl _
  | cons c s =>
      by_cases hc : c = d
      · rw [hc, fewestEdits_cons_self, ← hc]
        exact h c s rfl
      · rw [fewestEdits_cons_of_ne hc]
        omega

/-- A character less saves no edit. -/
theorem fewestEdits_le_cons_left (c : Char) (s t : Text) :
    fewestEdits s t ≤ fewestEdits (c :: s) t + 1 := by
  induction t generalizing c s with
  | nil =>
      rw [fewestEdits_nil_right, fewestEdits_nil_right, List.length_cons]
      omega
  | cons d t ih =>
      have hright : fewestEdits s (d :: t) ≤ fewestEdits s t + 1 :=
        fewestEdits_cons_right_le_of (fun e s' _ => ih e s') d
      by_cases hc : c = d
      · rw [hc, fewestEdits_cons_self]
        exact hright
      · have hshort := ih c s
        rw [fewestEdits_cons_of_ne hc]
        omega

theorem fewestEdits_cons_right_le (d : Char) (s t : Text) :
    fewestEdits s (d :: t) ≤ fewestEdits s t + 1 :=
  fewestEdits_cons_right_le_of (fun c s' _ => fewestEdits_le_cons_left c s' t) d

theorem fewestEdits_cons_left_le (c : Char) (s t : Text) :
    fewestEdits (c :: s) t ≤ fewestEdits s t + 1 := by
  rw [fewestEdits_comm, fewestEdits_comm s t]
  exact fewestEdits_cons_right_le c t s

theorem fewestEdits_le_cons_right (d : Char) (s t : Text) :
    fewestEdits s t ≤ fewestEdits s (d :: t) + 1 := by
  rw [fewestEdits_comm s t, fewestEdits_comm s (d :: t)]
  exact fewestEdits_le_cons_left d t s

theorem fewestEdits_replace_le (c d : Char) (s t : Text) :
    fewestEdits (c :: s) t ≤ fewestEdits (d :: s) t + 1 := by
  induction t with
  | nil =>
      rw [fewestEdits_nil_right, fewestEdits_nil_right, List.length_cons, List.length_cons]
      omega
  | cons e t ih =>
      have hleft := fewestEdits_le_cons_left d s t
      have hright := fewestEdits_le_cons_right e s t
      by_cases hc : c = e
      · by_cases hd : d = e
        · rw [hc, hd]
          omega
        · rw [hc, fewestEdits_cons_self, fewestEdits_cons_of_ne hd]
          omega
      · by_cases hd : d = e
        · rw [hd, fewestEdits_cons_self, fewestEdits_cons_of_ne hc]
          omega
        · rw [fewestEdits_cons_of_ne hc, fewestEdits_cons_of_ne hd]
          omega

/-! ### No fewer edits -/

/-- What makes a difference of one at the most does so behind a common character. -/
theorem fewestEdits_cons_le_of (h : ∀ u, fewestEdits s u ≤ fewestEdits t u + 1) (c : Char)
    (u : Text) : fewestEdits (c :: s) u ≤ fewestEdits (c :: t) u + 1 := by
  induction u with
  | nil =>
      have hnil := h []
      rw [fewestEdits_nil_right, fewestEdits_nil_right] at hnil ⊢
      rw [List.length_cons, List.length_cons]
      omega
  | cons d u ih =>
      have hkept := h u
      have hdeleted := h (d :: u)
      by_cases hc : c = d
      · rwa [hc, fewestEdits_cons_self, fewestEdits_cons_self]
      · rw [fewestEdits_cons_of_ne hc, fewestEdits_cons_of_ne hc]
        omega

theorem fewestEdits_append_le_of (h : ∀ u, fewestEdits s u ≤ fewestEdits t u + 1)
    (before u : Text) : fewestEdits (before ++ s) u ≤ fewestEdits (before ++ t) u + 1 := by
  induction before generalizing u with
  | nil => exact h u
  | cons c before ih => exact fewestEdits_cons_le_of ih c u

/-- One edit makes a difference of one at the most. -/
theorem Edit.fewestEdits_le (h : Edit s t) (u : Text) :
    fewestEdits s u ≤ fewestEdits t u + 1 := by
  cases h with
  | insert before c after =>
      exact fewestEdits_append_le_of (fewestEdits_le_cons_left c after) before u
  | delete before c after =>
      exact fewestEdits_append_le_of (fewestEdits_cons_left_le c after) before u
  | replace before c d after =>
      exact fewestEdits_append_le_of (fewestEdits_replace_le c d after) before u

theorem fewestEdits_self (s : Text) : fewestEdits s s = 0 := by
  induction s with
  | nil => exact fewestEdits_nil_left []
  | cons c s ih => rw [fewestEdits_cons_self, ih]

/-- No fewer edits are enough. -/
theorem Edits.fewestEdits_le (h : Edits n s t) : fewestEdits s t ≤ n := by
  induction h with
  | none s => exact Nat.le_of_eq (fewestEdits_self s)
  | @next _ _ _ u first _ ih =>
      have hfirst := first.fewestEdits_le u
      omega

theorem fewestEdits_eq_zero_iff : fewestEdits s t = 0 ↔ s = t := by
  constructor
  · intro h
    have hedits := edits_fewestEdits s t
    rw [h] at hedits
    exact edits_zero_iff.mp hedits
  · rintro rfl
    exact fewestEdits_self s

theorem fewestEdits_triangle (s t u : Text) :
    fewestEdits s u ≤ fewestEdits s t + fewestEdits t u :=
  ((edits_fewestEdits s t).trans (edits_fewestEdits t u)).fewestEdits_le

theorem fewestEdits_reverse (s t : Text) :
    fewestEdits s.reverse t.reverse = fewestEdits s t := by
  have hle := (edits_fewestEdits s t).reverse.fewestEdits_le
  have hge := (edits_fewestEdits s.reverse t.reverse).reverse.fewestEdits_le
  rw [List.reverse_reverse, List.reverse_reverse] at hge
  omega

end

/-! ### Rows -/

/-- The row of a prefix, from the cell of a prefix of the other text on.  Both prefixes are written
backwards, the last character first; the rest of the other text is not. -/
def rowFrom (s p : Text) : Text → List Nat
  | [] => [fewestEdits s p]
  | d :: rest => fewestEdits s p :: rowFrom s (d :: p) rest

section

variable (c : Char) (s p t : Text)

theorem rowFrom_eq_cons : ∃ cells, rowFrom s p t = fewestEdits s p :: cells := by
  cases t with
  | nil => exact ⟨[], rfl⟩
  | cons d rest => exact ⟨_, rfl⟩

theorem getLastD_rowFrom (default : Nat) :
    (rowFrom s p t).getLastD default = fewestEdits s (t.reverse ++ p) := by
  induction t generalizing p default with
  | nil => rfl
  | cons d rest ih =>
      rw [rowFrom, List.getLastD_cons, ih, List.reverse_cons, List.append_assoc]
      rfl

/-- The row of the empty prefix. -/
theorem range'_eq_rowFrom : List.range' p.length (t.length + 1) = rowFrom [] p t := by
  induction t generalizing p with
  | nil =>
      rw [rowFrom, fewestEdits_nil_left]
      rfl
  | cons d rest ih =>
      rw [rowFrom, fewestEdits_nil_left, ← ih, List.length_cons, List.range'_succ,
        List.length_cons]

/-- Each cell is found from the one before it and the two above it. -/
theorem editCells_rowFrom :
    fewestEdits (c :: s) p :: editCells c (fewestEdits (c :: s) p) t (rowFrom s p t) =
      rowFrom (c :: s) p t := by
  induction t generalizing p with
  | nil => rfl
  | cons d rest ih =>
      have hnext := ih (d :: p)
      have hcell : (if c = d then fewestEdits s p else
          1 + min (min (fewestEdits s p) (fewestEdits s (d :: p))) (fewestEdits (c :: s) p)) =
            fewestEdits (c :: s) (d :: p) := by
        rw [fewestEdits]
      obtain ⟨cells, hcells⟩ := rowFrom_eq_cons s (d :: p) rest
      rw [hcells] at hnext
      rw [rowFrom, rowFrom, hcells, editCells, hcell, hnext]

theorem editRow_rowFrom : editRow t (rowFrom s [] t) c = rowFrom (c :: s) [] t := by
  have hfirst : (rowFrom s [] t).headD 0 + 1 = fewestEdits (c :: s) [] := by
    obtain ⟨cells, hcells⟩ := rowFrom_eq_cons s [] t
    rw [hcells, List.headD_cons, fewestEdits_nil_right, fewestEdits_nil_right, List.length_cons]
  unfold editRow
  rw [hfirst]
  exact editCells_rowFrom c s [] t

theorem foldl_editRow_rowFrom :
    s.foldl (editRow t) (rowFrom p [] t) = rowFrom (s.reverse ++ p) [] t := by
  induction s generalizing p with
  | nil => rfl
  | cons c rest ih =>
      rw [List.foldl_cons, editRow_rowFrom, ih, List.reverse_cons, List.append_assoc]
      rfl

end

theorem editRows_eq_rowFrom (s t : Text) : editRows s t = rowFrom s.reverse [] t := by
  have hfirst : List.range (t.length + 1) = rowFrom [] [] t := by
    rw [List.range_eq_range']
    exact range'_eq_rowFrom [] t
  unfold editRows
  rw [hfirst, foldl_editRow_rowFrom, List.append_nil]

theorem getLastD_editRows (s t : Text) : (editRows s t).getLastD 0 = fewestEdits s t := by
  rw [editRows_eq_rowFrom, getLastD_rowFrom, List.append_nil, fewestEdits_reverse]

theorem editDistance_eq_fewestEdits (s t : Text) : editDistance s t = fewestEdits s t := by
  unfold editDistance
  rw [getLastD_editRows, getLastD_editRows, fewestEdits_comm t s, ite_self]

/-- The edit distance is the least number of edits that turn one text into the other.  So it is the
same in both directions, zero between equal texts alone, and never longer than a way round. -/
theorem editDistance_isLeast (s t : Text) :
    IsLeast {n | Edits n s t} (editDistance s t) ∧
      editDistance s t = editDistance t s ∧
      (editDistance s t = 0 ↔ s = t) ∧
      ∀ u, editDistance s u ≤ editDistance s t + editDistance t u := by
  simp only [editDistance_eq_fewestEdits]
  exact ⟨⟨edits_fewestEdits s t, fun _ hedits => Edits.fewestEdits_le hedits⟩,
    fewestEdits_comm s t, fewestEdits_eq_zero_iff, fewestEdits_triangle s t⟩

end Chip8.Text
