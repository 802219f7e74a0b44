import Chip8.LabelTable
import Mathlib.Data.List.Nodup

/-!
# Sequences of definitions

A table keeps its names apart: no two bindings have one key.  That is what a single definition
preserves, and so does a sequence of them.  After the sequence each name is bound to the target of
its last definition, with the spelling of that one, whatever the order of the others.
-/

namespace Chip8
namespace LabelTable

variable {α : Type} {bindings : List (Binding α)} {name other : Text} {target : α}

/-- Holds when no two bindings are for one name. -/
def Distinct (bindings : List (Binding α)) : Prop :=
  (bindings.map Binding.key).Nodup

theorem distinct_nil : Distinct ([] : List (Binding α)) :=
  List.nodup_nil

/-- The bindings after several definitions, one after the other. -/
def bindAll (bindings : List (Binding α)) : List (Text × α) → List (Binding α)
  | [] => bindings
  | (name, target) :: rest => bindAll (rebind name target bindings) rest

/-- Holds when the definition of `name` for `target` is made and none of that name follows it. -/
def IsLast (definitions : List (Text × α)) (name : Text) (target : α) : Prop :=
  ∃ before after, definitions = before ++ (name, target) :: after ∧
    ∀ later ∈ after, Text.upper later.1 ≠ Text.upper name

/-! ### One definition -/

/-- A definition takes the place of the binding of its name, and leaves the others. -/
theorem mem_rebind_iff (h : Distinct bindings) {binding : Binding α} :
    binding ∈ rebind name target bindings ↔
      binding = ⟨name, target⟩ ∨ binding ∈ bindings ∧ binding.key ≠ Text.upper name := by
  induction bindings with
  | nil => simp [rebind]
  | cons first rest ih =>
      obtain ⟨hfirst, hrest⟩ := List.nodup_cons.mp h
      unfold rebind
      split
      · rename_i hkey
        have hkey : first.key = Text.upper name := beq_iff_eq.mp hkey
        -- the replaced binding was the only one of its name
        have hothers : ∀ binding ∈ rest, binding.key ≠ Text.upper name := by
          intro binding hmem heq
          exact hfirst (List.mem_map.mpr ⟨binding, hmem, heq.trans hkey.symm⟩)
        constructor
        · intro hmem
          rcases List.mem_cons.mp hmem with rfl | hmem
          · exact .inl rfl
          · exact .inr ⟨List.mem_cons_of_mem _ hmem, hothers _ hmem⟩
        · rintro (rfl | ⟨hmem, hne⟩)
          · exact List.mem_cons_self
          · rcases List.mem_cons.mp hmem with rfl | hmem
            · exact absurd hkey hne
            · exact List.mem_cons_of_mem _ hmem
      · rename_i hkey
        have hkey : first.key ≠ Text.upper name := by simpa using hkey
        rw [List.mem_cons, ih hrest, List.mem_cons]
        constructor
        · rintro (rfl | rfl | ⟨hmem, hne⟩)
          · exact .inr ⟨.inl rfl, hkey⟩
          · exact .inl rfl
          · exact .inr ⟨.inr hmem, hne⟩
        · rintro (rfl | ⟨rfl | hmem, hne⟩)
          · exact .inr (.inl rfl)
          · exact .inl rfl
          · exact .inr (.inr ⟨hmem, hne⟩)

theorem Distinct.rebind (h : Distinct bindings) (name : Text) (target : α) :
    Distinct (rebind name target bindings) := by
  induction bindings with
  | nil => exact List.nodup_singleton _
  | cons first rest ih =>
      obtain ⟨hfirst, hrest⟩ := List.nodup_cons.mp h
      unfold LabelTable.rebind
      split
      · rename_i hkey
        have hkey : first.key = Text.upper name := beq_iff_eq.mp hkey
        rw [hkey] at hfirst
        exact List.nodup_cons.mpr ⟨hfirst, hrest⟩
      · rename_i hkey
        have hkey : first.key ≠ Text.upper name := by simpa using hkey
        refine List.nodup_cons.mpr ⟨?_, ih hrest⟩
        intro hmem
        obtain ⟨binding, hbinding, heq⟩ := List.mem_map.mp hmem
        rcases (mem_rebind_iff hrest).mp hbinding with rfl | ⟨hold, -⟩
        · exact hkey heq.symm
        · exact hfirst (List.mem_map.mpr ⟨binding, hold, heq⟩)

/-- A new name is put at the end. -/
theorem rebind_of_not_mem (h : Text.upper name ∉ bindings.map Binding.key) :
    rebind name target bindings = bindings ++ [⟨name, target⟩] := by
  induction bindings with
  | nil => rfl
  | cons first rest ih =>
      rw [List.map_cons, List.mem_cons, not_or] at h
      rw [LabelTable.rebind, if_neg (by simpa using Ne.symm h.1), ih h.2, List.cons_append]

/-! ### Several definitions -/

theorem Distinct.bindAll (h : Distinct bindings) (definitions : List (Text × α)) :
    Distinct (bindAll bindings definitions) := by
  induction definitions generalizing bindings with
  | nil => exact h
  | cons first rest ih => exact ih (h.rebind first.1 first.2)

theorem isLast_cons_iff {definitions : List (Text × α)} {first : Text × α} :
    IsLast (first :: definitions) name target ↔
      IsLast definitions name target ∨
        first = (name, target) ∧ ∀ later ∈ definitions, Text.upper later.1 ≠ Text.upper name := by
  constructor
  · rintro ⟨before, after, heq, hafter⟩
    cases before with
    | nil =>
        obtain ⟨rfl, rfl⟩ := List.cons.inj heq
        exact .inr ⟨rfl, hafter⟩
    | cons earlier before =>
        obtain ⟨-, rfl⟩ := List.cons.inj heq
        exact .inl ⟨before, after, rfl, hafter⟩
  · rintro (⟨before, after, rfl, hafter⟩ | ⟨rfl, hafter⟩)
    · exact ⟨first :: before, after, rfl, hafter⟩
    · exact ⟨[], definitions, rfl, hafter⟩

/-- A name that is defined is defined a last time. -/
theorem exists_isLast {definitions : List (Text × α)} {definition : Text × α}
    (h : definition ∈ definitions) :
    ∃ name target, IsLast definitions name target ∧
      Text.upper name = Text.upper definition.1 := by
  induction definitions generalizing definition with
  | nil => contradiction
  | cons first rest ih =>
      by_cases hlater : ∃ later ∈ rest, Text.upper later.1 = Text.upper definition.1
      · obtain ⟨later, hmem, hkey⟩ := hlater
        obtain ⟨name, target, hlast, hname⟩ := ih hmem
        exact ⟨name, target, isLast_cons_iff.mpr (.inl hlast), hname.trans hkey⟩
      · rcases List.mem_cons.mp h with rfl | hmem
        · refine ⟨definition.1, definition.2, isLast_cons_iff.mpr (.inr ⟨rfl, ?_⟩), rfl⟩
          exact fun later hmem hkey => hlater ⟨later, hmem, hkey⟩
        · exact absurd ⟨definition, hmem, rfl⟩ hlater

/-- After several definitions a binding is the last one of its name, or was there before and has
none. -/
theorem mem_bindAll_iff (h : Distinct bindings) {definitions : List (Text × α)}
    {binding : Binding α} :
    binding ∈ bindAll bindings definitions ↔
      IsLast definitions binding.name binding.target ∨
        binding ∈ bindings ∧ ∀ later ∈ definitions, Text.upper later.1 ≠ binding.key := by
  induction definitions generalizing bindings with
  | nil => simp [LabelTable.bindAll, IsLast]
  | cons first rest ih =>
      -- the rest is defined in the table that the first definition leaves
      obtain ⟨name, target⟩ := first
      rw [LabelTable.bindAll, ih (h.rebind name target), mem_rebind_iff h, isLast_cons_iff,
        List.forall_mem_cons]
      constructor
      · rintro (hlast | ⟨rfl | ⟨hold, hne⟩, hrest⟩)
        · exact .inl (.inl hlast)
        · exact .inl (.inr ⟨rfl, hrest⟩)
        · exact .inr ⟨hold, hne.symm, hrest⟩
      · rintro ((hlast | ⟨heq, hrest⟩) | ⟨hold, hne, hrest⟩)
        · exact .inl hlast
        · obtain ⟨rfl, rfl⟩ := Prod.mk.inj heq
          exact .inr ⟨.inl rfl, hrest⟩
        · exact .inr ⟨.inr ⟨hold, hne.symm⟩, hrest⟩

/-! ### Looking up -/

theorem map_upper_names (table : LabelTable α) :
    table.names.map Text.upper = table.bindings.map Binding.key :=
  List.map_map

/-- One key belongs to one binding, so looking for it finds the binding. -/
theorem find?_bindings_of_mem (h : Distinct bindings) {binding : Binding α}
    (hmem : binding ∈ bindings) :
    (bindings.find? fun other => other.key == binding.key) = some binding := by
  have hsome : (bindings.find? fun other => other.key == binding.key).isSome :=
    List.find?_isSome.mpr ⟨binding, hmem, beq_iff_eq.mpr rfl⟩
  obtain ⟨found, hfound⟩ := Option.isSome_iff_exists.mp hsome
  have hkey : found.key = binding.key := by simpa using List.find?_some hfound
  rw [hfound, List.inj_on_of_nodup_map h (List.mem_of_find?_eq_some hfound) hmem hkey]

theorem find?_eq_some_iff {table : LabelTable α} (h : Distinct table.bindings) :
    table.find? name = some target ↔
      ∃ binding ∈ table.bindings, binding.key = Text.upper name ∧ binding.target = target := by
  unfold find?
  constructor
  · intro hfind
    obtain ⟨binding, hbinding, htarget⟩ := Option.map_eq_some_iff.mp hfind
    have hkey : binding.key = Text.upper name := by simpa using List.find?_some hbinding
    exact ⟨binding, List.mem_of_find?_eq_some hbinding, hkey, htarget⟩
  · rintro ⟨binding, hmem, hkey, rfl⟩
    rw [← hkey, find?_bindings_of_mem h hmem, Option.map_some]

theorem find?_eq_none_iff {table : LabelTable α} :
    table.find? name = none ↔ Text.upper name ∉ table.bindings.map Binding.key := by
  unfold find?
  rw [Option.map_eq_none_iff, List.find?_eq_none, List.mem_map]
  constructor
  · rintro hnone ⟨binding, hmem, hkey⟩
    exact hnone binding hmem (beq_iff_eq.mpr hkey)
  · intro hnone binding hmem hkey
    exact hnone ⟨binding, hmem, beq_iff_eq.mp hkey⟩

/-- A definition is refused exactly by a strict table that has the name. -/
theorem refusal?_eq_none_iff {table : LabelTable α} :
    table.refusal? name = none ↔
      table.strict = false ∨ Text.upper name ∉ table.bindings.map Binding.key := by
  rw [← find?_eq_none_iff]
  unfold refusal?
  cases table.strict <;> simp

theorem define_eq_ok_iff {table bound : LabelTable α} :
    table.define name target = .ok bound ↔
      (table.strict = false ∨ Text.upper name ∉ table.bindings.map Binding.key) ∧
        bound = { table with bindings := rebind name target table.bindings } := by
  rw [← refusal?_eq_none_iff]
  unfold define
  cases table.refusal? name with
  | none => simp [LabelTable.bind, eq_comm]
  | some earlier => simp

theorem strict_of_refusal? {table : LabelTable α} {earlier : α}
    (h : table.refusal? name = some earlier) : table.strict = true := by
  unfold refusal? at h
  split at h
  · assumption
  · contradiction

/-- A name that a strict table binds cannot be defined again. -/
theorem define_of_strict {table : LabelTable α} (hstrict : table.strict = true)
    (h : table.find? name = some target) (again : α) :
    table.define name again = .error target := by
  unfold define refusal?
  rw [if_pos hstrict, h]

end LabelTable
end Chip8
