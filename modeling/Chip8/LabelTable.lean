import Chip8.EditDistance
import Chip8.Text.Case

/-!
# Label tables

A table binds names to targets.  Names that agree in upper case are one name: a later definition
takes the place of the earlier one, with its own spelling, and keeps its position in the table.  A
strict table refuses the later definition instead.
-/

namespace Chip8

/-- A name as it was last spelled, and what it stands for. -/
structure Binding (α : Type) where
  name : Text
  target : α
  deriving DecidableEq, Repr

namespace Binding

variable {α : Type}

/-- What decides whether two names are one. -/
def key (binding : Binding α) : Text :=
  Text.upper binding.name

end Binding

/-- The bindings of a program's labels, in the order of their first definitions. -/
structure LabelTable (α : Type) where
  strict : Bool := false
  bindings : List (Binding α) := []
  deriving DecidableEq, Repr

namespace LabelTable

variable {α β : Type}

/-- What a name stands for. -/
def find? (table : LabelTable α) (name : Text) : Option α :=
  (table.bindings.find? fun binding => binding.key == Text.upper name).map (·.target)

/-- Holds when a name is bound. -/
def contains (table : LabelTable α) (name : Text) : Bool :=
  (table.find? name).isSome

/-- The bindings after `name` is bound to `target`, in the place of an earlier definition or at the
end. -/
def rebind (name : Text) (target : α) : List (Binding α) → List (Binding α)
  | [] => [⟨name, target⟩]
  | binding :: rest =>
      if binding.key == Text.upper name then
        ⟨name, target⟩ :: rest
      else
        binding :: rebind name target rest

/-- Binds a name, whether or not it has been bound. -/
def bind (table : LabelTable α) (name : Text) (target : α) : LabelTable α :=
  { table with bindings := rebind name target table.bindings }

/-- The earlier target for whose sake a name is not bound again: that of a strict table. -/
def refusal? (table : LabelTable α) (name : Text) : Option α :=
  if table.strict then table.find? name else none

/-- Binds a name.  A strict table fails with the earlier target of a name that it binds. -/
def define (table : LabelTable α) (name : Text) (target : α) : Except α (LabelTable α) :=
  match table.refusal? name with
  | some earlier => .error earlier
  | none => .ok (table.bind name target)

/-- The names in order. -/
def names (table : LabelTable α) : List Text :=
  table.bindings.map (·.name)

/-- The names in order, each with what it stands for. -/
def toList (table : LabelTable α) : List (Text × α) :=
  table.bindings.map fun binding => (binding.name, binding.target)

/-- The number of names. -/
def size (table : LabelTable α) : Nat :=
  table.bindings.length

/-- Replaces every target. -/
def map (f : α → β) (table : LabelTable α) : LabelTable β :=
  ⟨table.strict, table.bindings.map fun binding => ⟨binding.name, f binding.target⟩⟩

/-- Replaces every target by what is made of it and of a proof about it. -/
def pmap {p : α → Prop} (f : ∀ target, p target → β) (table : LabelTable α)
    (h : ∀ binding ∈ table.bindings, p binding.target) : LabelTable β :=
  ⟨table.strict, table.bindings.pmap (fun binding hp => ⟨binding.name, f binding.target hp⟩) h⟩

/-- Holds of names that one may have been meant for the other: their lengths differ by one at the
most, and two edits turn one into the other in lower case. -/
def resembles (name other : Text) : Bool :=
  other.length ≤ name.length + 1 && name.length ≤ other.length + 1 &&
    Text.editDistance (Text.lower name) (Text.lower other) ≤ 2

/-- The first three names that resemble the given one. -/
def similar (table : LabelTable α) (name : Text) : List Text :=
  (table.names.filter (resembles name)).take 3

theorem length_names (table : LabelTable α) : table.names.length = table.size := by
  simp [names, size]

theorem names_map (f : α → β) (table : LabelTable α) : (table.map f).names = table.names := by
  simp [names, map]

theorem find?_map (f : α → β) (table : LabelTable α) (name : Text) :
    (table.map f).find? name = (table.find? name).map f := by
  simp [find?, map, List.find?_map, Binding.key, Function.comp_def]

theorem pmap_eq_map {p : α → Prop} {f : ∀ target, p target → β} {g : α → β}
    {table : LabelTable α} (h : ∀ binding ∈ table.bindings, p binding.target)
    (hf : ∀ target hp, f target hp = g target) : table.pmap f h = table.map g := by
  unfold pmap map
  simp only [hf, List.pmap_eq_map]

/-- Binding a name changes no target but the one that is given. -/
theorem mem_of_mem_rebind {name : Text} {target : α} {bindings : List (Binding α)}
    {binding : Binding α} (h : binding ∈ rebind name target bindings) :
    binding = ⟨name, target⟩ ∨ binding ∈ bindings := by
  induction bindings with
  | nil => exact .inl (List.mem_singleton.mp h)
  | cons first rest ih =>
      unfold rebind at h
      split at h
      · rcases List.mem_cons.mp h with rfl | hrest
        · exact .inl rfl
        · exact .inr (List.mem_cons_of_mem _ hrest)
      · rcases List.mem_cons.mp h with rfl | hrest
        · exact .inr List.mem_cons_self
        · exact (ih hrest).imp_right (List.mem_cons_of_mem _)

theorem find?_bindings_rebind (name other : Text) (target : α) (bindings : List (Binding α)) :
    ((rebind name target bindings).find? fun binding => binding.key == Text.upper other) =
      if Text.upper name = Text.upper other then some ⟨name, target⟩
      else bindings.find? fun binding => binding.key == Text.upper other := by
  induction bindings with
  | nil => by_cases h : Text.upper name = Text.upper other <;> simp [rebind, Binding.key, h]
  | cons binding rest ih =>
      by_cases hb : binding.key = Text.upper name
      · rw [rebind, if_pos (beq_iff_eq.mpr hb), List.find?_cons, List.find?_cons, hb]
        by_cases h : Text.upper name = Text.upper other
        · simp [Binding.key, h]
        · simp [Binding.key, h, beq_eq_false_iff_ne.mpr h]
      · rw [rebind, if_neg (by simpa using hb), List.find?_cons, List.find?_cons]
        by_cases h : binding.key = Text.upper other
        · have hne : Text.upper name ≠ Text.upper other := fun heq => hb (h.trans heq.symm)
          simp [h, hne]
        · rw [beq_eq_false_iff_ne.mpr h]
          exact ih

theorem find?_rebind (name other : Text) (target : α) (bindings : List (Binding α)) :
    ((rebind name target bindings).find? fun binding => binding.key == Text.upper other).map
        (·.target) =
      if Text.upper name = Text.upper other then some target
      else (bindings.find? fun binding => binding.key == Text.upper other).map (·.target) := by
  rw [find?_bindings_rebind]
  split <;> rfl

theorem find?_define {table bound : LabelTable α} {name : Text} {target : α}
    (h : table.define name target = .ok bound) (other : Text) :
    bound.find? other =
      if Text.upper name = Text.upper other then some target else table.find? other := by
  unfold define at h
  split at h
  · simp at h
  · simp only [Except.ok.injEq] at h
    subst h
    exact find?_rebind name other target table.bindings

end LabelTable

end Chip8
