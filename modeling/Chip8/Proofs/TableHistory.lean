import Chip8.Proofs.LabelTable
import Mathlib.Data.List.Induction

/-!
# Histories of a table

A table is filled by definitions, one after the other, of which a strict table refuses those of
names that it has.  After any history it is a dictionary with one entry for all names that agree in
upper case, in the order of their first definitions.  The entry is the last definition of the name,
or in a strict table the first, and all questions to the table are answered from these entries.
-/

namespace Chip8
namespace LabelTable

variable {α β : Type} {table : LabelTable α} {definitions : List (Text × α)}

/-! ### Filling a table -/

/-- The table after a definition, or as it was if the definition is refused. -/
def defineOrKeep (table : LabelTable α) (definition : Text × α) : LabelTable α :=
  match table.define definition.1 definition.2 with
  | .ok bound => bound
  | .error _ => table

/-- The table after several definitions, one after the other. -/
def defineEach (table : LabelTable α) (definitions : List (Text × α)) : LabelTable α :=
  definitions.foldl defineOrKeep table

/-- Holds of the definitions of a name, whatever its case. -/
def isOf (name : Text) (definition : Text × α) : Bool :=
  Text.upper definition.1 == Text.upper name

/-- The definition of a binding. -/
def bindingOf (definition : Text × α) : Binding α :=
  ⟨definition.1, definition.2⟩

/-- The entries of a dictionary that takes in pairs one after the other.  A name that comes again
keeps its place, with the later value. -/
def dictionary (pairs : List (Text × β)) : List (Text × β) :=
  pairs.foldl (fun entries pair =>
    if entries.any fun entry => entry.1 == pair.1 then
      entries.map fun entry => if entry.1 == pair.1 then pair else entry
    else
      entries ++ [pair]) []

/-- Holds of a table with one entry for each name that was defined, where `counted` says which of
the definitions of a name is its entry. -/
structure Records (definitions : List (Text × α)) (counted : Text → Option (Text × α))
    (table : LabelTable α) : Prop where
  found : ∀ name, table.find? name = (counted name).map Prod.snd
  keys : table.names.map Text.upper =
    (definitions.map fun definition => Text.upper definition.1).eraseDups
  spelled : ∀ name ∈ table.names, (counted name).map Prod.fst = some name
  contains : ∀ name, table.contains name = true ↔
    ∃ listed ∈ table.names, Text.upper listed = Text.upper name
  size : table.size = table.names.length
  entries : ∀ {β : Type} (f : α → β),
    (dictionary (table.map f).toList).length = table.size ∧
      (dictionary (table.map f).toList).map Prod.fst = table.names ∧
      ∀ entry ∈ dictionary (table.map f).toList, (table.find? entry.1).map f = some entry.2

theorem dictionary_of_nodup {pairs : List (Text × β)} (h : (pairs.map Prod.fst).Nodup) :
    dictionary pairs = pairs := by
  induction pairs using List.reverseRecOn with
  | nil => rfl
  | append_singleton pairs pair ih =>
      rw [List.map_append, List.nodup_append] at h
      obtain ⟨hpairs, -, hnew⟩ := h
      have hnone : (pairs.any fun entry => entry.1 == pair.1) = false := by
        rw [List.any_eq_false]
        intro entry hentry heq
        exact hnew entry.1 (List.mem_map_of_mem hentry) pair.1 (by simp) (beq_iff_eq.mp heq)
      have hfill : dictionary (pairs ++ [pair]) =
          if (dictionary pairs).any fun entry => entry.1 == pair.1 then
            (dictionary pairs).map fun entry => if entry.1 == pair.1 then pair else entry
          else dictionary pairs ++ [pair] := by
        unfold dictionary
        rw [List.foldl_append]
        rfl
      rw [hfill, ih hpairs, hnone, if_neg Bool.false_ne_true]

/-! ### One definition -/

/-- A definition is refused by a strict table that has the name, and made by any other table. -/
theorem defineOrKeep_eq (table : LabelTable α) (definition : Text × α) :
    table.defineOrKeep definition =
      if table.strict = true ∧ Text.upper definition.1 ∈ table.bindings.map Binding.key then table
      else { table with bindings := rebind definition.1 definition.2 table.bindings } := by
  unfold defineOrKeep
  cases hdefine : table.define definition.1 definition.2 with
  | ok bound =>
      obtain ⟨hfree, rfl⟩ := define_eq_ok_iff.mp hdefine
      rw [if_neg]
      rintro ⟨hstrict, hmem⟩
      rcases hfree with hlax | hnew
      · rw [hstrict] at hlax
        contradiction
      · exact hnew hmem
  | error earlier =>
      rw [if_pos]
      by_contra hfree
      rw [not_and_or, Bool.not_eq_true] at hfree
      rw [define_eq_ok_iff.mpr ⟨hfree, rfl⟩] at hdefine
      contradiction

theorem define_eq_ok_defineOrKeep {name : Text} {target : α}
    (h : table.strict = false ∨ Text.upper name ∉ table.bindings.map Binding.key) :
    table.define name target = .ok (table.defineOrKeep (name, target)) := by
  have hmade : table.define name target =
      .ok { table with bindings := rebind name target table.bindings } :=
    define_eq_ok_iff.mpr ⟨h, rfl⟩
  unfold defineOrKeep
  rw [hmade]

theorem strict_defineOrKeep (table : LabelTable α) (definition : Text × α) :
    (table.defineOrKeep definition).strict = table.strict := by
  rw [defineOrKeep_eq]
  split <;> rfl

/-- The key of a name that a table has stays in its place, and any other goes to the end. -/
theorem keys_rebind (name : Text) (target : α) (bindings : List (Binding α)) :
    (rebind name target bindings).map Binding.key =
      if Text.upper name ∈ bindings.map Binding.key then bindings.map Binding.key
      else bindings.map Binding.key ++ [Text.upper name] := by
  induction bindings with
  | nil => rfl
  | cons first rest ih =>
      rw [rebind, List.map_cons]
      by_cases hkey : first.key = Text.upper name
      · rw [if_pos (beq_iff_eq.mpr hkey), hkey, if_pos List.mem_cons_self]
        rfl
      · rw [if_neg (by simpa using hkey), List.map_cons, ih]
        by_cases hmem : Text.upper name ∈ rest.map Binding.key
        · rw [if_pos hmem, if_pos (List.mem_cons_of_mem _ hmem)]
        · rw [if_neg hmem, if_neg (by simp [Ne.symm hkey, hmem]), List.cons_append]

/-- A refused definition would not have changed the keys. -/
theorem keys_defineOrKeep (table : LabelTable α) (definition : Text × α) :
    (table.defineOrKeep definition).bindings.map Binding.key =
      if Text.upper definition.1 ∈ table.bindings.map Binding.key then
        table.bindings.map Binding.key
      else table.bindings.map Binding.key ++ [Text.upper definition.1] := by
  rw [defineOrKeep_eq]
  split
  · rename_i hrefused
    rw [if_pos hrefused.2]
  · exact keys_rebind _ _ _

theorem Distinct.defineOrKeep (h : Distinct table.bindings) (definition : Text × α) :
    Distinct (table.defineOrKeep definition).bindings := by
  rw [defineOrKeep_eq]
  split
  · exact h
  · exact h.rebind _ _

/-! ### Histories -/

theorem defineEach_append (table : LabelTable α) (before after : List (Text × α)) :
    table.defineEach (before ++ after) = (table.defineEach before).defineEach after :=
  List.foldl_append

theorem defineEach_cons (table : LabelTable α) (definition : Text × α)
    (definitions : List (Text × α)) :
    table.defineEach (definition :: definitions) =
      (table.defineOrKeep definition).defineEach definitions :=
  rfl

theorem defineEach_concat (table : LabelTable α) (definitions : List (Text × α))
    (definition : Text × α) :
    table.defineEach (definitions ++ [definition]) =
      (table.defineEach definitions).defineOrKeep definition :=
  defineEach_append table definitions [definition]

theorem strict_defineEach (table : LabelTable α) (definitions : List (Text × α)) :
    (table.defineEach definitions).strict = table.strict := by
  induction definitions using List.reverseRecOn with
  | nil => rfl
  | append_singleton definitions definition ih =>
      rw [defineEach_concat, strict_defineOrKeep, ih]

theorem Distinct.defineEach (h : Distinct table.bindings) (definitions : List (Text × α)) :
    Distinct (table.defineEach definitions).bindings := by
  induction definitions using List.reverseRecOn with
  | nil => exact h
  | append_singleton definitions definition ih =>
      rw [defineEach_concat]
      exact ih.defineOrKeep definition

theorem eraseDups_concat (keys : List Text) (key : Text) :
    (keys ++ [key]).eraseDups =
      if key ∈ keys then keys.eraseDups else keys.eraseDups ++ [key] := by
  rw [List.eraseDups_append]
  by_cases hmem : key ∈ keys
  · simp [List.removeAll, hmem]
  · simp [List.removeAll, hmem, List.eraseDups_cons]

/-- The keys are those of the definitions, each where it comes first. -/
theorem keys_defineEach (strict : Bool) (definitions : List (Text × α)) :
    (defineEach ⟨strict, []⟩ definitions).bindings.map Binding.key =
      (definitions.map fun definition => Text.upper definition.1).eraseDups := by
  induction definitions using List.reverseRecOn with
  | nil => rfl
  | append_singleton definitions definition ih =>
      rw [defineEach_concat, keys_defineOrKeep, ih, List.map_append, List.map_singleton,
        eraseDups_concat]
      simp only [List.mem_eraseDups]

/-- In a table that is not strict the last definition of a name is its binding. -/
theorem find?_bindings_lax (definitions : List (Text × α)) (name : Text) :
    ((defineEach ⟨false, []⟩ definitions).bindings.find? fun binding =>
        binding.key == Text.upper name) =
      (definitions.reverse.find? (isOf name)).map bindingOf := by
  induction definitions using List.reverseRecOn with
  | nil => rfl
  | append_singleton definitions definition ih =>
      have hlax : (defineEach ⟨false, []⟩ definitions).strict = false := strict_defineEach _ _
      rw [defineEach_concat, defineOrKeep_eq, if_neg (by simp [hlax]), find?_bindings_rebind,
        List.reverse_append, List.reverse_singleton, List.singleton_append, List.find?_cons, isOf]
      by_cases hkey : Text.upper definition.1 = Text.upper name
      · rw [if_pos hkey, beq_iff_eq.mpr hkey]
        rfl
      · rw [if_neg hkey, beq_eq_false_iff_ne.mpr hkey, ih]

/-- In a strict table the first definition of a name is its binding. -/
theorem find?_bindings_strict (definitions : List (Text × α)) (name : Text) :
    ((defineEach ⟨true, []⟩ definitions).bindings.find? fun binding =>
        binding.key == Text.upper name) =
      (definitions.find? (isOf name)).map bindingOf := by
  induction definitions using List.reverseRecOn with
  | nil => rfl
  | append_singleton definitions definition ih =>
      rw [defineEach_concat, defineOrKeep_eq, List.find?_append, Option.map_or, ← ih]
      split
      · -- the definition is refused, and an earlier one of its name is found
        rename_i hrefused
        by_cases hkey : Text.upper definition.1 = Text.upper name
        · obtain ⟨binding, hbinding, heq⟩ := List.mem_map.mp hrefused.2
          have hsome : ((defineEach ⟨true, []⟩ definitions).bindings.find? fun binding =>
              binding.key == Text.upper name).isSome :=
            List.find?_isSome.mpr ⟨binding, hbinding, beq_iff_eq.mpr (heq.trans hkey)⟩
          rw [Option.or_of_isSome hsome]
        · simp [isOf, hkey]
      · rename_i hmade
        have hstrict : (defineEach ⟨true, []⟩ definitions).strict = true := strict_defineEach _ _
        have hnew : Text.upper definition.1 ∉
            (defineEach ⟨true, []⟩ definitions).bindings.map Binding.key :=
          fun hmem => hmade ⟨hstrict, hmem⟩
        rw [rebind_of_not_mem hnew, List.find?_append]
        by_cases hkey : Text.upper definition.1 = Text.upper name
        · simp [isOf, Binding.key, bindingOf, hkey]
        · simp [isOf, Binding.key, hkey]

/-! ### What is observed -/

/-- A table records what its keys and its bindings are. -/
theorem Records.of_bindings {counted : Text → Option (Text × α)}
    (hdistinct : Distinct table.bindings)
    (hkeys : table.bindings.map Binding.key =
      (definitions.map fun definition => Text.upper definition.1).eraseDups)
    (hbindings : ∀ name, (table.bindings.find? fun binding => binding.key == Text.upper name) =
      (counted name).map bindingOf) :
    Records definitions counted table := by
  have hnames : table.names.Nodup := by
    have hall : (table.bindings.map Binding.key).Nodup := hdistinct
    rw [← map_upper_names] at hall
    exact hall.of_map Text.upper
  refine ⟨?found, ?keys, ?spelled, ?contains, (length_names table).symm, ?entries⟩
  case found =>
    intro name
    rw [find?, hbindings, Option.map_map]
    rfl
  case keys => rw [map_upper_names, hkeys]
  case spelled =>
    intro name hname
    obtain ⟨binding, hmem, rfl⟩ := List.mem_map.mp hname
    have hfound := find?_bindings_of_mem hdistinct hmem
    rw [Binding.key, hbindings] at hfound
    obtain ⟨definition, hcounted, rfl⟩ := Option.map_eq_some_iff.mp hfound
    show (counted definition.1).map Prod.fst = some definition.1
    rw [show counted definition.1 = some definition from hcounted, Option.map_some]
  case contains =>
    intro name
    have hsome : table.contains name = true ↔ table.find? name ≠ none := by
      rw [LabelTable.contains, Option.isSome_iff_ne_none]
    rw [hsome, ne_eq, find?_eq_none_iff, not_not, ← map_upper_names, List.mem_map]
  case entries =>
    intro β f
    have hfirst : (table.map f).toList.map Prod.fst = table.names := by
      rw [toList, LabelTable.map, List.map_map, List.map_map]
      rfl
    rw [dictionary_of_nodup (hfirst ▸ hnames)]
    refine ⟨?_, hfirst, ?_⟩
    · rw [← length_names, ← hfirst, List.length_map]
    · intro entry hentry
      obtain ⟨mapped, hmapped, rfl⟩ := List.mem_map.mp hentry
      obtain ⟨binding, hbinding, rfl⟩ := List.mem_map.mp hmapped
      have hfound : table.find? binding.name = some binding.target :=
        (find?_eq_some_iff hdistinct).mpr ⟨binding, hbinding, rfl, rfl⟩
      show (table.find? binding.name).map f = some (f binding.target)
      rw [hfound, Option.map_some]

/-- Whatever has been defined, a table answers from one entry for each name: from the last
definition if it is not strict and from the first if it is.  Only a strict table refuses a
definition, exactly when it has the name; what follows is then as if the definition had not been
tried. -/
theorem defineEach_records (definitions : List (Text × α)) :
    Records definitions (fun name => definitions.reverse.find? (isOf name))
        (defineEach {} definitions) ∧
      (∀ name target, (defineEach {} definitions).define name target =
        .ok (defineEach {} (definitions ++ [(name, target)]))) ∧
      Records definitions (fun name => definitions.find? (isOf name))
        (defineEach { strict := true } definitions) ∧
      ∀ name target,
        ((defineEach { strict := true } definitions).contains name = false →
          (defineEach { strict := true } definitions).define name target =
            .ok (defineEach { strict := true } (definitions ++ [(name, target)]))) ∧
        ((defineEach { strict := true } definitions).contains name = true →
          ∃ earlier, (defineEach { strict := true } definitions).find? name = some earlier ∧
            (defineEach { strict := true } definitions).define name target = .error earlier ∧
            ∀ later, defineEach { strict := true } (definitions ++ (name, target) :: later) =
              defineEach { strict := true } (definitions ++ later)) := by
  refine ⟨?lax, ?made, ?strict, ?tried⟩
  case lax =>
    exact .of_bindings (distinct_nil.defineEach definitions) (keys_defineEach false definitions)
      (find?_bindings_lax definitions)
  case made =>
    intro name target
    rw [defineEach_concat]
    exact define_eq_ok_defineOrKeep (.inl (strict_defineEach _ _))
  case strict =>
    exact .of_bindings (distinct_nil.defineEach definitions) (keys_defineEach true definitions)
      (find?_bindings_strict definitions)
  case tried =>
    intro name target
    have hstrict : (defineEach { strict := true } definitions).strict = true :=
      strict_defineEach _ _
    constructor
    · intro hfree
      rw [defineEach_concat]
      refine define_eq_ok_defineOrKeep (.inr (find?_eq_none_iff.mp ?_))
      simpa [LabelTable.contains] using hfree
    · intro hbound
      obtain ⟨earlier, hfind⟩ := Option.isSome_iff_exists.mp hbound
      have hrefused : (defineEach { strict := true } definitions).define name target =
          .error earlier :=
        define_of_strict hstrict hfind target
      refine ⟨earlier, hfind, hrefused, fun later => ?_⟩
      have hkept : (defineEach { strict := true } definitions).defineOrKeep (name, target) =
          defineEach { strict := true } definitions := by
        unfold defineOrKeep
        rw [hrefused]
      rw [defineEach_append, defineEach_append, defineEach_cons, hkept]

/-- Names of different lengths may be one name, of which either table keeps one spelling. -/
theorem defineEach_records_expanded :
    let definitions := [("straße".toList, 1), ("a".toList, 2)]
    let strict := defineEach { strict := true } definitions
    (defineEach {} (definitions ++ [("STRASSE".toList, 3)])).names =
        ["STRASSE".toList, "a".toList] ∧
      (strict.contains "STRASSE".toList = true ∧
        ∃ earlier, strict.define "STRASSE".toList 3 = .error earlier ∧
          (defineEach { strict := true }
              (definitions ++ [("STRASSE".toList, 3), ("b".toList, 4)])).names =
            ["straße".toList, "a".toList, "b".toList]) ∧
      strict.contains "b".toList = false ∧
        ∃ bound, strict.define "b".toList 4 = .ok bound ∧
          bound.names = ["straße".toList, "a".toList, "b".toList] := by
  intro definitions strict
  have hbound : strict.contains "STRASSE".toList = true := by decide +kernel
  have hfree : strict.contains "b".toList = false := by decide +kernel
  obtain ⟨-, -, -, htried⟩ := defineEach_records definitions
  obtain ⟨earlier, -, hrefused, hlater⟩ := (htried "STRASSE".toList 3).2 hbound
  have hmade := (htried "b".toList 4).1 hfree
  refine ⟨by decide +kernel, ⟨hbound, earlier, hrefused, ?_⟩, hfree, _, hmade, by decide +kernel⟩
  rw [hlater]
  decide +kernel

end LabelTable
end Chip8
