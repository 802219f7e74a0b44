import Chip8.Proofs.Suggestions

/-!
# Spoiled operands

A token is spoiled if it is empty or has a comma in it.  Nothing that an operand may be is spelled
so, and an instruction with such an operand is reported for an operand, whatever the labels are.
-/

namespace Chip8

/-! ### Spoiled tokens -/

theorem Text.mem_dropFinalNewline {t : Text} {c : Char} (hc : c ≠ '\n') (h : c ∈ t) :
    c ∈ dropFinalNewline t := by
  induction t with
  | nil => contradiction
  | cons d rest ih =>
      cases rest with
      | nil =>
          obtain rfl := List.mem_singleton.mp h
          simp [dropFinalNewline, hc]
      | cons e others =>
          have hstep : dropFinalNewline (d :: e :: others) =
              d :: dropFinalNewline (e :: others) := by
            simp [dropFinalNewline]
          rw [hstep]
          rcases List.mem_cons.mp h with rfl | hrest
          · exact List.mem_cons_self
          · exact List.mem_cons_of_mem _ (ih hrest)

/-- Holds of the tokens that are empty or have a comma in them. -/
def Token.Spoiled (token : Token) : Prop :=
  token = [] ∨ ',' ∈ token

namespace Token.Spoiled

variable {token : Token}

theorem dropFinalNewline (h : Spoiled token) : Spoiled (Text.dropFinalNewline token) := by
  rcases h with rfl | hcomma
  · exact .inl rfl
  · exact .inr (Text.mem_dropFinalNewline (by decide) hcomma)

theorem not_all {p : Char → Bool} (hp : p ',' = false) (h : Spoiled token) :
    (!token.isEmpty && token.all p) = false := by
  rcases h with rfl | hcomma
  · rfl
  · rw [Bool.and_eq_false_iff]
    refine .inr (Bool.eq_false_iff.mpr fun hall => ?_)
    rw [List.all_eq_true.mp hall _ hcomma] at hp
    contradiction

theorem hexadecimal?_eq_none (h : Spoiled token) : Operand.hexadecimal? token = none := by
  unfold Operand.hexadecimal?
  split
  · rename_i digits
    have hdigits : ',' ∈ digits := by
      rcases h with hnil | hcomma
      · contradiction
      · exact (List.mem_cons.mp hcomma).resolve_left (by decide)
    rw [if_neg]
    rw [not_all (by decide) (.inr hdigits)]
    exact Bool.false_ne_true
  · rfl

/-- A spoiled token is no value. -/
theorem ofToken_eq (h : Spoiled token) : Operand.ofToken token = .malformed := by
  have hbody := h.dropFinalNewline
  have hdigits := hbody.not_all (p := Char.isDigit) (by decide)
  have hword : Text.isWordText (Text.dropFinalNewline token) = false :=
    hbody.not_all (p := Text.isWord) (by decide)
  unfold Operand.ofToken
  simp only [hbody.hexadecimal?_eq_none, hdigits, hword, Bool.false_eq_true, if_false]

/-- A spoiled token is no register. -/
theorem register_eq_none (h : Spoiled token) : Register.ofToken? token = none := by
  have hbody := h.dropFinalNewline
  unfold Register.ofToken?
  split
  · rename_i v digit hpair
    rw [hpair] at hbody
    have hcomma := hbody.resolve_left (List.cons_ne_nil _ _)
    rw [if_neg]
    rcases List.mem_cons.mp hcomma with rfl | hdigit
    · simp
    · obtain rfl := List.mem_singleton.mp hdigit
      simp [show Text.isHexDigit ',' = false by decide]
  · rfl

/-- A spoiled token is not the name of a special operand. -/
theorem upper_not_mem (h : Spoiled token) : Text.upper token ∉ Operand.reserved := by
  rcases h with rfl | hcomma
  · decide
  · intro hmem
    have hupper : ',' ∈ Text.upper token := List.mem_flatMap.mpr ⟨_, hcomma, by decide⟩
    have hfree : ∀ name ∈ Operand.reserved, ',' ∉ name := by decide
    exact hfree _ hmem hupper

end Token.Spoiled

/-! ### Forms -/

namespace Form

variable {labels : LabelTable Int} {mnemonic : Mnemonic} {operands : List Token}
  {made : Operation} {operand : Token}

/-- No form has a spoiled operand. -/
theorem not_spoiled (h : Form labels mnemonic operands made) (hmem : operand ∈ operands) :
    ¬ operand.Spoiled := by
  have hregister {token : Token} {x : Register} (h : Register.ofToken? token = some x) :
      ¬ token.Spoiled := by
    intro hspoiled
    rw [hspoiled.register_eq_none] at h
    contradiction
  have hnumber {token : Token} {value : Nat} (h : Operand.ofToken token = .number value) :
      ¬ token.Spoiled := by
    intro hspoiled
    rw [hspoiled.ofToken_eq] at h
    contradiction
  have hvalue {token : Token} {value : Int} (h : labels.Resolves token value) :
      ¬ token.Spoiled := by
    intro hspoiled
    cases h with
    | number h => exact hnumber h hspoiled
    | label h _ =>
        rw [hspoiled.ofToken_eq] at h
        contradiction
  have hplace {token : Token} (h : Text.upper token ∈ Operand.reserved) : ¬ token.Spoiled :=
    fun hspoiled => hspoiled.upper_not_mem h
  have hindex {token : Token} (h : Text.upper token = ['I']) : ¬ token.Spoiled :=
    hplace (h ▸ by decide)
  have hto : ∀ entry ∈ Opcode.loadsTo, entry.1 ∈ Operand.reserved := by decide
  have hfrom : ∀ entry ∈ Opcode.loadsFrom, entry.1 ∈ Operand.reserved := by decide
  revert operand
  -- the operands of a form are few, and each of them is read as one of these
  simp only [← List.forall_iff_forall_mem]
  cases h with
  | bare _ => trivial
  | address _ ha => exact hvalue ha
  | jumpFromRegister hr ha => exact ⟨hregister hr, hvalue ha⟩
  | loadAddress hi ha => exact ⟨hindex hi, hvalue ha⟩
  | register _ hr => exact hregister hr
  | loadTo h hr => exact ⟨hplace (hto _ h), hregister hr⟩
  | loadFrom h hr => exact ⟨hregister hr, hplace (hfrom _ h)⟩
  | addToAddress hi hr => exact ⟨hindex hi, hregister hr⟩
  | registerByte _ hr hv => exact ⟨hregister hr, hnumber hv⟩
  | registers _ hr hs => exact ⟨hregister hr, hregister hs⟩
  | shift _ hr => exact hregister hr
  | sprite hr hs hv => exact ⟨hregister hr, hregister hs, hnumber hv⟩
  | word ha => exact hvalue ha
  | byte ha => exact hvalue ha

end Form

/-! ### Reports of operands -/

/-- What a cause is a case of, whatever it quotes. -/
inductive Cause.Kind
  | unknownMnemonic
  | undefinedLabel
  | malformedOperand
  | duplicateLabel
  | described
  deriving DecidableEq, Repr

/-- The kind of a cause. -/
def Cause.kind : Cause → Cause.Kind
  | .unknownMnemonic _ => .unknownMnemonic
  | .undefinedLabel _ _ => .undefinedLabel
  | .malformedOperand _ => .malformedOperand
  | .duplicateLabel _ _ => .duplicateLabel
  | .described _ _ => .described

namespace Instruction

/-- Holds of the reports that an operand of the instruction is malformed. -/
def BlamesOperand (instruction : Instruction) (diagnostic : Diagnostic) : Prop :=
  diagnostic.cause.kind = .malformedOperand ∧ diagnostic.index = some instruction.index

section

variable {labels : LabelTable Int} {instruction : Instruction} {mnemonic : Mnemonic}
  {token operand a b : Token} {operands : List Token} {position : Nat}

/-- What has a known mnemonic and fails in one way for all labels is at fault for an operand. -/
theorem blamesOperand_of_faults {α : Type} {x : Except Failure α}
    (htokens : instruction.tokens = token :: operands)
    (hmnemonic : Mnemonic.ofToken? token = some mnemonic)
    (h : ∀ labels, Blames (Fault labels instruction) x) : Blames instruction.BlamesOperand x := by
  intro diagnostic hfails
  cases h {} diagnostic hfails with
  | missing hnil =>
      rw [htokens] at hnil
      contradiction
  | unknown htokens' hnone =>
      obtain ⟨rfl, -⟩ := List.cons.inj (htokens'.symm.trans htokens)
      rw [hmnemonic] at hnone
      contradiction
  | @undefined _ name _ _ _ =>
      -- the name is not undefined in a table that has it
      let table : LabelTable Int := ⟨false, [⟨name, 0⟩]⟩
      obtain ⟨hfind, -⟩ := (h table _ hfails).of_undefinedLabel rfl
      have hfound : table.find? name = some 0 := by
        simp [table, LabelTable.find?, Binding.key]
      rw [hfound] at hfind
      contradiction
  | malformed _ _ => exact ⟨rfl, rfl⟩
  | wrongCount _ _ _ => exact ⟨rfl, rfl⟩

theorem malformed_blamesOperand {α : Type} (instruction : Instruction) (position : Nat)
    (fault : OperandFault) :
    Blames instruction.BlamesOperand
      (.error (instruction.malformed position fault) : Except Failure α) :=
  .reported ⟨rfl, rfl⟩

theorem valueAt_blamesOperand (labels : LabelTable Int)
    (htoken : instruction.tokens[position]? = some operand) (h : operand.Spoiled) :
    Blames instruction.BlamesOperand (valueAt labels instruction position) := by
  have hvalue : valueAt labels instruction position =
      .error (instruction.malformed position (.notAddress operand)) := by
    simp [valueAt, tokenAt_eq htoken, h.ofToken_eq, bind, Except.bind]
  rw [hvalue]
  exact malformed_blamesOperand instruction position _

theorem addressForm_blamesOperand (labels : LabelTable Int) (opcode : Opcode)
    (htoken : instruction.tokens[position]? = some operand) (h : operand.Spoiled) :
    Blames instruction.BlamesOperand (addressForm labels instruction opcode position) :=
  (valueAt_blamesOperand labels htoken h).bind fun _ _ => .ok _

theorem jump_blamesOperand (labels : LabelTable Int)
    (htokens : instruction.tokens = token :: operands)
    (hmnemonic : Mnemonic.ofToken? token = some .jp)
    (hcount : (⟨1, 2⟩ : OperandCount).admits operands.length = true)
    (hoperand : operand ∈ operands) (h : operand.Spoiled) :
    Blames instruction.BlamesOperand (jump labels instruction) := by
  unfold jump
  rw [operands_eq htokens]
  match operands, hcount with
  | [a], _ =>
      obtain rfl := List.mem_singleton.mp hoperand
      exact addressForm_blamesOperand labels .jp (first_eq htokens) h
  | [a, b], _ =>
      rw [if_neg (by simp)]
      apply (blamesOperand_of_faults htokens hmnemonic fun _ => registerAt_faults _ _).bind
      intro offset hoffset
      split
      · -- the first operand is a register, so the other one is spoiled
        have hregister := (registerAt_eq_ok_iff (first_eq htokens)).mp hoffset
        have hne : operand ≠ a := by
          rintro rfl
          rw [h.register_eq_none] at hregister
          contradiction
        obtain rfl := List.mem_singleton.mp ((List.mem_cons.mp hoperand).resolve_left hne)
        exact addressForm_blamesOperand labels .jpV0 (second_eq htokens) h
      · apply (blamesOperand_of_faults htokens hmnemonic fun _ => tokenAt_faults _ _).bind
        exact fun _ _ => malformed_blamesOperand instruction 1 _

theorem load_blamesOperand (labels : LabelTable Int) (htokens : instruction.tokens = [token, a, b])
    (hmnemonic : Mnemonic.ofToken? token = some .ld)
    (hoperand : operand ∈ [a, b]) (h : operand.Spoiled) :
    Blames instruction.BlamesOperand (load labels instruction) := by
  by_cases hindex : Text.upper a = ['I']
  · have hne : operand ≠ a := by
      rintro rfl
      exact h.upper_not_mem (hindex ▸ by decide)
    obtain rfl := List.mem_singleton.mp ((List.mem_cons.mp hoperand).resolve_left hne)
    rw [load_eq labels htokens, if_pos hindex]
    exact addressForm_blamesOperand labels .ldI (second_eq htokens) h
  · -- no other load reads the labels
    have hsame (labels' : LabelTable Int) : load labels instruction = load labels' instruction := by
      rw [load_eq labels htokens, load_eq labels' htokens, if_neg hindex, if_neg hindex]
    exact blamesOperand_of_faults htokens hmnemonic fun labels' =>
      hsame labels' ▸ load_faults labels' instruction

theorem operation_blamesOperand (labels : LabelTable Int)
    (htokens : instruction.tokens = token :: operands)
    (hmnemonic : Mnemonic.ofToken? token = some mnemonic)
    (hcount : mnemonic.operandCount.admits operands.length = true)
    (hoperand : operand ∈ operands) (h : operand.Spoiled) :
    Blames instruction.BlamesOperand (operation labels instruction mnemonic) := by
  have hother (hsame : ∀ labels',
      operation labels instruction mnemonic = operation labels' instruction mnemonic) :
      Blames instruction.BlamesOperand (operation labels instruction mnemonic) :=
    blamesOperand_of_faults htokens hmnemonic fun labels' =>
      hsame labels' ▸ operation_faults labels' instruction mnemonic
  cases mnemonic
  case sys | call =>
    obtain ⟨a, rfl⟩ := List.length_eq_one_iff.mp (OperandCount.admits_exactly_iff.mp hcount)
    obtain rfl := List.mem_singleton.mp hoperand
    exact addressForm_blamesOperand labels _ (first_eq htokens) h
  case jp => exact jump_blamesOperand labels htokens hmnemonic hcount hoperand h
  case ld =>
    obtain ⟨a, b, rfl⟩ := List.length_eq_two.mp (OperandCount.admits_exactly_iff.mp hcount)
    exact load_blamesOperand labels htokens hmnemonic hoperand h
  case dw | db =>
    obtain ⟨a, rfl⟩ := List.length_eq_one_iff.mp (OperandCount.admits_exactly_iff.mp hcount)
    obtain rfl := List.mem_singleton.mp hoperand
    exact (valueAt_blamesOperand labels (first_eq htokens) h).bind fun _ _ => .ok _
  -- the other mnemonics take no address
  all_goals exact hother fun _ => rfl

/-- An instruction with a spoiled operand is not encoded.  It is reported for its mnemonic if that
is not known, and else for an operand or for how many there are. -/
theorem encode_of_spoiled (labels : LabelTable Int)
    (htokens : instruction.tokens = token :: operands) (hoperand : operand ∈ operands)
    (h : operand.Spoiled) :
    ∃ diagnostic, instruction.encode labels = .error (.reported diagnostic) ∧
      diagnostic.cause.kind =
        (if (Mnemonic.ofToken? token).isSome then .malformedOperand else .unknownMnemonic) ∧
      diagnostic.index = some instruction.index := by
  cases hmnemonic : Mnemonic.ofToken? token with
  | none =>
      refine ⟨instruction.diagnostic (instruction.locationOf 0) (.unknownMnemonic token), ?_, rfl,
        rfl⟩
      unfold encode
      simp only [htokens, hmnemonic]
      rfl
  | some mnemonic =>
      have hblames : Blames instruction.BlamesOperand (instruction.encode labels) := by
        unfold encode
        simp only [htokens, hmnemonic]
        split
        · rename_i hcount
          exact (operation_blamesOperand labels htokens hmnemonic hcount hoperand h).bind
            fun _ _ => .ok _
        · exact malformed_blamesOperand instruction _ _
      have hreports := encode_reports labels instruction
      generalize hencode : instruction.encode labels = made at hreports
      cases hreports with
      | ok encoded =>
          obtain ⟨_, _, _, _, htokens', _, hform, -⟩ := encode_eq_ok_iff.mp hencode
          obtain ⟨-, rfl⟩ := List.cons.inj (htokens'.symm.trans htokens)
          exact absurd h (hform.not_spoiled hoperand)
      | @reported diagnostic _ =>
          obtain ⟨hkind, hindex⟩ := hblames diagnostic hencode
          exact ⟨diagnostic, rfl, hkind, hindex⟩

end

end Instruction

end Chip8
