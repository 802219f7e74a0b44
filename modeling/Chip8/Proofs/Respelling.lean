import Chip8.Proofs.Definitions
import Chip8.Proofs.Encoding
import Mathlib.Data.Option.Basic

/-!
# Respelled sources

An assembly knows a token only by what it is read as.  So two sources whose lines have the same
number of tokens, read alike one by one, have one image, or fail alike at one instruction.  Which
spellings count as the same is left open here, and so is which places do.
-/

namespace Chip8

/-- Holds of a relation between tokens if related tokens are read alike wherever a token is read. -/
structure Respelling (Same : Text → Text → Prop) : Prop where
  nil : Same [] []
  dropComma : ∀ {s t}, Same s t → Same (Instruction.dropComma s) (Instruction.dropComma t)
  label : ∀ {s t}, Same s t →
    Option.Rel Same (Instruction.definedLabel? s) (Instruction.definedLabel? t)
  upper : ∀ {s t}, Same s t → Text.upper s = Text.upper t
  operand : ∀ {s t}, Same s t → Operand.ofToken s = Operand.ofToken t
  register : ∀ {s t}, Same s t → Register.ofToken? s = Register.ofToken? t
  starts : ∀ {s t}, Same s t → Register.starts s = Register.starts t
  resembles : ∀ {s t name other}, Same s t → Same name other →
    LabelTable.resembles s name = LabelTable.resembles t other

section Relations

variable (Same : Text → Text → Prop) (Place : Location → Location → Prop)

/-! ### Failures that are alike -/

/-- Faults of one kind that quote related tokens. -/
inductive OperandFault.Like : OperandFault → OperandFault → Prop
  | notRegister {s t : Token} (h : Same s t) : Like (.notRegister s) (.notRegister t)
  | notZeroRegister {s t : Token} (h : Same s t) : Like (.notZeroRegister s) (.notZeroRegister t)
  | notNumber {s t : Token} (h : Same s t) : Like (.notNumber s) (.notNumber t)
  | notAddress {s t : Token} (h : Same s t) : Like (.notAddress s) (.notAddress t)
  | wrongCount (mnemonic : Mnemonic) (given : Nat) :
      Like (.wrongCount mnemonic given) (.wrongCount mnemonic given)

/-- Causes of one kind with related tokens and related suggestions. -/
inductive Cause.Like : Cause → Cause → Prop
  | unknownMnemonic {s t : Token} (h : Same s t) : Like (.unknownMnemonic s) (.unknownMnemonic t)
  | undefinedLabel {s t : Text} {similar similar' : List Text} (h : Same s t)
      (hsimilar : List.Forall₂ Same similar similar') :
      Like (.undefinedLabel s similar) (.undefinedLabel t similar')
  | malformedOperand {fault fault' : OperandFault} (h : fault.Like Same fault') :
      Like (.malformedOperand fault) (.malformedOperand fault')
  | duplicateLabel {s t : Text} {first first' : Option Location} (h : Same s t)
      (hfirst : Option.Rel Place first first') :
      Like (.duplicateLabel s first) (.duplicateLabel t first')

/-- Reports of one instruction with causes that are alike and related places. -/
structure Diagnostic.Like (diagnostic other : Diagnostic) : Prop where
  cause : diagnostic.cause.Like Same Place other.cause
  location : Option.Rel Place diagnostic.location other.location
  index : diagnostic.index = other.index

/-! ### Programs that are alike -/

/-- Lines with related tokens in related places. -/
structure Line.Like (line other : Line) : Prop where
  tokens : List.Forall₂ Same line.tokens other.tokens
  location : Place line.location other.location
  columns : List.Forall₂
    (fun column column' =>
      Place ⟨line.file, line.number, column⟩ ⟨other.file, other.number, column'⟩)
    line.columns other.columns

/-- Instructions with related tokens in related places, and otherwise the same. -/
structure Instruction.Like (instruction other : Instruction) : Prop where
  tokens : List.Forall₂ Same instruction.tokens other.tokens
  label : Option.Rel Same instruction.label other.label
  place : ∀ position, Place (instruction.locationOf position) (other.locationOf position)
  index : instruction.index = other.index
  address : instruction.address = other.address
  width : instruction.width = other.width
  encoded : instruction.encoded = other.encoded

/-- Bindings of related names to one target. -/
structure Binding.Like {α : Type} (binding other : Binding α) : Prop where
  name : Same binding.name other.name
  target : binding.target = other.target

/-- Tables of bindings that are alike, in one order. -/
structure LabelTable.Like {α : Type} (table other : LabelTable α) : Prop where
  strict : table.strict = other.strict
  bindings : List.Forall₂ (Binding.Like Same) table.bindings other.bindings

/-- Programs with instructions and tables that are alike. -/
structure Program.Like (program other : Program) : Prop where
  instructions : List.Forall₂ (Instruction.Like Same Place) program.instructions other.instructions
  labels : program.labels.Like Same other.labels

/-- Assemblies with one image whose programs are alike. -/
structure Assembly.Like (assembly other : Assembly) : Prop where
  image : assembly.image = other.image
  program : assembly.program.Like Same Place other.program

end Relations

/-! ### Computations that fail alike -/

/-- Holds when both computations have results that `R` relates, or both fail alike. -/
inductive Follows {α β : Type} (Fails : Diagnostic → Diagnostic → Prop) (R : α → β → Prop) :
    Except Failure α → Except Failure β → Prop
  | ok {a : α} {b : β} (h : R a b) : Follows Fails R (.ok a) (.ok b)
  | reported {diagnostic other : Diagnostic} (h : Fails diagnostic other) :
      Follows Fails R (.error (.reported diagnostic)) (.error (.reported other))
  | outOfRange : Follows Fails R (.error .outOfRange) (.error .outOfRange)

/-- Holds when both computations have one result, or both fail alike. -/
abbrev Agree {α : Type} (Same : Text → Text → Prop) (Place : Location → Location → Prop)
    (x y : Except Failure α) : Prop :=
  Follows (Diagnostic.Like Same Place) Eq x y

namespace Follows

variable {α β γ δ : Type} {Fails : Diagnostic → Diagnostic → Prop} {R : α → β → Prop}
  {S : γ → δ → Prop} {x : Except Failure α} {y : Except Failure β}

theorem bind {f : α → Except Failure γ} {g : β → Except Failure δ} (h : Follows Fails R x y)
    (hf : ∀ a b, R a b → Follows Fails S (f a) (g b)) :
    Follows Fails S (x >>= f) (y >>= g) := by
  cases h with
  | ok h => exact hf _ _ h
  | reported h => exact .reported h
  | outOfRange => exact .outOfRange

theorem map {f : α → γ} {g : β → δ} (h : Follows Fails R x y)
    (hf : ∀ a b, R a b → S (f a) (g b)) : Follows Fails S (f <$> x) (g <$> y) := by
  cases h with
  | ok h => exact .ok (hf _ _ h)
  | reported h => exact .reported h
  | outOfRange => exact .outOfRange

theorem imp {R' : α → β → Prop} (h : Follows Fails R x y) (hR : ∀ a b, R a b → R' a b) :
    Follows Fails R' x y := by
  cases h with
  | ok h => exact .ok (hR _ _ h)
  | reported h => exact .reported h
  | outOfRange => exact .outOfRange

/-- What is related are the results that the computations have. -/
theorem with_eq (h : Follows Fails R x y) :
    Follows Fails (fun a b => R a b ∧ x = .ok a ∧ y = .ok b) x y := by
  cases h with
  | ok h => exact .ok ⟨h, rfl, rfl⟩
  | reported h => exact .reported h
  | outOfRange => exact .outOfRange

end Follows

/-! ### Related options and lists -/

/-- Related options are both empty, or hold related values. -/
theorem rel_cases {α β : Type} {R : α → β → Prop} {item : Option α} {other : Option β}
    (h : Option.Rel R item other) :
    item = none ∧ other = none ∨ ∃ a b, item = some a ∧ other = some b ∧ R a b := by
  cases h with
  | some h => exact .inr ⟨_, _, rfl, rfl, h⟩
  | none => exact .inl ⟨rfl, rfl⟩

theorem rel_getElem? {α β : Type} {R : α → β → Prop} {items : List α} {others : List β}
    (h : List.Forall₂ R items others) (position : Nat) :
    Option.Rel R items[position]? others[position]? := by
  induction h generalizing position with
  | nil => exact .none
  | cons hfirst _ ih =>
      cases position with
      | zero => exact .some hfirst
      | succ position => exact ih position

theorem eq_of_rel_eq {α : Type} {item other : Option α} (h : Option.Rel Eq item other) :
    item = other := by
  rcases rel_cases h with ⟨hitem, hother⟩ | ⟨a, b, hitem, hother, rfl⟩
  · rw [hitem, hother]
  · rw [hitem, hother]

theorem forall₂_zipIdx {α β : Type} {R : α → β → Prop} {items : List α} {others : List β}
    (h : List.Forall₂ R items others) (start : Nat) :
    List.Forall₂ (fun item other => R item.1 other.1 ∧ item.2 = other.2) (items.zipIdx start)
      (others.zipIdx start) := by
  induction h generalizing start with
  | nil => exact .nil
  | cons hfirst _ ih => exact .cons ⟨hfirst, rfl⟩ (ih (start + 1))

variable {Same : Text → Text → Prop} {Place : Location → Location → Prop}

/-! ### Tables -/

namespace LabelTable.Like

variable {α β : Type} {table other : LabelTable α} {bindings bindings' : List (Binding α)}
  {s t : Text}

/-- A name and a related one stand for the same. -/
theorem find?_eq (h : table.Like Same other) (hSame : Respelling Same) (hst : Same s t) :
    table.find? s = other.find? t := by
  unfold LabelTable.find?
  rw [hSame.upper hst]
  generalize table.bindings = bindings, other.bindings = bindings', h.bindings = hbindings
  induction hbindings with
  | nil => rfl
  | @cons binding binding' _ _ hfirst _ ih =>
      have hkey : binding.key = binding'.key := hSame.upper hfirst.name
      rw [List.find?_cons, List.find?_cons, hkey]
      cases binding'.key == Text.upper t with
      | true => exact congrArg some hfirst.target
      | false => exact ih

theorem similar_like (h : table.Like Same other) (hSame : Respelling Same) (hst : Same s t) :
    List.Forall₂ Same (table.similar s) (other.similar t) := by
  have hnames : List.Forall₂ Same table.names other.names := by
    unfold LabelTable.names
    rw [List.forall₂_map_left_iff, List.forall₂_map_right_iff]
    exact h.bindings.imp fun _ _ hbinding => hbinding.name
  have hresembles : ∀ {name name' : Text}, Same name name' →
      (resembles s name = true ↔ resembles t name' = true) := by
    intro name name' hname
    rw [hSame.resembles hst hname]
  exact List.forall₂_take 3 (List.rel_filter (@hresembles) hnames)

theorem map {f g : α → β} (h : table.Like Same other) (hfg : ∀ target, f target = g target) :
    (table.map f).Like Same (other.map g) := by
  refine ⟨h.strict, ?_⟩
  unfold LabelTable.map
  rw [List.forall₂_map_left_iff, List.forall₂_map_right_iff]
  exact h.bindings.imp fun binding binding' hbinding =>
    ⟨hbinding.name, (hfg binding.target).trans (congrArg g hbinding.target)⟩

theorem rebind (hSame : Respelling Same) (hst : Same s t) (target : α)
    (h : List.Forall₂ (Binding.Like Same) bindings bindings') :
    List.Forall₂ (Binding.Like Same) (LabelTable.rebind s target bindings)
      (LabelTable.rebind t target bindings') := by
  induction h with
  | nil => exact .cons ⟨hst, rfl⟩ .nil
  | @cons binding binding' _ _ hfirst hrest ih =>
      have hkey : binding.key = binding'.key := hSame.upper hfirst.name
      unfold LabelTable.rebind
      rw [hkey, hSame.upper hst]
      split
      · exact .cons ⟨hst, rfl⟩ hrest
      · exact .cons hfirst ih

end LabelTable.Like

/-! ### Encoding -/

namespace Instruction

variable {labels labels' : LabelTable Int} {instruction other : Instruction}

section Reports

variable (h : instruction.Like Same Place other)
include h

theorem Like.location : Place instruction.location other.location := by
  have hplace := h.place (-1)
  rwa [locationOf, locationOf, if_pos (by decide), if_pos (by decide)] at hplace

theorem operands_length_eq : instruction.operands.length = other.operands.length := by
  unfold operands
  rw [List.length_drop, List.length_drop, h.tokens.length_eq]

theorem report_follows {α β : Type} {R : α → β → Prop} (position : Int) {cause cause' : Cause}
    (hcause : cause.Like Same Place cause') :
    Follows (Diagnostic.Like Same Place) R
      (.error (instruction.report (instruction.locationOf position) cause))
      (.error (other.report (other.locationOf position) cause')) :=
  .reported ⟨hcause, .some (h.place position), congrArg some h.index⟩

theorem malformed_follows {α β : Type} {R : α → β → Prop} (position : Nat)
    {fault fault' : OperandFault} (hfault : fault.Like Same fault') :
    Follows (Diagnostic.Like Same Place) R (.error (instruction.malformed position fault))
      (.error (other.malformed position fault')) :=
  report_follows h position (.malformedOperand hfault)

theorem tokenAt_follows (position : Nat) :
    Follows (Diagnostic.Like Same Place) Same (instruction.tokenAt position)
      (other.tokenAt position) := by
  unfold tokenAt
  rcases rel_cases (rel_getElem? h.tokens position) with ⟨hnone, hnone'⟩ | ⟨s, t, hs, ht, hst⟩
  · rw [hnone, hnone']
    exact .outOfRange
  · rw [hs, ht]
    exact .ok hst

end Reports

section Reading

variable (hSame : Respelling Same) (hlabels : labels.Like Same labels')
  (h : instruction.Like Same Place other)
include hSame h

theorem upper_tokenAt_follows (position : Nat) :
    Agree Same Place (Text.upper <$> instruction.tokenAt position)
      (Text.upper <$> other.tokenAt position) :=
  (tokenAt_follows h position).map fun _ _ hst => hSame.upper hst

theorem registerAt_follows (position : Nat) :
    Agree Same Place (instruction.registerAt position) (other.registerAt position) := by
  apply (tokenAt_follows h position).bind
  intro s t hst
  rw [hSame.register hst]
  cases Register.ofToken? t with
  | some register => exact .ok rfl
  | none => exact malformed_follows h position (.notRegister hst)

theorem numberAt_follows (position : Nat) :
    Agree Same Place (instruction.numberAt position) (other.numberAt position) := by
  apply (tokenAt_follows h position).bind
  intro s t hst
  rw [hSame.operand hst]
  cases Operand.ofToken t with
  | number value => exact .ok rfl
  | label | malformed => exact malformed_follows h position (.notNumber hst)

theorem registerForm_follows (opcode : Opcode) (position : Nat) :
    Agree Same Place (instruction.registerForm opcode position)
      (other.registerForm opcode position) :=
  (registerAt_follows hSame h position).bind fun _ _ hx => .ok (congrArg _ hx)

theorem registerByteForm_follows (opcode : Opcode) :
    Agree Same Place (instruction.registerByteForm opcode) (other.registerByteForm opcode) := by
  apply (registerAt_follows hSame h 1).bind
  rintro x _ rfl
  exact (numberAt_follows hSame h 2).bind fun _ _ hvalue => .ok (by rw [hvalue])

theorem registersForm_follows (opcode : Opcode) (second : Nat) :
    Agree Same Place (instruction.registersForm opcode second)
      (other.registersForm opcode second) := by
  apply (registerAt_follows hSame h 1).bind
  rintro x _ rfl
  exact (registerAt_follows hSame h second).bind fun _ _ hy => .ok (congrArg _ hy)

theorem registerOrByteForm_follows (byteOpcode registerOpcode : Opcode) :
    Agree Same Place (instruction.registerOrByteForm byteOpcode registerOpcode)
      (other.registerOrByteForm byteOpcode registerOpcode) := by
  apply (tokenAt_follows h 2).bind
  intro s t hst
  rw [hSame.starts hst]
  split
  · exact registersForm_follows hSame h registerOpcode 2
  · exact registerByteForm_follows hSame h byteOpcode

theorem addition_follows : Agree Same Place instruction.addition other.addition := by
  apply (upper_tokenAt_follows hSame h 1).bind
  rintro first _ rfl
  split
  · exact registerForm_follows hSame h .addIVx 2
  · exact registerOrByteForm_follows hSame h .addByte .addReg

theorem sprite_follows : Agree Same Place instruction.sprite other.sprite := by
  apply (numberAt_follows hSame h 3).bind
  rintro height _ rfl
  apply (registerAt_follows hSame h 1).bind
  rintro x _ rfl
  exact (registerAt_follows hSame h 2).bind fun _ _ hy => .ok (by rw [hy])

theorem shift_follows (opcode : Opcode) :
    Agree Same Place (instruction.shift opcode) (other.shift opcode) := by
  unfold shift
  rw [operands_length_eq h]
  exact registersForm_follows hSame h opcode _

include hlabels

theorem valueAt_follows (position : Nat) :
    Agree Same Place (valueAt labels instruction position) (valueAt labels' other position) := by
  apply (tokenAt_follows h position).bind
  intro s t hst
  rw [hSame.operand hst]
  cases Operand.ofToken t with
  | number value => exact .ok rfl
  | malformed => exact malformed_follows h position (.notAddress hst)
  | label =>
      rw [hlabels.find?_eq hSame hst]
      cases labels'.find? t with
      | some address => exact .ok rfl
      | none =>
          exact report_follows h position (.undefinedLabel hst (hlabels.similar_like hSame hst))

theorem addressForm_follows (opcode : Opcode) (position : Nat) :
    Agree Same Place (addressForm labels instruction opcode position)
      (addressForm labels' other opcode position) :=
  (valueAt_follows hSame hlabels h position).bind fun _ _ htarget => .ok (by rw [htarget])

theorem jump_follows : Agree Same Place (jump labels instruction) (jump labels' other) := by
  unfold jump
  rw [operands_length_eq h]
  split
  · exact addressForm_follows hSame hlabels h .jp 1
  · apply (registerAt_follows hSame h 1).bind
    rintro offset _ rfl
    split
    · exact addressForm_follows hSame hlabels h .jpV0 2
    · exact (tokenAt_follows h 1).bind fun _ _ hst => malformed_follows h 1 (.notZeroRegister hst)

theorem load_follows : Agree Same Place (load labels instruction) (load labels' other) := by
  apply (upper_tokenAt_follows hSame h 1).bind
  rintro first _ rfl
  apply (upper_tokenAt_follows hSame h 2).bind
  rintro second _ rfl
  split
  · exact addressForm_follows hSame hlabels h .ldI 2
  · cases Opcode.loadsTo.lookup first with
    | some opcode => exact registerForm_follows hSame h opcode 2
    | none =>
        cases Opcode.loadsFrom.lookup second with
        | some opcode => exact registerForm_follows hSame h opcode 1
        | none => exact registerOrByteForm_follows hSame h .ldByte .ldReg

theorem operation_follows (mnemonic : Mnemonic) :
    Agree Same Place (operation labels instruction mnemonic)
      (operation labels' other mnemonic) := by
  cases mnemonic with
  | cls | ret => exact .ok rfl
  | sys => exact addressForm_follows hSame hlabels h .sys 1
  | jp => exact jump_follows hSame hlabels h
  | call => exact addressForm_follows hSame hlabels h .call 1
  | se => exact registerOrByteForm_follows hSame h .seByte .seReg
  | sne => exact registerOrByteForm_follows hSame h .sneByte .sneReg
  | ld => exact load_follows hSame hlabels h
  | add => exact addition_follows hSame h
  | or => exact registersForm_follows hSame h .or 2
  | and => exact registersForm_follows hSame h .and 2
  | xor => exact registersForm_follows hSame h .xor 2
  | sub => exact registersForm_follows hSame h .sub 2
  | shr => exact shift_follows hSame h .shr
  | subn => exact registersForm_follows hSame h .subn 2
  | shl => exact shift_follows hSame h .shl
  | rnd => exact registerByteForm_follows hSame h .rnd
  | drw => exact sprite_follows hSame h
  | skp => exact registerForm_follows hSame h .skp 1
  | sknp => exact registerForm_follows hSame h .sknp 1
  | dw | db =>
      exact (valueAt_follows hSame hlabels h 1).bind fun _ _ hvalue => .ok (by rw [hvalue])

/-- Instructions that are alike are encoded alike, or fail alike. -/
theorem encode_follows :
    Follows (Diagnostic.Like Same Place) (Instruction.Like Same Place)
      (instruction.encode labels) (other.encode labels') := by
  have htokens := h.tokens
  unfold encode
  generalize instruction.tokens = tokens at htokens
  generalize other.tokens = tokens' at htokens
  cases htokens with
  | nil => exact report_follows h (-1) (.unknownMnemonic hSame.nil)
  | @cons s t operands operands' hst hrest =>
      have hmnemonic : Mnemonic.ofToken? s = Mnemonic.ofToken? t := by
        unfold Mnemonic.ofToken?
        rw [hSame.upper hst]
      simp only [hmnemonic, hrest.length_eq]
      cases Mnemonic.ofToken? t with
      | none => exact report_follows h 0 (.unknownMnemonic hst)
      | some mnemonic =>
          simp only
          split
          · apply (operation_follows hSame hlabels h mnemonic).bind
            rintro made _ rfl
            exact .ok ⟨.cons hst hrest, h.label, h.place, h.index, h.address, rfl, rfl⟩
          · exact malformed_follows h _ (.wrongCount mnemonic _)

end Reading

/-! ### Lines -/

section Lines

variable {line line' : Line} {step : AddressStep} {tokens tokens' : List Token}

theorem label_like (hSame : Respelling Same) (h : List.Forall₂ Same tokens tokens') :
    Option.Rel Same (tokens.head?.bind definedLabel?) (tokens'.head?.bind definedLabel?) := by
  cases h with
  | nil => exact .none
  | cons hst _ => exact hSame.label hst

theorem plannedWidth_eq (hSame : Respelling Same) (h : List.Forall₂ Same tokens tokens') :
    plannedWidth step tokens = plannedWidth step tokens' := by
  cases h with
  | nil => rfl
  | @cons s t _ _ hst _ =>
      have hmnemonic : Mnemonic.ofToken? s = Mnemonic.ofToken? t := by
        unfold Mnemonic.ofToken?
        rw [hSame.upper hst]
      unfold plannedWidth
      rw [List.head?_cons, List.head?_cons, Option.bind_some, Option.bind_some, hmnemonic]

/-- The tokens of a line that stand before its mnemonic. -/
def skipped (line : Line) : Nat :=
  if (line.tokens.head?.bind definedLabel?).isSome then 1 else 0

theorem skipped_eq (hSame : Respelling Same) (h : line.Like Same Place line') :
    skipped line = skipped line' := by
  unfold skipped
  rcases rel_cases (label_like hSame h.tokens) with ⟨hnone, hnone'⟩ | ⟨_, _, hsome, hsome', -⟩
  · rw [hnone, hnone']
  · rw [hsome, hsome']
    rfl

theorem ofLine_place (hSame : Respelling Same) (h : line.Like Same Place line') (address : Int)
    (index : Nat) (position : Int) :
    Place ((ofLine step address index line).locationOf position)
      ((ofLine step address index line').locationOf position) := by
  have hcolumns : (ofLine step address index line).columns = line.columns.drop (skipped line') := by
    rw [← skipped_eq hSame h]
    rfl
  have hcolumns' : (ofLine step address index line').columns =
      line'.columns.drop (skipped line') := rfl
  have hcolumn := rel_getElem? (List.forall₂_drop (skipped line') h.columns) position.toNat
  unfold locationOf
  rw [hcolumns, hcolumns']
  split
  · exact h.location
  · rcases rel_cases hcolumn with ⟨hnone, hnone'⟩ | ⟨column, column', hsome, hsome', hplace⟩
    · rw [hnone, hnone']
      exact h.location
    · rw [hsome, hsome']
      exact hplace

/-- Lines that are alike make instructions that are alike. -/
theorem ofLine_like (hSame : Respelling Same) (h : line.Like Same Place line') (address : Int)
    (index : Nat) :
    (ofLine step address index line).Like Same Place (ofLine step address index line') := by
  have htokens : List.Forall₂ Same (ofLine step address index line).tokens
      (ofLine step address index line').tokens := by
    show List.Forall₂ Same ((line.tokens.drop (skipped line)).map dropComma)
      ((line'.tokens.drop (skipped line')).map dropComma)
    rw [skipped_eq hSame h, List.forall₂_map_left_iff, List.forall₂_map_right_iff]
    exact (List.forall₂_drop _ h.tokens).imp fun _ _ hst => hSame.dropComma hst
  exact ⟨htokens, label_like hSame h.tokens, ofLine_place hSame h address index, rfl, rfl,
    plannedWidth_eq hSame htokens, rfl⟩

end Lines

end Instruction

namespace Program

variable {program other : Program} {lines lines' : List Line} {step : AddressStep}

theorem place_like (hSame : Respelling Same) (h : List.Forall₂ (Line.Like Same Place) lines lines')
    (address : Int) (index : Nat) :
    List.Forall₂ (Instruction.Like Same Place) (place step address index lines)
      (place step address index lines') := by
  induction h generalizing address index with
  | nil => exact .nil
  | @cons line line' _ _ hline _ ih =>
      have hfirst : (Instruction.ofLine step address index line).Like Same Place
          (Instruction.ofLine step address index line') :=
        Instruction.ofLine_like hSame hline address index
      unfold place
      simp only [hfirst.width]
      exact .cons hfirst (ih _ _)

/-! ### Labels -/

/-- Definitions of related names at one position. -/
structure DefinitionLike (Same : Text → Text → Prop) (definition other : Text × Nat) : Prop where
  name : Same definition.1 other.1
  position : definition.2 = other.2

theorem definitions_like {instructions others : List Instruction}
    (h : List.Forall₂ (Instruction.Like Same Place) instructions others) :
    List.Forall₂ (DefinitionLike Same) (definitions instructions) (definitions others) := by
  refine List.rel_filterMap ?_ (forall₂_zipIdx h 0)
  rintro ⟨instruction, position⟩ ⟨other, _⟩ ⟨hlike, rfl⟩
  show Option.Rel _ (instruction.label.map _) (other.label.map _)
  rcases rel_cases hlike.label with ⟨hnone, hnone'⟩ | ⟨name, name', hsome, hsome', hname⟩
  · rw [hnone, hnone']
    exact .none
  · rw [hsome, hsome']
    exact .some ⟨hname, rfl⟩

theorem location_rel {instructions others : List Instruction}
    (h : List.Forall₂ (Instruction.Like Same Place) instructions others) (position : Nat) :
    Option.Rel Place (instructions[position]?.map (·.location))
      (others[position]?.map (·.location)) := by
  rcases rel_cases (rel_getElem? h position) with ⟨hnone, hnone'⟩ | ⟨_, _, hget, hget', hlike⟩
  · rw [hnone, hnone']
    exact .none
  · rw [hget, hget']
    exact .some hlike.location

theorem define_follows (hSame : Respelling Same) (h : program.Like Same Place other)
    {s t : Text} (hst : Same s t) (position : Nat) :
    Follows (Diagnostic.Like Same Place) (Program.Like Same Place) (program.define s position)
      (other.define t position) := by
  rcases rel_cases (rel_getElem? h.instructions position) with
    ⟨hnone, hnone'⟩ | ⟨instruction, instruction', hget, hget', hinstruction⟩
  · rw [define_of_none hnone, define_of_none hnone']
    exact .outOfRange
  · have hrefusal : program.labels.refusal? s = other.labels.refusal? t := by
      unfold LabelTable.refusal?
      rw [h.labels.strict, h.labels.find?_eq hSame hst]
    rw [define_of_getElem? hget, define_of_getElem? hget', hrefusal]
    cases other.labels.refusal? t with
    | none =>
        exact .ok ⟨h.instructions, h.labels.strict,
          LabelTable.Like.rebind hSame hst position h.labels.bindings⟩
    | some first =>
        exact .reported ⟨.duplicateLabel hst (location_rel h.instructions first),
          .some hinstruction.location, congrArg some hinstruction.index⟩

theorem defineAll_follows (hSame : Respelling Same) (h : program.Like Same Place other)
    {names names' : List (Text × Nat)} (hnames : List.Forall₂ (DefinitionLike Same) names names') :
    Follows (Diagnostic.Like Same Place) (Program.Like Same Place) (program.defineAll names)
      (other.defineAll names') := by
  induction hnames generalizing program other with
  | nil => exact .ok h
  | @cons definition definition' _ _ hfirst _ ih =>
      obtain ⟨name, position⟩ := definition
      obtain ⟨name', position'⟩ := definition'
      obtain ⟨hname, rfl⟩ := hfirst
      have hdefine := define_follows hSame h hname position
      unfold defineAll
      generalize program.define name position = made at hdefine
      generalize other.define name' position = made' at hdefine
      cases hdefine with
      | ok hmade => exact ih hmade
      | reported hfails => exact .reported hfails
      | outOfRange => exact .outOfRange

theorem ofSource_follows (hSame : Respelling Same) {options : Options}
    {file source file' source' : Text}
    (h : List.Forall₂ (Line.Like Same Place) (Source.lines file source)
      (Source.lines file' source')) :
    Follows (Diagnostic.Like Same Place) (Program.Like Same Place)
      (ofSource options file source) (ofSource options file' source') := by
  have hplaced : (unlabelled options (Source.lines file source)).Like Same Place
      (unlabelled options (Source.lines file' source')) := by
    refine ⟨?_, rfl, .nil⟩
    rw [unlabelled_instructions, unlabelled_instructions]
    exact place_like hSame h _ _
  rw [ofSource_eq_defineAll, ofSource_eq_defineAll]
  exact defineAll_follows hSame hplaced (definitions_like hplaced.instructions)

/-! ### Encoded programs -/

theorem addresses_like (h : program.Like Same Place other) :
    program.addresses.Like Same other.addresses := by
  -- both programs give the instruction at a position one address
  obtain ⟨address, haddress, hprogram⟩ := exists_address program
  have hother : other.addresses = other.labels.map address := by
    refine addresses_eq_map fun position instruction' hget' => ?_
    rcases rel_cases (rel_getElem? h.instructions position) with
      ⟨-, hnone⟩ | ⟨instruction, found, hget, hfound, hlike⟩
    · rw [hnone] at hget'
      contradiction
    · obtain rfl := Option.some.inj (hfound.symm.trans hget')
      rw [haddress position instruction hget, hlike.address]
  rw [hprogram, hother]
  exact h.labels.map fun _ => rfl

theorem encodeAll_follows {labels labels' : LabelTable Int} (hSame : Respelling Same)
    (hlabels : labels.Like Same labels') {instructions others : List Instruction}
    (h : List.Forall₂ (Instruction.Like Same Place) instructions others) :
    Follows (Diagnostic.Like Same Place) (List.Forall₂ (Instruction.Like Same Place))
      (instructions.mapM (Instruction.encode labels))
      (others.mapM (Instruction.encode labels')) := by
  induction h with
  | nil => exact .ok .nil
  | cons hfirst _ ih =>
      rw [List.mapM_cons, List.mapM_cons]
      apply (Instruction.encode_follows hSame hlabels hfirst).bind
      intro made made' hmade
      exact ih.bind fun _ _ hrest => .ok (.cons hmade hrest)

/-- A run that does not fail leaves what encoding each instruction makes. -/
theorem encodeAll_eq_mapM (labels : LabelTable Int) (instructions : List Instruction) :
    (match Instruction.encodeAll labels instructions with
      | (made, none) => .ok made
      | (_, some failure) => .error failure) =
        instructions.mapM (Instruction.encode labels) := by
  induction instructions with
  | nil => rfl
  | cons instruction rest ih =>
      rw [Instruction.encodeAll, List.mapM_cons]
      cases instruction.encode labels with
      | error failure => rfl
      | ok made =>
          generalize Instruction.encodeAll labels rest = run at ih
          obtain ⟨others, failure⟩ := run
          rw [← ih]
          cases failure <;> rfl

theorem encoded_eq_mapM (program : Program) :
    program.encoded.map (·.instructions) =
      program.instructions.mapM (Instruction.encode program.addresses) := by
  have hall : (program.encode.1.instructions, program.encode.2) =
      Instruction.encodeAll program.addresses program.instructions := rfl
  unfold encoded
  rw [← encodeAll_eq_mapM, ← hall]
  generalize program.encode = run
  obtain ⟨made, failure⟩ := run
  cases failure <;> rfl

/-- One encoded program follows the other if its instructions do.  Labels stay as they are. -/
theorem encoded_follows_of_instructions {Fails : Diagnostic → Diagnostic → Prop}
    {R : List Instruction → List Instruction → Prop}
    (h : Follows Fails R (program.instructions.mapM (Instruction.encode program.addresses))
      (other.instructions.mapM (Instruction.encode other.addresses))) :
    Follows Fails (fun made made' => R made.instructions made'.instructions ∧
        made.labels = program.labels ∧ made'.labels = other.labels)
      program.encoded other.encoded := by
  rw [← encoded_eq_mapM, ← encoded_eq_mapM] at h
  cases hprogram : program.encoded with
  | error failure =>
      cases hother : other.encoded with
      | error failure' =>
          rw [hprogram, hother] at h
          change Follows Fails R (.error failure) (.error failure') at h
          cases h with
          | reported h => exact .reported h
          | outOfRange => exact .outOfRange
      | ok made' =>
          rw [hprogram, hother] at h
          change Follows Fails R (.error failure) (.ok made'.instructions) at h
          cases h
  | ok made =>
      cases hother : other.encoded with
      | error failure' =>
          rw [hprogram, hother] at h
          change Follows Fails R (.ok made.instructions) (.error failure') at h
          cases h
      | ok made' =>
          rw [hprogram, hother] at h
          change Follows Fails R (.ok made.instructions) (.ok made'.instructions) at h
          cases h with
          | ok h => exact .ok ⟨h, labels_of_encoded hprogram, labels_of_encoded hother⟩

theorem encoded_follows (hSame : Respelling Same) (h : program.Like Same Place other) :
    Follows (Diagnostic.Like Same Place) (Program.Like Same Place) program.encoded
      other.encoded := by
  have hall := encodeAll_follows hSame (addresses_like h) h.instructions
  refine (encoded_follows_of_instructions hall).imp fun made made' hmade => ?_
  obtain ⟨hinstructions, hlabels, hlabels'⟩ := hmade
  exact ⟨hinstructions, hlabels ▸ hlabels' ▸ h.labels⟩

end Program

theorem Instruction.contents_eq {instructions others : List Instruction}
    (h : List.Forall₂ (Instruction.Like Same Place) instructions others) :
    instructions.flatMap content = others.flatMap content := by
  induction h with
  | nil => rfl
  | @cons instruction other _ _ hfirst _ ih =>
      have hcontent : instruction.content = other.content := by
        unfold content bytes?
        rw [hfirst.encoded, hfirst.width]
      rw [List.flatMap_cons, List.flatMap_cons, hcontent, ih]

/-- Sources whose lines are alike have one image and programs that are alike, or fail alike. -/
theorem assemble_follows (hSame : Respelling Same) {options : Options}
    {file source file' source' : Text}
    (h : List.Forall₂ (Line.Like Same Place) (Source.lines file source)
      (Source.lines file' source')) :
    Follows (Diagnostic.Like Same Place) (Assembly.Like Same Place)
      (assemble options file source) (assemble options file' source') := by
  apply (Program.ofSource_follows hSame h).bind
  intro parsed parsed' hparsed
  apply (Program.encoded_follows hSame hparsed).with_eq.bind
  rintro program program' ⟨hlike, hprogram, hprogram'⟩
  -- both programs have an image, since both have been encoded
  rw [Program.image_of_encoded hprogram, Program.image_of_encoded hprogram']
  exact .ok ⟨Instruction.contents_eq hlike.instructions, hlike⟩

/-- Assemblies that are alike have the same addresses for related labels, in one order. -/
theorem Assembly.Like.labels {assembly other : Assembly} (h : assembly.Like Same Place other) :
    List.Forall₂ (fun label label' : Text × Int => Same label.1 label'.1 ∧ label.2 = label'.2)
      assembly.labels other.labels := by
  unfold Assembly.labels LabelTable.toList
  rw [List.forall₂_map_left_iff, List.forall₂_map_right_iff]
  exact (Program.addresses_like h.program).bindings.imp fun _ _ hbinding =>
    ⟨hbinding.name, hbinding.target⟩

end Chip8
