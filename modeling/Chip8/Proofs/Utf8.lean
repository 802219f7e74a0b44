import Chip8.Text.Utf8

/-!
# Texts read back from bytes

The bytes of a text spell that text.  A character takes one to four bytes, and each number of bytes
has a range of leading bytes of its own, so that the reader knows how many to take.  What it refuses
in a second byte (a longer form than needed, a surrogate, a number that is too large) no character
has.
-/

namespace Chip8.Text.Utf8

/-! ### Bytes of one character -/

section

variable {position n : Nat} {lead second third fourth : UInt8} {rest : List UInt8}

theorem isContinuation_iff : isContinuation second = true ↔
    0x80 ≤ second.toNat ∧ second.toNat < 0xC0 := by
  unfold isContinuation
  rw [Bool.and_eq_true, decide_eq_true_eq, decide_eq_true_eq]

theorem canFollow_iff : canFollow lead second = true ↔
    isContinuation second = true ∧
      (lead.toNat = 0xE0 → 0xA0 ≤ second.toNat) ∧ (lead.toNat = 0xED → second.toNat < 0xA0) ∧
      (lead.toNat = 0xF0 → 0x90 ≤ second.toNat) ∧ (lead.toNat = 0xF4 → second.toNat < 0x90) := by
  unfold canFollow
  rw [Bool.and_eq_true]
  refine and_congr_right fun _ => ?_
  split <;> simp_all

theorem not_invalidStart (lead : UInt8) (hleast : 0xC2 ≤ lead.toNat) (hmost : lead.toNat < 0xF5) :
    (lead.toNat < 0xC2 || 0xF5 ≤ lead.toNat) = false := by
  rw [Bool.or_eq_false_iff, decide_eq_false_iff_not, decide_eq_false_iff_not]
  omega

theorem decodeFrom_one (hlead : lead.toNat < 0x80) :
    decodeFrom position (lead :: rest) =
      (decodeFrom (position + 1) rest).map (Char.ofNat lead.toNat :: ·) := by
  rw [decodeFrom.eq_def]
  exact if_pos hlead

theorem decodeFrom_two (hleast : 0xC2 ≤ lead.toNat) (hmost : lead.toNat < 0xE0)
    (hsecond : canFollow lead second = true) :
    decodeFrom position (lead :: second :: rest) =
      (decodeFrom (position + 2) rest).map
        (Char.ofNat (extend (lead.toNat % 0x20) second) :: ·) := by
  have hone : ¬lead.toNat < 0x80 := by omega
  have hstart := not_invalidStart lead (by omega) (by omega)
  rw [decodeFrom.eq_def]
  simp [hone, hstart, hsecond, hmost]

theorem decodeFrom_three (hleast : 0xE0 ≤ lead.toNat) (hmost : lead.toNat < 0xF0)
    (hsecond : canFollow lead second = true) (hthird : isContinuation third = true) :
    decodeFrom position (lead :: second :: third :: rest) =
      (decodeFrom (position + 3) rest).map
        (Char.ofNat (extend (extend (lead.toNat % 0x10) second) third) :: ·) := by
  have hone : ¬lead.toNat < 0x80 := by omega
  have hstart := not_invalidStart lead (by omega) (by omega)
  have htwo : ¬lead.toNat < 0xE0 := by omega
  rw [decodeFrom.eq_def]
  simp [hone, hstart, hsecond, htwo, hthird, hmost]

theorem decodeFrom_four (hleast : 0xF0 ≤ lead.toNat) (hmost : lead.toNat < 0xF5)
    (hsecond : canFollow lead second = true) (hthird : isContinuation third = true)
    (hfourth : isContinuation fourth = true) :
    decodeFrom position (lead :: second :: third :: fourth :: rest) =
      (decodeFrom (position + 4) rest).map
        (Char.ofNat (extend (extend (extend (lead.toNat % 0x08) second) third) fourth) :: ·) := by
  have hone : ¬lead.toNat < 0x80 := by omega
  have hstart := not_invalidStart lead (by omega) (by omega)
  have htwo : ¬lead.toNat < 0xE0 := by omega
  have hthree : ¬lead.toNat < 0xF0 := by omega
  rw [decodeFrom.eq_def]
  simp [hone, hstart, hsecond, htwo, hthird, hthree, hfourth]

end

/-! ### Characters -/

/-- The numbers of characters: all below a limit but for the surrogates. -/
theorem toNat_range (c : Char) :
    c.toNat < 0xD800 ∨ 0xDFFF < c.toNat ∧ c.toNat < 0x110000 :=
  c.valid

theorem toNat_ofNat_of_lt {n : Nat} (h : n < 0x100) : (UInt8.ofNat n).toNat = n := by
  rw [UInt8.toNat_ofNat']
  exact Nat.mod_eq_of_lt h

/-- A byte that continues a character holds six of its bits. -/
theorem isContinuation_ofNat (n : Nat) : isContinuation (UInt8.ofNat (0x80 + n % 0x40)) = true := by
  rw [isContinuation_iff, toNat_ofNat_of_lt (by omega)]
  omega

theorem extend_ofNat (bits n : Nat) :
    extend bits (UInt8.ofNat (0x80 + n % 0x40)) = bits * 0x40 + n % 0x40 := by
  unfold extend
  rw [toNat_ofNat_of_lt (by omega)]
  omega

section

variable {n : Nat} (position : Nat) (rest : List UInt8)

/-- Two bytes hold a number of eleven bits. -/
theorem decodeFrom_ofNat_two (hleast : 0x80 ≤ n) (hmost : n < 0x800) :
    decodeFrom position
        (UInt8.ofNat (0xC0 + n / 0x40) :: UInt8.ofNat (0x80 + n % 0x40) :: rest) =
      (decodeFrom (position + 2) rest).map (Char.ofNat n :: ·) := by
  have hlead : (UInt8.ofNat (0xC0 + n / 0x40)).toNat = 0xC0 + n / 0x40 :=
    toNat_ofNat_of_lt (by omega)
  have hsecond : canFollow (UInt8.ofNat (0xC0 + n / 0x40)) (UInt8.ofNat (0x80 + n % 0x40)) =
      true := by
    rw [canFollow_iff, hlead]
    exact ⟨isContinuation_ofNat n, by omega, by omega, by omega, by omega⟩
  have hbits : extend ((0xC0 + n / 0x40) % 0x20) (UInt8.ofNat (0x80 + n % 0x40)) = n := by
    rw [extend_ofNat]
    omega
  rw [decodeFrom_two (by omega) (by omega) hsecond, hlead, hbits]

/-- Three bytes hold a number of sixteen bits.  Its second byte is what tells surrogates. -/
theorem decodeFrom_ofNat_three (hleast : 0x800 ≤ n) (hmost : n < 0x10000)
    (hsurrogate : n < 0xD800 ∨ 0xDFFF < n) :
    decodeFrom position
        (UInt8.ofNat (0xE0 + n / 0x1000) :: UInt8.ofNat (0x80 + n / 0x40 % 0x40) ::
          UInt8.ofNat (0x80 + n % 0x40) :: rest) =
      (decodeFrom (position + 3) rest).map (Char.ofNat n :: ·) := by
  have hlead : (UInt8.ofNat (0xE0 + n / 0x1000)).toNat = 0xE0 + n / 0x1000 :=
    toNat_ofNat_of_lt (by omega)
  have hsecond : canFollow (UInt8.ofNat (0xE0 + n / 0x1000))
      (UInt8.ofNat (0x80 + n / 0x40 % 0x40)) = true := by
    rw [canFollow_iff, hlead, toNat_ofNat_of_lt (by omega)]
    exact ⟨isContinuation_ofNat (n / 0x40), by omega, by omega, by omega, by omega⟩
  have hbits : extend (extend ((0xE0 + n / 0x1000) % 0x10)
      (UInt8.ofNat (0x80 + n / 0x40 % 0x40))) (UInt8.ofNat (0x80 + n % 0x40)) = n := by
    rw [extend_ofNat, extend_ofNat]
    omega
  rw [decodeFrom_three (by omega) (by omega) hsecond (isContinuation_ofNat n), hlead, hbits]

/-- Four bytes hold a number of twenty-one bits.  Its second byte is what tells those that are too
large. -/
theorem decodeFrom_ofNat_four (hleast : 0x10000 ≤ n) (hmost : n < 0x110000) :
    decodeFrom position
        (UInt8.ofNat (0xF0 + n / 0x40000) :: UInt8.ofNat (0x80 + n / 0x1000 % 0x40) ::
          UInt8.ofNat (0x80 + n / 0x40 % 0x40) :: UInt8.ofNat (0x80 + n % 0x40) :: rest) =
      (decodeFrom (position + 4) rest).map (Char.ofNat n :: ·) := by
  have hlead : (UInt8.ofNat (0xF0 + n / 0x40000)).toNat = 0xF0 + n / 0x40000 :=
    toNat_ofNat_of_lt (by omega)
  have hsecond : canFollow (UInt8.ofNat (0xF0 + n / 0x40000))
      (UInt8.ofNat (0x80 + n / 0x1000 % 0x40)) = true := by
    rw [canFollow_iff, hlead, toNat_ofNat_of_lt (by omega)]
    exact ⟨isContinuation_ofNat (n / 0x1000), by omega, by omega, by omega, by omega⟩
  have hbits : extend (extend (extend ((0xF0 + n / 0x40000) % 0x08)
      (UInt8.ofNat (0x80 + n / 0x1000 % 0x40))) (UInt8.ofNat (0x80 + n / 0x40 % 0x40)))
      (UInt8.ofNat (0x80 + n % 0x40)) = n := by
    rw [extend_ofNat, extend_ofNat, extend_ofNat]
    omega
  rw [decodeFrom_four (by omega) (by omega) hsecond (isContinuation_ofNat (n / 0x40))
    (isContinuation_ofNat n), hlead, hbits]

end

/-- The bytes of a character are read as that character, whatever follows. -/
theorem decodeFrom_encodeChar (position : Nat) (c : Char) (rest : List UInt8) :
    ∃ next, decodeFrom position (encodeChar c ++ rest) =
      (decodeFrom next rest).map (c :: ·) := by
  have hrange := toNat_range c
  have hchar : Char.ofNat c.toNat = c := Char.ofNat_toNat c
  unfold encodeChar
  generalize c.toNat = n at hrange hchar
  subst hchar
  dsimp only
  split
  case isTrue hone =>
    have hlead : (UInt8.ofNat n).toNat = n := toNat_ofNat_of_lt (by omega)
    refine ⟨position + 1, ?_⟩
    rw [List.singleton_append, decodeFrom_one (by rwa [hlead]), hlead]
  case isFalse hone =>
    split
    case isTrue htwo => exact ⟨_, decodeFrom_ofNat_two position rest (by omega) htwo⟩
    case isFalse htwo =>
      split
      case isTrue hthree =>
        exact ⟨_, decodeFrom_ofNat_three position rest (by omega) hthree (by omega)⟩
      case isFalse hthree =>
        exact ⟨_, decodeFrom_ofNat_four position rest (by omega) (by omega)⟩

/-! ### Texts -/

theorem decodeFrom_encode (position : Nat) (t : Text) :
    decodeFrom position (encode t) = .ok t := by
  induction t generalizing position with
  | nil => rfl
  | cons c rest ih =>
      obtain ⟨next, hnext⟩ := decodeFrom_encodeChar position c (encode rest)
      show decodeFrom position (encodeChar c ++ encode rest) = _
      rw [hnext, ih]
      rfl

/-- The bytes of a text spell that text. -/
theorem decode_encode (t : Text) : decode (encode t) = .ok t :=
  decodeFrom_encode 0 t

end Chip8.Text.Utf8
