import Chip8.Text.Numeral

/-!
# UTF-8

Texts as bytes.  Reading is strict: it names the first sequence of bytes that is no character and
says why.
-/

namespace Chip8.Text.Utf8

/-- Why bytes are no character. -/
inductive Reason
  | invalidStart
  | invalidContinuation
  | unexpectedEnd
  deriving DecidableEq, Repr

/-- The first bytes that are no character: the leading byte, where it stands, and how many bytes
from it on could have belonged to one character. -/
structure Fault where
  reason : Reason
  position : Nat
  width : Nat
  lead : UInt8
  deriving DecidableEq, Repr

/-- The reason in words. -/
def Reason.message : Reason → Text
  | .invalidStart => "invalid start byte".toList
  | .invalidContinuation => "invalid continuation byte".toList
  | .unexpectedEnd => "unexpected end of data".toList

/-- The report of a fault.  It shows the byte where only one is at fault, and the range of
positions otherwise. -/
def Fault.message (fault : Fault) : Text :=
  let place :=
    if fault.width = 1 then
      "byte 0x".toList ++ List.leftpad 2 '0' (Nat.toDigits 16 fault.lead.toNat)
        ++ " in position ".toList ++ decimal fault.position
    else
      "bytes in position ".toList ++ decimal fault.position ++ "-".toList
        ++ decimal (fault.position + fault.width - 1 : Nat)
  "'utf-8' codec can't decode ".toList ++ place ++ ": ".toList ++ fault.reason.message

/-- The bytes of one character. -/
def encodeChar (c : Char) : List UInt8 :=
  let n := c.toNat
  if n < 0x80 then
    [UInt8.ofNat n]
  else if n < 0x800 then
    [UInt8.ofNat (0xC0 + n / 0x40), UInt8.ofNat (0x80 + n % 0x40)]
  else if n < 0x10000 then
    [UInt8.ofNat (0xE0 + n / 0x1000), UInt8.ofNat (0x80 + n / 0x40 % 0x40),
      UInt8.ofNat (0x80 + n % 0x40)]
  else
    [UInt8.ofNat (0xF0 + n / 0x40000), UInt8.ofNat (0x80 + n / 0x1000 % 0x40),
      UInt8.ofNat (0x80 + n / 0x40 % 0x40), UInt8.ofNat (0x80 + n % 0x40)]

/-- The bytes of a text. -/
def encode (t : Text) : List UInt8 :=
  t.flatMap encodeChar

/-- Holds of the bytes that continue a character. -/
def isContinuation (b : UInt8) : Bool :=
  0x80 ≤ b.toNat && b.toNat < 0xC0

/-- Holds when `second` may follow `lead`.  Four leading bytes narrow their second byte, so that
no character has two forms, none is a surrogate and none is too large. -/
def canFollow (lead second : UInt8) : Bool :=
  isContinuation second &&
    match lead.toNat with
    | 0xE0 => 0xA0 ≤ second.toNat
    | 0xED => second.toNat < 0xA0
    | 0xF0 => 0x90 ≤ second.toNat
    | 0xF4 => second.toNat < 0x90
    | _ => true

/-- The six bits that a byte adds to the bits before it. -/
def extend (bits : Nat) (b : UInt8) : Nat :=
  bits * 0x40 + b.toNat % 0x40

/-- Reads the bytes from `position` on. -/
def decodeFrom (position : Nat) : List UInt8 → Except Fault Text
  | [] => .ok []
  | lead :: afterLead =>
      let fault (reason : Reason) (width : Nat) : Except Fault Text :=
        .error ⟨reason, position, width, lead⟩
      if lead.toNat < 0x80 then
        (decodeFrom (position + 1) afterLead).map (Char.ofNat lead.toNat :: ·)
      else if lead.toNat < 0xC2 || 0xF5 ≤ lead.toNat then
        fault .invalidStart 1
      else
        match afterLead with
        | [] => fault .unexpectedEnd 1
        | second :: afterSecond =>
            if !canFollow lead second then
              fault .invalidContinuation 1
            else if lead.toNat < 0xE0 then
              (decodeFrom (position + 2) afterSecond).map
                (Char.ofNat (extend (lead.toNat % 0x20) second) :: ·)
            else
              match afterSecond with
              | [] => fault .unexpectedEnd 2
              | third :: afterThird =>
                  if !isContinuation third then
                    fault .invalidContinuation 2
                  else if lead.toNat < 0xF0 then
                    (decodeFrom (position + 3) afterThird).map
                      (Char.ofNat (extend (extend (lead.toNat % 0x10) second) third) :: ·)
                  else
                    match afterThird with
                    | [] => fault .unexpectedEnd 3
                    | fourth :: afterFourth =>
                        if !isContinuation fourth then
                          fault .invalidContinuation 3
                        else
                          (decodeFrom (position + 4) afterFourth).map
                            (Char.ofNat (extend (extend (extend (lead.toNat % 0x08) second)
                              third) fourth) :: ·)

/-- Reads the text that bytes spell. -/
def decode (bytes : List UInt8) : Except Fault Text :=
  decodeFrom 0 bytes

theorem encode_append (s t : Text) : encode (s ++ t) = encode s ++ encode t := by
  simp [encode]

end Chip8.Text.Utf8
