/-!
# Bytes in base 64

Each character stands for six bits. Characters that stand for nothing are passed over, and so are
padding marks, unless they fill up a group of four: then whatever follows does not matter.
-/

namespace LogRelay.Yaml

/-- How far a text in base 64 has been read. -/
structure SixBits where
  /-- The bytes read so far, the last one first. -/
  bytes : List UInt8
  /-- The bits that have not made a byte yet. -/
  held : Nat
  /-- How many characters of the group have been read. -/
  place : Nat
  /-- How many padding marks have been read since the last character. -/
  pads : Nat

/-- The six bits that a character stands for. -/
def sixBits? (char : Char) : Option Nat :=
  if 'A' ≤ char ∧ char ≤ 'Z' then some (char.toNat - 65)
  else if 'a' ≤ char ∧ char ≤ 'z' then some (char.toNat - 71)
  else if '0' ≤ char ∧ char ≤ '9' then some (char.toNat + 4)
  else if char = '+' then some 62
  else if char = '/' then some 63
  else none

namespace SixBits

/-- Takes six bits more. -/
def push (state : SixBits) (bits : Nat) : SixBits :=
  let whole := state.held * 64 + bits
  match state.place with
  | 0 => ⟨state.bytes, bits, 1, 0⟩
  | 1 => ⟨UInt8.ofNat (whole / 16) :: state.bytes, whole % 16, 2, 0⟩
  | 2 => ⟨UInt8.ofNat (whole / 4) :: state.bytes, whole % 4, 3, 0⟩
  | _ => ⟨UInt8.ofNat whole :: state.bytes, 0, 0, 0⟩

/-- Reads what follows. The text has to end with a whole group. -/
def read (state : SixBits) : List Char → Option (List UInt8)
  | [] => if state.place = 0 then some state.bytes.reverse else none
  | char :: chars =>
      if char = '=' then
        if state.place < 2 then read state chars
        else if 4 ≤ state.place + state.pads + 1 then some state.bytes.reverse
        else read { state with pads := state.pads + 1 } chars
      else match sixBits? char with
        | some bits => read (state.push bits) chars
        | none => read state chars

end SixBits

/-- The bytes of a text in base 64, which is of ASCII. -/
def readBase64? (text : String) : Option (List UInt8) :=
  if text.toList.all fun char => char.toNat < 128 then
    SixBits.read ⟨[], 0, 0, 0⟩ text.toList
  else none

end LogRelay.Yaml
