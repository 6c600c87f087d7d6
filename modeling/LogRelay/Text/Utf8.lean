/-!
# UTF-8 text

Characters and texts as bytes. Encoding is total. Decoding is total too: a faulty run of bytes, the
longest one that could still have begun a character, stands for a missing character, and the two
readers differ in what they put in its place. `decodeLossy` puts U+FFFD, `decodeDropping` nothing.

Main statement: a step of decoding leaves no more bytes than it was given, so decoding ends.
-/

namespace LogRelay.Utf8

/-- The bytes of one character, one to four of them. -/
def encodeChar (char : Char) : List UInt8 :=
  let code := char.toNat
  if code < 0x80 then [UInt8.ofNat code]
  else if code < 0x800 then
    [UInt8.ofNat (0xC0 + code / 64), UInt8.ofNat (0x80 + code % 64)]
  else if code < 0x10000 then
    [UInt8.ofNat (0xE0 + code / 4096), UInt8.ofNat (0x80 + code / 64 % 64),
      UInt8.ofNat (0x80 + code % 64)]
  else
    [UInt8.ofNat (0xF0 + code / 262144), UInt8.ofNat (0x80 + code / 4096 % 64),
      UInt8.ofNat (0x80 + code / 64 % 64), UInt8.ofNat (0x80 + code % 64)]

/-- The bytes of a text. -/
def encode (text : String) : List UInt8 :=
  text.toList.flatMap encodeChar

/-- How many bytes a character takes. -/
def charSize (char : Char) : Nat :=
  (encodeChar char).length

/-- How many bytes a text takes. -/
def size (text : String) : Nat :=
  text.toList.foldl (fun total char => total + charSize char) 0

/-- What the first byte of a character promises: how many bytes are owed, the range in which the
next one lies, and the bits that it brings itself. -/
structure Lead where
  owed : Nat
  low : Nat
  high : Nat
  bits : Nat

/-- The promise of a first byte, and none for a byte that begins no character. The ranges leave out
overlong forms, surrogates and codes above U+10FFFF. -/
def Lead.ofByte? (byte : Nat) : Option Lead :=
  if byte < 0x80 then some ⟨0, 0, 0, byte⟩
  else if byte < 0xC2 then none
  else if byte < 0xE0 then some ⟨1, 0x80, 0xBF, byte - 0xC0⟩
  else if byte = 0xE0 then some ⟨2, 0xA0, 0xBF, 0⟩
  else if byte = 0xED then some ⟨2, 0x80, 0x9F, 0xD⟩
  else if byte < 0xF0 then some ⟨2, 0x80, 0xBF, byte - 0xE0⟩
  else if byte = 0xF0 then some ⟨3, 0x90, 0xBF, 0⟩
  else if byte < 0xF4 then some ⟨3, 0x80, 0xBF, byte - 0xF0⟩
  else if byte = 0xF4 then some ⟨3, 0x80, 0x8F, 4⟩
  else none

/-- Collects the bytes that a character still owes. A byte out of range is left for the next
character, and the bytes before it are a faulty run. -/
def gather : (owed low high bits : Nat) → List UInt8 → Option Char × List UInt8
  | 0, _, _, bits, bytes => (some (Char.ofNat bits), bytes)
  | _ + 1, _, _, _, [] => (none, [])
  | owed + 1, low, high, bits, byte :: bytes =>
      if low ≤ byte.toNat ∧ byte.toNat ≤ high then
        gather owed 0x80 0xBF (bits * 64 + byte.toNat % 64) bytes
      else
        (none, byte :: bytes)

/-- The first character of a non-empty byte sequence, none for a faulty run, and the bytes after
it. -/
def step (byte : UInt8) (bytes : List UInt8) : Option Char × List UInt8 :=
  match Lead.ofByte? byte.toNat with
  | some lead => gather lead.owed lead.low lead.high lead.bits bytes
  | none => (none, bytes)

theorem length_gather_le (owed low high bits : Nat) (bytes : List UInt8) :
    (gather owed low high bits bytes).2.length ≤ bytes.length := by
  induction owed generalizing low high bits bytes with
  | zero => simp [gather]
  | succ owed ih =>
      cases bytes with
      | nil => simp [gather]
      | cons byte bytes =>
          simp only [gather]
          split
          · exact Nat.le_succ_of_le (ih ..)
          · simp

theorem length_step_le (byte : UInt8) (bytes : List UInt8) :
    (step byte bytes).2.length ≤ bytes.length := by
  unfold step
  split
  · exact length_gather_le ..
  · simp

/-- Decodes onto the characters already read, the last of them first. -/
def decodeOnto (fault : List Char) (read : List Char) : List UInt8 → List Char
  | [] => read.reverse
  | byte :: bytes =>
      match _stepped : step byte bytes with
      | (some char, rest) => decodeOnto fault (char :: read) rest
      | (none, rest) => decodeOnto fault (fault ++ read) rest
termination_by bytes => bytes.length
decreasing_by
  all_goals
    have shorter := length_step_le byte bytes
    rw [_stepped] at shorter
    simp at shorter ⊢
    omega

/-- The text of a byte sequence, with U+FFFD for each faulty run. -/
def decodeLossy (bytes : List UInt8) : String :=
  String.ofList (decodeOnto ['\uFFFD'] [] bytes)

/-- The text of a byte sequence without its faulty runs. -/
def decodeDropping (bytes : List UInt8) : String :=
  String.ofList (decodeOnto [] [] bytes)

/-- The text of a byte sequence that has no faulty run, and none for any other. -/
def decode? (bytes : List UInt8) : Option String :=
  go [] bytes
where
  /-- Decodes onto the characters already read, the last of them first. -/
  go (read : List Char) : List UInt8 → Option String
    | [] => some (String.ofList read.reverse)
    | byte :: bytes =>
        match _stepped : step byte bytes with
        | (some char, rest) => go (char :: read) rest
        | (none, _) => none
  termination_by bytes => bytes.length
  decreasing_by
    have shorter := length_step_le byte bytes
    rw [_stepped] at shorter
    simp at shorter ⊢
    omega

/-- The text cut to a number of bytes, never inside a character. A negative limit counts from the
end of the text. -/
def truncate (text : String) (limit : Int) : String :=
  let bytes := encode text
  if (bytes.length : Int) ≤ limit then text
  else if 0 ≤ limit then decodeDropping (bytes.take limit.toNat)
  else decodeDropping (bytes.take (bytes.length - limit.natAbs))

end LogRelay.Utf8
