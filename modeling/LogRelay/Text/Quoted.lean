import LogRelay.Text.Printable

/-!
# Quoted text

A text as a message quotes it: between single quotes, or between double quotes if it holds single
quotes only. Backslashes, the enclosing quote and characters that cannot be shown are escaped.
-/

namespace LogRelay.Text

/-- A number in hexadecimal with a fixed number of places. -/
def hexadecimal (places number : Nat) : String :=
  let digits := String.ofList (Nat.toDigits 16 number)
  "".pushn '0' (places - digits.length) ++ digits

/-- One character inside the given quotes. -/
def quoteChar (quote char : Char) : String :=
  if char = quote ∨ char = '\\' then String.ofList ['\\', char]
  else if char = '\t' then "\\t"
  else if char = '\n' then "\\n"
  else if char = '\r' then "\\r"
  else if isPrintable char then String.singleton char
  else if char.toNat < 0x100 then "\\x" ++ hexadecimal 2 char.toNat
  else if char.toNat < 0x10000 then "\\u" ++ hexadecimal 4 char.toNat
  else "\\U" ++ hexadecimal 8 char.toNat

/-- A text in quotes. -/
def quoted (text : String) : String :=
  let chars := text.toList
  let quote := if chars.contains '\'' && !chars.contains '"' then '"' else '\''
  String.singleton quote ++ String.join (chars.map (quoteChar quote)) ++ String.singleton quote

/-- One byte inside the given quotes. -/
def quoteByte (quote : Char) (byte : UInt8) : String :=
  let char := Char.ofNat byte.toNat
  if char = quote ∨ char = '\\' then String.ofList ['\\', char]
  else if char = '\t' then "\\t"
  else if char = '\n' then "\\n"
  else if char = '\r' then "\\r"
  else if 32 ≤ byte.toNat ∧ byte.toNat < 127 then String.singleton char
  else "\\x" ++ hexadecimal 2 byte.toNat

/-- A sequence of bytes in quotes. -/
def quotedBytes (bytes : List UInt8) : String :=
  let quote := if bytes.contains 39 && !bytes.contains 34 then '"' else '\''
  "b" ++ String.singleton quote ++ String.join (bytes.map (quoteByte quote)) ++
    String.singleton quote

end LogRelay.Text
