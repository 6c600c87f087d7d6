import LogRelay.Text.Utf8

/-!
# Attributes of the wire format

A record travels as attributes. An attribute is a header of four bytes, a body, and padding to a
multiple of four bytes. The header is one big-endian word: the length in its low 24 bits, counted
with the header and without the padding, an identifier in the next seven, and in the top bit whether
the attribute is extended. The body of an extended attribute begins with a name.

Attributes follow one another without a count, so a sequence of them is read until fewer bytes are
left than a header takes.
-/

namespace LogRelay.Blob

/-- The types of a value, in the order of their codes. -/
inductive Kind where
  | unspecified
  | array
  | table
  | string
  | int64
  | int32
  | int16
  | int8
  | double
  deriving DecidableEq, Repr

namespace Kind

/-- The code of a type on the wire. -/
def code : Kind → Nat
  | unspecified => 0
  | array => 1
  | table => 2
  | string => 3
  | int64 => 4
  | int32 => 5
  | int16 => 6
  | int8 => 7
  | double => 8

/-- The name of a type in messages. -/
def name : Kind → String
  | unspecified => "UNSPEC"
  | array => "ARRAY"
  | table => "TABLE"
  | string => "STRING"
  | int64 => "INT64"
  | int32 => "INT32"
  | int16 => "INT16"
  | int8 => "INT8"
  | double => "DOUBLE"

/-- All types, in the order of their codes. -/
def all : List Kind :=
  [unspecified, array, table, string, int64, int32, int16, int8, double]

/-- The type that a code stands for. -/
def ofCode? (code : Int) : Option Kind :=
  all.find? fun kind => (kind.code : Int) == code

/-- The bytes that a value of a fixed width takes. -/
def width? : Kind → Option Nat
  | int64 | double => some 8
  | int32 => some 4
  | int16 => some 2
  | int8 => some 1
  | unspecified | array | table | string => none

/-- The type as a message that names its code writes it. -/
def tag (kind : Kind) : String :=
  "<BlobType." ++ kind.name ++ ": " ++ toString kind.code ++ ">"

end Kind

/-- What can be wrong with attributes that are written or read. -/
inductive Fault where
  /-- A header was given with another number of bytes than four. -/
  | headerSize (count : Nat)
  /-- An attribute to write is longer than its length field can say. -/
  | oversized (length : Nat)
  /-- An attribute says it is shorter than its header or longer than the bytes left. -/
  | badLength (offset length : Nat)
  /-- A body has too few bytes for the length of a name. -/
  | shortName
  /-- A name runs past the body or does not end in a zero byte. -/
  | badName
  /-- A byte was asked for behind the end of a body. -/
  | outOfRange
  /-- A string does not end in a zero byte. -/
  | unterminated
  /-- A value of a fixed width has another width. -/
  | badWidth (kind : Kind) (width count : Nat)
  /-- A value of this type cannot be read. -/
  | unreadable (type : Int)
  /-- A value of this type cannot be written. -/
  | unwritable (type : Int)
  /-- A member of a table has no name. -/
  | unnamed
  /-- A value, or the length of a name, does not fit its field. -/
  | unfit
  /-- A string was to be written and another value was given. -/
  | notText
  deriving DecidableEq, Repr

namespace Fault

/-- The message of a fault that is found in bytes, and none for the others. -/
def message? : Fault → Option String
  | headerSize count => some ("Header must be 4 bytes, got " ++ toString count)
  | oversized length => some ("Attribute too large: " ++ toString length ++ " bytes")
  | badLength offset length =>
      some ("Attribute at offset " ++ toString offset ++ " has invalid length " ++ toString length)
  | shortName => some "Named attribute too short for its name header"
  | badName => some "Attribute name is truncated or not NUL-terminated"
  | unterminated => some "String value is not NUL-terminated"
  | badWidth kind width count =>
      some (kind.name ++ " value must be " ++ toString width ++ " bytes, got " ++ toString count)
  | unreadable type => some ("Cannot decode value of type " ++ toString type)
  | unwritable type =>
      some ("Cannot encode value of type " ++
        match Kind.ofCode? type with
        | some kind => kind.tag
        | none => toString type)
  | unnamed => some "Table member is missing its name"
  | outOfRange | unfit | notText => none

end Fault

/-- The bytes of a header. -/
def headerSize : Nat := 4

/-- The greatest length that a header can state. -/
def lengthLimit : Nat := 0xFFFFFF

/-- The greatest length of a name. -/
def nameLimit : Nat := 0xFFFF

/-- A length rounded up to a multiple of four. -/
def padded (length : Nat) : Nat :=
  (length + 3) / 4 * 4

/-- A number of either sign rounded up to a multiple of four. -/
def alignUp (number : Int) : Int :=
  (number + 3) / 4 * 4

theorem alignUp_natCast (length : Nat) : alignUp length = padded length := by
  simp only [alignUp, padded]
  omega

/-- A byte sequence filled up with zeros to a length. -/
def fill (bytes : List UInt8) (length : Nat) : List UInt8 :=
  bytes ++ List.replicate (length - bytes.length) 0

/-- The number that bytes stand for, the most significant first. -/
def ofBigEndian (bytes : List UInt8) : Nat :=
  bytes.foldl (fun number byte => number * 256 + byte.toNat) 0

/-- The low bytes of a number, the most significant first. -/
def bigEndian : (width number : Nat) → List UInt8
  | 0, _ => []
  | width + 1, number => bigEndian width (number / 256) ++ [UInt8.ofNat (number % 256)]

/-- What a header states. -/
structure Header where
  length : Nat
  id : Nat
  extended : Bool
  deriving DecidableEq, Repr

namespace Header

/-- The worth of the lowest bit of the identity in the word of a header, 2^24. -/
def idUnit : Nat := 0x1000000

/-- The worth of the bit of extended attributes in the word of a header, 2^31. -/
def extendedUnit : Nat := 0x80000000

/-- The header that a word holds. -/
def ofWord (word : Nat) : Header :=
  ⟨word % idUnit, word / idUnit % 128, decide (word / extendedUnit % 2 = 1)⟩

/-- The word that holds a header. -/
def word (header : Header) : Nat :=
  header.length + header.id * idUnit + if header.extended then extendedUnit else 0

/-- Reads a header from exactly four bytes. -/
def decode (bytes : List UInt8) : Except Fault Header :=
  if bytes.length = headerSize then .ok (ofWord (ofBigEndian bytes))
  else .error (.headerSize bytes.length)

/-- The four bytes of a header. -/
def encode (header : Header) : List UInt8 :=
  bigEndian headerSize header.word

end Header

/-- An attribute as it is read: its body is what lies between header and padding. -/
structure Attribute where
  id : Nat
  extended : Bool
  body : List UInt8
  deriving DecidableEq, Repr

/-- The name as it stands at the beginning of a body: its length, its bytes and a zero byte, padded. -/
def nameHeader (name : List UInt8) : List UInt8 :=
  fill (bigEndian 2 name.length ++ name ++ [0]) (padded (name.length + 3))

/-- The body of an attribute with a payload and perhaps a name. -/
def bodyOf (name : Option String) (payload : List UInt8) : Except Fault (List UInt8) :=
  match name with
  | none => .ok payload
  | some name =>
      let bytes := Utf8.encode name
      if bytes.length ≤ nameLimit then .ok (nameHeader bytes ++ payload) else .error .unfit

/-- The bytes of an attribute. Of the identifier only the low seven bits are kept. -/
def encodeAttribute (id : Int) (payload : List UInt8) (name : Option String) :
    Except Fault (List UInt8) := do
  let body ← bodyOf name payload
  let length := headerSize + body.length
  if lengthLimit < length then throw (.oversized length)
  let header : Header := ⟨length, (id % 128).toNat, name.isSome⟩
  pure (fill (header.encode ++ body) (padded length))

/-- The attributes found in a byte sequence, and the fault that ended the search, if one did. -/
structure Scan where
  attributes : List Attribute
  fault : Option Fault
  deriving DecidableEq, Repr

namespace Scan

/-- Puts an attribute in front. -/
def cons (first : Attribute) (scan : Scan) : Scan :=
  ⟨first :: scan.attributes, scan.fault⟩

end Scan

/-- Reads the attributes in the bytes left from an offset on. Each attribute takes at least its
header, so the bytes run out. -/
def scanFrom (offset : Nat) (bytes : List UInt8) : Scan :=
  if bytes.length < headerSize then ⟨[], none⟩
  else
    let header := Header.ofWord (ofBigEndian (bytes.take headerSize))
    if header.length < headerSize ∨ bytes.length < header.length then
      ⟨[], some (.badLength offset header.length)⟩
    else
      (scanFrom (offset + padded header.length) (bytes.drop (padded header.length))).cons
        ⟨header.id, header.extended, (bytes.take header.length).drop headerSize⟩
termination_by bytes.length
decreasing_by
  rename_i enough fits
  simp +zetaDelta only [List.length_drop, headerSize, padded] at enough fits ⊢
  omega

/-- Reads the attributes in a byte sequence. A rest too short for a header is left out. -/
def scan (bytes : List UInt8) : Scan :=
  scanFrom 0 bytes

/-- Splits the body of an extended attribute into its name and its value. -/
def splitName (body : List UInt8) : Except Fault (String × List UInt8) :=
  if body.length < 2 then .error .shortName
  else
    let length := ofBigEndian (body.take 2)
    let nameEnd := padded (2 + length + 1)
    if body.length < nameEnd then .error .badName
    else match body[2 + length]? with
      | none => .error .outOfRange
      | some last =>
          if last ≠ 0 then .error .badName
          else .ok (Utf8.decodeLossy ((body.drop 2).take length), body.drop nameEnd)

end LogRelay.Blob
