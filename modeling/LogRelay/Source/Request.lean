import LogRelay.Blob.Table

/-!
# The request to the log source

A source sends its stream on request: all that it holds, or a number of lines only. To follow the
stream without what it holds already, a request asks for no lines.
-/

namespace LogRelay

namespace Request

/-- The members of a request. -/
def items (lines : Int) (follow : Bool) : List Blob.Item :=
  ⟨"stream", Blob.Kind.int8.code, .integer 1⟩ ::
    if lines ≠ 0 ∨ follow then [⟨"lines", Blob.Kind.int32.code, .integer lines⟩] else []

/-- The request as it is sent. -/
def encode (lines : Int) (follow : Bool) : Except Blob.Fault (List UInt8) :=
  Blob.encodeFrame (items lines follow)

end Request

end LogRelay
