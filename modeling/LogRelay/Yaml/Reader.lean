import LogRelay.Options.Reader
import LogRelay.Text.Lines
import LogRelay.Text.Utf8
import LogRelay.Yaml.Document

/-!
# A reader of documents

The values of a document as values for options. Collections and moments are things, of which only what
they look like is left.
-/

namespace LogRelay.Yaml

/-- What a fault says. -/
def Fault.reason : Fault → String
  | invalid => "no document"
  | notNumber => "no number"
  | emptyNumber => "empty number"
  | unbounded => "unbounded number"
  | notFlag => "no truth value"
  | notDay => "no day"
  | noSuchDay => "no such day"
  | noSuchCharacter => "no such character"
  | hugeCode => "huge code"

/-- The fault for those who take a document. -/
def Fault.told : Fault → DocumentFault
  | invalid => .invalid invalid.reason
  | fault => .broken fault.reason

namespace Value

/-- The value for an option. -/
def given : Value → Options.Value
  | null => .null
  | flag value => .flag value
  | integer number => .integer number
  | double number => .double number
  | text written => .text written
  | bytes written => .bytes written
  | value => .thing ⟨value.plain, value.quoted depthLimit⟩

/-- The document whose root has the value. -/
def document : Value → Document
  | mapping entries => .mapping (entries.map fun (key, value) => (key.given, value.given))
  | value => .other value.isVoid

end Value

/-- The reader of documents, which makes a text of all the bytes before it reads any. -/
def reader : DocumentReader := fun content =>
  match Utf8.decode? content with
  | none => .error .undecodable
  | some text =>
      match read (Text.unifyLines text) with
      | .ok value => .ok value.document
      | .error fault => .error fault.told

end LogRelay.Yaml
