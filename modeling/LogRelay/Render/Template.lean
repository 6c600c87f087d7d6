import LogRelay.Render.Stamp
import LogRelay.Text.Utf8

/-!
# Templates

A template is a text with placeholders, names between percent signs, for which values of an event are
filled in. It is split once: the leftmost placeholder of the text is taken with the literal text before
it, and then the leftmost one of what is behind it, until none is left. So a value is never searched for
placeholders.

A text grows in a buffer of fixed capacity. The template itself must fit, and so must every text in
which some placeholders have been filled in from the left and the others not yet.
-/

namespace LogRelay

/-- The most bytes that a rendered text may have. -/
def renderLimit : Nat := 511

/-- A part of a template. -/
inductive Segment where
  | literal (text : String)
  | field (field : Field)
  deriving DecidableEq, Repr

namespace Segment

/-- The part of the template's text that a segment stands for. -/
def text : Segment → String
  | literal written => written
  | field named => named.placeholder

end Segment

/-- A text that is split into literal parts and fields. -/
structure Template where
  text : String
  segments : List Segment
  deriving DecidableEq, Repr

namespace Template

/-- Puts literal text, if there is any, in front of what follows. -/
def withLiteral (literal : List Char) (segments : List Segment) : List Segment :=
  if literal.isEmpty then segments else .literal (String.ofList literal) :: segments

/-- Splits a text at its placeholders. The search goes on just behind the placeholder found. -/
def scan (text : List Char) : List Segment :=
  match _found : Field.leftmost? text with
  | none => withLiteral text []
  | some (place, field) =>
      withLiteral (text.take place)
        (.field field :: scan (text.drop (place + field.placeholder.length)))
termination_by text.length
decreasing_by
  have length_pos := field.length_placeholder_pos
  cases text with
  | nil => cases _found
  | cons char rest =>
      rw [List.length_drop, List.length_cons]
      omega

/-- The template of a text. -/
def ofText (text : String) : Template :=
  ⟨text, scan text.toList⟩

/-- The fields that a template names, each once. -/
def fields (template : Template) : List Field :=
  Field.all.filter fun field => template.segments.contains (.field field)

/-- Fills in the segments that are left. The bytes written so far and those of the segments left
unfilled make up the buffer. -/
def fill (values : Field → Option String) (written left : Nat) :
    List Segment → Except FillFault (List String)
  | [] => .ok []
  | .literal text :: segments => do
      let size := Utf8.size text
      let parts ← fill values (written + size) (left - size) segments
      pure (text :: parts)
  | .field field :: segments =>
      match values field with
      | none => .error (.missing field)
      | some value => do
          let size := Utf8.size value
          let left := left - field.placeholder.length
          if renderLimit < written + size + left then throw (.refused .longText)
          let parts ← fill values (written + size) left segments
          pure (value :: parts)

/-- The text of a template with values filled in. -/
def render (template : Template) (values : Field → Option String) : Except FillFault String :=
  let size := Utf8.size template.text
  if renderLimit < size then .error (.refused .longTemplate)
  else (fill values 0 size template.segments).map String.join

/-- A value is missing only for a field that is named. -/
theorem missing_of_fill {values : Field → Option String} {written left : Nat}
    {segments : List Segment} {field : Field}
    (fails : fill values written left segments = .error (.missing field)) :
    values field = none ∧ .field field ∈ segments := by
  induction segments generalizing written left with
  | nil => cases fails
  | cons segment segments ih =>
      have missing_later {written left : Nat}
          (fails_later : fill values written left segments = .error (.missing field)) :
          values field = none ∧ .field field ∈ segment :: segments :=
        ⟨(ih fails_later).1, List.mem_cons_of_mem _ (ih fails_later).2⟩
      cases segment with
      | literal text =>
          rw [fill] at fails
          cases later : fill values (written + Utf8.size text) (left - Utf8.size text) segments with
          | ok parts =>
              rw [later] at fails
              cases fails
          | error fault =>
              rw [later] at fails
              cases fails
              exact missing_later later
      | field other =>
          rw [fill] at fails
          cases given : values other with
          | none =>
              rw [given] at fails
              cases fails
              exact ⟨given, List.mem_cons_self⟩
          | some value =>
              simp only [given] at fails
              split at fails
              · cases fails
              · cases later : fill values (written + Utf8.size value)
                    (left - other.placeholder.length) segments with
                | ok parts =>
                    rw [later] at fails
                    cases fails
                | error fault =>
                    rw [later] at fails
                    cases fails
                    exact missing_later later

theorem mem_fields_iff {template : Template} {field : Field} :
    field ∈ template.fields ↔ .field field ∈ template.segments := by
  simp [fields, field.mem_all]

theorem missing_of_render {template : Template} {values : Field → Option String} {field : Field}
    (fails : template.render values = .error (.missing field)) :
    values field = none ∧ field ∈ template.fields := by
  simp only [render] at fails
  split at fails
  · cases fails
  · cases filled : fill values 0 (Utf8.size template.text) template.segments with
    | ok parts =>
        rw [filled] at fails
        cases fails
    | error fault =>
        rw [filled] at fails
        cases fails
        rw [mem_fields_iff]
        exact missing_of_fill filled

end Template

end LogRelay
