import LogRelay.Options.Config
import LogRelay.Render.Codes
import LogRelay.Render.Template
import LogRelay.Text.Quoted

/-!
# Formatters

A formatter makes one text of an event: a line for a file or for standard output, a line of the
system log for the network, or what a template says. No text is longer than 511 bytes with its line
end, and what is too long is cut between characters, except that a template that does not fit makes
no text.
-/

namespace LogRelay

/-- The ways to render events. -/
inductive Formatter where
  | line (timestamp : Bool)
  | syslog (timestamp : Bool) (hostname prefixText : Option String)
  | template (template : Template) (newline : Bool)

namespace Formatter

/-- A text to be shown, none for an empty one. -/
def shown (text : Option String) : Option String :=
  text.filter (· ≠ "")

/-- The line of an event before it is cut. -/
def fullLine (timestamp : Bool) (event : Event) : Except RenderFault String := do
  let classic ← Stamp.classic event.seconds
  pure (classic ++ " " ++ (if timestamp then Stamp.bracketed event else "") ++
    Codes.facility event.priority ++ "." ++ Codes.severity event.priority ++
    (if event.source = 0 then " kernel:" else "") ++ " " ++ event.message)

/-- The line of the system log of an event before it is cut. -/
def fullSyslog (timestamp : Bool) (hostname prefixText : Option String) (event : Event) :
    Except RenderFault String := do
  let header ← Stamp.classicHeader event.seconds
  pure ("<" ++ toString event.priority ++ ">" ++ header ++
    (if timestamp then Stamp.bracketed event else "") ++
    (match shown hostname with
      | some name => name ++ " "
      | none => "") ++
    (match shown prefixText with
      | some text => text ++ ": "
      | none => "") ++
    (if event.source = 0 then "kernel: " else "") ++ event.message)

/-- The values of an event for the fields of a template. The text of the internet standard is made
only if the template names it. -/
def values (template : Template) (event : Event) : Except RenderFault (Field → Option String) := do
  let internet ← if template.fields.contains .rfc3339 then (Stamp.internet event).map some
    else pure none
  pure fun field => match field with
    | .message => some event.message
    | .priority => some (toString event.priority)
    | .source => some (Codes.source event.source)
    | .timestamp => some (Stamp.bracketed event)
    | .rfc3339 => internet

/-- Every field that a template names has a value. -/
theorem values_ne_none {template : Template} {event : Event} {found : Field → Option String}
    (made : values template event = .ok found) {field : Field} (named : field ∈ template.fields) :
    found field ≠ none := by
  simp only [values] at made
  split at made
  · cases has_text : Stamp.internet event with
    | error fault =>
        rw [has_text] at made
        cases made
    | ok internet =>
        rw [has_text] at made
        cases made
        cases field <;> simp
  · rename_i unnamed
    cases made
    cases field
    case rfc3339 => exact absurd (List.contains_iff_mem.mpr named) unnamed
    all_goals simp

/-- The text of a template for an event. -/
def fillTemplate (template : Template) (event : Event) : Except RenderFault String :=
  match made : values template event with
  | .error fault => .error fault
  | .ok found =>
      match filled : template.render found with
      | .ok text => .ok text
      | .error (.refused fault) => .error fault
      | .error (.missing _) =>
          have missing := Template.missing_of_render filled
          absurd missing.1 (values_ne_none made missing.2)

/-- A text with a line end, which takes the place of the last character of a text that fills the
buffer. -/
def withNewline (text : String) : String :=
  (if renderLimit ≤ Utf8.size text then Utf8.truncate text (renderLimit - 1) else text) ++ "\n"

/-- The text of an event. -/
def render (formatter : Formatter) (event : Event) : Except RenderFault String :=
  match formatter with
  | line timestamp =>
      (fullLine timestamp event).map fun text => Utf8.truncate text (renderLimit - 1) ++ "\n"
  | syslog timestamp hostname prefixText =>
      (fullSyslog timestamp hostname prefixText event).map fun text =>
        Utf8.truncate text renderLimit
  | template parts newline =>
      (fillTemplate parts event).map fun text => if newline then withNewline text else text

/-- The formatter of a configuration, with what the journal notes about it. -/
def ofConfig (config : Config) : Formatter × Journal :=
  let network := match config.sinkKind with
    | .network _ _ => true
    | _ => false
  match config.template with
  | some text =>
      (.template (.ofText text) (!network),
        [⟨.info, .formatter, "Using output template " ++ Text.quoted text⟩])
  | none =>
      if network then (.syslog config.timestamp config.hostname config.prefixText, [])
      else (.line config.timestamp, [])

/-- The name of a way to render. -/
def name : Formatter → String
  | line _ => "LineFormatter"
  | syslog _ _ _ => "SyslogFormatter"
  | template _ _ => "TemplateFormatter"

end Formatter

end LogRelay
