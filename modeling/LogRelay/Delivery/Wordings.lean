import LogRelay.Delivery
import LogRelay.Filter
import LogRelay.Render.Formatter
import LogRelay.Text.Wording

/-!
# Rules for a configuration in any wording

Host name, prefix and template come from outside. They go into the rendered texts as they are, and a
rendered text is measured or cut in bytes before anything is done with it. If one of them cannot be
encoded, no text comes about: its step breaks off, once the time stamps have been made.
-/

namespace LogRelay

/-- Host name, prefix and template as they came from outside. -/
structure Wordings where
  hostname : Option Wording
  prefixText : Option Wording
  template : Option Wording
  deriving DecidableEq

namespace Wordings

/-- A configuration with what is shown for them. -/
def shownIn (words : Wordings) (config : Config) : Config :=
  { config with
    hostname := words.hostname.map Wording.shown
    prefixText := words.prefixText.map Wording.shown
    template := words.template.map Wording.shown }

/-- Those that go into the texts of a formatter. -/
def used (words : Wordings) : Formatter → List Wording
  | .line _ => []
  | .syslog _ _ _ => words.hostname.toList ++ words.prefixText.toList
  | .template _ _ => words.template.toList

/-- What the journal notes about them. -/
def notes (words : Wordings) : Journal :=
  words.template.toList.map fun template =>
    ⟨.info, .formatter, "Using output template " ++ template.quoted⟩

end Wordings

/-- What can fail before a text is encoded. -/
def Formatter.stamp (formatter : Formatter) (event : Event) : Except RenderFault Unit :=
  match formatter with
  | .line _ => (Stamp.classic event.seconds).map fun _ => ()
  | .syslog _ _ _ => (Stamp.classicHeader event.seconds).map fun _ => ()
  | .template parts _ => (values parts event).map fun _ => ()

namespace Rules

variable {State : Type}

/-- The same rules with texts that cannot be encoded: in the place of each, its step breaks off. -/
def mute (rules : Rules State) (formatter : Formatter) : Rules State :=
  { rules with
    render := fun event => (formatter.stamp event).map fun _ => ""
    machine := { rules.machine with
      write := fun sink _ => .failed sink (.escaped .unencodable) } }

/-- The rules of a configuration in some wordings, with what the journal notes about them. -/
def worded (config : Config) (words : Wordings) (filter : Filter) (machine : SinkMachine State) :
    Rules State × Journal :=
  let (formatter, _) := Formatter.ofConfig (words.shownIn config)
  let rules := ⟨filter.accepts, formatter.render, machine, config.follow⟩
  (if (words.used formatter).all Wording.isText then rules else rules.mute formatter, words.notes)

end Rules

end LogRelay
