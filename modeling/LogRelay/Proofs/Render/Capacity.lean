import LogRelay.Proofs.Fallible
import LogRelay.Proofs.Render.Replacement
import LogRelay.Proofs.Render.Stamp
import LogRelay.Proofs.Sink.Emission
import LogRelay.Render.Formatter

/-!
# What fits into the buffer

Each text that is rendered fits into the buffer: a line is cut before its line end is added, a line of
the system log is cut as it is, and a template that does not fit is not rendered at all. A sink emits
the text as it is, or with a trailer behind it where the text does not have one. So what is emitted for
an event never exceeds the buffer by more than the trailer (`emission_fits`).
-/

namespace LogRelay

/-! ## Filling in a template for an event -/

namespace Template

theorem fill_congr {values others : Field → Option String} {written left : Nat}
    {segments : List Segment}
    (same : ∀ field, .field field ∈ segments → values field = others field) :
    fill values written left segments = fill others written left segments := by
  induction segments generalizing written left with
  | nil => rfl
  | cons segment segments ih =>
      have later : ∀ written left,
          fill values written left segments = fill others written left segments := by
        intro written left
        apply ih
        intro field field_mem
        exact same field (List.mem_cons_of_mem _ field_mem)
      cases segment with
      | literal text => simp only [fill, later]
      | field field => simp only [fill, later, same field List.mem_cons_self]

/-- Only the values of the fields that are named matter. -/
theorem render_congr {template : Template} {values others : Field → Option String}
    (same : ∀ field ∈ template.fields, values field = others field) :
    template.render values = template.render others := by
  rw [render, render, fill_congr]
  intro field field_mem
  exact same field (mem_fields_iff.mpr field_mem)

end Template

namespace Formatter

open Fallible

variable {event : Event} {fault : RenderFault}

/-- The values of an event. A time that has no text of the internet standard has an empty one here. -/
def texts (event : Event) : Field → String
  | .message => event.message
  | .priority => toString event.priority
  | .source => Codes.source event.source
  | .timestamp => Stamp.bracketed event
  | .rfc3339 => (Stamp.internet event).toOption.getD ""

theorem fillTemplate_of_values {template : Template} {found : Field → Option String}
    (made : values template event = .ok found) :
    (fillTemplate template event).mapError .refused = template.render found := by
  rw [fillTemplate]
  split
  · rename_i fault fails
    cases made.symm.trans fails
  · rename_i other made_so
    cases made.symm.trans made_so
    split
    · rename_i text renders
      exact renders.symm
    · rename_i fault fails
      exact fails.symm
    · rename_i field fails
      have missing := Template.missing_of_render fails
      exact absurd missing.1 (values_ne_none made missing.2)

theorem fillTemplate_of_no_values {template : Template} (fails : values template event = .error fault) :
    fillTemplate template event = .error fault := by
  rw [fillTemplate]
  split
  · rename_i other fails_so
    cases fails.symm.trans fails_so
    rfl
  · rename_i found made
    cases fails.symm.trans made

/-- An event has values for a template, unless the template names the text of the internet standard and
the event has none. -/
theorem values_cases (template : Template) (event : Event) :
    (∃ fault, values template event = .error fault ∧ .rfc3339 ∈ template.fields ∧
      Stamp.internet event = .error fault) ∨
    ∃ found, values template event = .ok found ∧
      ∀ field ∈ template.fields, found field = some (texts event field) := by
  by_cases named : .rfc3339 ∈ template.fields
  · have asked := List.contains_iff_mem.mpr named
    cases has_text : Stamp.internet event with
    | error fault =>
        refine .inl ⟨fault, ?_, named, rfl⟩
        simp only [values, asked, if_true, has_text]
        rfl
    | ok internet =>
        right
        simp only [values, asked, if_true, has_text]
        refine ⟨_, rfl, ?_⟩
        intro field _
        cases field with
        | rfc3339 => simp [texts, has_text, Except.toOption]
        | _ => rfl
  · right
    have unasked : ¬template.fields.contains .rfc3339 = true := by simpa using named
    simp only [values, if_neg unasked]
    refine ⟨_, rfl, ?_⟩
    intro field field_mem
    cases field with
    | rfc3339 => exact absurd field_mem named
    | _ => rfl

/-- A template is filled in with the values of the event, unless the event has none for it. -/
theorem fillTemplate_cases (text : String) (event : Event) :
    (∃ fault, fillTemplate (.ofText text) event = .error fault ∧
      .rfc3339 ∈ (Template.ofText text).fields ∧ Stamp.internet event = .error fault) ∨
    fillTemplate (.ofText text) event =
      match Buffer.fillIn (texts event) ⟨text.toList, 0⟩ with
      | some result => .ok result
      | none => .error (if renderLimit < Utf8.size text then .longTemplate else .longText) := by
  rcases values_cases (.ofText text) event with ⟨fault, fails, named, late⟩ | ⟨found, made, same⟩
  · exact .inl ⟨fault, fillTemplate_of_no_values fails, named, late⟩
  · right
    have renders := fillTemplate_of_values made
    rw [Template.render_congr same, Template.render_ofText] at renders
    cases fills : Buffer.fillIn (texts event) ⟨text.toList, 0⟩ with
    | some result =>
        rw [fills] at renders
        exact mapError_eq_ok.mp renders
    | none =>
        rw [fills, mapError_eq_error] at renders
        rcases renders with ⟨fault, fails, same⟩
        cases same
        exact fails

/-! ## What fits -/

theorem encode_newline (text : String) : Utf8.encode (text ++ "\n") = Utf8.encode text ++ [10] := by
  rw [Utf8.encode_append]
  rfl

theorem size_cut_newline_le (text : String) :
    Utf8.size (Utf8.truncate text (renderLimit - 1) ++ "\n") ≤ renderLimit := by
  have newline : Utf8.size "\n" = 1 := by decide
  have cut := Utf8.size_truncate_le text (show (0 : Int) ≤ renderLimit - 1 by decide)
  rw [Utf8.size_append, newline]
  omega

theorem size_withNewline_le (text : String) : Utf8.size (withNewline text) ≤ renderLimit := by
  rw [withNewline]
  split
  case isTrue => exact size_cut_newline_le text
  case isFalse short =>
    have newline : Utf8.size "\n" = 1 := by decide
    rw [Utf8.size_append, newline]
    omega

theorem exists_fullLine (fits : event.Fits) (timestamp : Bool) :
    ∃ text, fullLine timestamp event = .ok text := by
  rcases Stamp.exists_classic fits with ⟨classic, classic_eq⟩
  simp only [fullLine, classic_eq]
  exact ⟨_, rfl⟩

theorem exists_fullSyslog (fits : event.Fits) (timestamp : Bool)
    (hostname prefixText : Option String) :
    ∃ text, fullSyslog timestamp hostname prefixText event = .ok text := by
  rcases Stamp.exists_classicHeader fits with ⟨header, header_eq⟩
  simp only [fullSyslog, header_eq]
  exact ⟨_, rfl⟩

theorem size_le_of_fillTemplate {template text : String}
    (filled : fillTemplate (.ofText template) event = .ok text) : Utf8.size text ≤ renderLimit := by
  rcases fillTemplate_cases template event with
    ⟨fault, fails, -, -⟩ | renders
  · rw [fails] at filled
    cases filled
  · rw [renders] at filled
    split at filled
    case h_1 result fills =>
      cases filled
      exact Buffer.size_le_of_fillIn fills
    case h_2 => cases filled

/-- The line or the filled template of which the text for a local sink is made. -/
theorem rendered_locally {config : Config} {text : String}
    (kept_here : ∀ host port, config.sinkKind ≠ .network host port)
    (rendered : (ofConfig config).1.render event = .ok text) :
    ∃ full, text = withNewline full ∨
      text = Utf8.truncate full (renderLimit - 1) ++ "\n" := by
  rw [ofConfig] at rendered
  cases kind : config.sinkKind with
  | network host port => exact absurd kind (kept_here host port)
  | _ =>
      cases named : config.template <;>
        simp only [kind, named, Bool.false_eq_true, if_false, render, map_eq_ok] at rendered
      all_goals
        rcases rendered with ⟨full, -, rfl⟩
        exact ⟨full, by simp⟩

theorem line_fits {config : Config} {text : String}
    (kept_here : ∀ host port, config.sinkKind ≠ .network host port)
    (rendered : (ofConfig config).1.render event = .ok text) :
    Utf8.size text ≤ renderLimit ∧ (Utf8.encode text).getLast? = some 10 := by
  rcases rendered_locally kept_here rendered with ⟨full, rfl | rfl⟩
  · refine ⟨size_withNewline_le full, ?_⟩
    simp [withNewline, encode_newline]
  · refine ⟨size_cut_newline_le full, ?_⟩
    simp [encode_newline]

/-- What goes to the network is a line that is cut, or a filled template as it is. -/
theorem rendered_remotely {config : Config} {text host : String} {port : Int}
    (sent : config.sinkKind = .network host port)
    (rendered : (ofConfig config).1.render event = .ok text) :
    (∃ full, config.template = none ∧
      fullSyslog config.timestamp config.hostname config.prefixText event = .ok full ∧
        text = Utf8.truncate full renderLimit) ∨
    ∃ template, config.template = some template ∧
      fillTemplate (.ofText template) event = .ok text := by
  rw [ofConfig, sent] at rendered
  cases named : config.template with
  | none =>
      simp only [named, render, if_true, map_eq_ok] at rendered
      rcases rendered with ⟨full, full_eq, cut⟩
      exact .inl ⟨full, rfl, full_eq, cut.symm⟩
  | some template =>
      simp only [named, render, map_eq_ok] at rendered
      rcases rendered with ⟨filled, filled_eq, rfl⟩
      exact .inr ⟨template, rfl, filled_eq⟩

theorem datagram_fits {config : Config} {text host : String} {port : Int}
    (sent : config.sinkKind = .network host port)
    (rendered : (ofConfig config).1.render event = .ok text) :
    Utf8.size text ≤ renderLimit := by
  rcases rendered_remotely sent rendered with ⟨full, -, -, rfl⟩ | ⟨template, -, filled⟩
  · have cut := Utf8.size_truncate_le full (show (0 : Int) ≤ renderLimit by decide)
    omega
  · exact size_le_of_fillTemplate filled

/-- Only a template can fail, by getting too long, or because it names a text of the time that the
time does not have. -/
theorem fault_of_render {config : Config} (fits : event.Fits)
    (fails : (ofConfig config).1.render event = .error fault) :
    ∃ template, config.template = some template ∧
      ((fault = .longTemplate ∨ fault = .longText) ∧
          Buffer.fillIn (texts event) ⟨template.toList, 0⟩ = none ∨
        fault = .outOfRange event.seconds ∧ .rfc3339 ∈ (Template.ofText template).fields ∧
          Calendar.yearTenThousand ≤ event.seconds) := by
  cases named : config.template with
  | none =>
      exfalso
      simp only [ofConfig, named] at fails
      split at fails
      · rcases exists_fullSyslog fits config.timestamp config.hostname config.prefixText with
          ⟨text, full⟩
        simp [render, full, Except.map] at fails
      · rcases exists_fullLine fits config.timestamp with ⟨text, full⟩
        simp [render, full, Except.map] at fails
  | some template =>
      refine ⟨template, rfl, ?_⟩
      simp only [ofConfig, named, render, map_eq_error] at fails
      rcases fillTemplate_cases template event with
        ⟨other, has_none, named, late⟩ | renders
      · rw [has_none] at fails
        cases fails
        rcases Stamp.late_of_internet fits late with ⟨is_range, late⟩
        exact .inr ⟨is_range, named, late⟩
      · rw [renders] at fails
        cases gives : Buffer.fillIn (texts event) ⟨template.toList, 0⟩ with
        | some result => simp [gives] at fails
        | none =>
            rw [gives] at fails
            cases fails
            refine .inl ⟨?_, rfl⟩
            split <;> simp

end Formatter

/-- What is sent over a stream ends in the trailer, and exceeds the text by that at most. -/
theorem LinkOptions.frame_fits (options : LinkOptions) (stream : options.udp = false)
    (text : String) :
    (options.frame text).length ≤ (Utf8.encode text).length + 1 ∧
      (options.frame text).getLast? = some options.trailer := by
  simp only [frame, stream, Bool.false_eq_true, if_false]
  split
  case isTrue ends =>
    simp at ends
    exact ⟨by omega, ends.2⟩
  case isFalse => simp

/-- What is rendered for an event that has been read, and accepted by the sink of the configuration, is
emitted in at most 511 bytes with its line end, or in a datagram of at most 511 bytes, or over a stream
in at most 512 bytes with the trailer. Nothing fails without a template, and a template fails only
because it gets too long, or because it names a text that times from the year 10000 on do not have. -/
theorem emission_fits (config : Config) {payload : List UInt8} {event : Event}
    (parsed : (Event.parse payload).1 = some event) :
    (∀ text, (Formatter.ofConfig config).1.render event = .ok text →
      ∀ state, Sink.Reached config state →
        (match config.sinkKind with
          | .standardOutput | .file _ =>
              (state.1.emission text).length ≤ 511 ∧ (state.1.emission text).getLast? = some 10
          | .network _ _ =>
              if config.udp then
                state.1.emission text = Utf8.encode text ∧ (state.1.emission text).length ≤ 511
              else
                (state.1.emission text).length ≤ 512 ∧
                  (state.1.emission text).getLast? = some (if config.nullTrailer then 0 else 10)) ∧
        ((Sink.write state text).result = .ok true →
          Sink.Emits (Sink.makeRoom state) (state.1.emission text) (Sink.write state text).state)) ∧
    ∀ fault, (Formatter.ofConfig config).1.render event = .error fault →
      ∃ template, config.template = some template ∧
        ((fault = .longTemplate ∨ fault = .longText) ∧
            Buffer.fillIn (Formatter.texts event) ⟨template.toList, 0⟩ = none ∨
          fault = .outOfRange event.seconds ∧ .rfc3339 ∈ (Template.ofText template).fields ∧
            Calendar.yearTenThousand ≤ event.seconds) := by
  have fits := (Event.fits_of_read (Event.parse_eq_some_iff.mp parsed)).1
  refine ⟨?_, fun fault fails => Formatter.fault_of_render fits fails⟩
  intro text rendered state reached
  have suits := reached.suits
  rcases state with ⟨sink | sink | link, disk⟩
  · have kind : config.sinkKind = .standardOutput := suits
    have line := Formatter.line_fits (by simp [kind]) rendered
    rw [Utf8.size_eq_length_encode] at line
    rw [kind]
    refine ⟨line, Sink.emits_of_accepted (.inl ?_)⟩
    intro empty
    simp [empty] at line
  · rcases suits with ⟨path, kind⟩
    have line := Formatter.line_fits (by simp [kind]) rendered
    rw [Utf8.size_eq_length_encode] at line
    rw [kind]
    refine ⟨line, Sink.emits_of_accepted (.inl ?_)⟩
    intro empty
    simp [empty] at line
  · rcases suits with ⟨host, port, kind, options⟩
    have short := Formatter.datagram_fits kind rendered
    rw [Utf8.size_eq_length_encode, renderLimit] at short
    rw [kind]
    refine ⟨?_, Sink.emits_of_accepted (.inr ⟨link, rfl⟩)⟩
    simp only [Sink.emission, options]
    split
    case isTrue datagrams =>
      have same : (Sink.linkOptions config host port).frame text = Utf8.encode text := by
        simp [LinkOptions.frame, Sink.linkOptions, datagrams]
      rw [same]
      exact ⟨rfl, short⟩
    case isFalse stream =>
      have streams : (Sink.linkOptions config host port).udp = false := by
        simpa [Sink.linkOptions] using stream
      have framed := (Sink.linkOptions config host port).frame_fits streams text
      refine ⟨by omega, ?_⟩
      exact framed.2

/-- A configuration that sends over a stream, with a zero byte behind each text. -/
def streamConfig : Config :=
  { remoteHost := some "localhost"
    remotePort := some 514
    nullTrailer := true
    template := some "%message%" }

/-- The link of that configuration, once its first attempt to connect has been made. -/
def streamLink : Link :=
  ((Link.idle (Sink.linkOptions streamConfig "localhost" 514) .none).start.step
    (.fire (.finds [none]))).state

theorem emission_fits_streamConfig :
    (Event.parse Event.repeatedId).1 = some ⟨"a", 9, 14, 1, 1000⟩ ∧
      (Formatter.ofConfig streamConfig).1.render ⟨"a", 9, 14, 1, 1000⟩ = .ok "a" ∧
        (Sink.write (.network streamLink, .empty) "a").result = .ok true ∧
          ((Sink.network streamLink).emission "a").length ≤ 512 ∧
            ((Sink.network streamLink).emission "a").getLast? = some 0 ∧
              Sink.Emits (.network streamLink, .empty) [97, 0]
                (Sink.write (.network streamLink, .empty) "a").state := by
  have parsed : (Event.parse Event.repeatedId).1 = some ⟨"a", 9, 14, 1, 1000⟩ := by decide +kernel
  have rendered : (Formatter.ofConfig streamConfig).1.render ⟨"a", 9, 14, 1, 1000⟩ = .ok "a" := by
    decide +kernel
  have reached : Sink.Reached streamConfig (.network streamLink, .empty) :=
    .happened (.made 0 .empty) (.fire (.finds [none]))
  have accepted : (Sink.write (.network streamLink, .empty) "a").result = .ok true := by rfl
  have framed : (Sink.network streamLink).emission "a" = [97, 0] := by decide +kernel
  have fits := (emission_fits streamConfig parsed).1 "a" rendered _ reached
  have emitted := fits.2 accepted
  rw [framed] at emitted
  exact ⟨parsed, rendered, accepted, fits.1.1, fits.1.2, emitted⟩

end LogRelay
