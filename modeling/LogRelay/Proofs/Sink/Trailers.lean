import LogRelay.Proofs.Render.Capacity

/-!
# Texts apart from each other by zero bytes

Where texts end in zero bytes, a stream of them can be split into the texts again (`splitOn_emission`).
This takes that no text has U+0000 but at its end, and that only a text from a template ends in it. A
message has none, since the record cuts it there, and neither have numbers, names and times. Cutting
takes characters away only, and filling in a template puts values without U+0000 in the place of
placeholders.
-/

namespace LogRelay

/-- U+0000 is not among the characters. -/
def Zeroless (text : String) : Prop := '\x00' ∉ text.toList

instance (text : String) : Decidable (Zeroless text) :=
  inferInstanceAs (Decidable ('\x00' ∉ text.toList))

namespace Zeroless

theorem zero_notMem_encode_iff {text : String} : 0 ∉ Utf8.encode text ↔ Zeroless text := by
  simp [Zeroless, Utf8.encode, Utf8.zero_mem_encodeChar_iff]

@[simp]
theorem append_iff {first second : String} :
    Zeroless (first ++ second) ↔ Zeroless first ∧ Zeroless second := by
  simp [Zeroless]

theorem of_subset {text other : String} (zeroless : Zeroless text)
    (subset : other.toList ⊆ text.toList) : Zeroless other := by
  intro zero_mem
  exact zeroless (subset zero_mem)

/-! ## Numbers, names and times -/

@[simp]
theorem natRepr (number : Nat) : Zeroless number.repr := by
  intro zero_mem
  rw [Nat.toList_repr] at zero_mem
  have digit := Nat.isDigit_of_mem_toDigits (by decide) (by decide) zero_mem
  simp at digit

@[simp]
theorem intRepr (number : Int) : Zeroless number.repr := by
  have sign : Zeroless "-" := by decide
  rw [Int.repr_eq_if]
  split
  · exact natRepr _
  · simp [sign]

theorem named {names : List String} (all : ∀ name ∈ names, Zeroless name) (place : Nat) :
    Zeroless (names[place]?.getD "") := by
  cases found : names[place]? with
  | none => decide
  | some name => exact all name (List.mem_of_getElem? found)

theorem pushn {text : String} {char : Char} (zeroless : Zeroless text) (other : char ≠ '\x00')
    (count : Nat) : Zeroless (text.pushn char count) := by
  rw [String.pushn_eq_repeat_push]
  induction count with
  | zero => exact zeroless
  | succ count ih => simpa [Nat.repeat, Zeroless, other.symm] using ih

end Zeroless

namespace Stamp

open Zeroless

@[simp]
theorem zeroless_zeroPadded (width number : Nat) : Zeroless (zeroPadded width number) := by
  simp only [zeroPadded, append_iff]
  exact ⟨pushn (by decide) (by decide) _, natRepr number⟩

@[simp]
theorem zeroless_blankPadded (width number : Nat) : Zeroless (blankPadded width number) := by
  simp only [blankPadded, append_iff]
  exact ⟨pushn (by decide) (by decide) _, natRepr number⟩

@[simp]
theorem zeroless_clock (moment : Moment) : Zeroless (clock moment) := by
  have colon : Zeroless ":" := by decide
  simp [clock, colon]

theorem zeroless_monthAndClock (moment : Moment) : Zeroless (monthAndClock moment) := by
  have blank : Zeroless " " := by decide
  have month : Zeroless (months[moment.month - 1]?.getD "") := named (by decide) _
  simp [monthAndClock, blank, month]

theorem zeroless_classic {seconds : Int} {text : String} (made : classic seconds = .ok text) :
    Zeroless text := by
  rw [classic] at made
  split at made
  · cases made
    have blank : Zeroless " " := by decide
    have weekday : Zeroless (weekdays[(Calendar.moment seconds).weekday]?.getD "") :=
      named (by decide) _
    simp [blank, weekday, zeroless_monthAndClock]
  · cases made

theorem zeroless_classicHeader {seconds : Int} {text : String}
    (made : classicHeader seconds = .ok text) : Zeroless text := by
  rw [classicHeader, Fallible.map_eq_ok] at made
  rcases made with ⟨full, made, rfl⟩
  apply (zeroless_classic made).of_subset
  rw [String.toList_ofList]
  intro char char_mem
  exact List.mem_of_mem_drop (List.mem_of_mem_take char_mem)

@[simp]
theorem zeroless_bracketed (event : Event) : Zeroless (bracketed event) := by
  have signs : Zeroless "[" ∧ Zeroless "." ∧ Zeroless "] " := by decide
  simp [bracketed, signs]

theorem zeroless_internet {event : Event} {text : String} (made : internet event = .ok text) :
    Zeroless text := by
  rw [internet] at made
  split at made
  · cases made
    have signs : Zeroless "-" ∧ Zeroless "T" ∧ Zeroless "." ∧ Zeroless "Z" := by decide
    simp [signs]
  · cases made

end Stamp

/-! ## What is rendered -/

namespace Buffer

variable {values : Field → String} {buffer : Buffer}

/-- A value without U+0000 leaves U+0000 nowhere but at the end. -/
theorem zero_only_last_of_replaceNext? {next : Buffer} (zeroless : ∀ field, Zeroless (values field))
    (only_last : '\x00' ∉ buffer.text.dropLast) (replaced : buffer.replaceNext? values = some next) :
    '\x00' ∉ next.text.dropLast := by
  simp only [replaceNext?, Option.map_eq_some_iff, Prod.exists] at replaced
  rcases replaced with ⟨place, field, found, rfl⟩
  rcases (leftmost?_eq_some_iff.mp found).stands with ⟨after, follows⟩
  rcases field.exists_placeholder_eq_cons with ⟨char, chars, shape⟩
  have value : '\x00' ∉ (values field).toList := zeroless field
  have left : buffer.text.drop (place + field.placeholder.length) = after := by
    rw [← List.drop_drop, ← follows, ← String.length_toList, List.drop_left]
  have whole : buffer.text = buffer.text.take place ++ (char :: chars ++ after) := by
    rw [← shape, follows, List.take_append_drop]
  rw [whole] at only_last
  rw [replace, left]
  generalize buffer.text.take place = before at only_last ⊢
  -- If the placeholder is at the end, then so is the value. Else the end of the text stays.
  rcases List.eq_nil_or_concat after with rfl | ⟨others, last, rfl⟩
  · rw [List.append_nil, List.dropLast_append_of_ne_nil (by simp)] at only_last
    intro zero_mem
    have zero_mem := List.dropLast_subset _ zero_mem
    simp only [List.append_nil, List.mem_append, not_or] at zero_mem only_last
    rcases zero_mem with earlier | inserted
    · exact only_last.1 earlier
    · exact value inserted
  · simp only [List.concat_eq_append, ← List.append_assoc, List.dropLast_concat] at only_last ⊢
    simp only [List.mem_append, not_or] at only_last ⊢
    exact ⟨⟨only_last.1.1, value⟩, only_last.2⟩

theorem zero_only_last_of_fillIn {result : String} (zeroless : ∀ field, Zeroless (values field))
    (only_last : '\x00' ∉ buffer.text.dropLast) (filled : buffer.fillIn values = some result) :
    '\x00' ∉ result.toList.dropLast := by
  fun_induction fillIn values buffer with
  | case1 buffer long => cases filled
  | case2 buffer fits nothing =>
      cases filled
      rwa [String.toList_ofList]
  | case3 buffer fits next replaced ih =>
      exact ih (zero_only_last_of_replaceNext? zeroless only_last replaced) filled

end Buffer

namespace Formatter

open Zeroless

variable {event : Event}

theorem zeroless_texts (message : Zeroless event.message) (field : Field) :
    Zeroless (texts event field) := by
  cases field with
  | message => exact message
  | priority => simp [texts]
  | source =>
      simp only [texts, Codes.source]
      repeat' split
      all_goals decide
  | timestamp => simp [texts]
  | rfc3339 =>
      rw [texts]
      cases made : Stamp.internet event with
      | error fault => exact show Zeroless "" by decide
      | ok text => exact Stamp.zeroless_internet made

theorem zero_only_last_of_fillTemplate (message : Zeroless event.message) {template text : String}
    (only_last : '\x00' ∉ template.toList.dropLast)
    (filled : fillTemplate (.ofText template) event = .ok text) :
    '\x00' ∉ text.toList.dropLast := by
  rcases fillTemplate_cases template event with
    ⟨fault, fails, -, -⟩ | renders
  · rw [fails] at filled
    cases filled
  · rw [renders] at filled
    split at filled
    case h_1 result fills =>
      cases filled
      exact Buffer.zero_only_last_of_fillIn (zeroless_texts message) only_last fills
    case h_2 => cases filled

theorem zeroless_shown {text : Option String} {behind : String}
    (zeroless : ∀ name ∈ text, Zeroless name) (zeroless_behind : Zeroless behind) :
    Zeroless (match shown text with
      | some name => name ++ behind
      | none => "") := by
  have nothing : Zeroless "" := by decide
  cases shows : shown text with
  | none => exact nothing
  | some name =>
      rw [shown, Option.filter_eq_some_iff] at shows
      simp [zeroless name shows.1, zeroless_behind]

theorem zeroless_fullSyslog (message : Zeroless event.message) {timestamp : Bool}
    {hostname prefixText : Option String} (host : ∀ name ∈ hostname, Zeroless name)
    (before : ∀ text ∈ prefixText, Zeroless text) {full : String}
    (made : fullSyslog timestamp hostname prefixText event = .ok full) : Zeroless full := by
  rw [fullSyslog, Fallible.bind_eq_ok] at made
  rcases made with ⟨header, made, full_eq⟩
  have header := Stamp.zeroless_classicHeader made
  cases full_eq
  have signs : Zeroless "" ∧ Zeroless "<" ∧ Zeroless ">" ∧ Zeroless "kernel: " := by decide
  have time : Zeroless (if timestamp then Stamp.bracketed event else "") := by
    split <;> simp [signs]
  have kernel : Zeroless (if event.source = 0 then "kernel: " else "") := by
    split <;> simp [signs]
  simp only [append_iff]
  simp only [signs, header, time, kernel, message, Int.toString_eq_repr, intRepr, true_and, and_true]
  exact ⟨zeroless_shown host (by decide), zeroless_shown before (by decide)⟩

/-- What is rendered for the network has U+0000 at its end only, and only if it is from a template. -/
theorem zero_only_last_of_render {config : Config} {text host : String} {port : Int}
    (sent : config.sinkKind = .network host port) (message : Zeroless event.message)
    (hostname : ∀ name ∈ config.hostname, Zeroless name)
    (prefixText : ∀ text ∈ config.prefixText, Zeroless text)
    (template : ∀ text ∈ config.template, '\x00' ∉ text.toList.dropLast)
    (rendered : (ofConfig config).1.render event = .ok text) :
    '\x00' ∉ text.toList.dropLast ∧ (config.template = none → Zeroless text) := by
  rcases rendered_remotely sent rendered with
    ⟨full, unnamed, made, rfl⟩ | ⟨parts, named, filled⟩
  · have whole := zeroless_fullSyslog message hostname prefixText made
    have zeroless : Zeroless (Utf8.truncate full renderLimit) :=
      whole.of_subset (Utf8.isPrefix_toList_truncate full (by decide)).subset
    refine ⟨?_, fun _ => zeroless⟩
    intro zero_mem
    exact zeroless (List.dropLast_subset _ zero_mem)
  · refine ⟨zero_only_last_of_fillTemplate message (template parts named) filled, ?_⟩
    intro unnamed
    rw [named] at unnamed
    cases unnamed

end Formatter

/-! ## Splitting -/

/-- The text without U+0000 at its end. -/
def withoutLastZero (text : String) : String :=
  if text.toList.getLast? = some '\x00' then String.ofList text.toList.dropLast else text

/-- With a trailer of its own or the one of the link, a text ends in one zero byte. -/
theorem LinkOptions.frame_eq {options : LinkOptions} (stream : options.udp = false)
    (trailed : options.nullTrailer = true) {text : String}
    (only_last : '\x00' ∉ text.toList.dropLast)
    (kept : options.keepTrailer = true ∨ Zeroless text) :
    options.frame text = Utf8.encode (withoutLastZero text) ++ [0] ∧
      0 ∉ Utf8.encode (withoutLastZero text) := by
  simp only [frame, stream, trailer, trailed, Bool.false_eq_true, if_false, if_true]
  by_cases ends : text.toList.getLast? = some '\x00'
  · have whole := List.dropLast_append_getLast? _ ends
    have bytes : Utf8.encode text = Utf8.encode (String.ofList text.toList.dropLast) ++ [0] := by
      rw [Utf8.encode, Utf8.encode, ← whole, List.flatMap_append, String.toList_ofList]
      simp
      decide
    have own : options.keepTrailer = true := by
      rcases kept with own | zeroless
      · exact own
      · exact absurd (List.mem_of_getLast? ends) zeroless
    have zeroless : Zeroless (String.ofList text.toList.dropLast) := by
      rwa [Zeroless, String.toList_ofList]
    rw [withoutLastZero, if_pos ends, bytes]
    refine ⟨?_, Zeroless.zero_notMem_encode_iff.mpr zeroless⟩
    simp [own]
  · have zeroless : Zeroless text := by
      intro zero_mem
      rcases List.eq_nil_or_concat text.toList with empty | ⟨others, last, whole⟩
      · simp [empty] at zero_mem
      · simp only [whole, List.concat_eq_append, List.dropLast_concat, List.getLast?_concat,
          List.mem_append, List.mem_singleton, Option.some.injEq] at only_last ends zero_mem
        rcases zero_mem with earlier | rfl
        · exact only_last earlier
        · exact ends rfl
    have no_zero : 0 ∉ Utf8.encode text := Zeroless.zero_notMem_encode_iff.mpr zeroless
    have ends_otherwise : (Utf8.encode text).getLast? ≠ some 0 := by
      intro last
      exact no_zero (List.mem_of_getLast? last)
    rw [withoutLastZero, if_neg ends]
    refine ⟨?_, no_zero⟩
    simp [ends_otherwise]

/-- Zero bytes tell pieces without any apart. -/
theorem splitOn_flatMap_concat {Item : Type} {piece : Item → List UInt8} {items : List Item}
    (zeroless : ∀ item ∈ items, 0 ∉ piece item) :
    (items.flatMap fun item => piece item ++ [0]).splitOn 0 = items.map piece ++ [[]] := by
  induction items with
  | nil => rfl
  | cons item items ih =>
      have first := zeroless item List.mem_cons_self
      rw [List.flatMap_cons, List.append_assoc, List.singleton_append,
        List.splitOn_append_cons_self_of_not_mem first, ih]
      · rfl
      · intro other other_mem
        exact zeroless other (List.mem_cons_of_mem _ other_mem)

/-- The texts that come of payloads, in their order. -/
def Formatter.rendered (formatter : Formatter) (payloads : List (List UInt8)) : List String :=
  payloads.filterMap fun payload =>
    (Event.parse payload).1.bind fun event => (formatter.render event).toOption

/-- What a stream of texts with zero bytes behind them is split into is just these texts, each without
the U+0000 that it may end in, and nothing is left behind the last zero byte. -/
theorem splitOn_emission (config : Config) {host : String} {port : Int}
    (sent : config.sinkKind = .network host port) (stream : config.udp = false)
    (trailed : config.nullTrailer = true)
    (hostname : ∀ name ∈ config.hostname, '\x00' ∉ name.toList)
    (prefixText : ∀ text ∈ config.prefixText, '\x00' ∉ text.toList)
    (template : ∀ text ∈ config.template, '\x00' ∉ text.toList.dropLast)
    (payloads : List (List UInt8)) {state : Sink.State} (reached : Sink.Reached config state) :
    (((Formatter.ofConfig config).1.rendered payloads).flatMap state.1.emission).splitOn 0 =
      ((Formatter.ofConfig config).1.rendered payloads).map
        (fun text => Utf8.encode (withoutLastZero text)) ++ [[]] := by
  have zero_only_last : ∀ text ∈ (Formatter.ofConfig config).1.rendered payloads,
      '\x00' ∉ text.toList.dropLast ∧ (config.template = none → Zeroless text) := by
    intro text text_mem
    rw [Formatter.rendered, List.mem_filterMap] at text_mem
    rcases text_mem with ⟨payload, -, made⟩
    rw [Option.bind_eq_some_iff] at made
    rcases made with ⟨event, parsed, rendered⟩
    rw [Fallible.toOption_eq_some] at rendered
    have message := (Event.fits_of_read (Event.parse_eq_some_iff.mp parsed)).2
    exact Formatter.zero_only_last_of_render sent message hostname prefixText template rendered
  rcases state with ⟨sink | sink | link, disk⟩
  · have kind : config.sinkKind = .standardOutput := reached.suits
    rw [sent] at kind
    cases kind
  · rcases reached.suits with ⟨path, kind⟩
    rw [sent] at kind
    cases kind
  · rcases reached.suits with ⟨host, port, -, options⟩
    have framed : ∀ text ∈ (Formatter.ofConfig config).1.rendered payloads,
        link.options.frame text = Utf8.encode (withoutLastZero text) ++ [0] ∧
          0 ∉ Utf8.encode (withoutLastZero text) := by
      intro text text_mem
      rcases zero_only_last text text_mem with ⟨only_last, plain⟩
      rw [options]
      apply LinkOptions.frame_eq stream trailed only_last
      cases named : config.template with
      | some parts => exact .inl (by simp [Sink.linkOptions, named])
      | none => exact .inr (plain named)
    have pieces : ((Formatter.ofConfig config).1.rendered payloads).flatMap
          (Sink.emission (.network link)) =
        ((Formatter.ofConfig config).1.rendered payloads).flatMap
          fun text => Utf8.encode (withoutLastZero text) ++ [0] :=
      List.flatMap_congr fun text text_mem => (framed text text_mem).1
    rw [pieces, splitOn_flatMap_concat fun text text_mem => (framed text text_mem).2]

theorem splitOn_emission_streamConfig :
    let config := { streamConfig with template := some "%message%\x00" }
    (Formatter.ofConfig config).1.rendered [Event.repeatedId, [], Event.repeatedId] =
        ["a\x00", "a\x00"] ∧
      (["a\x00", "a\x00"].flatMap (Sink.ofConfig config 0 .empty).state.1.emission).splitOn 0 =
        [[97], [97], []] := by
  intro config
  have rendered : (Formatter.ofConfig config).1.rendered
      [Event.repeatedId, [], Event.repeatedId] = ["a\x00", "a\x00"] := by
    decide +kernel
  have pieces : (["a\x00", "a\x00"].map fun text => Utf8.encode (withoutLastZero text)) =
      [[97], [97]] := by
    decide +kernel
  have split := splitOn_emission config (show config.sinkKind = .network "localhost" 514 by rfl)
    rfl rfl (by simp [config, streamConfig]) (by simp [config, streamConfig])
    (by simp [config]) [Event.repeatedId, [], Event.repeatedId] (.made 0 .empty)
  rw [rendered, pieces] at split
  exact ⟨rendered, split⟩

end LogRelay
