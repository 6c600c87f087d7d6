import LogRelay.Delivery.Wordings
import LogRelay.Proofs.Delivery.Records
import LogRelay.Proofs.Sink.Tame

/-!
# What escapes from a delivery

With a sink whose calls fail by the operating system only, nothing escapes from a delivery as long as
host name, prefix and template can be encoded, and only a sink that cannot be opened again finishes it.
If one of them that is used cannot be encoded, the first record that comes to a text breaks the
delivery off.
-/

namespace LogRelay

open LogRelay.Stream

namespace Rules

variable {State : Type} {rules : Rules State}

/-! ## Records -/

theorem deliver_contained {kind : State → Prop}
    (contained : ∀ sink text, kind sink → (rules.machine.write sink text).Contained kind)
    {sink : State} (is_kind : kind sink) (record : Option Event) :
    (rules.deliver sink record).Contained kind := by
  by_cases speaks : rules.Speaks sink record
  · rcases speaks with ⟨connected, event, text, rfl, accepted, rendered⟩
    rw [deliver_of_speaks connected accepted rendered]
    apply (contained sink text is_kind).andThen
    intro after accepts kind_after
    exact SinkStep.contained_of_ok kind_after rfl
  · rcases deliver_of_silent speaks with ⟨same, ends_well⟩
    rw [← same] at is_kind
    exact SinkStep.contained_of_ok is_kind ends_well

theorem deliverAll_contained {kind : State → Prop}
    (contained : ∀ sink text, kind sink → (rules.machine.write sink text).Contained kind)
    {sink : State} (is_kind : kind sink) (records : List (Option Event)) :
    (rules.deliverAll sink records).Contained kind := by
  induction records generalizing sink with
  | nil => exact SinkStep.contained_of_ok is_kind rfl
  | cons record records ih =>
      apply (deliver_contained contained is_kind record).andThen
      intro after _ kind_after
      exact ih kind_after

/-- With texts that cannot be encoded, the sink is left alone, and the first record that comes to a
text breaks off. -/
theorem deliverAll_mute (rules : Rules State) (formatter : Formatter) (sink : State)
    (records : List (Option Event)) :
    ((rules.mute formatter).deliverAll sink records).state = sink ∧
      ((∃ record ∈ records, (rules.mute formatter).Speaks sink record) →
        ((rules.mute formatter).deliverAll sink records).result = .error (.escaped .unencodable)) ∧
      ((∀ record ∈ records, ¬(rules.mute formatter).Speaks sink record) →
        ((rules.mute formatter).deliverAll sink records).result = .ok ()) := by
  induction records with
  | nil => exact ⟨rfl, by simp, fun _ => rfl⟩
  | cons record records ih =>
      by_cases speaks : (rules.mute formatter).Speaks sink record
      · have breaks : ((rules.mute formatter).deliver sink record).state = sink ∧
            ((rules.mute formatter).deliver sink record).result =
              .error (.escaped .unencodable) := by
          rcases speaks with ⟨connected, event, text, rfl, accepted, rendered⟩
          rw [deliver_of_speaks connected accepted rendered]
          exact ⟨rfl, rfl⟩
        rcases deliverAll_of_error breaks.2 records with ⟨state_eq, result_eq⟩
        refine ⟨state_eq.trans breaks.1, fun _ => result_eq, ?_⟩
        intro silent
        exact absurd speaks (silent record List.mem_cons_self)
      · rcases deliver_of_silent speaks with ⟨same, ends_well⟩
        rcases deliverAll_of_ok ends_well records with ⟨state_eq, result_eq⟩
        rw [same] at state_eq result_eq
        rw [state_eq, result_eq]
        refine ⟨ih.1, ?_, ?_⟩
        · rintro ⟨other, other_mem, speaks_other⟩
          rcases List.mem_cons.mp other_mem with rfl | later
          · exact absurd speaks_other speaks
          · exact ih.2.1 ⟨other, later, speaks_other⟩
        · intro silent
          exact ih.2.2 fun other other_mem => silent other (List.mem_cons_of_mem _ other_mem)

/-- The wordings go into texts, and one of them cannot be encoded. -/
def Garbled (config : Config) (words : Wordings) : Prop :=
  ∃ wording ∈ words.used (Formatter.ofConfig (words.shownIn config)).1, wording.isText = false

/-- The rules of a configuration are the usual ones, or those without texts. -/
theorem worded_cases (config : Config) (words : Wordings) (filter : Filter)
    (machine : SinkMachine State) :
    (¬Garbled config words ∧ (worded config words filter machine).1.machine = machine) ∨
      (Garbled config words ∧ ∃ rules : Rules State, ∃ formatter,
        (worded config words filter machine).1 = rules.mute formatter) := by
  by_cases texts : (words.used (Formatter.ofConfig (words.shownIn config)).1).all Wording.isText = true
  · left
    refine ⟨?_, by simp only [worded, texts, if_true]⟩
    rintro ⟨wording, used, not_text⟩
    rw [List.all_eq_true.mp texts wording used] at not_text
    cases not_text
  · right
    have garbled : Garbled config words := by
      simpa [Garbled] using texts
    exact ⟨garbled, _, _, by simp only [worded, texts, if_false, Bool.false_eq_true]; rfl⟩

end Rules

/-! ## A delivery to a sink -/

namespace Sink

/-- A sink at its beginning, whose calls fail by the operating system only. -/
inductive Begins : State → Prop where
  | standard (sink : StandardSink) {disk : Disk} (tame : disk.trouble.Tame) :
      Begins (.standard sink, disk)
  | file (path : String) (rotateSize : Int) {disk : Disk} (tame : disk.trouble.Tame) :
      Begins (.file (.closed path rotateSize), disk)
  | network (options : LinkOptions) {trouble : LinkTrouble} {disk : Disk} (tame : trouble.Tame)
      (tame_disk : disk.trouble.Tame) : Begins (.network (Link.idle options trouble).start, disk)

/-- The rules of a configuration in some wordings for a sink. -/
def rules (config : Config) (words : Wordings) (filter : Filter) : Rules State :=
  (Rules.worded config words filter machine).1

theorem Begins.tame {state : State} (begins : Begins state) : Tame state := by
  cases begins with
  | standard sink tame => exact tame
  | file path rotateSize tame =>
      exact ⟨tame, by simp [FileSink.closed, FileSink.isConnected]⟩
  | network options tame tame_disk => exact ⟨tame_disk, Link.idle_start_sound options tame⟩

end Sink

namespace Delivery

/-- What becomes of a delivery that is fed, stopped and ended, while things happen to its sink. -/
inductive Lives (rules : Rules Sink.State) : Delivery Sink.State → Prop where
  | start {sink : Sink.State} (begins : Sink.Begins sink) : Lives rules (.start sink)
  | called {delivery : Delivery Sink.State} (lives : Lives rules delivery) (call : Call) :
      Lives rules (delivery.perform rules call).delivery
  | changed {delivery : Delivery Sink.State} {sink : Sink.State} (lives : Lives rules delivery)
      (changes : Sink.Changes delivery.sink sink) : Lives rules { delivery with sink := sink }

theorem sink_stop {State : Type} (delivery : Delivery State) (failure : Option Failure) :
    (delivery.stop failure).sink = delivery.sink := by
  rw [stop]
  split <;> rfl

variable {rules : Rules Sink.State} {delivery : Delivery Sink.State}

theorem perform_tame
    (keeps : ∀ sink records, Sink.Tame sink → Sink.Tame (rules.deliverAll sink records).state)
    (tame : Sink.Tame delivery.sink) (call : Call) :
    Sink.Tame (delivery.perform rules call).delivery.sink := by
  cases call with
  | feed chunk =>
      cases finished : delivery.finished with
      | true =>
          simp only [perform, feed, finished, if_true]
          exact tame
      | false =>
          rw [perform, (feed_follows rules finished chunk).sink]
          exact keeps _ _ tame
  | stop failure =>
      rw [perform, sink_stop]
      exact tame
  | endStream =>
      rw [perform, endStream, sink_stop]
      exact tame

theorem Lives.tame
    (keeps : ∀ sink records, Sink.Tame sink → Sink.Tame (rules.deliverAll sink records).state)
    (lives : Lives rules delivery) : Sink.Tame delivery.sink := by
  induction lives with
  | start begins => exact begins.tame
  | called lives call ih => exact perform_tame keeps ih call
  | changed lives changes ih => exact changes.tame ih

theorem escaped?_of_contained {State : Type} {kind : State → Prop} {taken : SinkStep State Unit}
    (contained : taken.Contained kind) : taken.escaped? = none := by
  rw [SinkStep.escaped?]
  split
  · rename_i fault escapes
    exact absurd escapes (contained.2 fault)
  · rfl

theorem write_rules_contained {config : Config} {words : Wordings} {filter : Filter}
    (machine : (Sink.rules config words filter).machine = Sink.machine) (sink : Sink.State)
    (text : String) (tame : Sink.Tame sink) :
    ((Sink.rules config words filter).machine.write sink text).Contained Sink.Tame := by
  rw [machine]
  exact Sink.write_contained tame text

theorem rules_keep (config : Config) (words : Wordings) (filter : Filter) (sink : Sink.State)
    (records : List (Option Event)) (tame : Sink.Tame sink) :
    Sink.Tame ((Sink.rules config words filter).deliverAll sink records).state := by
  rcases Rules.worded_cases config words filter Sink.machine with
    ⟨-, machine⟩ | ⟨-, rules, formatter, mute⟩
  · exact (Rules.deliverAll_contained (write_rules_contained machine) tame records).1
  · rw [Sink.rules, mute, (Rules.deliverAll_mute rules formatter sink records).1]
    exact tame

/-- What feeding a piece comes to. -/
structure Feeds (config : Config) (words : Wordings) (filter : Filter)
    (delivery : Delivery Sink.State) (chunk : List UInt8) : Prop where
  /-- Nothing escapes, unless a wording that goes into texts cannot be encoded: then the first record
  that comes to a text breaks off. -/
  escapes : ∀ fault, (delivery.feed (Sink.rules config words filter) chunk).escaped = some fault ↔
    fault = .unencodable ∧ Rules.Garbled config words ∧ delivery.finished = false ∧
      ∃ record ∈ records (delivery.decoder.buffer ++ chunk),
        (Sink.rules config words filter).Speaks delivery.sink record
  /-- A finished delivery takes no more. -/
  rests : delivery.finished = true →
    (delivery.feed (Sink.rules config words filter) chunk).delivery = delivery
  /-- Only a sink that cannot be opened finishes the delivery. -/
  finishes : delivery.finished = false →
    (delivery.feed (Sink.rules config words filter) chunk).delivery.finished = true →
    ∃ fault, (delivery.feed (Sink.rules config words filter) chunk).delivery.failure =
      some (.unopened fault)

theorem feeds_of_finished {config : Config} {words : Wordings} {filter : Filter}
    (finished : delivery.finished = true) (chunk : List UInt8) :
    Feeds config words filter delivery chunk := by
  have idle : delivery.feed (Sink.rules config words filter) chunk = ⟨delivery, none, []⟩ := by
    rw [feed, if_pos finished]
  constructor
  · rw [idle]
    simp [finished]
  · rw [idle]
    simp
  · simp [finished]

/-- Whatever has become of a delivery and its sink, and whatever is fed to it, only a wording that
cannot be encoded makes a failure escape from it. -/
theorem Lives.feeds {config : Config} {words : Wordings} {filter : Filter}
    (lives : Lives (Sink.rules config words filter) delivery) (chunk : List UInt8) :
    Feeds config words filter delivery chunk := by
  have tame := lives.tame (rules_keep config words filter)
  cases finished : delivery.finished with
  | true => exact feeds_of_finished finished chunk
  | false =>
      have follows := feed_follows (Sink.rules config words filter) finished chunk
      refine ⟨?_, by simp [finished], ?_⟩
      · intro fault
        rw [follows.escaped]
        rcases Rules.worded_cases config words filter Sink.machine with
          ⟨readable, machine⟩ | ⟨garbled, rules, formatter, mute⟩
        · have contained := Rules.deliverAll_contained (write_rules_contained machine) tame
            (records (delivery.decoder.buffer ++ chunk))
          rw [escaped?_of_contained contained]
          constructor
          · simp
          · rintro ⟨-, garbled, -⟩
            exact absurd garbled readable
        · rw [Sink.rules, mute]
          rcases Rules.deliverAll_mute rules formatter delivery.sink
            (records (delivery.decoder.buffer ++ chunk)) with ⟨-, speaking, silent⟩
          by_cases speaks : ∃ record ∈ records (delivery.decoder.buffer ++ chunk),
              (rules.mute formatter).Speaks delivery.sink record
          · rw [SinkStep.escaped?, speaking speaks]
            constructor
            · intro same
              exact ⟨(Option.some.inj same).symm, garbled, finished, speaks⟩
            · rintro ⟨rfl, -⟩
              rfl
          · have quiet : ∀ record ∈ records (delivery.decoder.buffer ++ chunk),
                ¬(rules.mute formatter).Speaks delivery.sink record := by
              intro record record_mem speaks_record
              exact speaks ⟨record, record_mem, speaks_record⟩
            rw [SinkStep.escaped?, silent quiet]
            constructor
            · simp
            · rintro ⟨-, -, -, speaks_now⟩
              exact absurd speaks_now speaks
      · intro _ is_finished
        rw [follows.finished] at is_finished
        rcases Option.isSome_iff_exists.mp is_finished with ⟨fault, unopened⟩
        rw [follows.failure, unopened]
        exact ⟨fault, rfl⟩

/-- A configuration for the network. -/
def remoteConfig : Config := { remoteHost := some "log.example", remotePort := some 514 }

/-- A host name with a byte that could not be decoded. -/
def halfHostname : Wordings := ⟨some [.char 'a', .half 0x4FF], none, none⟩

/-- A link that has just got its socket. -/
def heldLink : Link :=
  ((Link.idle (Sink.linkOptions remoteConfig "log.example" 514) .none).start.step
    (.fire (.finds [none]))).state

theorem feeds_halfHostname :
    let rules := Sink.rules remoteConfig halfHostname .unrestricted
    let delivery : Delivery Sink.State := .start (.network heldLink, .empty)
    Lives rules delivery ∧ Feeds remoteConfig halfHostname .unrestricted delivery
        ([0, 0, 0, 114] ++ Event.repeatedId) ∧
      (delivery.feed rules ([0, 0, 0, 114] ++ Event.repeatedId)).escaped = some .unencodable := by
  intro rules delivery
  have begins : Sink.Begins (.network (Link.idle (Sink.linkOptions remoteConfig "log.example" 514)
      .none).start, .empty) := by
    refine .network _ ?_ Trouble.tame_none
    constructor <;> simp [LinkTrouble.none]
  have lives : Lives rules delivery := by
    refine (Lives.start begins).changed (.happened (.fire (.finds [none])) ?_)
    simp [LinkEvent.Tame, Attempt.Tame]
  have feeds := lives.feeds ([0, 0, 0, 114] ++ Event.repeatedId)
  refine ⟨lives, feeds, ?_⟩
  apply (feeds.escapes .unencodable).mpr
  have garbled : Rules.Garbled remoteConfig halfHostname :=
    ⟨[.char 'a', .half 0x4FF], by decide, by decide⟩
  have arrived : records ([] ++ ([0, 0, 0, 114] ++ Event.repeatedId)) =
      [some ⟨"a", 9, 14, 1, 1000⟩] := by
    decide +kernel
  have stamped : (rules.render ⟨"a", 9, 14, 1, 1000⟩).toOption = some "" := by
    decide +kernel
  refine ⟨rfl, garbled, rfl, _, ?_, rfl, ⟨"a", 9, 14, 1, 1000⟩, "", rfl, rfl, ?_⟩
  · exact arrived ▸ List.mem_singleton.mpr rfl
  · exact Fallible.toOption_eq_some.mp stamped

end Delivery

end LogRelay
