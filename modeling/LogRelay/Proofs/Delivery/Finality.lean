import LogRelay.Proofs.Delivery.Records
import Mathlib.Data.List.Induction

/-!
# A finished delivery

The first call that finishes a delivery decides what it ends with, and it is the last call that changes
anything. Records that are still in the buffer stay there, even whole ones, which is what happens when
the sink cannot be opened for a record in the middle of a piece.

Between the calls the sink may become another by itself, as a link does when its timer fires. It is the
only part of a finished delivery that still changes, and no call has a hand in it. A call from which a
failure escapes is a call like any other here: the delivery goes on from where it was left.

A finished delivery is left alone by a single call (`perform_of_finished`) and hence by all that happens
to it (`meetAll_rests`). An unfinished one is finished by exactly the calls that `Finishes` names
(`perform_finishes`), and the first of them is found by induction over what happens.
-/

namespace LogRelay

open LogRelay.Stream

theorem SinkStep.unopened?_eq_some_iff {State Result : Type} {step : SinkStep State Result}
    {fault : OpenFault} :
    step.unopened? = some fault ↔ step.result = .error (.unopened fault) := by
  rcases step with ⟨state, (opening | failure) | result, journal, bumps⟩ <;> simp [unopened?]

namespace Delivery

variable {State : Type}

/-- What happens to a delivery: its owner calls it, or its sink becomes another by itself. -/
inductive Incident (State : Type) where
  | called (call : Call)
  | changed (sink : State)

/-- What the sink becomes by itself. -/
def Incident.sink? : Incident State → Option State
  | called _ => none
  | changed sink => some sink

/-- The delivery after an incident. -/
def meet (rules : Rules State) (delivery : Delivery (State × List String)) :
    Incident State → Delivery (State × List String)
  | .called call => (delivery.perform rules.recording call).delivery
  | .changed sink => { delivery with sink := (sink, delivery.sink.2) }

/-- The delivery after incidents in their order. -/
def meetAll (rules : Rules State) (delivery : Delivery (State × List String))
    (incidents : List (Incident State)) : Delivery (State × List String) :=
  incidents.foldl (meet rules) delivery

/-- A call finishes an unfinished delivery, with a failure or without one: the owner or the end of the
stream does, or one of the records that are complete by then finds that the sink cannot be opened. -/
inductive Finishes (rules : Rules State) (delivery : Delivery (State × List String)) :
    Call → Option Failure → Prop where
  | feed {chunk : List UInt8} {fault : OpenFault}
      (refuses : (rules.recording.deliverAll delivery.sink
        (records (delivery.decoder.buffer ++ chunk))).result = .error (.unopened fault)) :
      Finishes rules delivery (.feed chunk) (some (.unopened fault))
  | stop (failure : Option Failure) : Finishes rules delivery (.stop failure) failure
  | endStream : Finishes rules delivery .endStream none

/-- A delivery that was finished with a failure or without one has been left alone since. -/
structure Rests (failure : Option Failure) (before : Delivery (State × List String))
    (incidents : List (Incident State)) (after : Delivery (State × List String)) : Prop where
  finished : after.finished = true
  failure : after.failure = failure
  stats : after.stats = before.stats
  decoder : after.decoder = before.decoder
  /-- No text has been given to the sink. -/
  texts : after.sink.2 = before.sink.2
  /-- The sink is what it has become by itself. -/
  sink : after.sink.1 = (incidents.filterMap Incident.sink?).getLast?.getD before.sink.1

variable {rules : Rules State} {delivery : Delivery (State × List String)}

theorem meetAll_append (earlier later : List (Incident State)) :
    meetAll rules delivery (earlier ++ later) =
      meetAll rules (meetAll rules delivery earlier) later :=
  List.foldl_append

theorem meetAll_concat (incidents : List (Incident State)) (incident : Incident State) :
    meetAll rules delivery (incidents ++ [incident]) =
      (meetAll rules delivery incidents).meet rules incident := by
  rw [meetAll_append]
  rfl

/-! ## After the end -/

theorem perform_of_finished {delivery : Delivery State} (rules : Rules State)
    (finished : delivery.finished = true) (call : Call) :
    (delivery.perform rules call).delivery = delivery := by
  cases call with
  | feed chunk => rw [perform, feed, if_pos finished]
  | stop failure => rw [perform, stop, if_pos finished]
  | endStream => rw [perform, endStream, stop, if_pos finished]

/-- Whatever happens to a finished delivery, it rests. -/
theorem meetAll_rests (finished : delivery.finished = true) (incidents : List (Incident State)) :
    Rests delivery.failure delivery incidents (meetAll rules delivery incidents) := by
  induction incidents using List.reverseRecOn with
  | nil => exact ⟨finished, rfl, rfl, rfl, rfl, rfl⟩
  | append_singleton incidents incident ih =>
      rw [meetAll_concat]
      rcases ih with ⟨finished, failure, stats, decoder, texts, sink⟩
      cases incident with
      | called call =>
          rw [meet, perform_of_finished _ finished]
          refine ⟨finished, failure, stats, decoder, texts, ?_⟩
          simpa [Incident.sink?] using sink
      | changed sink =>
          refine ⟨finished, failure, stats, decoder, texts, ?_⟩
          simp [meet, Incident.sink?]

/-! ## Up to the end -/

/-- A call is one of those that finish a delivery and finishes it with their failure, or it is none of
them and does not. -/
theorem perform_finishes (rules : Rules State) (unfinished : delivery.finished = false) (call : Call) :
    (∃ failure, Finishes rules delivery call failure ∧
      (delivery.perform rules.recording call).delivery.finished = true ∧
      (delivery.perform rules.recording call).delivery.failure = failure) ∨
    ((∀ failure, ¬Finishes rules delivery call failure) ∧
      (delivery.perform rules.recording call).delivery.finished = false) := by
  cases call with
  | feed chunk =>
      have follows := feed_follows rules.recording unfinished chunk
      cases opening : (rules.recording.deliverAll delivery.sink
        (records (delivery.decoder.buffer ++ chunk))).unopened? with
      | some fault =>
          left
          refine ⟨some (.unopened fault), .feed (SinkStep.unopened?_eq_some_iff.mp opening), ?_, ?_⟩
          · rw [perform, follows.finished, opening]
            rfl
          · rw [perform, follows.failure, opening]
      | none =>
          right
          constructor
          · rintro failure ⟨refuses⟩
            rw [SinkStep.unopened?_eq_some_iff.mpr refuses] at opening
            cases opening
          · rw [perform, follows.finished, opening]
            rfl
  | stop failure =>
      left
      refine ⟨failure, .stop failure, ?_⟩
      simp [perform, stop, unfinished]
  | endStream =>
      left
      refine ⟨none, .endStream, ?_⟩
      simp [perform, endStream, stop, unfinished]

/-- Finishing is final. Either no call so far has been one that finishes the delivery, and then it is
not finished. Or one was the first, and whatever happens after it, the delivery is finished with the
failure of that call or without one, its counts and its buffer stay, and no text is given to the sink,
which becomes nothing but what it becomes by itself. -/
theorem finishing_final (rules : Rules State) (unfinished : delivery.finished = false)
    (incidents : List (Incident State)) :
    ((meetAll rules delivery incidents).finished = false ∧
      ∀ earlier call failure, earlier ++ [.called call] <+: incidents →
        ¬Finishes rules (meetAll rules delivery earlier) call failure) ∨
    ∃ earlier call failure, earlier ++ [.called call] <+: incidents ∧
      (meetAll rules delivery earlier).finished = false ∧
      Finishes rules (meetAll rules delivery earlier) call failure ∧
      ∀ later, Rests failure (meetAll rules delivery (earlier ++ [.called call])) later
        (meetAll rules delivery (earlier ++ .called call :: later)) := by
  induction incidents using List.reverseRecOn with
  | nil =>
      left
      refine ⟨unfinished, ?_⟩
      intro earlier call failure begins
      simp at begins
  | append_singleton incidents incident ih =>
      rcases ih with ⟨goes_on, none_finishes⟩ | ⟨earlier, call, failure, begins, first⟩
      · cases incident with
        | changed sink =>
            left
            rw [meetAll_concat]
            refine ⟨goes_on, ?_⟩
            intro earlier call failure begins
            rcases List.prefix_concat_iff.mp begins with same | before
            · simp at same
            · exact none_finishes earlier call failure before
        | called call =>
            have reached : meetAll rules delivery (incidents ++ [.called call]) =
                ((meetAll rules delivery incidents).perform rules.recording call).delivery :=
              meetAll_concat ..
            rcases perform_finishes rules goes_on call with
              ⟨failure, finishes, finished, fails⟩ | ⟨finishes_not, goes_on_then⟩
            · right
              refine ⟨incidents, call, failure, List.prefix_rfl, goes_on, finishes, ?_⟩
              intro later
              rw [← reached] at finished fails
              have onwards : meetAll rules delivery (incidents ++ .called call :: later) =
                  meetAll rules (meetAll rules delivery (incidents ++ [.called call])) later := by
                rw [List.append_cons]
                exact meetAll_append ..
              rw [onwards, ← fails]
              exact meetAll_rests finished later
            · left
              rw [reached]
              refine ⟨goes_on_then, ?_⟩
              intro earlier other failure begins
              rcases List.prefix_concat_iff.mp begins with same | before
              · rcases List.append_inj' same rfl with ⟨rfl, last⟩
                cases last
                exact finishes_not failure
              · exact none_finishes earlier other failure before
      · right
        exact ⟨earlier, call, failure, begins.trans (List.prefix_append ..), first⟩

/-- A piece of three records for a sink that takes one text only. -/
def threeRecords : List (Incident Bool) :=
  let record := [0, 0, 0, 114] ++ Event.repeatedId
  [.called (.feed (record ++ record ++ record))]

theorem finishing_final_threeRecords :
    (start (false, []) : Delivery (Bool × List String)).finished = false ∧
      let refused := meetAll plainRules (start (false, [])) threeRecords
      refused.decoder.buffer = [0, 0, 0, 114] ++ Event.repeatedId ∧ refused.sink.2 = ["a", "a"] ∧
        ∀ later, Rests (some (.unopened ⟨13, "Permission denied"⟩)) refused later
          (meetAll plainRules (start (false, [])) (threeRecords ++ later)) := by
  have unfinished : (start (false, []) : Delivery (Bool × List String)).finished = false := rfl
  refine ⟨unfinished, ?_⟩
  intro refused
  have finished : refused.finished = true := by decide +kernel
  have fails : refused.failure = some (.unopened ⟨13, "Permission denied"⟩) := by decide +kernel
  refine ⟨by decide +kernel, by decide +kernel, ?_⟩
  rcases finishing_final plainRules unfinished threeRecords with
    ⟨goes_on, -⟩ | ⟨earlier, call, failure, begins, -, -, rests⟩
  · exact absurd (finished.symm.trans goes_on) (by decide)
  · have first : earlier = [] := by
      have short := begins.length_le
      simp only [threeRecords, List.length_append, List.length_singleton] at short
      exact List.eq_nil_of_length_eq_zero (by omega)
    subst first
    cases begins.eq_of_length rfl
    cases (rests []).failure.symm.trans fails
    exact rests

end Delivery

end LogRelay
