import LogRelay.Proofs.Render.Capacity

/-!
# What is cut from a text

A formatter first puts a whole text together and then makes it fit. A line keeps the longest prefix that
leaves a byte for the line end, and a line of the system log the longest prefix that fits. A filled
template fits already, and so its line end takes the place of its last character exactly if the template
fills the buffer (`render_cuts`).
-/

namespace LogRelay.Formatter

open Utf8

variable {event : Event} {full text : String}

/-- What has become of a text after one more step, which cannot fail: a text that has something to do
with the earlier one, or the same fault. -/
def Becomes (earlier later : Except RenderFault String) (related : String → String → Prop) : Prop :=
  match earlier, later with
  | .ok full, .ok text => related full text
  | .error fault, .error same => same = fault
  | _, _ => False

theorem becomes_map {earlier : Except RenderFault String} {related : String → String → Prop}
    {step : String → String} (holds : ∀ full, earlier = .ok full → related full (step full)) :
    Becomes earlier (earlier.map step) related := by
  cases earlier with
  | error fault => rfl
  | ok full => exact holds full rfl

/-- A line that is cut where there is no room left, with one byte spared for the line end. -/
def IsCutLine (full text : String) : Prop :=
  ∃ cut, IsLongest 510 full cut ∧ text = cut ++ "\n"

/-- A text with a line end behind it, or in the place of its last character where it fills the
buffer. -/
def IsEndedLine (full text : String) : Prop :=
  full.utf8ByteSize ≤ 510 ∧ text = full ++ "\n" ∨
    full.utf8ByteSize = 511 ∧ ∃ front last, full = front.push last ∧ text = front ++ "\n"

theorem isCutLine_truncate (full : String) :
    IsCutLine full (truncate full (renderLimit - 1) ++ "\n") :=
  ⟨_, isLongest_truncate full 510, rfl⟩

/-- Where a text exceeds the room by a byte, its last character is cut off, whatever its width. -/
theorem isLongest_front {front : String} {last : Char} {limit : Nat}
    (exceeds : (front.push last).utf8ByteSize = limit + 1) :
    IsLongest limit (front.push last) front := by
  have width := last.utf8Size_pos
  have sizes : (front.push last).utf8ByteSize = front.utf8ByteSize + last.utf8Size :=
    String.utf8ByteSize_push
  refine ⟨?_, by omega, .inr ⟨last, List.prefix_rfl, by omega⟩⟩
  rw [String.toList_push]
  exact List.prefix_append ..

theorem isEndedLine_withNewline (fits : size full ≤ renderLimit) :
    IsEndedLine full (withNewline full) := by
  rw [withNewline]
  rw [size_eq_utf8ByteSize, renderLimit] at *
  split
  case isFalse short => exact .inl ⟨by omega, rfl⟩
  case isTrue fills =>
    have filled : full.utf8ByteSize = 511 := by omega
    refine .inr ⟨filled, ?_⟩
    rcases List.eq_nil_or_concat full.toList with empty | ⟨front, last, shape⟩
    · rw [String.toList_eq_nil_iff] at empty
      rw [empty] at filled
      cases filled
    have pushed : full = (String.ofList front).push last := by
      rw [← String.toList_inj, shape, String.toList_push, String.toList_ofList]
      simp
    refine ⟨String.ofList front, last, pushed, ?_⟩
    congr 1
    rw [pushed] at filled ⊢
    exact (isLongest_truncate _ 510).unique (isLongest_front filled)

/-- A cut gives the longest prefix of a text for which there is room. A line is the longest prefix of
510 bytes and a line end, a line of the system log the longest prefix of 511 bytes, and a filled
template is ended by a line end behind it or in the place of its last character. The lines of an event
that a record can hold are made in any case, and where a text cannot be put together, the fault is the
same after it. -/
theorem render_cuts (event : Event) :
    (∀ (text : String) (limit : Nat), IsLongest limit text (truncate text limit)) ∧
    (∀ timestamp, Becomes (fullLine timestamp event) ((line timestamp).render event) IsCutLine) ∧
    (∀ timestamp hostname prefixText,
      Becomes (fullSyslog timestamp hostname prefixText event)
        ((syslog timestamp hostname prefixText).render event) (IsLongest 511)) ∧
    (∀ template, Becomes (fillTemplate (.ofText template) event)
      ((Formatter.template (.ofText template) true).render event) IsEndedLine) ∧
    (event.Fits → (∀ timestamp, ∃ full, fullLine timestamp event = .ok full) ∧
      ∀ timestamp hostname prefixText,
        ∃ full, fullSyslog timestamp hostname prefixText event = .ok full) := by
  refine ⟨isLongest_truncate, ?_, ?_, ?_, ?_⟩
  · intro timestamp
    apply becomes_map
    intro full _
    exact isCutLine_truncate full
  · intro timestamp hostname prefixText
    apply becomes_map
    intro full _
    exact isLongest_truncate full 511
  · intro template
    apply becomes_map
    intro full filled
    exact isEndedLine_withNewline (size_le_of_fillTemplate filled)
  · intro fits
    exact ⟨exists_fullLine fits, exists_fullSyslog fits⟩

end LogRelay.Formatter
