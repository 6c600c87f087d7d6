import LogRelay.Proofs.Render.Scan
import Mathlib.Data.List.Chain

/-!
# The segments of a template

A walk through a text takes at each place the placeholder that stands there, and one character if none
does. No choice is left to it (`Walk.unique`), and with neighbouring characters merged it gives segments
that make up the text, with literal text wherever no placeholder can begin and nowhere else
(`Walk.isTokenised`).

These segments are the only ones of that kind, and they are what the scan gives: the scan of a text is
determined by its first segment and the text behind it (`IsTokenised.eq_scan`). So the scan, which looks
for the leftmost placeholder again and again, comes to the same as the walk.

Every round of the scan drops a whole placeholder, and the shortest one has eight characters, so no scan
has more rounds than an eighth of its text has characters (`Rounds.bounded`).
-/

namespace LogRelay

/-- Whether a segment is literal text. -/
def Segment.isLiteral : Segment → Bool
  | literal _ => true
  | field _ => false

namespace Template

/-! ## Walking through a text -/

/-- What a walk takes at a place. -/
inductive Piece where
  | char (char : Char)
  | field (field : Field)

/-- A walk through a text from its left end takes these pieces. -/
inductive Walk : List Char → List Piece → Prop where
  | done : Walk [] []
  | field {text rest : List Char} {pieces : List Piece} {field : Field}
      (stands : field.placeholder.toList ++ rest = text) (walk : Walk rest pieces) :
      Walk text (.field field :: pieces)
  | char {char : Char} {rest : List Char} {pieces : List Piece}
      (nothing : ∀ field : Field, ¬field.placeholder.toList <+: char :: rest)
      (walk : Walk rest pieces) : Walk (char :: rest) (.char char :: pieces)

/-- Puts a character in front of segments, into the first one if that is literal text. -/
def prepend (char : Char) : List Segment → List Segment
  | .literal written :: segments => .literal (String.singleton char ++ written) :: segments
  | segments => .literal (String.singleton char) :: segments

/-- The segments that pieces make up, with neighbouring characters merged. -/
def merge : List Piece → List Segment
  | [] => []
  | .field field :: pieces => .field field :: merge pieces
  | .char char :: pieces => prepend char (merge pieces)

theorem Walk.unique {text : List Char} {pieces others : List Piece} (walk : Walk text pieces)
    (other : Walk text others) : others = pieces := by
  induction walk generalizing others with
  | done =>
      cases other with
      | done => rfl
      | field stands _ => exact absurd (List.append_eq_nil_iff.mp stands).1 (Field.placeholder_ne_nil _)
  | field stands walk ih =>
      cases other with
      | done => exact absurd (List.append_eq_nil_iff.mp stands).1 (Field.placeholder_ne_nil _)
      | field also_stands also_walk =>
          obtain rfl := Field.eq_of_isPrefix ⟨_, stands⟩ ⟨_, also_stands⟩
          obtain rfl := List.append_cancel_left (also_stands.trans stands.symm)
          rw [ih also_walk]
      | char nothing _ => exact absurd ⟨_, stands⟩ (nothing _)
  | char nothing walk ih =>
      cases other with
      | field stands _ => exact absurd ⟨_, stands⟩ (nothing _)
      | char _ also_walk => rw [ih also_walk]

theorem exists_walk (text : List Char) : ∃ pieces, Walk text pieces := by
  induction measured : text.length using Nat.strongRecOn generalizing text with
  | ind size ih =>
      by_cases begins : ∃ field : Field, field.placeholder.toList <+: text
      · rcases begins with ⟨field, rest, stands⟩
        have shorter : rest.length < size := by
          have length_pos := field.length_placeholder_pos
          rw [← measured, ← stands, List.length_append, String.length_toList]
          omega
        rcases ih rest.length shorter rest rfl with ⟨pieces, walk⟩
        exact ⟨.field field :: pieces, .field stands walk⟩
      · rcases text with _ | ⟨char, rest⟩
        · exact ⟨[], .done⟩
        · rcases ih rest.length (by simp [← measured]) rest rfl with ⟨pieces, walk⟩
          exact ⟨.char char :: pieces, .char (not_exists.mp begins) walk⟩

/-! ## Tokenisations of a text -/

/-- Literal text stands over a place of the text that segments make up. -/
def Covers : List Segment → Nat → Prop
  | [], _ => False
  | segment :: segments, place =>
      place < segment.text.length ∧ segment.isLiteral = true ∨
        segment.text.length ≤ place ∧ Covers segments (place - segment.text.length)

/-- The segments make up the text. Literal parts are not empty and not side by side, and no placeholder
of the text begins inside one. -/
structure IsTokenised (text : List Char) (segments : List Segment) : Prop where
  lossless : segments.flatMap (·.text.toList) = text
  nonempty : .literal "" ∉ segments
  apart : segments.IsChain fun left right => ¬(left.isLiteral = true ∧ right.isLiteral = true)
  uncovered : ∀ place, Covers segments place →
    ∀ field : Field, ¬field.placeholder.toList <+: text.drop place

variable {text : List Char} {segment : Segment} {segments : List Segment} {char : Char}

theorem covers_prepend_succ (place : Nat) :
    Covers (prepend char segments) (place + 1) ↔ Covers segments place := by
  rcases segments with _ | ⟨written | field, segments⟩
  · simp [prepend, Covers, Segment.text]
  · simp only [prepend, Covers, Segment.text, Segment.isLiteral, String.length_append,
      String.length_singleton, Nat.add_comm 1, Nat.add_lt_add_iff_right, Nat.add_le_add_iff_right,
      Nat.add_sub_add_right]
  · simp [prepend, Covers, Segment.text]

theorem isTokenised_nil : IsTokenised [] [] where
  lossless := rfl
  nonempty := List.not_mem_nil
  apart := List.isChain_nil
  uncovered := fun _ covered => covered.elim

namespace IsTokenised

theorem field {field : Field} (tokenised : IsTokenised text segments) :
    IsTokenised (field.placeholder.toList ++ text) (.field field :: segments) where
  lossless := by
    rw [List.flatMap_cons, tokenised.lossless]
    rfl
  nonempty := by simpa using tokenised.nonempty
  apart := by
    refine List.IsChain.cons tokenised.apart ?_
    rintro _ - ⟨literal, -⟩
    cases literal
  uncovered := by
    rintro place (⟨-, literal⟩ | ⟨behind, covered⟩) other
    · cases literal
    · rcases Nat.exists_eq_add_of_le behind with ⟨offset, rfl⟩
      rw [Nat.add_sub_cancel_left] at covered
      rw [Segment.text, ← String.length_toList, List.drop_length_add_append]
      exact tokenised.uncovered offset covered other

/-- A character at which no placeholder begins goes with the literal text behind it. -/
theorem prepend (tokenised : IsTokenised text segments)
    (nothing : ∀ field : Field, ¬field.placeholder.toList <+: char :: text) :
    IsTokenised (char :: text) (prepend char segments) where
  lossless := by
    rw [← tokenised.lossless]
    rcases segments with _ | ⟨written | field, segments⟩ <;> simp [Template.prepend, Segment.text]
  nonempty := by
    have nonempty := tokenised.nonempty
    rcases segments with _ | ⟨written | field, segments⟩ <;> simp_all [Template.prepend]
  apart := by
    have apart := tokenised.apart
    rcases segments with _ | ⟨written | field, segments⟩
    · exact List.isChain_singleton _
    · simpa [Template.prepend, List.isChain_cons, Segment.isLiteral] using apart
    · refine List.isChain_cons_cons.mpr ⟨?_, apart⟩
      rintro ⟨-, literal⟩
      cases literal
  uncovered := by
    rintro (_ | place) covered
    · exact nothing
    · exact tokenised.uncovered place ((covers_prepend_succ place).mp covered)

theorem tail (tokenised : IsTokenised text (segment :: segments)) :
    ∃ rest, text = segment.text.toList ++ rest ∧ IsTokenised rest segments := by
  rcases tokenised with ⟨lossless, nonempty, apart, uncovered⟩
  rw [List.flatMap_cons] at lossless
  refine ⟨_, lossless.symm, rfl, ?_, apart.tail, ?_⟩
  · exact fun empty => nonempty (List.mem_cons_of_mem _ empty)
  · intro place covered other stands
    apply uncovered (segment.text.length + place) (.inr ⟨Nat.le_add_right .., ?_⟩) other
    · rwa [← lossless, ← String.length_toList, List.drop_length_add_append]
    · rwa [Nat.add_sub_cancel_left]

end IsTokenised

theorem Walk.isTokenised {pieces : List Piece} (walk : Walk text pieces) :
    IsTokenised text (merge pieces) := by
  induction walk with
  | done => exact isTokenised_nil
  | field stands _ ih =>
      rw [← stands]
      exact ih.field
  | char nothing _ ih => exact ih.prepend nothing

/-! ## The scan gives the only tokenisation -/

theorem scan_nil : scan [] = [] := by
  rw [scan_of_none]
  · rfl
  · intro place field begins
    rw [List.drop_nil, List.prefix_nil] at begins
    exact field.placeholder_ne_nil begins

theorem scan_placeholder (field : Field) (rest : List Char) :
    scan (field.placeholder.toList ++ rest) = .field field :: scan rest := by
  have scanned : scan ([] ++ field.placeholder.toList ++ rest) =
      withLiteral [] (.field field :: scan rest) := scan_of_leftmost (by simp)
  exact scanned

/-- Literal text that no placeholder begins in ends with the text or where a placeholder stands. -/
theorem scan_literal {written rest : List Char} (nonempty : written ≠ [])
    (clear : ∀ place < written.length, ∀ field : Field,
      ¬field.placeholder.toList <+: (written ++ rest).drop place)
    (ended : rest = [] ∨ ∃ field : Field, field.placeholder.toList <+: rest) :
    scan (written ++ rest) = .literal (String.ofList written) :: scan rest := by
  have literal : ∀ segments,
      withLiteral written segments = .literal (String.ofList written) :: segments := by
    intro segments
    rw [withLiteral, if_neg (by simpa using nonempty)]
  rcases ended with rfl | ⟨field, behind, rfl⟩
  · rw [scan_nil, ← literal, List.append_nil]
    apply scan_of_none
    intro place field stands
    rw [List.append_nil] at clear
    rcases Nat.lt_or_ge place written.length with inside | outside
    · exact clear place inside field stands
    · rw [List.drop_eq_nil_of_le outside, List.prefix_nil] at stands
      exact field.placeholder_ne_nil stands
  · rw [← List.append_assoc] at clear ⊢
    rw [scan_of_leftmost clear, literal, scan_placeholder]

theorem IsTokenised.eq_scan (tokenised : IsTokenised text segments) : segments = scan text := by
  induction segments generalizing text with
  | nil =>
      rw [← tokenised.lossless]
      exact scan_nil.symm
  | cons segment segments ih =>
      rcases tokenised.tail with ⟨rest, rfl, tokenised_rest⟩
      have scanned := ih tokenised_rest
      cases segment with
      | field field => exact scanned ▸ (scan_placeholder field rest).symm
      | literal written =>
          have nonempty : written.toList ≠ [] := by
            intro empty
            rw [String.toList_eq_nil_iff] at empty
            exact tokenised.nonempty (empty ▸ List.mem_cons_self)
          have ended : rest = [] ∨ ∃ field : Field, field.placeholder.toList <+: rest := by
            rcases segments with _ | ⟨next | field, segments⟩
            · exact .inl tokenised_rest.lossless.symm
            · exact absurd ⟨rfl, rfl⟩ (List.isChain_cons_cons.mp tokenised.apart).1
            · rcases tokenised_rest.tail with ⟨behind, shape, -⟩
              exact .inr ⟨field, behind, shape.symm⟩
          have clear : ∀ place < written.toList.length, ∀ field : Field,
              ¬field.placeholder.toList <+: (written.toList ++ rest).drop place := by
            intro place inside
            exact tokenised.uncovered place (.inl ⟨inside, rfl⟩)
          have whole := scan_literal nonempty clear ended
          rw [String.ofList_toList, ← scanned] at whole
          exact whole.symm

/-! ## The rounds of a scan -/

/-- So many rounds of the scan lead from a text to what is left of it. -/
inductive Rounds : Nat → List Char → List Char → Prop where
  | none {text : List Char} : Rounds 0 text text
  | more {count place : Nat} {field : Field} {text last : List Char}
      (found : Field.leftmost? text = some (place, field))
      (rounds : Rounds count (text.drop (place + field.placeholder.length)) last) :
      Rounds (count + 1) text last

/-- How many fields are among segments. -/
def fieldCount (segments : List Segment) : Nat := segments.countP fun segment => !segment.isLiteral

theorem fieldCount_withLiteral (literal : List Char) (segments : List Segment) :
    fieldCount (withLiteral literal segments) = fieldCount segments := by
  rw [withLiteral]
  split
  · rfl
  · exact List.countP_cons_of_neg (by simp [Segment.isLiteral])

theorem fieldCount_field (field : Field) (segments : List Segment) :
    fieldCount (.field field :: segments) = fieldCount segments + 1 :=
  List.countP_cons_of_pos rfl

theorem Rounds.bounded {count : Nat} {last : List Char} (rounds : Rounds count text last) :
    8 * count + last.length ≤ text.length := by
  induction rounds with
  | none => omega
  | @more count place field text last found _ ih =>
      have stands := (Field.leftmost?_eq_some_iff.mp found).1.length_le
      have shortest : 8 ≤ field.placeholder.length := by cases field <;> decide
      rw [String.length_toList, List.length_drop] at stands
      rw [List.length_drop] at ih
      omega

/-- The scan comes to an end, with one round for each field. -/
theorem exists_rounds (text : List Char) :
    ∃ last, Rounds (fieldCount (scan text)) text last ∧ Field.leftmost? last = none := by
  fun_induction scan text with
  | case1 text nothing =>
      rw [fieldCount_withLiteral]
      exact ⟨text, .none, nothing⟩
  | case2 text place field found ih =>
      rcases ih with ⟨last, rounds, nothing⟩
      rw [fieldCount_withLiteral, fieldCount_field]
      exact ⟨last, .more found rounds, nothing⟩

/-- The segments of a template are what a walk through its text takes, with neighbouring characters
merged, and they are the only segments that make up the text with literal parts that are not empty, not
side by side and free of beginnings of placeholders. The scan that gives them ends, after one round for
each field and thus at most an eighth as many as the text has characters, and no two placeholders stand
at one place. -/
theorem ofText_tokenises (text : String) :
    (∃ pieces, Walk text.toList pieces ∧ (∀ others, Walk text.toList others → others = pieces) ∧
      (ofText text).segments = merge pieces) ∧
    (∀ segments, IsTokenised text.toList segments ↔ segments = (ofText text).segments) ∧
    (∃ last, Rounds (fieldCount (ofText text).segments) text.toList last ∧
      Field.leftmost? last = none ∧ 8 * fieldCount (ofText text).segments ≤ text.length) ∧
    ∀ (place : Nat) (field other : Field), field.placeholder.toList <+: text.toList.drop place →
      other.placeholder.toList <+: text.toList.drop place → field = other := by
  rcases exists_walk text.toList with ⟨pieces, walk⟩
  have walked : merge pieces = scan text.toList := walk.isTokenised.eq_scan
  refine ⟨⟨pieces, walk, fun _ => walk.unique, walked.symm⟩, ?_, ?_, ?_⟩
  · intro segments
    constructor
    · exact IsTokenised.eq_scan
    · rintro rfl
      rw [ofText, ← walked]
      exact walk.isTokenised
  · rcases exists_rounds text.toList with ⟨last, rounds, nothing⟩
    have bounded := rounds.bounded
    rw [String.length_toList] at bounded
    exact ⟨last, rounds, nothing, Nat.le_of_add_right_le bounded⟩
  · intro place field other stands also_stands
    exact Field.eq_of_isPrefix stands also_stands

/-- Placeholders that share a percent sign: the one on the left is taken. -/
example : (ofText "%source%message%%").segments = [.field .source, .literal "message%%"] := by
  decide +kernel

end Template

end LogRelay
