import LogRelay.Proofs.Fallible
import LogRelay.Proofs.Render.Scan
import LogRelay.Proofs.Text.Truncate

/-!
# Filling in a template by replacing in place

A template is split once, and its text is put together from the parts. The plain way to fill it in has
a buffer that holds the whole text all along, and a cursor. Again and again the leftmost placeholder at
or behind the cursor is replaced by its value, and the cursor is moved behind the value; a buffer that
has become too long ends it.

Both come to the same (`render_eq_fillIn`). At each moment the buffer is what has been written, up to
the cursor, and then the part of the template that is left. The scan of that part gives the literal
characters up to the leftmost placeholder, the field, and the scan of what is behind it
(`scan_of_leftmost`), so the proof goes by induction on the length of the part that is left.
-/

namespace LogRelay

/-! ## The placeholder at a place -/

namespace Field

/-- The field whose placeholder a text begins with. -/
def at? (text : List Char) : Option Field :=
  all.find? fun field => field.placeholder.toList.isPrefixOf text

theorem at?_eq_some_iff {text : List Char} {field : Field} :
    at? text = some field ↔ field.placeholder.toList <+: text := by
  have begins_of_found : ∀ {other : Field}, at? text = some other →
      other.placeholder.toList <+: text := by
    intro other found
    have begins := List.find?_some found
    exact List.isPrefixOf_iff_prefix.mp begins
  constructor
  · exact begins_of_found
  · intro begins
    cases found : at? text with
    | none =>
        rw [at?, List.find?_eq_none] at found
        exact absurd (List.isPrefixOf_iff_prefix.mpr begins) (found field field.mem_all)
    | some other => rw [eq_of_isPrefix begins (begins_of_found found)]

theorem at?_eq_none_iff {text : List Char} :
    at? text = none ↔ ∀ field : Field, ¬field.placeholder.toList <+: text := by
  constructor
  · intro nothing field begins
    rw [at?_eq_some_iff.mpr begins] at nothing
    cases nothing
  · intro nothing
    cases found : at? text with
    | none => rfl
    | some field => exact absurd (at?_eq_some_iff.mp found) (nothing field)

end Field

/-! ## Replacing in place -/

/-- A text in which placeholders are being replaced, and the place from which the next one is looked
for. -/
structure Buffer where
  text : List Char
  cursor : Nat

namespace Buffer

/-- The placeholder of the field stands at the place, and none stands between the cursor and there. -/
structure IsLeftmost (buffer : Buffer) (place : Nat) (field : Field) : Prop where
  behind : buffer.cursor ≤ place
  stands : field.placeholder.toList <+: buffer.text.drop place
  first : ∀ earlier, buffer.cursor ≤ earlier → earlier < place →
    ∀ other : Field, ¬other.placeholder.toList <+: buffer.text.drop earlier

/-- The leftmost placeholder at or behind the cursor, with its place. -/
def leftmost? (buffer : Buffer) : Option (Nat × Field) := do
  let place ← (List.range' buffer.cursor (buffer.text.length - buffer.cursor)).find? fun place =>
    (Field.at? (buffer.text.drop place)).isSome
  let field ← Field.at? (buffer.text.drop place)
  pure (place, field)

/-- The buffer with the placeholder at a place replaced by a value, and the cursor just behind it. -/
def replace (buffer : Buffer) (place : Nat) (field : Field) (value : List Char) : Buffer :=
  ⟨buffer.text.take place ++ value ++ buffer.text.drop (place + field.placeholder.length),
    place + value.length⟩

/-- The buffer with the leftmost placeholder replaced by its value. -/
def replaceNext? (values : Field → String) (buffer : Buffer) : Option Buffer :=
  buffer.leftmost?.map fun (place, field) => buffer.replace place field (values field).toList

/-- The size of the text in bytes. -/
def size (buffer : Buffer) : Nat := Utf8.size (String.ofList buffer.text)

theorem leftmost?_eq_some_iff {buffer : Buffer} {place : Nat} {field : Field} :
    buffer.leftmost? = some (place, field) ↔ buffer.IsLeftmost place field := by
  have starts : ∀ earlier, (!(Field.at? (buffer.text.drop earlier)).isSome) = true ↔
      ∀ other : Field, ¬other.placeholder.toList <+: buffer.text.drop earlier := by
    intro earlier
    rw [← Field.at?_eq_none_iff]
    cases Field.at? (buffer.text.drop earlier) <;> simp
  simp only [leftmost?, Option.bind_eq_bind, Option.bind_eq_some_iff, Option.pure_def,
    Option.some.injEq, Prod.mk.injEq, List.find?_range'_eq_some, starts, Field.at?_eq_some_iff]
  constructor
  · rintro ⟨place, ⟨-, reached, first⟩, field, stands, rfl, rfl⟩
    exact ⟨(List.mem_range'_1.mp reached).1, stands, first⟩
  · rintro ⟨behind, stands, first⟩
    have found := Field.at?_eq_some_iff.mpr stands
    refine ⟨place, ⟨by simp [found], ?_, first⟩, field, stands, rfl, rfl⟩
    rw [List.mem_range'_1]
    -- A placeholder is not empty, so it stands before the end of the text.
    have inside : place < buffer.text.length := by
      rcases field.exists_placeholder_eq_cons with ⟨char, chars, shape⟩
      have short := stands.length_le
      rw [shape, List.length_cons, List.length_drop] at short
      omega
    omega

theorem leftmost?_eq_none_iff {buffer : Buffer} :
    buffer.leftmost? = none ↔ ∀ place, buffer.cursor ≤ place →
      ∀ field : Field, ¬field.placeholder.toList <+: buffer.text.drop place := by
  constructor
  · intro nothing place behind
    induction place using Nat.strongRecOn with
    | ind place ih =>
        intro field stands
        have leftmost : buffer.IsLeftmost place field :=
          ⟨behind, stands, fun earlier behind before => ih earlier before behind⟩
        rw [leftmost?_eq_some_iff.mpr leftmost] at nothing
        cases nothing
  · intro nothing
    cases found : buffer.leftmost? with
    | none => rfl
    | some leftmost =>
        have is_leftmost := leftmost?_eq_some_iff.mp found
        exact absurd is_leftmost.stands (nothing _ is_leftmost.behind _)

/-- What is left to be searched gets shorter with each replacement. -/
theorem replaceNext?_shortens {values : Field → String} {buffer next : Buffer}
    (replaced : buffer.replaceNext? values = some next) :
    next.text.length - next.cursor < buffer.text.length - buffer.cursor := by
  simp only [replaceNext?, Option.map_eq_some_iff, Prod.exists] at replaced
  rcases replaced with ⟨place, field, found, rfl⟩
  rcases leftmost?_eq_some_iff.mp found with ⟨behind, stands, -⟩
  rcases field.exists_placeholder_eq_cons with ⟨char, chars, shape⟩
  have short := stands.length_le
  have positive : 0 < field.placeholder.toList.length := by simp [shape]
  rw [List.length_drop] at short
  simp only [replace, List.length_append, List.length_take, List.length_drop]
  rw [String.length_toList] at short positive
  omega

/-- Replaces one placeholder after the other, and gives up once the text is too long. -/
def fillIn (values : Field → String) (buffer : Buffer) : Option String :=
  if renderLimit < buffer.size then none
  else
    match _replaced : buffer.replaceNext? values with
    | none => some (String.ofList buffer.text)
    | some next => fillIn values next
termination_by buffer.text.length - buffer.cursor
decreasing_by exact replaceNext?_shortens _replaced

/-- From the one buffer, replacing one placeholder after the other comes to the other buffer. -/
inductive Reaches (values : Field → String) : Buffer → Buffer → Prop where
  | here {buffer : Buffer} : Reaches values buffer buffer
  | later {buffer next reached : Buffer} (replaced : buffer.replaceNext? values = some next)
      (reaches : Reaches values next reached) : Reaches values buffer reached

variable {values : Field → String} {buffer : Buffer}

theorem fillIn_of_long (long : renderLimit < buffer.size) : buffer.fillIn values = none := by
  rw [fillIn, if_pos long]

theorem fillIn_of_none (fits : ¬renderLimit < buffer.size)
    (nothing : buffer.replaceNext? values = none) :
    buffer.fillIn values = some (String.ofList buffer.text) := by
  rw [fillIn, if_neg fits]
  split <;> simp_all

theorem fillIn_of_some {next : Buffer} (fits : ¬renderLimit < buffer.size)
    (replaced : buffer.replaceNext? values = some next) :
    buffer.fillIn values = next.fillIn values := by
  rw [fillIn, if_neg fits]
  split <;> simp_all

/-- Filling in is given up exactly if a buffer on the way is too long. -/
theorem fillIn_eq_none_iff :
    buffer.fillIn values = none ↔
      ∃ reached, Reaches values buffer reached ∧ renderLimit < reached.size := by
  fun_induction fillIn values buffer with
  | case1 buffer long => simpa using ⟨buffer, .here, long⟩
  | case2 buffer fits nothing =>
      simp only [reduceCtorEq, false_iff, not_exists, not_and]
      intro reached reaches
      cases reaches with
      | here => exact fits
      | later replaced _ => simp [nothing] at replaced
  | case3 buffer fits next replaced ih =>
      rw [ih]
      constructor
      · rintro ⟨reached, reaches, long⟩
        exact ⟨reached, .later replaced reaches, long⟩
      · rintro ⟨reached, reaches, long⟩
        cases reaches with
        | here => exact absurd long fits
        | later replaced_also reaches =>
            rw [replaced] at replaced_also
            cases replaced_also
            exact ⟨reached, reaches, long⟩

/-- A text that has been filled in fits. -/
theorem size_le_of_fillIn {result : String} (filled : buffer.fillIn values = some result) :
    Utf8.size result ≤ renderLimit := by
  fun_induction fillIn values buffer with
  | case1 buffer long => cases filled
  | case2 buffer fits nothing =>
      rw [← Option.some.inj filled]
      exact Nat.not_lt.mp fits
  | case3 buffer fits next replaced ih => exact ih filled

/-- What is behind the cursor is literal up to the leftmost placeholder. -/
theorem IsLeftmost.exists_split {written rest : List Char} {place : Nat} {field : Field}
    (leftmost : IsLeftmost ⟨written ++ rest, written.length⟩ place field) :
    ∃ before after, rest = before ++ field.placeholder.toList ++ after ∧
      place = written.length + before.length ∧
      ∀ earlier < before.length, ∀ other : Field, ¬other.placeholder.toList <+: rest.drop earlier := by
  rcases leftmost with ⟨behind, stands, first⟩
  rcases Nat.exists_eq_add_of_le behind with ⟨offset, rfl⟩
  rw [List.drop_length_add_append] at stands
  rcases stands with ⟨after, follows⟩
  refine ⟨rest.take offset, after, ?_, ?_, ?_⟩
  · rw [List.append_assoc, follows, List.take_append_drop]
  · have inside : offset ≤ rest.length := by
      rcases field.exists_placeholder_eq_cons with ⟨char, chars, shape⟩
      have length := congrArg List.length follows
      rw [shape, List.length_append, List.length_cons, List.length_drop] at length
      omega
    rw [List.length_take_of_le inside]
  · intro earlier before other begins
    have sooner : earlier < offset := by
      rw [List.length_take] at before
      omega
    apply first (written.length + earlier) (Nat.le_add_right ..) (Nat.add_lt_add_left sooner _) other
    rwa [List.drop_length_add_append]

theorem replace_eq (written before after value : List Char) (field : Field) :
    replace ⟨written ++ (before ++ field.placeholder.toList ++ after), written.length⟩
        (written.length + before.length) field value =
      ⟨written ++ before ++ value ++ after, (written ++ before ++ value).length⟩ := by
  have up_to : written ++ (before ++ field.placeholder.toList ++ after) =
      (written ++ before) ++ (field.placeholder.toList ++ after) := by simp
  have place : written.length + before.length = (written ++ before).length := by simp
  rw [replace, up_to, place, List.take_left, List.drop_length_add_append, ← String.length_toList,
    List.drop_left]
  simp [Nat.add_assoc]

end Buffer

namespace Template

/-! ## Filling in the parts -/

variable {values : Field → String}

/-- The text of the parts that are left, where every field has a value. -/
def filled (values : Field → String) (written left : Nat) (segments : List Segment) :
    Except FillFault String :=
  (fill (some <| values ·) written left segments).map String.join

@[simp]
theorem filled_nil (written left : Nat) : filled values written left [] = .ok "" := rfl

theorem filled_literal (written left : Nat) (text : String) (segments : List Segment) :
    filled values written left (.literal text :: segments) =
      (filled values (written + Utf8.size text) (left - Utf8.size text) segments).map (text ++ ·) := by
  rw [filled, filled, fill]
  cases fill (some <| values ·) (written + Utf8.size text) (left - Utf8.size text) segments <;>
    simp [Except.map]

theorem filled_field (written left : Nat) (field : Field) (segments : List Segment) :
    filled values written left (.field field :: segments) =
      if renderLimit < written + Utf8.size (values field) + (left - field.placeholder.length) then
        .error (.refused .longText)
      else
        (filled values (written + Utf8.size (values field)) (left - field.placeholder.length)
          segments).map (values field ++ ·) := by
  simp only [filled, fill]
  split
  · rfl
  · cases fill (some <| values ·) (written + Utf8.size (values field))
      (left - field.placeholder.length) segments <;> simp [Except.map]

theorem filled_withLiteral (written left : Nat) (literal : List Char) (segments : List Segment) :
    filled values written left (withLiteral literal segments) =
      (filled values (written + Utf8.size (String.ofList literal))
        (left - Utf8.size (String.ofList literal)) segments).map (String.ofList literal ++ ·) := by
  rw [withLiteral]
  split
  case isTrue empty =>
    have nothing : Utf8.size (String.ofList []) = 0 := rfl
    rw [List.isEmpty_iff.mp empty, nothing, Nat.add_zero, Nat.sub_zero]
    cases filled values written left segments <;> simp [Except.map]
  case isFalse => exact filled_literal ..

/-- Where every field has a value, nothing can fail but that the text is too long. -/
theorem fault_of_filled {written left : Nat} {segments : List Segment} {fault : FillFault}
    (fails : filled values written left segments = .error fault) : fault = .refused .longText := by
  induction segments generalizing written left with
  | nil => cases fails
  | cons segment segments ih =>
      cases segment with
      | literal text =>
          rw [filled_literal] at fails
          cases later : filled values (written + Utf8.size text) (left - Utf8.size text) segments with
          | ok result => simp [later, Except.map] at fails
          | error other =>
              rw [later] at fails
              cases fails
              exact ih later
      | field field =>
          rw [filled_field] at fails
          split at fails
          · cases fails
            rfl
          · cases later : filled values (written + Utf8.size (values field))
              (left - field.placeholder.length) segments with
            | ok result => simp [later, Except.map] at fails
            | error other =>
                rw [later] at fails
                cases fails
                exact ih later

theorem size_placeholder (field : Field) :
    Utf8.size field.placeholder = field.placeholder.length := by
  cases field <;> decide

/-- The text written so far and the one that is left make up the buffer before and after a field is
filled in. -/
theorem filled_of_leftmost {written before after : List Char} {field : Field}
    (first : ∀ earlier < before.length, ∀ other : Field,
      ¬other.placeholder.toList <+: (before ++ field.placeholder.toList ++ after).drop earlier) :
    let written_now := written ++ before ++ (values field).toList
    filled values (Utf8.size (String.ofList written))
        (Utf8.size (String.ofList (before ++ field.placeholder.toList ++ after)))
        (scan (before ++ field.placeholder.toList ++ after)) =
      if renderLimit < Buffer.size ⟨written_now ++ after, written_now.length⟩ then
        .error (.refused .longText)
      else (filled values (Utf8.size (String.ofList written_now)) (Utf8.size (String.ofList after))
        (scan after)).map (String.ofList before ++ values field ++ ·) := by
  intro written_now
  have size_now : Utf8.size (String.ofList written_now) =
      Utf8.size (String.ofList written) + Utf8.size (String.ofList before) +
        Utf8.size (values field) := by
    simp [written_now, Nat.add_assoc]
  have size_left : Utf8.size (String.ofList (before ++ field.placeholder.toList ++ after)) =
      Utf8.size (String.ofList before) + field.placeholder.length +
        Utf8.size (String.ofList after) := by
    simp [size_placeholder, Nat.add_assoc]
  have size_next : Buffer.size ⟨written_now ++ after, written_now.length⟩ =
      Utf8.size (String.ofList written_now) + Utf8.size (String.ofList after) := by
    simp [Buffer.size]
  have left_now : Utf8.size (String.ofList (before ++ field.placeholder.toList ++ after)) -
      Utf8.size (String.ofList before) - field.placeholder.length =
        Utf8.size (String.ofList after) := by
    omega
  rw [scan_of_leftmost first, filled_withLiteral, filled_field, left_now, ← size_now, ← size_next]
  split
  · rfl
  · cases filled values (Utf8.size (String.ofList written_now)) (Utf8.size (String.ofList after))
      (scan after) <;> simp [Except.map, String.append_assoc]

/-- Filling in the parts of what is left of a template is filling in place what is behind the cursor,
if all is written that stands before it. -/
theorem fillIn_eq_filled (values : Field → String) (written rest : List Char)
    (fits : ¬renderLimit < Buffer.size ⟨written ++ rest, written.length⟩) :
    Buffer.fillIn values ⟨written ++ rest, written.length⟩ =
      (filled values (Utf8.size (String.ofList written)) (Utf8.size (String.ofList rest))
        (scan rest)).toOption.map (String.ofList written ++ ·) := by
  induction measured : rest.length using Nat.strongRecOn generalizing written rest with
  | ind size ih =>
      cases found : Buffer.leftmost? ⟨written ++ rest, written.length⟩ with
      | none =>
          have nothing : ∀ place, ∀ field : Field,
              ¬field.placeholder.toList <+: rest.drop place := by
            intro place field begins
            apply Buffer.leftmost?_eq_none_iff.mp found (written.length + place) (by simp) field
            rwa [List.drop_length_add_append]
          have unreplaced : Buffer.replaceNext? values ⟨written ++ rest, written.length⟩ = none := by
            rw [Buffer.replaceNext?, found]
            rfl
          rw [Buffer.fillIn_of_none fits unreplaced, scan_of_none nothing, filled_withLiteral]
          simp [Except.map, Except.toOption]
      | some leftmost =>
          rcases leftmost with ⟨place, field⟩
          rcases (Buffer.leftmost?_eq_some_iff.mp found).exists_split with
            ⟨before, after, rfl, rfl, first⟩
          -- What is written now ends with the value, and the part behind the placeholder is left.
          let written_now := written ++ before ++ (values field).toList
          have replaced : Buffer.replaceNext? values
              ⟨written ++ (before ++ field.placeholder.toList ++ after), written.length⟩ =
                some ⟨written_now ++ after, written_now.length⟩ := by
            rw [Buffer.replaceNext?, found]
            exact congrArg some (Buffer.replace_eq written before after (values field).toList field)
          have shorter : after.length < size := by
            rcases field.exists_placeholder_eq_cons with ⟨char, chars, shape⟩
            simp only [← measured, shape, List.length_append, List.length_cons]
            omega
          rw [Buffer.fillIn_of_some fits replaced, filled_of_leftmost first]
          split
          case isTrue long =>
            rw [Buffer.fillIn_of_long long]
            rfl
          case isFalse fits_now =>
            rw [ih after.length shorter written_now after fits_now rfl]
            cases filled values (Utf8.size (String.ofList written_now))
              (Utf8.size (String.ofList after)) (scan after) <;>
              simp [Except.map, Except.toOption, written_now, String.append_assoc]

/-- A template renders to what replacing in place leaves, and to no text if that gives up. -/
theorem render_ofText (text : String) (values : Field → String) :
    (ofText text).render (some <| values ·) =
      match Buffer.fillIn values ⟨text.toList, 0⟩ with
      | some result => .ok result
      | none =>
          .error (.refused (if renderLimit < Utf8.size text then .longTemplate else .longText)) := by
  have size_start : Buffer.size ⟨text.toList, 0⟩ = Utf8.size text := by simp [Buffer.size]
  by_cases long : renderLimit < Utf8.size text
  · rw [Buffer.fillIn_of_long (by rwa [size_start]), render, ofText, if_pos long, if_pos long]
  · have fits : ¬renderLimit < Buffer.size ⟨[] ++ text.toList, ([] : List Char).length⟩ := by
      rwa [List.nil_append, List.length_nil, size_start]
    have agrees := fillIn_eq_filled values [] text.toList fits
    rw [List.nil_append, List.length_nil] at agrees
    have renders : (ofText text).render (some <| values ·) =
        filled values 0 (Utf8.size text) (scan text.toList) := by
      rw [render, ofText, if_neg long]
      rfl
    rw [agrees, if_neg long, renders, String.ofList_nil, Utf8.size_empty, String.ofList_toList]
    cases outcome : filled values 0 (Utf8.size text) (scan text.toList) with
    | ok result => simp [Except.toOption]
    | error fault =>
        rw [fault_of_filled outcome]
        rfl

/-- Filling in a template is replacing its placeholders in place, each the leftmost one at or behind
the cursor, with the same text or none at all. It fails exactly if some text on the way is longer than
a rendered text may be, also if what would come out in the end is not. -/
theorem render_eq_fillIn (text : String) (values : Field → String) :
    (ofText text).render (some <| values ·) =
      (match Buffer.fillIn values ⟨text.toList, 0⟩ with
        | some result => .ok result
        | none =>
            .error (.refused (if renderLimit < Utf8.size text then .longTemplate else .longText))) ∧
    ((∃ fault, (ofText text).render (some <| values ·) = .error fault) ↔
      ∃ buffer, Buffer.Reaches values ⟨text.toList, 0⟩ buffer ∧ renderLimit < buffer.size) := by
  refine ⟨render_ofText text values, ?_⟩
  rw [← Buffer.fillIn_eq_none_iff, render_ofText]
  cases Buffer.fillIn values ⟨text.toList, 0⟩ <;> simp

/-- A value is not searched, not even together with what is behind it. -/
example : Buffer.fillIn (fun _ => "%source%") ⟨"%message%priority%%id".toList, 0⟩ =
    some "%source%priority%%id" := by
  decide +kernel

end Template

end LogRelay
