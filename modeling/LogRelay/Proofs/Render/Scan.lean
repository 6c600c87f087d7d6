import LogRelay.Render.Template
import Mathlib.Data.List.Basic
import Mathlib.Data.Nat.Find

/-!
# Scanning a template

Each round of the scan looks for every field in the text that is left, one after the other, and keeps
the hit that is further left (`IsNearest.append`). What it keeps in the end is the leftmost of all
placeholders (`leftmost?_eq_some_iff`), and as no placeholder is the beginning of another one, there is
one at most at each place, and it does not matter in which order the fields are looked for.

So the scan of a text gives the literal text up to the leftmost placeholder, the field, and the scan of
what is behind it (`scan_of_leftmost`).
-/

namespace LogRelay

/-! ## Placeholders in a text -/

namespace Field

theorem exists_placeholder_eq_cons (field : Field) :
    ∃ char chars, field.placeholder.toList = char :: chars := by
  cases field <;> exact ⟨_, _, rfl⟩

theorem placeholder_ne_nil (field : Field) : field.placeholder.toList ≠ [] := by
  cases field <;> decide

/-- No placeholder is the beginning of another one. -/
theorem eq_of_isPrefix_placeholder {field other : Field}
    (begins : field.placeholder.toList <+: other.placeholder.toList) : field = other := by
  cases field <;> cases other <;> first | rfl | exact absurd begins (by decide)

/-- A text begins with one placeholder at most. -/
theorem eq_of_isPrefix {text : List Char} {field other : Field}
    (begins : field.placeholder.toList <+: text) (also : other.placeholder.toList <+: text) :
    field = other := by
  rcases List.prefix_or_prefix_of_prefix begins also with shorter | longer
  · exact eq_of_isPrefix_placeholder shorter
  · exact (eq_of_isPrefix_placeholder longer).symm

/-! ## The search for one field -/

variable {part text : List Char} {start place : Nat}

theorem find?_eq_some_iff :
    find? part start text = some place ↔
      ∃ offset, place = start + offset ∧ part <+: text.drop offset ∧
        ∀ earlier < offset, ¬part <+: text.drop earlier := by
  induction text generalizing start with
  | nil =>
      rcases part with _ | ⟨char, part⟩
      · constructor
        · intro found
          exact ⟨0, (Option.some.inj found).symm, List.nil_prefix, by simp⟩
        · rintro ⟨_ | offset, rfl, -, first⟩
          · rfl
          · exact absurd List.nil_prefix (first 0 (Nat.succ_pos offset))
      · simp [find?]
  | cons char text ih =>
      by_cases begins : part <+: char :: text
      · rw [find?, if_pos (List.isPrefixOf_iff_prefix.mpr begins), Option.some.injEq]
        constructor
        · rintro rfl
          exact ⟨0, rfl, begins, by simp⟩
        · rintro ⟨offset, rfl, -, first⟩
          rcases Nat.eq_zero_or_pos offset with rfl | positive
          · rfl
          · exact absurd begins (first 0 positive)
      · rw [find?, if_neg (by rwa [List.isPrefixOf_iff_prefix]), ih]
        constructor
        · rintro ⟨offset, rfl, stands, first⟩
          refine ⟨offset + 1, by omega, stands, ?_⟩
          rintro (_ | earlier) sooner
          · exact begins
          · exact first earlier (Nat.lt_of_succ_lt_succ sooner)
        · rintro ⟨_ | offset, rfl, stands, first⟩
          · exact absurd stands begins
          · refine ⟨offset, by omega, stands, ?_⟩
            intro earlier sooner
            exact first (earlier + 1) (Nat.succ_lt_succ sooner)

theorem find?_eq_none_iff :
    find? part start text = none ↔ ∀ place, ¬part <+: text.drop place := by
  constructor
  · intro nothing place stands
    have some_place : ∃ place, part <+: text.drop place := ⟨place, stands⟩
    have found : find? part start text = some (start + Nat.find some_place) :=
      find?_eq_some_iff.mpr ⟨_, rfl, Nat.find_spec some_place, fun _ => Nat.find_min some_place⟩
    rw [nothing] at found
    cases found
  · intro nowhere
    cases found : find? part start text with
    | none => rfl
    | some place =>
        rcases find?_eq_some_iff.mp found with ⟨offset, -, stands, -⟩
        exact absurd stands (nowhere offset)

/-! ## The search for all fields -/

theorem mem_or_mem_of_mem_nearer {hit next : Option (Nat × Field)} {found : Nat × Field}
    (kept : found ∈ nearer hit next) : found ∈ hit ∨ found ∈ next := by
  rcases hit with _ | hit
  · exact .inr kept
  · rcases next with _ | next
    · exact .inl kept
    · rw [nearer] at kept
      split at kept
      · exact .inr kept
      · exact .inl kept

theorem exists_mem_nearer_le {hit next : Option (Nat × Field)} {found : Nat × Field}
    (either : found ∈ hit ∨ found ∈ next) : ∃ kept ∈ nearer hit next, kept.1 ≤ found.1 := by
  rcases hit with _ | hit
  · rcases either with before | now
    · cases before
    · exact ⟨found, now, Nat.le_refl _⟩
  · rcases next with _ | next
    · rcases either with before | now
      · exact ⟨found, before, Nat.le_refl _⟩
      · cases now
    · rw [nearer]
      split
      case isTrue sooner =>
        refine ⟨next, rfl, ?_⟩
        rcases either with before | now
        · rw [← Option.some.inj before]
          exact Nat.le_of_lt sooner
        · rw [← Option.some.inj now]
      case isFalse later =>
        refine ⟨hit, rfl, ?_⟩
        rcases either with before | now
        · rw [← Option.some.inj before]
        · rw [← Option.some.inj now]
          exact Nat.not_lt.mp later

/-- What the search for some fields comes to: a placeholder that stands in the text, and none of the
fields has its placeholder further left. -/
structure IsNearest (text : List Char) (tried : List Field) (hit : Option (Nat × Field)) : Prop where
  stands : ∀ found ∈ hit, found.2.placeholder.toList <+: text.drop found.1
  nearest : ∀ field ∈ tried, ∀ place, field.placeholder.toList <+: text.drop place →
    ∃ found ∈ hit, found.1 ≤ place

theorem isNearest_find? (text : List Char) (field : Field) :
    IsNearest text [field]
      ((find? field.placeholder.toList 0 text).map fun place => (place, field)) := by
  constructor
  · rintro ⟨place, named⟩ kept
    rcases Option.map_eq_some_iff.mp kept with ⟨_, found, rfl, rfl⟩
    rcases find?_eq_some_iff.mp found with ⟨offset, rfl, stands, -⟩
    rwa [Nat.zero_add]
  · intro other listed place stands
    rw [List.mem_singleton.mp listed] at stands
    cases found : find? field.placeholder.toList 0 text with
    | none => exact absurd stands (find?_eq_none_iff.mp found place)
    | some first_place =>
        rcases find?_eq_some_iff.mp found with ⟨offset, rfl, -, first⟩
        refine ⟨(0 + offset, field), rfl, ?_⟩
        rw [Nat.zero_add]
        exact Nat.not_lt.mp fun sooner => first place sooner stands

/-- The nearer of two hits is the nearest for the fields of both. -/
theorem IsNearest.append {tried others : List Field} {hit next : Option (Nat × Field)}
    (nearest : IsNearest text tried hit) (also : IsNearest text others next) :
    IsNearest text (tried ++ others) (nearer hit next) := by
  constructor
  · intro found kept
    rcases mem_or_mem_of_mem_nearer kept with before | now
    · exact nearest.stands found before
    · exact also.stands found now
  · intro field listed place stands
    have hit_before : ∃ found, (found ∈ hit ∨ found ∈ next) ∧ found.1 ≤ place := by
      rcases List.mem_append.mp listed with before | now
      · rcases nearest.nearest field before place stands with ⟨found, found_mem, sooner⟩
        exact ⟨found, .inl found_mem, sooner⟩
      · rcases also.nearest field now place stands with ⟨found, found_mem, sooner⟩
        exact ⟨found, .inr found_mem, sooner⟩
    rcases hit_before with ⟨found, either, sooner⟩
    rcases exists_mem_nearer_le either with ⟨kept, kept_mem, nearer_still⟩
    exact ⟨kept, kept_mem, Nat.le_trans nearer_still sooner⟩

theorem isNearest_foldl {tried : List Field} {hit : Option (Nat × Field)} (fields : List Field)
    (nearest : IsNearest text tried hit) :
    IsNearest text (tried ++ fields) (fields.foldl (fun hit field =>
      nearer hit ((find? field.placeholder.toList 0 text).map fun place => (place, field))) hit) := by
  induction fields generalizing tried hit with
  | nil => rwa [List.append_nil]
  | cons field fields ih =>
      rw [List.foldl_cons, List.append_cons]
      exact ih (nearest.append (isNearest_find? text field))

theorem isNearest_leftmost? (text : List Char) : IsNearest text all (leftmost? text) := by
  have untried : IsNearest text [] none := ⟨by simp, by simp⟩
  exact isNearest_foldl all untried

theorem leftmost?_eq_some_iff {text : List Char} {place : Nat} {field : Field} :
    leftmost? text = some (place, field) ↔
      field.placeholder.toList <+: text.drop place ∧
        ∀ earlier < place, ∀ other : Field, ¬other.placeholder.toList <+: text.drop earlier := by
  have nearest := isNearest_leftmost? text
  constructor
  · intro found
    refine ⟨nearest.stands _ found, ?_⟩
    intro earlier sooner other stands
    rcases nearest.nearest other other.mem_all earlier stands with ⟨_, also_found, not_later⟩
    rw [found] at also_found
    cases also_found
    exact Nat.not_lt.mpr not_later sooner
  · rintro ⟨stands, first⟩
    rcases nearest.nearest field field.mem_all place stands with ⟨⟨other, named⟩, found, not_later⟩
    have stands_also := nearest.stands _ found
    have same_place : other = place := by
      apply Nat.le_antisymm not_later
      exact Nat.not_lt.mp fun sooner => first other sooner named stands_also
    subst same_place
    rw [eq_of_isPrefix stands stands_also]
    exact found

theorem leftmost?_eq_none_iff {text : List Char} :
    leftmost? text = none ↔
      ∀ place, ∀ field : Field, ¬field.placeholder.toList <+: text.drop place := by
  have nearest := isNearest_leftmost? text
  constructor
  · intro nothing place field stands
    rcases nearest.nearest field field.mem_all place stands with ⟨_, found, -⟩
    rw [nothing] at found
    cases found
  · intro nowhere
    cases found : leftmost? text with
    | none => rfl
    | some hit => exact absurd (nearest.stands hit found) (nowhere hit.1 hit.2)

end Field

/-! ## Splitting up to the leftmost placeholder -/

namespace Template

/-- A text without a placeholder is one literal part. -/
theorem scan_of_none {text : List Char}
    (nowhere : ∀ place, ∀ field : Field, ¬field.placeholder.toList <+: text.drop place) :
    scan text = withLiteral text [] := by
  rw [scan]
  split
  · rfl
  case h_2 found =>
    rw [Field.leftmost?_eq_none_iff.mpr nowhere] at found
    cases found

/-- What stands before the leftmost placeholder is literal, and what is behind it is split anew. -/
theorem scan_of_leftmost {before after : List Char} {field : Field}
    (first : ∀ earlier < before.length, ∀ other : Field,
      ¬other.placeholder.toList <+: (before ++ field.placeholder.toList ++ after).drop earlier) :
    scan (before ++ field.placeholder.toList ++ after) =
      withLiteral before (.field field :: scan after) := by
  have leftmost : Field.leftmost? (before ++ field.placeholder.toList ++ after) =
      some (before.length, field) := by
    refine Field.leftmost?_eq_some_iff.mpr ⟨?_, first⟩
    rw [List.append_assoc, List.drop_left]
    exact List.prefix_append _ _
  rw [scan]
  split
  case h_1 found =>
    rw [leftmost] at found
    cases found
  case h_2 place named found =>
    rw [leftmost] at found
    cases found
    rw [← String.length_toList, List.append_assoc, List.take_left, List.drop_length_add_append,
      List.drop_left]

end Template

end LogRelay
