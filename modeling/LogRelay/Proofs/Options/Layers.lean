import LogRelay.Proofs.Options.Breakdown

/-!
# Which layers overwhelm an option

The environment gives texts only, and a switch reads a number where its option takes one, so neither
overwhelms an option: what does comes from the file (`Config.exists_of_overwhelmed`).
-/

namespace LogRelay

open LogRelay.Fallible OptionValue
open Options (Value)

namespace Assignments

/-- No value overwhelms its option. -/
def Gentle (assignments : Assignments) : Prop :=
  ∀ key value, (key, value) ∈ assignments → ¬Overwhelms key value

variable {assignments later : Assignments}

theorem mem_of_mem_put {key other : Key} {value found : Value}
    (mem : (other, found) ∈ assignments.put key value) :
    (other, found) = (key, value) ∨ (other, found) ∈ assignments := by
  induction assignments with
  | nil => exact .inl (List.mem_singleton.mp mem)
  | cons first assignments ih =>
      rcases first with ⟨named, old⟩
      rw [put] at mem
      split at mem
      · rcases List.mem_cons.mp mem with here | there
        · exact .inl here
        · exact .inr (List.mem_cons_of_mem _ there)
      · rcases List.mem_cons.mp mem with here | there
        · rw [here]
          exact .inr List.mem_cons_self
        · rcases ih there with here | there
          · exact .inl here
          · exact .inr (List.mem_cons_of_mem _ there)

theorem Gentle.put (gentle : assignments.Gentle) {key : Key} {value : Value}
    (bearable : ¬Overwhelms key value) : (assignments.put key value).Gentle := by
  intro other found mem
  rcases mem_of_mem_put mem with here | there
  · cases here
    exact bearable
  · exact gentle other found there

end Assignments

/-! ## The command line -/

open Assignments

theorem Switch.mem_all_of_named? {name : Wording} {switch : Switch}
    (named : Switch.named? name = some switch) : switch ∈ Switch.all :=
  List.mem_of_find?_eq_some named

namespace Word

/-- The word is no switch, or one of the switches that exist. -/
def Known (word : Word) : Prop :=
  ∀ switch short given, word = .mention switch short given → switch ∈ Switch.all

theorem known_plain : plain.Known := by
  rintro switch short given ⟨⟩

theorem known_unknown : unknown.Known := by
  rintro switch short given ⟨⟩

theorem known_mention {switch : Switch} (known : switch ∈ Switch.all) (short : Bool)
    (given : Option Wording) : (mention switch short given).Known := by
  rintro other other_short other_given ⟨⟩
  exact known

theorem known_ofInexact {text : Wording} {word : Word} (made : ofInexact text = .ok word) :
    word.Known := by
  have fallback : (if text.contains (.char ' ') then plain else unknown).Known := by
    split
    · exact known_plain
    · exact known_unknown
  simp only [ofInexact] at made
  split at made
  · split at made
    · cases made
      exact fallback
    · rename_i switch only
      cases made
      have mem : switch ∈ Switch.abbreviatedBy _ := only ▸ List.mem_singleton_self switch
      exact known_mention (List.mem_filter.mp mem).1 _ _
    · cases made
  · split at made
    · rename_i switch named
      cases made
      exact known_mention (Switch.mem_all_of_named? named) _ _
    · cases made
      exact fallback
  · cases made
    exact known_plain

theorem known_ofWording {text : Wording} {word : Word} (made : ofWording text = .ok word) :
    word.Known := by
  rw [ofWording.eq_def] at made
  split at made
  · split at made
    · cases made
      exact known_plain
    · split at made
      · rename_i switch named
        cases made
        exact known_mention (Switch.mem_all_of_named? named) _ _
      · split at made
        · split at made
          · rename_i switch named
            cases made
            exact known_mention (Switch.mem_all_of_named? named) _ _
          · exact known_ofInexact made
        · exact known_ofInexact made
  · cases made
    exact known_plain

theorem known_ofWordings {texts others : List Wording} {words : List (Wording × Word)}
    (made : ofWordings texts = .ok (words, others)) : ∀ word ∈ words, word.2.Known := by
  induction texts generalizing words others with
  | nil =>
      cases made
      simp
  | cons text texts ih =>
      rw [ofWordings] at made
      split at made
      · cases made
        simp
      · rcases bind_eq_ok.mp made with ⟨word, made_word, made_later⟩
        rcases bind_eq_ok.mp made_later with ⟨⟨later, ignored⟩, made_rest, same⟩
        cases same
        exact List.forall_mem_cons.mpr ⟨known_ofWording made_word, ih made_rest⟩

end Word

namespace Use

theorem switch_ofWords {switch : Switch} {words : List (Wording × Word)} {use : Use}
    (made : ofWords switch words = .ok use) : use.switch = switch := by
  simp only [ofWords] at made
  split at made
  · cases made
    rfl
  · cases made

theorem mem_all_of_ofGiven {words : List (Wording × Word)} {switch : Switch} {short : Bool}
    {given : Wording} {uses : List Use} {taken : Nat} (known : switch ∈ Switch.all)
    (made : ofGiven words switch short given = .ok (uses, taken)) :
    ∀ use ∈ uses, use.switch ∈ Switch.all := by
  have mem_all_of_next {name : Wording} {next : Switch} {short : Bool}
      (found : (if short then Switch.named? name else none) = some next) : next ∈ Switch.all := by
    cases short with
    | true => exact Switch.mem_all_of_named? found
    | false => cases found
  fun_induction ofGiven words switch short given generalizing uses taken
  case case1 switch _ given _ =>
    cases made
    exact List.forall_mem_singleton.mpr known
  case case3 switch short letter others _ next found _ _ =>
    rcases bind_eq_ok.mp made with ⟨use, is_use, same⟩
    cases same
    refine List.forall_mem_cons.mpr ⟨known, List.forall_mem_singleton.mpr ?_⟩
    rw [switch_ofWords is_use]
    exact mem_all_of_next found
  case case4 switch short letter others _ next found _ _ ih =>
    rcases bind_eq_ok.mp made with ⟨⟨later, taken_later⟩, made_later, same⟩
    cases same
    exact List.forall_mem_cons.mpr ⟨known, ih (mem_all_of_next found) made_later⟩
  all_goals cases made

theorem mem_all_of_ofMention {words : List (Wording × Word)} {switch : Switch} {short : Bool}
    {given : Option Wording} {uses : List Use} {taken : Nat} (known : switch ∈ Switch.all)
    (made : ofMention words switch short given = .ok (uses, taken)) :
    ∀ use ∈ uses, use.switch ∈ Switch.all := by
  cases given with
  | some given => exact mem_all_of_ofGiven known made
  | none =>
      rcases bind_eq_ok.mp made with ⟨use, is_use, same⟩
      cases same
      refine List.forall_mem_singleton.mpr ?_
      rw [switch_ofWords is_use]
      exact known

end Use

namespace CommandLine

section

variable {keeps : Assignments → Prop}
  (applies : ∀ {line after : CommandLine} {use : Use}, use.switch ∈ Switch.all →
    keeps line.assignments → line.apply use = .ok after → keeps after.assignments)

include applies

theorem readWords_keeps {line after : CommandLine} {taken : Nat} {words : List (Wording × Word)}
    (known : ∀ word ∈ words, word.2.Known) (kept : keeps line.assignments)
    (read : line.readWords taken words = .ok after) : keeps after.assignments := by
  fun_induction readWords line taken words generalizing after
  case case1 =>
    cases read
    exact kept
  case case2 words ih =>
    exact ih (List.forall_mem_cons.mp known).2 kept read
  case case3 => cases read
  case case4 line _ switch short given words uses taken made ih =>
    rcases List.forall_mem_cons.mp known with ⟨known_word, known_later⟩
    rcases bind_eq_ok.mp read with ⟨next, applied, read_later⟩
    have known_uses := Use.mem_all_of_ofMention (known_word switch short given rfl) made
    have kept_next : keeps next.assignments :=
      foldlM_keeps (fun _ use mem _ => applies (known_uses use mem)) kept applied
    exact ih next known_later kept_next read_later
  case case5 ih => exact ih (List.forall_mem_cons.mp known).2 kept read

/-- What holds of no values and is kept by every switch holds of the values that switches give. -/
theorem read_keeps (blank_kept : keeps []) {texts : List Wording} {line : CommandLine}
    (made : read texts = .ok line) : keeps line.assignments := by
  rw [read] at made
  split at made
  · cases made
  · rename_i words ignored is_words
    rcases bind_eq_ok.mp made with ⟨after, is_read, checked⟩
    simp only at checked
    split at checked
    · cases checked
      exact readWords_keeps applies (Word.known_ofWordings is_words) blank_kept is_read
    · cases checked

end

end CommandLine

end LogRelay
