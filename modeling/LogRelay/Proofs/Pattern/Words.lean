import LogRelay.Filter
import LogRelay.Proofs.Fallible
import LogRelay.Proofs.Pattern.Search

/-!
# Patterns of plain words

Words of characters that have no meaning of their own, with bars between them, make a pattern that takes
these words and nothing else.

No group is opened on the way, so all that changes in the reading are the parts of the last branch and
the branches before it (`Progress.flat`). A character adds a part, and a bar ends the branch, and from
these two steps follows what a word and what all words come to (`readAll_words`). The tree that is read
has one branch for each word, and working the switches into it gives a plain node (`ofTree_words`), so
that a filter for the pattern lets through the messages that hold one of the words (`accepts_words`).
-/

namespace LogRelay.Pattern

open LogRelay.Fallible

/-- The characters that mean something else than themselves in a pattern. -/
def marks : List Char :=
  ['.', '^', '$', '*', '+', '?', '\x7b', '\x7d', '[', ']', '\\', '|', '(', ')']

/-- A character that stands for itself wherever it is in a pattern. -/
def IsOrdinary (char : Char) : Prop := char ∉ marks

instance : DecidablePred IsOrdinary := fun char => inferInstanceAs (Decidable (char ∉ marks))

/-! ## The tree of words -/

namespace Tree

/-- A character that stands for itself. -/
def letter (char : Char) : Tree := chars (.single char)

/-- The characters of a word one after another. -/
def ofWord (word : List Char) : Tree := ofReversed (word.map letter).reverse

/-- A word or one of others. -/
def ofWords (word : List Char) : List (List Char) → Tree
  | [] => ofWord word
  | next :: words => choice (ofWord word) (ofWords next words)

theorem ofWord_cons (char : Char) (word : List Char) :
    ofWord (char :: word) = sequence (letter char) (ofWord word) := by
  simp [ofWord, ofReversed]

end Tree

/-- The text of a pattern that has bars between words. -/
def barred (words : List (List Char)) : List Char := ['|'].intercalate words

theorem barred_singleton (word : List Char) : barred [word] = word := by
  simp [barred]

theorem barred_cons_cons (word next : List Char) (words : List (List Char)) :
    barred (word :: next :: words) = word ++ '|' :: barred (next :: words) := by
  simp [barred, List.intercalate_cons_cons]

theorem eq_bar_or_mem_of_mem_barred {words : List (List Char)} {char : Char}
    (inside : char ∈ barred words) : char = '|' ∨ ∃ word ∈ words, char ∈ word := by
  induction words with
  | nil => cases inside
  | cons word words ih =>
      cases words with
      | nil => exact .inr ⟨word, List.mem_cons_self, by rwa [barred_singleton] at inside⟩
      | cons next words =>
          rw [barred_cons_cons, List.mem_append, List.mem_cons] at inside
          rcases inside with in_word | bar | in_others
          · exact .inr ⟨word, List.mem_cons_self, in_word⟩
          · exact .inl bar
          · rcases ih in_others with bar | ⟨other, listed, in_other⟩
            · exact .inl bar
            · exact .inr ⟨other, List.mem_cons_of_mem word listed, in_other⟩

/-! ## Reading words -/

theorem Token.scan_eq_map {text : List Char} (unescaped : '\\' ∉ text) :
    scan text = text.map plain := by
  induction text with
  | nil => rfl
  | cons char text ih =>
      rw [List.mem_cons, not_or] at unescaped
      rw [scan, ih unescaped.2, List.map_cons]
      · rintro rfl -
        exact unescaped.1 rfl
      · rintro _ _ rfl -
        exact unescaped.1 rfl

theorem lookAhead_plain (text : List Char) :
    lookAhead (text.map .plain) = .ok (text.map .plain) := by
  cases text <;> rfl

namespace Progress

/-- What has been read of a pattern outside all groups: the parts of the last branch, and the branches
before it, the last of them first. -/
def flat (items branches : List Tree) (text : List Char) : Progress :=
  { start (text.map .plain) with level := ⟨.pattern, false, items, branches⟩ }

variable {items branches : List Tree} {char : Char} {word text : List Char}

theorem readPlain_letter (ordinary : IsOrdinary char) :
    (flat items branches (char :: text)).readPlain char (text.map .plain) =
      .ok (flat (.letter char :: items) branches text) := by
  simp only [IsOrdinary, marks, List.mem_cons, List.not_mem_nil, or_false, not_or] at ordinary
  rw [readPlain]
  · rfl
  -- It is none of the characters that are tried before the last alternative.
  all_goals simp_all

/-- One round of the reading takes one character, where that leads to nothing but other parts. -/
theorem readAll_cons {nextItems nextBranches : List Tree} (rounds : Nat)
    (reads : (flat items branches (char :: text)).readPlain char (text.map .plain) =
      .ok (flat nextItems nextBranches text)) :
    readAll (rounds + 1) (flat items branches (char :: text)) =
      readAll rounds (flat nextItems nextBranches text) := by
  have round : readAll (rounds + 1) (flat items branches (char :: text)) =
      ((flat items branches (char :: text)).readPlain char (text.map .plain) >>= fun next =>
        lookAhead next.tokens >>= fun _ => pure next) >>= readAll rounds := rfl
  have tokens : (flat nextItems nextBranches text).tokens = text.map .plain := rfl
  rw [round, reads, ok_bind, tokens, lookAhead_plain]
  rfl

/-- A word adds its characters to the branch that is being read. -/
theorem readAll_word (ordinary : ∀ char ∈ word, IsOrdinary char) (rounds : Nat) :
    readAll (word.length + rounds) (flat items branches (word ++ text)) =
      readAll rounds (flat ((word.map .letter).reverse ++ items) branches text) := by
  induction word generalizing items with
  | nil => simp
  | cons char word ih =>
      rw [List.forall_mem_cons] at ordinary
      rw [List.length_cons, Nat.add_right_comm, List.cons_append,
        readAll_cons _ (readPlain_letter ordinary.1), ih ordinary.2]
      simp

/-- The tree of what has been read of words is that of the words, behind the branches before them. -/
theorem readAll_words {words : List (List Char)} (branches : List Tree)
    (ordinary : ∀ listed ∈ word :: words, ∀ char ∈ listed, IsOrdinary char) :
    ∃ items earlier,
      readAll (barred (word :: words)).length (flat [] branches (barred (word :: words))) =
        .ok (flat items earlier []) ∧
      (flat items earlier []).tree = .choices (.ofWords word words) branches := by
  rw [List.forall_mem_cons] at ordinary
  induction words generalizing word branches with
  | nil =>
      refine ⟨(word.map .letter).reverse, branches, ?_, rfl⟩
      calc readAll (barred [word]).length (flat [] branches (barred [word]))
          = readAll (word.length + 0) (flat [] branches (word ++ [])) := by
            rw [barred_singleton, List.append_nil, Nat.add_zero]
        _ = readAll 0 (flat ((word.map .letter).reverse ++ []) branches []) :=
            readAll_word ordinary.1 0
        _ = .ok (flat (word.map .letter).reverse branches []) := by
            rw [List.append_nil, readAll]
  | cons next words ih =>
      rw [List.forall_mem_cons] at ordinary
      rcases ih (.ofWord word :: branches) ordinary.2 with ⟨items, earlier, read, tree⟩
      refine ⟨items, earlier, ?_, tree⟩
      rw [barred_cons_cons, List.length_append, readAll_word ordinary.1, List.length_cons,
        readAll_cons _ rfl, List.append_nil]
      exact read

end Progress

/-- A pattern of words is read to the end, without switches. -/
theorem read_words {word : List Char} {words : List (List Char)}
    (ordinary : ∀ listed ∈ word :: words, ∀ char ∈ listed, IsOrdinary char) :
    ∃ progress, read (String.ofList (barred (word :: words))) = .ok progress ∧
      progress.switches = {} ∧ progress.tree = .ofWords word words := by
  rcases Progress.readAll_words [] ordinary with ⟨items, earlier, read_all, tree⟩
  refine ⟨.flat items earlier [], ?_, rfl, tree⟩
  have unescaped : '\\' ∉ barred (word :: words) := by
    intro inside
    rcases eq_bar_or_mem_of_mem_barred inside with bar | ⟨listed, is_listed, in_word⟩
    · exact absurd bar (by decide)
    · exact absurd (ordinary listed is_listed _ in_word) (by decide)
  rw [read, String.toList_ofList, Token.scan_eq_map unescaped,
    lookAhead_plain, ok_bind, List.length_map]
  exact congrArg (· >>= Progress.finish) read_all

/-! ## Matching words -/

theorem accepts_single (letter char : Char) :
    (CharTest.member (.single letter) false false).accepts char = true ↔ char = letter := by
  simp [CharTest.accepts, CharSet.single, SetItem.matchesChar, Char.toNat_inj]

theorem ofTree_word (groups : Nat → Width) (word : List Char) :
    ∃ root, Node.ofTree groups {} (.ofWord word) = .ok root ∧ root.IsPlain ∧
      ∀ taken, root.Takes taken ↔ taken = word := by
  induction word with
  | nil => exact ⟨.empty, rfl, trivial, fun taken => Iff.rfl⟩
  | cons char word ih =>
      rcases ih with ⟨rest, compiles, plain, takes⟩
      let first : Node := .test (.member (.single char) false false)
      refine ⟨.sequence first rest, ?_, ⟨trivial, plain⟩, ?_⟩
      · have first_eq : Node.ofTree groups {} (.letter char) = .ok first := rfl
        rw [Tree.ofWord_cons, Node.ofTree, first_eq, compiles]
        rfl
      · intro taken
        simp [Node.Takes, first, takes, accepts_single]

theorem ofTree_words (groups : Nat → Width) (word : List Char) (words : List (List Char)) :
    ∃ root, Node.ofTree groups {} (.ofWords word words) = .ok root ∧ root.IsPlain ∧
      ∀ taken, root.Takes taken ↔ taken ∈ word :: words := by
  rcases ofTree_word groups word with ⟨first, compiles_first, plain_first, takes_first⟩
  induction words generalizing word first with
  | nil => exact ⟨first, compiles_first, plain_first, by simpa using takes_first⟩
  | cons next words ih =>
      rcases ofTree_word groups next with ⟨second, compiles_second, plain_second, takes_second⟩
      rcases ih next second compiles_second plain_second takes_second with
        ⟨rest, compiles, plain, takes⟩
      refine ⟨.choice first rest, ?_, ⟨plain_first, plain⟩, ?_⟩
      · rw [Tree.ofWords, Node.ofTree, compiles_first, compiles]
        rfl
      · intro taken
        simp [Node.Takes, takes_first, takes]

/-- The pattern of words with bars between them takes these words. -/
theorem ofText_words {word : List Char} {words : List (List Char)}
    (ordinary : ∀ listed ∈ word :: words, ∀ char ∈ listed, IsOrdinary char) :
    ∃ pattern, ofText (String.ofList (barred (word :: words))) = .ok pattern ∧
      pattern.root.IsPlain ∧ ∀ taken, pattern.root.Takes taken ↔ taken ∈ word :: words := by
  rcases read_words ordinary with ⟨progress, reads, switches, tree⟩
  rcases ofTree_words progress.widthOf word words with ⟨root, compiles, plain, takes⟩
  refine ⟨⟨String.ofList (barred (word :: words)), root⟩, ?_, plain, takes⟩
  rw [ofText, reads, ok_bind, switches, tree, compiles]
  rfl

end LogRelay.Pattern

namespace LogRelay.Filter

open LogRelay.Pattern

/-- A filter for words with bars between them has a pattern, with nothing to note about it, and lets
through exactly the messages in which one of the words stands somewhere. -/
theorem accepts_words (words : List String) (nonempty : words ≠ [])
    (ordinary : ∀ word ∈ words, ∀ char ∈ word.toList, IsOrdinary char) :
    ∃ filter, ofText (some ("|".intercalate words)) = .ok (filter, []) ∧ filter.isActive = true ∧
      ∀ message : String, filter.accepts message = true ↔
        ∃ word ∈ words, word.toList <:+: message.toList := by
  rcases words with _ | ⟨word, words⟩
  · exact absurd rfl nonempty
  have listed : ∀ chars ∈ word.toList :: words.map String.toList, ∀ char ∈ chars,
      IsOrdinary char := by
    rw [← List.map_cons, List.forall_mem_map]
    exact ordinary
  have text : "|".intercalate (word :: words) =
      String.ofList (barred (word.toList :: words.map String.toList)) := by
    rw [← String.toList_inj]
    simp [barred]
  rcases Pattern.ofText_words listed with ⟨pattern, made, plain, takes⟩
  refine ⟨⟨some pattern⟩, ?_, rfl, ?_⟩
  · rw [ofText, text, made]
  · intro message
    have searched : (Filter.mk (some pattern)).accepts message =
        (search pattern.root message.toList).isSome := rfl
    rw [searched, search_isSome_iff plain]
    simp only [takes, ← List.map_cons, List.mem_map]
    constructor
    · rintro ⟨-, ⟨found, is_listed, rfl⟩, within⟩
      exact ⟨found, is_listed, within⟩
    · rintro ⟨found, is_listed, within⟩
      exact ⟨found.toList, ⟨found, is_listed, rfl⟩, within⟩

/-- A word can hold blanks and marks that mean nothing in a pattern. -/
theorem accepts_words_linkNames :
    ["up", "link #", "é-"] ≠ [] ∧
    (∀ word ∈ ["up", "link #", "é-"], ∀ char ∈ word.toList, IsOrdinary char) ∧
    ∃ filter, ofText (some "up|link #|é-") = .ok (filter, []) ∧ filter.isActive = true ∧
      filter.accepts "wan: link #2 lost" = true ∧ filter.accepts "link lost" = false := by
  have nonempty : ["up", "link #", "é-"] ≠ [] := by decide
  have ordinary : ∀ word ∈ ["up", "link #", "é-"], ∀ char ∈ word.toList, IsOrdinary char := by
    simp [IsOrdinary, marks]
  rcases accepts_words ["up", "link #", "é-"] nonempty ordinary with
    ⟨filter, made, active, accepts⟩
  refine ⟨nonempty, ordinary, filter, made, active, (accepts _).mpr ?_, ?_⟩
  · decide
  · rw [← Bool.not_eq_true, accepts]
    decide

end LogRelay.Filter
