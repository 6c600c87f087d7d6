import LogRelay.Posix.Path

/-!
# A path with `.old` behind it

A path that ends in a name leads to the same directory when `.old` is put behind it, and there to
the name with `.old` behind it. This is what a file is renamed to that is moved out of the way, so
it never takes its own place.
-/

namespace LogRelay.Path

/-- Splitting a list puts what follows it, up to the next separator, behind its last part. -/
theorem exists_splitOn_append (chars : List Char) :
    ∃ earlier last, (last = [] → chars = [] ∨ chars.getLast? = some '/') ∧
      ∀ suffix : List Char, '/' ∉ suffix →
        (chars ++ suffix).splitOn '/' = earlier ++ [last ++ suffix] := by
  by_cases has_slash : '/' ∈ chars.reverse
  · rcases List.eq_append_cons_of_mem has_slash with ⟨last, earlier, reversed, last_slashless⟩
    have chars_eq : chars = earlier.reverse ++ '/' :: last.reverse := by
      rw [← List.reverse_reverse chars, reversed]
      simp
    refine ⟨earlier.reverse.splitOn '/', last.reverse, ?_, ?_⟩
    · intro nothing_last
      rw [chars_eq, nothing_last]
      simp
    · intro suffix suffix_slashless
      have slashless : '/' ∉ last.reverse ++ suffix := by
        simp [last_slashless, suffix_slashless]
      rw [chars_eq, List.append_assoc, List.cons_append, List.splitOn_append_cons_self,
        List.splitOn_eq_singleton slashless]
  · refine ⟨[], chars, Or.inl, ?_⟩
    intro suffix suffix_slashless
    rw [List.mem_reverse] at has_slash
    have slashless : '/' ∉ chars ++ suffix := by
      simp [has_slash, suffix_slashless]
    rw [List.splitOn_eq_singleton slashless, List.nil_append]

/-- The names of a path that ends in no slash, and those of the path with `.old` behind it. -/
theorem exists_names {text : String} (nonempty : text ≠ "")
    (ends_in_name : text.toList.getLast? ≠ some '/') :
    ∃ before name, names text = before ++ [name] ∧
      names (text ++ ".old") = before ++ [name ++ ".old"] := by
  rcases exists_splitOn_append text.toList with ⟨earlier, last, only_empty, splits⟩
  have chars_ne_nil : text.toList ≠ [] := by simpa using nonempty
  have last_ne_nil : last ≠ [] := by
    intro nothing_last
    rcases only_empty nothing_last with empty | slash
    · exact chars_ne_nil empty
    · exact ends_in_name slash
  have first : (text.toList ++ ".old".toList).head? = text.toList.head? := by
    rw [List.head?_append, Option.or_of_isSome]
    simpa using chars_ne_nil
  have plain := splits [] (by simp)
  have old := splits ".old".toList (by decide)
  rw [List.append_nil, List.append_nil] at plain
  refine ⟨(if text.toList.head? = some '/' then [root] else []) ++
    (earlier.filter (· ≠ [])).map String.ofList, String.ofList last, ?_, ?_⟩
  · simp [names, plain, last_ne_nil]
  · rw [names, String.toList_append, first, old]
    simp [String.ofList_append]

theorem not_isStep_append_old (name : String) : isStep (name ++ ".old") = false := by
  have long : ∀ short : String, short.length < 4 → name ++ ".old" ≠ short := by
    intro short is_short same
    have same_length := congrArg String.length same
    rw [String.length_append] at same_length
    have four : ".old".length = 4 := by decide
    omega
  simp [isStep, long "." (by decide), long ".." (by decide), long root (by decide)]

theorem append_old_ne (name : String) : name ++ ".old" ≠ name := by
  intro same
  have same_length := congrArg String.length same
  rw [String.length_append] at same_length
  have four : ".old".length = 4 := by decide
  omega

/-- What a path is like that ends in a name. -/
theorem ofText_eq_name {text name : String} {before : List String} {slash : Bool}
    (leads : ofText text = .ok ⟨before, .name name slash⟩) :
    '\x00' ∉ text.toList ∧ names text = before ++ [name] ∧ isStep name = false ∧
      (text.toList.getLast? == some '/') = slash := by
  rw [ofText] at leads
  split at leads
  · cases leads
  · rename_i zeroless
    split at leads
    · cases leads
    · split at leads
      · cases leads
      · rename_i last reversed_before reversed
        by_cases step : isStep last = true
        · simp [step] at leads
        · simp only [step, Bool.false_eq_true, if_false, Except.ok.injEq, Path.mk.injEq,
            LastName.name.injEq] at leads
          rcases leads with ⟨rfl, rfl, slash_eq⟩
          refine ⟨by simpa using zeroless, ?_, by simpa using step, slash_eq⟩
          rw [← List.reverse_reverse (names text), reversed, List.reverse_cons]

/-- A path that ends in a name is followed in the same way with `.old` behind it, unless that makes
it too long. -/
theorem ofText_append_old {text name : String} {before : List String}
    (leads : ofText text = .ok ⟨before, .name name false⟩) :
    ofText (text ++ ".old") = .error .nameTooLong ∨
      ofText (text ++ ".old") = .ok ⟨before, .name (name ++ ".old") false⟩ := by
  rcases ofText_eq_name leads with ⟨zeroless, names_text, -, slashless⟩
  have no_slash : text.toList.getLast? ≠ some '/' := by simpa using slashless
  have nonempty : text ≠ "" := by
    intro empty
    rw [empty, names] at names_text
    simp at names_text
  rcases exists_names nonempty no_slash with ⟨before', name', names_text', names_old⟩
  rw [names_text'] at names_text
  rcases List.append_inj' names_text rfl with ⟨rfl, same_name⟩
  cases same_name
  by_cases long : pathLimit < Utf8.size (text ++ ".old")
  · left
    simp [ofText, zeroless, long]
  · right
    simp [ofText, zeroless, long, names_old, not_isStep_append_old]

end LogRelay.Path
