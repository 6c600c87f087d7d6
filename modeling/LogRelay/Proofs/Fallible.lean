import Mathlib.Data.List.Forall2

/-!
# Computations that may fail

A sequence of fallible steps ends well if and only if each of its steps does. A fault with which
steps over a list end is the fault of one of them.
-/

namespace LogRelay.Fallible

variable {Fault Found Result State : Type}

@[simp]
theorem ok_bind (found : Found) (next : Found → Except Fault Result) :
    (Except.ok found >>= next) = next found := rfl

@[simp]
theorem error_bind (fault : Fault) (next : Found → Except Fault Result) :
    (Except.error fault >>= next) = .error fault := rfl

@[simp]
theorem pure_eq_ok (found : Found) : (pure found : Except Fault Found) = .ok found := rfl

@[simp]
theorem throw_eq_error (fault : Fault) : (throw fault : Except Fault Found) = .error fault := rfl

theorem bind_eq_ok {call : Except Fault Found} {next : Found → Except Fault Result}
    {result : Result} :
    (call >>= next) = .ok result ↔ ∃ found, call = .ok found ∧ next found = .ok result := by
  cases call with
  | error fault => simp
  | ok found => simp

/-- A computation that goes on unless something is the case. -/
theorem refuse_eq_ok {condition : Prop} [Decidable condition] {fault : Fault}
    {next : Unit → Except Fault Result} {result : Result} :
    (if condition then throw fault >>= next else next ()) = .ok result ↔
      ¬condition ∧ next () = .ok result := by
  by_cases refused : condition
  · rw [if_pos refused, throw_eq_error, error_bind]
    simp [refused]
  · rw [if_neg refused]
    simp [refused]

theorem bind_eq_error {call : Except Fault Found} {next : Found → Except Fault Result}
    {fault : Fault} :
    (call >>= next) = .error fault ↔
      call = .error fault ∨ ∃ found, call = .ok found ∧ next found = .error fault := by
  cases call with
  | error other => simp
  | ok found => simp

theorem map_eq_ok {call : Except Fault Found} {change : Found → Result} {result : Result} :
    call.map change = .ok result ↔ ∃ found, call = .ok found ∧ change found = result := by
  cases call with
  | error fault => simp [Except.map]
  | ok found => simp [Except.map]

theorem map_eq_error {call : Except Fault Found} {change : Found → Result} {fault : Fault} :
    call.map change = .error fault ↔ call = .error fault := by
  cases call with
  | error other => simp [Except.map]
  | ok found => simp [Except.map]

theorem toOption_eq_some {call : Except Fault Found} {found : Found} :
    call.toOption = some found ↔ call = .ok found := by
  cases call with
  | error fault => simp [Except.toOption]
  | ok other => simp [Except.toOption]

theorem mapError_eq_ok {Other : Type} {call : Except Fault Found} {change : Fault → Other}
    {found : Found} : call.mapError change = .ok found ↔ call = .ok found := by
  cases call with
  | error fault => simp [Except.mapError]
  | ok other => simp [Except.mapError]

theorem mapError_eq_error {Other : Type} {call : Except Fault Found} {change : Fault → Other}
    {fault : Other} :
    call.mapError change = .error fault ↔ ∃ other, call = .error other ∧ change other = fault := by
  cases call with
  | error other => simp [Except.mapError]
  | ok found => simp [Except.mapError]

theorem mapM_eq_ok_iff {step : Found → Except Fault Result} {items : List Found}
    {results : List Result} :
    items.mapM step = .ok results ↔
      List.Forall₂ (fun item result => step item = .ok result) items results := by
  induction items generalizing results with
  | nil => cases results <;> simp
  | cons item items ih =>
      rw [List.mapM_cons]
      simp only [bind_eq_ok, pure_eq_ok, Except.ok.injEq, ih]
      constructor
      · rintro ⟨result, stepped, later, steps, rfl⟩
        exact .cons stepped steps
      · rintro (_ | ⟨stepped, steps⟩)
        exact ⟨_, stepped, _, steps, rfl⟩

theorem mem_of_mapM_eq_ok {step : Found → Except Fault Result} {items : List Found}
    {results : List Result} (ends_well : items.mapM step = .ok results) :
    (∀ item ∈ items, ∃ result ∈ results, step item = .ok result) ∧
      ∀ result ∈ results, ∃ item ∈ items, step item = .ok result := by
  have steps := mapM_eq_ok_iff.mp ends_well
  clear ends_well
  induction steps with
  | nil => simp
  | @cons item result items results stepped steps ih =>
      rcases ih with ⟨forth, back⟩
      constructor
      · rintro other (_ | ⟨_, later⟩)
        · exact ⟨result, List.mem_cons_self, stepped⟩
        · rcases forth other later with ⟨found, found_mem, other_stepped⟩
          exact ⟨found, List.mem_cons_of_mem _ found_mem, other_stepped⟩
      · rintro other (_ | ⟨_, later⟩)
        · exact ⟨item, List.mem_cons_self, stepped⟩
        · rcases back other later with ⟨found, found_mem, found_stepped⟩
          exact ⟨found, List.mem_cons_of_mem _ found_mem, found_stepped⟩

/-- Steps over a list end with the fault of the first one that fails. -/
theorem mapM_eq_error_iff {step : Found → Except Fault Result} {items : List Found} {fault : Fault} :
    items.mapM step = .error fault ↔ ∃ before item after, items = before ++ item :: after ∧
      (∀ other ∈ before, ∃ result, step other = .ok result) ∧ step item = .error fault := by
  induction items with
  | nil => simp
  | cons item items ih =>
      rw [List.mapM_cons, bind_eq_error]
      constructor
      · rintro (here | ⟨result, stepped, later⟩)
        · exact ⟨[], item, items, rfl, by simp, here⟩
        · rcases bind_eq_error.mp later with there | ⟨results, -, ends⟩
          · rcases ih.mp there with ⟨before, other, after, rfl, well, fails⟩
            refine ⟨item :: before, other, after, rfl, ?_, fails⟩
            exact List.forall_mem_cons.mpr ⟨⟨result, stepped⟩, well⟩
          · cases ends
      · rintro ⟨_ | ⟨first, before⟩, other, after, cut, well, fails⟩
        · cases cut
          exact .inl fails
        · cases cut
          rcases List.forall_mem_cons.mp well with ⟨⟨result, stepped⟩, well_later⟩
          refine .inr ⟨result, stepped, bind_eq_error.mpr (.inl ?_)⟩
          exact ih.mpr ⟨before, other, after, rfl, well_later, fails⟩

theorem exists_of_mapM_eq_error {step : Found → Except Fault Result} {items : List Found}
    {fault : Fault} (fails : items.mapM step = .error fault) :
    ∃ item ∈ items, step item = .error fault := by
  rcases mapM_eq_error_iff.mp fails with ⟨before, item, after, rfl, -, here⟩
  exact ⟨item, by simp, here⟩

theorem foldlM_keeps {step : State → Found → Except Fault State} {keeps : State → Prop}
    {items : List Found}
    (steps : ∀ state, ∀ item ∈ items, ∀ after, keeps state → step state item = .ok after →
      keeps after)
    {state last : State} (kept : keeps state) (ends_well : items.foldlM step state = .ok last) :
    keeps last := by
  induction items generalizing state with
  | nil =>
      cases ends_well
      exact kept
  | cons item items ih =>
      rw [List.foldlM_cons, bind_eq_ok] at ends_well
      rcases ends_well with ⟨next, here, later⟩
      have steps_later : ∀ state, ∀ other ∈ items, ∀ after, keeps state →
          step state other = .ok after → keeps after :=
        fun state other mem => steps state other (List.mem_cons_of_mem _ mem)
      exact ih steps_later (steps state item List.mem_cons_self next kept here) later

theorem exists_of_foldlM_eq_error {step : State → Found → Except Fault State} {state : State}
    {items : List Found} {fault : Fault} (fails : items.foldlM step state = .error fault) :
    ∃ reached, ∃ item ∈ items, step reached item = .error fault := by
  induction items generalizing state with
  | nil => simp at fails
  | cons item items ih =>
      rw [List.foldlM_cons, bind_eq_error] at fails
      rcases fails with here | ⟨next, -, later⟩
      · exact ⟨state, item, by simp, here⟩
      · rcases ih later with ⟨reached, other, other_mem, faulty⟩
        exact ⟨reached, other, List.mem_cons_of_mem _ other_mem, faulty⟩

/-- Steps of which each fails for certain items, whatever came before, fail if there is such an item. -/
theorem foldlM_fails_iff {step : State → Found → Except Fault State} {faulty : Found → Prop}
    (fails_iff : ∀ state item, (∃ fault, step state item = .error fault) ↔ faulty item)
    (items : List Found) (state : State) :
    (∃ fault, items.foldlM step state = .error fault) ↔ ∃ item ∈ items, faulty item := by
  induction items generalizing state with
  | nil => simp
  | cons item items ih =>
      rw [List.foldlM_cons, List.exists_mem_cons_iff, ← fails_iff state item]
      cases stepped : step state item with
      | error fault => simp
      | ok next => simp [ih next]

end LogRelay.Fallible
