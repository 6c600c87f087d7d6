import LogRelay.Blob.Table
import Mathlib.Data.List.Induction

/-!
# Tables as lists of entries

A table is made by setting one entry after the other. What it then holds is told by the entries
alone: its names are those of the entries, each where it first occurred (`names_ofEntries`), and a
name has the value of its last entry (`get?_ofEntries`). The two together determine the table.
-/

namespace LogRelay.Blob.Table

/-- The table that entries make, set one after the other. -/
def ofEntries (entries : List (String × Value)) : Table :=
  entries.foldl (fun table entry => table.set entry.1 entry.2) []

/-- The value in the last entry of a name. -/
def lastValue? (entries : List (String × Value)) (name : String) : Option Value :=
  (entries.filter (·.1 = name)).getLast?.map Prod.snd

theorem get?_cons (entry : String × Value) (table : Table) (name : String) :
    get? (entry :: table) name = if entry.1 = name then some entry.2 else get? table name := by
  rcases entry with ⟨first, value⟩
  rw [get?, List.lookup_cons]
  by_cases same : first = name
  · subst same
    simp
  · have other : (name == first) = false := by simpa using Ne.symm same
    rw [other, if_neg same]
    rfl

theorem get?_set (table : Table) (name : String) (value : Value) (other : String) :
    (table.set name value).get? other = if name = other then some value else table.get? other := by
  induction table with
  | nil => exact get?_cons ..
  | cons entry table ih =>
      rcases entry with ⟨first, old⟩
      rw [set]
      by_cases here : first = name
      · subst here
        rw [if_pos rfl, get?_cons, get?_cons]
        split <;> rfl
      · rw [if_neg here, get?_cons, get?_cons, ih]
        by_cases there : first = other
        · have differs : ¬name = other := by
            rintro rfl
            exact here there
          rw [if_pos there, if_neg differs, if_pos there]
        · rw [if_neg there, if_neg there]

theorem names_set (table : Table) (name : String) (value : Value) :
    (table.set name value).map Prod.fst =
      if name ∈ table.map Prod.fst then table.map Prod.fst else table.map Prod.fst ++ [name] := by
  induction table with
  | nil => rfl
  | cons entry table ih =>
      rcases entry with ⟨first, old⟩
      rw [set]
      by_cases here : first = name
      · subst here
        simp
      · rw [if_neg here, List.map_cons, ih, List.map_cons]
        by_cases later : name ∈ table.map Prod.fst
        · rw [if_pos later, if_pos (List.mem_cons_of_mem _ later)]
        · rw [if_neg later, if_neg (by simpa [Ne.symm here] using later), List.cons_append]

theorem ofEntries_concat (entries : List (String × Value)) (entry : String × Value) :
    ofEntries (entries ++ [entry]) = (ofEntries entries).set entry.1 entry.2 := by
  rw [ofEntries, List.foldl_append]
  rfl

/-- The names of a table stand where they first occurred. -/
theorem names_ofEntries (entries : List (String × Value)) :
    (ofEntries entries).map Prod.fst = (entries.map Prod.fst).eraseDups := by
  -- A table grows at its end, so the induction adds the entries there.
  induction entries using List.reverseRecOn with
  | nil => rfl
  | append_singleton entries entry ih =>
      rw [ofEntries_concat, names_set, ih, List.map_append, List.eraseDups_append]
      by_cases known : entry.1 ∈ entries.map Prod.fst
      · rw [if_pos (List.mem_eraseDups.mpr known)]
        simp [List.removeAll, known]
      · rw [if_neg fun mem => known (List.mem_eraseDups.mp mem)]
        simp [List.removeAll, known, List.eraseDups_cons]

/-- The value of a name is that of its last entry. -/
theorem get?_ofEntries (entries : List (String × Value)) (name : String) :
    (ofEntries entries).get? name = lastValue? entries name := by
  induction entries using List.reverseRecOn with
  | nil => rfl
  | append_singleton entries entry ih =>
      rw [ofEntries_concat, get?_set, ih, lastValue?, lastValue?, List.filter_append]
      by_cases same : entry.1 = name
      · simp [same]
      · simp [same]

end LogRelay.Blob.Table
