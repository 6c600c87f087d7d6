import LogRelay.Text.Quoted

/-!
# Wordings

A text from outside can hold what is no character: one half of a surrogate pair without the other, which
stands for a byte that could not be decoded, or was written as an escape. Such a wording can be kept,
compared and quoted, but it cannot be encoded. A wording of characters only is a text.
-/

namespace LogRelay

/-- What a wording is made of. -/
inductive Glyph where
  | char (letter : Char)
  /-- Half of a surrogate pair, by its place among all halves. -/
  | half (index : Fin 0x800)
  deriving DecidableEq, Repr

namespace Glyph

/-- The code of the first half of a surrogate pair. -/
def firstHalf : Nat := 0xD800

/-- What is shown for a glyph. -/
def shown : Glyph → Char
  | char letter => letter
  | half _ => '\uFFFD'

def isChar : Glyph → Bool
  | char _ => true
  | half _ => false

/-- Whether a path can have the glyph in it: some halves stand for the bytes beyond ASCII. -/
def isNameable : Glyph → Bool
  | char _ => true
  | half index => 0x480 ≤ index.val && index.val < 0x500

/-- The code of a glyph. -/
def code : Glyph → Nat
  | char letter => letter.toNat
  | half index => firstHalf + index

/-- A glyph as a stream shows it that takes characters only. -/
def escaped : Glyph → String
  | char letter => String.singleton letter
  | half index => "\\u" ++ Text.hexadecimal 4 (half index).code

/-- A glyph inside the given quotes. -/
def quoted (quote : Char) : Glyph → String
  | char letter => Text.quoteChar quote letter
  | half index => (half index).escaped

end Glyph

/-- A text from outside. -/
abbrev Wording := List Glyph

namespace Wording

/-- The wording of a text. -/
def ofText (text : String) : Wording := text.toList.map .char

instance : Coe String Wording := ⟨ofText⟩

/-- The text that is shown for a wording. -/
def shown (wording : Wording) : String := String.ofList (wording.map Glyph.shown)

/-- Whether the wording can be encoded. -/
def isText (wording : Wording) : Bool := wording.all Glyph.isChar

/-- The text that a wording is, if it is one. -/
def text? (wording : Wording) : Option String :=
  if wording.isText then some wording.shown else none

/-- The wording as a stream shows it that takes characters only. -/
def escaped (wording : Wording) : String := String.join (wording.map Glyph.escaped)

/-- The codes of the glyphs, by which wordings are ordered. -/
def codes (wording : Wording) : List Nat := wording.map Glyph.code

/-- A wording in quotes. -/
def quoted (wording : Wording) : String :=
  let quote := if wording.contains (.char '\'') && !wording.contains (.char '"') then '"' else '\''
  String.singleton quote ++ String.join (wording.map (Glyph.quoted quote)) ++ String.singleton quote

@[simp]
theorem shown_ofText (text : String) : (ofText text).shown = text := by
  rw [shown, ofText, List.map_map]
  exact (congrArg String.ofList (List.map_id text.toList)).trans String.ofList_toList

theorem ofText_injective : Function.Injective ofText :=
  Function.LeftInverse.injective shown_ofText

@[simp]
theorem isText_ofText (text : String) : (ofText text).isText = true := by
  simp [isText, ofText, Glyph.isChar]

theorem ofText_shown {wording : Wording} (is_text : wording.isText = true) :
    ofText wording.shown = wording := by
  have same : ∀ glyph ∈ wording, Glyph.char glyph.shown = glyph := by
    intro glyph mem
    cases glyph with
    | char letter => rfl
    | half index => cases List.all_eq_true.mp is_text _ mem
  rw [ofText, shown, String.toList_ofList, List.map_map]
  exact (List.map_congr_left same).trans (List.map_id wording)

theorem text?_eq_some_iff {wording : Wording} {text : String} :
    wording.text? = some text ↔ wording = ofText text := by
  constructor
  · intro made
    rw [text?] at made
    split at made
    · rename_i is_text
      cases made
      exact (ofText_shown is_text).symm
    · cases made
  · rintro rfl
    simp [text?]

end Wording

end LogRelay
