import LogRelay.Proofs.Options.Build
import LogRelay.Proofs.Record.RoundTrip
import LogRelay.Source.Request

/-!
# The request that a configuration makes

A request is a frame with a table. Where the number of lines fits its field, which takes 32 bits, the
request can be written, and what is read from it is what was configured. The options take any number
that is not negative, and there is no request for one that is too great for the field
(`Request.encode_configured`).
-/

namespace LogRelay

open LogRelay.Blob LogRelay.Fallible LogRelay.Stream

namespace Request

theorem storable_items {lines : Int} (natural : 0 ≤ lines) (short : lines < 0x100000000)
    (follow : Bool) : ∀ item ∈ items lines follow, item.Storable := by
  have names :
      (Utf8.encode "stream").length ≤ nameLimit ∧ (Utf8.encode "lines").length ≤ nameLimit := by
    decide
  have stream : Item.Storable ⟨"stream", Kind.int8.code, .integer 1⟩ := by
    refine ⟨names.1, .integer (show Kind.int8.width? = some 1 from rfl) ?_ ?_ ?_⟩ <;> decide
  have limit : Item.Storable ⟨"lines", Kind.int32.code, .integer lines⟩ := by
    refine ⟨names.2, .integer (show Kind.int32.width? = some 4 from rfl) ?_ natural short⟩
    decide
  intro item item_mem
  rw [items] at item_mem
  split at item_mem <;> simp at item_mem
  · rcases item_mem with rfl | rfl
    · exact stream
    · exact limit
  · rw [item_mem]
    exact stream

theorem exists_encode {lines : Int} (natural : 0 ≤ lines) (short : lines < 0x100000000)
    (follow : Bool) : ∃ request, encode lines follow = .ok request := by
  -- The size does not depend on how many lines are asked for.
  have whole : headerSize + tableSize (items lines follow) ≤ lengthLimit := by
    rw [items]
    split
    · show headerSize + tableSize [⟨"stream", Kind.int8.code, .integer 1⟩,
        ⟨"lines", Kind.int32.code, .integer 0⟩] ≤ lengthLimit
      decide
    · decide
  cases encoded : encode lines follow with
  | ok request => exact ⟨request, rfl⟩
  | error fault =>
      rcases oversized_of_encodeFrame (storable_items natural short follow) encoded with
        ⟨item, item_mem, -, long⟩ | ⟨-, long⟩
      · have small := size_le_tableSize item_mem
        omega
      · omega

/-- What a request says: that the stream is asked for, and how many lines of what the source holds, if
not all of them. -/
def members (lines : Int) (follow : Bool) : Table :=
  ("stream", .integer 1) ::
    if 0 < lines then [("lines", .integer lines)]
    else if follow then [("lines", .integer 0)]
    else []

theorem ofEntries_items {lines : Int} (natural : 0 ≤ lines) (follow : Bool) :
    Table.ofEntries ((items lines follow).map Item.entry) = members lines follow := by
  rcases Int.lt_or_eq_of_le natural with limited | unlimited
  · have asked : lines ≠ 0 ∨ follow = true := .inl (by omega)
    rw [items, members, if_pos asked, if_pos limited]
    rfl
  · rw [← unlimited]
    cases follow <;> rfl

/-- The field for the number of lines takes 32 bits. -/
theorem encodeItem_of_long {lines : Int} (long : 0x100000000 ≤ lines) :
    encodeItem ⟨"lines", Kind.int32.code, .integer lines⟩ = .error .unfit := by
  have misfit : ¬(0 ≤ lines ∧ lines < Nat.pow 256 4) := by
    intro fits
    exact absurd fits.2 (Int.not_lt.mpr long)
  have unfit := encodeValue_integer (show Kind.int32.width? = some 4 from rfl) (by decide) lines
  rw [if_neg misfit] at unfit
  rw [encodeItem]
  simp only [unfit, error_bind]

theorem encode_of_long {lines : Int} (long : 0x100000000 ≤ lines) (follow : Bool) :
    encode lines follow = .error .unfit := by
  have asked : lines ≠ 0 ∨ follow = true := .inl (by omega)
  have unwritten : (items lines follow).mapM encodeItem = .error .unfit := by
    rw [items, if_pos asked, mapM_eq_error_iff]
    refine ⟨[⟨"stream", Kind.int8.code, .integer 1⟩], _, [], rfl, ?_, encodeItem_of_long long⟩
    exact List.forall_mem_singleton.mpr ⟨_, rfl⟩
  rw [encode, encodeFrame, encodeTable, unwritten, error_bind, error_bind]

/-- The request that a configuration makes says what was configured: it is one frame with nothing behind
it, whose table asks for the stream and for the lines. There is no request just if the number of lines
takes more than 32 bits. -/
theorem encode_configured {values : List (String × Options.Value)} {config : WordedConfig}
    (built : Config.build values = .ok config) :
    (config.lines < 0x100000000 → ∃ request content,
      encode config.lines config.follow = .ok request ∧
        takeAll .payloads .empty [request] = ([.payload content], none, .empty) ∧
        decodeTable content = .ok (members config.lines config.follow)) ∧
    (0x100000000 ≤ config.lines → encode config.lines config.follow = .error .unfit) := by
  have natural := Config.lines_of_build built
  refine ⟨?_, fun long => encode_of_long long config.follow⟩
  intro short
  rcases exists_encode natural short config.follow with ⟨request, encoded⟩
  have storable := storable_items natural short config.follow
  rcases isFrame_of_encodeFrame storable encoded with ⟨is_frame, is_table⟩
  refine ⟨request, payload request, encoded, ?_, ?_⟩
  · have only : ∀ frame ∈ [request], IsFrame frame := List.forall_mem_singleton.mpr is_frame
    exact takeAll_flatten .payloads only rfl
  · rw [decodeTable_of_encodeTable storable is_table, ofEntries_items natural]

theorem encode_configured_mostLines : ∃ config,
    Config.build [("lines", .text "4_294_967_295"), ("follow", .flag true)] = .ok config ∧
      config.lines < 0x100000000 ∧ ∃ request content,
        encode config.lines config.follow = .ok request ∧
        takeAll .payloads .empty [request] = ([.payload content], none, .empty) ∧
        decodeTable content = .ok [("stream", .integer 1), ("lines", .integer 0xFFFFFFFF)] := by
  have made : (Config.build [("lines", .text "4_294_967_295"), ("follow", .flag true)]).toOption =
      some { lines := 0xFFFFFFFF, follow := true } := by
    decide +kernel
  have built := toOption_eq_some.mp made
  have short : (0xFFFFFFFF : Int) < 0x100000000 := by decide
  exact ⟨_, built, short, (encode_configured built).1 short⟩

/-- A number of lines that takes 33 bits passes as an option, and there is no request for it. -/
theorem tooManyLines_taken : ∃ config,
    Config.build [("lines", .integer 0x100000000)] = .ok config ∧
      encode config.lines config.follow = .error .unfit := by
  have made : (Config.build [("lines", .integer 0x100000000)]).toOption =
      some { lines := 0x100000000 } := by
    decide +kernel
  exact ⟨_, toOption_eq_some.mp made, encode_of_long (Int.le_refl _) _⟩

end Request

end LogRelay
