import LogRelay.Record.Stream
import Mathlib.Tactic.ByContra

/-!
# The frames of a byte sequence

A byte sequence is cut into frames from its start: a header of four bytes declares in its last three
how long the frame is, header included, and the next frame begins right behind. Cutting stops where
a header or a frame is incomplete, and where a header declares less than its own four bytes.

This is the measure of everything that takes records from a stream. It knows of no buffer and of no
order of arrival, and it is defined without the decoder. The main statements are that frames in
front of any bytes are cut off whole (`frames_flatten_append`), and what the front of a decoder's
buffer says in terms of frames (`front_eq_incomplete_iff`, `front_eq_corrupt_iff`, `front_append`).
-/

namespace LogRelay.Stream

/-- The length that the header at the start of a byte sequence declares, if it is complete. -/
def declared? : List UInt8 → Option Nat
  | _ :: high :: middle :: low :: _ =>
      some (high.toNat * 65536 + middle.toNat * 256 + low.toNat)
  | _ => none

/-- The frames at the start of a byte sequence, each with its header. -/
def frames (bytes : List UInt8) : List (List UInt8) :=
  match declared? bytes with
  | none => []
  | some length =>
      if _whole : 4 ≤ length ∧ length ≤ bytes.length then
        bytes.take length :: frames (bytes.drop length)
      else []
termination_by bytes.length
decreasing_by
  simp only [List.length_drop]
  omega

/-- What is left behind the frames of a byte sequence. -/
def remainder (bytes : List UInt8) : List UInt8 :=
  bytes.drop (frames bytes).flatten.length

/-- The payload of a frame. -/
def payload (frame : List UInt8) : List UInt8 :=
  frame.drop 4

/-- The bytes are one frame. -/
def IsFrame (frame : List UInt8) : Prop :=
  4 ≤ frame.length ∧ declared? frame = some frame.length

/-- The bytes are less than one whole frame. -/
def IsPartial (bytes : List UInt8) : Prop :=
  ∀ length, declared? bytes = some length → bytes.length < length

/-- The bytes start with a header that declares less than itself. -/
def IsCorrupt (bytes : List UInt8) : Prop :=
  ∃ length, declared? bytes = some length ∧ length < 4

theorem four_le_length {bytes : List UInt8} {length : Nat} (declares : declared? bytes = some length) :
    4 ≤ bytes.length := by
  rcases bytes with _ | ⟨first, _ | ⟨second, _ | ⟨third, _ | ⟨fourth, rest⟩⟩⟩⟩ <;>
    simp [declared?] at declares ⊢

/-- Only the first four bytes count for what a header declares. -/
theorem declared?_append {bytes : List UInt8} (enough : 4 ≤ bytes.length) (rest : List UInt8) :
    declared? (bytes ++ rest) = declared? bytes := by
  rcases bytes with _ | ⟨first, _ | ⟨second, _ | ⟨third, _ | ⟨fourth, more⟩⟩⟩⟩ <;>
    simp [declared?] at enough ⊢

theorem declared?_take {bytes : List UInt8} {length : Nat} (enough : 4 ≤ length)
    (fits : length ≤ bytes.length) : declared? (bytes.take length) = declared? bytes := by
  have long : 4 ≤ (bytes.take length).length := by
    rw [List.length_take]
    omega
  rw [← declared?_append long (bytes.drop length), List.take_append_drop]

theorem IsCorrupt.append {bytes : List UInt8} (corrupt : IsCorrupt bytes) (rest : List UInt8) :
    IsCorrupt (bytes ++ rest) := by
  rcases corrupt with ⟨length, declares, too_small⟩
  refine ⟨length, ?_, too_small⟩
  rw [declared?_append (four_le_length declares), declares]

theorem isPartial_nil : IsPartial [] := by
  intro length declares
  cases declares

theorem not_isPartial_of_isFrame {frame : List UInt8} (whole : IsFrame frame) (rest : List UInt8) :
    ¬IsPartial (frame ++ rest) := by
  intro lacks
  have short := lacks frame.length (by rw [declared?_append whole.1, whole.2])
  rw [List.length_append] at short
  omega

/-! ## Cutting -/

theorem frames_eq_nil_of_isPartial {bytes : List UInt8} (lacks : IsPartial bytes) :
    frames bytes = [] := by
  rw [frames]
  split
  · rfl
  · rename_i length declares
    have short := lacks length declares
    rw [dif_neg]
    omega

theorem frames_eq_nil_of_isCorrupt {bytes : List UInt8} (corrupt : IsCorrupt bytes) :
    frames bytes = [] := by
  rcases corrupt with ⟨length, declares, too_small⟩
  rw [frames, declares]
  simp only
  rw [dif_neg]
  omega

/-- A frame in front is the first of the frames. -/
theorem frames_append {frame : List UInt8} (whole : IsFrame frame) (rest : List UInt8) :
    frames (frame ++ rest) = frame :: frames rest := by
  rcases whole with ⟨enough, declares⟩
  rw [frames, declared?_append enough, declares]
  simp only
  rw [dif_pos ⟨enough, by simp⟩, List.take_left, List.drop_left]

/-- Any number of frames in front are the first of the frames. -/
theorem frames_flatten_append {whole : List (List UInt8)} (are_frames : ∀ frame ∈ whole, IsFrame frame)
    (rest : List UInt8) : frames (whole.flatten ++ rest) = whole ++ frames rest := by
  induction whole with
  | nil => rfl
  | cons frame whole ih =>
      rw [List.flatten_cons, List.append_assoc, frames_append (are_frames frame (by simp)),
        ih fun other other_mem => are_frames other (List.mem_cons_of_mem _ other_mem),
        List.cons_append]

/-- A byte sequence is its frames and what is left behind them, and what is left starts with no
frame. -/
theorem exists_frames (bytes : List UInt8) :
    ∃ rest, bytes = (frames bytes).flatten ++ rest ∧ (∀ frame ∈ frames bytes, IsFrame frame) ∧
      (IsPartial rest ∨ IsCorrupt rest) := by
  fun_induction frames bytes with
  | case1 bytes declares =>
      refine ⟨bytes, rfl, by simp, Or.inl ?_⟩
      intro length is_declared
      rw [declares] at is_declared
      cases is_declared
  | case2 bytes length declares whole ih =>
      rcases ih with ⟨rest, cut, are_frames, stops⟩
      refine ⟨rest, ?_, ?_, stops⟩
      · rw [List.flatten_cons, List.append_assoc, ← cut, List.take_append_drop]
      · intro frame frame_mem
        rcases List.mem_cons.mp frame_mem with first | later
        · subst first
          have exact_length : (bytes.take length).length = length := by
            rw [List.length_take]
            omega
          refine ⟨by omega, ?_⟩
          rw [declared?_take whole.1 whole.2, declares, exact_length]
        · exact are_frames frame later
  | case3 bytes length declares whole =>
      refine ⟨bytes, rfl, by simp, ?_⟩
      by_cases enough : 4 ≤ length
      · left
        intro other is_declared
        rw [declares] at is_declared
        cases is_declared
        omega
      · exact Or.inr ⟨length, declares, by omega⟩

theorem remainder_eq {bytes rest : List UInt8} (cut : bytes = (frames bytes).flatten ++ rest) :
    remainder bytes = rest := by
  have dropped := congrArg (List.drop (frames bytes).flatten.length) cut
  rwa [List.drop_left] at dropped

theorem flatten_frames_append_remainder (bytes : List UInt8) :
    (frames bytes).flatten ++ remainder bytes = bytes := by
  rcases exists_frames bytes with ⟨rest, cut, -, -⟩
  rw [remainder_eq cut]
  exact cut.symm

theorem remainder_flatten_append {whole : List (List UInt8)}
    (are_frames : ∀ frame ∈ whole, IsFrame frame) (rest : List UInt8) :
    remainder (whole.flatten ++ rest) = remainder rest := by
  apply remainder_eq
  rw [frames_flatten_append are_frames, List.flatten_append, List.append_assoc,
    flatten_frames_append_remainder]

theorem remainder_of_isCorrupt {bytes : List UInt8} (corrupt : IsCorrupt bytes) :
    remainder bytes = bytes := by
  rw [remainder, frames_eq_nil_of_isCorrupt corrupt]
  rfl

theorem remainder_nil : remainder [] = [] := by
  rw [remainder, List.drop_nil]

/-- What the frames of a part of a stream stop at is only cut off, unless those of the whole stream
stop at a corrupt header. -/
theorem isPartial_of_readable {rest more : List UInt8} (stops : IsPartial rest ∨ IsCorrupt rest)
    (readable : ¬IsCorrupt (remainder (rest ++ more))) : IsPartial rest := by
  rcases stops with lacks | corrupt
  · exact lacks
  · have corrupt_later := corrupt.append more
    rw [remainder_of_isCorrupt corrupt_later] at readable
    exact absurd corrupt_later readable

/-! ## The front of a decoder's buffer -/

theorem declared?_eq_none_iff {bytes : List UInt8} : declared? bytes = none ↔ bytes.length < 4 := by
  rcases bytes with _ | ⟨first, _ | ⟨second, _ | ⟨third, _ | ⟨fourth, more⟩⟩⟩⟩ <;>
    simp [declared?]

/-- The low 24 bits of the header word are the last three bytes of the header. -/
theorem declared?_eq_some {bytes : List UInt8} (enough : 4 ≤ bytes.length) :
    declared? bytes =
      some (Blob.Header.ofWord (Blob.ofBigEndian (bytes.take Blob.headerSize))).length := by
  rcases bytes with _ | ⟨first, _ | ⟨second, _ | ⟨third, _ | ⟨fourth, more⟩⟩⟩⟩
  all_goals try simp at enough
  have := second.toNat_lt
  have := third.toNat_lt
  have := fourth.toNat_lt
  simp only [declared?, Blob.headerSize, List.take_succ_cons, List.take_zero, Blob.ofBigEndian,
    List.foldl_cons, List.foldl_nil, Blob.Header.ofWord, Blob.Header.idUnit, Option.some.injEq]
  omega

theorem front_eq (bytes : List UInt8) :
    Decoder.front bytes =
      match declared? bytes with
      | none => .incomplete
      | some length =>
          if length < 4 then .corrupt ⟨length, bytes.length⟩
          else if bytes.length < length then .incomplete
          else .frame (payload (bytes.take length)) (bytes.drop length) := by
  by_cases short : bytes.length < 4
  · rw [declared?_eq_none_iff.mpr short]
    simp [Decoder.front, Blob.headerSize, short]
  · rw [declared?_eq_some (by omega)]
    exact if_neg short

theorem front_eq_incomplete_iff {bytes : List UInt8} :
    Decoder.front bytes = .incomplete ↔ IsPartial bytes := by
  cases declares : declared? bytes with
  | none => simp [front_eq, IsPartial, declares]
  | some length =>
      have enough := four_le_length declares
      simp only [front_eq, IsPartial, declares, Option.some.injEq, forall_eq']
      by_cases too_small : length < 4
      · simp only [too_small, if_true, reduceCtorEq, false_iff]
        omega
      · by_cases lacks : bytes.length < length
        · simp [too_small, lacks]
        · simp [too_small, lacks]

theorem front_eq_corrupt_iff {bytes : List UInt8} {corruption : Corruption} :
    Decoder.front bytes = .corrupt corruption ↔
      declared? bytes = some corruption.declared ∧ corruption.declared < 4 ∧
        corruption.discarded = bytes.length := by
  rcases corruption with ⟨declared, discarded⟩
  cases declares : declared? bytes with
  | none => simp [front_eq, declares]
  | some length =>
      simp only [front_eq, declares, Option.some.injEq]
      by_cases too_small : length < 4
      · simp only [too_small, if_true, Front.corrupt.injEq, Corruption.mk.injEq]
        omega
      · by_cases lacks : bytes.length < length
        · simp only [too_small, lacks, if_true, if_false, reduceCtorEq, false_iff]
          omega
        · simp only [too_small, lacks, if_false, reduceCtorEq, false_iff]
          omega

theorem front_append {frame : List UInt8} (whole : IsFrame frame) (rest : List UInt8) :
    Decoder.front (frame ++ rest) = .frame (payload frame) rest := by
  rcases whole with ⟨enough, declares⟩
  have not_small : ¬frame.length < 4 := by omega
  rw [front_eq, declared?_append enough, declares]
  simp [not_small]

theorem exists_frame_of_front_eq {bytes content rest : List UInt8}
    (in_front : Decoder.front bytes = .frame content rest) :
    ∃ frame, IsFrame frame ∧ bytes = frame ++ rest ∧ content = payload frame := by
  rw [front_eq] at in_front
  cases declares : declared? bytes with
  | none => simp [declares] at in_front
  | some length =>
      simp only [declares] at in_front
      split at in_front
      · cases in_front
      · split at in_front
        · cases in_front
        · cases in_front
          refine ⟨bytes.take length, ⟨?_, ?_⟩, (List.take_append_drop ..).symm, rfl⟩
          · rw [List.length_take]
            omega
          · rw [declared?_take (by omega) (by omega), declares, List.length_take]
            congr 1
            omega

end LogRelay.Stream
