import LogRelay.Proofs.Record.Frames
import Mathlib.Data.List.Forall2

/-!
# Readers that share a decoder

Any number of readers take frames from one decoder while bytes arrive in pieces, in any order of
arrivals and takings. As long as no corrupt frame has been met, what has been taken over all readers
is a prefix of the frames of the stream, in order and each once, and what has not been taken is
still in the buffer. The invariant is `Session.Follows`: the frames consumed so far and the buffer
make up the bytes fed, and every item taken is one of these frames, seen as its reader sees it.

A reader that is run until it comes to its end takes all frames in the buffer (`drain_spec`), so
draining after every piece gives the frames of the whole stream, wherever it was cut.
-/

namespace LogRelay.Stream

/-- How a reader gives a frame: by its payload, or by the event in it. -/
inductive View where
  | payloads
  | events
  deriving DecidableEq, Repr

/-- What a reader gives. A malformed record gives no event. -/
inductive Item where
  | payload (bytes : List UInt8)
  | event (event : Option Event)
  deriving DecidableEq, Repr

namespace View

/-- What a reader gives for a payload. -/
def item : View → List UInt8 → Item
  | payloads, bytes => .payload bytes
  | events, bytes => .event (Event.parse bytes).1

/-- Takes the next item from a decoder through a reader. -/
def next (view : View) (reader : Reader) (decoder : Decoder) : Taken Item × Reader × Decoder :=
  match view with
  | payloads =>
      let (taken, reader, decoder) := reader.next decoder
      (taken.map .payload, reader, decoder)
  | events =>
      let (taken, reader, decoder, _) := reader.nextEvent decoder
      (taken.map .event, reader, decoder)

/-- A reader of events is a reader of payloads whose items are looked at. -/
theorem next_eq (view : View) (reader : Reader) (decoder : Decoder) :
    view.next reader decoder =
      ((reader.next decoder).1.map view.item, (reader.next decoder).2) := by
  cases view with
  | payloads => rfl
  | events =>
      rcases taken : reader.next decoder with
        ⟨content | _ | corruption, reader_after, decoder_after⟩ <;>
        simp [next, Reader.nextEvent, taken, Taken.map, item]

theorem next_spent (view : View) {reader : Reader} (spent : reader.spent = true)
    (decoder : Decoder) : view.next reader decoder = (.finished, reader, decoder) := by
  rw [next_eq]
  simp [Reader.next, spent, Taken.map]

theorem next_of_isPartial (view : View) {reader : Reader} (live : reader.spent = false)
    {decoder : Decoder} (lacks : IsPartial decoder.buffer) :
    view.next reader decoder = (.finished, ⟨true⟩, decoder) := by
  rw [next_eq]
  simp [Reader.next, live, front_eq_incomplete_iff.mpr lacks, Taken.map]

theorem next_of_isFrame (view : View) {reader : Reader} (live : reader.spent = false)
    {frame : List UInt8} (whole : IsFrame frame) (rest : List UInt8) :
    view.next reader ⟨frame ++ rest⟩ = (.item (view.item (payload frame)), reader, ⟨rest⟩) := by
  rw [next_eq]
  simp [Reader.next, live, front_append whole rest, Taken.map]

theorem next_of_isCorrupt (view : View) {reader : Reader} (live : reader.spent = false)
    {decoder : Decoder} (corrupt : IsCorrupt decoder.buffer) :
    ∃ corruption, view.next reader decoder = (.corrupt corruption, ⟨true⟩, .empty) := by
  rcases corrupt with ⟨length, declares, too_small⟩
  have in_front : Decoder.front decoder.buffer = .corrupt ⟨length, decoder.buffer.length⟩ :=
    front_eq_corrupt_iff.mpr ⟨declares, too_small, rfl⟩
  refine ⟨⟨length, decoder.buffer.length⟩, ?_⟩
  rw [next_eq]
  simp [Reader.next, live, in_front, Taken.map]

/-- A reader that is not spent meets the end, a corrupt frame or a whole one. -/
theorem buffer_cases (bytes : List UInt8) :
    IsPartial bytes ∨ IsCorrupt bytes ∨ ∃ frame rest, IsFrame frame ∧ bytes = frame ++ rest := by
  cases in_front : Decoder.front bytes with
  | incomplete => exact Or.inl (front_eq_incomplete_iff.mp in_front)
  | corrupt corruption =>
      rcases front_eq_corrupt_iff.mp in_front with ⟨declares, too_small, -⟩
      exact Or.inr (Or.inl ⟨corruption.declared, declares, too_small⟩)
  | frame content rest =>
      rcases exists_frame_of_front_eq in_front with ⟨frame, whole, cut, -⟩
      exact Or.inr (Or.inr ⟨frame, rest, whole, cut⟩)

end View

/-! ## Sessions -/

/-- What is done to a decoder and its readers. -/
inductive Action where
  /-- A piece of the stream arrives. -/
  | feed (piece : List UInt8)
  /-- A reader is made. -/
  | create (view : View)
  /-- One of the readers, in the order of their making, is asked for its next item. -/
  | next (index : Nat)

/-- A decoder with its readers, the bytes fed so far, the items taken so far over all readers, each
with the view of its reader, and whether a corrupt frame has been met. -/
structure Session where
  decoder : Decoder
  readers : List (View × Reader)
  fed : List UInt8
  taken : List (View × Item)
  corrupted : Bool

namespace Session

/-- Nothing has arrived, and there are no readers. -/
def start : Session := ⟨.empty, [], [], [], false⟩

/-- What an action does. Asking a reader that has not been made does nothing. -/
def step (session : Session) : Action → Session
  | .feed piece =>
      { session with decoder := session.decoder.feed piece, fed := session.fed ++ piece }
  | .create view => { session with readers := session.readers ++ [(view, .start)] }
  | .next index =>
      match session.readers[index]? with
      | none => session
      | some (view, reader) =>
          let (taken, reader, decoder) := view.next reader session.decoder
          let after :=
            { session with
              decoder := decoder
              readers := session.readers.set index (view, reader) }
          match taken with
          | .item item => { after with taken := session.taken ++ [(view, item)] }
          | .finished => after
          | .corrupt _ => { after with corrupted := true }

/-- What a schedule of actions comes to. -/
def play (actions : List Action) : Session :=
  actions.foldl step start

end Session

/-- The item is what its reader gives for the frame. -/
def Gives (taken : View × Item) (frame : List UInt8) : Prop :=
  taken.2 = taken.1.item (payload frame)

namespace Session

/-- The frames consumed so far and the buffer are the bytes fed so far, and the items taken are
these frames. -/
structure Follows (session : Session) (consumed : List (List UInt8)) : Prop where
  are_frames : ∀ frame ∈ consumed, IsFrame frame
  kept : consumed.flatten ++ session.decoder.buffer = session.fed
  given : List.Forall₂ Gives session.taken consumed

theorem start_follows : start.Follows [] :=
  ⟨by simp, rfl, .nil⟩

variable {session : Session} {consumed : List (List UInt8)}

theorem corrupted_step (corrupted : session.corrupted = true) (action : Action) :
    (session.step action).corrupted = true := by
  cases action with
  | feed piece => exact corrupted
  | create view => exact corrupted
  | next index =>
      simp only [step]
      split
      · exact corrupted
      · split
        · exact corrupted
        · exact corrupted
        · rfl

theorem corrupted_foldl (corrupted : session.corrupted = true) (actions : List Action) :
    (actions.foldl step session).corrupted = true := by
  induction actions generalizing session with
  | nil => exact corrupted
  | cons action actions ih => exact ih (corrupted_step corrupted action)

/-- One action keeps consumed frames and buffer together, unless it meets a corrupt frame. -/
theorem step_follows (follows : session.Follows consumed) (action : Action)
    (clean : (session.step action).corrupted = false) :
    ∃ later, (session.step action).Follows later := by
  rcases follows with ⟨are_frames, kept, given⟩
  cases action with
  | feed piece =>
      refine ⟨consumed, are_frames, ?_, given⟩
      simp only [step, Decoder.feed, ← List.append_assoc, kept]
  | create view => exact ⟨consumed, are_frames, kept, given⟩
  | next index =>
      simp only [step] at clean ⊢
      split at clean
      · exact ⟨consumed, are_frames, kept, given⟩
      · rename_i view reader made
        cases spent : reader.spent with
        | true =>
            simp only [View.next_spent view spent]
            exact ⟨consumed, are_frames, kept, given⟩
        | false =>
            rcases View.buffer_cases session.decoder.buffer with
              lacks | corrupt | ⟨frame, rest, whole, cut⟩
            · simp only [View.next_of_isPartial view spent lacks]
              exact ⟨consumed, are_frames, kept, given⟩
            · rcases View.next_of_isCorrupt view spent corrupt with ⟨corruption, met⟩
              simp [met] at clean
            · have buffer : session.decoder = ⟨frame ++ rest⟩ := by rw [← cut]
              simp only [buffer, View.next_of_isFrame view spent whole rest]
              refine ⟨consumed ++ [frame], ?_, ?_, ?_⟩
              · intro other other_mem
                rcases List.mem_append.mp other_mem with earlier | last
                · exact are_frames other earlier
                · rw [List.mem_singleton.mp last]
                  exact whole
              · rw [← kept, cut]
                simp
              · exact List.rel_append given (.cons rfl .nil)

theorem foldl_follows (follows : session.Follows consumed) (actions : List Action)
    (clean : (actions.foldl step session).corrupted = false) :
    ∃ later, (actions.foldl step session).Follows later := by
  induction actions generalizing session consumed with
  | nil => exact ⟨consumed, follows⟩
  | cons action actions ih =>
      have clean_step : (session.step action).corrupted = false := by
        by_contra corrupted
        rw [Bool.not_eq_false] at corrupted
        rw [List.foldl_cons, corrupted_foldl corrupted] at clean
        cases clean
      rcases step_follows follows action clean_step with ⟨later, follows_later⟩
      exact ih follows_later clean

theorem play_follows {actions : List Action} (clean : (play actions).corrupted = false) :
    ∃ consumed, (play actions).Follows consumed :=
  foldl_follows start_follows actions clean

theorem Follows.prefix_frames (follows : session.Follows consumed) {stream : List UInt8}
    (arrived : session.fed <+: stream) : consumed <+: frames stream := by
  rcases arrived with ⟨later, rfl⟩
  rw [← follows.kept, List.append_assoc, frames_flatten_append follows.are_frames]
  exact List.prefix_append ..

end Session

/-! ## Draining -/

namespace View

theorem length_next_lt (view : View) {reader after : Reader} {decoder rest : Decoder} {item : Item}
    (taken : view.next reader decoder = (.item item, after, rest)) :
    rest.buffer.length < decoder.buffer.length := by
  cases spent : reader.spent with
  | true =>
      rw [next_spent view spent] at taken
      cases taken
  | false =>
      rcases buffer_cases decoder.buffer with lacks | corrupt | ⟨frame, more, whole, cut⟩
      · rw [next_of_isPartial view spent lacks] at taken
        cases taken
      · rcases next_of_isCorrupt view spent corrupt with ⟨corruption, met⟩
        rw [met] at taken
        cases taken
      · have buffer : decoder = ⟨frame ++ more⟩ := by rw [← cut]
        rw [buffer, next_of_isFrame view spent whole more] at taken
        cases taken
        have enough := whole.1
        simp only [buffer, List.length_append]
        omega

/-- Takes items through a reader until it comes to its end or meets a corrupt frame. -/
def drain (view : View) (reader : Reader) (decoder : Decoder) :
    List Item × Option Corruption × Decoder :=
  match _taken : view.next reader decoder with
  | (.item item, after, rest) =>
      let (items, ending) := view.drain after rest
      (item :: items, ending)
  | (.finished, _, rest) => ([], none, rest)
  | (.corrupt corruption, _, rest) => ([], some corruption, rest)
termination_by decoder.buffer.length
decreasing_by exact view.length_next_lt _taken

variable (view : View) {reader : Reader}

theorem drain_of_isPartial (live : reader.spent = false) {bytes : List UInt8}
    (lacks : IsPartial bytes) : view.drain reader ⟨bytes⟩ = ([], none, ⟨bytes⟩) := by
  have lacks_buffer : IsPartial (Decoder.mk bytes).buffer := lacks
  have taken := next_of_isPartial view live lacks_buffer
  rw [drain]
  split <;> simp_all

theorem drain_of_isCorrupt (live : reader.spent = false) {bytes : List UInt8}
    (corrupt : IsCorrupt bytes) :
    ∃ corruption, view.drain reader ⟨bytes⟩ = ([], some corruption, .empty) := by
  have corrupt_buffer : IsCorrupt (Decoder.mk bytes).buffer := corrupt
  rcases next_of_isCorrupt view live corrupt_buffer with ⟨corruption, taken⟩
  refine ⟨corruption, ?_⟩
  rw [drain]
  split <;> simp_all

theorem drain_append (live : reader.spent = false) {frame : List UInt8} (whole : IsFrame frame)
    (rest : List UInt8) :
    view.drain reader ⟨frame ++ rest⟩ =
      (view.item (payload frame) :: (view.drain reader ⟨rest⟩).1, (view.drain reader ⟨rest⟩).2) := by
  have taken := next_of_isFrame view live whole rest
  rw [drain]
  split <;> simp_all

/-- Draining takes the frames in front of the buffer and goes on behind them. -/
theorem drain_flatten_append (live : reader.spent = false) {whole : List (List UInt8)}
    (are_frames : ∀ frame ∈ whole, IsFrame frame) (rest : List UInt8) :
    view.drain reader ⟨whole.flatten ++ rest⟩ =
      (whole.map (fun frame => view.item (payload frame)) ++ (view.drain reader ⟨rest⟩).1,
        (view.drain reader ⟨rest⟩).2) := by
  induction whole with
  | nil => rfl
  | cons frame whole ih =>
      rw [List.flatten_cons, List.append_assoc, drain_append view live (are_frames frame (by simp)),
        ih fun other other_mem => are_frames other (List.mem_cons_of_mem _ other_mem)]
      simp

end View

/-- Feeds pieces one by one and drains the decoder through a new reader after each, until a corrupt
frame is met. Every item stands with the view of its reader. -/
def drainAll (decoder : Decoder) : List (View × List UInt8) → List (View × Item)
  | [] => []
  | (view, piece) :: pieces =>
      match view.drain .start (decoder.feed piece) with
      | (items, none, rest) => items.map (Prod.mk view) ++ drainAll rest pieces
      | (items, some _, _) => items.map (Prod.mk view)

theorem forall₂_gives_map (view : View) (whole : List (List UInt8)) :
    List.Forall₂ Gives ((whole.map fun frame => view.item (payload frame)).map (Prod.mk view))
      whole := by
  rw [List.map_map, List.forall₂_map_left_iff, List.forall₂_same]
  intro frame frame_mem
  rfl

/-- Draining after every piece gives the frames of the whole stream. -/
theorem forall₂_gives_drainAll {buffer : List UInt8} (lacks : IsPartial buffer)
    (pieces : List (View × List UInt8)) :
    List.Forall₂ Gives (drainAll ⟨buffer⟩ pieces)
      (frames (buffer ++ (pieces.map Prod.snd).flatten)) := by
  induction pieces generalizing buffer with
  | nil => simp [drainAll, frames_eq_nil_of_isPartial lacks]
  | cons first pieces ih =>
      rcases first with ⟨view, piece⟩
      have live : Reader.start.spent = false := rfl
      rcases exists_frames (buffer ++ piece) with ⟨rest, cut, are_frames, stops⟩
      have drained := view.drain_flatten_append live are_frames rest
      rw [← cut] at drained
      have all_frames : frames (buffer ++ (((view, piece) :: pieces).map Prod.snd).flatten) =
          frames (buffer ++ piece) ++ frames (rest ++ (pieces.map Prod.snd).flatten) := by
        rw [List.map_cons, List.flatten_cons, ← List.append_assoc]
        conv_lhs => rw [cut, List.append_assoc]
        exact frames_flatten_append are_frames _
      rw [all_frames]
      simp only [drainAll, Decoder.feed, drained]
      rcases stops with lacks_rest | corrupt
      · rw [view.drain_of_isPartial live lacks_rest]
        simp only [List.append_nil]
        exact List.rel_append (forall₂_gives_map view _) (ih lacks_rest)
      · rcases view.drain_of_isCorrupt live corrupt with ⟨corruption, met⟩
        rw [met, frames_eq_nil_of_isCorrupt (corrupt.append _)]
        simp only [List.append_nil]
        exact forall₂_gives_map view _

/-! ## Readers and reference -/

/-- What a reader that is not spent says about the buffer when it is asked: it ends where less than
a whole frame is left, and it fails where a header is too small, which empties the buffer. -/
theorem View.next_finished_iff (view : View) {reader : Reader} (live : reader.spent = false)
    (decoder : Decoder) :
    (view.next reader decoder).1 = .finished ↔ IsPartial decoder.buffer := by
  rcases View.buffer_cases decoder.buffer with lacks | corrupt | ⟨frame, rest, whole, cut⟩
  · rw [view.next_of_isPartial live lacks]
    exact ⟨fun _ => lacks, fun _ => rfl⟩
  · rcases view.next_of_isCorrupt live corrupt with ⟨corruption, met⟩
    rcases corrupt with ⟨length, declares, too_small⟩
    have enough := four_le_length declares
    rw [met]
    refine ⟨fun ended => (by cases ended), fun lacks => ?_⟩
    have short := lacks length declares
    omega
  · have buffer : decoder = ⟨frame ++ rest⟩ := by rw [← cut]
    rw [buffer, view.next_of_isFrame live whole rest]
    refine ⟨fun ended => (by cases ended), fun lacks => ?_⟩
    exact absurd lacks (not_isPartial_of_isFrame whole rest)

theorem View.next_corrupt (view : View) {reader : Reader} {decoder : Decoder}
    {corruption : Corruption} (fails : (view.next reader decoder).1 = .corrupt corruption) :
    IsCorrupt decoder.buffer ∧ (view.next reader decoder).2.2.pending = 0 := by
  cases spent : reader.spent with
  | true =>
      rw [view.next_spent spent] at fails
      cases fails
  | false =>
      rcases View.buffer_cases decoder.buffer with lacks | corrupt | ⟨frame, rest, whole, cut⟩
      · rw [view.next_of_isPartial spent lacks] at fails
        cases fails
      · rcases view.next_of_isCorrupt spent corrupt with ⟨met_corruption, met⟩
        rw [met]
        exact ⟨corrupt, rfl⟩
      · have buffer : decoder = ⟨frame ++ rest⟩ := by rw [← cut]
        rw [buffer, view.next_of_isFrame spent whole rest] at fails
        cases fails

/-- Readers follow the frames of the stream, however it is cut and however they take turns. For
every schedule that feeds a prefix of a stream and meets no corrupt frame, the items taken are what
their readers give for the first frames of the stream, and these frames and the buffer are the bytes
fed. A reader that comes to its end leaves less than a whole frame, and one that fails had a header
in front that declares less than itself, and leaves nothing. Draining after every piece gives all
frames of the pieces. -/
theorem readers_follow_frames :
    (∀ (actions : List Action) (stream : List UInt8),
      (Session.play actions).fed <+: stream →
      (Session.play actions).corrupted = false →
      ∃ consumed,
        consumed <+: frames stream ∧
        consumed.flatten ++ (Session.play actions).decoder.buffer = (Session.play actions).fed ∧
        List.Forall₂ Gives (Session.play actions).taken consumed) ∧
    (∀ (actions : List Action) (index : Nat) (view : View) (reader : Reader),
      (Session.play actions).readers[index]? = some (view, reader) →
      (reader.spent = false →
        ((view.next reader (Session.play actions).decoder).1 = .finished ↔
          IsPartial (Session.play actions).decoder.buffer)) ∧
      ∀ corruption, (view.next reader (Session.play actions).decoder).1 = .corrupt corruption →
        IsCorrupt (Session.play actions).decoder.buffer ∧
          (view.next reader (Session.play actions).decoder).2.2.pending = 0) ∧
    (∀ pieces : List (View × List UInt8),
      List.Forall₂ Gives (drainAll .empty pieces) (frames (pieces.map Prod.snd).flatten)) := by
  refine ⟨?_, ?_, ?_⟩
  · intro actions stream arrived clean
    rcases Session.play_follows clean with ⟨consumed, follows⟩
    exact ⟨consumed, follows.prefix_frames arrived, follows.kept, follows.given⟩
  · intro actions index view reader made
    exact ⟨fun live => view.next_finished_iff live _, fun corruption => view.next_corrupt⟩
  · intro pieces
    have lacks : IsPartial [] := by
      intro length declares
      cases declares
    exact forall₂_gives_drainAll lacks pieces

/-- Two frames that arrive in three pieces, each cut inside a header, and four readers of them. The
first one comes to its end before a whole frame has arrived, and the second one between the frames. -/
def cutHeaders : List Action :=
  [.create .payloads, .create .events, .feed [0, 0], .next 0, .create .payloads,
    .feed [0, 6, 1, 2, 0, 0], .next 2, .next 1, .create .events, .feed [0, 5, 9], .next 3]

theorem readers_follow_frames_cutHeaders :
    (Session.play cutHeaders).corrupted = false ∧
      (Session.play cutHeaders).taken =
        [(.payloads, .payload [1, 2]), (.events, .event (Event.parse [9]).1)] ∧
      (∃ consumed, consumed <+: frames [0, 0, 0, 6, 1, 2, 0, 0, 0, 5, 9] ∧
        List.Forall₂ Gives (Session.play cutHeaders).taken consumed) ∧
      ((View.events.next .start (Session.play cutHeaders).decoder).1 = .finished ↔
        IsPartial (Session.play cutHeaders).decoder.buffer) := by
  have clean : (Session.play cutHeaders).corrupted = false := by decide
  have arrived : (Session.play cutHeaders).fed <+: [0, 0, 0, 6, 1, 2, 0, 0, 0, 5, 9] := by decide
  rcases readers_follow_frames.1 cutHeaders _ arrived clean with ⟨consumed, are_first, -, given⟩
  have ends := (readers_follow_frames.2.1 cutHeaders 3 .events .start rfl).1 rfl
  exact ⟨clean, rfl, ⟨consumed, are_first, given⟩, ends⟩

end LogRelay.Stream
