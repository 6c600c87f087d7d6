import LogRelay.Proofs.Delivery.Balance
import LogRelay.Source.Client

/-!
# Histories of a client

What comes about for a client, and what others do to its delivery meanwhile, makes up a history. Each
happening is one step of the client (`Client.Step`) and asks some calls of the delivery
(`Happening.calls`). What becomes of the delivery is what these calls make of it (`Client.Runs.asks`).
-/

namespace LogRelay

/-! ## Calls of the delivery -/

/-- No failure escapes from a delivery that is fed a piece. -/
def Rules.Harmless {State : Type} (rules : Rules State) : Prop :=
  ∀ (delivery : Delivery State) chunk, (delivery.feed rules chunk).escaped = none

namespace Delivery

variable {State : Type} {rules : Rules State}

/-- The piece that a call feeds. -/
def Call.fed? : Call → Option (List UInt8)
  | feed chunk => some chunk
  | stop _ | endStream => none

def Call.isEndStream : Call → Bool
  | endStream => true
  | feed _ | stop _ => false

theorem play_singleton (delivery : Delivery State) (call : Call) :
    play rules delivery [call] = delivery.perform rules call := by
  cases performed : delivery.perform rules call with
  | mk after escaped journal => cases escaped <;> simp [play, performed]

theorem play_append (harmless : rules.Harmless) (delivery : Delivery State) (calls more : List Call) :
    (play rules delivery (calls ++ more)).delivery =
        (play rules (play rules delivery calls).delivery more).delivery ∧
      (play rules delivery (calls ++ more)).journal =
        (play rules delivery calls).journal ++
          (play rules (play rules delivery calls).delivery more).journal := by
  induction calls generalizing delivery with
  | nil => simp [play]
  | cons call calls ih =>
      have contained : (delivery.perform rules call).escaped = none := by
        cases call with
        | feed chunk => exact harmless delivery chunk
        | stop failure => rfl
        | endStream => rfl
      simp [play, contained, ih]

end Delivery

/-! ## Histories -/

/-- What comes about for a client, or is done to its delivery meanwhile. -/
inductive Happening where
  | connected (result : Except SystemFault Unit)
  | sent (result : Except SystemFault Unit)
  | read (result : Except SystemFault (List UInt8))
  | closed (result : Except SystemFault Unit)
  /-- Somebody asks for the delivery to stop. -/
  | stopped

namespace Happening

/-- What fails, fails by the operating system. -/
def Tame : Happening → Prop
  | connected result | sent result | closed result =>
      ∀ fault, result = .error fault → fault.isSystem = true
  | read result => ∀ fault, result = .error fault → fault.isSystem = true
  | stopped => True

/-- What is asked of the delivery. -/
def calls : Happening → List Delivery.Call
  | read (.ok (byte :: bytes)) => [.feed (byte :: bytes)]
  | read _ | sent (.error _) => [.endStream]
  | stopped => [.stop none]
  | connected _ | sent (.ok ()) | closed _ => []

def connect? : Happening → Option (Except SystemFault Unit)
  | connected result => some result
  | _ => none

def read? : Happening → Option (Except SystemFault (List UInt8))
  | read result => some result
  | _ => none

/-- The pieces that were read before the first empty piece or failure. -/
def pieces : List (Except SystemFault (List UInt8)) → List (List UInt8)
  | .ok (byte :: bytes) :: results => (byte :: bytes) :: pieces results
  | _ => []

theorem pieces_append {fed : List (List UInt8)} (nonempty : ∀ chunk ∈ fed, chunk ≠ [])
    (results : List (Except SystemFault (List UInt8))) :
    pieces (fed.map .ok ++ results) = fed ++ pieces results := by
  induction fed with
  | nil => rfl
  | cons chunk fed ih =>
      cases chunk with
      | nil => exact absurd rfl (nonempty [] List.mem_cons_self)
      | cons byte bytes =>
          simp only [List.map_cons, List.cons_append, pieces, List.cons.injEq, true_and]
          apply ih
          intro other other_mem
          exact nonempty other (List.mem_cons_of_mem _ other_mem)

end Happening

namespace Client

variable {State : Type} {options : ClientOptions} {rules : Rules State} {delivery : Delivery State}

/-- What a client becomes when something comes about that it waits for, or when its delivery is
stopped, and what it notes in the journal. -/
inductive Step (options : ClientOptions) (rules : Rules State) :
    Client State → Happening → Client State → Journal → Prop where
  | connected {client : Client State} (waits : client.phase = .connecting)
      (result : Except SystemFault Unit) :
      Step options rules client (.connected result) (client.onConnect options result).1
        (client.onConnect options result).2
  | sent {client : Client State} (waits : client.phase = .sending)
      (result : Except SystemFault Unit) :
      Step options rules client (.sent result) (client.onSent rules result).1
        (client.onSent rules result).2
  | read {client : Client State} (waits : client.phase = .reading)
      (result : Except SystemFault (List UInt8)) :
      Step options rules client (.read result) (client.onRead rules result).1
        (client.onRead rules result).2
  | closed {client : Client State} {ending : Ending} (waits : client.phase = .closing ending)
      (result : Except SystemFault Unit) :
      Step options rules client (.closed result) (client.onClosed ending result) []
  | stopped {client : Client State} : Step options rules client .stopped client.stop []

/-- What a client becomes from its beginning. -/
inductive Runs (options : ClientOptions) (rules : Rules State) (delivery : Delivery State) :
    List Happening → Client State → Journal → Prop where
  | start : Runs options rules delivery [] (.start options delivery) []
  | step {history : List Happening} {client after : Client State} {journal notes : Journal}
      {happening : Happening} (runs : Runs options rules delivery history client journal)
      (step : Step options rules client happening after notes) :
      Runs options rules delivery (history ++ [happening]) after (journal ++ notes)

/-- The journal without what the client says itself. -/
def apart (journal : Journal) : Journal :=
  journal.filter fun entry => entry.speaker ≠ .source

/-! ## What is asked of the delivery -/

theorem delivery_proceed (client : Client State) : client.proceed.delivery = client.delivery := by
  rw [proceed]
  split <;> rfl

variable {client after : Client State} {happening : Happening} {notes : Journal}

theorem Step.asks (step : Step options rules client happening after notes)
    (tame : happening.Tame)
    (harmless : rules.Harmless) :
    after.delivery = (Delivery.play rules client.delivery happening.calls).delivery ∧
      apart notes = apart (Delivery.play rules client.delivery happening.calls).journal := by
  cases step with
  | connected waits result =>
      cases result with
      | ok done =>
          cases done
          simp only [onConnect, Happening.calls, Delivery.play]
          split <;> simp [apart, close]
      | error fault =>
          simp only [onConnect, Happening.calls, Delivery.play]
          split
          · split <;> simp [apart, failedAttempt]
          · simp [apart]
  | sent waits result =>
      cases result with
      | ok done => simp [onSent, Happening.calls, Delivery.play, delivery_proceed]
      | error fault =>
          simp [onSent, Happening.calls, Delivery.play_singleton, Delivery.perform, tame fault rfl,
            finish, close, apart]
  | read waits result =>
      rcases result with fault | ⟨⟩ | ⟨byte, bytes⟩
      · simp [onRead, Happening.calls, Delivery.play_singleton, Delivery.perform, tame fault rfl,
          finish, close, apart]
      · simp [onRead, Happening.calls, Delivery.play_singleton, Delivery.perform, finish, close]
      · have contained := harmless client.delivery (byte :: bytes)
        simp [onRead, Happening.calls, Delivery.play_singleton, Delivery.perform, contained,
          delivery_proceed]
  | closed waits result =>
      cases result <;> simp [onClosed, Happening.calls, Delivery.play]
  | stopped => simp [stop, Happening.calls, Delivery.play_singleton, Delivery.perform]

variable {history : List Happening} {journal : Journal}

theorem apart_append (first second : Journal) : apart (first ++ second) = apart first ++ apart second := by
  simp [apart]

theorem Runs.asks
    (harmless : rules.Harmless)
    (runs : Runs options rules delivery history client journal)
    (tame : ∀ happening ∈ history, happening.Tame) :
    client.delivery = (Delivery.play rules delivery (history.flatMap Happening.calls)).delivery ∧
      apart journal =
        apart (Delivery.play rules delivery (history.flatMap Happening.calls)).journal := by
  -- The calls for the last happening are made after those for all happenings before.
  induction runs with
  | start => exact ⟨rfl, rfl⟩
  | @step history client after journal notes happening runs step ih =>
      have earlier := ih fun other other_mem => tame other (List.mem_append_left _ other_mem)
      have now := step.asks (tame happening (by simp)) harmless
      have whole := Delivery.play_append harmless delivery (history.flatMap Happening.calls)
        happening.calls
      rw [← earlier.1] at whole
      rw [List.flatMap_append, List.flatMap_singleton, whole.1, whole.2, apart_append, apart_append,
        earlier.2]
      exact ⟨now.1, by rw [now.2]⟩

/-- A read is begun for a delivery only that is not finished. -/
theorem Step.begins_read (step : Step options rules client happening after notes)
    (begins : happening ≠ .stopped) (reading : after.phase = .reading) :
    after.delivery.finished = false := by
  have of_proceed : ∀ before : Client State, before.proceed.phase = .reading →
      before.proceed.delivery.finished = false := by
    intro before proceeds
    rw [proceed] at proceeds ⊢
    split at proceeds
    · simp [close] at proceeds
    · simp_all
  cases step with
  | connected waits result =>
      cases result with
      | ok made =>
          simp only [onConnect] at reading
          split at reading <;> simp [close] at reading
      | error fault =>
          simp only [onConnect] at reading
          split at reading
          · split at reading <;> simp at reading
          · simp at reading
  | sent waits result =>
      cases result with
      | ok sent => exact of_proceed client reading
      | error fault =>
          simp only [onSent] at reading
          split at reading <;> simp [finish, close] at reading
  | read waits result =>
      rcases result with fault | (_ | ⟨byte, bytes⟩)
      · simp only [onRead] at reading
        split at reading <;> simp [finish, close] at reading
      · simp [onRead, finish, close] at reading
      · cases escaped : (client.delivery.feed rules (byte :: bytes)).escaped with
        | some fault => simp [onRead, escaped, close] at reading
        | none =>
            simp only [onRead, escaped] at reading ⊢
            exact of_proceed _ reading
  | closed waits result => cases result <;> simp [onClosed] at reading
  | stopped => exact absurd rfl begins

/-- The client is one that such a history leads to. -/
def Reached (options : ClientOptions) (rules : Rules State) (delivery : Delivery State)
    (client : Client State) : Prop :=
  ∃ history journal, Runs options rules delivery history client journal ∧
    ∀ happening ∈ history, happening.Tame

theorem Reached.step (reached : Reached options rules delivery client)
    (step : Step options rules client happening after notes) (tame : happening.Tame) :
    Reached options rules delivery after := by
  rcases reached with ⟨history, journal, runs, tame_before⟩
  refine ⟨history ++ [happening], journal ++ notes, runs.step step, ?_⟩
  intro other other_mem
  rcases List.mem_append.mp other_mem with earlier | last
  · exact tame_before other earlier
  · rw [List.mem_singleton.mp last]
    exact tame

end Client

end LogRelay
