import LogRelay.Proofs.Source.History

/-!
# How far a client has come

How far a client has come tells what its history was like (`Client.Stands`): as long as it waits for a
connection all attempts have failed, while it reads all pieces have been fed, and once it closes its
connection the delivery is finished. Each step keeps this (`Client.Stands.step`), and so it holds of
every run.
-/

namespace LogRelay

namespace Client

variable {State : Type} {options : ClientOptions} {rules : Rules State} {delivery : Delivery State}

/-! ## How far a client has come -/

/-- Pieces have been read and fed, and the stream has not ended yet. -/
structure Streaming (history : List Happening) (fed : List (List UInt8)) : Prop where
  reads : history.filterMap Happening.read? = fed.map .ok
  nonempty : ∀ chunk ∈ fed, chunk ≠ []
  feeds : (history.flatMap Happening.calls).filterMap Delivery.Call.fed? = fed
  unended : (history.flatMap Happening.calls).countP Delivery.Call.isEndStream = 0

/-- The stream may have ended. -/
structure Streamed (history : List Happening) : Prop where
  feeds : (history.flatMap Happening.calls).filterMap Delivery.Call.fed? =
    Happening.pieces (history.filterMap Happening.read?)
  ended : (history.flatMap Happening.calls).countP Delivery.Call.isEndStream ≤ 1

/-- All attempts to connect have failed so far. -/
structure Unconnected (history : List Happening) (client : Client State) : Prop where
  connects : ∃ faults : List SystemFault,
    history.filterMap Happening.connect? = faults.map .error ∧ client.attempts = faults.length
  unused : client.closings = 0

/-- The last attempt to connect has not failed. -/
structure Connected (options : ClientOptions) (history : List Happening) (client : Client State) :
    Prop where
  connects : ∃ faults : List SystemFault,
    history.filterMap Happening.connect? = faults.map .error ++ [.ok ()] ∧
      client.attempts = faults.length + 1
  allowed : client.attempts ≤ options.attempts.toNat
  pauses : client.pauses = client.attempts - 1

/-- What the history was like, by how far the client has come. -/
inductive Stands (options : ClientOptions) (history : List Happening) (client : Client State) :
    Prop where
  | connecting (phase : client.phase = .connecting) (unconnected : Unconnected history client)
      (streaming : Streaming history []) (pauses : client.pauses = client.attempts)
      (allowed : client.attempts < options.attempts.toNat)
  | unavailable (phase : client.phase = .ended .unavailable)
      (unconnected : Unconnected history client) (streaming : Streaming history [])
      (pauses : client.pauses = client.attempts - 1)
      (spent : client.attempts = options.attempts.toNat)
  | streaming (phase : client.phase = .sending ∨ client.phase = .reading)
      (connected : Connected options history client) (fed : List (List UInt8))
      (streaming : Streaming history fed) (closings : client.closings = 0)
  | done (phase : client.phase = .closing .returned ∨ client.phase = .ended .returned)
      (connected : Connected options history client) (streamed : Streamed history)
      (finished : client.delivery.finished = true) (closings : client.closings = 1)

theorem Streaming.streamed {history : List Happening} {fed : List (List UInt8)}
    (streaming : Streaming history fed) : Streamed history := by
  constructor
  · have all_fed : Happening.pieces (fed.map .ok) = fed := by
      simpa [Happening.pieces] using Happening.pieces_append streaming.nonempty []
    rw [streaming.reads, all_fed, streaming.feeds]
  · simp [streaming.unended]

theorem start_stands : Stands options [] (start options delivery) := by
  have streaming : Streaming [] [] := ⟨rfl, by simp, rfl, rfl⟩
  have unconnected : Unconnected [] (start options delivery) := ⟨⟨[], rfl, rfl⟩, rfl⟩
  by_cases allowed : 0 < options.attempts
  · apply Stands.connecting _ unconnected streaming rfl
    · simp [start]
      omega
    · simp [start, allowed]
  · apply Stands.unavailable _ unconnected streaming rfl
    · simp [start]
      omega
    · simp [start, allowed]

variable {history : List Happening}

theorem Streaming.concat {fed : List (List UInt8)} (streaming : Streaming history fed)
    (happening : Happening) (unread : happening.read? = none)
    (silent : happening.calls = [] ∨ happening.calls = [.stop none]) :
    Streaming (history ++ [happening]) fed := by
  rcases streaming with ⟨reads, nonempty, feeds, unended⟩
  constructor
  · simp [reads, unread]
  · exact nonempty
  · rw [List.flatMap_append, List.filterMap_append, feeds]
    rcases silent with silent | silent <;> simp [silent, Delivery.Call.fed?]
  · rw [List.flatMap_append, List.countP_append, unended]
    rcases silent with silent | silent <;> simp [silent, Delivery.Call.isEndStream]

theorem Streaming.concat_read {fed : List (List UInt8)} (streaming : Streaming history fed)
    (byte : UInt8) (bytes : List UInt8) :
    Streaming (history ++ [.read (.ok (byte :: bytes))]) (fed ++ [byte :: bytes]) := by
  rcases streaming with ⟨reads, nonempty, feeds, unended⟩
  constructor
  · simp [reads, Happening.read?]
  · intro chunk chunk_mem
    rcases List.mem_append.mp chunk_mem with earlier | last
    · exact nonempty chunk earlier
    · simp [List.mem_singleton.mp last]
  · rw [List.flatMap_append, List.filterMap_append, feeds]
    rfl
  · rw [List.flatMap_append, List.countP_append, unended]
    rfl

/-- The stream ends once. -/
theorem Streaming.concat_end {fed : List (List UInt8)} (streaming : Streaming history fed)
    (happening : Happening) (ends : happening.calls = [.endStream]) : Streamed (history ++ [happening]) := by
  have all_fed := Happening.pieces_append streaming.nonempty
  constructor
  · rw [List.flatMap_append, List.filterMap_append, List.filterMap_append, streaming.feeds,
      streaming.reads, List.flatMap_singleton, ends]
    have nothing : Happening.pieces ([happening].filterMap Happening.read?) = [] := by
      rcases happening with result | result | (fault | (_ | ⟨byte, bytes⟩)) | result | _
      all_goals first | rfl | simp [Happening.calls] at ends
    rw [all_fed, nothing]
    rfl
  · rw [List.flatMap_append, List.countP_append, streaming.unended, List.flatMap_singleton, ends]
    decide

theorem Streamed.concat (streamed : Streamed history) (happening : Happening)
    (unread : happening.read? = none) (silent : happening.calls = [] ∨ happening.calls = [.stop none]) :
    Streamed (history ++ [happening]) := by
  rcases streamed with ⟨feeds, ended⟩
  constructor
  · rw [List.flatMap_append, List.filterMap_append, List.filterMap_append, feeds]
    rcases silent with silent | silent <;> simp [silent, unread, Delivery.Call.fed?]
  · rw [List.flatMap_append, List.countP_append]
    rcases silent with silent | silent <;> simpa [silent, Delivery.Call.isEndStream] using ended

theorem Unconnected.concat (unconnected : Unconnected history client) (happening : Happening)
    (elsewhere : happening.connect? = none) (attempts_eq : after.attempts = client.attempts)
    (closings_eq : after.closings = client.closings) :
    Unconnected (history ++ [happening]) after := by
  rcases unconnected with ⟨⟨faults, connects, attempts⟩, unused⟩
  refine ⟨⟨faults, ?_, attempts_eq.trans attempts⟩, closings_eq.trans unused⟩
  simp [connects, elsewhere]

theorem Connected.concat (connected : Connected options history client) (happening : Happening)
    (elsewhere : happening.connect? = none) (attempts_eq : after.attempts = client.attempts)
    (pauses_eq : after.pauses = client.pauses) :
    Connected options (history ++ [happening]) after := by
  rcases connected with ⟨⟨faults, connects, attempts⟩, allowed, pauses⟩
  rw [← attempts_eq] at attempts allowed pauses
  refine ⟨⟨faults, ?_, attempts⟩, allowed, pauses_eq.trans pauses⟩
  simp [connects, elsewhere]

theorem close_stands (connected : Connected options history client) (streamed : Streamed history)
    (finished : client.delivery.finished = true) (closings : client.closings = 0) :
    Stands options history (client.close .returned) := by
  apply Stands.done
  · exact .inl rfl
  · exact ⟨connected.connects, connected.allowed, connected.pauses⟩
  · exact streamed
  · exact finished
  · simp [close, closings]

theorem proceed_stands {fed : List (List UInt8)} (connected : Connected options history client)
    (streaming : Streaming history fed) (closings : client.closings = 0) :
    Stands options history client.proceed := by
  rw [proceed]
  split
  case isTrue finished => exact close_stands connected streaming.streamed finished closings
  case isFalse =>
    apply Stands.streaming
    · exact .inr rfl
    · exact ⟨connected.connects, connected.allowed, connected.pauses⟩
    · exact streaming
    · exact closings

theorem finish_stands (rules : Rules State) (connected : Connected options history client)
    (streamed : Streamed history) (closings : client.closings = 0) :
    Stands options history (client.finish rules).1 := by
  apply close_stands
  · exact ⟨connected.connects, connected.allowed, connected.pauses⟩
  · exact streamed
  · exact Delivery.finished_stop _ _
  · exact closings

/-! ## What is known while the client waits -/

theorem Stands.of_connecting (stands : Stands options history client)
    (waits : client.phase = .connecting) :
    Unconnected history client ∧ Streaming history [] ∧ client.pauses = client.attempts ∧
      client.attempts < options.attempts.toNat := by
  cases stands with
  | connecting phase unconnected streaming pauses allowed =>
      exact ⟨unconnected, streaming, pauses, allowed⟩
  | unavailable phase => simp [phase] at waits
  | streaming phase => rcases phase with phase | phase <;> simp [phase] at waits
  | done phase => rcases phase with phase | phase <;> simp [phase] at waits

theorem Stands.of_open (stands : Stands options history client)
    (waits : client.phase = .sending ∨ client.phase = .reading) :
    ∃ fed, Connected options history client ∧ Streaming history fed ∧ client.closings = 0 := by
  cases stands with
  | connecting phase => simp [phase] at waits
  | unavailable phase => simp [phase] at waits
  | streaming phase connected fed streaming closings => exact ⟨fed, connected, streaming, closings⟩
  | done phase => rcases phase with phase | phase <;> simp [phase] at waits

theorem Stands.of_closing (stands : Stands options history client) {ending : Ending}
    (waits : client.phase = .closing ending) :
    ending = .returned ∧ Connected options history client ∧ Streamed history ∧
      client.delivery.finished = true ∧ client.closings = 1 := by
  cases stands with
  | connecting phase => simp [phase] at waits
  | unavailable phase => simp [phase] at waits
  | streaming phase => rcases phase with phase | phase <;> simp [phase] at waits
  | done phase connected streamed finished closings =>
      refine ⟨?_, connected, streamed, finished, closings⟩
      rcases phase with phase | phase <;> simp [phase] at waits
      exact waits.symm

/-! ## The steps of a client -/

theorem onConnect_stands
    (requested : ∃ request, Request.encode options.lines options.follow = .ok request)
    (stands : Stands options history client) (waits : client.phase = .connecting)
    {result : Except SystemFault Unit} (tame : (Happening.connected result).Tame) :
    Stands options (history ++ [.connected result]) (client.onConnect options result).1 := by
  rcases stands.of_connecting waits with
    ⟨⟨⟨faults, connects, attempts⟩, unused⟩, streaming, pauses, allowed⟩
  have streaming_on := streaming.concat (.connected result) rfl (.inl rfl)
  cases result with
  | ok made =>
      rcases requested with ⟨request, requested⟩
      simp only [onConnect, requested]
      refine .streaming (.inl rfl) ⟨⟨faults, ?_, ?_⟩, ?_, ?_⟩ [] streaming_on unused
      · simp [connects, Happening.connect?]
      · simp [attempts]
      · exact allowed
      · exact pauses
  | error fault =>
      have failed : (history ++ [Happening.connected (.error fault)]).filterMap
          Happening.connect? = (faults ++ [fault]).map .error := by
        simp [connects, Happening.connect?]
      have attempts_now : client.attempts + 1 = (faults ++ [fault]).length := by
        simp [attempts]
      simp only [onConnect, tame fault rfl, if_true]
      split
      case isTrue more =>
        refine .connecting rfl ⟨⟨_, failed, attempts_now⟩, unused⟩ streaming_on ?_ ?_
        · simp [pauses]
        · show client.attempts + 1 < options.attempts.toNat
          omega
      case isFalse spent =>
        refine .unavailable rfl ⟨⟨_, failed, attempts_now⟩, unused⟩ streaming_on ?_ ?_
        · simpa using pauses
        · show client.attempts + 1 = options.attempts.toNat
          omega

theorem onSent_stands (stands : Stands options history client) (waits : client.phase = .sending)
    {result : Except SystemFault Unit} (tame : (Happening.sent result).Tame) :
    Stands options (history ++ [.sent result]) (client.onSent rules result).1 := by
  rcases stands.of_open (.inl waits) with ⟨fed, connected, streaming, closings⟩
  have connected_on := connected.concat (.sent result) rfl rfl rfl
  cases result with
  | ok sent =>
      have streaming_on := streaming.concat (.sent (.ok sent)) rfl (.inl rfl)
      exact proceed_stands connected_on streaming_on closings
  | error fault =>
      simp only [onSent, tame fault rfl, if_true]
      apply finish_stands rules connected_on _ closings
      exact streaming.concat_end (.sent (.error fault)) rfl

theorem onRead_stands (harmless : rules.Harmless) (stands : Stands options history client)
    (waits : client.phase = .reading) {result : Except SystemFault (List UInt8)}
    (tame : (Happening.read result).Tame) :
    Stands options (history ++ [.read result]) (client.onRead rules result).1 := by
  rcases stands.of_open (.inr waits) with ⟨fed, connected, streaming, closings⟩
  rcases result with fault | (_ | ⟨byte, bytes⟩)
  · simp only [onRead, tame fault rfl, if_true]
    apply finish_stands rules (connected.concat (.read (.error fault)) rfl rfl rfl) _ closings
    exact streaming.concat_end (.read (.error fault)) rfl
  · apply finish_stands rules (connected.concat (.read (.ok [])) rfl rfl rfl) _ closings
    exact streaming.concat_end (.read (.ok [])) rfl
  · have contained := harmless client.delivery (byte :: bytes)
    simp only [onRead, contained]
    apply proceed_stands _ (streaming.concat_read byte bytes)
    · exact closings
    · exact connected.concat (.read (.ok (byte :: bytes))) rfl rfl rfl

theorem onClosed_stands (stands : Stands options history client) {ending : Ending}
    (waits : client.phase = .closing ending) {result : Except SystemFault Unit}
    (tame : (Happening.closed result).Tame) :
    Stands options (history ++ [.closed result]) (client.onClosed ending result) := by
  rcases stands.of_closing waits with ⟨rfl, connected, streamed, finished, closings⟩
  have ended : client.onClosed .returned result = { client with phase := .ended .returned } := by
    cases result with
    | ok done => rfl
    | error fault => simp [onClosed, tame fault rfl]
  rw [ended]
  exact .done (.inr rfl) (connected.concat (.closed result) rfl rfl rfl)
    (streamed.concat (.closed result) rfl (.inl rfl)) finished closings

/-- Somebody who stops the delivery does not change how far the client has come. -/
theorem stop_stands (stands : Stands options history client) :
    Stands options (history ++ [.stopped]) client.stop := by
  cases stands with
  | connecting phase unconnected streaming pauses allowed =>
      exact .connecting phase (unconnected.concat .stopped rfl rfl rfl)
        (streaming.concat .stopped rfl (.inr rfl)) pauses allowed
  | unavailable phase unconnected streaming pauses spent =>
      exact .unavailable phase (unconnected.concat .stopped rfl rfl rfl)
        (streaming.concat .stopped rfl (.inr rfl)) pauses spent
  | streaming phase connected fed streaming closings =>
      exact .streaming phase (connected.concat .stopped rfl rfl rfl) fed
        (streaming.concat .stopped rfl (.inr rfl)) closings
  | done phase connected streamed finished closings =>
      exact .done phase (connected.concat .stopped rfl rfl rfl)
        (streamed.concat .stopped rfl (.inr rfl)) (Delivery.finished_stop _ _) closings

/-- Each step keeps what the history is like in line with how far the client has come. -/
theorem Stands.step
    (requested : ∃ request, Request.encode options.lines options.follow = .ok request)
    (harmless : rules.Harmless)
    (stands : Stands options history client)
    (step : Step options rules client happening after notes) (tame : happening.Tame) :
    Stands options (history ++ [happening]) after := by
  cases step with
  | connected waits result => exact onConnect_stands requested stands waits tame
  | sent waits result => exact onSent_stands stands waits tame
  | read waits result => exact onRead_stands harmless stands waits tame
  | closed waits result => exact onClosed_stands stands waits tame
  | stopped => exact stop_stands stands

theorem Runs.stands
    (requested : ∃ request, Request.encode options.lines options.follow = .ok request)
    (harmless : rules.Harmless)
    (runs : Runs options rules delivery history client journal)
    (tame : ∀ happening ∈ history, happening.Tame) : Stands options history client := by
  induction runs with
  | start => exact start_stands
  | step runs step ih =>
      apply Stands.step requested harmless (ih _) step
      · exact tame _ (by simp)
      · intro happening happening_mem
        exact tame happening (List.mem_append_left _ happening_mem)

end Client

end LogRelay
