import LogRelay.Proofs.Link.Calls
import LogRelay.Sink.Network

/-!
# The link between its steps

A link that has been started is stepped by what happens to it: a text is written, its timer runs
out, its socket becomes readable, it is closed, or something that it asked for earlier comes too
late. Between two steps it holds a socket or waits for its timer, never both, and once closed it
does neither. What it has asked of its surroundings agrees with what it knows of itself.

The proof keeps two layers apart. `Books` says that the calls agree with the fields, which holds
also in the middle of a step, and each operation has one lemma about it. `Sound` adds what holds
between steps only.
-/

namespace LogRelay

/-- What can happen to a link after its start. -/
inductive LinkEvent where
  | write (text : String)
  /-- The live timer runs out, and the attempt that follows meets something. -/
  | fire (attempt : Attempt)
  /-- What an earlier timer was to do is done although no timer lives. -/
  | fireLate (attempt : Attempt)
  /-- The watched socket becomes readable. -/
  | readable (reading : Reading)
  /-- What was to be done for a socket that may no longer be watched is done. -/
  | readableLate (reading : Reading)
  | close

namespace LinkTrouble

/-- Sending and closing fail by the operating system only, and so does unwatching, unless it is told
that the socket makes no sense. -/
structure Tame (trouble : LinkTrouble) : Prop where
  send : ∀ made fault, trouble.send made = some fault → fault.isSystem
  close : ∀ made fault, trouble.close made = some fault → fault.isSystem
  unwatch : ∀ made fault, trouble.unwatch made = some fault →
    fault.isSystem ∨ fault.kind = .value ∨ fault.kind = .encoding

end LinkTrouble

/-- Attempts fail by the operating system or because the host is no valid name, and single addresses
by the operating system. -/
def Attempt.Tame : Attempt → Prop
  | fails fault => fault.isSystem ∨ fault.kind = .encoding
  | finds addresses => ∀ fault, some fault ∈ addresses → fault.isSystem

/-- Reading fails by the operating system. -/
def Reading.Tame : Reading → Prop
  | bytes _ => True
  | fails fault => fault.isSystem

/-- What happens fails only in the ways that a link deals with. -/
def LinkEvent.Tame : LinkEvent → Prop
  | write _ | close => True
  | fire attempt | fireLate attempt => attempt.Tame
  | readable reading | readableLate reading => reading.Tame

namespace Link

/-- What an event does to a link. A timer that does not live cannot run out, and a socket that is
not watched cannot become readable, so then nothing happens. -/
def step (link : Link) : LinkEvent → SinkStep Link Unit
  | .write text => (link.write text).andThen fun link _ => .done link ()
  | .fire attempt => (link.fire attempt).getD (.done link ())
  | .fireLate attempt =>
      if (Call.liveTimers link.calls).isEmpty then link.reconnect attempt else .done link ()
  | .readable reading => (link.readable reading).getD (.done link ())
  | .readableLate reading => link.onReadable reading
  | .close => link.close

/-- What a sequence of events does to a link. -/
def run (link : Link) : List LinkEvent → SinkStep Link Unit
  | [] => .done link ()
  | event :: events => (link.step event).andThen fun link _ => link.run events

/-- The calls of a link agree with what it knows of itself. -/
structure Books (link : Link) : Prop where
  accounts : Call.Accounts link.calls link.socket
  timers : (Call.liveTimers link.calls).map Prod.fst = link.retry.toList
  watched : Call.watched link.calls = link.socket.toList

/-- What holds of a started link between two steps, with calls that fail in tame ways only. -/
structure Sound (link : Link) : Prop where
  tame : link.trouble.Tame
  books : link.Books
  phase : link.phase = if link.isConnected then .connected else .disconnected
  balanced : link.closed = false → link.isConnected = !link.isRetryPending
  ended : link.closed = true → link.isConnected = false ∧ link.isRetryPending = false

variable {link : Link}

theorem liveTimers_eq_nil (books : link.Books) (not_armed : link.retry = none) :
    Call.liveTimers link.calls = [] := by
  have timers := books.timers
  rw [not_armed] at timers
  exact List.map_eq_nil_iff.mp timers

/-! ## Timers -/

@[simp]
theorem scheduleReconnect_socket : link.scheduleReconnect.socket = link.socket := by
  unfold scheduleReconnect
  split <;> rfl

@[simp]
theorem scheduleReconnect_phase : link.scheduleReconnect.phase = link.phase := by
  unfold scheduleReconnect
  split <;> rfl

@[simp]
theorem scheduleReconnect_closed : link.scheduleReconnect.closed = link.closed := by
  unfold scheduleReconnect
  split <;> rfl

@[simp]
theorem scheduleReconnect_trouble : link.scheduleReconnect.trouble = link.trouble := by
  unfold scheduleReconnect
  split <;> rfl

theorem scheduleReconnect_retry :
    link.scheduleReconnect.isRetryPending = (!link.closed || link.isRetryPending) := by
  unfold scheduleReconnect
  split
  · rename_i stays
    cases closed : link.closed <;> simp_all [isRetryPending]
  · rename_i arms
    simp_all [isRetryPending]

theorem scheduleReconnect_books (books : link.Books) : link.scheduleReconnect.Books := by
  unfold scheduleReconnect
  split
  · exact books
  · rename_i arms
    have not_armed : link.retry = none := by
      simp at arms
      exact arms.2
    refine ⟨?_, ?_, ?_⟩
    · apply books.accounts.concat <;> simp
    · simp [call, Call.onTimers, liveTimers_eq_nil books not_armed]
    · simp [call, Call.onWatched, books.watched]

theorem cancelRetry_books (books : link.Books) : link.cancelRetry.Books := by
  unfold cancelRetry
  split
  · exact books
  · rename_i timer armed
    have timers := books.timers
    rw [armed] at timers
    rcases List.map_eq_singleton_iff.mp timers with ⟨⟨other, delay⟩, live, named⟩
    refine ⟨?_, ?_, ?_⟩
    · apply books.accounts.concat <;> simp
    · simp_all [call, Call.onTimers]
    · simp [call, Call.onWatched, books.watched]

/-! ## Giving the socket up -/

theorem unwatch_eq_done (tame : link.trouble.Tame) (socket : Nat) :
    link.unwatch socket = .done (link.call (.unwatch socket)) () := by
  unfold unwatch
  split
  · rfl
  · rename_i fault failed
    rcases tame.unwatch _ _ failed with isSystem | isValue | isEncoding
    · simp [isSystem]
    · simp [isValue]
    · simp [isEncoding]

theorem closeSocket_eq_done (tame : link.trouble.Tame) (socket : Nat) :
    link.closeSocket socket = .done (link.call (.close socket)) () := by
  unfold closeSocket
  split
  · rfl
  · rename_i fault failed
    simp [tame.close _ _ failed]

/-- The link after it has given its socket up. -/
def released (link : Link) : Link :=
  match link.socket with
  | none => { link with phase := .disconnected }
  | some socket =>
      { (link.call (.unwatch socket)).call (.close socket) with
        socket := none
        phase := .disconnected }

theorem teardown_eq_done (tame : link.trouble.Tame) :
    link.teardown = .done link.released () := by
  unfold teardown released
  cases link.socket with
  | none => rfl
  | some socket =>
      have tame_after : (link.call (.unwatch socket)).trouble.Tame := tame
      simp [unwatch_eq_done tame, closeSocket_eq_done tame_after]

@[simp]
theorem released_socket : link.released.socket = none := by
  unfold released
  split
  · assumption
  · rfl

@[simp]
theorem released_phase : link.released.phase = .disconnected := by
  unfold released
  split <;> rfl

@[simp]
theorem released_retry : link.released.retry = link.retry := by
  unfold released
  split <;> rfl

@[simp]
theorem released_closed : link.released.closed = link.closed := by
  unfold released
  split <;> rfl

@[simp]
theorem released_trouble : link.released.trouble = link.trouble := by
  unfold released
  split <;> rfl

theorem released_books (books : link.Books) : link.released.Books := by
  unfold released
  split
  · exact ⟨books.accounts, books.timers, books.watched⟩
  · rename_i socket held
    rcases books with ⟨accounts, timers, watched⟩
    rw [held] at accounts watched
    refine ⟨?_, ?_, ?_⟩
    · have unwatched := accounts.concat (.unwatch socket) (by simp) (by simp)
      exact unwatched.concat_close
    · simp [call, Call.onTimers, timers]
    · simp [call, Call.onWatched, watched]

theorem dropLink_eq_done (tame : link.trouble.Tame) :
    link.dropLink = .done link.released.scheduleReconnect () := by
  unfold dropLink
  rw [teardown_eq_done tame]
  rfl

/-- A link that has given its socket up and looks for another is sound. -/
theorem scheduleReconnect_sound (tame : link.trouble.Tame) (books : link.Books)
    (free : link.socket = none) (at_rest : link.phase = .disconnected)
    (ended : link.closed = true → link.retry = none) : link.scheduleReconnect.Sound := by
  refine ⟨?_, scheduleReconnect_books books, ?_, ?_, ?_⟩
  · simpa using tame
  · simp [isConnected, free, at_rest]
  · intro not_closed
    simp only [scheduleReconnect_closed] at not_closed
    simp [isConnected, free, scheduleReconnect_retry, not_closed]
  · intro closed
    simp only [scheduleReconnect_closed] at closed
    have not_pending : link.isRetryPending = false := by simp [isRetryPending, ended closed]
    rw [scheduleReconnect_retry, not_pending]
    simp [isConnected, free, closed]

theorem released_scheduleReconnect_sound (sound : link.Sound) :
    link.released.scheduleReconnect.Sound := by
  have tame : link.released.trouble.Tame := by
    rw [released_trouble]
    exact sound.tame
  apply scheduleReconnect_sound tame (released_books sound.books) released_socket released_phase
  intro closed
  rw [released_closed] at closed
  have not_pending := (sound.ended closed).2
  simpa [isRetryPending] using not_pending

theorem dropWith_eq (tame : link.trouble.Tame) (text : String) :
    link.dropWith text =
      ⟨link.released.scheduleReconnect, .ok (), [⟨.warning, .sink, text⟩], []⟩ := by
  simp only [dropWith, SinkStep.noted, SinkStep.andThen, dropLink_eq_done tame]
  rfl

theorem dropWith_sound (sound : link.Sound) (text : String) :
    (link.dropWith text).result = .ok () ∧ (link.dropWith text).state.Sound ∧
      (link.dropWith text).state.closed = link.closed := by
  rw [dropWith_eq sound.tame]
  exact ⟨rfl, released_scheduleReconnect_sound sound, by simp⟩

/-! ## Asking for a socket -/

/-- What asking for a socket comes to: nothing changes but the calls, which leave timers and watched
sockets alone, the socket obtained is the only one that has not been closed, and a failure is one of
those that a link deals with. -/
structure Asked (link : Link) (result : Except SystemFault Nat) (after : Link) : Prop where
  only_calls : after = { link with calls := after.calls }
  timers : Call.liveTimers after.calls = Call.liveTimers link.calls
  watched : Call.watched after.calls = Call.watched link.calls
  accounts : Call.Accounts after.calls result.toOption
  fault : ∀ fault, result = .error fault → fault.isSystem ∨ fault.kind = .encoding

theorem Asked.trans {middle after : Link} {result : Except SystemFault Nat}
    (only_calls : middle = { link with calls := middle.calls })
    (timers : Call.liveTimers middle.calls = Call.liveTimers link.calls)
    (watched : Call.watched middle.calls = Call.watched link.calls)
    (asked : middle.Asked result after) : link.Asked result after := by
  refine ⟨?_, asked.timers.trans timers, asked.watched.trans watched, asked.accounts, asked.fault⟩
  rw [asked.only_calls, only_calls]

theorem asked_openSocket (accounts : Call.Accounts link.calls none) :
    link.Asked (.ok link.openSocket.1) link.openSocket.2 := by
  refine ⟨rfl, ?_, ?_, accounts.concat_opened, ?_⟩
  · simp [openSocket, call, Call.onTimers]
  · simp [openSocket, call, Call.onWatched]
  · intro fault impossible
    cases impossible

/-- Addresses are tried one by one, and whatever is opened for one that cannot be used is closed. -/
theorem asked_tryAddresses (tame : link.trouble.Tame) (accounts : Call.Accounts link.calls none)
    {addresses : List (Option SystemFault)}
    (tame_addresses : ∀ fault, some fault ∈ addresses → fault.isSystem)
    {last : Option SystemFault} (tame_last : ∀ fault, last = some fault → fault.isSystem) :
    link.Asked (link.tryAddresses last addresses).1 (link.tryAddresses last addresses).2 := by
  induction addresses generalizing link last with
  | nil =>
      refine ⟨rfl, rfl, rfl, accounts, ?_⟩
      intro fault is_fault
      simp only [tryAddresses, Except.error.injEq] at is_fault
      left
      cases last with
      | none =>
          subst fault
          rfl
      | some reported =>
          subst fault
          exact tame_last reported rfl
  | cons address addresses ih =>
      have opened := asked_openSocket accounts
      cases address with
      | none => exact opened
      | some fault =>
          have isSystem : fault.isSystem = true := tame_addresses fault (by simp)
          have closed := opened.accounts.concat_close
          have timers : Call.liveTimers (link.openSocket.2.call (.close link.openSocket.1)).calls =
              Call.liveTimers link.calls := by
            simp [openSocket, call, Call.onTimers]
          have watched : Call.watched (link.openSocket.2.call (.close link.openSocket.1)).calls =
              Call.watched link.calls := by
            simp [openSocket, call, Call.onWatched]
          simp only [tryAddresses, isSystem, if_true]
          split
          · rename_i closing failed
            refine ⟨rfl, timers, watched, closed, ?_⟩
            intro reported is_reported
            cases is_reported
            exact Or.inl (tame.close _ _ failed)
          · apply Asked.trans rfl timers watched
            apply ih
            · exact tame
            · exact closed
            · intro other other_mem
              exact tame_addresses other (List.mem_cons_of_mem _ other_mem)
            · intro other is_other
              cases is_other
              exact isSystem

theorem asked_askSocket (tame : link.trouble.Tame) (accounts : Call.Accounts link.calls none)
    {attempt : Attempt} (tame_attempt : attempt.Tame) :
    link.Asked (link.askSocket attempt).1 (link.askSocket attempt).2 := by
  unfold askSocket
  split
  · -- datagrams: the host is looked up, and its addresses are tried
    have looked := accounts.concat (.lookUp link.options.host link.options.port)
      (by simp) (by simp)
    cases attempt with
    | fails fault =>
        refine ⟨rfl, ?_, ?_, looked, ?_⟩
        · simp [call, Call.onTimers]
        · simp [call, Call.onWatched]
        · intro reported is_reported
          cases is_reported
          exact tame_attempt
    | finds addresses =>
        have tame_after : (link.call (.lookUp link.options.host link.options.port)).trouble.Tame :=
          tame
        have no_failure : ∀ fault, (none : Option SystemFault) = some fault → fault.isSystem := by
          simp
        apply Asked.trans rfl _ _ (asked_tryAddresses tame_after looked tame_attempt no_failure)
        · simp [call, Call.onTimers]
        · simp [call, Call.onWatched]
  · have connected := accounts.concat
      (.connect link.options.host link.options.port LinkOptions.connectLimit)
      (by simp) (by simp)
    cases attempt with
    | fails fault =>
        refine ⟨rfl, ?_, ?_, connected, ?_⟩
        · simp [call, Call.onTimers]
        · simp [call, Call.onWatched]
        · intro reported is_reported
          cases is_reported
          exact tame_attempt
    | finds addresses =>
        refine ⟨rfl, ?_, ?_, ?_, ?_⟩
        · simp [openSocket, call, Call.onTimers]
        · simp [openSocket, call, Call.onWatched]
        · apply connected.concat_opened.concat <;> simp
        · intro reported impossible
          cases impossible

theorem hold_sound {socket : Nat} (tame : link.trouble.Tame)
    (accounts : Call.Accounts link.calls (some socket)) (no_timer : Call.liveTimers link.calls = [])
    (no_watch : Call.watched link.calls = []) (not_armed : link.retry = none)
    (not_closed : link.closed = false) : (link.hold socket).state.Sound := by
  refine ⟨tame, ⟨?_, ?_, ?_⟩, ?_, ?_, ?_⟩
  · apply accounts.concat <;> simp
  · simp [hold, call, Call.onTimers, no_timer, not_armed]
  · simp [hold, call, Call.onWatched, no_watch]
  · simp [hold, isConnected]
  · simp [hold, isConnected, isRetryPending, call, not_armed]
  · intro closed
    simp [hold, call, not_closed] at closed

theorem afterFailure_sound (tame : link.trouble.Tame) (books : link.Books)
    (free : link.socket = none) (not_armed : link.retry = none) {fault : SystemFault}
    (dealt_with : fault.isSystem ∨ fault.kind = .encoding) :
    (link.afterFailure fault).result = .ok () ∧ (link.afterFailure fault).state.Sound ∧
      (link.afterFailure fault).state.closed = link.closed := by
  have condition : (fault.isSystem || fault.kind == .encoding) = true := by
    rcases dealt_with with isSystem | isEncoding
    · simp [isSystem]
    · simp [isEncoding]
  simp only [afterFailure, condition, if_true]
  refine ⟨rfl, ?_, by simp [SinkStep.noted]⟩
  apply scheduleReconnect_sound
  · exact tame
  · exact ⟨books.accounts, books.timers, books.watched⟩
  · exact free
  · rfl
  · intro closed
    exact not_armed

/-- A link whose timer has run out, or had run out long before, is sound after it has asked for a
socket if it had to. -/
theorem reconnect_sound (tame : link.trouble.Tame)
    (books : ({ link with retry := none } : Link).Books)
    (phase : link.phase = if link.isConnected then .connected else .disconnected)
    (ended : link.closed = true → link.socket = none) {attempt : Attempt}
    (tame_attempt : attempt.Tame) :
    (link.reconnect attempt).result = .ok () ∧ (link.reconnect attempt).state.Sound ∧
      (link.reconnect attempt).state.closed = link.closed := by
  by_cases idle : (link.closed || link.socket.isSome) = true
  · have equal : link.reconnect attempt = .done { link with retry := none } () := if_pos idle
    rw [equal]
    refine ⟨rfl, ⟨tame, books, phase, ?_, ?_⟩, rfl⟩
    · intro not_closed
      change link.closed = false at not_closed
      simpa [SinkStep.done, isConnected, isRetryPending, not_closed] using idle
    · intro closed
      simp [SinkStep.done, isConnected, isRetryPending, ended closed]
  · have not_idle := idle
    simp only [Bool.or_eq_true, not_or, Bool.not_eq_true, Option.isSome_eq_false_iff,
      Option.isNone_iff_eq_none] at not_idle
    rcases not_idle with ⟨not_closed, free⟩
    have accounts := books.accounts
    rw [show ({ link with retry := none } : Link).socket = none from free] at accounts
    have no_timer := liveTimers_eq_nil books rfl
    have no_watch : Call.watched link.calls = [] := by simpa [free] using books.watched
    have tame_asking : ({ link with retry := none, phase := .connecting } : Link).trouble.Tame :=
      tame
    have asked := asked_askSocket tame_asking accounts tame_attempt
    rcases shape : ({ link with retry := none, phase := .connecting } : Link).askSocket attempt
      with ⟨result, after⟩
    rw [shape] at asked
    rcases asked with ⟨only_calls, timers, watched, accounts_after, dealt_with⟩
    simp only [no_timer, no_watch] at only_calls timers watched
    have tame_after : after.trouble.Tame := by
      rw [only_calls]
      exact tame
    have not_armed_after : after.retry = none := by rw [only_calls]
    have same_closed : after.closed = link.closed := by rw [only_calls]
    cases result with
    | ok socket =>
        have holds : link.reconnect attempt = after.hold socket := by
          simp only [reconnect, idle, if_false, Bool.false_eq_true, shape]
        rw [holds]
        refine ⟨rfl, ?_, same_closed⟩
        exact hold_sound tame_after accounts_after timers watched not_armed_after
          (same_closed.trans not_closed)
    | error fault =>
        have fails : link.reconnect attempt = after.afterFailure fault := by
          simp only [reconnect, idle, if_false, Bool.false_eq_true, shape]
        rw [fails]
        have free_after : after.socket = none := by
          rw [only_calls]
          exact free
        have books_after : after.Books := by
          refine ⟨?_, ?_, ?_⟩
          · rw [free_after]
            exact accounts_after
          · simp [timers, not_armed_after]
          · simp [watched, free_after]
        rcases afterFailure_sound tame_after books_after free_after not_armed_after
            (dealt_with fault rfl) with
          ⟨ends_well, sound_after, closed_after⟩
        exact ⟨ends_well, sound_after, closed_after.trans same_closed⟩

/-! ## One step and many -/

theorem idle_start_sound (options : LinkOptions) {trouble : LinkTrouble} (tame : trouble.Tame) :
    (idle options trouble).start.Sound := by
  apply scheduleReconnect_sound
  · exact tame
  · exact ⟨.nil, rfl, rfl⟩
  · rfl
  · rfl
  · intro closed
    rfl

/-- Sending leaves everything but the calls as it is. -/
theorem call_send_sound (sound : link.Sound) (socket : Nat) (bytes : List UInt8)
    (succeeded : Bool) : (link.call (.send socket bytes succeeded)).Sound := by
  rcases sound with ⟨tame, ⟨accounts, timers, watched⟩, phase, balanced, ended⟩
  refine ⟨tame, ⟨?_, ?_, ?_⟩, phase, balanced, ended⟩
  · apply accounts.concat <;> simp
  · simp [call, Call.onTimers, timers]
  · simp [call, Call.onWatched, watched]

theorem write_sound (sound : link.Sound) (text : String) :
    (∃ accepted, (link.write text).result = .ok accepted) ∧ (link.write text).state.Sound ∧
      (link.write text).state.closed = link.closed := by
  unfold write
  split
  · exact ⟨⟨false, rfl⟩, sound, rfl⟩
  · rename_i socket held
    simp only
    split
    · exact ⟨⟨true, rfl⟩, call_send_sound sound .., rfl⟩
    · rename_i fault failed
      have isSystem := sound.tame.send _ _ failed
      have sound_after := call_send_sound sound socket (link.options.frame text) false
      simp only [isSystem, if_true]
      rcases dropWith_sound sound_after ("Failed to send log data to " ++
        link.options.endpoint ++ " via " ++ link.options.transport ++ ": " ++ fault.message) with
        ⟨ends_well, dropped, closed⟩
      rw [SinkStep.andThen_of_ok ends_well]
      exact ⟨⟨false, rfl⟩, dropped, closed⟩

theorem onReadable_sound (sound : link.Sound) {reading : Reading} (tame : reading.Tame) :
    (link.onReadable reading).result = .ok () ∧ (link.onReadable reading).state.Sound ∧
      (link.onReadable reading).state.closed = link.closed := by
  unfold onReadable
  split
  · exact ⟨rfl, sound, rfl⟩
  · cases reading with
    | bytes bytes =>
        simp only
        split
        · exact dropWith_sound sound _
        · exact ⟨rfl, sound, rfl⟩
    | fails fault =>
        have isSystem : fault.isSystem = true := tame
        simp only [isSystem, if_true]
        split
        · exact ⟨rfl, sound, rfl⟩
        · exact dropWith_sound sound _

theorem fire_sound (sound : link.Sound) {attempt : Attempt} (tame : attempt.Tame)
    {step : SinkStep Link Unit} (fires : link.fire attempt = some step) :
    step.result = .ok () ∧ step.state.Sound ∧ step.state.closed = link.closed := by
  unfold fire at fires
  split at fires
  · cases fires
  · rename_i timer delay others live
    cases fires
    rcases sound with ⟨tame_trouble, books, phase, balanced, ended⟩
    have timers := books.timers
    rw [live] at timers
    have armed : link.retry = some timer := by
      cases retry : link.retry <;> simp_all
    have alone : others = [] := by
      simpa [armed] using timers
    have tame_after : (link.call (.expire timer)).trouble.Tame := tame_trouble
    refine reconnect_sound tame_after ⟨?_, ?_, ?_⟩ phase ?_ tame
    · apply books.accounts.concat <;> simp
    · simp [call, Call.onTimers, live, alone]
    · simp [call, Call.onWatched, books.watched]
    · intro closed
      have not_pending := (ended closed).2
      simp [isRetryPending, armed] at not_pending

theorem close_sound (sound : link.Sound) :
    link.close.result = .ok () ∧ link.close.state.Sound ∧ link.close.state.closed = true := by
  have tame : ({ link with closed := true } : Link).cancelRetry.trouble.Tame := by
    unfold cancelRetry
    split <;> exact sound.tame
  have books : ({ link with closed := true } : Link).cancelRetry.Books :=
    cancelRetry_books ⟨sound.books.accounts, sound.books.timers, sound.books.watched⟩
  have not_armed : ({ link with closed := true } : Link).cancelRetry.retry = none := by
    unfold cancelRetry
    split
    · assumption
    · rfl
  have closed : ({ link with closed := true } : Link).cancelRetry.closed = true := by
    unfold cancelRetry
    split <;> rfl
  unfold close
  rw [teardown_eq_done tame]
  refine ⟨rfl, ⟨?_, released_books books, ?_, ?_, ?_⟩, ?_⟩
  · simpa [SinkStep.done] using tame
  · simp [SinkStep.done, isConnected]
  · intro not_closed
    simp [SinkStep.done, closed] at not_closed
  · intro _
    simp [SinkStep.done, isConnected, isRetryPending, not_armed]
  · simpa [SinkStep.done] using closed

/-- A step ends well and keeps the link sound, and only closing closes it. -/
theorem step_sound (sound : link.Sound) {event : LinkEvent} (tame : event.Tame) :
    (link.step event).result = .ok () ∧ (link.step event).state.Sound ∧
      ((link.step event).state.closed = true ↔ event = .close ∨ link.closed = true) := by
  cases event with
  | write text =>
      rcases write_sound sound text with ⟨⟨accepted, ends_well⟩, sound_after, same⟩
      simp only [step, SinkStep.andThen_of_ok ends_well]
      exact ⟨rfl, sound_after, by simp [SinkStep.done, same]⟩
  | fire attempt =>
      simp only [step]
      cases fires : link.fire attempt with
      | none => exact ⟨rfl, sound, by simp [SinkStep.done]⟩
      | some fired =>
          rcases fire_sound sound tame fires with ⟨ends_well, sound_after, same⟩
          exact ⟨ends_well, sound_after, by simp [same]⟩
  | fireLate attempt =>
      simp only [step]
      split
      · rename_i no_timer
        have not_armed : link.retry = none := by
          have timers := sound.books.timers
          rw [List.isEmpty_iff.mp no_timer] at timers
          cases retry : link.retry <;> simp_all
        have books : ({ link with retry := none } : Link).Books := by
          rw [show ({ link with retry := none } : Link) = link by rw [← not_armed]]
          exact sound.books
        have free : link.closed = true → link.socket = none := by
          intro closed
          simpa [isConnected] using (sound.ended closed).1
        rcases reconnect_sound sound.tame books sound.phase free tame with
          ⟨ends_well, sound_after, same⟩
        exact ⟨ends_well, sound_after, by simp [same]⟩
      · exact ⟨rfl, sound, by simp [SinkStep.done]⟩
  | readable reading =>
      simp only [step, readable]
      split
      · exact ⟨rfl, sound, by simp [SinkStep.done]⟩
      · rcases onReadable_sound sound tame with ⟨ends_well, sound_after, same⟩
        exact ⟨ends_well, sound_after, by simp [same]⟩
  | readableLate reading =>
      rcases onReadable_sound sound tame with ⟨ends_well, sound_after, same⟩
      exact ⟨ends_well, sound_after, by simp [step, same]⟩
  | close =>
      rcases close_sound sound with ⟨ends_well, sound_after, closed⟩
      exact ⟨ends_well, sound_after, by simp [step, closed]⟩

theorem run_sound (sound : link.Sound) {events : List LinkEvent}
    (tame : ∀ event ∈ events, event.Tame) :
    (link.run events).result = .ok () ∧ (link.run events).state.Sound ∧
      ((link.run events).state.closed = true ↔ LinkEvent.close ∈ events ∨ link.closed = true) := by
  induction events generalizing link with
  | nil => exact ⟨rfl, sound, by simp [run, SinkStep.done]⟩
  | cons event events ih =>
      rcases step_sound sound (tame event (by simp)) with ⟨ends_well, sound_after, closed⟩
      have later := ih sound_after fun other other_mem =>
        tame other (List.mem_cons_of_mem _ other_mem)
      simp only [run, SinkStep.andThen_of_ok ends_well]
      refine ⟨later.1, later.2.1, later.2.2.trans ?_⟩
      rw [closed, List.mem_cons]
      constructor
      · rintro (in_later | is_close | was_closed)
        · exact Or.inl (Or.inr in_later)
        · exact Or.inl (Or.inl is_close.symm)
        · exact Or.inr was_closed
      · rintro ((is_close | in_later) | was_closed)
        · exact Or.inr (Or.inl is_close.symm)
        · exact Or.inl in_later
        · exact Or.inr (Or.inr was_closed)

/-- How a link stands after a step, and after it has been closed or not. -/
structure Settled (link : Link) (ended : Prop) : Prop where
  /-- The link is connected while it holds a socket, disconnected otherwise, and never in between. -/
  phase : link.phase = if link.isConnected then .connected else .disconnected
  /-- At most one timer is live, and the link waits for a timer exactly when one is. -/
  timers : (Call.liveTimers link.calls).length = if link.isRetryPending then 1 else 0
  /-- Before it is closed the link either holds a socket or waits for its timer. -/
  alternates : ¬ended → link.isConnected = !link.isRetryPending
  /-- Once it is closed it does neither. -/
  rests : ended → link.isConnected = false ∧ link.isRetryPending = false
  /-- Every socket that was opened, except the held one, has been closed exactly once. -/
  closes : ∀ socket, .opened socket ∈ link.calls → link.socket ≠ some socket →
    Call.closesOf link.calls socket = 1
  /-- Unless unwatching has failed, the held socket is watched and no other. -/
  watched : (∀ made socket, link.calls[made]? = some (.unwatch socket) →
      link.trouble.unwatch made = none) →
    Call.watched link.calls = link.socket.toList

theorem settled_of_sound (sound : link.Sound) {ended : Prop}
    (closed : link.closed = true ↔ ended) : link.Settled ended := by
  rcases sound with ⟨tame, books, phase, balanced, rests⟩
  refine ⟨phase, ?_, ?_, ?_, ?_, fun _ => books.watched⟩
  · have lengths := congrArg List.length books.timers
    cases retry : link.retry <;> simp_all [isRetryPending]
  · intro goes_on
    apply balanced
    rw [← closed] at goes_on
    simpa using goes_on
  · intro is_over
    exact rests (closed.mpr is_over)
  · intro socket was_opened not_held
    exact books.accounts.closesOf_eq_one was_opened not_held

/-- A started link stays settled through every run of writes, timers, readings and closings, on time
or late, whose calls fail only in ways that a link deals with; and no step of the run ends early. -/
theorem run_settled (options : LinkOptions) {trouble : LinkTrouble} (tame : trouble.Tame)
    {events : List LinkEvent} (tame_events : ∀ event ∈ events, event.Tame) :
    ((idle options trouble).start.run events).result = .ok () ∧
      ((idle options trouble).start.run events).state.Settled (LinkEvent.close ∈ events) := by
  rcases run_sound (idle_start_sound options tame) tame_events with ⟨ends_well, sound, closed⟩
  refine ⟨ends_well, settled_of_sound sound ?_⟩
  rw [closed]
  simp [start, idle]

/-- A peer that breaks every sending, with sockets that can neither be unwatched nor closed well. -/
def brokenPeer : LinkTrouble :=
  ⟨fun _ => some (.numbered 32 "Broken pipe"), fun _ => some (.numbered 5 "Input/output error"),
    fun _ => some (.named .value "Invalid file descriptor")⟩

/-- A first address that refuses, a second one that breaks, a reader that comes too late, and the
end while the next attempt is awaited. -/
def brokenEvents : List LinkEvent :=
  [.fire (.finds [some (.numbered 111 "Connection refused"), none]), .write "first",
    .readableLate (.bytes []), .fire (.fails (.named .encoding "label too long")), .close,
    .fireLate (.finds [none]), .write "second"]

theorem run_settled_brokenPeer :
    brokenPeer.Tame ∧ (∀ event ∈ brokenEvents, event.Tame) ∧
      ((idle ⟨"log.example", 514, true, false, false, ⟨0⟩⟩ brokenPeer).start.run
        brokenEvents).result = .ok () ∧
      ((idle ⟨"log.example", 514, true, false, false, ⟨0⟩⟩ brokenPeer).start.run
        brokenEvents).state.Settled (LinkEvent.close ∈ brokenEvents) := by
  have tame : brokenPeer.Tame := by
    refine ⟨?_, ?_, ?_⟩
    · rintro made fault ⟨⟩
      rfl
    · rintro made fault ⟨⟩
      rfl
    · rintro made fault ⟨⟩
      exact Or.inr (Or.inl rfl)
  have tame_events : ∀ event ∈ brokenEvents, event.Tame := by
    intro event event_mem
    simp only [brokenEvents, List.mem_cons, List.not_mem_nil, or_false] at event_mem
    rcases event_mem with rfl | rfl | rfl | rfl | rfl | rfl | rfl
    · simp only [LinkEvent.Tame, Attempt.Tame, List.mem_cons, List.not_mem_nil, or_false]
      rintro fault (⟨⟨⟩⟩ | ⟨⟨⟩⟩)
      rfl
    · trivial
    · trivial
    · exact Or.inr rfl
    · trivial
    · simp [LinkEvent.Tame, Attempt.Tame]
    · trivial
  exact ⟨tame, tame_events, run_settled _ tame tame_events⟩

end Link

end LogRelay
