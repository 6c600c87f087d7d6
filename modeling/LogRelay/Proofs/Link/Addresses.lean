import LogRelay.Proofs.Link.Calls
import LogRelay.Sink.Network

/-!
# The search for an address

A host may have several addresses for datagrams, and a link tries them in their order. The socket of
an address that cannot be used is closed, and the next address gets a socket of its own. As long as
such closings succeed the link takes the first address that can be used, and if there is none it
waits for another attempt and tells the failure of the last address. A closing that fails ends the
attempt at once with its own failure, whatever addresses are left (`Link.reconnect_finds`,
`Link.failing_close_ends_search`).
-/

namespace LogRelay

namespace Call

/-- The calls for so many addresses that are rejected, the first of which gets a certain socket. -/
def rejections (first count : Nat) : List Call :=
  (List.range' first count).flatMap fun socket => [.opened socket, .close socket]

theorem rejections_succ (first count : Nat) :
    rejections first (count + 1) = .opened first :: .close first :: rejections (first + 1) count := by
  simp [rejections, List.range'_succ]

theorem rejections_append (first count more : Nat) :
    rejections first count ++ rejections (first + count) more = rejections first (count + more) := by
  rw [rejections, rejections, rejections, ← List.flatMap_append, ← List.range'_append_1]

@[simp]
theorem socketCount_append (calls later : List Call) :
    socketCount (calls ++ later) = socketCount calls + socketCount later :=
  List.countP_append

@[simp]
theorem timerCount_append (calls later : List Call) :
    timerCount (calls ++ later) = timerCount calls + timerCount later :=
  List.countP_append

theorem socketCount_rejections (first count : Nat) : socketCount (rejections first count) = count := by
  induction count generalizing first with
  | zero => rfl
  | succ count ih =>
      have later := ih (first + 1)
      rw [rejections_succ]
      simpa [socketCount] using later

theorem timerCount_rejections (first count : Nat) : timerCount (rejections first count) = 0 := by
  induction count generalizing first with
  | zero => rfl
  | succ count ih =>
      have later := ih (first + 1)
      rw [rejections_succ]
      simpa [timerCount] using later

theorem length_rejections (first count : Nat) : (rejections first count).length = 2 * count := by
  induction count generalizing first with
  | zero => rfl
  | succ count ih =>
      rw [rejections_succ, List.length_cons, List.length_cons, ih]
      omega

end Call

namespace Link

variable {link : Link}

/-! ## Addresses one by one -/

/-- How many addresses are rejected before the first one that can be used. -/
def rejectedCount (addresses : List (Option SystemFault)) : Nat :=
  (addresses.takeWhile Option.isSome).length

/-- The link after so many addresses have been rejected. -/
def rejecting (link : Link) (count : Nat) : Link :=
  { link with calls := link.calls ++ Call.rejections (Call.socketCount link.calls) count }

@[simp]
theorem rejecting_zero (link : Link) : link.rejecting 0 = link := by
  simp [rejecting, Call.rejections]

theorem rejecting_one (link : Link) :
    link.rejecting 1 = (link.openSocket.2.call (.close link.openSocket.1)) := by
  simp [rejecting, openSocket, call, Call.rejections]

theorem rejecting_rejecting (link : Link) (count more : Nat) :
    (link.rejecting count).rejecting more = link.rejecting (count + more) := by
  simp [rejecting, Call.socketCount_rejections, Call.rejections_append]

theorem tryAddresses_rejected {fault : SystemFault} (is_system : fault.isSystem = true)
    (last : Option SystemFault) (addresses : List (Option SystemFault)) :
    link.tryAddresses last (some fault :: addresses) =
      match link.trouble.close (link.calls.length + 1) with
      | some closing => (.error closing, link.rejecting 1)
      | none => (link.rejecting 1).tryAddresses (some fault) addresses := by
  have opened : link.openSocket.2.calls.length = link.calls.length + 1 := by
    simp [openSocket, call]
  simp only [tryAddresses, is_system, if_true, opened, ← rejecting_one]
  rfl

/-- Addresses whose sockets are closed well after they were rejected are passed over, and the last of
their failures is remembered. -/
theorem tryAddresses_append {faults : List SystemFault}
    (are_system : ∀ fault ∈ faults, fault.isSystem = true)
    (closings : ∀ place < faults.length,
      link.trouble.close (link.calls.length + 2 * place + 1) = none)
    (last : Option SystemFault) (addresses : List (Option SystemFault)) :
    link.tryAddresses last (faults.map some ++ addresses) =
      (link.rejecting faults.length).tryAddresses (faults.getLast?.or last) addresses := by
  induction faults generalizing link last with
  | nil => simp
  | cons fault faults ih =>
      have first_closes := closings 0 (by simp)
      have later_close : ∀ place < faults.length, (link.rejecting 1).trouble.close
          ((link.rejecting 1).calls.length + 2 * place + 1) = none := by
        intro place place_lt
        have closes := closings (place + 1) (by simpa using place_lt)
        rw [rejecting, List.length_append, Call.length_rejections]
        rwa [show link.calls.length + 2 * 1 + 2 * place + 1 =
          link.calls.length + 2 * (place + 1) + 1 by omega]
      rw [List.map_cons, List.cons_append,
        tryAddresses_rejected (are_system fault List.mem_cons_self), first_closes]
      simp only
      rw [ih (fun other mem => are_system other (List.mem_cons_of_mem _ mem)) later_close,
        rejecting_rejecting, List.length_cons, Nat.add_comm faults.length 1]
      cases faults with
      | nil => rfl
      | cons second faults => simp [List.getLast?_cons]

/-! ## The attempt -/

/-- What closing the socket of the address at a place meets, if the addresses before it were rejected
and their sockets closed. -/
def closing (link : Link) (place : Nat) : Option SystemFault :=
  link.trouble.close (link.calls.length + 1 + 2 * place + 1)

/-- The calls of an attempt in which so many addresses are rejected. -/
def searching (link : Link) (rejected : Nat) : List Call :=
  .lookUp link.options.host link.options.port ::
    Call.rejections (Call.socketCount link.calls) rejected

/-- The failure that an attempt tells when no address can be used. -/
def lastFailure (link : Link) (addresses : List (Option SystemFault)) : SystemFault :=
  addresses.getLast?.join.getD (.named .system ("no address found for " ++ link.options.host))

/-- The link holds the socket of the address behind the rejected ones, which is the last socket that
was opened. -/
structure Obtains (link : Link) (rejected : Nat) (step : SinkStep Link Unit) : Prop where
  ends : step.result = .ok ()
  phase : step.state.phase = .connected
  socket : step.state.socket = some (Call.socketCount link.calls + rejected)
  calls : step.state.calls = link.calls ++ link.searching rejected ++
    [.opened (Call.socketCount link.calls + rejected),
      .watch (Call.socketCount link.calls + rejected)]
  told : step.journal = [⟨.info, .sink,
    "Connected to " ++ link.options.endpoint ++ " via " ++ link.options.transport⟩]

/-- The link holds no socket after it has opened and closed so many, waits for its timer and tells a
failure. -/
structure GivesUp (link : Link) (rejected : Nat) (fault : SystemFault) (step : SinkStep Link Unit) :
    Prop where
  ends : step.result = .ok ()
  phase : step.state.phase = .disconnected
  socket : step.state.socket = none
  armed : step.state.retry = some (Call.timerCount link.calls)
  calls : step.state.calls = link.calls ++ link.searching rejected ++
    [.arm (Call.timerCount link.calls) link.options.retryDelay]
  told : step.journal = [⟨.warning, .sink,
    "Failed to connect to " ++ link.options.endpoint ++ " via " ++ link.options.transport ++ ": " ++
      fault.message⟩]

/-- The link while it looks for an address: its timer has run out, and its host has been looked up. -/
def looking (link : Link) : Link :=
  ({ link with retry := none, phase := .connecting } : Link).call
    (.lookUp link.options.host link.options.port)

theorem reconnect_eq (not_closed : link.closed = false) (free : link.socket = none)
    (datagrams : link.options.udp = true) (addresses : List (Option SystemFault)) :
    link.reconnect (.finds addresses) =
      match link.looking.tryAddresses none addresses with
      | (.ok socket, after) => after.hold socket
      | (.error fault, after) => after.afterFailure fault := by
  have goes_on : ¬(link.closed || link.socket.isSome) = true := by simp [not_closed, free]
  have looks : ({ link with retry := none, phase := .connecting } : Link).askSocket
      (.finds addresses) = link.looking.tryAddresses none addresses := if_pos datagrams
  rw [← looks]
  exact if_neg goes_on

theorem calls_looking_rejecting (link : Link) (count : Nat) :
    (link.looking.rejecting count).calls = link.calls ++ link.searching count := by
  simp [looking, rejecting, call, searching, Call.socketCount]

theorem socketCount_searching (link : Link) (count : Nat) :
    Call.socketCount (link.calls ++ link.searching count) =
      Call.socketCount link.calls + count := by
  have rejected := Call.socketCount_rejections (Call.socketCount link.calls) count
  rw [Call.socketCount_append, searching]
  simpa [Call.socketCount] using rejected

theorem timerCount_searching (link : Link) (count : Nat) :
    Call.timerCount (link.calls ++ link.searching count) = Call.timerCount link.calls := by
  have rejected := Call.timerCount_rejections (Call.socketCount link.calls) count
  rw [Call.timerCount_append, searching]
  simpa [Call.timerCount] using rejected

section Attempt

variable {addresses : List (Option SystemFault)} (not_closed : link.closed = false)
  (free : link.socket = none) (datagrams : link.options.udp = true)
include not_closed free datagrams

theorem obtains_of_tryAddresses {rejected : Nat} {rest : List (Option SystemFault)}
    {last : Option SystemFault} (tries : link.looking.tryAddresses none addresses =
      (link.looking.rejecting rejected).tryAddresses last (none :: rest)) :
    link.Obtains rejected (link.reconnect (.finds addresses)) := by
  have number : Call.socketCount (link.looking.rejecting rejected).calls =
      Call.socketCount link.calls + rejected := by
    rw [calls_looking_rejecting, socketCount_searching]
  rw [reconnect_eq not_closed free datagrams, tries]
  simp only [tryAddresses, openSocket, number]
  refine ⟨rfl, rfl, rfl, ?_, rfl⟩
  simp only [hold, call, calls_looking_rejecting]
  simp

theorem givesUp_of_tryAddresses {rejected : Nat} {fault : SystemFault}
    (is_system : fault.isSystem = true) (tries : link.looking.tryAddresses none addresses =
      (.error fault, link.looking.rejecting rejected)) :
    link.GivesUp rejected fault (link.reconnect (.finds addresses)) := by
  have timer : Call.timerCount (link.looking.rejecting rejected).calls =
      Call.timerCount link.calls := by
    rw [calls_looking_rejecting, timerCount_searching]
  have arms : ({ link.looking.rejecting rejected with phase := .disconnected } :
      Link).scheduleReconnect = { link.looking.rejecting rejected with
        phase := .disconnected
        retry := some (Call.timerCount link.calls)
        calls := (link.looking.rejecting rejected).calls ++
          [.arm (Call.timerCount link.calls) link.options.retryDelay] } := by
    rw [← timer]
    exact if_neg (by simp [looking, rejecting, call, not_closed])
  rw [reconnect_eq not_closed free datagrams, tries]
  simp only [afterFailure, is_system, Bool.true_or, if_true, arms]
  refine ⟨rfl, rfl, free, rfl, ?_, rfl⟩
  simp only [SinkStep.noted, calls_looking_rejecting]

end Attempt

/-! ## Which address is taken -/

theorem exists_split (addresses : List (Option SystemFault)) :
    ∃ faults : List SystemFault, rejectedCount addresses = faults.length ∧
      (addresses = faults.map some ∨ ∃ rest, addresses = faults.map some ++ none :: rest) := by
  induction addresses with
  | nil => exact ⟨[], rfl, .inl rfl⟩
  | cons address addresses ih =>
      cases address with
      | none => exact ⟨[], rfl, .inr ⟨addresses, rfl⟩⟩
      | some fault =>
          rcases ih with ⟨faults, count, rejected⟩
          refine ⟨fault :: faults, ?_, ?_⟩
          · simpa [rejectedCount] using count
          · rcases rejected with rfl | ⟨rest, rfl⟩
            · exact .inl rfl
            · exact .inr ⟨rest, rfl⟩

section Attempt

variable {addresses : List (Option SystemFault)} (not_closed : link.closed = false)
  (free : link.socket = none) (datagrams : link.options.udp = true)
include not_closed free datagrams

/-- While closings succeed, the first address that can be used is taken, or all are rejected. -/
theorem reconnect_of_closings {faults : List SystemFault}
    (are_system : ∀ fault ∈ faults, fault.isSystem = true)
    (closings : ∀ place < faults.length, link.closing place = none) :
    (∀ rest, link.Obtains faults.length
      (link.reconnect (.finds (faults.map some ++ none :: rest)))) ∧
    link.GivesUp faults.length (link.lastFailure (faults.map some))
      (link.reconnect (.finds (faults.map some))) := by
  have looking_closings : ∀ place < faults.length,
      link.looking.trouble.close (link.looking.calls.length + 2 * place + 1) = none := by
    intro place place_lt
    have closes := closings place place_lt
    rw [looking, call, List.length_append]
    exact closes
  have passes := tryAddresses_append are_system looking_closings none
  constructor
  · intro rest
    exact obtains_of_tryAddresses not_closed free datagrams (passes (none :: rest))
  · refine givesUp_of_tryAddresses not_closed free datagrams ?_ ?_
    · rw [lastFailure, List.getLast?_map]
      cases last : faults.getLast? with
      | none => rfl
      | some fault => exact are_system fault (List.mem_of_getLast? last)
    · have tries := passes []
      rw [List.append_nil] at tries
      rw [tries, tryAddresses, lastFailure, List.getLast?_map]
      cases faults.getLast? <;> rfl

/-- The first closing that fails is the end of the attempt. -/
theorem givesUp_of_closing {faults : List SystemFault}
    (are_system : ∀ fault ∈ faults, fault.isSystem = true) {fault closing : SystemFault}
    (is_system : fault.isSystem = true) (closing_is_system : closing.isSystem = true)
    (closings : ∀ place < faults.length, link.closing place = none)
    (fails : link.closing faults.length = some closing) (rest : List (Option SystemFault)) :
    link.GivesUp (faults.length + 1) closing
      (link.reconnect (.finds (faults.map some ++ some fault :: rest))) := by
  have looking_length : link.looking.calls.length = link.calls.length + 1 := by
    rw [looking, call, List.length_append]
    rfl
  refine givesUp_of_tryAddresses not_closed free datagrams closing_is_system ?_
  rw [tryAddresses_append are_system, tryAddresses_rejected is_system]
  · have fails_here : (link.looking.rejecting faults.length).trouble.close
        ((link.looking.rejecting faults.length).calls.length + 1) = some closing := by
      rw [rejecting, List.length_append, Call.length_rejections, looking_length]
      exact fails
    rw [fails_here]
    simp only
    rw [rejecting_rejecting]
  · intro place place_lt
    rw [looking_length]
    exact closings place place_lt

end Attempt

/-- How an attempt to send datagrams ends whose host has addresses, each of which can be used or is
rejected by the operating system. While the sockets of rejected addresses are closed well, it succeeds
if and only if some address can be used; it then holds the socket of the first of them, and otherwise
gives up with the failure of the last address. The first closing that fails ends the attempt, which
then gives up with the failure of the closing. -/
theorem reconnect_finds (link : Link) (not_closed : link.closed = false)
    (free : link.socket = none) (datagrams : link.options.udp = true)
    (addresses : List (Option SystemFault))
    (rejected : ∀ fault, some fault ∈ addresses → fault.isSystem = true)
    (unclosed : ∀ place fault, link.closing place = some fault → fault.isSystem = true) :
    ((∀ place < rejectedCount addresses, link.closing place = none) →
      ((link.reconnect (.finds addresses)).state.isConnected = true ↔ none ∈ addresses) ∧
      (none ∈ addresses →
        link.Obtains (rejectedCount addresses) (link.reconnect (.finds addresses))) ∧
      (none ∉ addresses → link.GivesUp addresses.length (link.lastFailure addresses)
        (link.reconnect (.finds addresses)))) ∧
    ∀ place fault, place < rejectedCount addresses → link.closing place = some fault →
      (∀ earlier < place, link.closing earlier = none) →
        link.GivesUp (place + 1) fault (link.reconnect (.finds addresses)) := by
  rcases exists_split addresses with ⟨faults, count, shape⟩
  have are_system : ∀ fault ∈ faults, fault.isSystem = true := by
    intro fault fault_mem
    refine rejected fault ?_
    rcases shape with rfl | ⟨rest, rfl⟩
    · exact List.mem_map_of_mem fault_mem
    · exact List.mem_append_left _ (List.mem_map_of_mem fault_mem)
  rw [count]
  constructor
  · intro closings
    rcases reconnect_of_closings not_closed free datagrams are_system closings with
      ⟨obtains, gives_up⟩
    rcases shape with rfl | ⟨rest, rfl⟩
    · have unusable : none ∉ faults.map some := by simp
      have disconnected := gives_up.socket
      refine ⟨?_, fun usable => absurd usable unusable, fun _ => ?_⟩
      · simp [isConnected, disconnected]
      · rwa [List.length_map]
    · have usable : none ∈ faults.map some ++ none :: rest := by simp
      have connected := (obtains rest).socket
      refine ⟨?_, fun _ => obtains rest, fun unusable => absurd usable unusable⟩
      simp [isConnected, connected]
  · intro place closing place_lt fails earlier
    have before : (faults.take place).length = place := by
      rw [List.length_take, Nat.min_eq_left (Nat.le_of_lt place_lt)]
    have cut : faults = faults.take place ++ faults[place] :: faults.drop (place + 1) := by
      rw [← List.drop_eq_getElem_cons, List.take_append_drop]
    have ends (rest : List (Option SystemFault)) := givesUp_of_closing not_closed free datagrams
      (fun fault mem => are_system fault (List.mem_of_mem_take mem))
      (are_system faults[place] (List.getElem_mem place_lt)) (unclosed place closing fails)
      (by rwa [before]) (by rwa [before]) rest
    rw [before] at ends
    rcases shape with rfl | ⟨rest, rfl⟩
    · rw [cut, List.map_append, List.map_cons]
      exact ends _
    · rw [cut, List.map_append, List.map_cons, List.append_assoc, List.cons_append]
      exact ends _

/-- A link for datagrams whose first timer has run out. -/
def awaited (trouble : LinkTrouble) : Link :=
  (idle ⟨"log.example", 514, true, false, false, Double.one⟩ trouble).start.call (.expire 0)

/-- Nothing takes datagrams at an address. -/
def refused : SystemFault := .numbered 111 "Connection refused"

/-- Two addresses that cannot be used, one that can, and another one. -/
def fourAddresses : List (Option SystemFault) :=
  [some refused, some (.numbered 101 "Network is unreachable"), none, some refused]

/-- The second closing of an attempt that comes first fails. -/
def secondUnclosed : LinkTrouble :=
  ⟨fun _ => none, fun made => if made = 6 then some (.numbered 5 "Input/output error") else none,
    fun _ => none⟩

theorem reconnect_finds_fourAddresses :
    (∀ fault, some fault ∈ fourAddresses → fault.isSystem = true) ∧
      (∀ place fault, (awaited secondUnclosed).closing place = some fault →
        fault.isSystem = true) ∧
      (awaited .none).Obtains 2 ((awaited .none).reconnect (.finds fourAddresses)) ∧
      (awaited secondUnclosed).GivesUp 2 (.numbered 5 "Input/output error")
        ((awaited secondUnclosed).reconnect (.finds fourAddresses)) := by
  have rejected : ∀ fault, some fault ∈ fourAddresses → fault.isSystem = true := by
    simp only [fourAddresses, List.mem_cons, List.not_mem_nil, or_false, Option.some.injEq]
    rintro fault (rfl | rfl | none_eq | rfl)
    · rfl
    · rfl
    · cases none_eq
    · rfl
  have unclosed : ∀ place fault, (awaited secondUnclosed).closing place = some fault →
      fault.isSystem = true := by
    intro place fault fails
    change (if 3 + 2 * place + 1 = 6 then some (SystemFault.numbered 5 "Input/output error")
      else none) = some fault at fails
    split at fails
    · cases fails
      rfl
    · cases fails
  have closed_well := reconnect_finds (awaited .none) rfl rfl rfl fourAddresses rejected
    (fun place fault fails => by cases fails)
  have closed_badly := reconnect_finds (awaited secondUnclosed) rfl rfl rfl fourAddresses rejected
    unclosed
  refine ⟨rejected, unclosed, ?_, ?_⟩
  · exact (closed_well.1 fun place place_lt => rfl).2.1 (by simp [fourAddresses])
  · exact closed_badly.2 1 _ (by decide) rfl (by decide)

/-- A socket that cannot be closed keeps the link from an address that could be used. -/
theorem failing_close_ends_search :
    none ∈ [some refused, none] ∧
      ((idle ⟨"log.example", 514, true, false, false, Double.one⟩
          ⟨fun _ => none, fun _ => some (.numbered 5 "Input/output error"),
            fun _ => none⟩).start.fire (.finds [some refused, none])).map
          (fun step => (step.state.isConnected, step.state.isRetryPending,
            step.journal.map Entry.text)) =
        some (false, true,
          ["Failed to connect to log.example:514 via udp: [Errno 5] Input/output error"]) :=
  ⟨by simp, by decide +kernel⟩

end Link

end LogRelay
