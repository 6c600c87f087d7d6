import LogRelay.Proofs.Link.Invariant
import LogRelay.Proofs.Sink.Emission

/-!
# What a link sends

A link sends when it is given a text and never otherwise. So what went through its sockets can be
read off the texts that it was given, from the socket that was held then and the answer: one sending
for each text given while a socket was held, none for any other, and nothing comes back later. A
sending that failed was the last one through its socket, because the socket is given up before the
next text can arrive, and a socket that has been given up is never held again.
-/

namespace LogRelay

namespace Call

/-- A sending: through which socket, which bytes, and whether it succeeded. -/
abbrev Sending := Nat × List UInt8 × Bool

/-- All sendings, in order. -/
def sends (calls : List Call) : List Sending :=
  calls.filterMap fun call => match call with
    | send socket bytes succeeded => some (socket, bytes, succeeded)
    | _ => none

@[simp]
theorem sends_append (calls later : List Call) : sends (calls ++ later) = sends calls ++ sends later :=
  List.filterMap_append

theorem sendsOf_eq (calls : List Call) (socket : Nat) :
    sendsOf calls socket =
      (sends calls).filterMap fun sending => if sending.1 = socket then some sending.2 else none := by
  rw [sendsOf, sends, List.filterMap_filterMap]
  congr 1
  funext call
  cases call <;> rfl

theorem sendsOf_concat (calls : List Call) (through : Nat) (bytes : List UInt8) (succeeded : Bool)
    (socket : Nat) :
    sendsOf (calls ++ [.send through bytes succeeded]) socket =
      sendsOf calls socket ++ if through = socket then [(bytes, succeeded)] else [] := by
  rw [sendsOf, List.filterMap_append, ← sendsOf]
  split <;> simp_all

theorem mem_sends {calls : List Call} {sending : Sending} {socket : Nat}
    (sent : sending.2 ∈ sendsOf calls socket) (through : sending.1 = socket) :
    sending ∈ sends calls := by
  rw [sendsOf_eq, List.mem_filterMap] at sent
  rcases sent with ⟨⟨other, content⟩, other_mem, same⟩
  split at same
  · rename_i same_socket
    cases same
    rcases sending with ⟨socket, content⟩
    cases through
    cases same_socket
    exact other_mem
  · cases same

/-- No socket is used after a sending through it has failed. -/
structure Untorn (calls : List Call) (held : Option Nat) : Prop where
  /-- Sendings go through sockets that there have been. -/
  opened : ∀ sending ∈ sends calls, sending.1 < socketCount calls
  /-- Every sending through a socket succeeded, except perhaps the last. -/
  earlier : ∀ socket, ∀ sending ∈ (sendsOf calls socket).dropLast, sending.2 = true
  /-- Every sending through the held socket succeeded. -/
  good : ∀ socket, held = some socket → ∀ sending ∈ sendsOf calls socket, sending.2 = true

namespace Untorn

variable {calls later : List Call} {held now : Option Nat}

theorem nil : Untorn [] none := by
  refine ⟨?_, ?_, ?_⟩
  · intro sending sent
    cases sent
  · intro socket sending sent
    cases sent
  · intro socket is_held
    cases is_held

/-- Without further sendings, a socket may be given up, and a new one may be held. -/
theorem of_same_sends (untorn : Untorn calls held) (same : sends later = sends calls)
    (more : socketCount calls ≤ socketCount later)
    (holds : ∀ socket, now = some socket → held = some socket ∨ socketCount calls ≤ socket) :
    Untorn later now := by
  have same_of : ∀ socket, sendsOf later socket = sendsOf calls socket := by
    intro socket
    rw [sendsOf_eq, sendsOf_eq, same]
  refine ⟨?_, ?_, ?_⟩
  · intro sending sent
    rw [same] at sent
    exact Nat.lt_of_lt_of_le (untorn.opened sending sent) more
  · intro socket sending sent
    rw [same_of] at sent
    exact untorn.earlier socket sending sent
  · intro socket is_held sending sent
    rw [same_of] at sent
    rcases holds socket is_held with held_before | is_new
    · exact untorn.good socket held_before sending sent
    · -- Nothing has gone through a socket that there was not.
      have below := untorn.opened (socket, sending) (mem_sends sent rfl)
      exact absurd below (Nat.not_lt.mpr is_new)

/-- After a sending through the held socket, the socket may be held on to if the sending succeeded. -/
theorem concat_send {socket : Nat} (untorn : Untorn calls (some socket))
    (below : socket < socketCount calls) (bytes : List UInt8) (succeeded : Bool) :
    Untorn (calls ++ [.send socket bytes succeeded]) (if succeeded then some socket else none) := by
  have same_count : socketCount (calls ++ [.send socket bytes succeeded]) = socketCount calls :=
    socketCount_concat_of_ne calls (by simp)
  refine ⟨?_, ?_, ?_⟩
  · intro sending sent
    rw [same_count]
    rcases List.mem_append.mp (sends_append .. ▸ sent) with before | now
    · exact untorn.opened sending before
    · rw [List.mem_singleton.mp now]
      exact below
  · intro other sending sent
    rw [sendsOf_concat] at sent
    split at sent
    · rename_i same
      rw [List.dropLast_concat] at sent
      exact untorn.good other (congrArg some same) sending sent
    · rw [List.append_nil] at sent
      exact untorn.earlier other sending sent
  · intro other is_held sending sent
    cases succeeded with
    | false => cases is_held
    | true =>
        cases is_held
        rw [sendsOf_concat, if_pos rfl, List.mem_append] at sent
        rcases sent with before | now
        · exact untorn.good socket rfl sending before
        · rw [List.mem_singleton.mp now]

end Untorn

end Call

namespace Link

/-! ## What sends nothing -/

/-- Nothing has been sent, and a socket that has come to be held is a new one. -/
structure Quiet (before after : Link) : Prop where
  sends : Call.sends after.calls = Call.sends before.calls
  sockets : Call.socketCount before.calls ≤ Call.socketCount after.calls
  held : ∀ socket, after.socket = some socket →
    before.socket = some socket ∨ Call.socketCount before.calls ≤ socket

namespace Quiet

variable {before middle after : Link}

theorem refl (link : Link) : link.Quiet link :=
  ⟨rfl, Nat.le_refl _, fun _ is_held => Or.inl is_held⟩

theorem trans (first : before.Quiet middle) (second : middle.Quiet after) : before.Quiet after := by
  refine ⟨second.sends.trans first.sends, Nat.le_trans first.sockets second.sockets, ?_⟩
  intro socket is_held
  rcases second.held socket is_held with held_before | is_new
  · exact first.held socket held_before
  · exact Or.inr (Nat.le_trans first.sockets is_new)

/-- A step that is quiet up to its middle and quiet from there is quiet. -/
theorem andThen {Result Other : Type} {step : SinkStep Link Result}
    {next : Link → Result → SinkStep Link Other} (first : before.Quiet step.state)
    (second : ∀ (link : Link) result, link.Quiet (next link result).state) :
    before.Quiet (step.andThen next).state := by
  cases ends : step.result with
  | error fault =>
      rw [SinkStep.andThen_of_error ends]
      exact first
  | ok result =>
      rw [SinkStep.andThen_of_ok ends]
      exact first.trans (second step.state result)

end Quiet

variable {link : Link}

/-- A call is quiet if it is no sending. Fields that say nothing about calls and sockets may change. -/
theorem quiet_call {after : Link} (made : Call) (no_send : Call.sends [made] = [])
    (calls : after.calls = link.calls ++ [made])
    (held : ∀ socket, after.socket = some socket → link.socket = some socket) :
    link.Quiet after := by
  refine ⟨?_, ?_, ?_⟩
  · rw [calls, Call.sends_append, no_send, List.append_nil]
  · rw [calls, Call.socketCount, Call.socketCount, List.countP_append]
    exact Nat.le_add_right _ _
  · intro socket is_held
    exact Or.inl (held socket is_held)

theorem quiet_of_calls {after : Link} (calls : after.calls = link.calls)
    (held : ∀ socket, after.socket = some socket → link.socket = some socket) :
    link.Quiet after := by
  refine ⟨congrArg Call.sends calls, Nat.le_of_eq (congrArg Call.socketCount calls.symm), ?_⟩
  intro socket is_held
  exact Or.inl (held socket is_held)

theorem quiet_scheduleReconnect (link : Link) : link.Quiet link.scheduleReconnect := by
  unfold scheduleReconnect
  split
  · exact .refl link
  · exact quiet_call _ rfl rfl fun _ is_held => is_held

theorem quiet_cancelRetry (link : Link) : link.Quiet link.cancelRetry := by
  unfold cancelRetry
  split
  · exact .refl link
  · exact quiet_call _ rfl rfl fun _ is_held => is_held

theorem quiet_unwatch (link : Link) (socket : Nat) : link.Quiet (link.unwatch socket).state := by
  have made : link.Quiet (link.call (.unwatch socket)) :=
    quiet_call _ rfl rfl fun _ is_held => is_held
  unfold unwatch
  split
  · exact made
  · split <;> exact made

theorem quiet_closeSocket (link : Link) (socket : Nat) :
    link.Quiet (link.closeSocket socket).state := by
  have made : link.Quiet (link.call (.close socket)) :=
    quiet_call _ rfl rfl fun _ is_held => is_held
  unfold closeSocket
  split
  · exact made
  · split <;> exact made

theorem quiet_teardown (link : Link) : link.Quiet link.teardown.state := by
  unfold teardown
  split
  · exact quiet_of_calls rfl fun _ is_held => is_held
  · rename_i socket held
    apply Quiet.andThen
    · exact (quiet_unwatch link socket).andThen fun link _ => quiet_closeSocket link socket
    · intro link _
      refine ⟨rfl, Nat.le_refl _, ?_⟩
      intro other is_held
      cases is_held

theorem quiet_dropLink (link : Link) : link.Quiet link.dropLink.state :=
  (quiet_teardown link).andThen fun link _ => quiet_scheduleReconnect link

theorem quiet_dropWith (link : Link) (text : String) : link.Quiet (link.dropWith text).state :=
  Quiet.andThen (.refl link) fun link _ => quiet_dropLink link

theorem quiet_close (link : Link) : link.Quiet link.close.state := by
  have closing : link.Quiet { link with closed := true } :=
    quiet_of_calls rfl fun _ is_held => is_held
  exact (closing.trans (quiet_cancelRetry _)).trans (quiet_teardown _)

/-! ## What a new socket is -/

/-- What asking for a socket comes to: nothing is sent, and the socket obtained is a new one. -/
structure Gains (link : Link) (result : Except SystemFault Nat) (after : Link) : Prop where
  quiet : link.Quiet after
  is_new : ∀ socket, result = .ok socket → Call.socketCount link.calls ≤ socket

theorem Gains.trans {middle after : Link} {result : Except SystemFault Nat}
    (quiet : link.Quiet middle) (gains : middle.Gains result after) : link.Gains result after := by
  refine ⟨quiet.trans gains.quiet, ?_⟩
  intro socket is_result
  exact Nat.le_trans quiet.sockets (gains.is_new socket is_result)

theorem Gains.of_error {after : Link} (quiet : link.Quiet after) (fault : SystemFault) :
    link.Gains (.error fault) after := by
  refine ⟨quiet, ?_⟩
  intro socket impossible
  cases impossible

theorem quiet_openSocket (link : Link) : link.Quiet link.openSocket.2 :=
  quiet_call _ rfl rfl fun _ is_held => is_held

theorem gains_openSocket (link : Link) : link.Gains (.ok link.openSocket.1) link.openSocket.2 := by
  refine ⟨quiet_openSocket link, ?_⟩
  intro socket is_result
  cases is_result
  exact Nat.le_refl _

theorem gains_tryAddresses (link : Link) (last : Option SystemFault)
    (addresses : List (Option SystemFault)) :
    link.Gains (link.tryAddresses last addresses).1 (link.tryAddresses last addresses).2 := by
  induction addresses generalizing link last with
  | nil => exact .of_error (.refl link) _
  | cons address addresses ih =>
      cases address with
      | none => exact gains_openSocket link
      | some fault =>
          have opened := quiet_openSocket link
          have closed : link.openSocket.2.Quiet (link.openSocket.2.call (.close link.openSocket.1)) :=
            quiet_call _ rfl rfl fun _ is_held => is_held
          simp only [tryAddresses]
          split
          · split
            · exact .of_error (opened.trans closed) _
            · exact .trans (opened.trans closed) (ih _ _)
          · exact .of_error opened _

theorem gains_askSocket (link : Link) (attempt : Attempt) :
    link.Gains (link.askSocket attempt).1 (link.askSocket attempt).2 := by
  unfold askSocket
  split
  · have looked : link.Quiet (link.call (.lookUp link.options.host link.options.port)) :=
      quiet_call _ rfl rfl fun _ is_held => is_held
    cases attempt with
    | fails fault => exact .of_error looked fault
    | finds addresses => exact .trans looked (gains_tryAddresses _ _ _)
  · have connected : link.Quiet
        (link.call (.connect link.options.host link.options.port LinkOptions.connectLimit)) :=
      quiet_call _ rfl rfl fun _ is_held => is_held
    cases attempt with
    | fails fault => exact .of_error connected fault
    | finds addresses =>
        refine .trans connected ⟨?_, (gains_openSocket _).is_new⟩
        exact (quiet_openSocket _).trans (quiet_call _ rfl rfl fun _ is_held => is_held)

theorem quiet_afterFailure (link : Link) (fault : SystemFault) :
    link.Quiet (link.afterFailure fault).state := by
  unfold afterFailure
  split
  · have at_rest : link.Quiet { link with phase := .disconnected } :=
      quiet_of_calls rfl fun _ is_held => is_held
    exact at_rest.trans (quiet_scheduleReconnect _)
  · exact .refl link

theorem quiet_reconnect (link : Link) (attempt : Attempt) :
    link.Quiet (link.reconnect attempt).state := by
  simp only [reconnect]
  split
  · exact quiet_of_calls rfl fun _ is_held => is_held
  · have asking : link.Quiet { link with retry := none, phase := .connecting } :=
      quiet_of_calls rfl fun _ is_held => is_held
    have gains := Gains.trans asking (gains_askSocket _ attempt)
    split
    · rename_i socket after asked
      rw [asked] at gains
      -- The socket that is held now has just been obtained.
      have watched : after.Quiet (after.call (.watch socket)) :=
        quiet_call _ rfl rfl fun _ is_held => is_held
      have quiet := gains.quiet.trans watched
      refine ⟨quiet.sends, quiet.sockets, ?_⟩
      intro other is_held
      cases is_held
      exact Or.inr (gains.is_new socket rfl)
    · rename_i fault after asked
      rw [asked] at gains
      exact gains.quiet.trans (quiet_afterFailure after fault)

theorem quiet_onReadable (link : Link) (reading : Reading) :
    link.Quiet (link.onReadable reading).state := by
  unfold onReadable
  split
  · exact .refl link
  · cases reading with
    | bytes bytes =>
        simp only
        split
        · exact quiet_dropWith link _
        · exact .refl link
    | fails fault =>
        simp only
        split
        · exact .refl link
        · split
          · exact quiet_dropWith link _
          · exact .refl link

/-- Whatever happens to a link, it sends nothing unless it is given a text. -/
theorem quiet_step (link : Link) {event : LinkEvent} (no_text : ∀ text, event ≠ .write text) :
    link.Quiet (link.step event).state := by
  cases event with
  | write text => exact absurd rfl (no_text text)
  | fire attempt =>
      rw [step, fire]
      split
      · exact .refl link
      · rename_i timer delay others live
        have expired : link.Quiet (link.call (.expire timer)) :=
          quiet_call _ rfl rfl fun _ is_held => is_held
        exact expired.trans (quiet_reconnect _ attempt)
  | fireLate attempt =>
      rw [step]
      split
      · exact quiet_reconnect link attempt
      · exact .refl link
  | readable reading =>
      rw [step, readable]
      split
      · exact .refl link
      · exact quiet_onReadable link reading
  | readableLate reading => exact quiet_onReadable link reading
  | close => exact quiet_close link

/-! ## Given texts -/

/-- A text that a link was given: the socket that the link held then, and its answer. -/
structure Writing where
  text : String
  held : Option Nat
  answer : Except SinkFault Bool

/-- The texts that a link is given in a run. -/
def writings (link : Link) : List LinkEvent → List Writing
  | [] => []
  | .write text :: events =>
      ⟨text, link.socket, (link.write text).result⟩ ::
        (link.step (.write text)).state.writings events
  | event :: events => (link.step event).state.writings events

/-- What a link with some options has sent for the texts that it was given, whose answers it knows. -/
def sendings (options : LinkOptions) (writings : List Writing) : List Call.Sending :=
  writings.filterMap fun writing => match writing.held, writing.answer with
    | some socket, .ok accepted => some (socket, options.frame writing.text, accepted)
    | _, _ => none

theorem sendings_append (options : LinkOptions) (writings later : List Writing) :
    sendings options (writings ++ later) = sendings options writings ++ sendings options later :=
  List.filterMap_append

theorem writings_of_quiet {event : LinkEvent} (no_text : ∀ text, event ≠ .write text)
    (events : List LinkEvent) :
    link.writings (event :: events) = (link.step event).state.writings events := by
  cases event with
  | write text => exact absurd rfl (no_text text)
  | _ => rfl

theorem Quiet.untorn {before after : Link} (quiet : before.Quiet after)
    (untorn : Call.Untorn before.calls before.socket) : Call.Untorn after.calls after.socket :=
  untorn.of_same_sends quiet.sends quiet.sockets quiet.held

/-- A failed sending is the last thing but the loss of the socket. -/
theorem write_of_fault (tame : link.trouble.Tame) {socket : Nat} (held : link.socket = some socket)
    {fault : SystemFault} (met : link.trouble.send link.calls.length = some fault) (text : String) :
    ∃ after notes, link.write text = ⟨after, .ok false, notes, []⟩ ∧
      (link.call (.send socket (link.options.frame text) false)).Quiet after ∧
      after.socket = none := by
  have isSystem := tame.send _ _ met
  have tame_after : (link.call (.send socket (link.options.frame text) false)).trouble.Tame := tame
  refine ⟨(link.call (.send socket (link.options.frame text) false)).released.scheduleReconnect,
    [⟨.warning, .sink, "Failed to send log data to " ++ link.options.endpoint ++ " via " ++
      link.options.transport ++ ": " ++ fault.message⟩], ?_, ?_, by simp⟩
  · simp only [write, held, met, isSystem, if_true, dropWith_eq tame_after]
    rfl
  · have quiet := quiet_dropLink (link.call (.send socket (link.options.frame text) false))
    rw [dropLink_eq_done tame_after] at quiet
    exact quiet

/-- What a text comes to that is given to a link: an answer, which is no while no socket is held, and
a sending for it if one is. -/
theorem write_sends (sound : link.Sound) (untorn : Call.Untorn link.calls link.socket)
    (text : String) :
    ∃ accepted, (link.write text).result = .ok accepted ∧
      (link.socket = none → accepted = false) ∧
      Call.sends (link.write text).state.calls =
        Call.sends link.calls ++ sendings link.options [⟨text, link.socket, .ok accepted⟩] ∧
      Call.Untorn (link.write text).state.calls (link.write text).state.socket := by
  cases held : link.socket with
  | none =>
      have refused : link.write text = .done link false := by rw [write, held]
      rw [refused]
      exact ⟨false, rfl, fun _ => rfl, (List.append_nil _).symm, untorn⟩
  | some socket =>
      have below := sound.books.accounts.held_lt socket held
      rw [held] at untorn
      have sent := untorn.concat_send below (link.options.frame text)
      cases met : link.trouble.send link.calls.length with
      | none =>
          have accepts : link.write text =
              .done (link.call (.send socket (link.options.frame text) true)) true := by
            simp only [write, held, met]
          rw [accepts]
          refine ⟨true, rfl, by simp, Call.sends_append .., ?_⟩
          have holds_on := sent true
          rw [if_pos rfl, ← held] at holds_on
          exact holds_on
      | some fault =>
          rcases write_of_fault sound.tame held met text with ⟨after, notes, refuses, quiet, free⟩
          rw [refuses]
          refine ⟨false, rfl, fun _ => rfl, ?_, ?_⟩
          · rw [quiet.sends]
            exact Call.sends_append ..
          · -- The torn socket has been given up.
            refine (sent false).of_same_sends quiet.sends quiet.sockets ?_
            intro other is_held
            rw [free] at is_held
            cases is_held

/-! ## Whole runs -/

/-- What a run has sent is what the texts call for that the link was given. -/
theorem run_sends (sound : link.Sound) (untorn : Call.Untorn link.calls link.socket)
    {events : List LinkEvent} (tame : ∀ event ∈ events, event.Tame) :
    Call.sends (link.run events).state.calls =
        Call.sends link.calls ++ sendings link.options (link.writings events) ∧
      Call.Untorn (link.run events).state.calls (link.run events).state.socket ∧
      ∀ writing ∈ link.writings events, ∃ accepted, writing.answer = .ok accepted ∧
        (writing.held = none → accepted = false) := by
  induction events generalizing link with
  | nil => exact ⟨(List.append_nil _).symm, untorn, by simp [writings]⟩
  | cons event events ih =>
      rcases step_sound sound (tame event (by simp)) with ⟨ends_well, sound_after, -⟩
      have goes_on : (link.run (event :: events)).state =
          ((link.step event).state.run events).state := by
        rw [run, SinkStep.andThen_of_ok ends_well]
      have tame_later : ∀ other ∈ events, other.Tame := fun other other_mem =>
        tame other (List.mem_cons_of_mem _ other_mem)
      rw [goes_on]
      by_cases gives : ∃ text, event = .write text
      · rcases gives with ⟨text, rfl⟩
        rcases write_sends sound untorn text with ⟨accepted, answers, refused, sent, untorn_after⟩
        have written : (link.step (.write text)).state = (link.write text).state := by
          rw [step, SinkStep.andThen_of_ok answers]
          rfl
        rw [written] at sound_after ⊢
        rcases ih sound_after untorn_after tame_later with ⟨later, untorn_later, answered⟩
        have in_order := sendings_append link.options [⟨text, link.socket, .ok accepted⟩]
          ((link.write text).state.writings events)
        rw [List.singleton_append] at in_order
        rw [later, sent, options_write, List.append_assoc, ← in_order, writings, written, answers]
        exact ⟨rfl, untorn_later, List.forall_mem_cons.mpr ⟨⟨accepted, rfl, refused⟩, answered⟩⟩
      · have no_text : ∀ text, event ≠ .write text := by
          intro text is_write
          exact gives ⟨text, is_write⟩
        have quiet := quiet_step link no_text
        have later := ih sound_after (quiet.untorn untorn) tame_later
        rw [quiet.sends, options_step] at later
        rw [writings_of_quiet no_text]
        exact later

/-- The sendings through one socket are those for the texts given while it was held. -/
theorem through_sendings {options : LinkOptions} {calls : List Call} {writings : List Writing}
    (all : Call.sends calls = sendings options writings)
    (answered : ∀ writing ∈ writings, ∃ accepted, writing.answer = .ok accepted) (socket : Nat) :
    (Call.sendsOf calls socket).map (fun sending => (sending.1, Except.ok sending.2)) =
      (writings.filter (·.held = some socket)).map
        fun writing => (options.frame writing.text, writing.answer) := by
  rw [Call.sendsOf_eq, all]
  clear all
  induction writings with
  | nil => rfl
  | cons writing writings ih =>
      have answered_later := fun other other_mem =>
        answered other (List.mem_cons_of_mem _ other_mem)
      rcases answered writing (by simp) with ⟨accepted, answer⟩
      have first := sendings_append options [writing] writings
      rw [List.singleton_append] at first
      rw [first, List.filterMap_append, List.map_append, ih answered_later]
      cases held : writing.held with
      | none => simp [sendings, held]
      | some other =>
          by_cases same : other = socket
          · simp [sendings, held, answer, same]
          · simp [sendings, held, answer, same]

/-- What a link has sent through its sockets, and what it was given. -/
structure Relays (options : LinkOptions) (calls : List Call) (writings : List Writing) : Prop where
  /-- Every text is answered. -/
  answered : ∀ writing ∈ writings, ∃ accepted, writing.answer = .ok accepted
  /-- A text given while no socket was held is refused. -/
  refused : ∀ writing ∈ writings, writing.held = none → writing.answer = .ok false
  /-- There is one sending for each text given while a socket was held, in the order of the texts, and
  no other. -/
  all : Call.sends calls = sendings options writings
  /-- Through a socket go the texts given while it was held, and one is sent successfully exactly when
  it is accepted. -/
  through : ∀ socket,
    (Call.sendsOf calls socket).map (fun sending => (sending.1, Except.ok sending.2)) =
      (writings.filter (·.held = some socket)).map
        fun writing => (options.frame writing.text, writing.answer)
  /-- Nothing follows a failed sending through the same socket. -/
  untorn : ∀ socket, ∀ sending ∈ (Call.sendsOf calls socket).dropLast, sending.2 = true

/-- A started link sends each text once or never through every run of writes, timers, readings and
closings, on time or late, whose calls fail only in ways that a link deals with: once, and at the
time, through the socket that it holds then, and never if it holds none. -/
theorem run_relays (options : LinkOptions) {trouble : LinkTrouble} (tame : trouble.Tame)
    {events : List LinkEvent} (tame_events : ∀ event ∈ events, event.Tame) :
    Relays options ((idle options trouble).start.run events).state.calls
      ((idle options trouble).start.writings events) := by
  have sound := idle_start_sound options tame
  have untorn : Call.Untorn (idle options trouble).start.calls (idle options trouble).start.socket :=
    Call.Untorn.nil.of_same_sends rfl (Nat.zero_le _) (by simp [start, idle])
  have same_options : (idle options trouble).start.options = options := by simp [start, idle]
  rcases run_sends sound untorn tame_events with ⟨sent, untorn_after, answered⟩
  rw [same_options] at sent
  have all : Call.sends ((idle options trouble).start.run events).state.calls =
      sendings options ((idle options trouble).start.writings events) := sent
  have answers : ∀ writing ∈ (idle options trouble).start.writings events,
      ∃ accepted, writing.answer = .ok accepted := by
    intro writing given
    rcases answered writing given with ⟨accepted, answer, -⟩
    exact ⟨accepted, answer⟩
  refine ⟨answers, ?_, all, through_sendings all answers, untorn_after.earlier⟩
  intro writing given free
  rcases answered writing given with ⟨accepted, answer, refused⟩
  rw [answer, refused free]

/-- Two texts while a stream is held, the second of which tears it, one while none is held, and one
through the next stream. -/
def tornEvents : List LinkEvent :=
  [.fire (.finds [none]), .write "first", .write "second", .write "third", .fire (.finds [none]),
    .write "fourth"]

/-- A peer that goes away after its first text. -/
def leavingPeer : LinkTrouble :=
  ⟨fun made => if made = 7 then some (.numbered 32 "Broken pipe") else none, fun _ => none,
    fun _ => none⟩

example : ((idle ⟨"log.example", 514, false, false, false, ⟨0⟩⟩ leavingPeer).start.writings
    tornEvents).map (fun writing => (writing.text, writing.held, writing.answer.toOption)) =
      [("first", some 0, some true), ("second", some 0, some false), ("third", none, some false),
        ("fourth", some 1, some true)] := by
  decide

theorem run_relays_leavingPeer :
    leavingPeer.Tame ∧ (∀ event ∈ tornEvents, event.Tame) ∧
      Relays ⟨"log.example", 514, false, false, false, ⟨0⟩⟩
        ((idle ⟨"log.example", 514, false, false, false, ⟨0⟩⟩ leavingPeer).start.run
          tornEvents).state.calls
        ((idle ⟨"log.example", 514, false, false, false, ⟨0⟩⟩ leavingPeer).start.writings
          tornEvents) := by
  have tame : leavingPeer.Tame := by
    refine ⟨?_, ?_, ?_⟩
    · intro made fault fails
      simp only [leavingPeer] at fails
      split at fails
      · cases fails
        rfl
      · cases fails
    · rintro made fault ⟨⟩
    · rintro made fault ⟨⟩
  have tame_events : ∀ event ∈ tornEvents, event.Tame := by
    intro event event_mem
    simp only [tornEvents, List.mem_cons, List.not_mem_nil, or_false] at event_mem
    rcases event_mem with rfl | rfl | rfl | rfl | rfl | rfl <;>
      simp [LinkEvent.Tame, Attempt.Tame]
  exact ⟨tame, tame_events, run_relays _ tame tame_events⟩

end Link

end LogRelay
