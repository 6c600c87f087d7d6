import LogRelay.Source.Client

/-!
# A client against a script

A script says what becomes of everything that a client waits for, in order. What the script leaves out
works: a connection is made, a request sent and a connection closed, and a stream of which nothing more
is said has ended.

At any time somebody may ask for the delivery to stop. What never comes about keeps the client waiting
for ever, unless the delivery is finished: then the client is cancelled.
-/

namespace LogRelay

/-- What becomes of something that a client waits for. -/
structure Turn (Value : Type) where
  /-- Somebody asks for the delivery to stop before that. -/
  stops : Bool
  /-- What comes about, none if nothing ever does. -/
  outcome : Option (Except SystemFault Value)

namespace Turn

/-- Something comes about. -/
def gives {Value : Type} (value : Value) : Turn Value := ⟨false, some (.ok value)⟩

/-- Something fails. -/
def fails {Value : Type} (fault : SystemFault) : Turn Value := ⟨false, some (.error fault)⟩

end Turn

/-- What becomes of everything that a client waits for. -/
structure Script where
  connects : List (Turn Unit) := []
  sending : Turn Unit := .gives ()
  reads : List (Turn (List UInt8)) := []
  closing : Turn Unit := .gives ()

/-- A client against a script: the client, the pieces of the stream that are left, and what the
journal notes. -/
structure Played (State : Type) where
  client : Client State
  unread : List (Turn (List UInt8))
  journal : Journal

/-- Who looks after a client: what the journal notes when somebody asks for the delivery to stop. -/
structure Keeper (State : Type) where
  options : ClientOptions
  rules : Rules State
  onStop : Journal

namespace Keeper

variable {State Value : Type}

/-- What becomes of what a client waits for, and the step that it takes then. -/
def live (keeper : Keeper State) (client : Client State) (turn : Turn Value)
    (step : Client State → Except SystemFault Value → Client State × Journal) :
    Client State × Journal :=
  let client := if turn.stops then client.stop else client
  let noted := if turn.stops then keeper.onStop else []
  match turn.outcome with
  | some result =>
      let (client, journal) := step client result
      (client, noted ++ journal)
  | none => (if client.delivery.finished then client.cancel else client, noted)

/-- Tries to connect for as long as the client waits for a connection. -/
def playConnects (keeper : Keeper State) (client : Client State) :
    List (Turn Unit) → Client State × Journal
  | [] => client.onConnect keeper.options (.ok ())
  | turn :: turns =>
      let (after, journal) := keeper.live client turn (Client.onConnect keeper.options)
      if turn.outcome.isSome && after.phase == .connecting then
        let (last, later) := playConnects keeper after turns
        (last, journal ++ later)
      else (after, journal)

/-- Reads for as long as the client waits for a piece of the stream. -/
def playReads (keeper : Keeper State) (client : Client State) :
    List (Turn (List UInt8)) → Played State
  | [] =>
      let (client, journal) := client.onRead keeper.rules (.ok [])
      ⟨client, [], journal⟩
  | turn :: turns =>
      let (after, journal) := keeper.live client turn (Client.onRead keeper.rules)
      if turn.outcome.isSome && after.phase == .reading then
        let later := playReads keeper after turns
        { later with journal := journal ++ later.journal }
      else ⟨after, turns, journal⟩

/-- Connects, if the client may try to. -/
def connect (keeper : Keeper State) (client : Client State) (script : Script) : Played State :=
  if client.phase = .connecting then
    let (client, journal) := keeper.playConnects client script.connects
    ⟨client, script.reads, journal⟩
  else ⟨client, script.reads, []⟩

/-- Sends the request, if there is a connection. -/
def send (keeper : Keeper State) (played : Played State) (script : Script) : Played State :=
  if played.client.phase = .sending then
    let (client, journal) := keeper.live played.client script.sending (Client.onSent keeper.rules)
    { played with client := client, journal := played.journal ++ journal }
  else played

/-- Reads the stream, if the request has been sent. -/
def read (keeper : Keeper State) (played : Played State) : Played State :=
  if played.client.phase = .reading then
    let later := keeper.playReads played.client played.unread
    { later with journal := played.journal ++ later.journal }
  else played

/-- Closes the connection, if there is one to be closed. -/
def close (keeper : Keeper State) (played : Played State) (script : Script) : Played State :=
  match played.client.phase with
  | .closing ending =>
      let (client, journal) := keeper.live played.client script.closing
        fun client result => (client.onClosed ending result, [])
      { played with client := client, journal := played.journal ++ journal }
  | _ => played

/-- A client against a script, from its beginning to its end. -/
def play (keeper : Keeper State) (delivery : Delivery State) (script : Script) : Played State :=
  let connected := keeper.connect (.start keeper.options delivery) script
  let sent := keeper.send connected script
  keeper.close (keeper.read sent) script

end Keeper

end LogRelay
