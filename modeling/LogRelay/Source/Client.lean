import LogRelay.Delivery
import LogRelay.Source.Request

/-!
# The client of the log source

The client connects to the source, asks for the stream and feeds what it reads to the delivery, until
the stream ends or the delivery is finished. Connecting is tried a bounded number of times, with a pause
after every attempt but the last. An empty piece and a failure to read both end the stream. Once there
is a connection, it is closed however the client ends.

The client always waits for one thing. For each of these there is a step that says what happens when it
comes about, and `cancel` says what happens when nobody waits for the client any longer.
-/

namespace LogRelay

/-- How the source is reached and what it is asked for. -/
structure ClientOptions where
  path : String
  lines : Int
  follow : Bool
  /-- How many times connecting is tried. -/
  attempts : Int := 5
  /-- The seconds from one attempt to the next. -/
  pause : Double := Double.one

/-- How a client ends. -/
inductive Ending where
  | returned
  /-- The source could not be reached. -/
  | unavailable
  /-- There is no request for so many lines. -/
  | unfit (fault : Blob.Fault)
  /-- A failure that the client does not deal with. -/
  | escaped (fault : SystemFault)
  | cancelled
  deriving DecidableEq

/-- What a client waits for. -/
inductive ClientPhase where
  /-- For a connection to be made. -/
  | connecting
  /-- For the request to be sent. -/
  | sending
  /-- For a piece of the stream. -/
  | reading
  /-- For the connection to be closed, after which it ends. -/
  | closing (ending : Ending)
  /-- For nothing. -/
  | ended (ending : Ending)
  deriving DecidableEq

/-- A client and the delivery that it feeds. -/
structure Client (State : Type) where
  delivery : Delivery State
  phase : ClientPhase
  /-- How many attempts to connect have ended. -/
  attempts : Nat
  /-- How many pauses have been made between them. -/
  pauses : Nat
  /-- The bytes that have been sent. -/
  sent : List UInt8
  /-- How many times a connection has been closed. -/
  closings : Nat

namespace Client

variable {State : Type}

/-- A client at its beginning, which waits for a connection if it may try to connect at all. -/
def start (options : ClientOptions) (delivery : Delivery State) : Client State :=
  ⟨delivery, if 0 < options.attempts then .connecting else .ended .unavailable, 0, 0, [], 0⟩

/-- Closes the connection. -/
def close (client : Client State) (ending : Ending) : Client State :=
  { client with phase := .closing ending, closings := client.closings + 1 }

/-- Goes on to read, unless the delivery is finished. -/
def proceed (client : Client State) : Client State :=
  if client.delivery.finished then client.close .returned else { client with phase := .reading }

/-- Ends the stream and closes the connection. -/
def finish (rules : Rules State) (client : Client State) : Client State × Journal :=
  let (delivery, journal) := client.delivery.endStream rules
  (({ client with delivery := delivery } : Client State).close .returned, journal)

/-- The entry about an attempt to connect that failed. -/
def failedAttempt (options : ClientOptions) (attempt : Nat) (fault : SystemFault) : Entry :=
  ⟨.warning, .source, "Failed to find log source at " ++ options.path ++ ": " ++ fault.message ++
    " (attempt " ++ toString attempt ++ "/" ++ toString options.attempts ++ ")"⟩

/-- An attempt to connect has ended. With a connection, the request is sent. -/
def onConnect (options : ClientOptions) (client : Client State) (result : Except SystemFault Unit) :
    Client State × Journal :=
  let client := { client with attempts := client.attempts + 1 }
  match result with
  | .ok () =>
      (match Request.encode options.lines options.follow with
        | .ok request => { client with phase := .sending, sent := client.sent ++ request }
        | .error fault => client.close (.unfit fault),
        [⟨.info, .source, "Connected to log source at " ++ options.path⟩])
  | .error fault =>
      if fault.isSystem then
        (if (client.attempts : Int) < options.attempts then
            { client with phase := .connecting, pauses := client.pauses + 1 }
          else { client with phase := .ended .unavailable },
          [failedAttempt options client.attempts fault])
      else ({ client with phase := .ended (.escaped fault) }, [])

/-- The request has been sent, or has failed to be. -/
def onSent (rules : Rules State) (client : Client State) (result : Except SystemFault Unit) :
    Client State × Journal :=
  match result with
  | .ok () => (client.proceed, [])
  | .error fault =>
      if fault.isSystem then
        let (client, journal) := client.finish rules
        (client, ⟨.warning, .source, "Failed to send read request: " ++ fault.message⟩ :: journal)
      else (client.close (.escaped fault), [])

/-- A piece of the stream has arrived, or reading has failed. -/
def onRead (rules : Rules State) (client : Client State)
    (result : Except SystemFault (List UInt8)) : Client State × Journal :=
  match result with
  | .ok [] => client.finish rules
  | .ok chunk =>
      let step := client.delivery.feed rules chunk
      let client := { client with delivery := step.delivery }
      (match step.escaped with
        | some fault => client.close (.escaped fault)
        | none => client.proceed,
        step.journal)
  | .error fault =>
      if fault.isSystem then
        let (client, journal) := client.finish rules
        (client, ⟨.warning, .source, "Read from log source failed: " ++ fault.message⟩ :: journal)
      else (client.close (.escaped fault), [])

/-- The connection has been closed. Failures of the operating system are left out of account, and any
other takes the place of how the client would have ended. -/
def onClosed (client : Client State) (ending : Ending) (result : Except SystemFault Unit) :
    Client State :=
  match result with
  | .ok () => { client with phase := .ended ending }
  | .error fault =>
      { client with phase := .ended (if fault.isSystem then ending else .escaped fault) }

/-- Nobody waits for the client any longer. A connection is closed all the same. -/
def cancel (client : Client State) : Client State :=
  match client.phase with
  | .connecting => { client with phase := .ended .cancelled, attempts := client.attempts + 1 }
  | .sending | .reading => client.close .cancelled
  | .closing _ => { client with phase := .ended .cancelled }
  | .ended _ => client

/-- Finishes the delivery at somebody's request. -/
def stop (client : Client State) : Client State :=
  { client with delivery := client.delivery.stop none }

end Client

end LogRelay
