import LogRelay.Sink.Call
import LogRelay.Sink.Step
import LogRelay.Text.Utf8

/-!
# The network sink

A link to a remote host takes texts while it holds a socket and refuses them otherwise. Nothing is
kept for later. A failed sending, a failed reading and the end of the stream from the other side drop
the link, and one timer is armed after which a new socket is asked for, again and again until there is
one. What the other side sends is thrown away.

Over a stream each text ends in a trailer, a line end or a zero byte. A datagram is the text as it is.
-/

namespace LogRelay

/-- Where a link leads, and how. -/
structure LinkOptions where
  host : String
  port : Int
  /-- Send datagrams rather than a stream. -/
  udp : Bool
  /-- End texts in a zero byte rather than in a line end. -/
  nullTrailer : Bool
  /-- Leave a text that ends in the trailer as it is. -/
  keepTrailer : Bool
  /-- The seconds from one attempt to the next. -/
  retryDelay : Double
  deriving DecidableEq

namespace LinkOptions

/-- The seconds within which a stream connection has to be made. -/
def connectLimit : Double := Double.ofRatio false 5 1

/-- The name of the way to send. -/
def transport (options : LinkOptions) : String :=
  if options.udp then "udp" else "tcp"

/-- The byte that ends a text in a stream. -/
def trailer (options : LinkOptions) : UInt8 :=
  if options.nullTrailer then 0 else 10

/-- The bytes that are sent for a text. -/
def frame (options : LinkOptions) (text : String) : List UInt8 :=
  let bytes := Utf8.encode text
  if options.udp then bytes
  else if options.keepTrailer && bytes.getLast? == some options.trailer then bytes
  else bytes ++ [options.trailer]

/-- The host and port as messages name them. -/
def endpoint (options : LinkOptions) : String :=
  options.host ++ ":" ++ toString options.port

end LinkOptions

/-- How far a link has come. -/
inductive Phase where
  | disconnected
  | connecting
  | connected
  deriving DecidableEq, Repr

namespace Phase

/-- The name of a phase. -/
def name : Phase → String
  | disconnected => "disconnected"
  | connecting => "connecting"
  | connected => "connected"

end Phase

/-- The failures that calls on sockets meet, by how many calls came before. -/
structure LinkTrouble where
  send : Nat → Option SystemFault
  close : Nat → Option SystemFault
  unwatch : Nat → Option SystemFault

namespace LinkTrouble

/-- No failures at all. -/
def none : LinkTrouble := ⟨fun _ => Option.none, fun _ => Option.none, fun _ => Option.none⟩

end LinkTrouble

/-- A link to a remote host. -/
structure Link where
  options : LinkOptions
  phase : Phase
  /-- The socket that the link holds. -/
  socket : Option Nat
  /-- The timer after which the link asks for a socket. -/
  retry : Option Nat
  /-- The link has been closed for good. -/
  closed : Bool
  /-- All calls made so far. -/
  calls : List Call
  trouble : LinkTrouble

/-- What an attempt to get a socket meets. -/
inductive Attempt where
  /-- The connection or the search for addresses fails. -/
  | fails (fault : SystemFault)
  /-- The connection is made, or addresses are found: for each of them, the failure that it meets, if
  any. -/
  | finds (addresses : List (Option SystemFault))

/-- What reading from a socket gives. -/
inductive Reading where
  | bytes (bytes : List UInt8)
  | fails (fault : SystemFault)

namespace Link

/-- A link that has not been started. -/
def idle (options : LinkOptions) (trouble : LinkTrouble) : Link :=
  ⟨options, .disconnected, none, none, false, [], trouble⟩

/-- Whether the link holds a socket. -/
def isConnected (link : Link) : Bool := link.socket.isSome

/-- Whether an attempt to get a socket is to come. -/
def isRetryPending (link : Link) : Bool := link.retry.isSome

/-- Makes a call. -/
def call (link : Link) (made : Call) : Link :=
  { link with calls := link.calls ++ [made] }

/-- Arms the timer, unless one is armed or the link is closed. -/
def scheduleReconnect (link : Link) : Link :=
  if link.closed || link.retry.isSome then link
  else
    let timer := Call.timerCount link.calls
    { link.call (.arm timer link.options.retryDelay) with retry := some timer }

/-- Begins to look for a socket, after one delay. -/
def start (link : Link) : Link := link.scheduleReconnect

/-- Has the socket watched no longer. Failures that only say that it is not watched are left out of
account. -/
def unwatch (link : Link) (socket : Nat) : SinkStep Link Unit :=
  let after := link.call (.unwatch socket)
  match link.trouble.unwatch link.calls.length with
  | none => .done after ()
  | some fault =>
      if fault.isSystem || fault.kind == .value || fault.kind == .encoding then .done after ()
      else .failed after (.escaped fault)

/-- Closes the socket. Failures of the operating system are left out of account. -/
def closeSocket (link : Link) (socket : Nat) : SinkStep Link Unit :=
  let after := link.call (.close socket)
  match link.trouble.close link.calls.length with
  | none => .done after ()
  | some fault => if fault.isSystem then .done after () else .failed after (.escaped fault)

/-- Gives the socket up. -/
def teardown (link : Link) : SinkStep Link Unit :=
  match link.socket with
  | none => .done { link with phase := .disconnected } ()
  | some socket =>
      ((link.unwatch socket).andThen fun link _ => link.closeSocket socket).andThen fun link _ =>
        .done { link with socket := none, phase := .disconnected } ()

/-- Gives the socket up and looks for another. -/
def dropLink (link : Link) : SinkStep Link Unit :=
  link.teardown.andThen fun link _ => .done link.scheduleReconnect ()

/-- Takes the timer back. -/
def cancelRetry (link : Link) : Link :=
  match link.retry with
  | none => link
  | some timer => { link.call (.cancel timer) with retry := none }

/-- Closes the link for good. -/
def close (link : Link) : SinkStep Link Unit :=
  ({ link with closed := true } : Link).cancelRetry.teardown

/-- Notes something in the journal and drops the link. -/
def dropWith (link : Link) (text : String) : SinkStep Link Unit :=
  (SinkStep.noted link ⟨.warning, .sink, text⟩ ()).andThen fun link _ => link.dropLink

/-- Takes a text. -/
def write (link : Link) (text : String) : SinkStep Link Bool :=
  match link.socket with
  | none => .done link false
  | some socket =>
      let bytes := link.options.frame text
      match link.trouble.send link.calls.length with
      | none => .done (link.call (.send socket bytes true)) true
      | some fault =>
          let after := link.call (.send socket bytes false)
          if fault.isSystem then
            (after.dropWith ("Failed to send log data to " ++ link.options.endpoint ++ " via " ++
              link.options.transport ++ ": " ++ fault.message)).andThen fun link _ => .done link false
          else .failed after (.escaped fault)

/-- Makes a new socket. -/
def openSocket (link : Link) : Nat × Link :=
  let socket := Call.socketCount link.calls
  (socket, link.call (.opened socket))

/-- Tries addresses for datagrams until one can be used. A socket that cannot is closed, and the last
failure counts if none can. -/
def tryAddresses (link : Link) (last : Option SystemFault) :
    List (Option SystemFault) → Except SystemFault Nat × Link
  | [] =>
      (.error (last.getD (.named .system ("no address found for " ++ link.options.host))), link)
  | none :: _ =>
      let (socket, link) := link.openSocket
      (.ok socket, link)
  | some fault :: addresses =>
      let (socket, link) := link.openSocket
      if fault.isSystem then
        let after := link.call (.close socket)
        match link.trouble.close link.calls.length with
        | some closing => (.error closing, after)
        | none => tryAddresses after (some fault) addresses
      else (.error fault, link)

/-- Asks for a socket. -/
def askSocket (link : Link) (attempt : Attempt) : Except SystemFault Nat × Link :=
  if link.options.udp then
    let link := link.call (.lookUp link.options.host link.options.port)
    match attempt with
    | .fails fault => (.error fault, link)
    | .finds addresses => link.tryAddresses none addresses
  else
    let link := link.call
      (.connect link.options.host link.options.port LinkOptions.connectLimit)
    match attempt with
    | .fails fault => (.error fault, link)
    | .finds _ =>
        let (socket, link) := link.openSocket
        (.ok socket, link.call (.waitFreely socket))

/-- What a failed attempt to get a socket comes to: another one later, if the operating system failed
or the host has no valid name. -/
def afterFailure (link : Link) (fault : SystemFault) : SinkStep Link Unit :=
  if fault.isSystem || fault.kind == .encoding then
    .noted ({ link with phase := .disconnected } : Link).scheduleReconnect ⟨.warning, .sink,
      "Failed to connect to " ++ link.options.endpoint ++ " via " ++ link.options.transport ++
        ": " ++ fault.message⟩ ()
  else .failed link (.escaped fault)

/-- Holds a new socket. -/
def hold (link : Link) (socket : Nat) : SinkStep Link Unit :=
  ⟨{ link.call (.watch socket) with socket := some socket, phase := .connected }, .ok (),
    [⟨.info, .sink, "Connected to " ++ link.options.endpoint ++ " via " ++ link.options.transport⟩],
    [.connects]⟩

/-- The timer has run out: asks for a socket, unless there is one or the link is closed. -/
def reconnect (link : Link) (attempt : Attempt) : SinkStep Link Unit :=
  let link := { link with retry := none }
  if link.closed || link.socket.isSome then .done link ()
  else
    match ({ link with phase := .connecting } : Link).askSocket attempt with
    | (.ok socket, link) => link.hold socket
    | (.error fault, link) => link.afterFailure fault

/-- Lets the oldest live timer run out, if there is one. -/
def fire (link : Link) (attempt : Attempt) : Option (SinkStep Link Unit) :=
  match Call.liveTimers link.calls with
  | [] => none
  | (timer, _) :: _ => some ((link.call (.expire timer)).reconnect attempt)

/-- The socket can be read. What is read is thrown away, and the end of a stream or a failure drops
the link. -/
def onReadable (link : Link) (reading : Reading) : SinkStep Link Unit :=
  if link.socket.isNone then .done link ()
  else match reading with
    | .bytes bytes =>
        if bytes.isEmpty && !link.options.udp then
          link.dropWith ("Connection to " ++ link.options.endpoint ++ " closed by peer")
        else .done link ()
    | .fails fault =>
        if fault.isTransient then .done link ()
        else if fault.isSystem then
          link.dropWith ("Connection to " ++ link.options.endpoint ++ " via " ++
            link.options.transport ++ " lost: " ++ fault.message)
        else .failed link (.escaped fault)

/-- Lets the watched socket become readable, if one is watched. -/
def readable (link : Link) (reading : Reading) : Option (SinkStep Link Unit) :=
  if (Call.watched link.calls).isEmpty then none else some (link.onReadable reading)

/-- The link as the delivery sees it. -/
def machine : SinkMachine Link := ⟨isConnected, write⟩

end Link

end LogRelay
