import LogRelay.Number.Double
import LogRelay.Posix.Fault

/-!
# What a link asks of its surroundings

A link to the network arms timers, opens sockets, has them watched, sends through them and closes them.
All of this is kept as one list of calls in the order in which they were made, and what is live at a
moment is a view of that list. Timers and sockets are known by how many there were before them.
-/

namespace LogRelay

/-- A call that a link makes, or the end of a timer. -/
inductive Call where
  /-- A timer is set to run out after some seconds. -/
  | arm (timer : Nat) (delay : Double)
  | cancel (timer : Nat)
  /-- A timer runs out. -/
  | expire (timer : Nat)
  /-- A stream connection to a host is asked for, to be made within some seconds. -/
  | connect (host : String) (port : Int) (limit : Double)
  /-- The addresses of a host for datagrams are asked for. -/
  | lookUp (host : String) (port : Int)
  /-- A socket comes into being. -/
  | opened (socket : Nat)
  /-- A socket is set to wait without limit. -/
  | waitFreely (socket : Nat)
  | watch (socket : Nat)
  | unwatch (socket : Nat)
  /-- Bytes are sent, or an attempt to send them fails. -/
  | send (socket : Nat) (bytes : List UInt8) (succeeded : Bool)
  | close (socket : Nat)
  deriving DecidableEq, Repr

namespace Call

/-- How many timers have been armed. -/
def timerCount (calls : List Call) : Nat :=
  calls.countP fun call => match call with
    | arm _ _ => true
    | _ => false

/-- How many sockets there have been. -/
def socketCount (calls : List Call) : Nat :=
  calls.countP fun call => match call with
    | opened _ => true
    | _ => false

/-- How many times sockets have been closed. -/
def closeCount (calls : List Call) : Nat :=
  calls.countP fun call => match call with
    | close _ => true
    | _ => false

/-- The bytes that have been sent, call by call. -/
def sent (calls : List Call) : List (List UInt8) :=
  calls.filterMap fun call => match call with
    | send _ bytes true => some bytes
    | _ => none

/-- What a call does to the live timers. -/
def onTimers (live : List (Nat × Double)) : Call → List (Nat × Double)
  | arm timer delay => live ++ [(timer, delay)]
  | cancel timer => live.filter (·.1 != timer)
  | expire timer => live.filter (·.1 != timer)
  | _ => live

/-- The timers that are live, the oldest first, each with its delay. -/
def liveTimers (calls : List Call) : List (Nat × Double) :=
  calls.foldl onTimers []

/-- What a call does to the watched sockets. -/
def onWatched (watched : List Nat) : Call → List Nat
  | watch socket => watched ++ [socket]
  | unwatch socket => watched.filter (· != socket)
  | _ => watched

/-- The sockets that are watched. -/
def watched (calls : List Call) : List Nat :=
  calls.foldl onWatched []

/-- What was sent through a socket, in order, and whether each sending succeeded. -/
def sendsOf (calls : List Call) (socket : Nat) : List (List UInt8 × Bool) :=
  calls.filterMap fun call => match call with
    | send other bytes succeeded => if other = socket then some (bytes, succeeded) else none
    | _ => none

/-- How many times a socket has been closed. -/
def closesOf (calls : List Call) (socket : Nat) : Nat :=
  calls.count (.close socket)

end Call

end LogRelay
