import ModuleSystem.Fault.Text
import ModuleSystem.Outcome

/-!
# The surroundings of a program

The files, the network and the log that loaders work with. The network is a table of replies: each
request for an address takes the next reply of the address, and the last one stays.
-/

namespace ModuleSystem

/-- A reply to a request: its status, its body, and the value of its `Content-Type` header. -/
structure Response where
  status : Int
  body : List UInt8
  contentType : Option String
  deriving DecidableEq, Repr

/-- What comes back for a request: a response, or an error of the connection. -/
inductive Reply where
  | response (response : Response)
  | failure (fault : Fault)
  deriving Repr

/-- A request that has been sent. -/
structure Request where
  url : String
  headers : List (Datum × Datum)
  timeout : Float
  deriving Repr

/-- The replies that addresses have left, and what has been sent and waited for, the latest first. -/
structure Network where
  routes : Ordered (List Reply)
  requests : List Request
  delays : List Float

/-- The importance of a line of the log. -/
inductive LogLevel where
  | debug
  | warning
  deriving DecidableEq, Repr

/-- A line of the log: its level, the part of the program that wrote it, and its text. -/
structure LogLine where
  level : LogLevel
  source : String
  text : String
  deriving DecidableEq, Repr

/-- Files, network and log, the latest line first. -/
structure Host where
  files : FileTree
  network : Network
  log : List LogLine

/-- The name of a level. -/
def LogLevel.name : LogLevel → String
  | .debug => "DEBUG"
  | .warning => "WARNING"

namespace Network

/-- A network without routes on which nothing has been sent. -/
def empty : Network := ⟨.empty, [], []⟩

/-- The next reply of an address. -/
def reply? (network : Network) (url : String) : Option Reply :=
  (network.routes.get? url).bind List.head?

/-- The replies that are left after the first one has been taken. -/
def afterFirst : List Reply → List Reply
  | _ :: next :: rest => next :: rest
  | replies => replies

/-- Sends a request, which takes the next reply of its address. -/
def send (network : Network) (request : Request) : Network :=
  { network with
    requests := request :: network.requests
    routes :=
      match network.routes.get? request.url with
      | some replies => network.routes.set request.url (afterFirst replies)
      | none => network.routes }

end Network

namespace Host

/-- A host without files and network. -/
def empty : Host := ⟨.empty, .empty, []⟩

/-- Adds a line to the log. -/
def write (host : Host) (level : LogLevel) (source text : String) : Host :=
  { host with log := ⟨level, source, text⟩ :: host.log }

end Host

/-- What loaders do on a host. -/
abbrev HostAction (α : Type) := Action Host Fault α

namespace HostAction

/-- Fails with an error, or is interrupted by it, according to its kind. -/
def raise {α : Type} (fault : Fault) : HostAction α :=
  if fault.isInterruption then Action.interrupt fault else Action.fail fault

/-- Writes a line of the lowest level to the log. -/
def note (source text : String) : HostAction Unit :=
  Action.modify fun host => host.write .debug source text

/-- The value of a computation that may fail. -/
def ofExcept {ε α : Type} (toFault : ε → Fault) : Except ε α → HostAction α
  | .ok a => Action.pure a
  | .error e => raise (toFault e)

end HostAction

end ModuleSystem
