import ModuleSystem.Host

/-!
# Fetching text from an address

A text is fetched by a request that is repeated when it fails: the delays between two attempts start
with a base delay and double. A response counts only if its status is one of success. The error of
the last attempt is the error of the fetch.
-/

namespace ModuleSystem.Http

/-- How requests are made: the time that each may take, the number of attempts after the first one,
the delay before the second attempt, and additional headers. -/
structure Settings where
  timeout : Float
  retries : Int
  backoff : Float
  headers : List (Datum × Datum)

/-- The entries of settings that are used where none are given. -/
def defaultEntries : List (Datum × Datum) :=
  [(.text "timeout", .float 5.0), (.text "retries", .int 2), (.text "backoff", .float 0.2),
    (.text "headers", .dict [])]

/-- The value of an entry, or the default. -/
def entryOf (name : String) (entries : List (Datum × Datum)) : Datum :=
  (Datum.field? name entries).getD ((Datum.field? name defaultEntries).getD .null)

/-- Reads settings, which may be missing altogether. -/
def Settings.ofDatum (value : Datum) : Except CoercionError Settings := do
  let entries ← if value.truth then value.toEntries else pure []
  let timeout ← (entryOf "timeout" entries).toFloat
  let retries ← (entryOf "retries" entries).toInteger
  let backoff ← (entryOf "backoff" entries).toFloat
  let headers ← (entryOf "headers" entries).toEntries
  return ⟨timeout, retries, backoff, headers⟩

/-- Whether a status is one of success. -/
def isSuccess (status : Int) : Bool := 200 ≤ status && status < 300

/-- The most characters of a body that an error shows. -/
def previewLength : Nat := 200

/-- The start of a body, for an error. -/
def preview (body : List UInt8) : String :=
  String.ofList ((Text.decodeUtf8 body).take previewLength)

/-- The text of a response of success. -/
def Response.read (url : String) (response : Response) : HostAction String :=
  if isSuccess response.status then
    HostAction.ofExcept .document
      (Document.decodeText response.contentType (.bytes response.body))
  else HostAction.raise (.badStatus response.status url (preview response.body))

/-- One attempt at a fetch. -/
def attempt (settings : Settings) (url : String) : HostAction String := do
  let host ← Action.get
  Action.modify fun host =>
    { host with network := host.network.send ⟨url, settings.headers, settings.timeout⟩ }
  match host.network.reply? url with
  | none => HostAction.raise .noRoute
  | some (.failure fault) => HostAction.raise fault
  | some (.response response) => Response.read url response

/-- The delay after a number of attempts that failed, the first of them not counted. -/
def delay? (settings : Settings) (failed : Nat) : Option Float :=
  (Decimal.floatOfInt? (Decimal.powerOfTwo failed)).map (settings.backoff * ·)

/-- Waits before the next attempt. -/
def wait (settings : Settings) (failed : Nat) : HostAction Unit :=
  match delay? settings failed with
  | some delay => Action.modify fun host =>
      { host with network := { host.network with delays := delay :: host.network.delays } }
  | none => HostAction.raise .delayTooLong

/-- Reports an attempt that failed and will be repeated. -/
def warn (settings : Settings) (url : String) (failed : Nat) (fault : Fault) : HostAction Unit :=
  Action.modify fun host => host.write .warning "modreq.http"
    ("GET " ++ url ++ " failed (" ++ fault.message ++ "), retry " ++ toString (failed + 1) ++ "/" ++
      toString settings.retries)

/-- Attempts a fetch until one attempt succeeds, at most `left` times more after the first one. -/
def attempts (settings : Settings) (url : String) : (left failed : Nat) → HostAction String
  | 0, _ => attempt settings url
  | left + 1, failed =>
    Action.handle (attempt settings url) fun fault => do
      warn settings url failed fault
      wait settings failed
      attempts settings url left (failed + 1)

/-- Fetches the text at an address. A negative number of retries makes no attempt at all and has no
text. -/
def fetch (settings : Datum) (url : String) : HostAction (Option String) := do
  let settings ← HostAction.ofExcept .coercion (Settings.ofDatum settings)
  if settings.retries < 0 then return none
  let text ← attempts settings url settings.retries.toNat 0
  return some text

end ModuleSystem.Http
