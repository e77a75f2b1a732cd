import ModuleSystem.Proofs.Readback
import ModuleSystem.Proofs.Untouched

/-! # Modules of remote addresses

The source of a remote module is the text of a response of success, which has been given to a request for
just its address while the module was loaded: an attempt comes to what the reply to its request does. Only
settings that ask for a negative number of retries let a source come from nowhere: then no request is sent at
all. -/

namespace ModuleSystem

open ModuleSystem.Action (Flow Keeps Ensures UpholdsAt)

/-- How a computation ends that raises an error. -/
def Outcome.ofFault {α : Type} (fault : Fault) : Outcome Fault α :=
  if fault.isInterruption then .interruption fault else .error fault

theorem HostAction.raise_apply {α : Type} (fault : Fault) (host : Host) :
    HostAction.raise (α := α) fault host = (.ofFault fault, host) := by
  unfold HostAction.raise Outcome.ofFault
  split
  · rfl
  · rfl

namespace Http

/-! ## One attempt -/

/-- The request of every attempt. -/
def requestOf (settings : Settings) (url : String) : Request := ⟨url, settings.headers, settings.timeout⟩

/-- What a reply comes to: the decoded text of a response of success, or an error that names its status and
the address, or the error of the connection. -/
def outcomeOf (url : String) : Option Reply → Outcome Fault String
  | none => .ofFault .noRoute
  | some (.failure fault) => .ofFault fault
  | some (.response response) =>
    if isSuccess response.status then
      match Document.decodeText response.contentType (.bytes response.body) with
      | .ok text => .value text
      | .error problem => .ofFault (.document problem)
    else .ofFault (.badStatus response.status url (preview response.body))

/-- An attempt sends its request, and comes to what the reply does. -/
theorem attempt_eq (settings : Settings) (url : String) (host : Host) :
    attempt settings url host = (outcomeOf url (host.network.reply? url),
      { host with network := host.network.send (requestOf settings url) }) := by
  change (match host.network.reply? url with
    | none => HostAction.raise .noRoute
    | some (.failure fault) => HostAction.raise fault
    | some (.response response) => Response.read url response)
    { host with network := host.network.send (requestOf settings url) } = _
  generalize { host with network := host.network.send (requestOf settings url) } = sent
  cases host.network.reply? url with
  | none => exact HostAction.raise_apply _ _
  | some reply =>
    cases reply with
    | failure fault => exact HostAction.raise_apply _ _
    | response response =>
      simp only [Response.read, outcomeOf]
      split
      · cases Document.decodeText response.contentType (.bytes response.body) with
        | ok text => rfl
        | error problem => exact HostAction.raise_apply _ _
      · exact HostAction.raise_apply _ _

/-- Nothing but a response of success comes to a text. -/
theorem response_of_outcomeOf {url text : String} {reply : Option Reply}
    (value : outcomeOf url reply = .value text) : ∃ response, reply = some (.response response) ∧
      isSuccess response.status = true ∧
      Document.decodeText response.contentType (.bytes response.body) = .ok text := by
  have raised (fault : Fault) : Outcome.ofFault fault ≠ .value text := by
    unfold Outcome.ofFault
    split
    · exact fun same => nomatch same
    · exact fun same => nomatch same
  unfold outcomeOf at value
  split at value
  · exact absurd value (raised _)
  · exact absurd value (raised _)
  · rename_i response
    split at value
    · rename_i success
      split at value
      · rename_i decoded
        cases value
        exact ⟨response, rfl, success, decoded⟩
      · exact absurd value (raised _)
    · exact absurd value (raised _)

/-! ## What a fetch asks for -/

/-- A host later on, where nothing but requests for one address has been sent. -/
def Asked (url : String) (before after : Host) : Prop :=
  ∃ sent : List Request, after.network.requests = sent ++ before.network.requests ∧
    ∀ request ∈ sent, request.url = url

instance (url : String) : Flow (Asked url) where
  refl _ := ⟨[], rfl, by simp⟩
  trans := by
    rintro _ _ _ ⟨early, before, first⟩ ⟨late, after, second⟩
    refine ⟨late ++ early, by rw [after, before, List.append_assoc], fun request member => ?_⟩
    exact (List.mem_append.mp member).elim (second request) (first request)

instance (url : String) : Keeps (fun _ => True) (Asked url) where
  keeps _ _ := trivial

/-- A text is that of a response of success, which has been given to the latest request for an address. -/
structure Served (url : String) (first after : Host) (text : String) : Prop where
  answers : ∃ before request response, Asked url first before ∧ request.url = url ∧
    before.network.reply? url = some (.response response) ∧ isSuccess response.status = true ∧
    Document.decodeText response.contentType (.bytes response.body) = .ok text ∧
    after.network = before.network.send request

/-- An action sends requests for one address only, and has certain values. -/
abbrev Asks {α : Type} (url : String) (first : Host) (V : Host → α → Prop) (action : HostAction α) : Prop :=
  Ensures (fun _ => True) (Asked url) first (fun _ _ => True) (fun _ _ => True) V action

variable {url : String} {first : Host} {α : Type} {V : Host → α → Prop} {settings : Settings}

theorem raise_asks (fault : Fault) : Asks url first V (HostAction.raise fault) := by
  unfold HostAction.raise
  split
  · exact .interrupt fun _ _ _ => trivial
  · exact .fail fun _ _ _ => trivial

theorem ofExcept_asks {ε : Type} {toFault : ε → Fault} {result : Except ε α} :
    Asks url first (fun _ a => result = .ok a) (HostAction.ofExcept toFault result) := by
  cases result with
  | ok a => exact .done fun _ _ _ => rfl
  | error e => exact raise_asks (toFault e)

/-- One attempt sends one request, and has a text only if the reply is a response of success. -/
theorem attempt_asks : Asks url first (Served url first) (attempt settings url) := by
  intro before _ reached
  have ran := attempt_eq settings url before
  refine .of_ran ran ran ⟨[requestOf settings url], rfl, by simp [requestOf]⟩ ?_
  cases came : outcomeOf url (before.network.reply? url) with
  | value text =>
    obtain ⟨response, replied, success, decoded⟩ := response_of_outcomeOf came
    exact ⟨before, requestOf settings url, response, reached, rfl, replied, success, decoded, rfl⟩
  | error fault => trivial
  | interruption fault => trivial

theorem wait_asks (failed : Nat) : Asks url first (fun _ _ => True) (wait settings failed) := by
  unfold wait
  split
  · exact .modify (fun _ _ _ => ⟨[], rfl, by simp⟩) fun _ _ _ => trivial
  · exact raise_asks _

theorem warn_asks (failed : Nat) (fault : Fault) :
    Asks url first (fun _ _ => True) (warn settings url failed fault) :=
  .modify (fun _ _ _ => ⟨[], rfl, by simp⟩) fun _ _ _ => trivial

/-- However often it is repeated, a fetch has no other text than that of a response of success. -/
theorem attempts_asks (left failed : Nat) :
    Asks url first (Served url first) (attempts settings url left failed) := by
  induction left generalizing failed with
  | zero => exact attempt_asks
  | succ left ih =>
    refine .handle attempt_asks fun fault _ tried _ => ?_
    refine .bind (warn_asks failed fault) fun _ _ told _ => ?_
    refine .bind (wait_asks failed) fun _ _ rested _ => ?_
    exact (ih (failed + 1)).later (Flow.trans tried (Flow.trans told rested))

/-- Settings ask for a negative number of retries. -/
def NoAttempt (settings : Datum) : Prop :=
  ∃ read, Settings.ofDatum settings = .ok read ∧ read.retries < 0

/-- A fetch has the text of a response of success, or it is to make no attempt and sends nothing. -/
inductive Fetched (settings : Datum) (url : String) (first after : Host) : Option String → Prop
  | served {text : String} (attempts : ¬ NoAttempt settings) (served : Served url first after text) :
      Fetched settings url first after (some text)
  | nothing (negative : NoAttempt settings) (unasked : after.network = first.network) :
      Fetched settings url first after none

theorem fetch_asks (settings : Datum) (url : String) (first : Host) :
    UpholdsAt id (Asked url) (fun _ _ => True) (fun _ _ => True) (Fetched settings url first)
      (fetch settings url) (fetch settings url) first := by
  refine (ofExcept_asks first trivial (Flow.refl first)).bind fun read after ran _ readable => ?_
  obtain rfl : after = first := by
    rw [readable] at ran
    cases ran
    rfl
  split
  · exact ⟨rfl, Flow.refl after, .nothing ⟨read, readable, ‹_›⟩ rfl⟩
  · rename_i attempts
    refine (attempts_asks _ 0 after trivial (Flow.refl after)).bind fun text last _ _ served => ?_
    refine ⟨rfl, Flow.refl last, .served ?_ served⟩
    rintro ⟨other, same, negative⟩
    rw [readable] at same
    cases same
    exact attempts negative

/-- What a loader of addresses gives: the text that it fetches, or nothing if it makes no attempt. -/
inductive Sourced (settings : Datum) (url : String) (first after : Host) : Datum → Prop
  | served {text : String} (attempts : ¬ NoAttempt settings) (served : Served url first after text) :
      Sourced settings url first after (.text text)
  | nothing (negative : NoAttempt settings) (unasked : after.network = first.network) :
      Sourced settings url first after .null

/-- Only the networks of the hosts matter. -/
theorem Sourced.of_network {settings source : Datum} {url : String} {first other after : Host}
    (same : first.network = other.network) (sourced : Sourced settings url first after source) :
    Sourced settings url other after source := by
  cases sourced with
  | served attempts served =>
    obtain ⟨before, request, response, ⟨sent, requests, all⟩, rest⟩ := served.answers
    rw [same] at requests
    exact .served attempts ⟨before, request, response, ⟨sent, requests, all⟩, rest⟩
  | nothing negative unasked => exact .nothing negative (unasked.trans same)

theorem load_asks (scheme name : String) (settings : Datum) (first : Host) :
    UpholdsAt id (Asked (Loader.addressOf scheme name)) (fun _ _ => True) (fun _ _ => True)
      (Sourced settings (Loader.addressOf scheme name) first) ((Loader.http scheme settings).load name)
      ((Loader.http scheme settings).load name) first := by
  unfold Loader.load
  have noted : UpholdsAt id (Asked (Loader.addressOf scheme name)) (fun _ _ => True) (fun _ _ => True)
      (fun host _ => host.network = first.network)
      (HostAction.note "modreq.http" ("GET " ++ Loader.addressOf scheme name))
      (HostAction.note "modreq.http" ("GET " ++ Loader.addressOf scheme name)) first :=
    ⟨rfl, ⟨[], rfl, by simp⟩, rfl⟩
  refine noted.bind fun _ host _ _ same => ?_
  refine (fetch_asks settings (Loader.addressOf scheme name) host).bind fun text last _ asked fetched => ?_
  cases fetched with
  | served attempts served => exact ⟨rfl, Flow.refl last, .of_network same (.served attempts served)⟩
  | nothing negative unasked =>
    exact ⟨rfl, Flow.refl last, .of_network same (.nothing negative unasked)⟩

/-- A loader that is to make no attempt gives a source all the same, and sends nothing. -/
theorem load_of_noAttempt (scheme name : String) {settings : Datum} (negative : NoAttempt settings)
    (host : Host) : ((Loader.http scheme settings).load name host).1 = .value .null ∧
      ((Loader.http scheme settings).load name host).2.network = host.network := by
  obtain ⟨read, readable, negative⟩ := negative
  let noted := host.write .debug "modreq.http" ("GET " ++ Loader.addressOf scheme name)
  have nothing : fetch settings (Loader.addressOf scheme name) noted = (.value none, noted) := by
    simp only [fetch, readable, HostAction.ofExcept, Action.bind_apply, Action.pure, if_pos negative]
    rfl
  have loads : (Loader.http scheme settings).load name host = (.value .null, noted) := by
    change (fetch settings (Loader.addressOf scheme name) >>= _) noted = _
    rw [Action.bind_apply, nothing]
    rfl
  rw [loads]
  exact ⟨rfl, rfl⟩

end Http

namespace Session

open Identifier (canonicalId)
open Http (Sourced)

variable {s : Session} {settings : Settings} {parent : Option Nat} {raw : Value} {resolved : String}

/-- What a loader gives it leaves on the host of the session. -/
theorem fromLoader_value_host {α : Type} {id : Datum} {action : HostAction α} {a : α} {t : Session}
    (ran : fromLoader id action s = (.value a, t)) : action s.rest.host = (.value a, t.rest.host) := by
  have value : (action s.rest.host).1 = .value a := fromLoader_value (congrArg Prod.fst ran)
  cases did : action s.rest.host with
  | mk outcome host =>
    rw [did] at value
    obtain rfl : outcome = .value a := value
    simp only [fromLoader, Action.bind_apply, onHost, did] at ran
    cases ran
    rfl

/-- A source that is fetched from an address is what its loader gives. -/
theorem fetchSource_sourced {scheme : String} {value source : Datum} {t : Session} {destination : Destination}
    (web : loaderOf s.rest destination.loader = .http scheme value)
    (fetched : fetchSource destination s = (.value source, t)) :
    Sourced value (Loader.addressOf scheme destination.resolved) s.rest.host t.rest.host source := by
  obtain ⟨u, ⟨_, same⟩, asks⟩ := fetchSource_eq destination s
  rw [asks, web] at fetched
  have loads := fromLoader_value_host fetched
  have sourced := ((Http.load_asks scheme destination.resolved value u.rest.host).ended loads).2
  exact Sourced.of_network same sourced

/-- How the request for a remote module goes whose key is absent: its source is fetched in some session,
and is what its address has given there, or the request has no value. -/
structure Remote (settings : Datum) (url : String) (s : Session) (destination : Destination)
    (result : Outcome Raised Value × Session) (u : Session) (number : Nat) : Prop where
  fetches : Fetches s destination number result u
  sourced : ∀ source v, fetchSource destination u = (.value source, v) →
    Sourced settings url u.rest.host v.rest.host source
  fails : (∀ source, (fetchSource destination u).1 ≠ .value source) → Unread s url result

theorem dispatch_remote (follows : Follows settings s.rest) (asMain : Bool)
    {protocol : String} {loader : Nat} (web : protocol = "http" ∨ protocol = "https")
    (found : origin? parent raw s = some (.loaded (some protocol) loader resolved))
    (absent : s.cache.get? (canonicalId (some protocol) resolved) = none) :
    ∃ u number, Remote (.dict settings.http) (canonicalId (some protocol) resolved) s
      (placeOf (some protocol) loader resolved) (dispatch require asMain parent raw s) u number := by
  obtain ⟨number, u, fetches⟩ := dispatch_fetches asMain found absent
  have served : loaderOf u.rest loader = .http protocol (.dict settings.http) := by
    have asked := follows.loader (origin?_offers found)
    have other : protocol ≠ Identifier.fileProtocol := by
      rcases web with rfl | rfl
      · decide
      · decide
    simp only [expected?, loaderFor?, if_neg other, if_pos web] at asked
    rw [fetches.later.loaderOf]
    exact (Option.some.inj asked).symm
  exact ⟨u, number, fetches, fun source v => fetchSource_sourced served, fetches.unread⟩

/-- In a session that is created from settings, whatever has happened in it since, a remote module is
loaded by fetching its source from just the address that is its key: the source is the text of a response
of success to a request that is sent during the load, unless the settings ask for a negative number of
retries; and without a source the module does not become resolved. -/
theorem remote_modules_are_served (settings : Settings) (builtins : Ordered Builtin) (host : Host)
    (s : Session) (later : (created settings builtins host).rest.Later s.rest) (asMain : Bool)
    (parent : Option Nat) (raw : Value) (protocol resolved : String) (loader : Nat)
    (web : protocol = "http" ∨ protocol = "https")
    (found : origin? parent raw s = some (.loaded (some protocol) loader resolved))
    (absent : s.cache.get? (canonicalId (some protocol) resolved) = none) :
    ∃ u number, Remote (.dict settings.http) (canonicalId (some protocol) resolved) s
      (placeOf (some protocol) loader resolved) (dispatch require asMain parent raw s) u number :=
  dispatch_remote ((created_spec settings builtins host).follows.later later) asMain web found absent

end Session

end ModuleSystem
