import ModuleSystem.Proofs.Binary64
import ModuleSystem.Proofs.Remote

/-! # Repeated requests

A fetch repeats its request as long as what comes back is an error, at most as often as its settings allow.
Every request is the same, and there is one wait between two of them. What the last request comes to is what
the fetch comes to. The delays double, and the thousand and twenty-fifth is not a floating-point number any
more: a fetch that would have to wait for so long ends there instead, with an error of its own. -/

namespace ModuleSystem

/-! ## Replies in their order -/

namespace Network

/-- The reply of an address to a request that comes after a number of others. -/
def replyAfter? (network : Network) (url : String) (count : Nat) : Option Reply :=
  (network.routes.get? url).bind fun replies => replies[min count (replies.length - 1)]?

theorem replyAfter?_zero (network : Network) (url : String) :
    network.replyAfter? url 0 = network.reply? url := by
  unfold replyAfter? reply?
  cases network.routes.get? url with
  | none => rfl
  | some replies => simp [List.head?_eq_getElem?]

theorem getElem?_afterFirst (replies : List Reply) (count : Nat) :
    (afterFirst replies)[min count ((afterFirst replies).length - 1)]? =
      replies[min (count + 1) (replies.length - 1)]? := by
  rcases replies with _ | ⟨first, _ | ⟨next, rest⟩⟩
  · rfl
  · simp [afterFirst]
  · have shift : min (count + 1) (rest.length + 1) = min count rest.length + 1 := by omega
    simp [afterFirst, shift]

/-- A request takes one reply. -/
theorem replyAfter?_send (network : Network) (request : Request) (count : Nat) :
    (network.send request).replyAfter? request.url count = network.replyAfter? request.url (count + 1) := by
  unfold replyAfter? send
  cases known : network.routes.get? request.url with
  | none => simp [known]
  | some replies => simp [Ordered.get?_set_self, getElem?_afterFirst]

end Network

namespace Http

variable {settings : Settings} {url : String} {first host : Host} {n : Nat}

/-! ## One attempt -/

/-- What the request that comes after a number of others comes to. -/
def answer (first : Host) (url : String) (count : Nat) : Outcome Fault String :=
  outcomeOf url (first.network.replyAfter? url count)

/-- A computation ends by an error that a caller may handle. -/
def Fails {α : Type} (outcome : Outcome Fault α) : Prop := ∃ fault, outcome = .error fault

/-- A response of success comes to its body, decoded as its content type says. -/
theorem outcomeOf_of_success {response : ModuleSystem.Response} (success : isSuccess response.status = true)
    (named : Text.hasBadLabel response.contentType = false) :
    outcomeOf url (some (.response response)) =
      .value (Text.decodeBytes response.contentType response.body) := by
  simp only [outcomeOf, success, if_true, Document.decodeText, named, Bool.false_eq_true, if_false]

/-! ## Waits -/

/-- The delays before the attempts that follow on the first ones, the earliest first. -/
def delays (settings : Settings) (count : Nat) : List Float :=
  (List.range count).map fun failed => settings.backoff * Decimal.powerFloat failed

/-- The delay after an attempt is the first one, doubled as often as attempts have failed before. -/
theorem delay?_eq (settings : Settings) (failed : Nat) : delay? settings failed =
    if failed < 1024 then some (settings.backoff * Decimal.powerFloat failed) else none := by
  unfold delay?
  rw [Decimal.floatOfInt?_powerOfTwo]
  split
  · rfl
  · rfl

/-- After some attempts and some waits of a fetch: all requests are the same, the delays double, and the
replies that are left are those that come after as many. -/
structure After (settings : Settings) (url : String) (first : Host) (sent waited : Nat) (host : Host) :
    Prop where
  requests : host.network.requests =
    List.replicate sent (requestOf settings url) ++ first.network.requests
  delays : host.network.delays = (delays settings waited).reverse ++ first.network.delays
  replies : ∀ count, host.network.replyAfter? url count = first.network.replyAfter? url (sent + count)

variable {sent waited failed : Nat}

theorem After.start (settings : Settings) (url : String) (first : Host) :
    After settings url first 0 0 first :=
  ⟨rfl, rfl, fun count => by rw [Nat.zero_add]⟩

theorem After.answer (after : After settings url first sent waited host) :
    outcomeOf url (host.network.reply? url) = Http.answer first url sent := by
  rw [← Network.replyAfter?_zero, after.replies, Nat.add_zero, Http.answer]

/-- One more attempt. -/
theorem After.attempt (after : After settings url first sent waited host) :
    ∃ next, Http.attempt settings url host = (Http.answer first url sent, next) ∧
      After settings url first (sent + 1) waited next := by
  refine ⟨{ host with network := host.network.send (requestOf settings url) }, ?_, ?_, after.delays,
    fun count => ?_⟩
  · rw [attempt_eq, after.answer]
  · change requestOf settings url :: host.network.requests = _
    rw [after.requests, List.replicate_succ, List.cons_append]
  · have taken := host.network.replyAfter?_send (requestOf settings url) count
    refine taken.trans ((after.replies (count + 1)).trans ?_)
    exact congrArg (first.network.replyAfter? url) (by omega)

/-- One more wait, as long as its delay is a number. -/
theorem After.wait (after : After settings url first sent waited host) (short : waited < 1024) :
    ∃ next, Http.wait settings waited host = (.value (), next) ∧
      After settings url first sent (waited + 1) next := by
  unfold Http.wait
  rw [delay?_eq, if_pos short]
  refine ⟨_, rfl, after.requests, ?_, after.replies⟩
  change _ :: host.network.delays = _
  rw [after.delays, Http.delays, Http.delays, List.range_succ, List.map_append, List.reverse_append]
  rfl

theorem After.warn (after : After settings url first sent waited host) (failed : Nat) (fault : Fault) :
    ∃ next, Http.warn settings url failed fault host = (.value (), next) ∧
      After settings url first sent waited next :=
  ⟨_, rfl, after.requests, after.delays, after.replies⟩

theorem wait_of_le (long : 1024 ≤ failed) (host : Host) :
    wait settings failed host = (.error .delayTooLong, host) := by
  unfold wait
  rw [delay?_eq, if_neg (Nat.not_lt.mpr long)]
  exact HostAction.raise_apply _ _

/-! ## The loop -/

/-- An attempt that fails is followed by one wait, and then by the attempts that are left. -/
theorem After.again (after : After settings url first failed failed host)
    (fails : Fails (Http.answer first url failed)) (short : failed < 1024) :
    ∃ next, After settings url first (failed + 1) (failed + 1) next ∧
      ∀ left, attempts settings url (left + 1) failed host =
        attempts settings url left (failed + 1) next := by
  obtain ⟨fault, fails⟩ := fails
  obtain ⟨tried, attempted, after⟩ := after.attempt
  obtain ⟨told, warned, after⟩ := after.warn failed fault
  obtain ⟨next, waited, after⟩ := after.wait short
  refine ⟨next, after, fun left => ?_⟩
  simp only [attempts, Action.handle, attempted, fails, Action.bind_apply, warned, waited]

/-- An attempt that does not fail is the last one. -/
theorem After.settles (after : After settings url first failed failed host)
    (settled : ¬ Fails (Http.answer first url failed)) (left : Nat) :
    ∃ last, After settings url first (failed + 1) failed last ∧
      attempts settings url left failed host = (Http.answer first url failed, last) := by
  obtain ⟨last, attempted, after⟩ := after.attempt
  refine ⟨last, after, ?_⟩
  cases left with
  | zero => exact attempted
  | succ left =>
    simp only [attempts, Action.handle, attempted]
    split
    · rename_i fault host same
      exact absurd ⟨fault, congrArg Prod.fst same⟩ settled
    · rfl

/-- A fetch that has to wait for too long ends instead. -/
theorem After.breaks (after : After settings url first failed failed host)
    (fails : Fails (Http.answer first url failed)) (long : 1024 ≤ failed) (left : Nat) :
    ∃ last, After settings url first (failed + 1) failed last ∧
      attempts settings url (left + 1) failed host = (.error .delayTooLong, last) := by
  obtain ⟨fault, fails⟩ := fails
  obtain ⟨tried, attempted, after⟩ := after.attempt
  obtain ⟨told, warned, after⟩ := after.warn failed fault
  refine ⟨told, after, ?_⟩
  simp only [attempts, Action.handle, attempted, fails, Action.bind_apply, warned,
    wait_of_le long]

/-- How a fetch goes that may repeat its request some times. Either the attempts before the last one have
failed, the last one is the only one that is left or has not failed, and the fetch comes to what it does;
or there are more attempts left than there are delays, and all of those that can be made have failed. -/
inductive Course (settings : Settings) (url : String) (first : Host) (n : Nat) :
    Outcome Fault String × Host → Prop
  | ends {last : Nat} {host : Host} (within : last ≤ n) (short : last ≤ 1024)
      (early : ∀ k < last, Fails (answer first url k))
      (final : last = n ∨ ¬ Fails (answer first url last))
      (after : After settings url first (last + 1) last host) :
      Course settings url first n (answer first url last, host)
  | breaks {host : Host} (more : 1024 < n) (all : ∀ k ≤ 1024, Fails (answer first url k))
      (after : After settings url first 1025 1024 host) :
      Course settings url first n (.error .delayTooLong, host)

/-- The course of a fetch from wherever it has got to without success. -/
theorem After.course (after : After settings url first failed failed host)
    (early : ∀ k < failed, Fails (Http.answer first url k)) (short : failed ≤ 1024) {left : Nat}
    (total : failed + left = n) : Course settings url first n (attempts settings url left failed host) := by
  induction left generalizing failed host with
  | zero =>
    obtain ⟨last, attempted, after⟩ := after.attempt
    have ran : attempts settings url 0 failed host = (Http.answer first url failed, last) := attempted
    rw [ran]
    exact .ends (by omega) short early (.inl total) after
  | succ left ih =>
    by_cases fails : Fails (Http.answer first url failed)
    · have failing : ∀ k < failed + 1, Fails (Http.answer first url k) := by
        intro k less
        rcases Nat.lt_succ_iff_lt_or_eq.mp less with before | rfl
        · exact early k before
        · exact fails
      by_cases goesOn : failed < 1024
      · obtain ⟨next, after, same⟩ := after.again fails goesOn
        rw [same]
        exact ih after failing goesOn (by omega)
      · obtain rfl : failed = 1024 := by omega
        obtain ⟨last, after, same⟩ := after.breaks fails (Nat.le_refl _) left
        rw [same]
        exact .breaks (by omega) (fun k within => failing k (by omega)) after
    · obtain ⟨last, after, same⟩ := after.settles fails (left + 1)
      rw [same]
      exact .ends (by omega) short early (.inr fails) after

theorem Course.of_ends {outcome : Outcome Fault String} {last : Nat}
    (course : Course settings url first n (outcome, host)) (within : last ≤ n) (short : last ≤ 1024)
    (early : ∀ k < last, Fails (answer first url k)) (final : last = n ∨ ¬ Fails (answer first url last)) :
    outcome = answer first url last ∧ After settings url first (last + 1) last host := by
  -- neither of two last attempts comes before the other one
  have unique (other : Nat) (inside : other ≤ n) (all : ∀ k < other, Fails (answer first url k)) :
      ¬ last < other := by
    intro less
    rcases final with rfl | settled
    · omega
    · exact settled (all last less)
  cases course with
  | @ends found _ inside brief before closing after =>
    have notLater := unique found inside before
    have notEarlier : ¬ found < last := by
      intro less
      rcases closing with rfl | settled
      · omega
      · exact settled (early found less)
    obtain rfl : found = last := by omega
    exact ⟨rfl, after⟩
  | breaks more all =>
    rcases final with rfl | settled
    · omega
    · exact absurd (all last short) settled

theorem Course.of_breaks {outcome : Outcome Fault String}
    (course : Course settings url first n (outcome, host)) (more : 1024 < n)
    (all : ∀ k ≤ 1024, Fails (answer first url k)) :
    outcome = .error .delayTooLong ∧ After settings url first 1025 1024 host := by
  cases course with
  | @ends last _ within short early final after =>
    rcases final with rfl | settled
    · omega
    · exact absurd (all last short) settled
  | breaks _ _ after => exact ⟨rfl, after⟩

theorem fetch_course {value : Datum} (readable : Settings.ofDatum value = .ok settings)
    (counted : settings.retries = n) (url : String) (first : Host) : ∃ outcome host,
      fetch value url first = (outcome.map some, host) ∧ Course settings url first n (outcome, host) := by
  have course := (After.start settings url first).course (by simp) (Nat.zero_le _) (Nat.zero_add n)
  refine ⟨_, _, ?_, course⟩
  have positive : ¬ (n : Int) < 0 := Int.not_lt.mpr (Int.natCast_nonneg n)
  unfold fetch
  simp only [readable, HostAction.ofExcept, Action.bind_apply, Action.pure, counted, if_neg positive,
    Int.toNat_natCast]
  generalize attempts settings url n 0 first = result
  obtain ⟨outcome, host⟩ := result
  cases outcome <;> rfl

/-- A fetch follows the replies, whatever they are and however often its request may be repeated. The first
response of success among those that it may ask for gives the decoded text. If there is none, the fetch comes
to what its last attempt does. Only if it is to be repeated more than 1024 times and has failed 1025 times it
ends there, with an error of its own. All requests are the same, and the delays between them double. -/
theorem fetch_follows_replies {value : Datum} (readable : Settings.ofDatum value = .ok settings)
    (counted : settings.retries = n) (url : String) (first : Host) :
    (∀ last ≤ n, last ≤ 1024 → (∀ k < last, Fails (answer first url k)) →
      ∀ response, first.network.replyAfter? url last = some (.response response) →
        isSuccess response.status = true → Text.hasBadLabel response.contentType = false →
        ∃ host, fetch value url first =
          (.value (some (Text.decodeBytes response.contentType response.body)), host) ∧
          After settings url first (last + 1) last host) ∧
    (n ≤ 1024 → (∀ k < n, Fails (answer first url k)) → ∃ host,
      fetch value url first = ((answer first url n).map some, host) ∧
      After settings url first (n + 1) n host) ∧
    (1024 < n → (∀ k ≤ 1024, Fails (answer first url k)) → ∃ host,
      fetch value url first = (.error .delayTooLong, host) ∧ After settings url first 1025 1024 host) := by
  obtain ⟨outcome, host, ran, course⟩ := fetch_course readable counted url first
  rw [ran]
  refine ⟨fun last within short early response replied success named => ?_, fun few early => ?_,
    fun more all => ?_⟩
  · have text : answer first url last =
        .value (Text.decodeBytes response.contentType response.body) := by
      rw [answer, replied, outcomeOf_of_success success named]
    have settled : ¬ Fails (answer first url last) := by
      rintro ⟨fault, fails⟩
      cases text.symm.trans fails
    obtain ⟨rfl, after⟩ := course.of_ends within short early (.inr settled)
    exact ⟨host, by rw [text]; rfl, after⟩
  · obtain ⟨rfl, after⟩ := course.of_ends (Nat.le_refl n) few early (.inl rfl)
    exact ⟨host, rfl, after⟩
  · obtain ⟨rfl, after⟩ := course.of_breaks more all
    exact ⟨host, rfl, after⟩

/-- The address of a server that is always down. -/
def downAddress : String := "http://example.com/x"

/-- A host on which a server is always down. -/
def downHost : Host :=
  { Host.empty with network := ⟨.ofList [(downAddress, [.response ⟨503, [], none⟩])], [], []⟩ }

theorem answer_downHost (count : Nat) :
    answer downHost downAddress count = .error (.badStatus 503 downAddress "") := by
  have replied : downHost.network.replyAfter? downAddress count = some (.response ⟨503, [], none⟩) := by
    have routed : downHost.network.routes.get? downAddress = some [.response ⟨503, [], none⟩] := rfl
    simp [Network.replyAfter?, routed]
  rw [answer, replied]
  rfl

/-- A fetch that may be repeated 1025 times and always fails does not end with the error of its last
attempt: it makes one attempt less, and ends with an error of its own. -/
theorem fetch_downHost_breaks : ∃ host,
    fetch (.dict [(.text "retries", .int 1025)]) downAddress downHost = (.error .delayTooLong, host) ∧
      host.network.requests.length = 1025 := by
  have readable : Settings.ofDatum (.dict [(.text "retries", .int 1025)]) = .ok ⟨5.0, 1025, 0.2, []⟩ := rfl
  obtain ⟨_, _, breaks⟩ := fetch_follows_replies readable (n := 1025) rfl downAddress downHost
  obtain ⟨host, ran, after⟩ := breaks (by decide) fun k _ => ⟨_, answer_downHost k⟩
  refine ⟨host, ran, ?_⟩
  rw [after.requests, List.length_append, List.length_replicate]
  rfl

end Http

end ModuleSystem
