import ResourceOperator.Cloud.Client
import ResourceOperator.Proofs.Dialogue

/-!
# Runs of calls over HTTP

A run of a `Session` is a log of exchanges on the wire with a result and the token that is kept.
There is one equivalence for each way to build a session. `Sent` is a request under a token, with
the exchanges for the token before it and its answer.

Results:
* `run_bind`, `run_readBody`: what the runs of each construction are.
* `Credential.of_token`: all that is asked for a token is the time and the one request of the
  credential, and the failure to get one is not that something is missing.
* `run_execute`: a run that carries out a request, and the result for each answer.
* `run_fetch_ok`, `run_fetch_notFound`: a run that finds what it requests, and one that does not.
-/

namespace ResourceOperator.Cloud

open Dialogue

/-- The exchanges on the wire so far. -/
abbrev Wire.History := List (Exchange Wire)

namespace Session

variable {α β : Type} {kept kept' : Option Token} {log : Wire.History}

@[simp] theorem run_ofResult {result : Except Failure α} {out : Except Failure α × Option Token} :
    Run (ofResult result kept) log out ↔ log = [] ∧ out = (result, kept) := run_done_iff

@[simp] theorem run_fail {failure : Failure} {out : Except Failure α × Option Token} :
    Run (fail failure kept) log out ↔ log = [] ∧ out = (.error failure, kept) := run_done_iff

@[simp] theorem run_pure {a : α} {out : Except Failure α × Option Token} :
    Run ((pure a : Session α) kept) log out ↔ log = [] ∧ out = (.ok a, kept) := run_done_iff

/-- The second step runs where the first one succeeded. -/
theorem run_bind {s : Session α} {f : α → Session β} {out : Except Failure β × Option Token} :
    Run ((s >>= f) kept) log out ↔
      (∃ first rest a middle, Run (s kept) first (.ok a, middle) ∧ Run (f a middle) rest out ∧
        log = first ++ rest) ∨
      ∃ e left, Run (s kept) log (.error e, left) ∧ out = (.error e, left) :=
  run_bind_except (d := s kept) (f := f) (fun _ _ => rfl) fun _ _ => rfl

theorem bind_assoc {γ : Type} (s : Session α) (f : α → Session β) (g : β → Session γ) :
    (s >>= f) >>= g = s >>= fun a => f a >>= g := by
  funext kept
  refine (Dialogue.bind_assoc _ _ _).trans (congrArg (Dialogue.bind _) (funext ?_))
  rintro ⟨e | a, kept⟩ <;> rfl

/-- A body of another form is a failure of the exchange. -/
theorem run_readBody {decode : Json.Draft → Option α} {response : Net.Response}
    {out : Except Failure α × Option Token} :
    Run (readBody decode response kept) log out ↔
      log = [] ∧ out = ((Json.readText decode response.body).elim (.error .http) .ok, kept) := by
  rw [readBody]
  cases Json.readText decode response.body with
  | none => exact run_done_iff
  | some a => exact run_done_iff

end Session

/-! ## Tokens -/

namespace Credential

variable {c : Credential}

/-- What may be asked for a token: the time, and for a new one. -/
def Asks (c : Credential) : WireCall → Prop
  | .clock => True
  | .exchange request => c.request? = some request

/-- How a session for a token may end: nothing that it asks for can be missing. -/
def Ends {α : Type} (_ : Wire.History) (out : Except Failure α × Option Token) : Prop :=
  ∀ what, out.1 ≠ .error (.notFound what)

theorem ensures_renew (kept : Option Token) (past : Wire.History) :
    (c.renew kept).Ensures (watch fun _ => c.Asks) Ends past := by
  rw [renew]
  cases hr : c.request? with
  | none => exact fun _ => nofun
  | some request =>
    refine ⟨hr, fun answer => ?_⟩
    cases answer with
    | none => exact fun _ => nofun
    | some response =>
      show ((if response.isSuccess = true then _ else _ : Session String) kept).Ensures _ _ _
      cases response.isSuccess with
      | false => exact fun _ => nofun
      | true =>
        refine (ensures_bind _ _).mpr ?_
        rw [Session.readBody]
        cases Json.readText Token.decode response.body with
        | none => exact fun _ => nofun
        | some token => exact fun _ => nofun

theorem ensures_token (kept : Option Token) :
    (c.token kept).Ensures (watch fun _ => c.Asks) Ends [] := by
  cases kept with
  | none => exact ensures_renew none []
  | some token =>
    refine ⟨trivial, fun now => ?_⟩
    show ((if token.isFresh now = true then _ else _ : Session String) (some token)).Ensures _ _ _
    cases token.isFresh now with
    | true => exact fun _ => nofun
    | false => exact ensures_renew _ _

/-- All that is asked for a token is the time and the one request of the credential, and the
failure to get one is not that something is missing. -/
theorem of_token {kept kept' : Option Token} {log : Wire.History} {result : Except Failure String}
    (run : Run (c.token kept) log (result, kept')) :
    (∀ x ∈ log, c.Asks x.question) ∧ ∀ what, result ≠ .error (.notFound what) :=
  run.post_of_ensures ((ensures_token kept).with_questions fun _ h => absurd h List.not_mem_nil)

end Credential

/-! ## Requests under a token -/

namespace Client

variable {c : Client} {method : Net.Method} {url : Option Net.Url} {content : Content}
  {what : String} {kept kept' : Option Token} {log : Wire.History}

/-- A request under a token. -/
def request (method : Net.Method) (url : Net.Url) (token : String) (content : Content) :
    Net.Request Net.Url :=
  ⟨method, url, some Net.jsonType, some ("Bearer " ++ token), content.type, content.body⟩

/-- A request was sent under a token that had been obtained for it, and got this answer. -/
def Sent (c : Client) (method : Net.Method) (url : Net.Url) (content : Content)
    (kept : Option Token) (log : Wire.History) (answer : Option Net.Response)
    (kept' : Option Token) : Prop :=
  ∃ first token, Run (c.credential.token kept) first (.ok token, kept') ∧
    Net.isHeaderText ("Bearer " ++ token) = true ∧
    log = first ++ [⟨.exchange (request method url token content), answer⟩]

/-- No request could be sent: there is no token, or none that may stand in a header, or no URL. -/
def Unsent (c : Client) (url : Option Net.Url) (kept : Option Token) (log : Wire.History)
    (failure : Failure) (kept' : Option Token) : Prop :=
  Run (c.credential.token kept) log (.error failure, kept') ∨
    ∃ token, Run (c.credential.token kept) log (.ok token, kept') ∧ failure = .http ∧
      (url = none ∨ Net.isHeaderText ("Bearer " ++ token) = false)

/-- What an answer to a request for something comes to. -/
def receive (what : String) : Option Net.Response → Except Failure Net.Response
  | none => .error .http
  | some response =>
    if response.status = 404 then .error (.notFound what)
    else if !response.isSuccess then .error (.api response.status response.body)
    else .ok response

theorem Unsent.not_notFound {failure : Failure} (h : c.Unsent url kept log failure kept') :
    failure ≠ .notFound what := by
  rintro rfl
  rcases h with h | ⟨token, -, hf, -⟩
  · exact (Credential.of_token h).2 what rfl
  · cases hf

/-- Where no request could be sent, no more was asked than for a token. -/
theorem Unsent.asks {failure : Failure} (h : c.Unsent url kept log failure kept') :
    ∀ x ∈ log, c.credential.Asks x.question := by
  rcases h with h | ⟨token, h, -⟩
  · exact (Credential.of_token h).1
  · exact (Credential.of_token h).1

/-- What is done once there is a token: one request, if it can be sent. -/
def dispatch (method : Net.Method) (url : Option Net.Url) (content : Content) (what token : String)
    (kept : Option Token) : Dialogue Wire (Except Failure Net.Response × Option Token) :=
  match url with
  | none => .done (.error .http, kept)
  | some url =>
    if Net.isHeaderText ("Bearer " ++ token) then
      .ask (I := Wire) (.exchange (request method url token content)) fun answer =>
        .done (receive what answer, kept)
    else .done (.error .http, kept)

theorem execute_eq :
    c.execute method url content what =
      c.credential.token >>= fun token => dispatch method url content what token := by
  rw [execute]
  congr
  funext token kept
  cases url with
  | none => rfl
  | some target =>
    show (if (!Net.isHeaderText ("Bearer " ++ token)) = true then Session.fail .http
      else _ : Session Net.Response) kept = dispatch method (some target) content what token kept
    rw [dispatch]
    cases Net.isHeaderText ("Bearer " ++ token) with
    | false => rfl
    | true =>
      refine congrArg (Dialogue.ask (I := Wire) _) (funext fun answer => ?_)
      cases answer with
      | none => rfl
      | some response =>
        show (if response.status = 404 then _ else _ : Session Net.Response) kept = _
        rw [receive]
        split
        · rfl
        · split <;> rfl

theorem run_dispatch {token : String} {out : Except Failure Net.Response × Option Token} :
    Run (dispatch method url content what token kept) log out ↔
      (∃ target answer, url = some target ∧ Net.isHeaderText ("Bearer " ++ token) = true ∧
        log = [⟨.exchange (request method target token content), answer⟩] ∧
        out = (receive what answer, kept)) ∨
      (url = none ∨ Net.isHeaderText ("Bearer " ++ token) = false) ∧ log = [] ∧
        out = (.error .http, kept) := by
  cases url with
  | none => simp [dispatch, run_done_iff]
  | some target =>
    rw [dispatch]
    cases Net.isHeaderText ("Bearer " ++ token) with
    | false => simp [run_done_iff]
    | true =>
      refine run_ask_done_iff.trans ?_
      simp

/-- A run that carries out a request: it is sent and its answer received, or it cannot be sent. -/
theorem run_execute {out : Except Failure Net.Response × Option Token} :
    Run (c.execute method url content what kept) log out ↔
      (∃ target answer, url = some target ∧ c.Sent method target content kept log answer out.2 ∧
        out.1 = receive what answer) ∨
      ∃ failure, c.Unsent url kept log failure out.2 ∧ out.1 = .error failure := by
  rw [execute_eq, Session.run_bind]
  constructor
  · rintro (⟨first, rest, token, middle, htoken, hrest, rfl⟩ | ⟨failure, left, htoken, rfl⟩)
    · rcases run_dispatch.mp hrest with ⟨target, answer, hu, hh, rfl, rfl⟩ | ⟨hu, rfl, rfl⟩
      · exact .inl ⟨target, answer, hu, ⟨first, token, htoken, hh, rfl⟩, rfl⟩
      · exact .inr ⟨.http, .inr ⟨token, by rwa [List.append_nil], rfl, hu⟩, rfl⟩
    · exact .inr ⟨failure, .inl htoken, rfl⟩
  · obtain ⟨result, left⟩ := out
    rintro (⟨target, answer, hu, ⟨first, token, htoken, hh, rfl⟩, rfl⟩ |
      ⟨failure, htoken | ⟨token, htoken, rfl, hu⟩, rfl⟩)
    · exact .inl ⟨first, _, token, left, htoken,
        run_dispatch.mpr (.inl ⟨target, answer, hu, hh, rfl, rfl⟩), rfl⟩
    · exact .inr ⟨failure, left, htoken, rfl⟩
    · exact .inl ⟨log, [], token, left, htoken, run_dispatch.mpr (.inr ⟨hu, rfl, rfl⟩),
        (List.append_nil log).symm⟩

/-! ## Reading what was requested -/

/-- A request that brings nothing along was answered with code 404. -/
def Gone (c : Client) (url : Option Net.Url) (kept : Option Token) (log : Wire.History)
    (kept' : Option Token) : Prop :=
  ∃ target response, url = some target ∧ response.status = 404 ∧
    c.Sent .get target .empty kept log (some response) kept'

/-- A request that brings nothing along was answered with success, and the answer read. -/
def Got {α : Type} (c : Client) (decode : Json.Draft → Option α) (url : Option Net.Url)
    (kept : Option Token) (log : Wire.History) (value : α) (kept' : Option Token) : Prop :=
  ∃ target response, url = some target ∧ response.isSuccess = true ∧
    Json.readText decode response.body = some value ∧
    c.Sent .get target .empty kept log (some response) kept'

theorem receive_eq_notFound {answer : Option Net.Response} {missing : String} :
    receive what answer = .error (.notFound missing) ↔
      missing = what ∧ ∃ response, answer = some response ∧ response.status = 404 := by
  cases answer with
  | none => simp [receive]
  | some response =>
    rw [receive]
    by_cases h : response.status = 404
    · simp [h, eq_comm]
    · cases hs : response.isSuccess <;> simp [h]

theorem receive_eq_ok {answer : Option Net.Response} {response : Net.Response} :
    receive what answer = .ok response ↔ answer = some response ∧ response.isSuccess = true := by
  cases answer with
  | none => simp [receive]
  | some other =>
    rw [receive]
    by_cases h : other.status = 404
    · -- a response with code 404 is no success
      have hs : other.isSuccess = false := by simp [Net.Response.isSuccess, h]
      rw [if_pos h]
      constructor
      · nofun
      · rintro ⟨e, ht⟩
        cases e
        rw [hs] at ht
        cases ht
    · rw [if_neg h]
      cases hs : other.isSuccess with
      | false =>
        constructor
        · nofun
        · rintro ⟨e, ht⟩
          cases e
          rw [hs] at ht
          cases ht
      | true =>
        constructor
        · intro e
          cases e
          exact ⟨rfl, hs⟩
        · rintro ⟨e, -⟩
          cases e
          rfl

/-- What is requested is missing exactly where the request was answered so. -/
theorem run_fetch_notFound {α : Type} {decode : Json.Draft → Option α} {missing : String} :
    Run (c.fetch decode .get url .empty what kept) log (.error (.notFound missing), kept') ↔
      missing = what ∧ c.Gone url kept log kept' := by
  rw [fetch, Session.run_bind]
  constructor
  · rintro (⟨first, rest, response, middle, -, hrest, -⟩ | ⟨failure, left, hrun, hout⟩)
    · -- reading fails otherwise
      obtain ⟨-, hout⟩ := Session.run_readBody.mp hrest
      cases hread : Json.readText decode response.body <;> rw [hread] at hout <;> cases hout
    · cases hout
      rcases run_execute.mp hrun with ⟨target, answer, hu, hsent, hreceive⟩ |
        ⟨failure, hunsent, hfailure⟩
      · obtain ⟨rfl, response, rfl, hs⟩ := receive_eq_notFound.mp hreceive.symm
        exact ⟨rfl, target, response, hu, hs, hsent⟩
      · cases hfailure
        exact absurd rfl hunsent.not_notFound
  · rintro ⟨rfl, target, response, hu, hs, hsent⟩
    refine .inr ⟨_, kept', run_execute.mpr (.inl ⟨target, _, hu, hsent, ?_⟩), rfl⟩
    exact (receive_eq_notFound.mpr ⟨rfl, response, rfl, hs⟩).symm

/-- What is requested is found exactly where the request was answered so. -/
theorem run_fetch_ok {α : Type} {decode : Json.Draft → Option α} {value : α} :
    Run (c.fetch decode .get url .empty what kept) log (.ok value, kept') ↔
      c.Got decode url kept log value kept' := by
  rw [fetch, Session.run_bind]
  constructor
  · rintro (⟨first, rest, response, middle, hrun, hrest, rfl⟩ | ⟨failure, left, -, hout⟩)
    · obtain ⟨rfl, hout⟩ := Session.run_readBody.mp hrest
      rw [List.append_nil]
      cases hread : Json.readText decode response.body with
      | none =>
        rw [hread] at hout
        cases hout
      | some found =>
        rw [hread] at hout
        cases hout
        rcases run_execute.mp hrun with ⟨target, answer, hu, hsent, hreceive⟩ | ⟨failure, -, hfailure⟩
        · obtain ⟨rfl, hs⟩ := receive_eq_ok.mp hreceive.symm
          exact ⟨target, response, hu, hs, hread, hsent⟩
        · cases hfailure
    · cases hout
  · rintro ⟨target, response, hu, hs, hread, hsent⟩
    refine .inl ⟨log, [], response, kept', run_execute.mpr (.inl ⟨target, _, hu, hsent, ?_⟩),
      Session.run_readBody.mpr ⟨rfl, ?_⟩, (List.append_nil log).symm⟩
    · exact (receive_eq_ok.mpr ⟨rfl, hs⟩).symm
    · rw [hread]
      rfl

/-- A client for APIs that are told apart by their hosts. -/
def sampleClient : Client :=
  ⟨⟨"http://iam/token", "key"⟩, ⟨"http://is", "http://rc", "http://rm", "http://gc", "http://tags"⟩⟩

end Client

end ResourceOperator.Cloud
