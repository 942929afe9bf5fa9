import ResourceOperator.Proofs.Cloud.Session

/-!
# Which token a call gets

A call for a token may use the one that is kept, read the time, and send the one request of the
credential. `TokenCalls` puts calls one after another, each with the token that the one before left.
Nothing is assumed of the time, which may run backwards, nor of the answers.

Results:
* `renewed`: what an answer to a request for a token comes to.
* `run_token`: what one call exchanges, what comes of it and what it leaves.
* `TokenCall.sound`: what that means for one call. It asks for a new token only where the one that
  is kept is due, and only a token that it got takes the place of the one that is kept.
* `TokenCalls.kept_eq`: what is kept after calls is the token of the latest answer with one in it.
* `tokens_renewed_when_due`: both, for each call of any sequence.
-/

namespace ResourceOperator.Cloud

open Dialogue

namespace Credential

variable {c : Credential} {kept : Option Token} {log : Wire.History}

/-! ## One call -/

/-- What an answer to a request for a token comes to. -/
def renewed : Option Net.Response → Except Failure Token
  | none => .error .http
  | some response =>
    if response.isSuccess then
      (Json.readText Token.decode response.body).elim (.error .http) .ok
    else
      .error (.auth
        ("token request failed (" ++ toString response.status ++ "): " ++ response.body))

/-- A refusal is a failure of its own, with the code and the body in it. -/
theorem renewed_of_refusal {response : Net.Response} (h : response.isSuccess = false) :
    renewed (some response) = .error (.auth
      ("token request failed (" ++ toString response.status ++ "): " ++ response.body)) :=
  if_neg (by simp [h])

/-- No answer means that something is missing. -/
theorem renewed_ne_notFound (answer : Option Net.Response) (what : String) :
    renewed answer ≠ .error (.notFound what) := by
  cases answer with
  | none => simp [renewed]
  | some response =>
    rw [renewed]
    cases response.isSuccess with
    | false => simp
    | true => cases Json.readText Token.decode response.body <;> simp

/-- How a call ends whose request got this: a token that came is returned and kept. -/
def settle (kept : Option Token) : Except Failure Token → Except Failure String × Option Token
  | .ok token => (.ok token.text, some token)
  | .error failure => (.error failure, kept)

theorem settle_eq_ok {answer : Except Failure Token} {text : String} {left : Option Token} :
    settle kept answer = (.ok text, left) ↔
      ∃ token, answer = .ok token ∧ token.text = text ∧ left = some token := by
  cases answer with
  | ok token => simp [settle, eq_comm]
  | error failure => simp [settle]

theorem settle_eq_error {answer : Except Failure Token} {failure : Failure} {left : Option Token} :
    settle kept answer = (.error failure, left) ↔ answer = .error failure ∧ left = kept := by
  cases answer with
  | ok token => simp [settle]
  | error other => simp [settle, eq_comm]

theorem renew_eq (kept : Option Token) :
    c.renew kept = match c.request? with
      | none => .done (.error .http, kept)
      | some request => .ask (I := Wire) (.exchange request) fun answer =>
          .done (settle kept (renewed answer)) := by
  rw [renew]
  cases c.request? with
  | none => rfl
  | some request =>
    refine congrArg (Dialogue.ask (I := Wire) _) (funext fun answer => ?_)
    cases answer with
    | none => rfl
    | some response =>
      show (if response.isSuccess = true then _ else _ : Session String) kept = _
      rw [renewed]
      cases response.isSuccess with
      | false => rfl
      | true =>
        show (Session.readBody Token.decode response >>= fun token => _ : Session String) kept = _
        rw [Session.readBody]
        cases Json.readText Token.decode response.body <;> rfl

/-- The one request of the credential is sent, unless the endpoint is no URL. -/
theorem run_renew {out : Except Failure String × Option Token} :
    Run (c.renew kept) log out ↔
      (∃ request answer, c.request? = some request ∧ log = [⟨.exchange request, answer⟩] ∧
        out = settle kept (renewed answer)) ∨
      c.request? = none ∧ log = [] ∧ out = (.error .http, kept) := by
  rw [renew_eq]
  cases c.request? with
  | none => simp [run_done_iff]
  | some request => exact run_ask_done_iff.trans (by simp)

/-- The token that is kept is returned while it is fresh. -/
theorem token_some_eq (token : Token) :
    c.token (some token) = .ask (I := Wire) .clock fun now : Int =>
      if now < token.expiration - 60 then .done (.ok token.text, some token)
      else c.renew (some token) := by
  refine congrArg (Dialogue.ask (I := Wire) _) (funext fun now : Int => ?_)
  show (if decide (now < token.expiration - 60) = true then _ else _ : Session String) _ = _
  by_cases h : now < token.expiration - 60
  · rw [if_pos h, if_pos (decide_eq_true h)]
    rfl
  · rw [if_neg h, if_neg (by simpa using h)]

/-- What a call looks at before it asks for a new token: nothing where none is kept, and else the
time, at which the one that is kept is due. -/
inductive Due : Option Token → Wire.History → Prop where
  | unkept : Due none []
  | stale {token : Token} {now : Int} (h : token.expiration - 60 ≤ now) :
      Due (some token) [⟨.clock, now⟩]

/-- A call returns the token that is kept while it is fresh, and asks for a new one when that is
due. -/
theorem run_token {out : Except Failure String × Option Token} :
    Run (c.token kept) log out ↔
      (∃ token now, kept = some token ∧ now < token.expiration - 60 ∧ log = [⟨.clock, now⟩] ∧
        out = (.ok token.text, kept)) ∨
      ∃ look rest, Due kept look ∧ Run (c.renew kept) rest out ∧ log = look ++ rest := by
  cases kept with
  | none =>
    show Run (c.renew none) log out ↔ _
    constructor
    · exact fun run => .inr ⟨[], log, .unkept, run, rfl⟩
    · rintro (⟨token, now, hkept, -⟩ | ⟨look, rest, hdue, run, rfl⟩)
      · cases hkept
      · cases hdue
        exact run
  | some token =>
    rw [token_some_eq]
    refine run_ask_iff.trans ?_
    constructor
    · rintro ⟨(now : Int), rest, run, rfl⟩
      by_cases hfresh : now < token.expiration - 60
      · rw [if_pos hfresh] at run
        obtain ⟨rfl, rfl⟩ := run_done_iff.mp run
        exact .inl ⟨token, now, rfl, hfresh, rfl, rfl⟩
      · rw [if_neg hfresh] at run
        exact .inr ⟨_, rest, .stale (Int.not_lt.mp hfresh), run, rfl⟩
    · rintro (⟨_, now, ⟨⟩, hfresh, rfl, rfl⟩ | ⟨look, rest, hdue, run, rfl⟩)
      · exact ⟨now, [], by rw [if_pos hfresh]; exact .done _, rfl⟩
      · cases hdue with
        | @stale _ now h =>
          exact ⟨now, rest, by rwa [if_neg (Int.not_lt.mpr h)], rfl⟩

end Credential

/-! ## What a log tells -/

/-- The times that were read. -/
def readings (log : Wire.History) : List Int :=
  log.filterMap fun
    | ⟨.clock, now⟩ => some now
    | ⟨.exchange _, _⟩ => none

/-- The requests that were sent. -/
def requests (log : Wire.History) : List (Net.Request Net.Url) :=
  log.filterMap fun
    | ⟨.clock, _⟩ => none
    | ⟨.exchange request, _⟩ => some request

/-- The tokens that came. -/
def issued (log : Wire.History) : List Token :=
  log.filterMap fun
    | ⟨.clock, _⟩ => none
    | ⟨.exchange _, answer⟩ => (Credential.renewed answer).toOption

theorem readings_append (log rest : Wire.History) :
    readings (log ++ rest) = readings log ++ readings rest := List.filterMap_append

theorem requests_append (log rest : Wire.History) :
    requests (log ++ rest) = requests log ++ requests rest := List.filterMap_append

theorem issued_append (log rest : Wire.History) :
    issued (log ++ rest) = issued log ++ issued rest := List.filterMap_append

theorem issued_exchange (request : Net.Request Net.Url) (answer : Option Net.Response) :
    issued [⟨.exchange request, answer⟩] = (Credential.renewed answer).toOption.toList := by
  cases h : Credential.renewed answer <;> simp [issued, h, Except.toOption]

namespace Credential

variable {kept : Option Token} {look : Wire.History}

/-- Before a new token is asked for, no request is sent and no token comes. -/
theorem Due.requests_eq (h : Due kept look) : requests look = [] := by
  cases h <;> rfl

theorem Due.issued_eq (h : Due kept look) : issued look = [] := by
  cases h <;> rfl

theorem Due.length_readings (h : Due kept look) :
    (readings look).length = kept.toList.length := by
  cases h <;> rfl

theorem Due.question (h : Due kept look) : ∀ x ∈ look, x.question = .clock := by
  cases h with
  | unkept => exact fun x hx => absurd hx List.not_mem_nil
  | stale _ => exact List.forall_mem_singleton.mpr rfl

/-- The token that is kept is not seen to be fresh. -/
theorem Due.expiration_le (h : Due kept look) {token : Token} {now : Int}
    (hkept : kept = some token) (hnow : now ∈ readings look) : token.expiration - 60 ≤ now := by
  cases h with
  | unkept => cases hkept
  | stale h =>
    cases hkept
    rw [List.mem_singleton.mp hnow]
    exact h

end Credential

/-! ## Calls one after another -/

/-- A call for a token: what was kept before it, what it exchanged, what came of it, and what it
left. -/
structure TokenCall where
  kept : Option Token
  log : Wire.History
  result : Except Failure String
  left : Option Token

/-- What a call does with the token that is kept. -/
structure TokenCall.Sound (c : Credential) (call : TokenCall) : Prop where
  /-- The time is read once, where a token is kept. -/
  length_readings : (readings call.log).length = call.kept.toList.length
  /-- A new token is asked for where none is kept, or the time shows the one that is kept to be
  due. There is one request for it, and none only where the endpoint is no URL. -/
  requests_of_due : (∀ token, call.kept = some token →
      ∃ now ∈ readings call.log, token.expiration - 60 ≤ now) →
    requests call.log = c.request?.toList
  /-- None is asked for where the time shows the one that is kept not to be due. -/
  requests_of_fresh : ∀ token now, call.kept = some token → now ∈ readings call.log →
    now < token.expiration - 60 → requests call.log = []
  /-- What is returned came just now and is kept, or was kept and is fresh. -/
  source : ∀ text, call.result = .ok text →
    (∃ token, issued call.log = [token] ∧ token.text = text ∧ call.left = some token) ∨
    ∃ token now, call.kept = some token ∧ token.text = text ∧ readings call.log = [now] ∧
      now < token.expiration - 60 ∧ issued call.log = [] ∧ call.left = call.kept
  /-- A failure leaves what is kept. -/
  left_of_error : ∀ failure, call.result = .error failure →
    issued call.log = [] ∧ call.left = call.kept
  /-- A refusal is a failure of its own. -/
  auth_of_refusal : ∀ request response,
    (⟨.exchange request, some response⟩ : Exchange Wire) ∈ call.log →
      response.isSuccess = false → call.result = .error (.auth
        ("token request failed (" ++ toString response.status ++ "): " ++ response.body))
  /-- No failure is that something is missing. -/
  ne_notFound : ∀ what, call.result ≠ .error (.notFound what)

namespace TokenCall

open Credential

variable {c : Credential} {kept : Option Token} {look : Wire.History}

/-- A call that finds the token that is kept fresh. -/
theorem sound_fresh (c : Credential) {token : Token} {now : Int} (h : now < token.expiration - 60) :
    Sound c ⟨some token, [⟨.clock, now⟩], .ok token.text, some token⟩ where
  length_readings := rfl
  requests_of_due hdue := by
    obtain ⟨read, hread, hle⟩ := hdue token rfl
    rw [List.mem_singleton.mp hread] at hle
    exact absurd h (Int.not_lt.mpr hle)
  requests_of_fresh _ _ _ _ _ := rfl
  source text htext := by
    cases htext
    exact .inr ⟨token, now, rfl, rfl, rfl, h, rfl, rfl⟩
  left_of_error _ := nofun
  auth_of_refusal request response hx := by
    cases List.mem_singleton.mp hx
  ne_notFound _ := nofun

/-- A call that finds the token due, and sends the request. -/
theorem sound_sent {request : Net.Request Net.Url} (hrequest : c.request? = some request)
    (answer : Option Net.Response) (hdue : Due kept look) {result : Except Failure String}
    {left : Option Token} (hout : (result, left) = settle kept (renewed answer)) :
    Sound c ⟨kept, look ++ [⟨.exchange request, answer⟩], result, left⟩ := by
  have hreadings : readings (look ++ [⟨.exchange request, answer⟩]) = readings look := by
    rw [readings_append]
    exact List.append_nil _
  have hrequests : requests (look ++ [⟨.exchange request, answer⟩]) = [request] := by
    rw [requests_append, hdue.requests_eq]
    rfl
  have hissued : issued (look ++ [⟨.exchange request, answer⟩]) =
      (renewed answer).toOption.toList := by
    rw [issued_append, hdue.issued_eq, issued_exchange]
    rfl
  refine ⟨?_, fun _ => ?_, ?_, fun text htext => ?_, fun failure hfailure => ?_, ?_, ?_⟩
  · rw [hreadings]
    exact hdue.length_readings
  · rw [hrequests, hrequest]
    rfl
  · intro token now hkept hnow hfresh
    rw [hreadings] at hnow
    exact absurd hfresh (Int.not_lt.mpr (hdue.expiration_le hkept hnow))
  · obtain rfl : result = .ok text := htext
    obtain ⟨token, hrenewed, rfl, hleft⟩ := settle_eq_ok.mp hout.symm
    rw [hrenewed] at hissued
    exact .inl ⟨token, hissued, rfl, hleft⟩
  · obtain rfl : result = .error failure := hfailure
    obtain ⟨hrenewed, hleft⟩ := settle_eq_error.mp hout.symm
    rw [hrenewed] at hissued
    exact ⟨hissued, hleft⟩
  · intro sent response hx hrefusal
    rcases List.mem_append.mp hx with hx | hx
    · cases hdue.question _ hx
    · cases List.mem_singleton.mp hx
      rw [renewed_of_refusal hrefusal] at hout
      exact (Prod.mk.inj hout).1
  · rintro what rfl
    exact renewed_ne_notFound answer what (settle_eq_error.mp hout.symm).1

/-- A call that finds the token due, and has no URL for the request. -/
theorem sound_unsent (hrequest : c.request? = none) (hdue : Due kept look) :
    Sound c ⟨kept, look, .error .http, kept⟩ where
  length_readings := hdue.length_readings
  requests_of_due _ := by
    rw [hrequest]
    exact hdue.requests_eq
  requests_of_fresh _ _ _ _ _ := hdue.requests_eq
  source _ := nofun
  left_of_error _ _ := ⟨hdue.issued_eq, rfl⟩
  auth_of_refusal request response hx := by
    cases hdue.question _ hx
  ne_notFound _ := nofun

/-- **One call** does what it should with the token that is kept. -/
theorem sound {log : Wire.History} {result : Except Failure String} {left : Option Token}
    (run : Run (c.token kept) log (result, left)) : Sound c ⟨kept, log, result, left⟩ := by
  rcases run_token.mp run with
    ⟨token, now, rfl, hfresh, rfl, hout⟩ | ⟨look, rest, hdue, hrenew, rfl⟩
  · cases hout
    exact sound_fresh c hfresh
  · rcases run_renew.mp hrenew with ⟨request, answer, hrequest, rfl, hout⟩ | ⟨hrequest, rfl, hout⟩
    · exact sound_sent hrequest answer hdue hout
    · cases hout
      rw [List.append_nil]
      exact sound_unsent hrequest hdue

/-- A call leaves the token that came, or else what was kept. -/
theorem Sound.left_eq {call : TokenCall} (h : call.Sound c) :
    call.left = (issued call.log).getLast?.or call.kept := by
  cases hresult : call.result with
  | ok text =>
    rcases h.source text hresult with
      ⟨token, hissued, -, hleft⟩ | ⟨_, _, -, -, -, -, hissued, hleft⟩
    · rw [hissued, hleft]
      rfl
    · rw [hissued, hleft]
      rfl
  | error failure =>
    obtain ⟨hissued, hleft⟩ := h.left_of_error failure hresult
    rw [hissued, hleft]
    rfl

end TokenCall

/-- Calls one after another, from none kept, each with the token that the one before left. -/
inductive TokenCalls (c : Credential) : List TokenCall → Option Token → Prop where
  | nil : TokenCalls c [] none
  | snoc {calls : List TokenCall} {call : TokenCall} (past : TokenCalls c calls call.kept)
      (run : Run (c.token call.kept) call.log (call.result, call.left)) :
      TokenCalls c (calls ++ [call]) call.left

/-- The latest of the tokens that came in these calls. -/
def latest (calls : List TokenCall) : Option Token :=
  (calls.flatMap fun call => issued call.log).getLast?

theorem latest_snoc (calls : List TokenCall) (call : TokenCall) :
    latest (calls ++ [call]) = (issued call.log).getLast?.or (latest calls) := by
  simp [latest, List.getLast?_append]

namespace TokenCalls

variable {c : Credential} {calls : List TokenCall} {kept : Option Token}

/-- **What is kept** after calls is the latest token that came. -/
theorem kept_eq (h : TokenCalls c calls kept) : kept = latest calls := by
  induction h with
  | nil => rfl
  | snoc past run ih => rw [latest_snoc, ← ih, (TokenCall.sound run).left_eq]

/-- Each call starts with what the ones before it leave. -/
theorem call_of_append {before after : List TokenCall} {call : TokenCall}
    (h : TokenCalls c calls kept) (e : calls = before ++ call :: after) :
    TokenCalls c before call.kept ∧
      Run (c.token call.kept) call.log (call.result, call.left) := by
  induction h generalizing after with
  | nil => simp at e
  | @snoc calls last past run ih =>
    rcases List.eq_nil_or_concat after with rfl | ⟨middle, final, rfl⟩
    · obtain ⟨rfl, hlast⟩ := List.append_inj' e rfl
      cases List.singleton_inj.mp hlast
      exact ⟨past, run⟩
    · have hsplit : calls ++ [last] = (before ++ call :: middle) ++ [final] := by simpa using e
      exact ih (List.append_inj' hsplit rfl).1

end TokenCalls

/-- **Tokens over any sequence of calls.** Before each call, what is kept is the token of the latest
answer with one in it, and each call does what it should with it: it asks for a new one exactly
where none is kept or the one that is kept is due, returns one that came just now or the one that is
kept while it is fresh, and leaves what is kept where it fails. -/
theorem tokens_renewed_when_due {c : Credential} {calls : List TokenCall} {kept : Option Token}
    (h : TokenCalls c calls kept) :
    kept = latest calls ∧ ∀ before call after, calls = before ++ call :: after →
      call.kept = latest before ∧ call.left = latest (before ++ [call]) ∧ call.Sound c := by
  refine ⟨h.kept_eq, fun before call after e => ?_⟩
  obtain ⟨past, run⟩ := h.call_of_append e
  exact ⟨past.kept_eq, (past.snoc run).kept_eq, TokenCall.sound run⟩

/-- The credential whose requests go to `iam`. -/
def iamCredential : Credential := ⟨"http://iam/token", "key"⟩

/-- The request of `iamCredential`. -/
def iamRequest : Net.Request Net.Url where
  method := .post
  address := ⟨false, "iam", ["token"], none⟩
  accept := some Net.jsonType
  authorization := none
  contentType := some Net.Form.contentType
  body := some "grant_type=urn%3Aibm%3Aparams%3Aoauth%3Agrant-type%3Aapikey&apikey=key"

/-- The answer with the token that `iamCredential` gets first. -/
def iamAnswer : Net.Response :=
  ⟨200, "\x7b\"access_token\":\"first\",\"expiration\":3600\x7d"⟩

/-- The token in `iamAnswer`. -/
def iamToken : Token := ⟨"first", 3600⟩

/-- A first call, which gets a token. -/
def firstCall : TokenCall :=
  ⟨none, [⟨.exchange iamRequest, some iamAnswer⟩], .ok "first", some iamToken⟩

/-- A call at a time at which the token is fresh. -/
def freshCall (now : Int) : TokenCall :=
  ⟨some iamToken, [⟨.clock, now⟩], .ok "first", some iamToken⟩

/-- A call that finds the token due, and is refused another. -/
def refusedCall : TokenCall :=
  ⟨some iamToken, [⟨.clock, (3540 : Int)⟩, ⟨.exchange iamRequest, some ⟨503, "down"⟩⟩],
    .error (.auth "token request failed (503): down"), some iamToken⟩

/-- A refusal leaves the token, which is what the next call returns when the time has run
backwards. -/
theorem refusedCall_keeps_token :
    TokenCalls iamCredential [firstCall, freshCall 3539, refusedCall, freshCall 0]
      (some iamToken) ∧
    latest [firstCall, freshCall 3539, refusedCall] = some iamToken ∧
    (freshCall 0).Sound iamCredential := by
  have hrequest : iamCredential.request? = some iamRequest := by decide +kernel
  have hread : Json.readText Token.decode iamAnswer.body = some iamToken := by decide +kernel
  have htoken : Credential.renewed (some iamAnswer) = .ok iamToken := by
    rw [Credential.renewed, if_pos (by decide), hread]
    rfl
  have hrefused : Credential.renewed (some ⟨503, "down"⟩) =
      .error (.auth "token request failed (503): down") := by
    rw [Credential.renewed_of_refusal (by decide)]
    have htext : "token request failed (" ++ toString 503 ++ "): " ++ "down" =
        "token request failed (503): down" := by
      decide +kernel
    exact congrArg (fun text => Except.error (Failure.auth text)) htext
  have hfresh : ∀ now : Int, now < 3540 → Run (iamCredential.token (some iamToken))
      [⟨.clock, now⟩] (.ok "first", some iamToken) := fun now h =>
    Credential.run_token.mpr (.inl ⟨_, now, rfl, h, rfl, rfl⟩)
  have hrenew : ∀ kept answer, Run (iamCredential.renew kept) [⟨.exchange iamRequest, answer⟩]
      (Credential.settle kept (Credential.renewed answer)) := fun kept answer =>
    Credential.run_renew.mpr (.inl ⟨iamRequest, answer, hrequest, rfl, rfl⟩)
  have first : TokenCalls iamCredential [firstCall] (some iamToken) := by
    refine @TokenCalls.snoc iamCredential [] firstCall .nil (Credential.run_token.mpr (.inr
      ⟨[], firstCall.log, .unkept, ?_, rfl⟩))
    have run := hrenew none (some iamAnswer)
    rwa [htoken] at run
  have second : TokenCalls iamCredential [firstCall, freshCall 3539] (some iamToken) :=
    @TokenCalls.snoc iamCredential [firstCall] (freshCall 3539) first (hfresh 3539 (by decide))
  have third : TokenCalls iamCredential [firstCall, freshCall 3539, refusedCall]
      (some iamToken) := by
    refine @TokenCalls.snoc iamCredential [firstCall, freshCall 3539] refusedCall second
      (Credential.run_token.mpr (.inr ⟨refusedCall.log.take 1, refusedCall.log.drop 1,
        .stale (by decide), ?_, rfl⟩))
    have run := hrenew (some iamToken) (some ⟨503, "down"⟩)
    rwa [hrefused] at run
  have last : TokenCalls iamCredential [firstCall, freshCall 3539, refusedCall, freshCall 0]
      (some iamToken) :=
    @TokenCalls.snoc iamCredential [firstCall, freshCall 3539, refusedCall] (freshCall 0) third
      (hfresh 0 (by decide))
  obtain ⟨hkept, -, hsound⟩ :=
    (tokens_renewed_when_due last).2 [firstCall, freshCall 3539, refusedCall] (freshCall 0) [] rfl
  exact ⟨last, hkept.symm, hsound⟩

end ResourceOperator.Cloud
