import Mathlib.Data.List.Nodup
import ResourceOperator.Proofs.Cloud.Bodies
import ResourceOperator.Proofs.Cloud.ReadBack
import ResourceOperator.Proofs.Cloud.Tokens
import ResourceOperator.Proofs.Json.Names
import ResourceOperator.Proofs.Net.Url

/-!
# Plans by name and by id

The plan of an instance is declared by its name and reported by its id. Each of the two lookups asks
the catalog twice, for the services with a name and for the plans of the first one that has exactly
that name, and takes the first plan that matches. An instance is updated until its plan, looked up
by id, has the declared name, so one lookup has to undo the other.

The catalog is a function of the address, as its answers do not change (`Served`). Tokens come from
elsewhere: nothing is assumed of the answers to requests for them nor of the time, but that a lookup
may end without a token to send a request with (`Barred`).

Results:
* `lookup_inverse`: the plan that is found by a name is the one that is found by its id.
* `Answered.servedPlan`: where the catalog answers with pages, a plan is found, or it is missing and
  not listed.
* `yields_lookup`: a run of a lookup comes to what the catalog serves.
* `not_barred`: no lookup is barred where tokens are granted.
* `plan_lookups_inverse`: all of this, for every run.
* `twinPlans_found`: two plans with one name, among other services.
-/

namespace ResourceOperator.Cloud

open Dialogue

/-! ## Tokens that are granted -/

/-- A token that may stand in a header. -/
def Token.Usable (token : Token) : Prop :=
  Net.isHeaderText ("Bearer " ++ token.text) = true

/-- A usable token is there, or a request for one is answered with one. -/
structure Credential.Granted (c : Credential) (kept : Option Token) (log : Wire.History) :
    Prop where
  located : ∃ request, c.request? = some request
  kept_usable : ∀ token, kept = some token → token.Usable
  answered : ∀ request answer, c.request? = some request →
    (⟨.exchange request, answer⟩ : Exchange Wire) ∈ log →
      ∃ token, renewed answer = .ok token ∧ token.Usable

namespace Credential

variable {c : Credential} {kept middle : Option Token} {log first rest : Wire.History}

theorem Granted.left (h : c.Granted kept (first ++ rest)) : c.Granted kept first where
  located := h.located
  kept_usable := h.kept_usable
  answered request answer hrequest hx :=
    h.answered request answer hrequest (List.mem_append_left rest hx)

theorem Granted.right (h : c.Granted kept (first ++ rest))
    (hmiddle : ∀ token, middle = some token → token.Usable) : c.Granted middle rest where
  located := h.located
  kept_usable := hmiddle
  answered request answer hrequest hx :=
    h.answered request answer hrequest (List.mem_append_right first hx)

/-- Where tokens are granted, a call for one returns a usable one, and keeps a usable one. -/
theorem Granted.token (h : c.Granted kept log) {out : Except Failure String × Option Token}
    (run : Run (c.token kept) log out) :
    ∃ text, out.1 = .ok text ∧ Net.isHeaderText ("Bearer " ++ text) = true ∧
      ∀ token, out.2 = some token → token.Usable := by
  rcases run_token.mp run with ⟨token, now, rfl, -, -, rfl⟩ | ⟨look, rest, -, hrenew, rfl⟩
  · exact ⟨token.text, rfl, h.kept_usable token rfl, h.kept_usable⟩
  · rcases run_renew.mp hrenew with ⟨request, answer, hrequest, rfl, rfl⟩ | ⟨hrequest, -⟩
    · obtain ⟨token, hrenewed, husable⟩ := h.answered request answer hrequest
        (List.mem_append_right look List.mem_cons_self)
      rw [hrenewed]
      refine ⟨token.text, rfl, husable, ?_⟩
      rintro _ ⟨⟩
      exact husable
    · obtain ⟨request, hlocated⟩ := h.located
      cases hrequest.symm.trans hlocated

end Credential

namespace Client

variable {α : Type} {c : Client} {serve : Net.Url → Option Net.Response} {service what : String}
  {url : Option Net.Url} {kept kept' : Option Token} {log : Wire.History}
  {page plans : List CatalogEntry} {meant : CatalogEntry → Bool}

/-! ## What the catalog serves -/

/-- Requests that read were answered as the catalog serves. -/
def Served (serve : Net.Url → Option Net.Response) (log : Wire.History) : Prop :=
  ∀ request answer, (⟨.exchange request, answer⟩ : Exchange Wire) ∈ log → request.method = .get →
    answer = serve request.address

/-- A page is served at a URL. -/
def Page (serve : Net.Url → Option Net.Response) (url : Option Net.Url)
    (page : List CatalogEntry) : Prop :=
  ∃ target response, url = some target ∧ serve target = some response ∧
    response.isSuccess = true ∧
    Json.readText CatalogEntry.decodePage response.body = some page

/-- Where services with a name are looked up. -/
def servicesUrl (c : Client) (service : String) : Option Net.Url :=
  (Net.Url.parse? c.endpoints.catalog).map
    (Net.Url.withQuery [("q", "name:" ++ service), ("complete", "false")])

/-- Where the plans of a service are looked up. -/
def plansUrl (c : Client) (id : String) : Option Net.Url :=
  Net.Url.parse? (c.endpoints.catalog ++ "/" ++ id ++ "/plan")

/-- The plans that are served for a service: those of the first entry with exactly its name. -/
def ListsPlans (c : Client) (serve : Net.Url → Option Net.Response) (service : String)
    (plans : List CatalogEntry) : Prop :=
  ∃ before entry after, Page serve (c.servicesUrl service) (before ++ entry :: after) ∧
    entry.name = service ∧ (∀ e ∈ before, e.name ≠ service) ∧
    Page serve (c.plansUrl entry.id) plans

/-- No service has exactly this name, or none of its plans is meant. -/
def Unlisted (c : Client) (serve : Net.Url → Option Net.Response) (service : String)
    (meant : CatalogEntry → Prop) : Prop :=
  (∃ services, Page serve (c.servicesUrl service) services ∧ ∀ e ∈ services, e.name ≠ service) ∨
    ∃ plans, c.ListsPlans serve service plans ∧ ∀ plan ∈ plans, ¬ meant plan

/-- The requests of a lookup have URLs, and pages are served there. -/
structure Answered (c : Client) (serve : Net.Url → Option Net.Response) (service : String) :
    Prop where
  services : ∃ page, Page serve (c.servicesUrl service) page
  plans : ∀ id, ∃ page, Page serve (c.plansUrl id) page

theorem Page.unique {page' : List CatalogEntry} (h : Page serve url page)
    (h' : Page serve url page') : page = page' := by
  obtain ⟨target, response, rfl, hserve, -, hread⟩ := h
  obtain ⟨_, _, ⟨⟩, hserve', -, hread'⟩ := h'
  cases hserve.symm.trans hserve'
  exact Option.some.inj (hread.symm.trans hread')

/-- At a base URL, all requests of lookups have URLs. -/
theorem answered_of_base (h : Net.Url.Base c.endpoints.catalog)
    (hserve : ∀ url, ∃ page, Page serve (some url) page) : c.Answered serve service where
  services := by
    obtain ⟨url, hurl⟩ := h.parses
    rw [servicesUrl, hurl]
    exact hserve _
  plans id := by
    obtain ⟨secure, authority, lead, hparse⟩ := Net.Url.parse_extended h
    have hrelevant : Net.Url.relevant (c.endpoints.catalog ++ "/" ++ id ++ "/plan") =
        c.endpoints.catalog.toList ++ '/' :: Net.Url.inner (id ++ "/plan") := by
      refine Net.Url.relevant_append (fun char hc => (h.chars char hc).1) ?_
      simp [String.toList_append]
    obtain ⟨query, hurl⟩ := hparse hrelevant
    rw [plansUrl, hurl]
    exact hserve _

/-! ## Pages that are written -/

/-- The body of a page with these entries. -/
def pageBody (entries : List CatalogEntry) : Json :=
  .object [("resources", .array (entries.map CatalogEntry.encode))]

/-- A page with these entries. -/
def pageOf (entries : List CatalogEntry) : Net.Response :=
  ⟨200, (pageBody entries).render⟩

theorem canonical_pageBody (entries : List CatalogEntry) : (pageBody entries).Canonical := by
  refine Json.canonical_of_names Json.names_single (List.pairwise_singleton _ _) ⟨?_, trivial⟩
  refine Json.canonical_array.mpr fun v hv => ?_
  obtain ⟨e, -, rfl⟩ := List.mem_map.mp hv
  exact Json.canonical_of_names Json.names_single.cons.cons (by decide)
    ⟨trivial, trivial, trivial, trivial⟩

theorem wordy_pageBody (entries : List CatalogEntry) : Json.Wordy 127 (pageBody entries) := by
  refine ⟨?_, trivial⟩
  rw [Json.Wordy]
  induction entries with
  | nil => trivial
  | cons e rest ih => exact ⟨⟨trivial, trivial, trivial, trivial⟩, ih⟩

theorem read_pageOf (entries : List CatalogEntry) :
    Json.readText CatalogEntry.decodePage (pageOf entries).body = some entries := by
  rw [pageOf, Json.readText_render CatalogEntry.record_page.alike (canonical_pageBody entries)
    (wordy_pageBody entries)]
  simp [pageBody, CatalogEntry.decodePage, -bind_pure_comp, Json.Reader.defaulted_named,
    Json.defaultedField_some, Json.list_encoded CatalogEntry.faithful.kept]

/-- Any entries can be served as a page. -/
theorem page_of_pageOf {target : Net.Url} {entries : List CatalogEntry}
    (h : serve target = some (pageOf entries)) : Page serve (some target) entries :=
  ⟨target, pageOf entries, rfl, h, rfl, read_pageOf entries⟩

/-! ## What a lookup comes to -/

/-- What a request for a page comes to. -/
def servedPage (serve : Net.Url → Option Net.Response) (what : String) :
    Option Net.Url → Except Failure (List CatalogEntry)
  | none => .error .http
  | some target => do
    let response ← receive what (serve target)
    (Json.readText CatalogEntry.decodePage response.body).elim (.error .http) .ok

/-- What is found, or that it is missing. -/
def foundOr (what : String) : Option α → Except Failure α
  | none => .error (.notFound what)
  | some a => .ok a

/-- What a request for the plans of a service comes to. -/
def servedPlans (c : Client) (serve : Net.Url → Option Net.Response) (service : String) :
    Except Failure (List CatalogEntry) := do
  let services ← servedPage serve service (c.servicesUrl service)
  let entry ← foundOr ("catalog service " ++ service) (services.find? (·.name == service))
  servedPage serve service (c.plansUrl entry.id)

/-- What a lookup of a plan comes to. -/
def servedPlan (c : Client) (serve : Net.Url → Option Net.Response) (service : String)
    (meant : CatalogEntry → Bool) (what : String) : Except Failure CatalogEntry := do
  let plans ← c.servedPlans serve service
  foundOr what (plans.find? meant)

theorem ok_bind {β : Type} (a : α) (f : α → Except Failure β) : (Except.ok a >>= f) = f a := rfl

theorem bind_eq_ok {β : Type} {result : Except Failure α} {f : α → Except Failure β} {b : β} :
    (result >>= f) = .ok b ↔ ∃ a, result = .ok a ∧ f a = .ok b := by
  cases result with
  | error e => exact ⟨nofun, fun ⟨_, h, _⟩ => nomatch h⟩
  | ok a => exact ⟨fun h => ⟨a, rfl, h⟩, fun ⟨_, h, hf⟩ => by cases h; exact hf⟩

theorem servedPage_eq_ok : servedPage serve what url = .ok page ↔ Page serve url page := by
  cases url with
  | none => exact ⟨nofun, fun ⟨_, _, h, _⟩ => nomatch h⟩
  | some target =>
    rw [servedPage, bind_eq_ok]
    constructor
    · rintro ⟨response, hreceive, hread⟩
      obtain ⟨hserve, hsuccess⟩ := receive_eq_ok.mp hreceive
      refine ⟨target, response, rfl, hserve, hsuccess, ?_⟩
      cases hbody : Json.readText CatalogEntry.decodePage response.body with
      | none =>
        rw [hbody] at hread
        cases hread
      | some found =>
        rw [hbody] at hread
        cases hread
        rfl
    · rintro ⟨_, response, ⟨⟩, hserve, hsuccess, hread⟩
      refine ⟨response, receive_eq_ok.mpr ⟨hserve, hsuccess⟩, ?_⟩
      rw [hread]
      rfl

theorem foundOr_eq_ok {o : Option α} {a : α} : foundOr what o = .ok a ↔ o = some a := by
  cases o with
  | none => exact ⟨nofun, nofun⟩
  | some b => simp [foundOr]

/-- The first service with a name is found. -/
theorem find?_service_eq_some {services : List CatalogEntry} {entry : CatalogEntry} :
    services.find? (·.name == service) = some entry ↔ entry.name = service ∧
      ∃ before after, services = before ++ entry :: after ∧ ∀ e ∈ before, e.name ≠ service := by
  simp [List.find?_eq_some_iff_append]

theorem servedPlans_eq_ok :
    c.servedPlans serve service = .ok plans ↔ c.ListsPlans serve service plans := by
  simp only [servedPlans, bind_eq_ok, servedPage_eq_ok, foundOr_eq_ok, find?_service_eq_some]
  constructor
  · rintro ⟨_, hservices, entry, ⟨hname, before, after, rfl, hbefore⟩, hplans⟩
    exact ⟨before, entry, after, hservices, hname, hbefore, hplans⟩
  · rintro ⟨before, entry, after, hservices, hname, hbefore, hplans⟩
    exact ⟨_, hservices, entry, ⟨hname, before, after, rfl, hbefore⟩, hplans⟩

theorem ListsPlans.unique {plans' : List CatalogEntry} (h : c.ListsPlans serve service plans)
    (h' : c.ListsPlans serve service plans') : plans = plans' :=
  Except.ok.inj ((servedPlans_eq_ok.mpr h).symm.trans (servedPlans_eq_ok.mpr h'))

theorem servedPlan_eq_ok {plan : CatalogEntry} :
    c.servedPlan serve service meant what = .ok plan ↔
      ∃ plans, c.ListsPlans serve service plans ∧ plans.find? meant = some plan := by
  simp only [servedPlan, bind_eq_ok, servedPlans_eq_ok, foundOr_eq_ok]

/-- A plan that is listed is the one with its id, where plans have different ids. -/
theorem find?_id {plan : CatalogEntry} (h : (plans.map (·.id)).Nodup) (hp : plan ∈ plans) :
    plans.find? (·.id == plan.id) = some plan := by
  have hsome : (plans.find? (·.id == plan.id)).isSome = true :=
    List.find?_isSome.mpr ⟨plan, hp, beq_self_eq_true _⟩
  obtain ⟨found, hfound⟩ := Option.isSome_iff_exists.mp hsome
  have hid : found.id = plan.id := by simpa using List.find?_some hfound
  rw [hfound, List.inj_on_of_nodup_map h (List.mem_of_find?_eq_some hfound) hp hid]

/-- The plan that is found by a name is the one that is found by its id. -/
theorem lookup_inverse {name : String} {plan : CatalogEntry}
    (hnodup : ∀ plans, c.ListsPlans serve service plans → (plans.map (·.id)).Nodup)
    (h : c.servedPlan serve service (·.name == name) what = .ok plan) (what' : String) :
    plan.name = name ∧ c.servedPlan serve service (·.id == plan.id) what' = .ok plan := by
  obtain ⟨plans, hplans, hfind⟩ := servedPlan_eq_ok.mp h
  have hname : plan.name = name := by simpa using List.find?_some hfind
  refine ⟨hname, servedPlan_eq_ok.mpr ⟨plans, hplans, ?_⟩⟩
  exact find?_id (hnodup plans hplans) (List.mem_of_find?_eq_some hfind)

/-- No plan is found that is not listed. -/
theorem Unlisted.servedPlan_ne_ok (h : c.Unlisted serve service (meant · = true))
    (plan : CatalogEntry) : c.servedPlan serve service meant what ≠ .ok plan := by
  intro hok
  obtain ⟨plans, hplans, hfind⟩ := servedPlan_eq_ok.mp hok
  rcases h with ⟨services, hservices, hnone⟩ | ⟨listed, hlisted, hnone⟩
  · obtain ⟨before, entry, after, hpage, hname, -⟩ := hplans
    refine hnone entry ?_ hname
    rw [hservices.unique hpage]
    exact List.mem_append_right _ List.mem_cons_self
  · rw [hplans.unique hlisted] at hfind
    exact hnone plan (List.mem_of_find?_eq_some hfind) (List.find?_some hfind)

/-- Where pages are served, plans are listed, or the service is not. -/
theorem Answered.servedPlans (h : c.Answered serve service) :
    (∃ plans, c.servedPlans serve service = .ok plans) ∨
      c.servedPlans serve service = .error (.notFound ("catalog service " ++ service)) ∧
        ∃ services, Page serve (c.servicesUrl service) services ∧
          ∀ e ∈ services, e.name ≠ service := by
  obtain ⟨services, hservices⟩ := h.services
  rw [Client.servedPlans, servedPage_eq_ok.mpr hservices, ok_bind]
  cases hfind : services.find? (·.name == service) with
  | none => exact .inr ⟨rfl, services, hservices, by simpa using hfind⟩
  | some entry =>
    obtain ⟨plans, hplans⟩ := h.plans entry.id
    exact .inl ⟨plans, servedPage_eq_ok.mpr hplans⟩

/-- Where pages are served, a plan is found, or it is missing and not listed. -/
theorem Answered.servedPlan (h : c.Answered serve service) (meant : CatalogEntry → Bool)
    (what : String) :
    (∃ plan, c.servedPlan serve service meant what = .ok plan) ∨
      (∃ missing, c.servedPlan serve service meant what = .error (.notFound missing)) ∧
        c.Unlisted serve service (meant · = true) := by
  rw [Client.servedPlan]
  rcases h.servedPlans with ⟨plans, hplans⟩ | ⟨hmissing, hunlisted⟩
  · rw [hplans, ok_bind]
    cases hfind : plans.find? meant with
    | none =>
      refine .inr ⟨⟨what, rfl⟩, .inr ⟨plans, servedPlans_eq_ok.mp hplans, ?_⟩⟩
      simpa using hfind
    | some plan => exact .inl ⟨plan, rfl⟩
  · rw [hmissing]
    exact .inr ⟨⟨_, rfl⟩, .inl hunlisted⟩

/-! ## Runs -/

/-- There is no token for a request, or none that may stand in a header. -/
def Refused (c : Client) (kept : Option Token) (log : Wire.History) (failure : Failure) : Prop :=
  (∃ left, Run (c.credential.token kept) log (.error failure, left)) ∨
    ∃ token left, Run (c.credential.token kept) log (.ok token, left) ∧
      Net.isHeaderText ("Bearer " ++ token) = false ∧ failure = .http

/-- After requests that were sent there is no token for the next one. -/
inductive Barred (c : Client) : Option Token → Wire.History → Failure → Prop where
  | refused {kept : Option Token} {log : Wire.History} {failure : Failure}
      (h : c.Refused kept log failure) : Barred c kept log failure
  | later {kept middle : Option Token} {first rest : Wire.History} {failure : Failure}
      {target : Net.Url} {answer : Option Net.Response}
      (sent : c.Sent .get target .empty kept first answer middle)
      (h : Barred c middle rest failure) : Barred c kept (first ++ rest) failure

/-- No lookup is barred where tokens are granted. -/
theorem not_barred {failure : Failure} (h : c.credential.Granted kept log) :
    ¬ c.Barred kept log failure := by
  intro hbarred
  -- over the requests that were sent, each of which leaves a usable token
  induction hbarred with
  | refused hrefused =>
    rcases hrefused with ⟨left, run⟩ | ⟨token, left, run, hheader, -⟩
    · obtain ⟨text, hout, -⟩ := h.token run
      cases hout
    · obtain ⟨text, hout, husable, -⟩ := h.token run
      cases hout
      rw [hheader] at husable
      cases husable
  | later sent _ ih =>
    obtain ⟨first, token, run, -, rfl⟩ := sent
    obtain ⟨-, -, -, hmiddle⟩ := h.left.left.token run
    exact ih (h.right hmiddle)

/-- Every run of a session with the catalog ends like this, unless there is no token for a
request. -/
def Yields (c : Client) (serve : Net.Url → Option Net.Response) (session : Session α)
    (like : Except Failure α → Prop) : Prop :=
  ∀ kept log out kept', Served serve log → Run (session kept) log (out, kept') →
    like out ∨ ∃ failure, out = .error failure ∧ c.Barred kept log failure

theorem Served.left {first rest : Wire.History} (h : Served serve (first ++ rest)) :
    Served serve first := fun request answer hx =>
  h request answer (List.mem_append_left rest hx)

theorem Served.right {first rest : Wire.History} (h : Served serve (first ++ rest)) :
    Served serve rest := fun request answer hx =>
  h request answer (List.mem_append_right first hx)

/-- A request that was sent was answered as the catalog serves. -/
theorem Sent.answer_eq {target : Net.Url} {answer : Option Net.Response}
    (h : c.Sent .get target .empty kept log answer kept') (hserved : Served serve log) :
    answer = serve target := by
  obtain ⟨first, token, -, -, rfl⟩ := h
  exact hserved (request .get target token .empty) answer
    (List.mem_append_right first List.mem_cons_self) rfl

theorem page_of_got (h : c.Got CatalogEntry.decodePage url kept log page kept')
    (hserved : Served serve log) : Page serve url page := by
  obtain ⟨target, response, hurl, hsuccess, hread, hsent⟩ := h
  exact ⟨target, response, hurl, (hsent.answer_eq hserved).symm, hsuccess, hread⟩

/-- A request for a page fails as the catalog serves, or there is no token for it. -/
theorem run_fetch_error {failure : Failure} (hserved : Served serve log)
    (run : Run (c.fetch CatalogEntry.decodePage .get url .empty what kept) log
      (.error failure, kept')) :
    servedPage serve what url = .error failure ∨ c.Refused kept log failure := by
  rw [fetch] at run
  rcases Session.run_bind.mp run with ⟨first, rest, response, middle, hfirst, hrest, rfl⟩ |
    ⟨failure, left, hfirst, hout⟩
  · obtain ⟨-, hout⟩ := Session.run_readBody.mp hrest
    rcases run_execute.mp hfirst with ⟨target, answer, rfl, hsent, hreceive⟩ | ⟨_, -, hfailure⟩
    · rw [hsent.answer_eq hserved.left] at hreceive
      rw [servedPage, ← hreceive, ok_bind]
      exact .inl (congrArg Prod.fst hout).symm
    · cases hfailure
  · cases hout
    rcases run_execute.mp hfirst with ⟨target, answer, rfl, hsent, hreceive⟩ |
      ⟨failure, hunsent, hfailure⟩
    · rw [hsent.answer_eq hserved] at hreceive
      rw [servedPage, ← hreceive]
      exact .inl rfl
    · cases hfailure
      rcases hunsent with htoken | ⟨token, htoken, rfl, rfl | hheader⟩
      · exact .inr (.inl ⟨_, htoken⟩)
      · exact .inl rfl
      · exact .inr (.inr ⟨token, _, htoken, hheader, rfl⟩)

theorem yields_ofResult (result : Except Failure α) :
    c.Yields serve (Session.ofResult result) (· = result) := by
  intro kept log out kept' hserved run
  exact .inl (congrArg Prod.fst (Session.run_ofResult.mp run).2)

/-- What follows a request for a page goes on with the page that is served. -/
theorem yields_fetch_bind {f : List CatalogEntry → Session α}
    {g : List CatalogEntry → Except Failure α} (h : ∀ page, c.Yields serve (f page) (· = g page)) :
    c.Yields serve (c.fetch CatalogEntry.decodePage .get url .empty what >>= f)
      (· = servedPage serve what url >>= g) := by
  intro kept log out kept' hserved run
  rcases Session.run_bind.mp run with ⟨first, rest, page, middle, hfirst, hrest, rfl⟩ |
    ⟨failure, left, hfirst, hout⟩
  · have hgot := run_fetch_ok.mp hfirst
    rw [servedPage_eq_ok.mpr (page_of_got hgot hserved.left), ok_bind]
    obtain ⟨target, response, -, -, -, hsent⟩ := hgot
    rcases h page middle rest out kept' hserved.right hrest with hresult | ⟨failure, hout, hbarred⟩
    · exact .inl hresult
    · exact .inr ⟨failure, hout, .later hsent hbarred⟩
  · cases hout
    rcases run_fetch_error hserved hfirst with hserve | hrefused
    · rw [hserve]
      exact .inl rfl
    · exact .inr ⟨failure, rfl, .refused hrefused⟩

/-- What follows a lookup of the plans of a service goes on with the plans that are served. -/
theorem yields_servicePlans_bind {f : List CatalogEntry → Session α}
    {g : List CatalogEntry → Except Failure α}
    (h : ∀ plans, c.Yields serve (f plans) (· = g plans)) :
    c.Yields serve (c.servicePlans service >>= f) (· = c.servedPlans serve service >>= g) := by
  rw [servicePlans, Session.bind_assoc, servedPlans, LawfulMonad.bind_assoc]
  refine yields_fetch_bind fun services => ?_
  cases services.find? (·.name == service) with
  | none => exact yields_ofResult _
  | some entry => exact yields_fetch_bind h

/-- A lookup of a plan comes to something of the first one that is meant. -/
theorem yields_lookup (meant : CatalogEntry → Bool) (what : String)
    (value : CatalogEntry → String) :
    c.Yields serve
      (c.servicePlans service >>= fun plans => match plans.find? meant with
        | some plan => pure (value plan)
        | none => Session.fail (.notFound what))
      (· = (c.servedPlan serve service meant what).map value) := by
  have hmap : (c.servedPlan serve service meant what).map value =
      c.servedPlans serve service >>= fun plans =>
        (foundOr what (plans.find? meant)).map value := by
    rw [servedPlan]
    cases c.servedPlans serve service <;> rfl
  rw [hmap]
  refine yields_servicePlans_bind fun plans => ?_
  cases plans.find? meant with
  | none => exact yields_ofResult _
  | some plan => exact yields_ofResult _

theorem yields_planId (name : String) :
    c.Yields serve (c.perform (.catalog (.planId service name)))
      (· = (c.servedPlan serve service (·.name == name)
        ("plan " ++ name ++ " of " ++ service)).map (·.id)) :=
  yields_lookup _ _ _

theorem yields_planName (id : String) :
    c.Yields serve (c.perform (.catalog (.planName service id)))
      (· = (c.servedPlan serve service (·.id == id)
        ("plan " ++ id ++ " of " ++ service)).map (·.name)) :=
  yields_lookup _ _ _

/-! ## Lookups that undo each other -/

theorem Yields.mono {session : Session α} {like like' : Except Failure α → Prop}
    (h : c.Yields serve session like) (himp : ∀ out, like out → like' out) :
    c.Yields serve session like' := fun kept log out kept' hserved run =>
  (h kept log out kept' hserved run).imp_left (himp out)

/-- A lookup fails exactly where something is not listed, and says that it is missing. -/
def MissingIff (unlisted : Prop) (out : Except Failure α) : Prop :=
  ((∃ failure, out = .error failure) ↔ unlisted) ∧
    ∀ failure, out = .error failure → ∃ what, failure = .notFound what

theorem missingIff_lookup (h : c.Answered serve service) (meant : CatalogEntry → Bool)
    (what : String) (value : CatalogEntry → α) :
    MissingIff (c.Unlisted serve service (meant · = true))
      ((c.servedPlan serve service meant what).map value) := by
  rcases h.servedPlan meant what with ⟨plan, hplan⟩ | ⟨⟨missing, hmissing⟩, hunlisted⟩
  · rw [hplan]
    refine ⟨⟨nofun, fun hunlisted => ?_⟩, nofun⟩
    exact absurd hplan (hunlisted.servedPlan_ne_ok plan)
  · rw [hmissing]
    refine ⟨⟨fun _ => hunlisted, fun _ => ⟨_, rfl⟩⟩, ?_⟩
    rintro _ ⟨⟩
    exact ⟨missing, rfl⟩

/-- The id that a lookup by name comes to is looked up to that name. -/
theorem planName_of_planId {name id : String}
    (hnodup : ∀ plans, c.ListsPlans serve service plans → (plans.map (·.id)).Nodup)
    (hserved : Served serve log)
    (run : Run (c.perform (.catalog (.planId service name)) kept) log (.ok id, kept')) :
    c.Yields serve (c.perform (.catalog (.planName service id))) (· = .ok name) := by
  rcases yields_planId name kept log _ kept' hserved run with hid | ⟨failure, hout, -⟩
  · cases hplan : c.servedPlan serve service (·.name == name)
      ("plan " ++ name ++ " of " ++ service) with
    | error failure =>
      rw [hplan] at hid
      cases hid
    | ok plan =>
      rw [hplan] at hid
      obtain rfl : id = plan.id := Except.ok.inj hid
      obtain ⟨hname, hfound⟩ :=
        lookup_inverse hnodup hplan ("plan " ++ plan.id ++ " of " ++ service)
      refine (yields_planName plan.id).mono ?_
      rintro _ rfl
      rw [hfound, ← hname]
      rfl
  · cases hout

/-- **Lookups of plans.** For a catalog whose answers do not change: where the plans that it lists
for a service have different ids, the id that a lookup by name succeeds with is looked up to that
name. Where it answers all requests of lookups with pages, each lookup fails exactly where the
service or a plan with that name or id is not listed, and says that it is missing. This is how every
run ends, unless there is no token for a request of it, and there are tokens where they are
granted. -/
theorem plan_lookups_inverse (c : Client) (serve : Net.Url → Option Net.Response)
    (service : String) :
    ((∀ plans, c.ListsPlans serve service plans → (plans.map (·.id)).Nodup) →
      ∀ name id kept log kept', Served serve log →
        Run (c.perform (.catalog (.planId service name)) kept) log (.ok id, kept') →
          c.Yields serve (c.perform (.catalog (.planName service id))) (· = .ok name)) ∧
    (c.Answered serve service →
      (∀ name, c.Yields serve (c.perform (.catalog (.planId service name)))
        (MissingIff (c.Unlisted serve service (·.name = name)))) ∧
      ∀ id, c.Yields serve (c.perform (.catalog (.planName service id)))
        (MissingIff (c.Unlisted serve service (·.id = id)))) ∧
    ∀ kept log failure, c.credential.Granted kept log → ¬ c.Barred kept log failure := by
  refine ⟨fun hnodup name id kept log kept' hserved run => planName_of_planId hnodup hserved run,
    fun h => ⟨fun name => ?_, fun id => ?_⟩, fun kept log failure h => not_barred h⟩
  · refine (yields_planId name).mono ?_
    rintro _ rfl
    simpa using missingIff_lookup h (·.name == name) _ (·.id)
  · refine (yields_planName id).mono ?_
    rintro _ rfl
    simpa using missingIff_lookup h (·.id == id) _ (·.name)

/-- Services, two of them with one name. -/
def twinServices : List CatalogEntry :=
  [⟨"s-0", "kafka-lite", "service"⟩, ⟨"s-1", "kafka", "service"⟩, ⟨"s-2", "kafka", "service"⟩]

/-- Plans, two of them with one name. -/
def twinPlans : List CatalogEntry :=
  [⟨"p-0", "lite", "plan"⟩, ⟨"p-1", "standard", "plan"⟩, ⟨"p-2", "standard", "plan"⟩]

/-- A catalog that lists these services where there is a query, and these plans elsewhere. -/
def twinCatalog (url : Net.Url) : Option Net.Response :=
  some (pageOf (if url.query.isSome then twinServices else twinPlans))

/-- Where a client looks up the services. -/
def kafkaUrl : Net.Url := ⟨false, "gc", [""], some "q=name%3Akafka&complete=false"⟩

/-- Where a client looks up the plans. -/
def kafkaPlansUrl : Net.Url := ⟨false, "gc", ["s-1", "plan"], none⟩

/-- The exchanges of a lookup with `twinCatalog`. -/
def twinLookup : Wire.History :=
  [⟨.clock, (0 : Int)⟩,
    ⟨.exchange (request .get kafkaUrl "tok" .empty), some (pageOf twinServices)⟩,
    ⟨.clock, (0 : Int)⟩,
    ⟨.exchange (request .get kafkaPlansUrl "tok" .empty), some (pageOf twinPlans)⟩]

/-- Of two plans with one name, the one that is found by it is found by its id, in every run for
which there are tokens. A name that no plan has is missing. -/
theorem twinPlans_found :
    Run (sampleClient.perform (.catalog (.planId "kafka" "standard")) (some ⟨"tok", 1000⟩))
      twinLookup (.ok "p-1", some ⟨"tok", 1000⟩) ∧
    Run (sampleClient.perform (.catalog (.planName "kafka" "p-1")) (some ⟨"tok", 1000⟩))
      twinLookup (.ok "standard", some ⟨"tok", 1000⟩) ∧
    sampleClient.credential.Granted (some ⟨"tok", 1000⟩) twinLookup ∧
    (∀ kept log out kept', Served twinCatalog log → sampleClient.credential.Granted kept log →
      Run (sampleClient.perform (.catalog (.planName "kafka" "p-1")) kept) log (out, kept') →
        out = .ok "standard") ∧
    (∀ kept log out kept', Served twinCatalog log → sampleClient.credential.Granted kept log →
      Run (sampleClient.perform (.catalog (.planId "kafka" "premium")) kept) log (out, kept') →
        ∃ what, out = .error (.notFound what)) := by
  have hparse : sampleClient.servicesUrl "kafka" = some kafkaUrl := by decide +kernel
  have hparse' : sampleClient.plansUrl "s-1" = some kafkaPlansUrl := by decide +kernel
  have hlists : sampleClient.ListsPlans twinCatalog "kafka" twinPlans := by
    refine ⟨twinServices.take 1, ⟨"s-1", "kafka", "service"⟩, twinServices.drop 2, ?_, rfl,
      by decide, ?_⟩
    · rw [hparse]
      exact page_of_pageOf rfl
    · rw [hparse']
      exact page_of_pageOf rfl
  have htoken : Run (sampleClient.credential.token (some ⟨"tok", 1000⟩)) [⟨.clock, (0 : Int)⟩]
      (.ok "tok", some ⟨"tok", 1000⟩) := .ask (I := Wire) _ _ (.done _)
  have hplans : Run (sampleClient.servicePlans "kafka" (some ⟨"tok", 1000⟩)) twinLookup
      (.ok twinPlans, some ⟨"tok", 1000⟩) := by
    refine Session.run_bind.mpr (.inl ⟨twinLookup.take 2, twinLookup.drop 2, twinServices,
      some ⟨"tok", 1000⟩, run_fetch_ok.mpr ?_, run_fetch_ok.mpr ?_, rfl⟩)
    · exact ⟨kafkaUrl, _, hparse, rfl, read_pageOf _, [_], "tok", htoken, by decide +kernel, rfl⟩
    · exact ⟨kafkaPlansUrl, _, hparse', rfl, read_pageOf _, [_], "tok", htoken, by decide +kernel, rfl⟩
  have hserved : Served twinCatalog twinLookup := by
    rintro sent answer hx -
    simp only [twinLookup, List.mem_cons, List.not_mem_nil, or_false] at hx
    rcases hx with hx | hx | hx | hx <;> cases hx
    · rfl
    · rfl
  have hgranted : sampleClient.credential.Granted (some ⟨"tok", 1000⟩) twinLookup := by
    refine ⟨Option.isSome_iff_exists.mp (by decide +kernel), ?_, ?_⟩
    · rintro _ ⟨⟩
      show Net.isHeaderText _ = true
      decide +kernel
    · -- the requests of the lookup are not the one for a token
      intro sent answer hsent hx
      simp only [twinLookup, List.mem_cons, List.not_mem_nil, or_false] at hx
      rcases hx with hx | hx | hx | hx <;> cases hx
      · exact absurd hsent (by decide +kernel)
      · exact absurd hsent (by decide +kernel)
  have hanswered : sampleClient.Answered twinCatalog "kafka" := by
    have base : Net.Url.Base sampleClient.endpoints.catalog :=
      ⟨⟨⟨false, "gc", [""], none⟩, by decide +kernel⟩, Net.Url.forall_inner (by decide +kernel)⟩
    exact answered_of_base base fun url => ⟨_, page_of_pageOf rfl⟩
  have run : Run (sampleClient.perform (.catalog (.planId "kafka" "standard"))
      (some ⟨"tok", 1000⟩)) twinLookup (.ok "p-1", some ⟨"tok", 1000⟩) :=
    Session.run_bind.mpr (.inl ⟨twinLookup, [], twinPlans, _, hplans, .done _, by simp⟩)
  obtain ⟨hinverse, hmissing, hbarred⟩ := plan_lookups_inverse sampleClient twinCatalog "kafka"
  refine ⟨run, ?_, hgranted, ?_, ?_⟩
  · exact Session.run_bind.mpr (.inl ⟨twinLookup, [], twinPlans, _, hplans, .done _, by simp⟩)
  · intro kept log out kept' hlog htokens hrun
    have hnodup : ∀ plans, sampleClient.ListsPlans twinCatalog "kafka" plans →
        (plans.map (·.id)).Nodup := by
      intro plans h
      rw [h.unique hlists]
      decide
    rcases hinverse hnodup _ _ _ _ _ hserved run kept log out kept' hlog hrun with hout |
      ⟨failure, -, h⟩
    · exact hout
    · exact absurd h (hbarred _ _ _ htokens)
  · intro kept log out kept' hlog htokens hrun
    rcases (hmissing hanswered).1 _ kept log out kept' hlog hrun with hout | ⟨failure, -, h⟩
    · obtain ⟨failure, rfl⟩ := hout.1.mpr (.inr ⟨twinPlans, hlists, by decide⟩)
      obtain ⟨what, rfl⟩ := hout.2 failure rfl
      exact ⟨what, rfl⟩
    · exact absurd h (hbarred _ _ _ htokens)

end Client

end ResourceOperator.Cloud
