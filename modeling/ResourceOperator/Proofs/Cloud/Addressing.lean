import ResourceOperator.Proofs.Cloud.Session
import ResourceOperator.Proofs.Net.Url

/-!
# What a call by id addresses

The calls that get, update and delete an object name it by an id, and put the id as it is at the end
of a URL (`Subject`). A run of such a call asks for a token and then sends one request to that URL;
the lookup of an instance goes on with a request for its tags. Whether the request reaches the
object depends on the id: it is not encoded, so a part of it that has a meaning of its own in a URL
is read as such. The identifiers of the cloud hold slashes.

Results:
* `sendsTo_subject`: a call by id is one request to the URL of its object, and then no other one
  unless an instance is looked up.
* `addressed_by_id_iff`: the path of the request of every run is that of the collection and one
  segment more, which decodes to the id, exactly where the id is plain.
* `crn_misaddressed`: a lookup by an identifier with a slash is sent to another path.
-/

namespace ResourceOperator.Cloud.Client

open Dialogue Net

/-- What a call by id is about: where its API is, the collection there, and the id. -/
structure Subject where
  root : String
  collection : String
  id : String

/-- What a call is about, when it names an object by id. -/
def subject? (c : Client) : Call → Option Subject
  | .network (.getVpc id) => some ⟨c.endpoints.network, "/vpcs", id⟩
  | .network (.updateVpc id _) => some ⟨c.endpoints.network, "/vpcs", id⟩
  | .network (.deleteVpc id) => some ⟨c.endpoints.network, "/vpcs", id⟩
  | .network (.getSubnet id) => some ⟨c.endpoints.network, "/subnets", id⟩
  | .network (.updateSubnet id _) => some ⟨c.endpoints.network, "/subnets", id⟩
  | .network (.deleteSubnet id) => some ⟨c.endpoints.network, "/subnets", id⟩
  | .controller (.getInstance id) => some ⟨c.endpoints.controller, "/v2/resource_instances", id⟩
  | .controller (.updateInstance id _) => some ⟨c.endpoints.controller, "/v2/resource_instances", id⟩
  | .controller (.deleteInstance id _) => some ⟨c.endpoints.controller, "/v2/resource_instances", id⟩
  | .controller (.getKey id) => some ⟨c.endpoints.controller, "/v2/resource_keys", id⟩
  | .controller (.updateKey id _) => some ⟨c.endpoints.controller, "/v2/resource_keys", id⟩
  | .controller (.deleteKey id) => some ⟨c.endpoints.controller, "/v2/resource_keys", id⟩
  | .events (.getTopic base name) => some ⟨Text.dropTrailing '/' base, "/admin/topics", name⟩
  | .events (.updateTopic base name _) => some ⟨Text.dropTrailing '/' base, "/admin/topics", name⟩
  | .events (.deleteTopic base name) => some ⟨Text.dropTrailing '/' base, "/admin/topics", name⟩
  | _ => none

/-- The API of a call is at a base URL. -/
def Rooted (c : Client) : Call → Prop
  | .network _ => Url.Base c.endpoints.network
  | .controller _ => Url.Base c.endpoints.controller
  | .events (.getTopic base _) => Url.Base base
  | .events (.createTopic base _) => Url.Base base
  | .events (.updateTopic base _ _) => Url.Base base
  | .events (.deleteTopic base _) => Url.Base base
  | .catalog _ => Url.Base c.endpoints.catalog

/-- The call looks up an instance, for which its tags are requested as well. -/
def LooksUpInstance (call : Call) : Prop :=
  ∃ id, call = .controller (.getInstance id)

/-- The text of the URL of an object. -/
def Subject.url (s : Subject) : String :=
  s.root ++ s.collection ++ "/" ++ s.id

/-! ## One request to the URL of the object -/

variable {c : Client} {call : Call} {s : Subject} {text : String} {url : Option Url}
  {last : Prop} {α : Type}

/-- A URL was read from a text, and no more than its query changed. -/
def ReadFrom (text : String) (url : Option Url) : Prop :=
  ∃ query : Url → Option String, url = (Url.parse? text).map fun u => { u with query := query u }

theorem readFrom_parse (text : String) : ReadFrom text (Url.parse? text) :=
  ⟨Url.query, (congrFun Option.map_id _).symm⟩

theorem readFrom_withQuery (pairs : List (String × String)) (text : String) :
    ReadFrom text ((Url.parse? text).map (Url.withQuery pairs)) := ⟨_, rfl⟩

/-- A session that starts with a request to where a text is read as a URL. After its response it
exchanges nothing more where this is the `last` request. -/
def SendsTo (c : Client) (text : String) (last : Prop) (session : Session α) : Prop :=
  ∃ method url content what, ∃ next : Response → Session α, ReadFrom text url ∧
    session = c.execute method url content what >>= next ∧
    (last → ∀ response kept log out, Run (next response kept) log out → log = [])

theorem sendsTo_fetch (hu : ReadFrom text url) (decode : Json.Draft → Option α) (method : Net.Method)
    (content : Content) (what : String) :
    c.SendsTo text last (c.fetch decode method url content what) := by
  refine ⟨method, url, content, what, _, hu, rfl, fun _ response kept log out run => ?_⟩
  exact (Session.run_readBody.mp run).1

theorem sendsTo_tell (hu : ReadFrom text url) (method : Net.Method) (content : Content)
    (what : String) : c.SendsTo text last (c.tell method url content what) := by
  refine ⟨method, url, content, what, _, hu, rfl, fun _ response kept log out run => ?_⟩
  exact (Session.run_pure.mp run).1

/-- A lookup of an instance starts with the request for it, and there is another one. -/
theorem sendsTo_getInstance {id : String} (hu : ReadFrom text (c.controllerUrl (instancePath id)))
    (h : ¬ last) : c.SendsTo text last (c.getInstance id) :=
  ⟨.get, _, .empty, id, _, hu, Session.bind_assoc _ _ _, fun hl => absurd hl h⟩

/-- A path that starts with the one of a collection. -/
theorem url_eq {path collection : String} (h : path = collection ++ "/") (root id : String) :
    Subject.url ⟨root, collection, id⟩ = root ++ (path ++ id) := by
  simp only [Subject.url, h, String.append_assoc]

theorem readFrom_network {path collection : String} (h : path = collection ++ "/") (id : String) :
    ReadFrom (Subject.url ⟨c.endpoints.network, collection, id⟩) (c.networkUrl (path ++ id)) :=
  url_eq h _ id ▸ readFrom_withQuery _ _

theorem readFrom_controller {path collection : String} (h : path = collection ++ "/") (id : String) :
    ReadFrom (Subject.url ⟨c.endpoints.controller, collection, id⟩)
      (c.controllerUrl (path ++ id)) :=
  url_eq h _ id ▸ readFrom_parse _

theorem readFrom_admin {path collection : String} (h : path = collection ++ "/")
    (base id : String) :
    ReadFrom (Subject.url ⟨Text.dropTrailing '/' base, collection, id⟩)
      (adminUrl base (path ++ id)) :=
  url_eq h _ id ▸ readFrom_parse _

theorem sendsTo_network {call : NetworkCall} (hs : c.subject? (.network call) = some s) :
    c.SendsTo s.url last (c.network call) := by
  have vpcs : "/vpcs/" = "/vpcs" ++ "/" := by decide +kernel
  have subnets : "/subnets/" = "/subnets" ++ "/" := by decide +kernel
  cases call with
  | getVpc id =>
    cases hs
    exact sendsTo_fetch (readFrom_network vpcs id) _ _ _ _
  | updateVpc id patch =>
    cases hs
    exact sendsTo_fetch (readFrom_network vpcs id) _ _ _ _
  | deleteVpc id =>
    cases hs
    exact sendsTo_tell (readFrom_network vpcs id) _ _ _
  | getSubnet id =>
    cases hs
    exact sendsTo_fetch (readFrom_network subnets id) _ _ _ _
  | updateSubnet id patch =>
    cases hs
    exact sendsTo_fetch (readFrom_network subnets id) _ _ _ _
  | deleteSubnet id =>
    cases hs
    exact sendsTo_tell (readFrom_network subnets id) _ _ _
  | createVpc request => cases hs
  | createSubnet request => cases hs

theorem sendsTo_controller {call : ControllerCall} (hs : c.subject? (.controller call) = some s)
    (hl : last → ¬ LooksUpInstance (.controller call)) :
    c.SendsTo s.url last (c.controller call) := by
  have instances : "/v2/resource_instances/" = "/v2/resource_instances" ++ "/" := by decide +kernel
  have keys : "/v2/resource_keys/" = "/v2/resource_keys" ++ "/" := by decide +kernel
  cases call with
  | getInstance id =>
    cases hs
    exact sendsTo_getInstance (readFrom_controller instances id) fun h => hl h ⟨id, rfl⟩
  | updateInstance id patch =>
    cases hs
    exact sendsTo_fetch (readFrom_controller instances id) _ _ _ _
  | deleteInstance id recursive =>
    cases hs
    exact sendsTo_tell (url_eq instances _ id ▸ readFrom_withQuery _ _) _ _ _
  | getKey id =>
    cases hs
    exact sendsTo_fetch (readFrom_controller keys id) _ _ _ _
  | updateKey id patch =>
    cases hs
    exact sendsTo_fetch (readFrom_controller keys id) _ _ _ _
  | deleteKey id =>
    cases hs
    exact sendsTo_tell (readFrom_controller keys id) _ _ _
  | createInstance request => cases hs
  | attachTags crn tags => cases hs
  | detachTags crn tags => cases hs
  | createKey request => cases hs

theorem sendsTo_events {call : EventsCall} (hs : c.subject? (.events call) = some s) :
    c.SendsTo s.url last (c.events call) := by
  have topics : "/admin/topics/" = "/admin/topics" ++ "/" := by decide +kernel
  cases call with
  | getTopic base name =>
    cases hs
    exact sendsTo_fetch (readFrom_admin topics base name) _ _ _ _
  | updateTopic base name patch =>
    cases hs
    exact sendsTo_tell (readFrom_admin topics base name) _ _ _
  | deleteTopic base name =>
    cases hs
    exact sendsTo_tell (readFrom_admin topics base name) _ _ _
  | createTopic base request => cases hs

/-- A call by id is one request to the URL of its object, and then no other one unless an instance
is looked up. -/
theorem sendsTo_subject (hs : c.subject? call = some s) :
    c.SendsTo s.url (¬ LooksUpInstance call) (c.perform call) := by
  cases call with
  | network call => exact sendsTo_network hs
  | controller call => exact sendsTo_controller hs fun h => h
  | catalog call => cases hs
  | events call => exact sendsTo_events hs

/-! ## Where the request goes -/

/-- Every object is in a collection below a base URL. -/
theorem base_of_subject (hs : c.subject? call = some s) (hb : c.Rooted call) :
    Url.Base s.root ∧ Url.Collection s.collection := by
  have vpcs : Url.Collection "/vpcs" :=
    ⟨Url.forall_inner (by decide +kernel), "vpcs".toList, [], "vpcs".toList, by decide +kernel⟩
  have subnets : Url.Collection "/subnets" :=
    ⟨Url.forall_inner (by decide +kernel), "subnets".toList, [], "subnets".toList,
      by decide +kernel⟩
  have instances : Url.Collection "/v2/resource_instances" :=
    ⟨Url.forall_inner (by decide +kernel), "v2/resource_instances".toList, ["v2".toList],
      "resource_instances".toList, by decide +kernel⟩
  have keys : Url.Collection "/v2/resource_keys" :=
    ⟨Url.forall_inner (by decide +kernel), "v2/resource_keys".toList, ["v2".toList],
      "resource_keys".toList, by decide +kernel⟩
  have topics : Url.Collection "/admin/topics" :=
    ⟨Url.forall_inner (by decide +kernel), "admin/topics".toList, ["admin".toList], "topics".toList,
      by decide +kernel⟩
  cases call with
  | network call => cases call <;> cases hs <;> exact ⟨hb, by assumption⟩
  | controller call => cases call <;> cases hs <;> exact ⟨hb, by assumption⟩
  | catalog call => cases hs
  | events call => cases call <;> cases hs <;> exact ⟨Url.Base.dropTrailing hb, topics⟩

/-- A run sends a request to a URL, with any query, once there is a token. -/
def Requests (c : Client) (target : Url) (last : Prop) (kept : Option Token)
    (log : Wire.History) : Prop :=
  ∃ query method content first rest answer middle, log = first ++ rest ∧
    c.Sent method { target with query := query } content kept first answer middle ∧
    (last → rest = [])

/-- A run of a session that starts with a request sends it where its text is read, or asks for no
more than a token. -/
theorem SendsTo.run {session : Session α} (h : c.SendsTo text last session) {target : Url}
    (ht : Url.parse? text = some target) {kept : Option Token} {log : Wire.History}
    {out : Except Failure α × Option Token} (run : Run (session kept) log out) :
    (∀ x ∈ log, c.credential.Asks x.question) ∨ c.Requests target last kept log := by
  obtain ⟨method, url, content, what, next, ⟨query, hu⟩, rfl, hrest⟩ := h
  rw [ht] at hu
  rcases Session.run_bind.mp run with ⟨first, rest, response, middle, hfirst, hnext, rfl⟩ |
    ⟨failure, left, hfirst, -⟩
  · rcases run_execute.mp hfirst with ⟨_, answer, hurl, hsent, -⟩ | ⟨failure, -, hfailure⟩
    · obtain rfl := Option.some.inj (hu.symm.trans hurl)
      exact .inr ⟨_, method, content, first, rest, answer, middle, rfl, hsent,
        fun hl => hrest hl response middle rest out hnext⟩
    · cases hfailure
  · rcases run_execute.mp hfirst with ⟨_, answer, hurl, hsent, -⟩ | ⟨failure, hunsent, -⟩
    · obtain rfl := Option.some.inj (hu.symm.trans hurl)
      exact .inr ⟨_, method, content, log, [], answer, left, (List.append_nil log).symm, hsent,
        fun _ => rfl⟩
    · exact .inl hunsent.asks

/-- **What a call by id addresses.** For every client, every call that gets, updates or deletes an
object by an id that is not empty, and every run of it: where it asks for more than a token, it
sends a request to the host of the collection, and no other one unless an instance is looked up. The
path of the request is the path of the collection and one segment more, which decodes to the id,
exactly where the id is plain. -/
theorem addressed_by_id_iff (c : Client) {call : Call} {s : Subject}
    (hs : c.subject? call = some s) (hb : c.Rooted call) (hid : s.id ≠ "") :
    ∃ collection target, Url.parse? (s.root ++ s.collection) = some collection ∧
      (∀ kept log out, Run (c.perform call kept) log out →
        (∀ x ∈ log, c.credential.Asks x.question) ∨
          c.Requests target (¬ LooksUpInstance call) kept log) ∧
      target.secure = collection.secure ∧ target.authority = collection.authority ∧
      ((∃ segment, target.path = collection.path ++ [segment] ∧ Percent.decode segment = s.id) ↔
        Url.Plain s.id) := by
  obtain ⟨hroot, hcollection⟩ := base_of_subject hs hb
  obtain ⟨collection, target, hc, ht, hsecure, hauthority, hpath⟩ :=
    Url.addressed_iff hroot hcollection hid
  refine ⟨collection, target, hc, fun kept log out run => ?_, hsecure, hauthority, hpath⟩
  exact (sendsTo_subject hs).run ht run

/-- The client for the public APIs. -/
def publicClient : Client :=
  ⟨⟨"https://iam.cloud.ibm.com/identity/token", "key"⟩, Endpoints.ofRegion "us-south"⟩

/-- The identifier of an instance, which names the account after a slash. -/
def instanceCrn : String := "crn:v1:bluemix:public:messagehub:us-south:a/123:guid-1::"

/-- What is exchanged where an instance is looked up by `instanceCrn` and there is no answer. -/
def crnLookup : Wire.History :=
  [⟨.clock, (0 : Int)⟩,
    ⟨.exchange (request .get ⟨true, "resource-controller.cloud.ibm.com", ["v2",
      "resource_instances", "crn:v1:bluemix:public:messagehub:us-south:a", "123:guid-1::"], none⟩
      "tok" .empty), none⟩]

/-- The lookup of an instance by its identifier. -/
def lookupByCrn : Call :=
  .controller (.getInstance instanceCrn)

/-- A lookup by an identifier with a slash is sent, but not to one segment below the instances. -/
theorem crn_misaddressed :
    ∃ collection target out,
      Url.parse? (publicClient.endpoints.controller ++ "/v2/resource_instances") =
        some collection ∧
      Run (publicClient.perform lookupByCrn (some ⟨"tok", 1000⟩)) crnLookup out ∧
      publicClient.Requests target (¬ LooksUpInstance lookupByCrn) (some ⟨"tok", 1000⟩) crnLookup ∧
      ¬ ∃ segment, target.path = collection.path ++ [segment] ∧
        Percent.decode segment = instanceCrn := by
  have htoken : Run (publicClient.credential.token (some ⟨"tok", 1000⟩)) [⟨.clock, (0 : Int)⟩]
      (.ok "tok", some ⟨"tok", 1000⟩) := .ask (I := Wire) _ _ (.done _)
  have hsent : publicClient.Sent .get _ .empty (some ⟨"tok", 1000⟩) crnLookup none
      (some ⟨"tok", 1000⟩) := ⟨[_], "tok", htoken, by decide +kernel, rfl⟩
  have run : Run (publicClient.perform lookupByCrn (some ⟨"tok", 1000⟩)) crnLookup
      (.error .http, some ⟨"tok", 1000⟩) := by
    refine Session.run_bind.mpr (.inr ⟨_, _, Session.run_bind.mpr (.inr ⟨_, _, ?_, rfl⟩), rfl⟩)
    exact run_execute.mpr (.inl ⟨_, none, by decide +kernel, hsent, rfl⟩)
  have base : publicClient.Rooted lookupByCrn :=
    ⟨⟨⟨true, "resource-controller.cloud.ibm.com", [""], none⟩, by decide +kernel⟩,
      Url.forall_inner (by decide +kernel)⟩
  obtain ⟨collection, target, hc, hruns, -, -, hpath⟩ :=
    addressed_by_id_iff publicClient rfl base (by decide +kernel)
  refine ⟨collection, target, _, hc, run, ?_, fun h => ?_⟩
  · rcases hruns _ _ _ run with htoken | hrequests
    · -- the request of the lookup is not the one for a token
      have hasks : publicClient.credential.request? = some _ :=
        htoken _ (List.mem_cons_of_mem _ List.mem_cons_self)
      exact absurd hasks (by decide +kernel)
    · exact hrequests
  · have hslash := ((hpath.mp h).chars '/' (by decide +kernel)).1
    cases hslash

end ResourceOperator.Cloud.Client
