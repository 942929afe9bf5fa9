import ResourceOperator.Cloud.Authorization
import ResourceOperator.Cloud.Call
import ResourceOperator.Cloud.Catalog
import ResourceOperator.Text.Search

/-!
# Calls to the cloud over HTTP

Each call is one or more requests with a bearer token. A response with code 404 means that what was
asked for does not exist; any other response that is no success is a failure of the API.
`Client.perform` carries out any call.

Model of `CloudClient`: `execute`, `fetch`, `list_tags` (`tags`), `change_tags`, `service_plans` and
the methods of the four APIs, with the URLs of `vpc_request` (`networkUrl`) and the base URLs of
`for_region` (`Endpoints.ofRegion`).
-/

namespace ResourceOperator.Cloud

open Json.Reader

/-- The base URLs of the APIs. -/
structure Endpoints where
  network : String
  controller : String
  manager : String
  catalog : String
  tagging : String
  deriving DecidableEq, Repr

/-- The public base URLs for a region. -/
def Endpoints.ofRegion (region : String) : Endpoints :=
  { network := "https://" ++ region ++ ".iaas.cloud.ibm.com/v1"
    controller := "https://resource-controller.cloud.ibm.com"
    manager := "https://resource-controller.cloud.ibm.com"
    catalog := "https://globalcatalog.cloud.ibm.com/api/v1"
    tagging := "https://tags.global-search-tagging.cloud.ibm.com" }

/-- A client: the key it authorizes itself with, and where the APIs are. -/
structure Client where
  credential : Credential
  endpoints : Endpoints
  deriving DecidableEq, Repr

/-- What a request carries besides its target. -/
structure Content where
  type : Option String
  body : Option String

/-- No content. -/
def Content.empty : Content :=
  ⟨none, none⟩

/-- A document. -/
def Content.json (v : Json) : Content :=
  ⟨some Net.jsonType, some v.render⟩

/-- A merge patch. -/
def Content.mergePatch (patch : Patch) : Content :=
  ⟨some Net.mergePatchType, some (Json.object patch).render⟩

/-- A document of members to change. -/
def Content.members (patch : Patch) : Content :=
  Content.json (.object patch)

namespace Client

/-- The version of the network API, sent with every request to it. -/
def networkVersion : String := "2024-04-30"

/-- Sends a request and gives a successful response. `what` names what is asked for. -/
def execute (c : Client) (method : Net.Method) (url : Option Net.Url) (content : Content)
    (what : String) : Session Net.Response := do
  let token ← c.credential.token
  let bearer := "Bearer " ++ token
  match url with
  | none => Session.fail .http
  | some url =>
    if !Net.isHeaderText bearer then Session.fail .http
    else
      let response ← Session.send
        ⟨method, url, some Net.jsonType, some bearer, content.type, content.body⟩
      if response.status = 404 then Session.fail (.notFound what)
      else if !response.isSuccess then Session.fail (.api response.status response.body)
      else pure response

/-- Sends a request and reads the response. -/
def fetch {α : Type} (c : Client) (decode : Json.Draft → Option α) (method : Net.Method)
    (url : Option Net.Url) (content : Content) (what : String) : Session α := do
  let response ← c.execute method url content what
  Session.readBody decode response

/-- Sends a request and disregards the body of the response. -/
def tell (c : Client) (method : Net.Method) (url : Option Net.Url) (content : Content)
    (what : String) : Session Unit := do
  let _ ← c.execute method url content what
  pure ()

/-- A URL of the network API. -/
def networkUrl (c : Client) (path : String) : Option Net.Url :=
  (Net.Url.parse? (c.endpoints.network ++ path)).map
    (Net.Url.withQuery [("version", networkVersion), ("generation", "2")])

/-- A URL of the resource controller. -/
def controllerUrl (c : Client) (path : String) : Option Net.Url :=
  Net.Url.parse? (c.endpoints.controller ++ path)

/-- A URL of the admin API of an event streams instance. -/
def adminUrl (base path : String) : Option Net.Url :=
  Net.Url.parse? (Text.dropTrailing '/' base ++ path)

/-- The path of a network object. -/
def vpcPath (id : String) : String := "/vpcs/" ++ id

/-- The path of a subnet. -/
def subnetPath (id : String) : String := "/subnets/" ++ id

/-- The path of an instance. -/
def instancePath (id : String) : String := "/v2/resource_instances/" ++ id

/-- The path of a key. -/
def keyPath (id : String) : String := "/v2/resource_keys/" ++ id

/-- The path of a topic. -/
def topicPath (name : String) : String := "/admin/topics/" ++ name

/-- Carries out a call to the network API. -/
def network (c : Client) : (call : NetworkCall) → Session call.Result
  | .getVpc id => c.fetch Vpc.Remote.decode .get (c.networkUrl (vpcPath id)) .empty id
  | .createVpc request =>
    c.fetch Vpc.Remote.decode .post (c.networkUrl "/vpcs") (.json request.encode) "vpc"
  | .updateVpc id patch =>
    c.fetch Vpc.Remote.decode .patch (c.networkUrl (vpcPath id)) (.mergePatch patch) id
  | .deleteVpc id => c.tell .delete (c.networkUrl (vpcPath id)) .empty id
  | .getSubnet id => c.fetch Subnet.Remote.decode .get (c.networkUrl (subnetPath id)) .empty id
  | .createSubnet request =>
    c.fetch Subnet.Remote.decode .post (c.networkUrl "/subnets") (.json request.encode) "subnet"
  | .updateSubnet id patch =>
    c.fetch Subnet.Remote.decode .patch (c.networkUrl (subnetPath id)) (.mergePatch patch) id
  | .deleteSubnet id => c.tell .delete (c.networkUrl (subnetPath id)) .empty id

/-- Reads the tags of a page. -/
def decodeTags {D : Type} [Json.Document D] : D → Option (List String) :=
  read (defaulted "items" [] (Json.list (read (required "name" Json.text))))

/-- The tags that users have attached to an instance. -/
def tags (c : Client) (crn : String) : Session (List String) :=
  let url := (Net.Url.parse? (c.endpoints.tagging ++ "/v3/tags")).map
    (Net.Url.withQuery [("attached_to", crn), ("tag_type", "user")])
  c.fetch decodeTags .get url .empty crn

/-- Attaches or detaches tags; no tags need no request. -/
def changeTags (c : Client) (action crn : String) (tags : List String) : Session Unit :=
  if tags.isEmpty then pure ()
  else
    let body := Json.object
      [("resources", .array [.object [("resource_id", .string crn)]]),
        ("tag_names", Json.ofStrings tags)]
    let url := Net.Url.parse? (c.endpoints.tagging ++ "/v3/tags/" ++ action)
    c.tell .post url (.json body) crn

/-- An instance with its tags. -/
def getInstance (c : Client) (id : String) : Session ResourceInstance.Remote := do
  let found ← c.fetch ResourceInstance.Remote.decode .get (c.controllerUrl (instancePath id)) .empty
    id
  let tags ← c.tags found.crn
  pure { found with tags := tags }

/-- Carries out a call to the resource controller. -/
def controller (c : Client) : (call : ControllerCall) → Session call.Result
  | .getInstance id => c.getInstance id
  | .createInstance request =>
    c.fetch ResourceInstance.Remote.decode .post (c.controllerUrl "/v2/resource_instances")
      (.json request.encode) request.name
  | .updateInstance id patch =>
    c.fetch ResourceInstance.Remote.decode .patch (c.controllerUrl (instancePath id))
      (.members patch) id
  | .deleteInstance id recursive =>
    let url := (c.controllerUrl (instancePath id)).map
      (Net.Url.withQuery [("recursive", if recursive then "true" else "false")])
    c.tell .delete url .empty id
  | .attachTags crn tags => c.changeTags "attach" crn tags
  | .detachTags crn tags => c.changeTags "detach" crn tags
  | .getKey id => c.fetch ResourceKey.Remote.decode .get (c.controllerUrl (keyPath id)) .empty id
  | .createKey request =>
    c.fetch ResourceKey.Remote.decode .post (c.controllerUrl "/v2/resource_keys")
      (.json request.encode) request.name
  | .updateKey id patch =>
    c.fetch ResourceKey.Remote.decode .patch (c.controllerUrl (keyPath id)) (.members patch) id
  | .deleteKey id => c.tell .delete (c.controllerUrl (keyPath id)) .empty id

/-- The plans of a service. -/
def servicePlans (c : Client) (service : String) : Session (List CatalogEntry) := do
  let url := (Net.Url.parse? c.endpoints.catalog).map
    (Net.Url.withQuery [("q", "name:" ++ service), ("complete", "false")])
  let services ← c.fetch CatalogEntry.decodePage .get url .empty service
  match services.find? fun e => e.name == service with
  | none => Session.fail (.notFound ("catalog service " ++ service))
  | some entry =>
    let url := Net.Url.parse? (c.endpoints.catalog ++ "/" ++ entry.id ++ "/plan")
    c.fetch CatalogEntry.decodePage .get url .empty service

/-- Carries out a call to the catalog. -/
def catalog (c : Client) : CatalogCall → Session String
  | .planId service plan => do
    let plans ← c.servicePlans service
    match plans.find? fun p => p.name == plan with
    | some p => pure p.id
    | none => Session.fail (.notFound ("plan " ++ plan ++ " of " ++ service))
  | .planName service planId => do
    let plans ← c.servicePlans service
    match plans.find? fun p => p.id == planId with
    | some p => pure p.name
    | none => Session.fail (.notFound ("plan " ++ planId ++ " of " ++ service))
  | .groupId name => do
    let url := (Net.Url.parse? (c.endpoints.manager ++ "/v2/resource_groups")).map
      (Net.Url.withQuery [("name", name)])
    let groups ← c.fetch ResourceGroup.decodePage .get url .empty name
    match groups.find? fun g => g.name == name with
    | some g => pure g.id
    | none => Session.fail (.notFound ("resource group " ++ name))
  | .groupName id => do
    let url := Net.Url.parse? (c.endpoints.manager ++ "/v2/resource_groups/" ++ id)
    let group ← c.fetch ResourceGroup.decode .get url .empty id
    pure group.name

/-- Carries out a call to an admin API. -/
def events (c : Client) : (call : EventsCall) → Session call.Result
  | .getTopic base name =>
    c.fetch Topic.Remote.decode .get (adminUrl base (topicPath name)) .empty name
  | .createTopic base request =>
    c.tell .post (adminUrl base "/admin/topics") (.json request.encode) request.name
  | .updateTopic base name patch =>
    c.tell .patch (adminUrl base (topicPath name)) (.members patch) name
  | .deleteTopic base name => c.tell .delete (adminUrl base (topicPath name)) .empty name

/-- Carries out a call. -/
def perform (c : Client) : (call : Call) → Session call.Result
  | .network call => c.network call
  | .controller call => c.controller call
  | .catalog call => c.catalog call
  | .events call => c.events call

end Client

end ResourceOperator.Cloud
