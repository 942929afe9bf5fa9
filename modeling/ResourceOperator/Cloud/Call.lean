import ResourceOperator.Dialogue
import ResourceOperator.Failure
import ResourceOperator.ResourceInstance.Remote
import ResourceOperator.ResourceKey.Remote
import ResourceOperator.Subnet.Remote
import ResourceOperator.Topic.Remote
import ResourceOperator.Vpc.Remote

/-!
# Calls to the cloud

The operations of the four APIs of the cloud: networks, the resource controller, the catalog and the
admin API of an event streams instance. Each call answers with a result of its own type, or fails;
`Call.decodeResult` reads that result from a document.

The four types of calls are the interfaces `VpcApi`, `ResourceControllerApi`, `CatalogApi` and
`EventStreamsAdminApi`, with one constructor for each method.
-/

namespace ResourceOperator.Cloud

/-- The body of an update: the members to change. -/
abbrev Patch := Table Json

/-- Calls to the network API. -/
inductive NetworkCall where
  | getVpc (id : String)
  | createVpc (request : Vpc.Request)
  | updateVpc (id : String) (patch : Patch)
  | deleteVpc (id : String)
  | getSubnet (id : String)
  | createSubnet (request : Subnet.Request)
  | updateSubnet (id : String) (patch : Patch)
  | deleteSubnet (id : String)

/-- Calls to the resource controller: instances, their tags, and their keys. -/
inductive ControllerCall where
  | getInstance (id : String)
  | createInstance (request : ResourceInstance.Request)
  | updateInstance (id : String) (patch : Patch)
  | deleteInstance (id : String) (recursive : Bool)
  | attachTags (crn : String) (tags : List String)
  | detachTags (crn : String) (tags : List String)
  | getKey (id : String)
  | createKey (request : ResourceKey.Request)
  | updateKey (id : String) (patch : Patch)
  | deleteKey (id : String)

/-- Calls to the catalog, between ids and names. -/
inductive CatalogCall where
  | planId (service plan : String)
  | planName (service planId : String)
  | groupId (name : String)
  | groupName (id : String)
  deriving DecidableEq, Repr

/-- Calls to the admin API of an event streams instance. -/
inductive EventsCall where
  | getTopic (adminUrl name : String)
  | createTopic (adminUrl : String) (request : Topic.Request)
  | updateTopic (adminUrl name : String) (patch : Patch)
  | deleteTopic (adminUrl name : String)

/-- A call to one of the APIs. -/
inductive Call where
  | network (call : NetworkCall)
  | controller (call : ControllerCall)
  | catalog (call : CatalogCall)
  | events (call : EventsCall)

/-- What a call to the network API yields. -/
abbrev NetworkCall.Result : NetworkCall → Type
  | .getVpc _ => Vpc.Remote
  | .createVpc _ => Vpc.Remote
  | .updateVpc _ _ => Vpc.Remote
  | .deleteVpc _ => Unit
  | .getSubnet _ => Subnet.Remote
  | .createSubnet _ => Subnet.Remote
  | .updateSubnet _ _ => Subnet.Remote
  | .deleteSubnet _ => Unit

/-- What a call to the resource controller yields. -/
abbrev ControllerCall.Result : ControllerCall → Type
  | .getInstance _ => ResourceInstance.Remote
  | .createInstance _ => ResourceInstance.Remote
  | .updateInstance _ _ => ResourceInstance.Remote
  | .deleteInstance _ _ => Unit
  | .attachTags _ _ => Unit
  | .detachTags _ _ => Unit
  | .getKey _ => ResourceKey.Remote
  | .createKey _ => ResourceKey.Remote
  | .updateKey _ _ => ResourceKey.Remote
  | .deleteKey _ => Unit

/-- What a call to the admin API yields. -/
abbrev EventsCall.Result : EventsCall → Type
  | .getTopic _ _ => Topic.Remote
  | .createTopic _ _ => Unit
  | .updateTopic _ _ _ => Unit
  | .deleteTopic _ _ => Unit

/-- What a call yields. -/
abbrev Call.Result : Call → Type
  | .network c => c.Result
  | .controller c => c.Result
  | .catalog _ => String
  | .events c => c.Result

/-- Nothing, as a document. -/
def decodeNothing : Json → Option Unit
  | .null => some ()
  | _ => none

/-- Reads what a call to the network API yields. -/
def NetworkCall.decodeResult : (c : NetworkCall) → Json → Option c.Result
  | .getVpc _ => Vpc.Remote.decode
  | .createVpc _ => Vpc.Remote.decode
  | .updateVpc _ _ => Vpc.Remote.decode
  | .deleteVpc _ => decodeNothing
  | .getSubnet _ => Subnet.Remote.decode
  | .createSubnet _ => Subnet.Remote.decode
  | .updateSubnet _ _ => Subnet.Remote.decode
  | .deleteSubnet _ => decodeNothing

/-- Reads what a call to the resource controller yields. -/
def ControllerCall.decodeResult : (c : ControllerCall) → Json → Option c.Result
  | .getInstance _ => ResourceInstance.Remote.decode
  | .createInstance _ => ResourceInstance.Remote.decode
  | .updateInstance _ _ => ResourceInstance.Remote.decode
  | .deleteInstance _ _ => decodeNothing
  | .attachTags _ _ => decodeNothing
  | .detachTags _ _ => decodeNothing
  | .getKey _ => ResourceKey.Remote.decode
  | .createKey _ => ResourceKey.Remote.decode
  | .updateKey _ _ => ResourceKey.Remote.decode
  | .deleteKey _ => decodeNothing

/-- Reads what a call to the admin API yields. -/
def EventsCall.decodeResult : (c : EventsCall) → Json → Option c.Result
  | .getTopic _ _ => Topic.Remote.decode
  | .createTopic _ _ => decodeNothing
  | .updateTopic _ _ _ => decodeNothing
  | .deleteTopic _ _ => decodeNothing

/-- Reads what a call yields. -/
def Call.decodeResult : (c : Call) → Json → Option c.Result
  | .network c => c.decodeResult
  | .controller c => c.decodeResult
  | .catalog _ => Json.text
  | .events c => c.decodeResult

/-- The catalog, which answers with an id or a name. -/
def Catalog : Interface where
  Question := CatalogCall
  Answer _ := Except Failure String

/-- The cloud as a whole. -/
def Service : Interface where
  Question := Call
  Answer c := Except Failure c.Result

end ResourceOperator.Cloud
