import ResourceOperator.Cloud.Client
import ResourceOperator.Proofs.Json.Text

/-!
# Records in the bodies of answers

What the cloud answers with is read from the text of a body as it stands there. `Body` lists the
records that are read so, with the names of their members. A record is read from the members of its
names: what else a body holds makes no difference, and one of the names must not be repeated. Apart
from that, a body is read as the document that it is the text of.

Results:
* `Body.record`: all of this for every record, with one lemma for each part of a record.
* `Body.unknown_member_skipped`, `Body.repeated_member_refused` and `Body.readText_render`.
-/

namespace ResourceOperator

open Json

namespace Cloud

/-! ## Which records there are -/

/-- The records that bodies are read as. -/
inductive Body where
  | token
  | network | subnet
  | serviceInstance | tags | key
  | entries | groups | group
  | topic

namespace Body

/-- What a record is read as. -/
def Value : Body → Type
  | token => Token
  | network => Vpc.Remote
  | subnet => Subnet.Remote
  | serviceInstance => ResourceInstance.Remote
  | tags => List String
  | key => ResourceKey.Remote
  | entries => List CatalogEntry
  | groups => List ResourceGroup
  | group => ResourceGroup
  | topic => Topic.Remote

/-- Reads a record. -/
def decode {D : Type} [Document D] : (b : Body) → D → Option b.Value
  | token => Token.decode
  | network => Vpc.Remote.decode
  | subnet => Subnet.Remote.decode
  | serviceInstance => ResourceInstance.Remote.decode
  | tags => Client.decodeTags
  | key => ResourceKey.Remote.decode
  | entries => CatalogEntry.decodePage
  | groups => ResourceGroup.decodePage
  | group => ResourceGroup.decode
  | topic => Topic.Remote.decode

/-- The names of the members of a record. -/
def names : Body → List String
  | token => ["access_token", "expiration"]
  | network =>
    ["id", "crn", "href", "name", "classic_access", "created_at", "status", "resource_group",
      "default_network_acl", "default_routing_table", "default_security_group"]
  | subnet =>
    ["id", "crn", "href", "name", "ip_version", "ipv4_cidr_block", "available_ipv4_address_count",
      "total_ipv4_address_count", "status", "created_at", "network_acl", "public_gateway",
      "resource_group", "routing_table", "vpc", "zone"]
  | serviceInstance =>
    ["id", "guid", "crn", "url", "name", "account_id", "resource_group_id", "resource_id",
      "resource_plan_id", "target_crn", "region_id", "state", "allow_cleanup", "locked",
      "parameters", "dashboard_url", "created_at", "last_operation", "tags"]
  | tags => ["items"]
  | key =>
    ["id", "guid", "crn", "url", "name", "account_id", "resource_group_id", "source_crn", "state",
      "iam_compatible", "resource_instance_url", "created_at", "credentials"]
  | entries | groups => ["resources"]
  | group => ["id", "name"]
  | topic =>
    ["name", "partitions", "replicationFactor", "retentionMs", "cleanupPolicy", "configs",
      "replicaAssignments"]

end Body

/-! ## Parts of records -/

theorem NetworkState.alike : Alike decode decode := alike_choice _

theorem ObjectReference.record : Record ["id", "crn", "href", "name"] decode decode :=
  record_read <| record_field (record_defaulted alike_text) fun _ =>
    record_field (record_defaulted alike_text) fun _ =>
    record_field (record_defaulted alike_text) fun _ =>
    record_field (record_defaulted alike_text) fun _ => record_pure _

theorem CatalogEntry.record : Record ["id", "name", "kind"] decode decode :=
  record_read <| record_field (record_required alike_text) fun _ =>
    record_field (record_defaulted alike_text) fun _ =>
    record_field (record_defaulted alike_text) fun _ => record_pure _

theorem ResourceGroup.record : Record (Body.names .group) decode decode :=
  record_read <| record_field (record_required alike_text) fun _ =>
    record_field (record_defaulted alike_text) fun _ => record_pure _

end Cloud

theorem Subnet.ZoneReference.record : Record ["name", "href"] decode decode :=
  record_read <| record_field (record_defaulted alike_text) fun _ =>
    record_field (record_defaulted alike_text) fun _ => record_pure _

theorem ResourceInstance.State.alike : Alike decode decode := alike_choice _

theorem ResourceInstance.LastOperation.record :
    Record ["type", "state", "description"] decode decode :=
  record_read <| record_field (record_defaulted alike_text) fun _ =>
    record_field (record_defaulted alike_text) fun _ =>
    record_field (record_lastOptional alike_text) fun _ => record_pure _

theorem ResourceKey.State.alike : Alike decode decode := alike_choice _

theorem Topic.Configs.record :
    Record (ConfigKey.all.map ConfigKey.kafkaName) decodeKafka decodeKafka :=
  record_read <| record_field (record_lastOptional alike_text) fun _ =>
    record_field (record_lastOptional alike_text) fun _ =>
    record_field (record_lastOptional alike_text) fun _ =>
    record_field (record_lastOptional alike_text) fun _ =>
    record_field (record_lastOptional alike_text) fun _ =>
    record_field (record_lastOptional alike_text) fun _ =>
    record_field (record_lastOptional alike_text) fun _ => record_pure _

/-! ## Objects in the cloud -/

open Cloud

theorem Vpc.Remote.record : Record (Body.names .network) decode decode :=
  record_read <| record_field (record_required alike_text) fun _ =>
    record_field (record_defaulted alike_text) fun _ =>
    record_field (record_defaulted alike_text) fun _ =>
    record_field (record_defaulted alike_text) fun _ =>
    record_field (record_defaulted alike_flag) fun _ =>
    record_field (record_lastOptional alike_text) fun _ =>
    record_field (record_defaulted NetworkState.alike) fun _ =>
    record_field (record_lastOptional ObjectReference.record.alike) fun _ =>
    record_field (record_lastOptional ObjectReference.record.alike) fun _ =>
    record_field (record_lastOptional ObjectReference.record.alike) fun _ =>
    record_field (record_lastOptional ObjectReference.record.alike) fun _ => record_pure _

theorem Subnet.Remote.record : Record (Body.names .subnet) decode decode :=
  record_read <| record_field (record_required alike_text) fun _ =>
    record_field (record_defaulted alike_text) fun _ =>
    record_field (record_defaulted alike_text) fun _ =>
    record_field (record_defaulted alike_text) fun _ =>
    record_field (record_defaulted alike_text) fun _ =>
    record_field (record_defaulted alike_text) fun _ =>
    record_field (record_defaulted alike_int64) fun _ =>
    record_field (record_defaulted alike_int64) fun _ =>
    record_field (record_defaulted NetworkState.alike) fun _ =>
    record_field (record_lastOptional alike_text) fun _ =>
    record_field (record_lastOptional ObjectReference.record.alike) fun _ =>
    record_field (record_lastOptional ObjectReference.record.alike) fun _ =>
    record_field (record_lastOptional ObjectReference.record.alike) fun _ =>
    record_field (record_lastOptional ObjectReference.record.alike) fun _ =>
    record_field (record_defaulted ObjectReference.record.alike) fun _ =>
    record_field (record_defaulted ZoneReference.record.alike) fun _ => record_pure _

theorem ResourceInstance.Remote.record : Record (Body.names .serviceInstance) decode decode :=
  record_read <| record_field (record_required alike_text) fun _ =>
    record_field (record_defaulted alike_text) fun _ =>
    record_field (record_defaulted alike_text) fun _ =>
    record_field (record_defaulted alike_text) fun _ =>
    record_field (record_defaulted alike_text) fun _ =>
    record_field (record_defaulted alike_text) fun _ =>
    record_field (record_defaulted alike_text) fun _ =>
    record_field (record_defaulted alike_text) fun _ =>
    record_field (record_defaulted alike_text) fun _ =>
    record_field (record_defaulted alike_text) fun _ =>
    record_field (record_defaulted alike_text) fun _ =>
    record_field (record_defaulted State.alike) fun _ =>
    record_field (record_defaulted alike_flag) fun _ =>
    record_field (record_defaulted alike_flag) fun _ =>
    record_field (record_lastOptional alike_any) fun _ =>
    record_field (record_lastOptional alike_text) fun _ =>
    record_field (record_lastOptional alike_text) fun _ =>
    record_field (record_lastOptional LastOperation.record.alike) fun _ =>
    record_field (record_defaulted (alike_list alike_text)) fun _ => record_pure _

theorem ResourceKey.Remote.record : Record (Body.names .key) decode decode :=
  record_read <| record_field (record_required alike_text) fun _ =>
    record_field (record_defaulted alike_text) fun _ =>
    record_field (record_defaulted alike_text) fun _ =>
    record_field (record_defaulted alike_text) fun _ =>
    record_field (record_defaulted alike_text) fun _ =>
    record_field (record_defaulted alike_text) fun _ =>
    record_field (record_defaulted alike_text) fun _ =>
    record_field (record_defaulted alike_text) fun _ =>
    record_field (record_defaulted State.alike) fun _ =>
    record_field (record_defaulted alike_flag) fun _ =>
    record_field (record_defaulted alike_text) fun _ =>
    record_field (record_lastOptional alike_text) fun _ =>
    record_field (record_defaulted alike_any) fun _ => record_pure _

theorem Topic.Remote.record : Record (Body.names .topic) decode decode :=
  record_read <| record_field (record_required alike_text) fun _ =>
    record_field (record_defaulted alike_int64) fun _ =>
    record_field (record_defaulted alike_int64) fun _ =>
    record_field (record_defaulted alike_int64) fun _ =>
    record_field (record_defaulted alike_text) fun _ =>
    record_field (record_defaulted Configs.record.alike) fun _ =>
    record_field (record_defaulted (alike_list alike_any)) fun _ => record_pure _

/-! ## Tokens and pages -/

namespace Cloud

theorem Token.record : Record (Body.names .token) decode decode :=
  record_read <| record_field (record_required alike_text) fun _ =>
    record_field (record_required alike_int64) fun _ => record_pure _

theorem Client.record_tags : Record (Body.names .tags) decodeTags decodeTags :=
  record_read <| record_defaulted <| alike_list (record_read (record_required alike_text)).alike

theorem CatalogEntry.record_page : Record (Body.names .entries) decodePage decodePage :=
  record_read <| record_defaulted <| alike_list record.alike

theorem ResourceGroup.record_page : Record (Body.names .groups) decodePage decodePage :=
  record_read <| record_defaulted <| alike_list record.alike

/-! ## Every record -/

namespace Body

theorem record (b : Body) : Record b.names b.decode b.decode := by
  cases b with
  | token => exact Token.record
  | network => exact Vpc.Remote.record
  | subnet => exact Subnet.Remote.record
  | serviceInstance => exact ResourceInstance.Remote.record
  | tags => exact Client.record_tags
  | key => exact ResourceKey.Remote.record
  | entries => exact CatalogEntry.record_page
  | groups => exact ResourceGroup.record_page
  | group => exact ResourceGroup.record
  | topic => exact Topic.Remote.record

variable (b : Body) {name : String} {members : List (String × Draft)}

/-- **A member that a record does not name is skipped, whatever it holds.** -/
theorem unknown_member_skipped (h : name ∉ b.names) (before after : List (String × Draft))
    (d : Draft) :
    b.decode (Draft.object (before ++ (name, d) :: after)) =
      b.decode (Draft.object (before ++ after)) :=
  b.record.skips h before after d

/-- **A member that a record names must not be repeated.** -/
theorem repeated_member_refused (h : name ∈ b.names) (hm : Draft.Repeated name members) :
    b.decode (Draft.object members) = none :=
  b.record.refuses h hm

/-- A number beyond every range makes no difference where nothing is read from it. -/
example : readText ResourceGroup.decode "\x7b\"size\": 1e999, \"id\": \"g-1\"\x7d" =
    some ⟨"g-1", ""⟩ := by
  decide +kernel

example : readText ResourceGroup.decode "\x7b\"id\": \"g-1\", \"id\": \"g-1\"\x7d" = none := by
  decide +kernel

/-- **The text of a document is read as the document.** -/
theorem readText_render {v : Json} (hc : v.Canonical) (hw : Wordy 127 v) :
    readText b.decode v.render = b.decode v :=
  Json.readText_render b.record.alike hc hw

end Body

end Cloud

end ResourceOperator
