import ResourceOperator.Json.Basic

/-!
# Merge patches (RFC 7386)

`merge target patch` is the document that a merge patch makes of a target: an object patch is
merged member by member, `null` removes a member, and any other patch takes the target's place.

Patches of this form are what `finalizer_patch`, `desired_state_patch`, `patch_status` and
`build_patch` make.
-/

namespace ResourceOperator.Json

/-- The members of a merge target; a target that is no object has none. -/
def mergeable : Json → List (String × Json)
  | .object members => members
  | _ => []

mutual

/-- Applies a merge patch to a document. -/
def merge (target : Json) : Json → Json
  | .object changes => .object (mergeMembers target.mergeable changes)
  | .null => .null
  | .bool b => .bool b
  | .number n => .number n
  | .string s => .string s
  | .array items => .array items

/-- Applies the members of a merge patch to the members of an object, one after the other. -/
def mergeMembers (members : List (String × Json)) : List (String × Json) → List (String × Json)
  | [] => members
  | (name, change) :: rest =>
    if change = .null then mergeMembers (Table.erase name members) rest
    else
      mergeMembers
        (Table.insert name (merge ((Table.get? name members).getD .null) change) members) rest

end

theorem merge_object (target : Json) (changes : List (String × Json)) :
    merge target (.object changes) = .object (mergeMembers target.mergeable changes) := rfl

end ResourceOperator.Json
