import TaskLink.Json.Reader

/-!
# Records in drafts

A record is read from an object by the names of its fields or from an array by
their order.  Members that the record does not know are passed over: they have
to respect the grammar and nothing more.
-/

namespace TaskLink

namespace JsonDraft

/-! ## Values -/

mutual

def resolve? : JsonDraft → Option (JsonTree JsonNumber String)
  | .null => some .null
  | .bool value => some (.bool value)
  | .number (.ok value) => some (.number value)
  | .number (.error _) => none
  | .text (.ok value) => some (.text value)
  | .text (.error _) => none
  | .array items => (resolveItems? items).map .array
  | .object members => (resolveMembers? members).map .object

def resolveItems? : List JsonDraft → Option (List (JsonTree JsonNumber String))
  | [] => some []
  | item :: rest =>
      match resolve? item, resolveItems? rest with
      | some item, some rest => some (item :: rest)
      | _, _ => none

def resolveMembers? : List (Except JsonFault String × JsonDraft) →
    Option (List (String × JsonTree JsonNumber String))
  | [] => some []
  | (.error _, _) :: _ => none
  | (.ok key, value) :: rest =>
      match resolve? value, resolveMembers? rest with
      | some value, some rest => some ((key, value) :: rest)
      | _, _ => none

end

def value? (room : Nat) (draft : JsonDraft) : Option Json :=
  if draft.depth ≤ room then (resolve? draft).map JsonTree.canonical else none

def text? : JsonDraft → Option String
  | .text (.ok value) => some value
  | _ => none

def whole? : JsonDraft → Option Int
  | .number (.ok (.whole value)) => some value
  | _ => none

def bool? : JsonDraft → Option Bool
  | .bool value => some value
  | _ => none

/-! ## Fields -/

def keyed? : List (Except JsonFault String × JsonDraft) → Option (List (String × JsonDraft))
  | [] => some []
  | (.error _, _) :: _ => none
  | (.ok key, value) :: rest => (keyed? rest).map ((key, value) :: ·)

/-- What stands under a field name, unless it stands there twice. -/
def field? (name : String) (members : List (String × JsonDraft)) : Option (Option JsonDraft) :=
  match members.filter (fun member => member.1 == name) with
  | [] => some none
  | [(_, value)] => some (some value)
  | _ => none

def namedFields? (names : List String)
    (members : List (Except JsonFault String × JsonDraft)) : Option (List (Option JsonDraft)) :=
  match keyed? members with
  | some members => names.mapM (field? · members)
  | none => none

def orderedFields? : List String → List JsonDraft → Option (List (Option JsonDraft))
  | [], [] => some []
  | [], _ :: _ => none
  | _ :: names, [] => (orderedFields? names []).map (none :: ·)
  | _ :: names, item :: rest => (orderedFields? names rest).map (some item :: ·)

def fields? (names : List String) : JsonDraft → Option (List (Option JsonDraft))
  | .object members => namedFields? names members
  | .array items => orderedFields? names items
  | _ => none

def knowsOnly (names : List String) : JsonDraft → Bool
  | .object members => members.all fun (key, _) =>
      match key with
      | .ok key => names.contains key
      | .error _ => false
  | _ => true

def hasArity (count : Nat) : JsonDraft → Bool
  | .array items => items.length == count
  | _ => true

end JsonDraft

end TaskLink
