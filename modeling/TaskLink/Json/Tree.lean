import TaskLink.Number.Double

/-!
# Data trees

The tree behind a text of the data exchange format, over whatever its numbers
and texts are.  The values that the rest of the library works with have
decoded leaves and objects whose members are sorted by key, each key once.
-/

namespace TaskLink

/-- A tree whose numbers are of type `ν` and whose texts and keys are of type `τ`. -/
inductive JsonTree (ν τ : Type) where
  | null
  | bool (value : Bool)
  | number (value : ν)
  | text (value : τ)
  | array (items : List (JsonTree ν τ))
  | object (members : List (τ × JsonTree ν τ))
  deriving Inhabited

/-- A number: whole numbers of 64 bits stay exact, all others are doubles. -/
inductive JsonNumber where
  | whole (value : Int)
  | double (value : Double)
  deriving DecidableEq, Inhabited

abbrev Json := JsonTree JsonNumber String

namespace JsonTree

variable {ν τ : Type}

/-! ## Depth -/

mutual

def depth : JsonTree ν τ → Nat
  | .array items => itemsDepth items + 1
  | .object members => membersDepth members + 1
  | _ => 0

def itemsDepth : List (JsonTree ν τ) → Nat
  | [] => 0
  | item :: rest => Nat.max item.depth (itemsDepth rest)

def membersDepth : List (τ × JsonTree ν τ) → Nat
  | [] => 0
  | (_, value) :: rest => Nat.max value.depth (membersDepth rest)

end

/-! ## Sorted members -/

/-- Add a member to members sorted by key, in place of one with the same key. -/
def insertMember (key : String) (value : JsonTree ν String) :
    List (String × JsonTree ν String) → List (String × JsonTree ν String)
  | [] => [(key, value)]
  | (first, found) :: rest =>
      if key < first then (key, value) :: (first, found) :: rest
      else if key == first then (key, value) :: rest
      else (first, found) :: insertMember key value rest

mutual

/-- The same value with the members of every object sorted, the last of equal keys kept. -/
def canonical : JsonTree ν String → JsonTree ν String
  | .array items => .array (canonicalItems items)
  | .object members => .object (canonicalMembers members [])
  | .null => .null
  | .bool value => .bool value
  | .number value => .number value
  | .text value => .text value

def canonicalItems : List (JsonTree ν String) → List (JsonTree ν String)
  | [] => []
  | item :: rest => item.canonical :: canonicalItems rest

def canonicalMembers :
    List (String × JsonTree ν String) → List (String × JsonTree ν String) →
      List (String × JsonTree ν String)
  | [], sorted => sorted
  | (key, value) :: rest, sorted =>
      canonicalMembers rest (insertMember key value.canonical sorted)

end

/-! ## Access -/

def find? (key : String) : List (String × JsonTree ν String) → Option (JsonTree ν String)
  | [] => none
  | (first, value) :: rest => if first == key then some value else find? key rest

def member? (tree : JsonTree ν String) (key : String) : Option (JsonTree ν String) :=
  match tree with
  | .object members => find? key members
  | _ => none

def text? : JsonTree ν τ → Option τ
  | .text value => some value
  | _ => none

def isObject : JsonTree ν τ → Bool
  | .object _ => true
  | _ => false

/-! ## Equality -/

section Equality

variable [DecidableEq ν] [DecidableEq τ]

mutual

def isSame : JsonTree ν τ → JsonTree ν τ → Bool
  | .null, .null => true
  | .bool value, .bool other => value == other
  | .number value, .number other => value == other
  | .text value, .text other => value == other
  | .array items, .array others => areSameItems items others
  | .object members, .object others => areSameMembers members others
  | _, _ => false

def areSameItems : List (JsonTree ν τ) → List (JsonTree ν τ) → Bool
  | [], [] => true
  | item :: rest, other :: others => item.isSame other && areSameItems rest others
  | _, _ => false

def areSameMembers : List (τ × JsonTree ν τ) → List (τ × JsonTree ν τ) → Bool
  | [], [] => true
  | (key, value) :: rest, (otherKey, other) :: others =>
      key == otherKey && value.isSame other && areSameMembers rest others
  | _, _ => false

end

mutual

theorem isSame_iff : ∀ tree other : JsonTree ν τ, tree.isSame other = true ↔ tree = other
  | .array items, other => by
      cases other <;> simp [isSame, areSameItems_iff items]
  | .object members, other => by
      cases other <;> simp [isSame, areSameMembers_iff members]
  | .null, other | .bool _, other | .number _, other | .text _, other => by
      cases other <;> simp [isSame]

theorem areSameItems_iff :
    ∀ items others : List (JsonTree ν τ), areSameItems items others = true ↔ items = others
  | [], others => by cases others <;> simp [areSameItems]
  | item :: rest, others => by
      cases others with
      | nil => simp [areSameItems]
      | cons other others => simp [areSameItems, isSame_iff item, areSameItems_iff rest]

theorem areSameMembers_iff :
    ∀ members others : List (τ × JsonTree ν τ),
      areSameMembers members others = true ↔ members = others
  | [], others => by cases others <;> simp [areSameMembers]
  | (key, value) :: rest, others => by
      cases others with
      | nil => simp [areSameMembers]
      | cons other others =>
          obtain ⟨otherKey, other⟩ := other
          simp [areSameMembers, isSame_iff value, areSameMembers_iff rest, and_assoc]

end

instance : DecidableEq (JsonTree ν τ) := fun tree other =>
  decidable_of_iff (tree.isSame other = true) (isSame_iff tree other)

end Equality
/-! ## Laws of members -/

theorem find?_insertMember_self (key : String) (value : JsonTree ν String)
    (members : List (String × JsonTree ν String)) :
    find? key (insertMember key value members) = some value := by
  induction members with
  | nil => simp [insertMember, find?]
  | cons member rest ih =>
      obtain ⟨first, found⟩ := member
      unfold insertMember
      split
      · simp [find?]
      · split
        · simp [find?]
        · next different =>
            have apart : ¬ first = key := fun same => different (by simp [same])
            simp [find?, apart, ih]

theorem find?_insertMember_ne {key other : String} (different : other ≠ key)
    (value : JsonTree ν String) (members : List (String × JsonTree ν String)) :
    find? other (insertMember key value members) = find? other members := by
  induction members with
  | nil => simp [insertMember, find?, different.symm]
  | cons member rest ih =>
      obtain ⟨first, found⟩ := member
      unfold insertMember
      split
      · simp [find?, different.symm]
      · split
        · next same =>
            have same : key = first := by simpa using same
            subst same
            simp [find?, different.symm]
        · simp [find?, ih]

end JsonTree

namespace Json

def emptyObject : Json := .object []

def ofInt (value : Int) : Json := .number (.whole value)

def ofMembers (members : List (String × Json)) : Json :=
  .object (members.foldl (fun sorted (key, value) => JsonTree.insertMember key value sorted) [])

/-- The value with a member set; what is not an object stays as it is. -/
def withMember (tree : Json) (key : String) (value : Json) : Json :=
  match tree with
  | .object members => .object (JsonTree.insertMember key value members)
  | other => other

end Json

end TaskLink
