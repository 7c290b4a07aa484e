import TaskLink.Proofs.Json.Members

/-!
# The order in which members are written

Two values may differ in the order in which members with different keys are
written, in any of their objects.  Their canonical forms are the same.
-/

namespace TaskLink

namespace JsonTree

variable {ν : Type} {key : String} {members others : List (String × JsonTree ν String)}

/-! ## The last under a key -/

def lastUnder? (key : String) (members : List (String × JsonTree ν String)) :
    Option (JsonTree ν String) :=
  (members.filter fun member => member.1 == key).getLast?.map (·.2)

theorem exists_lastUnder?_of_mem {value : JsonTree ν String} (isIn : (key, value) ∈ members) :
    ∃ last, lastUnder? key members = some last := by
  have kept : (key, value) ∈ members.filter fun member => member.1 == key :=
    List.mem_filter.mpr ⟨isIn, beq_self_eq_true key⟩
  cases isLast : (members.filter fun member => member.1 == key).getLast? with
  | none =>
      rw [List.getLast?_eq_none_iff.mp isLast] at kept
      cases kept
  | some last => exact ⟨last.2, by rw [lastUnder?, isLast, Option.map_some]⟩

/-- Under a key the canonical members hold what is written under it last. -/
theorem find?_canonicalMembers_nil (key : String) (members : List (String × JsonTree ν String)) :
    find? key (canonicalMembers members []) = (lastUnder? key members).map canonical := by
  rw [find?_canonicalMembers, find?, Option.or_none, lastUnder?, Option.map_map]
  rfl

theorem member?_canonical_object (key : String) (members : List (String × JsonTree ν String)) :
    (canonical (.object members)).member? key = (lastUnder? key members).map canonical := by
  rw [canonical, member?, find?_canonicalMembers_nil]

theorem canonicalMembers_nil_sorted (members : List (String × JsonTree ν String)) :
    AreSorted (canonicalMembers members []) :=
  canonicalMembers_sorted members List.Pairwise.nil

/-- Objects with the same last values have the same canonical form. -/
theorem canonical_object_eq
    (same : ∀ key, (lastUnder? key members).map canonical = (lastUnder? key others).map canonical) :
    canonical (.object members) = canonical (.object others) := by
  have sameMembers : canonicalMembers members [] = canonicalMembers others [] := by
    apply eq_of_find? (canonicalMembers_nil_sorted members) (canonicalMembers_nil_sorted others)
    intro key
    rw [find?_canonicalMembers_nil, find?_canonicalMembers_nil, same]
  rw [canonical, canonical, sameMembers]

theorem canonicalItems_eq_map (items : List (JsonTree ν String)) :
    canonicalItems items = items.map canonical := by
  induction items with
  | nil => rfl
  | cons item rest ih => rw [canonicalItems, ih, List.map_cons]

/-! ## Reordering -/

/-- The same value, up to the order in which members with different keys are written. -/
inductive Reordered : JsonTree ν String → JsonTree ν String → Prop where
  | refl (tree : JsonTree ν String) : Reordered tree tree
  /-- Two neighbours with different keys change places. -/
  | swapped {before after : List (String × JsonTree ν String)}
      {first second : String × JsonTree ν String} (different : first.1 ≠ second.1) :
      Reordered (.object (before ++ first :: second :: after))
        (.object (before ++ second :: first :: after))
  /-- The value of a member is reordered. -/
  | inMember {before after : List (String × JsonTree ν String)} {key : String}
      {value other : JsonTree ν String} (inner : Reordered value other) :
      Reordered (.object (before ++ (key, value) :: after))
        (.object (before ++ (key, other) :: after))
  /-- An item of an array is reordered. -/
  | inItem {before after : List (JsonTree ν String)} {item other : JsonTree ν String}
      (inner : Reordered item other) :
      Reordered (.array (before ++ item :: after)) (.array (before ++ other :: after))
  | trans {tree middle other : JsonTree ν String} (first : Reordered tree middle)
      (second : Reordered middle other) : Reordered tree other

/-- Members with different keys stand in no order under any one key. -/
theorem lastUnder?_swapped {before after : List (String × JsonTree ν String)}
    {first second : String × JsonTree ν String} (different : first.1 ≠ second.1) (key : String) :
    lastUnder? key (before ++ first :: second :: after) =
      lastUnder? key (before ++ second :: first :: after) := by
  rw [lastUnder?, lastUnder?, List.filter_append, List.filter_append]
  by_cases isFirst : first.1 = key
  · have notSecond : second.1 ≠ key := fun isSecond => different (isFirst.trans isSecond.symm)
    simp [isFirst, notSecond]
  · simp [isFirst]

theorem map_lastUnder?_inMember {before after : List (String × JsonTree ν String)}
    {value other : JsonTree ν String} (same : value.canonical = other.canonical)
    (key wanted : String) :
    (lastUnder? wanted (before ++ (key, value) :: after)).map canonical =
      (lastUnder? wanted (before ++ (key, other) :: after)).map canonical := by
  rw [lastUnder?, lastUnder?, List.filter_append, List.filter_append]
  by_cases isKey : key = wanted
  · cases later : (after.filter fun member => member.1 == wanted).getLast? with
    | none => simp [isKey, List.getLast?_cons, later, same]
    | some last => simp [isKey, List.getLast?_cons, later]
  · simp [isKey]

theorem Reordered.canonical_eq {tree other : JsonTree ν String} (reordered : Reordered tree other) :
    tree.canonical = other.canonical := by
  induction reordered with
  | refl tree => rfl
  | swapped different =>
      apply canonical_object_eq
      intro key
      rw [lastUnder?_swapped different]
  | inMember inner ih => exact canonical_object_eq (map_lastUnder?_inMember ih _)
  | inItem inner ih => simp only [canonical, canonicalItems_eq_map, List.map_append, List.map_cons, ih]
  | trans first second ihFirst ihSecond => exact ihFirst.trans ihSecond

end JsonTree

end TaskLink
