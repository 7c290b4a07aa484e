import TaskLink.Json.Tree

/-!
# Members of objects

A row of members as it is written may hold a key more than once and in any
order.  Its canonical form is sorted, and holds under each key what was written
under it last.
-/

namespace TaskLink

/-! ## Members that are not repeated -/

namespace JsonTree

variable {ν : Type} {key : String} {members : List (String × JsonTree ν String)}

def IsUnrepeated (key : String) (members : List (String × JsonTree ν String)) : Prop :=
  members.countP (fun member => member.1 == key) ≤ 1

/-- The members with an unrepeated key are what is found under it. -/
theorem filter_of_isUnrepeated (once : IsUnrepeated key members) :
    members.filter (fun member => member.1 == key) =
      ((find? key members).map (Prod.mk key)).toList := by
  induction members with
  | nil => rfl
  | cons member rest ih =>
      obtain ⟨first, value⟩ := member
      unfold IsUnrepeated at once ih
      by_cases same : first = key
      · subst same
        have noneElse : rest.countP (fun member => member.1 == first) = 0 := by
          simpa using once
        have empty : rest.filter (fun member => member.1 == first) = [] := by
          rw [← List.length_eq_zero_iff, ← List.countP_eq_length_filter, noneElse]
        simp [find?, empty]
      · have fewer : rest.countP (fun member => member.1 == key) ≤ 1 := by
          simpa [same] using once
        simpa [find?, same] using ih fewer

/-- Under a key the canonical form holds what was written under it last. -/
theorem find?_canonicalMembers (key : String) (members sorted : List (String × JsonTree ν String)) :
    find? key (canonicalMembers members sorted) =
      ((members.filter fun member => member.1 == key).getLast?.map (·.2.canonical)).or
        (find? key sorted) := by
  induction members generalizing sorted with
  | nil => simp [canonicalMembers]
  | cons member rest ih =>
      obtain ⟨first, value⟩ := member
      rw [canonicalMembers, ih]
      by_cases same : first = key
      · subst same
        rw [find?_insertMember_self]
        cases later : (rest.filter fun member => member.1 == first).getLast? with
        | none =>
            rw [List.getLast?_eq_none_iff] at later
            simp [later]
        | some last => simp [List.getLast?_cons, later]
      · rw [find?_insertMember_ne (Ne.symm same)]
        simp [same]

/-- The canonical form keeps what stands under an unrepeated key. -/
theorem member?_canonical (once : IsUnrepeated key members) :
    (canonical (.object members)).member? key = (find? key members).map canonical := by
  rw [canonical, member?, find?_canonicalMembers, filter_of_isUnrepeated once]
  cases find? key members <;> rfl

theorem text?_canonical (value : JsonTree ν String) : value.canonical.text? = value.text? := by
  cases value <;> rw [canonical] <;> rfl

/-! ## Found members -/

theorem depth_of_find? {value : JsonTree ν String} (found : find? key members = some value) :
    value.depth ≤ membersDepth members := by
  induction members with
  | nil => cases found
  | cons member rest ih =>
      obtain ⟨first, standing⟩ := member
      rw [find?] at found
      split at found
      · cases found
        exact Nat.le_max_left _ _
      · exact Nat.le_trans (ih found) (Nat.le_max_right _ _)

theorem mem_of_find? {value : JsonTree ν String} (found : find? key members = some value) :
    (key, value) ∈ members := by
  induction members with
  | nil => cases found
  | cons member rest ih =>
      obtain ⟨first, standing⟩ := member
      rw [find?] at found
      split at found
      · next same =>
          cases found
          rw [eq_of_beq same]
          exact List.mem_cons_self
      · exact List.mem_cons_of_mem _ (ih found)

/-! ## Order -/

def AreSorted (members : List (String × JsonTree ν String)) : Prop :=
  members.Pairwise fun earlier later => earlier.1 < later.1

theorem areSorted_of_keys (keys : List String) (same : members.map (·.1) = keys)
    (sorted : keys.Pairwise (· < ·)) : AreSorted members := by
  rw [← same] at sorted
  exact List.pairwise_map.mp sorted

theorem find?_of_first (isFirst : ∀ member ∈ members, key < member.1) :
    find? key members = none := by
  induction members with
  | nil => rfl
  | cons member rest ih =>
      obtain ⟨first, value⟩ := member
      have isMore : key < first := isFirst _ List.mem_cons_self
      have different : ¬ first = key := fun same => String.lt_irrefl first (same ▸ isMore)
      have later := ih fun member isIn => isFirst member (List.mem_cons_of_mem _ isIn)
      simp [find?, different, later]

/-- Sorted members are told apart by what is found among them. -/
theorem eq_of_find? {others : List (String × JsonTree ν String)} (sorted : AreSorted members)
    (othersSorted : AreSorted others) (same : ∀ key, find? key members = find? key others) :
    members = others := by
  induction members generalizing others with
  | nil =>
      cases others with
      | nil => rfl
      | cons other rest => simpa [find?] using same other.1
  | cons member rest ih =>
      obtain ⟨key, value⟩ := member
      obtain ⟨isFirst, sortedRest⟩ := List.pairwise_cons.mp sorted
      cases others with
      | nil => simpa [find?] using same key
      | cons other others =>
          obtain ⟨otherKey, otherValue⟩ := other
          obtain ⟨otherFirst, otherRest⟩ := List.pairwise_cons.mp othersSorted
          have notLess : ¬key < otherKey := by
            intro less
            have missing : find? key ((otherKey, otherValue) :: others) = none :=
              find?_of_first (List.forall_mem_cons.mpr
                ⟨less, fun found isIn => String.lt_trans less (otherFirst found isIn)⟩)
            simpa [find?] using (same key).trans missing
          have notMore : ¬otherKey < key := by
            intro more
            have missing : find? otherKey ((key, value) :: rest) = none :=
              find?_of_first (List.forall_mem_cons.mpr
                ⟨more, fun found isIn => String.lt_trans more (isFirst found isIn)⟩)
            simpa [find?] using missing.symm.trans (same otherKey)
          have sameKey : key = otherKey :=
            String.le_antisymm (String.not_lt.mp notMore) (String.not_lt.mp notLess)
          subst sameKey
          have sameValue : value = otherValue := by simpa [find?] using same key
          have sameRest : rest = others := by
            apply ih sortedRest otherRest
            intro wanted
            by_cases isKey : key = wanted
            · subst isKey
              rw [find?_of_first isFirst, find?_of_first otherFirst]
            · simpa [find?, isKey] using same wanted
          rw [sameValue, sameRest]

theorem mem_insertMember {value : JsonTree ν String} {member : String × JsonTree ν String}
    (isIn : member ∈ insertMember key value members) :
    member = (key, value) ∨ member ∈ members := by
  induction members with
  | nil =>
      rw [insertMember, List.mem_singleton] at isIn
      exact Or.inl isIn
  | cons head rest ih =>
      obtain ⟨first, standing⟩ := head
      rw [insertMember] at isIn
      split at isIn
      · rcases List.mem_cons.mp isIn with rfl | isIn
        · exact Or.inl rfl
        · exact Or.inr isIn
      · split at isIn
        · rcases List.mem_cons.mp isIn with rfl | isIn
          · exact Or.inl rfl
          · exact Or.inr (List.mem_cons_of_mem _ isIn)
        · rcases List.mem_cons.mp isIn with rfl | isIn
          · exact Or.inr List.mem_cons_self
          · exact (ih isIn).imp_right (List.mem_cons_of_mem _)

theorem AreSorted.insertMember (sorted : AreSorted members) (key : String)
    (value : JsonTree ν String) : AreSorted (insertMember key value members) := by
  induction members with
  | nil => exact List.pairwise_singleton _ _
  | cons head rest ih =>
      obtain ⟨first, standing⟩ := head
      obtain ⟨before, sortedRest⟩ := List.pairwise_cons.mp sorted
      rw [JsonTree.insertMember]
      split
      · next isLess =>
          refine List.pairwise_cons.mpr ⟨fun member isIn => ?_, sorted⟩
          rcases List.mem_cons.mp isIn with rfl | isIn
          · exact isLess
          · exact String.lt_trans isLess (before member isIn)
      · next notLess =>
          split
          · next same =>
              have same : key = first := eq_of_beq same
              subst same
              exact List.pairwise_cons.mpr ⟨before, sortedRest⟩
          · next different =>
              refine List.pairwise_cons.mpr ⟨fun member isIn => ?_, ih sortedRest⟩
              rcases mem_insertMember isIn with rfl | isIn
              · exact String.not_le.mp fun notMore =>
                  different (beq_iff_eq.mpr
                    (String.le_antisymm notMore (String.not_lt.mp notLess)))
              · exact before member isIn

/-- Sorted members begin with one that no other has a smaller key than. -/
theorem AreSorted.head?_eq {value : JsonTree ν String} (sorted : AreSorted members)
    (isIn : (key, value) ∈ members) (smallest : ∀ member ∈ members, ¬member.1 < key) :
    members.head? = some (key, value) := by
  cases members with
  | nil => cases isIn
  | cons head rest =>
      rcases List.mem_cons.mp isIn with rfl | later
      · rfl
      · have before := (List.pairwise_cons.mp sorted).1 _ later
        exact absurd before (smallest head List.mem_cons_self)

theorem mem_canonicalMembers {member : String × JsonTree ν String}
    {sorted : List (String × JsonTree ν String)} (isIn : member ∈ canonicalMembers members sorted) :
    (∃ value, (member.1, value) ∈ members) ∨ member ∈ sorted := by
  induction members generalizing sorted with
  | nil => exact Or.inr isIn
  | cons head rest ih =>
      obtain ⟨first, standing⟩ := head
      rcases ih isIn with ⟨value, later⟩ | inserted
      · exact Or.inl ⟨value, List.mem_cons_of_mem _ later⟩
      · rcases mem_insertMember inserted with rfl | isIn
        · exact Or.inl ⟨standing, List.mem_cons_self⟩
        · exact Or.inr isIn

theorem canonicalMembers_sorted (members : List (String × JsonTree ν String))
    {sorted : List (String × JsonTree ν String)} (areSorted : AreSorted sorted) :
    AreSorted (canonicalMembers members sorted) := by
  induction members generalizing sorted with
  | nil => exact areSorted
  | cons member rest ih =>
      obtain ⟨key, value⟩ := member
      rw [canonicalMembers]
      exact ih (areSorted.insertMember key value.canonical)

/-- What stands under a key of a canonical value is canonical. -/
theorem exists_canonical_of_member? {tree value : JsonTree ν String}
    (found : tree.canonical.member? key = some value) :
    ∃ written : JsonTree ν String, value = written.canonical := by
  cases tree with
  | object members =>
      rw [canonical, member?, find?_canonicalMembers, find?, Option.or_none] at found
      obtain ⟨member, -, rfl⟩ := Option.map_eq_some_iff.mp found
      exact ⟨member.2, rfl⟩
  | _ =>
      rw [canonical] at found
      cases found

theorem areSorted_of_canonical {written : JsonTree ν String}
    (isObject : written.canonical = .object members) : AreSorted members := by
  cases written with
  | object raw =>
      rw [canonical, object.injEq] at isObject
      rw [← isObject]
      exact canonicalMembers_sorted raw List.Pairwise.nil
  | _ =>
      rw [canonical] at isObject
      cases isObject

end JsonTree

end TaskLink
