import TaskLink.Proofs.Json.Members
import TaskLink.Proofs.Json.Readings

/-!
# Reading what was written

A value whose numbers are whole and whose objects are sorted is read back from
its compact text, unless it is nested too deep to be read at all.
-/

namespace TaskLink

/-! ## Values that a text holds exactly -/

/-- Values with whole numbers of 64 bits only, and with objects sorted as a reader leaves them. -/
inductive Json.IsPlain : Json → Prop where
  | null : IsPlain .null
  | bool (value : Bool) : IsPlain (.bool value)
  | number {value : Int} (fits : FitsWord value) : IsPlain (.number (.whole value))
  | text (value : String) : IsPlain (.text value)
  | array {items : List Json} (plain : ∀ item ∈ items, IsPlain item) : IsPlain (.array items)
  | object {members : List (String × Json)} (sorted : JsonTree.AreSorted members)
      (plain : ∀ member ∈ members, IsPlain member.2) : IsPlain (.object members)

namespace JsonTree

/-! ### Canonical form -/

theorem insertMember_of_last {ν : Type} {key : String} {members : List (String × JsonTree ν String)}
    (isLast : ∀ member ∈ members, member.1 < key) (value : JsonTree ν String) :
    insertMember key value members = members ++ [(key, value)] := by
  induction members with
  | nil => rfl
  | cons member rest ih =>
      obtain ⟨first, found⟩ := member
      have isMore : first < key := isLast _ List.mem_cons_self
      have notLess : ¬ key < first := String.lt_asymm isMore
      have different : ¬ key = first := fun same => String.lt_irrefl first (same ▸ isMore)
      have later := ih fun member isIn => isLast member (List.mem_cons_of_mem _ isIn)
      simp [insertMember, notLess, different, later]

theorem canonicalItems_of_canonical {ν : Type} {items : List (JsonTree ν String)}
    (canonical : ∀ item ∈ items, item.canonical = item) : canonicalItems items = items := by
  induction items with
  | nil => rfl
  | cons item rest ih =>
      have later := ih fun found isIn => canonical found (List.mem_cons_of_mem _ isIn)
      rw [canonicalItems, canonical item List.mem_cons_self, later]

theorem canonicalMembers_of_sorted {ν : Type} {members done : List (String × JsonTree ν String)}
    (sorted : AreSorted (done ++ members))
    (canonical : ∀ member ∈ members, member.2.canonical = member.2) :
    canonicalMembers members done = done ++ members := by
  induction members generalizing done with
  | nil => rw [canonicalMembers, List.append_nil]
  | cons member rest ih =>
      obtain ⟨key, value⟩ := member
      have isLast : ∀ earlier ∈ done, earlier.1 < key := by
        intro earlier isIn
        exact (List.pairwise_append.mp sorted).2.2 earlier isIn _ List.mem_cons_self
      have later := ih (List.append_cons done (key, value) rest ▸ sorted) fun found isIn =>
        canonical found (List.mem_cons_of_mem _ isIn)
      rw [canonicalMembers, canonical _ List.mem_cons_self, insertMember_of_last isLast, later,
        List.append_assoc, List.singleton_append]

theorem canonical_of_isPlain {value : Json} (plain : value.IsPlain) : value.canonical = value := by
  induction plain with
  | array plain ih => rw [canonical, canonicalItems_of_canonical ih]
  | object sorted plain ih =>
      rw [canonical, canonicalMembers_of_sorted (by simpa using sorted) ih, List.nil_append]
  | _ => rw [canonical]

end JsonTree

/-! ## The machine along a text -/

namespace JsonReading

variable {limit : Nat}

/-- Trees that are each one of some values, in their order, are those values. -/
theorem eq_of_meanings {values trees : List Json}
    (areMeant : List.Forall₂ (fun means tree => means tree)
      (values.map fun (value tree : Json) => tree = value) trees) : trees = values := by
  induction values generalizing trees with
  | nil =>
      cases areMeant
      rfl
  | cons value rest ih =>
      cases areMeant with
      | cons isMeant others => rw [isMeant, ih others]

/-- The text of a plain value is read as that value. -/
theorem reads_of_isPlain {value : Json} (plain : value.IsPlain) :
    (JsonReading.values limit).Reads value.depth value.compactChars (· = value) := by
  induction plain with
  | null => exact reads_null
  | bool value => exact reads_bool value
  | number fits => exact reads_whole fits
  | text value => exact reads_text value
  | @array items plain ih =>
      rw [Json.compactChars_array]
      have each : List.Forall₂ ((JsonReading.values limit).Reads (JsonTree.itemsDepth items))
          (items.map Json.compactChars) (items.map fun (value tree : Json) => tree = value) := by
        rw [List.forall₂_map_left_iff, List.forall₂_map_right_iff, List.forall₂_same]
        intro item isIn
        exact (ih item isIn).mono (JsonTree.itemsDepth_le_iff.mp (Nat.le_refl _) item isIn)
          fun _ same => same
      refine (reads_array each).mono (Nat.le_refl _) ?_
      rintro _ ⟨trees, rfl, areMeant⟩
      rw [eq_of_meanings areMeant]
  | @object members sorted plain ih =>
      rw [Json.compactChars_object]
      have each : List.Forall₂
          (fun member => (JsonReading.values limit).Reads (JsonTree.membersDepth members) member.2)
          (members.map fun member => (member.1, member.2.compactChars))
          ((members.map Prod.snd).map fun (value tree : Json) => tree = value) := by
        rw [List.map_map, List.forall₂_map_left_iff, List.forall₂_map_right_iff, List.forall₂_same]
        intro member isIn
        exact (ih member isIn).mono (JsonTree.membersDepth_le_iff.mp (Nat.le_refl _) member isIn)
          fun _ same => same
      refine (reads_object each).mono (Nat.le_refl _) ?_
      rintro _ ⟨trees, rfl, areMeant⟩
      rw [eq_of_meanings areMeant, List.zipWith_map]
      simp [JsonReading.values]

end JsonReading

/-! ## Texts -/

namespace Json

variable {value : Json}

/-- What is written of a plain value is that value, if it is not nested too deep. -/
theorem written_compact (plain : value.IsPlain) (shallow : value.depth ≤ jsonDepthLimit) :
    written value.compact = .ok value := by
  have room : (JsonReading.values jsonDepthLimit).HasRoom 0 value.depth := by
    rintro _ ⟨⟩
    rwa [Nat.zero_add]
  obtain ⟨tree, rfl, isRead⟩ := (JsonReading.reads_of_isPlain plain).readOn room
  rw [written, compact, String.toList_ofList]
  exact isRead

/-- A plain value is read back from its compact text. -/
theorem read?_compact (plain : value.IsPlain) (shallow : value.depth ≤ jsonDepthLimit) :
    read? value.compact = some value := by
  rw [read?_of_written (written_compact plain shallow), JsonTree.canonical_of_isPlain plain]

end Json

end TaskLink
