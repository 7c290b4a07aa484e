import Mathlib.Data.List.Forall2
import TaskLink.Link.Record
import TaskLink.Proofs.Json.Framing

/-!
# Texts of records

A record may be written as an array of its fields in their order, or as an
object of them in any order.  An open record may have other members besides,
which have to respect the grammar and nothing more.
-/

namespace TaskLink

open Json (arrayText objectText)

inductive IsRecordText (isOpen : Bool) (fields : List (String × List Char)) : List Char → Prop where
  | array : IsRecordText isOpen fields (arrayText (fields.map Prod.snd))
  | object {members others : List (String × List Char)} (order : members.Perm (fields ++ others))
      (unknown : ∀ other ∈ others, other.1 ∉ fields.map Prod.fst)
      (accepted : ∀ other ∈ others, IsAccepted other.2) (closed : isOpen = false → others = []) :
      IsRecordText isOpen fields (objectText members)

structure JsonDraft.IsRecord (isOpen : Bool) (names : List String)
    (meanings : List (JsonDraft → Prop)) (draft : JsonDraft) : Prop where
  fields : ∃ values, draft.record? names = some (values.map some) ∧
    List.Forall₂ (fun means value => means value) meanings values
  closed : isOpen = false → draft.knowsOnly names = true

namespace JsonDraft

/-! ## Fields -/

/-- As many items as there are names are the fields. -/
theorem orderedFields?_eq_some {names : List String} {items : List JsonDraft}
    (sameLength : names.length = items.length) :
    orderedFields? names items = some (items.map some) := by
  induction names generalizing items with
  | nil =>
      cases items with
      | nil => rfl
      | cons item rest => cases sameLength
  | cons name names ih =>
      cases items with
      | nil => cases sameLength
      | cons item rest => simp [orderedFields?, ih (Nat.succ.inj sameLength)]

/-- What fields are to be can be told from their names. -/
theorem exists_meanings {names : List String} (distinct : names.Nodup)
    {meanings : List (JsonDraft → Prop)} (sameLength : names.length = meanings.length) :
    ∃ means : String → JsonDraft → Prop, names.map means = meanings := by
  induction names generalizing meanings with
  | nil =>
      cases meanings with
      | nil => exact ⟨fun _ _ => True, rfl⟩
      | cons first rest => cases sameLength
  | cons name names ih =>
      cases meanings with
      | nil => cases sameLength
      | cons first rest =>
          obtain ⟨notLater, distinct⟩ := List.nodup_cons.mp distinct
          obtain ⟨means, others⟩ := ih distinct (Nat.succ.inj sameLength)
          refine ⟨fun asked => if asked = name then first else means asked, ?_⟩
          rw [List.map_cons, if_pos rfl, ← others]
          refine congrArg (first :: ·) (List.map_congr_left fun other isLater => ?_)
          have different : other ≠ name := by
            rintro rfl
            exact notLater isLater
          exact if_neg different

/-- A draft under a key is what the member with that key is to be. -/
def Fits (means : String → JsonDraft → Prop) (member : String × List Char)
    (found : String × JsonDraft) : Prop :=
  found.1 = member.1 ∧ means member.1 found.2

theorem keyed?_zipWith (members : List (String × List Char)) (trees : List JsonDraft) :
    keyed? (List.zipWith (fun member tree => (Except.ok member.1, tree)) members trees) =
      some (List.zipWith (fun member tree => (member.1, tree)) members trees) := by
  induction members generalizing trees with
  | nil => rfl
  | cons member rest ih =>
      cases trees with
      | nil => rfl
      | cons tree trees => simp [keyed?, ih]

theorem fits_zipWith {means : String → JsonDraft → Prop} {members : List (String × List Char)}
    {trees : List JsonDraft}
    (areMeant : List.Forall₂ (fun member tree => means member.1 tree) members trees) :
    List.Forall₂ (Fits means) members
      (List.zipWith (fun member tree => (member.1, tree)) members trees) := by
  induction areMeant with
  | nil => exact .nil
  | cons isMeant others ih => exact .cons ⟨rfl, isMeant⟩ ih

theorem knowsOnly_zipWith {names : List String} {members : List (String × List Char)}
    (trees : List JsonDraft) (areNames : ∀ member ∈ members, member.1 ∈ names) :
    knowsOnly names
      (.object (List.zipWith (fun member tree => (Except.ok member.1, tree)) members trees)) := by
  rw [knowsOnly, List.all_eq_true]
  intro found isIn
  obtain ⟨index, inside, rfl⟩ := List.mem_iff_getElem.mp isIn
  simp only [List.getElem_zipWith, List.contains_iff_mem]
  exact areNames _ (List.getElem_mem _)

theorem filter_of_mem {fields : List (String × List Char)} {field : String × List Char}
    (distinct : (fields.map Prod.fst).Nodup) (isIn : field ∈ fields) :
    fields.filter (fun member => member.1 == field.1) = [field] := by
  induction fields with
  | nil => cases isIn
  | cons first rest ih =>
      obtain ⟨notLater, distinct⟩ := List.nodup_cons.mp distinct
      rcases List.mem_cons.mp isIn with rfl | isIn
      · have none : rest.filter (fun member => member.1 == field.1) = [] := by
          rw [List.filter_eq_nil_iff]
          intro member isIn same
          exact notLater (List.mem_map.mpr ⟨member, isIn, eq_of_beq same⟩)
        simp [none]
      · have different : first.1 ≠ field.1 := by
          intro same
          exact notLater (List.mem_map.mpr ⟨field, isIn, same.symm⟩)
        simp [different, ih distinct isIn]

/-- What stands under the name of a field that was written once is what the field is to be. -/
theorem field?_of_order {means : String → JsonDraft → Prop}
    {members fields others : List (String × List Char)} {found : List (String × JsonDraft)}
    {field : String × List Char} (fits : List.Forall₂ (Fits means) members found)
    (order : members.Perm (fields ++ others)) (distinct : (fields.map Prod.fst).Nodup)
    (unknown : ∀ other ∈ others, other.1 ∉ fields.map Prod.fst) (isIn : field ∈ fields) :
    ∃ value, field? field.1 found = some (some value) ∧ means field.1 value := by
  have noOther : others.filter (fun member => member.1 == field.1) = [] := by
    rw [List.filter_eq_nil_iff]
    intro other isOther same
    exact unknown other isOther (List.mem_map.mpr ⟨field, isIn, (eq_of_beq same).symm⟩)
  have once : members.filter (fun member => member.1 == field.1) = [field] := by
    have filtered := order.filter fun member => member.1 == field.1
    rw [List.filter_append, noOther, List.append_nil, filter_of_mem distinct isIn] at filtered
    exact List.perm_singleton.mp filtered
  have kept : List.Forall₂ (Fits means) (members.filter fun member => member.1 == field.1)
      (found.filter fun member => member.1 == field.1) := by
    refine List.rel_filter ?_ fits
    intro member found fits
    change (member.1 == field.1) = true ↔ (found.1 == field.1) = true
    rw [fits.1]
  rw [once] at kept
  unfold field?
  generalize found.filter (fun member => member.1 == field.1) = standing at kept
  cases kept with
  | cons fits none =>
      cases none
      exact ⟨_, rfl, fits.2⟩

/-- Fields that are each found once are found one after the other. -/
theorem mapM_field? {means : String → JsonDraft → Prop} {names : List String}
    {found : List (String × JsonDraft)}
    (each : ∀ name ∈ names, ∃ value, field? name found = some (some value) ∧ means name value) :
    ∃ values, names.mapM (field? · found) = some (values.map some) ∧
      List.Forall₂ (fun means value => means value) (names.map means) values := by
  induction names with
  | nil => exact ⟨[], rfl, .nil⟩
  | cons name rest ih =>
      obtain ⟨⟨value, isFound, isMeant⟩, others⟩ := List.forall_mem_cons.mp each
      obtain ⟨values, areFound, areMeant⟩ := ih others
      refine ⟨value :: values, ?_, .cons isMeant areMeant⟩
      simp [List.mapM_cons, isFound, areFound]

end JsonDraft

namespace JsonReading

theorem hasRoom_drafts (level depth : Nat) : drafts.HasRoom level depth :=
  fun _ isLimit => nomatch isLimit

section Records

variable {fields members others : List (String × List Char)} {chars : List Char} {isOpen : Bool}
  {means : String → JsonDraft → Prop}

/-- An array of the texts of fields is read as a record that has them. -/
theorem reads_ordered (each : ∀ field ∈ fields, drafts.Reads 0 field.2 (means field.1)) :
    drafts.Reads 0 (arrayText (fields.map Prod.snd))
      (JsonDraft.IsRecord isOpen (fields.map Prod.fst) ((fields.map Prod.fst).map means)) := by
  have items : List.Forall₂ (drafts.Reads 0) (fields.map Prod.snd)
      ((fields.map Prod.fst).map means) := by
    rw [List.map_map, List.forall₂_map_left_iff, List.forall₂_map_right_iff, List.forall₂_same]
    exact each
  intro state around rest awaits _ ends
  obtain ⟨_, ⟨trees, rfl, areMeant⟩, leads⟩ :=
    reads_array items state around rest awaits (hasRoom_drafts _ _) ends
  have sameLength := areMeant.length_eq
  rw [List.length_map] at sameLength
  have arity : JsonDraft.hasArity (fields.map Prod.fst).length (.array trees) = true := by
    simp [JsonDraft.hasArity, sameLength]
  refine ⟨_, ⟨⟨trees, ?_, areMeant⟩, fun _ => rfl⟩, leads⟩
  rw [JsonDraft.record?, if_pos arity]
  exact JsonDraft.orderedFields?_eq_some sameLength

/-- An object of fields and others, in any order, is read as a record that has the fields. -/
theorem reads_named (order : members.Perm (fields ++ others))
    (distinct : (fields.map Prod.fst).Nodup)
    (unknown : ∀ other ∈ others, other.1 ∉ fields.map Prod.fst)
    (accepted : ∀ other ∈ others, IsAccepted other.2) (closed : isOpen = false → others = [])
    (each : ∀ field ∈ fields, drafts.Reads 0 field.2 (means field.1)) :
    drafts.Reads 0 (objectText members)
      (JsonDraft.IsRecord isOpen (fields.map Prod.fst) ((fields.map Prod.fst).map means)) := by
  -- What a member is to be matters only if its name is that of a field.
  let asked (name : String) (draft : JsonDraft) : Prop :=
    name ∈ fields.map Prod.fst → means name draft
  have all : List.Forall₂ (fun member => drafts.Reads 0 member.2) members
      (members.map fun member => asked member.1) := by
    rw [List.forall₂_map_right_iff, List.forall₂_same]
    intro member isIn
    rcases List.mem_append.mp (order.mem_iff.mp isIn) with isField | isOther
    · exact (each member isField).mono (Nat.le_refl _) fun _ isMeant _ => isMeant
    · exact (reads_of_isAccepted (accepted member isOther)).mono (Nat.le_refl _)
        fun _ _ isName => absurd isName (unknown member isOther)
  intro state around rest awaits _ ends
  obtain ⟨_, ⟨trees, rfl, areMeant⟩, leads⟩ :=
    reads_object all state around rest awaits (hasRoom_drafts _ _) ends
  rw [List.forall₂_map_left_iff] at areMeant
  have fits := JsonDraft.fits_zipWith areMeant
  have standing : ∀ name ∈ fields.map Prod.fst, ∃ value,
      JsonDraft.field? name (List.zipWith (fun member tree => (member.1, tree)) members trees) =
        some (some value) ∧ means name value := by
    intro name isName
    obtain ⟨field, isField, rfl⟩ := List.mem_map.mp isName
    obtain ⟨value, isFound, isMeant⟩ :=
      JsonDraft.field?_of_order fits order distinct unknown isField
    exact ⟨value, isFound, isMeant isName⟩
  obtain ⟨values, areFound, valuesMeant⟩ := JsonDraft.mapM_field? standing
  refine ⟨_, ⟨⟨values, ?_, valuesMeant⟩, fun isClosed => ?_⟩, leads⟩
  · simp only [JsonDraft.record?, JsonDraft.hasArity, JsonDraft.fields?, JsonDraft.namedFields?]
    rw [drafts, JsonDraft.keyed?_zipWith]
    exact areFound
  · rw [closed isClosed, List.append_nil] at order
    refine JsonDraft.knowsOnly_zipWith trees fun member isIn => ?_
    exact List.mem_map.mpr ⟨member, order.mem_iff.mp isIn, rfl⟩

/-- A text of a record is read as a draft that holds it. -/
theorem reads_record {meanings : List (JsonDraft → Prop)}
    (isText : IsRecordText isOpen fields chars) (distinct : (fields.map Prod.fst).Nodup)
    (each : List.Forall₂ (fun field means => drafts.Reads 0 field.2 means) fields meanings) :
    drafts.Reads 0 chars (JsonDraft.IsRecord isOpen (fields.map Prod.fst) meanings) := by
  have sameLength := each.length_eq
  rw [← List.length_map Prod.fst] at sameLength
  obtain ⟨means, rfl⟩ := JsonDraft.exists_meanings distinct sameLength
  rw [List.map_map, List.forall₂_map_right_iff, List.forall₂_same] at each
  cases isText with
  | array => exact reads_ordered each
  | object order unknown accepted closed =>
      exact reads_named order distinct unknown accepted closed each

end Records

end JsonReading

end TaskLink
