import Mathlib.Data.List.DropRight
import Mathlib.Data.List.Nodup
import TaskLink.Configuration.Search

/-!
# The nearest configuration file

A directory is the row of names that leads to it from the root.  Its parents
are the shorter beginnings of that row, so the searched paths are numbered by
the height at which they lie above the working directory.
-/

namespace TaskLink

/-! ## Directories by their names -/

def IsPathName (name : String) : Prop :=
  name ≠ "" ∧ '/' ∉ name.toList

instance : DecidablePred IsPathName := fun name =>
  inferInstanceAs (Decidable (name ≠ "" ∧ '/' ∉ name.toList))

theorem isPathName_fileName : IsPathName "ctrlink.toml" := by
  decide

def absolutePath (names : List String) : String :=
  "/" ++ "/".intercalate names

def slashed (names : List String) : List Char :=
  names.flatMap fun name => '/' :: name.toList

theorem slashed_concat (names : List String) (name : String) :
    slashed (names ++ [name]) = slashed names ++ '/' :: name.toList := by
  simp [slashed]

theorem slashed_eq_nil_iff {names : List String} : slashed names = [] ↔ names = [] := by
  cases names <;> simp [slashed]

theorem toList_intercalate_slash (name : String) (rest : List String) :
    ("/".intercalate (name :: rest)).toList = name.toList ++ slashed rest := by
  induction rest generalizing name with
  | nil => simp [slashed]
  | cons next later ih =>
      rw [String.intercalate_cons_cons, String.toList_append, String.toList_append, ih]
      simp [slashed]

@[simp]
theorem absolutePath_nil : absolutePath [] = "/" := rfl

theorem toList_absolutePath {names : List String} (below : names ≠ []) :
    (absolutePath names).toList = slashed names := by
  cases names with
  | nil => exact absurd rfl below
  | cons name rest =>
      rw [absolutePath, String.toList_append, toList_intercalate_slash]
      rfl

theorem toList_absolutePath_concat (names : List String) (name : String) :
    (absolutePath (names ++ [name])).toList = slashed names ++ '/' :: name.toList := by
  rw [toList_absolutePath (List.append_ne_nil_of_right_ne_nil _ (List.cons_ne_nil _ _)),
    slashed_concat]

/-! ## One step up and down -/

theorem endsWith_slash_iff {path : String} :
    path.endsWith "/" = true ↔ ['/'] <:+ path.toList := by
  rw [String.endsWith_eq_endsWith_toSlice, String.Slice.endsWith_string_iff]
  simp

/-- A path ends with the last of its names, and so with no slash. -/
theorem not_endsWith_slash_concat (parents : List String) {name : String}
    (isNamed : IsPathName name) : (absolutePath (parents ++ [name])).endsWith "/" = false := by
  rw [← Bool.not_eq_true, endsWith_slash_iff, toList_absolutePath_concat]
  intro endsSlashed
  have endsNamed : name.toList <:+ slashed parents ++ '/' :: name.toList :=
    (List.suffix_cons '/' name.toList).trans (List.suffix_append _ _)
  have nonempty : name.toList ≠ [] := fun isNil => isNamed.1 (String.toList_eq_nil_iff.mp isNil)
  have inside : ['/'] <:+ name.toList :=
    List.suffix_of_suffix_length_le endsSlashed endsNamed (List.length_pos_iff.mpr nonempty)
  exact isNamed.2 (inside.subset List.mem_cons_self)

theorem inDirectory_absolutePath {names : List String}
    (named : ∀ name ∈ names, IsPathName name) (name : String) :
    inDirectory (absolutePath names) name = absolutePath (names ++ [name]) := by
  apply String.toList_inj.mp
  rw [toList_absolutePath_concat, inDirectory]
  induction names using List.reverseRecOn with
  | nil =>
      rw [absolutePath_nil, if_pos (endsWith_slash_iff.mpr (List.suffix_refl _))]
      exact String.toList_append
  | append_singleton parents last _ =>
      have isNamed : IsPathName last := named last (by simp)
      rw [not_endsWith_slash_concat parents isNamed]
      simp only [Bool.false_eq_true, if_false, String.toList_append, toList_absolutePath_concat,
        slashed_concat]
      simp

theorem parentDirectory?_root : parentDirectory? (absolutePath []) = none := by
  decide

theorem parentDirectory?_concat (parents : List String) {name : String}
    (isNamed : IsPathName name) :
    parentDirectory? (absolutePath (parents ++ [name])) = some (absolutePath parents) := by
  have cut : (absolutePath (parents ++ [name])).toList.reverse.dropWhile (· != '/') =
      '/' :: (slashed parents).reverse := by
    have noSlash : ∀ c ∈ name.toList.reverse, (c != '/') = true := by
      intro c isIn
      rw [bne_iff_ne]
      rintro rfl
      exact isNamed.2 (List.mem_reverse.mp isIn)
    rw [toList_absolutePath_concat, List.reverse_append, List.reverse_cons, List.append_assoc,
      List.dropWhile_append_of_pos noSlash]
    rfl
  unfold parentDirectory?
  rw [cut]
  cases above : (slashed parents).reverse with
  | nil =>
      have atRoot : parents = [] := slashed_eq_nil_iff.mp (List.reverse_eq_nil_iff.mp above)
      have notRoot : absolutePath (parents ++ [name]) ≠ "/" := by
        intro isRoot
        have nameless := congrArg String.toList isRoot
        rw [toList_absolutePath_concat, atRoot] at nameless
        exact isNamed.1 (String.toList_eq_nil_iff.mp (List.cons.inj nameless).2)
      rw [atRoot] at notRoot ⊢
      simpa using notRoot
  | cons c rest =>
      have below : parents ≠ [] := by
        rintro rfl
        exact absurd above (by simp [slashed])
      have path : absolutePath parents = String.ofList (c :: rest).reverse := by
        rw [← above, List.reverse_reverse, ← toList_absolutePath below, String.ofList_toList]
      rw [path]
      rfl

namespace Configuration

/-! ## Heights -/

def pathAbove (names : List String) (height : Nat) : String :=
  absolutePath (names.rdrop height ++ ["ctrlink.toml"])

/-- How far above a directory the search goes: five levels, or fewer if the root comes first. -/
def highest (names : List String) : Nat :=
  min 5 names.length

def pathsFrom (names : List String) : List String :=
  (List.range (highest names + 1)).map (pathAbove names)

theorem withParents_eq {names : List String} (named : ∀ name ∈ names, IsPathName name)
    (count : Nat) :
    withParents count (absolutePath names) =
      (List.range (min count names.length + 1)).map fun height =>
        absolutePath (names.rdrop height) := by
  induction count generalizing names with
  | zero => simp [withParents]
  | succ count ih =>
      induction names using List.reverseRecOn with
      | nil => rw [withParents, parentDirectory?_root]; simp
      | append_singleton parents last _ =>
          have isNamed : IsPathName last := named last (by simp)
          have above : ∀ name ∈ parents, IsPathName name := fun name isIn =>
            named name (List.mem_append_left _ isIn)
          have shorter : min (count + 1) (parents ++ [last]).length =
              min count parents.length + 1 := by
            rw [List.length_append, List.length_singleton]
            omega
          rw [withParents, parentDirectory?_concat parents isNamed, shorter,
            List.range_succ_eq_map, List.map_cons, List.map_map]
          dsimp only
          rw [ih above, List.rdrop_zero]
          congr 1
          exact List.map_congr_left fun height _ => by
            rw [Function.comp_apply, List.rdrop_concat_succ]

/-- The searched paths are those in the directory and in its nearest parents. -/
theorem searchPaths_eq {names : List String} (named : ∀ name ∈ names, IsPathName name) :
    searchPaths (some (absolutePath names)) = pathsFrom names := by
  rw [searchPaths, withParents_eq named, List.map_map]
  refine List.map_congr_left fun height _ => inDirectory_absolutePath ?_ _
  exact fun name isIn => named name (List.mem_of_mem_take isIn)

theorem count_slashed {names : List String} (named : ∀ name ∈ names, IsPathName name) :
    (slashed names).count '/' = names.length := by
  induction names with
  | nil => rfl
  | cons name rest ih =>
      have noSlash : name.toList.count '/' = 0 :=
        List.count_eq_zero.mpr (named name List.mem_cons_self).2
      have split : slashed (name :: rest) = '/' :: name.toList ++ slashed rest := rfl
      rw [split, List.count_append, List.count_cons_self, noSlash,
        ih fun other isIn => named other (List.mem_cons_of_mem _ isIn), List.length_cons]
      omega

/-- The slashes of a path tell how high it lies. -/
theorem count_pathAbove {names : List String} (named : ∀ name ∈ names, IsPathName name)
    (height : Nat) : (pathAbove names height).toList.count '/' = names.length - height + 1 := by
  have above : ∀ name ∈ names.rdrop height ++ ["ctrlink.toml"], IsPathName name := by
    intro name isIn
    rcases List.mem_append.mp isIn with isIn | isFile
    · exact named name (List.mem_of_mem_take isIn)
    · exact List.mem_singleton.mp isFile ▸ isPathName_fileName
  rw [pathAbove, toList_absolutePath (by simp), count_slashed above]
  simp [List.rdrop]

theorem pathAbove_inj {names : List String} (named : ∀ name ∈ names, IsPathName name)
    {height other : Nat} (within : height ≤ names.length) (otherWithin : other ≤ names.length)
    (same : pathAbove names height = pathAbove names other) : height = other := by
  have counted := count_pathAbove named height
  rw [same, count_pathAbove named other] at counted
  omega

theorem pathsFrom_nodup {names : List String} (named : ∀ name ∈ names, IsPathName name) :
    (pathsFrom names).Nodup := by
  refine List.Nodup.map_on (fun height isIn other otherIn same => ?_) List.nodup_range
  have within : highest names ≤ names.length := Nat.min_le_right _ _
  rw [List.mem_range] at isIn otherIn
  exact pathAbove_inj named (by omega) (by omega) same

/-! ## The search -/

/-- The file lies at a height above a directory and at none below it. -/
def IsNearest (files : FileView) (names : List String) (height : Nat) : Prop :=
  files.has (pathAbove names height) = true ∧
    ∀ lower < height, files.has (pathAbove names lower) = false

section Search

variable {files : FileView} {environment : Environment} {names : List String}

theorem findConfiguration_of_unset (files : FileView)
    (unset : environment.get? "CTRLINK_CONFIG_PATH" = none)
    (named : ∀ name ∈ names, IsPathName name) :
    findConfiguration files environment (some (absolutePath names)) =
      ((pathsFrom names).find? files.has).elim
        (.error (.notFound (searchReport (pathsFrom names)))) .ok := by
  unfold findConfiguration configurationPathVariable
  rw [unset, searchPaths_eq named]
  dsimp only
  cases (pathsFrom names).find? files.has with
  | none => rfl
  | some path => rfl

theorem find?_pathsFrom_eq_some_iff {path : String} :
    (pathsFrom names).find? files.has = some path ↔
      ∃ height ≤ highest names, IsNearest files names height ∧ path = pathAbove names height := by
  rw [pathsFrom, List.find?_map, Option.map_eq_some_iff]
  refine exists_congr fun height => ?_
  rw [List.find?_range_eq_some, List.mem_range, Nat.lt_succ_iff]
  simp only [IsNearest, Function.comp_apply, Bool.not_eq_true']
  tauto

theorem find?_pathsFrom_eq_none_iff :
    (pathsFrom names).find? files.has = none ↔
      ∀ height ≤ highest names, files.has (pathAbove names height) = false := by
  simp only [pathsFrom, List.find?_map, Option.map_eq_none_iff, List.find?_eq_none, List.mem_range,
    Nat.lt_succ_iff, Function.comp_apply, Bool.not_eq_true]

/-- A variable that is set decides alone where the file is. -/
theorem findConfiguration_of_set {path : String}
    (set : environment.get? "CTRLINK_CONFIG_PATH" = some path) (files : FileView)
    (workingDirectory : Option String) :
    findConfiguration files environment workingDirectory =
      if files.has path then .ok path
      else .error (.notFound
        ("Config file specified by CTRLINK_CONFIG_PATH not found: " ++ path)) := by
  unfold findConfiguration configurationPathVariable
  rw [set]
  rfl

end Search

theorem searchReport_eq (paths : List String) :
    searchReport paths =
      "'ctrlink.toml' not found in any of these locations:\n" ++
        "\n".intercalate (paths.map ("  - " ++ ·)) ++
        "\n\nSet CTRLINK_CONFIG_PATH to specify a custom location." := rfl

/--
The file in the nearest directory is found, whatever else exists, if the
variable is not set or is set to something that is not text; without one the
report lists the searched paths once each.  A variable that is set to a text
spares the search.
-/
theorem nearest_file_is_found (files : FileView) (environment : Environment)
    (names : List String) (named : ∀ name ∈ names, IsPathName name) :
    (environment.bytes? "CTRLINK_CONFIG_PATH" = none ∨
        environment.IsGarbled "CTRLINK_CONFIG_PATH" →
      (∀ path, findConfiguration files environment (some (absolutePath names)) = .ok path ↔
        ∃ height ≤ highest names, IsNearest files names height ∧
          path = pathAbove names height) ∧
      (∀ height ≤ names.length,
        findConfiguration files environment (some (absolutePath names)) =
          .ok (pathAbove names height) → height ≤ 5) ∧
      (∀ error, findConfiguration files environment (some (absolutePath names)) = .error error ↔
        (∀ height ≤ highest names, files.has (pathAbove names height) = false) ∧
          error = .notFound
            ("'ctrlink.toml' not found in any of these locations:\n" ++
              "\n".intercalate ((pathsFrom names).map ("  - " ++ ·)) ++
              "\n\nSet CTRLINK_CONFIG_PATH to specify a custom location.")) ∧
      (pathsFrom names).Nodup) ∧
    (∀ path, environment.bytes? "CTRLINK_CONFIG_PATH" = some path.toUTF8 → ∀ workingDirectory,
      findConfiguration files environment workingDirectory =
        if files.has path then .ok path
        else .error (.notFound
          ("Config file specified by CTRLINK_CONFIG_PATH not found: " ++ path))) := by
  refine ⟨fun textless => ?_, fun path set =>
    findConfiguration_of_set (Environment.get?_eq_some_iff.mpr set) files⟩
  have searched :=
    findConfiguration_of_unset files (Environment.get?_eq_none_iff.mpr textless) named
  have found : ∀ path,
      findConfiguration files environment (some (absolutePath names)) = .ok path ↔
        ∃ height ≤ highest names, IsNearest files names height ∧
          path = pathAbove names height := by
    intro path
    rw [← find?_pathsFrom_eq_some_iff, searched]
    cases (pathsFrom names).find? files.has <;> simp
  refine ⟨found, fun height within isFound => ?_, fun error => ?_, pathsFrom_nodup named⟩
  · obtain ⟨nearest, atMost, -, same⟩ := (found _).mp isFound
    have capped : nearest ≤ 5 ∧ nearest ≤ names.length := Nat.le_min.mp atMost
    rw [pathAbove_inj named within capped.2 same]
    exact capped.1
  · rw [← find?_pathsFrom_eq_none_iff, searched, ← searchReport_eq]
    cases (pathsFrom names).find? files.has <;> simp [eq_comm]

/-- The highest directory that is searched holds a file, and so does the root above it. -/
theorem nearest_file_is_found_five_levels_up :
    (∀ name ∈ ["home", "task", "link", "src", "crates", "tool"], IsPathName name) ∧
    findConfiguration
        (fun path =>
          if path = "/ctrlink.toml" ∨ path = "/home/ctrlink.toml" then some (.ok .empty) else none)
        ⟨[]⟩ (some "/home/task/link/src/crates/tool") =
      .ok "/home/ctrlink.toml" := by
  have named : ∀ name ∈ ["home", "task", "link", "src", "crates", "tool"], IsPathName name := by
    decide
  refine ⟨named, (((nearest_file_is_found _ ⟨[]⟩ _ named).1 (.inl rfl)).1 _).mpr ?_⟩
  refine ⟨5, by decide, ⟨by decide +kernel, ?_⟩, by decide +kernel⟩
  decide +kernel

/-- A path that nothing lies under and that is not text does not keep directories from search. -/
theorem garbled_path_does_not_spare_search :
    ∃ environment : Environment,
      environment.bytes? "CTRLINK_CONFIG_PATH" = some ⟨#[0x2f, 0xff]⟩ ∧
      environment.IsGarbled "CTRLINK_CONFIG_PATH" ∧
      findConfiguration
          (fun path => if path = "/work/ctrlink.toml" then some (.ok .empty) else none)
          environment (some "/work") =
        .ok "/work/ctrlink.toml" := by
  refine ⟨⟨[("CTRLINK_CONFIG_PATH", ⟨#[0x2f, 0xff]⟩)]⟩, rfl, ⟨_, rfl, ?_⟩, ?_⟩
  · decide +kernel
  · decide +kernel

end Configuration

end TaskLink
