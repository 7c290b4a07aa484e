import TaskLink.Proofs.Json.Records

/-!
# Texts of settings

Endpoints, options and the settings of clients and servers are read back from
what is written of them, also if every record in it is laid out otherwise: in
another order, with members that nobody knows, or as an array.  A duration
alone refuses members that it does not know.
-/

namespace TaskLink

open JsonReading (drafts reads_null reads_bool reads_whole reads_record)

/-! ## Leaves -/

section Leaves

variable {bound n : Nat}

theorem FitsWord.of_lt (fits : n < UInt64.size) : FitsWord n := by
  unfold FitsWord
  have size : UInt64.size = 18446744073709551616 := rfl
  omega

theorem FitsWord.of_int32 (value : Int32) : FitsWord value.toInt := by
  have least := value.le_toInt
  have most := value.toInt_lt
  unfold FitsWord
  omega

theorem reads_natBelow (fits : n < bound) (word : bound ≤ UInt64.size) :
    drafts.Reads 0 (Json.compactChars (Json.ofInt n)) fun draft =>
      JsonDraft.natBelow? bound draft = some n := by
  refine (reads_whole (FitsWord.of_lt (Nat.lt_of_lt_of_le fits word))).mono (Nat.le_refl _) ?_
  rintro _ rfl
  exact if_pos fits

theorem reads_int32 (value : Int32) :
    drafts.Reads 0 (Json.compactChars (Json.ofInt value.toInt)) fun draft =>
      JsonDraft.int32? draft = some value := by
  refine (reads_whole (FitsWord.of_int32 value)).mono (Nat.le_refl _) ?_
  rintro _ rfl
  have inRange : Int32.minValue.toInt ≤ value.toInt ∧ value.toInt ≤ Int32.maxValue.toInt :=
    ⟨value.minValue_le_toInt, value.toInt_le⟩
  exact (if_pos inRange).trans (congrArg some (Int32.ofInt_toInt value))

theorem reads_text? (text : String) :
    drafts.Reads 0 (Json.compactChars (.text text)) fun draft =>
      JsonDraft.text? draft = some text := by
  refine (JsonReading.reads_text text).mono (Nat.le_refl _) ?_
  rintro _ rfl
  rfl

theorem reads_bool? (value : Bool) :
    drafts.Reads 0 (Json.compactChars (.bool value)) fun draft =>
      JsonDraft.bool? draft = some value := by
  refine (reads_bool value).mono (Nat.le_refl _) ?_
  rintro _ rfl
  rfl

end Leaves

/-! ## Records of leaves -/

def Json.memberTexts : Json → List (String × List Char)
  | .object members => members.map fun member => (member.1, compactChars member.2)
  | _ => []

/-- What is written of a record is a text of it. -/
theorem isRecordText_compactChars {isOpen : Bool} (record : Json)
    {members : List (String × Json)} (isObject : record = .object members) :
    IsRecordText isOpen record.memberTexts record.compactChars := by
  subst isObject
  rw [Json.compactChars_object]
  have noOthers : members.map (fun member => (member.1, Json.compactChars member.2)) =
      Json.memberTexts (.object members) ++ [] := by
    simp [Json.memberTexts]
  exact .object (.of_eq noOthers) nofun nofun fun _ => rfl

def Duration.IsText (span : Duration) : List Char → Prop :=
  IsRecordText false span.toJson.memberTexts

def Endpoint.IsText (endpoint : Endpoint) : List Char → Prop :=
  IsRecordText true endpoint.toJson.memberTexts

def SocketOptions.IsText (options : SocketOptions) : List Char → Prop :=
  IsRecordText true options.toJson.memberTexts

section Flat

variable {chars : List Char}

theorem Duration.isText_compactChars (span : Duration) : span.IsText span.toJson.compactChars :=
  isRecordText_compactChars span.toJson rfl

theorem Endpoint.isText_compactChars (endpoint : Endpoint) :
    endpoint.IsText endpoint.toJson.compactChars :=
  isRecordText_compactChars endpoint.toJson rfl

theorem SocketOptions.isText_compactChars (options : SocketOptions) :
    options.IsText options.toJson.compactChars :=
  isRecordText_compactChars options.toJson rfl

theorem Duration.reads_text {span : Duration} (isText : span.IsText chars) :
    drafts.Reads 0 chars fun draft => ofDraft? draft = some span := by
  have nanosFit : span.subsecNanos < UInt32.size :=
    Nat.lt_trans span.subsecNanos_lt (by decide)
  have record := reads_record isText (by simp [toJson, Json.memberTexts])
    (.cons (reads_natBelow span.secs_lt (Nat.le_refl _))
      (.cons (reads_natBelow nanosFit (by decide)) .nil))
  refine record.mono (Nat.le_refl _) ?_
  intro (draft : JsonDraft) ⟨⟨_, isRecord, .cons secs (.cons nanos .nil)⟩, closed⟩
  have known : draft.knowsOnly ["secs", "nanos"] = true := closed rfl
  have fields : draft.record? ["secs", "nanos"] = some [some _, some _] := isRecord
  simp [ofDraft?, known, fields, secs, nanos, span.secs_add_subsecNanos, span.nanos_lt]

theorem Endpoint.reads_text {endpoint : Endpoint} (isText : endpoint.IsText chars) :
    drafts.Reads 0 chars fun draft => ofDraft? draft = some endpoint := by
  have record := reads_record isText (by simp [toJson, Json.memberTexts])
    (.cons (reads_text? endpoint.host)
      (.cons (reads_natBelow endpoint.port.toNat_lt (by decide)) .nil))
  refine record.mono (Nat.le_refl _) ?_
  intro (draft : JsonDraft) ⟨⟨_, isRecord, .cons host (.cons port .nil)⟩, _⟩
  have fields : draft.record? ["host", "port"] = some [some _, some _] := isRecord
  simp [ofDraft?, fields, host, port]

theorem SocketOptions.reads_text {options : SocketOptions} (isText : options.IsText chars) :
    drafts.Reads 0 chars fun draft => ofDraft? draft = some options := by
  have record := reads_record isText (by simp [toJson, Json.memberTexts])
    (.cons (reads_int32 _) (.cons (reads_int32 _) (.cons (reads_bool? _)
      (.cons (reads_int32 _) (.cons (reads_int32 _) (.cons (reads_int32 _) .nil))))))
  refine record.mono (Nat.le_refl _) ?_
  intro (draft : JsonDraft) ⟨⟨_, isRecord, .cons depth (.cons linger (.cons keepalive
    (.cons idle (.cons interval (.cons count .nil)))))⟩, _⟩
  have fields : draft.record? fieldNames =
    some [some _, some _, some _, some _, some _, some _] := isRecord
  simp [ofDraft?, fields, depth, linger, keepalive, idle, interval, count]

end Flat

/-! ## Records of records -/

def IsOptionalText {α : Type} (isText : α → List Char → Prop) : Option α → List Char → Prop
  | none, chars => chars = Json.compactChars .null
  | some value, chars => isText value chars

def ClientSettings.IsText (settings : ClientSettings) (chars : List Char) : Prop :=
  ∃ endpoint options timeout interval,
    settings.endpoint.IsText endpoint ∧ settings.options.IsText options ∧
      IsOptionalText Duration.IsText settings.defaultTimeout timeout ∧
      settings.pollInterval.IsText interval ∧
      IsRecordText true
        [("endpoint", endpoint), ("options", options), ("default_timeout", timeout),
          ("poll_interval", interval),
          ("max_message_size", Json.compactChars (Json.ofInt settings.maxMessageSize.toNat))] chars

def ServerSettings.IsText (settings : ServerSettings) (chars : List Char) : Prop :=
  ∃ endpoint options, settings.endpoint.IsText endpoint ∧ settings.options.IsText options ∧
    IsRecordText true [("endpoint", endpoint), ("options", options)] chars

section Nested

variable {chars : List Char}

theorem isOptionalText_compactChars {α : Type} {isText : α → List Char → Prop} {toJson : α → Json}
    (written : ∀ value, isText value (toJson value).compactChars) (optional : Option α) :
    IsOptionalText isText optional (optionalToJson toJson optional).compactChars := by
  cases optional with
  | none => rfl
  | some value => exact written value

theorem ClientSettings.isText_compactChars (settings : ClientSettings) :
    settings.IsText settings.toJson.compactChars :=
  ⟨_, _, _, _, settings.endpoint.isText_compactChars, settings.options.isText_compactChars,
    isOptionalText_compactChars Duration.isText_compactChars settings.defaultTimeout,
    settings.pollInterval.isText_compactChars, isRecordText_compactChars settings.toJson rfl⟩

theorem ServerSettings.isText_compactChars (settings : ServerSettings) :
    settings.IsText settings.toJson.compactChars :=
  ⟨_, _, settings.endpoint.isText_compactChars, settings.options.isText_compactChars,
    isRecordText_compactChars settings.toJson rfl⟩

/-- No value is read from null, so none is taken for a missing one. -/
theorem reads_optional {α : Type} {read : JsonDraft → Option α} {isText : α → List Char → Prop}
    (reads : ∀ value chars, isText value chars →
      drafts.Reads 0 chars fun draft => read draft = some value)
    (refusesNull : read .null = none) {optional : Option α}
    (isOptionalText : IsOptionalText isText optional chars) :
    drafts.Reads 0 chars fun draft => optionalOfDraft? read (some draft) = some optional := by
  cases optional with
  | none =>
      cases isOptionalText
      refine reads_null.mono (Nat.le_refl _) ?_
      rintro _ rfl
      rfl
  | some value =>
      refine (reads value chars isOptionalText).mono (Nat.le_refl _) fun draft isRead => ?_
      cases draft with
      | null => simp [refusesNull] at isRead
      | _ => simp [optionalOfDraft?, isRead]

theorem ClientSettings.reads_text {settings : ClientSettings} (isText : settings.IsText chars) :
    drafts.Reads 0 chars fun draft => ofDraft? draft = some settings := by
  obtain ⟨_, _, _, _, endpoint, options, timeout, interval, isText⟩ := isText
  have record := reads_record isText (by simp)
    (.cons (Endpoint.reads_text endpoint) (.cons (SocketOptions.reads_text options)
      (.cons (reads_optional (fun _ _ => Duration.reads_text) rfl timeout)
        (.cons (Duration.reads_text interval)
          (.cons (reads_natBelow settings.maxMessageSize.toNat_lt (Nat.le_refl _)) .nil)))))
  refine record.mono (Nat.le_refl _) ?_
  intro (draft : JsonDraft) ⟨⟨_, isRecord, .cons endpoint (.cons options (.cons timeout
    (.cons interval (.cons size .nil))))⟩, _⟩
  have fields : draft.record? fieldNames =
    some [some _, some _, some _, some _, some _] := isRecord
  simp [ofDraft?, fields, endpoint, options, timeout, interval, size]

theorem ServerSettings.reads_text {settings : ServerSettings} (isText : settings.IsText chars) :
    drafts.Reads 0 chars fun draft => ofDraft? draft = some settings := by
  obtain ⟨_, _, endpoint, options, isText⟩ := isText
  have record := reads_record isText (by simp)
    (.cons (Endpoint.reads_text endpoint) (.cons (SocketOptions.reads_text options) .nil))
  refine record.mono (Nat.le_refl _) ?_
  intro (draft : JsonDraft) ⟨⟨_, isRecord, .cons endpoint (.cons options .nil)⟩, _⟩
  have fields : draft.record? ["endpoint", "options"] = some [some _, some _] := isRecord
  simp [ofDraft?, fields, endpoint, options]

end Nested

/-! ## Round trips -/

/-- Values are kept by their texts, and what is read of any text is kept from then on. -/
structure RoundTrips {α : Type} (ofDraft : JsonDraft → Option α) (toJson : α → Json)
    (isText : α → List Char → Prop) : Prop where
  written : ∀ value, isText value (toJson value).compactChars
  read : ∀ value chars, isText value chars →
    readRecord? ofDraft (String.ofList chars) = some value
  kept : ∀ text value, readRecord? ofDraft text = some value →
    ∃ again, readRecord? ofDraft (toJson value).compact = some again ∧ again = value ∧
      (toJson again).compact = (toJson value).compact

theorem readRecord?_of_reads {α : Type} {ofDraft : JsonDraft → Option α} {value : α}
    {chars : List Char} (reads : drafts.Reads 0 chars fun draft => ofDraft draft = some value) :
    readRecord? ofDraft (String.ofList chars) = some value := by
  obtain ⟨draft, isValue, isRead⟩ := reads.readOn (JsonReading.hasRoom_drafts 0 0)
  have isDraft : JsonDraft.read (String.ofList chars) = .ok draft := by
    rw [JsonDraft.read, jsonTokens, String.toList_ofList]
    simpa [JsonReading.readOn, drafts] using isRead
  rw [readRecord?, isDraft]
  exact isValue

theorem RoundTrips.of_reads {α : Type} {ofDraft : JsonDraft → Option α} {toJson : α → Json}
    {isText : α → List Char → Prop} (written : ∀ value, isText value (toJson value).compactChars)
    (reads : ∀ value chars, isText value chars →
      drafts.Reads 0 chars fun draft => ofDraft draft = some value) :
    RoundTrips ofDraft toJson isText where
  written := written
  read value chars isText := readRecord?_of_reads (reads value chars isText)
  kept _ value _ := ⟨value, readRecord?_of_reads (reads value _ (written value)), rfl, rfl⟩

/--
Every text of an endpoint, of options and of settings is read as what it is a
text of, what is written of them is such a text, and whatever text they were
read from, writing and reading change nothing any more.
-/
theorem settings_texts_round_trip :
    RoundTrips Endpoint.ofDraft? Endpoint.toJson Endpoint.IsText ∧
      RoundTrips SocketOptions.ofDraft? SocketOptions.toJson SocketOptions.IsText ∧
      RoundTrips ClientSettings.ofDraft? ClientSettings.toJson ClientSettings.IsText ∧
      RoundTrips ServerSettings.ofDraft? ServerSettings.toJson ServerSettings.IsText :=
  ⟨.of_reads Endpoint.isText_compactChars fun _ _ => Endpoint.reads_text,
    .of_reads SocketOptions.isText_compactChars fun _ _ => SocketOptions.reads_text,
    .of_reads ClientSettings.isText_compactChars fun _ _ => ClientSettings.reads_text,
    .of_reads ServerSettings.isText_compactChars fun _ _ => ServerSettings.reads_text⟩

/-- A member that nobody knows may hold what no value could be read from. -/
example :
    readRecord? Endpoint.ofDraft? "\x7b\"port\": 7, \"later\": [1e999], \"host\": \"h\"\x7d" =
      some ⟨"h", 7⟩ := by
  decide +kernel

end TaskLink
