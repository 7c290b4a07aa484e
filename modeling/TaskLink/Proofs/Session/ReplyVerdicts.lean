import TaskLink.Session.TaskSession

/-!
# What a reply means

The bytes of a reply come to exactly one result.  They may be no text, or none
at all; the text may be no JSON; and the JSON may report a failure.  The
relations below say so case by case, apart from the functions that decide it.
-/

namespace TaskLink

/-! ## Texts -/

/-- What the bytes of a reply say, for a command that is to be quoted. -/
inductive Hears (command : String) (reply : ByteArray) : Except SessionError String → Prop where
  | garbled {fault : Utf8Fault} (notText : ∀ text : String, reply ≠ text.toUTF8)
      (isFault : decodeUtf8 reply = .error fault) :
      Hears command reply (.error (.link (.invalidMessage s!"reply is not UTF-8: {fault.message}")))
  | missing (empty : reply = "".toUTF8) :
      Hears command reply (.error (.noResponse (excerpt command)))
  | text {text : String} (isText : reply = text.toUTF8) (nonempty : text ≠ "") :
      Hears command reply (.ok text)

variable {command : String} {reply : ByteArray}

theorem Hears.eq_checkReply {outcome : Except SessionError String}
    (hears : Hears command reply outcome) :
    outcome = TaskSession.checkReply command (Requester.replyText reply) := by
  unfold Requester.replyText
  cases hears with
  | garbled notText isFault =>
      rw [isFault]
      rfl
  | missing empty =>
      rw [decodeUtf8_eq_ok_iff.mpr empty]
      rfl
  | text isText nonempty =>
      rw [decodeUtf8_eq_ok_iff.mpr isText]
      unfold TaskSession.checkReply
      dsimp only
      rw [if_neg (mt String.isEmpty_iff.mp nonempty)]

theorem hears_checkReply (command : String) (reply : ByteArray) :
    Hears command reply (TaskSession.checkReply command (Requester.replyText reply)) := by
  unfold Requester.replyText
  cases decoded : decodeUtf8 reply with
  | error fault =>
      refine .garbled (fun text isText => ?_) decoded
      rw [decodeUtf8_eq_ok_iff.mpr isText] at decoded
      cases decoded
  | ok text =>
      have isText := decodeUtf8_eq_ok_iff.mp decoded
      unfold TaskSession.checkReply
      dsimp only
      split
      · next empty =>
          rw [String.isEmpty_iff.mp empty] at isText
          exact .missing isText
      · next nonempty => exact .text isText (mt String.isEmpty_iff.mpr nonempty)

/-! ## Failures -/

inductive IsErrorCode : Json → String → Prop where
  | text (code : String) : IsErrorCode (.text code) code
  | compact {code : Json} (notText : ∀ text, code ≠ .text text) : IsErrorCode code code.compact

/-- The description of an error with a code: its own, or the code if it has none. -/
inductive Describes (error : List (String × Json)) (errorCode : String) : String → Prop where
  | own {text : String} (given : JsonTree.find? "description" error = some (.text text))
      (nonempty : text ≠ "") : Describes error errorCode text
  | code (absent : ∀ text, JsonTree.find? "description" error = some (.text text) → text = "") :
      Describes error errorCode errorCode

theorem isErrorCode_iff {code : Json} {text : String} :
    IsErrorCode code text ↔ errorCodeText code = text := by
  constructor
  · intro isCode
    cases isCode with
    | text => rfl
    | compact notText =>
        unfold errorCodeText
        split
        · next text => exact absurd rfl (notText text)
        · rfl
  · rintro rfl
    unfold errorCodeText
    split
    · exact .text _
    · next notText => exact .compact notText

theorem exists_describes (error : List (String × Json)) (errorCode : String) :
    ∃ description, Describes error errorCode description := by
  by_cases given : ∃ text, JsonTree.find? "description" error = some (.text text) ∧ text ≠ ""
  · obtain ⟨text, given, nonempty⟩ := given
    exact ⟨text, .own given nonempty⟩
  · refine ⟨errorCode, .code fun text isGiven => ?_⟩
    exact Decidable.not_not.mp fun nonempty => given ⟨text, isGiven, nonempty⟩

theorem Describes.errorDescription_eq {error : List (String × Json)}
    {errorCode description : String} (describes : Describes error errorCode description) :
    errorDescription errorCode (.object error) =
      String.ofList (description.toList.take 1000) := by
  unfold errorDescription longestDescription JsonTree.member?
  dsimp only
  cases describes with
  | own given nonempty =>
      rw [given, Option.bind_some, JsonTree.text?]
      dsimp only
      rw [if_neg (mt String.isEmpty_iff.mp nonempty)]
  | code absent =>
      split
      · next text isText =>
          obtain ⟨value, given, isText⟩ := Option.bind_eq_some_iff.mp isText
          cases value with
          | text found =>
              cases isText
              rw [absent text given]
              rfl
          | _ => cases isText
      · rfl

/-- A value reports a failure: it has an error, and the error has a code. -/
def ReportsFailure (value : Json) (error : List (String × Json)) (code : Json) : Prop :=
  ∃ members, value = .object members ∧
    JsonTree.find? "error" members = some (.object error) ∧
    JsonTree.find? "errorcode" error = some code

/-- The failure that a value reports, if it reports one. -/
theorem replyFailure?_cases (value : Json) :
    (∃ error code, ReportsFailure value error code ∧
      replyFailure? value = some (.commandFailed (errorCodeText code)
        (errorDescription (errorCodeText code) (.object error)))) ∨
    ((∀ error code, ¬ ReportsFailure value error code) ∧ replyFailure? value = none) := by
  unfold replyFailure? ReportsFailure
  cases value with
  | object members =>
      simp only [JsonTree.member?]
      cases isError : JsonTree.find? "error" members with
      | none =>
          refine Or.inr ⟨?_, rfl⟩
          rintro error code ⟨members, ⟨⟩, found, -⟩
          rw [isError] at found
          cases found
      | some value =>
          cases value with
          | object error =>
              simp only
              cases hasCode : JsonTree.find? "errorcode" error with
              | some code => exact Or.inl ⟨error, code, ⟨members, rfl, isError, hasCode⟩, rfl⟩
              | none =>
                  refine Or.inr ⟨?_, rfl⟩
                  rintro error code ⟨members, ⟨⟩, found, impossible⟩
                  rw [isError] at found
                  cases found
                  rw [hasCode] at impossible
                  cases impossible
          | _ =>
              refine Or.inr ⟨?_, rfl⟩
              rintro error code ⟨members, ⟨⟩, found, -⟩
              rw [isError] at found
              cases found
  | _ =>
      refine Or.inr ⟨?_, rfl⟩
      rintro error code ⟨members, ⟨⟩, -⟩

theorem ReportsFailure.unique {value : Json} {error error' : List (String × Json)}
    {code code' : Json} (one : ReportsFailure value error code)
    (other : ReportsFailure value error' code') : error = error' ∧ code = code' := by
  obtain ⟨members, rfl, isError, hasCode⟩ := one
  obtain ⟨members', same, isError', hasCode'⟩ := other
  cases same
  rw [isError] at isError'
  cases isError'
  rw [hasCode] at hasCode'
  cases hasCode'
  exact ⟨rfl, rfl⟩

/-! ## Values -/

inductive Reads (text : String) : Except SessionError Json → Prop where
  | unreadable {explanation : String} (refused : Json.readOrExplain text = .error explanation) :
      Reads text (.error (.invalidReply s!"{explanation}: {excerpt text}"))
  | failed {value code : Json} {error : List (String × Json)} {errorCode description : String}
      (isRead : Json.read? text = some value) (reports : ReportsFailure value error code)
      (isCode : IsErrorCode code errorCode) (describes : Describes error errorCode description) :
      Reads text
        (.error (.commandFailed errorCode (String.ofList (description.toList.take 1000))))
  | value {value : Json} (isRead : Json.read? text = some value)
      (succeeds : ∀ error code, ¬ ReportsFailure value error code) : Reads text (.ok value)

theorem readOrExplain_eq_ok_iff {text : String} {value : Json} :
    Json.readOrExplain text = .ok value ↔ Json.read? text = some value := by
  unfold Json.readOrExplain Json.read?
  cases Json.read text with
  | error fault => exact ⟨nofun, nofun⟩
  | ok found => exact ⟨fun same => by cases same; rfl, fun same => by cases same; rfl⟩

theorem Reads.eq_readReply {text : String} {outcome : Except SessionError Json}
    (reads : Reads text outcome) : outcome = readReply text := by
  unfold readReply
  cases reads with
  | unreadable refused => rw [refused]
  | failed isRead reports isCode describes =>
      rw [readOrExplain_eq_ok_iff.mpr isRead]
      obtain ⟨error, code, reports', failure⟩ | ⟨succeeds, -⟩ := replyFailure?_cases _
      · obtain ⟨rfl, rfl⟩ := reports.unique reports'
        dsimp only
        rw [failure, isErrorCode_iff.mp isCode, describes.errorDescription_eq]
      · exact absurd reports (succeeds _ _)
  | value isRead succeeds =>
      rw [readOrExplain_eq_ok_iff.mpr isRead]
      obtain ⟨error, code, reports, -⟩ | ⟨-, none⟩ := replyFailure?_cases _
      · exact absurd reports (succeeds _ _)
      · dsimp only
        rw [none]

theorem reads_readReply (text : String) : Reads text (readReply text) := by
  unfold readReply
  cases isRead : Json.readOrExplain text with
  | error explanation => exact .unreadable isRead
  | ok value =>
      have isRead := readOrExplain_eq_ok_iff.mp isRead
      obtain ⟨error, code, reports, failure⟩ | ⟨succeeds, none⟩ := replyFailure?_cases value
      · obtain ⟨description, describes⟩ := exists_describes error (errorCodeText code)
        dsimp only
        rw [failure, describes.errorDescription_eq]
        exact .failed isRead reports (isErrorCode_iff.mpr rfl) describes
      · dsimp only
        rw [none]
        exact .value isRead succeeds

/-! ## Replies -/

/-- What the bytes of a reply mean, for a command that is to be quoted. -/
inductive Means (command : String) (reply : ByteArray) : Except SessionError Json → Prop where
  | unheard {error : SessionError} (hears : Hears command reply (.error error)) :
      Means command reply (.error error)
  | heard {text : String} {outcome : Except SessionError Json}
      (hears : Hears command reply (.ok text)) (reads : Reads text outcome) :
      Means command reply outcome

/-- A reply means exactly one thing, and that is what is made of it. -/
theorem means_iff {command : String} {reply : ByteArray} {outcome : Except SessionError Json} :
    Means command reply outcome ↔
      outcome = (TaskSession.checkReply command (Requester.replyText reply)).bind readReply := by
  constructor
  · intro means
    cases means with
    | unheard hears =>
        rw [← hears.eq_checkReply]
        rfl
    | heard hears reads =>
        rw [← hears.eq_checkReply]
        exact reads.eq_readReply
  · rintro rfl
    have hears := hears_checkReply command reply
    cases checked : TaskSession.checkReply command (Requester.replyText reply) with
    | error error =>
        rw [checked] at hears
        exact .unheard hears
    | ok text =>
        rw [checked] at hears
        exact .heard hears (reads_readReply text)

end TaskLink
