import TaskLink.Json.Token

/-!
# Reading data texts

A machine with a stack of open containers consumes one token at a time.  It
works alike on decoded tokens, which gives values, and on tokens with faulty
leaves, which gives drafts that only respect the grammar.
-/

namespace TaskLink

variable {ν τ : Type}

/-- A container that is not closed yet, with what it holds so far, the last first. -/
inductive OpenContainer (ν τ : Type) where
  | array (items : List (JsonTree ν τ))
  | object (members : List (τ × JsonTree ν τ)) (key : τ)

/-- What the machine waits for, inside the containers around it. -/
inductive JsonState (ν τ : Type) where
  | awaitValue (around : List (OpenContainer ν τ))
  | awaitItem (first : Bool) (items : List (JsonTree ν τ)) (around : List (OpenContainer ν τ))
  | awaitKey (first : Bool) (members : List (τ × JsonTree ν τ)) (around : List (OpenContainer ν τ))
  | awaitColon (members : List (τ × JsonTree ν τ)) (key : τ) (around : List (OpenContainer ν τ))
  | complete (tree : JsonTree ν τ) (around : List (OpenContainer ν τ))

namespace JsonState

/-! ## Steps -/

def mayOpen (limit : Option Nat) (around : List (OpenContainer ν τ)) : Bool :=
  match limit with
  | some limit => around.length < limit
  | none => true

def beginValue (limit : Option Nat) (around : List (OpenContainer ν τ))
    (token : JsonToken ν τ) : Except JsonFault (JsonState ν τ) :=
  match token.mark with
  | .null => .ok (.complete .null around)
  | .bool value => .ok (.complete (.bool value) around)
  | .number value => .ok (.complete (.number value) around)
  | .text value => .ok (.complete (.text value) around)
  | .openArray =>
      if mayOpen limit around then .ok (.awaitItem true [] around)
      else .error (JsonReason.tooDeep.here token.source)
  | .openObject =>
      if mayOpen limit around then .ok (.awaitKey true [] around)
      else .error (JsonReason.tooDeep.here token.source)
  | .broken _ fault => .error fault
  | _ => .error (JsonReason.expectedValue.here token.source)

def beginItem (limit : Option Nat) (first : Bool) (items : List (JsonTree ν τ))
    (around : List (OpenContainer ν τ)) (token : JsonToken ν τ) :
    Except JsonFault (JsonState ν τ) :=
  match token.mark, first with
  | .closeArray, true => .ok (.complete (.array items.reverse) around)
  | .closeArray, false => .error (JsonReason.trailingComma.here token.source)
  | _, _ => beginValue limit (.array items :: around) token

def beginKey (first : Bool) (members : List (τ × JsonTree ν τ))
    (around : List (OpenContainer ν τ)) (token : JsonToken ν τ) :
    Except JsonFault (JsonState ν τ) :=
  match token.mark, first with
  | .text key, _ => .ok (.awaitColon members key around)
  | .broken true fault, _ => .error fault
  | .closeObject, true => .ok (.complete (.object members.reverse) around)
  | .closeObject, false => .error (JsonReason.trailingComma.here token.source)
  | _, _ => .error (JsonReason.keyNotText.here token.source)

def afterValue (tree : JsonTree ν τ) (around : List (OpenContainer ν τ))
    (token : JsonToken ν τ) : Except JsonFault (JsonState ν τ) :=
  match around with
  | [] => .error (JsonReason.trailingCharacters.here token.source)
  | .array items :: outer =>
      match token.mark with
      | .comma => .ok (.awaitItem false (tree :: items) outer)
      | .closeArray => .ok (.complete (.array (tree :: items).reverse) outer)
      | _ => .error (JsonReason.expectedCommaOrBracket.here token.source)
  | .object members key :: outer =>
      match token.mark with
      | .comma => .ok (.awaitKey false ((key, tree) :: members) outer)
      | .closeObject => .ok (.complete (.object ((key, tree) :: members).reverse) outer)
      | _ => .error (JsonReason.expectedCommaOrBrace.here token.source)

def step (limit : Option Nat) (state : JsonState ν τ) (token : JsonToken ν τ) :
    Except JsonFault (JsonState ν τ) :=
  match state with
  | .awaitValue around => beginValue limit around token
  | .awaitItem first items around => beginItem limit first items around token
  | .awaitKey first members around => beginKey first members around token
  | .awaitColon members key around =>
      match token.mark with
      | .colon => .ok (.awaitValue (.object members key :: around))
      | _ => .error (JsonReason.expectedColon.here token.source)
  | .complete tree around => afterValue tree around token

def finish : JsonState ν τ → Except JsonFault (JsonTree ν τ)
  | .awaitValue _ => .error JsonReason.endInValue.atEnd
  | .awaitItem true _ _ => .error JsonReason.endInList.atEnd
  | .awaitItem false _ _ => .error JsonReason.endInValue.atEnd
  | .awaitKey true _ _ => .error JsonReason.endInObject.atEnd
  | .awaitKey false _ _ => .error JsonReason.endInValue.atEnd
  | .awaitColon _ _ _ => .error JsonReason.endInObject.atEnd
  | .complete tree [] => .ok tree
  | .complete _ (.array _ :: _) => .error JsonReason.endInList.atEnd
  | .complete _ (.object _ _ :: _) => .error JsonReason.endInObject.atEnd

def run (limit : Option Nat) : JsonState ν τ → List (JsonToken ν τ) →
    Except JsonFault (JsonTree ν τ)
  | state, [] => state.finish
  | state, token :: rest =>
      match state.step limit token with
      | .ok next => run limit next rest
      | .error fault => .error fault

end JsonState

def jsonDepthLimit : Nat := 127

abbrev JsonDraft := JsonTree (Except JsonFault JsonNumber) (Except JsonFault String)

def JsonDraft.read (text : String) : Except JsonFault JsonDraft :=
  JsonState.run none (.awaitValue []) (jsonTokens text.toList)

namespace Json

def read (text : String) : Except JsonFault Json :=
  match JsonState.run (some jsonDepthLimit) (.awaitValue [])
      ((jsonTokens text.toList).map JsonToken.settle) with
  | .ok tree => .ok tree.canonical
  | .error fault => .error fault

def readOrExplain (text : String) : Except String Json :=
  match read text with
  | .ok value => .ok value
  | .error fault => .error (fault.message text.toList)

def read? (text : String) : Option Json :=
  (read text).toOption

end Json

end TaskLink
