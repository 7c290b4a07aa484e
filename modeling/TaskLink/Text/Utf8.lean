/-!
# Bytes as text

A byte sequence is split into characters and faulty stretches.  A stretch is
the longest start of an encoded character that the bytes agree with; one that
the end of the input interrupts is told apart.  Lenient decoding puts one
replacement character in the place of each stretch.
-/

namespace TaskLink

/-- One step of reading bytes as characters. -/
inductive Utf8Piece where
  | char (c : Char)
  | bad (length : Nat)
  | cut (length : Nat)
  deriving DecidableEq

namespace Utf8Piece

def length : Utf8Piece → Nat
  | .char c => c.utf8Size
  | .bad length => length
  | .cut length => length

def shown : Utf8Piece → Char
  | .char c => c
  | _ => '\uFFFD'

end Utf8Piece

/-! ## Splitting -/

/-- Number of continuation bytes after a first byte, and the bounds of the first of them. -/
def utf8Lead? (first : UInt8) : Option (Nat × UInt8 × UInt8) :=
  if first < 0x80 then some (0, 0, 0)
  else if first < 0xC2 then none
  else if first < 0xE0 then some (1, 0x80, 0xBF)
  else if first == 0xE0 then some (2, 0xA0, 0xBF)
  else if first == 0xED then some (2, 0x80, 0x9F)
  else if first < 0xF0 then some (2, 0x80, 0xBF)
  else if first == 0xF0 then some (3, 0x90, 0xBF)
  else if first < 0xF4 then some (3, 0x80, 0xBF)
  else if first == 0xF4 then some (3, 0x80, 0x8F)
  else none

def isContinuation (byte : UInt8) : Bool :=
  0x80 ≤ byte && byte ≤ 0xBF

def payloadBits (byte : UInt8) : Nat :=
  byte.toNat % 64

def utf8Pieces : List UInt8 → List Utf8Piece
  | [] => []
  | a :: afterA =>
      match utf8Lead? a with
      | none => .bad 1 :: utf8Pieces afterA
      | some (0, _, _) => .char (Char.ofNat a.toNat) :: utf8Pieces afterA
      | some (count, low, high) =>
          match afterA with
          | [] => [.cut 1]
          | b :: afterB =>
              if b < low || high < b then .bad 1 :: utf8Pieces (b :: afterB)
              else if count == 1 then
                .char (Char.ofNat (a.toNat % 32 * 64 + payloadBits b)) :: utf8Pieces afterB
              else
                match afterB with
                | [] => [.cut 2]
                | c :: afterC =>
                    if !isContinuation c then .bad 2 :: utf8Pieces (c :: afterC)
                    else if count == 2 then
                      .char (Char.ofNat
                        ((a.toNat % 16 * 64 + payloadBits b) * 64 + payloadBits c)) ::
                        utf8Pieces afterC
                    else
                      match afterC with
                      | [] => [.cut 3]
                      | d :: afterD =>
                          if !isContinuation d then .bad 3 :: utf8Pieces (d :: afterD)
                          else
                            .char (Char.ofNat
                              (((a.toNat % 8 * 64 + payloadBits b) * 64 + payloadBits c) * 64 +
                                payloadBits d)) ::
                              utf8Pieces afterD

/-! ## Decoding -/

/-- Where and how a byte sequence stops being text. -/
inductive Utf8Fault where
  | invalid (length index : Nat)
  | incomplete (index : Nat)
  deriving DecidableEq

def firstUtf8Fault? : Nat → List Utf8Piece → Option Utf8Fault
  | _, [] => none
  | index, .bad length :: _ => some (.invalid length index)
  | index, .cut _ :: _ => some (.incomplete index)
  | index, .char c :: rest => firstUtf8Fault? (index + c.utf8Size) rest

def Utf8Fault.message : Utf8Fault → String
  | .invalid length index => s!"invalid utf-8 sequence of {length} bytes from index {index}"
  | .incomplete index => s!"incomplete utf-8 byte sequence from index {index}"

def decodeUtf8 (bytes : ByteArray) : Except Utf8Fault String :=
  match String.fromUTF8? bytes with
  | some text => .ok text
  | none =>
      .error ((firstUtf8Fault? 0 (utf8Pieces bytes.data.toList)).getD (.incomplete 0))

/-- The text that the bytes encode, each faulty stretch replaced by one character. -/
def decodeLenient (bytes : ByteArray) : String :=
  match String.fromUTF8? bytes with
  | some text => text
  | none => String.ofList ((utf8Pieces bytes.data.toList).map Utf8Piece.shown)

/-! ## Laws -/

/-- The text of some bytes is the one that is encoded as they are. -/
theorem fromUTF8?_eq_some_iff {bytes : ByteArray} {text : String} :
    String.fromUTF8? bytes = some text ↔ bytes = text.toUTF8 := by
  unfold String.fromUTF8?
  constructor
  · intro isText
    split at isText
    · cases isText
      rfl
    · cases isText
  · rintro rfl
    rw [String.toUTF8_eq_toByteArray, dif_pos text.isValidUTF8]
    rfl

theorem decodeUtf8_eq_ok_iff {bytes : ByteArray} {text : String} :
    decodeUtf8 bytes = .ok text ↔ bytes = text.toUTF8 := by
  rw [← fromUTF8?_eq_some_iff, decodeUtf8]
  cases String.fromUTF8? bytes <;> simp

end TaskLink
