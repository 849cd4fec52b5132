/-!
# UTF-8

The encoding of characters as one to four bytes, the length of a text in bytes, and decoding,
which says where and why it cannot go on.

A byte that can start no character, or one whose continuation is wrong, makes an invalid
sequence as long as the bytes that still fitted together. A text that ends inside a character
is incomplete.
-/

set_option autoImplicit false

namespace CloudTemplate.Text

/-- The length of a text in bytes. -/
def utf8Size (text : List Char) : Nat :=
  text.foldl (fun size c => size + c.utf8Size) 0

/-- The bytes of a text. -/
def utf8Encode (text : List Char) : List UInt8 :=
  text.flatMap String.utf8EncodeChar

/-- Why bytes are no text. The index is that of the first byte that belongs to no character. -/
inductive Utf8Fault where
  | invalid (index length : Nat)
  | incomplete (index : Nat)
  deriving Repr, DecidableEq

/-- The fault in words. -/
def Utf8Fault.message : Utf8Fault → String
  | .invalid index length =>
    "invalid utf-8 sequence of " ++ toString length ++ " bytes from index " ++ toString index
  | .incomplete index => "incomplete utf-8 byte sequence from index " ++ toString index

/-- Whether a byte continues a character. -/
def isContinuation (byte : UInt8) : Bool :=
  0x80 ≤ byte && byte ≤ 0xBF

/-- Whether `second` may follow `first` when `first` starts a character of three or four bytes:
no form longer than needed, no surrogate, and nothing beyond the last code point. -/
def isSecond (first second : UInt8) : Bool :=
  if first = 0xE0 then 0xA0 ≤ second && second ≤ 0xBF
  else if first = 0xED then 0x80 ≤ second && second ≤ 0x9F
  else if first = 0xF0 then 0x90 ≤ second && second ≤ 0xBF
  else if first = 0xF4 then 0x80 ≤ second && second ≤ 0x8F
  else isContinuation second

/-- The six bits that a continuation byte carries. -/
def payload (byte : UInt8) : Nat :=
  byte.toNat % 64

/-- Decodes bytes from the given index on. -/
def utf8DecodeFrom : (index : Nat) → List UInt8 → Except Utf8Fault (List Char)
  | _, [] => .ok []
  | index, first :: rest =>
    if first < 0x80 then
      (utf8DecodeFrom (index + 1) rest).map (Char.ofNat first.toNat :: ·)
    else if 0xC2 ≤ first && first ≤ 0xDF then
      match rest with
      | [] => .error (.incomplete index)
      | second :: rest =>
        if isContinuation second then
          (utf8DecodeFrom (index + 2) rest).map
            (Char.ofNat (first.toNat % 32 * 64 + payload second) :: ·)
        else .error (.invalid index 1)
    else if 0xE0 ≤ first && first ≤ 0xEF then
      match rest with
      | [] => .error (.incomplete index)
      | [second] =>
        if isSecond first second then .error (.incomplete index) else .error (.invalid index 1)
      | second :: third :: rest =>
        if !isSecond first second then .error (.invalid index 1)
        else if !isContinuation third then .error (.invalid index 2)
        else
          (utf8DecodeFrom (index + 3) rest).map
            (Char.ofNat (first.toNat % 16 * 4096 + payload second * 64 + payload third) :: ·)
    else if 0xF0 ≤ first && first ≤ 0xF4 then
      match rest with
      | [] => .error (.incomplete index)
      | [second] =>
        if isSecond first second then .error (.incomplete index) else .error (.invalid index 1)
      | [second, third] =>
        if !isSecond first second then .error (.invalid index 1)
        else if !isContinuation third then .error (.invalid index 2)
        else .error (.incomplete index)
      | second :: third :: fourth :: rest =>
        if !isSecond first second then .error (.invalid index 1)
        else if !isContinuation third then .error (.invalid index 2)
        else if !isContinuation fourth then .error (.invalid index 3)
        else
          (utf8DecodeFrom (index + 4) rest).map
            (Char.ofNat (first.toNat % 8 * 262144 + payload second * 4096 +
              payload third * 64 + payload fourth) :: ·)
    else .error (.invalid index 1)

/-- Decodes bytes into a text. -/
def utf8Decode (bytes : List UInt8) : Except Utf8Fault (List Char) :=
  utf8DecodeFrom 0 bytes

end CloudTemplate.Text
