import CloudTemplate.Text.Utf8

/-!
# Base64

Six bits a symbol, four symbols for three bytes, and padding that completes the last four.
Only the one canonical form is decoded: the padding must be there, and the bits of the last
symbol that no byte needs must be zero.
-/

set_option autoImplicit false

namespace CloudTemplate.Base64

/-- The sixty-four symbols. -/
def alphabet : List Char :=
  "ABCDEFGHIJKLMNOPQRSTUVWXYZabcdefghijklmnopqrstuvwxyz0123456789+/".toList

/-- The symbol of six bits. -/
def symbol (bits : Nat) : Char :=
  alphabet.getD (bits % 64) 'A'

/-- The six bits of a symbol, as a byte of text. -/
def value? (byte : UInt8) : Option Nat :=
  if 65 ≤ byte ∧ byte ≤ 90 then some (byte.toNat - 65)
  else if 97 ≤ byte ∧ byte ≤ 122 then some (byte.toNat - 97 + 26)
  else if 48 ≤ byte ∧ byte ≤ 57 then some (byte.toNat - 48 + 52)
  else if byte = 43 then some 62
  else if byte = 47 then some 63
  else none

/-- The byte of the padding character. -/
def padding : UInt8 := 61

/-- The symbols of bytes, with padding. -/
def encode : List UInt8 → List Char
  | [] => []
  | [a] =>
    let bits := a.toNat * 16
    [symbol (bits / 64), symbol bits, '=', '=']
  | [a, b] =>
    let bits := (a.toNat * 256 + b.toNat) * 4
    [symbol (bits / 4096), symbol (bits / 64), symbol bits, '=']
  | a :: b :: c :: rest =>
    let bits := a.toNat * 65536 + b.toNat * 256 + c.toNat
    symbol (bits / 262144) :: symbol (bits / 4096) :: symbol (bits / 64) :: symbol bits ::
      encode rest

/-- Why a text is no canonical encoding. -/
inductive Fault where
  | invalidSymbol (byte : UInt8) (offset : Nat)
  | invalidLength (length : Nat)
  | invalidLastSymbol (byte : UInt8) (offset : Nat)
  | invalidPadding
  /-- The encoding is canonical, but what it encodes is no text. -/
  | notText (fault : Text.Utf8Fault)
  deriving Repr, DecidableEq

/-- The fault in words. -/
def Fault.message : Fault → String
  | .invalidSymbol byte offset =>
    "Invalid symbol " ++ toString byte.toNat ++ ", offset " ++ toString offset ++ "."
  | .invalidLength length => "Invalid input length: " ++ toString length
  | .invalidLastSymbol byte offset =>
    "Invalid last symbol " ++ toString byte.toNat ++ ", offset " ++ toString offset ++ "."
  | .invalidPadding => "Invalid padding"
  | .notText fault => fault.message

/-- The bits of a symbol that has to stand at the offset. -/
def bitsAt (offset : Nat) (byte : UInt8) : Except Fault Nat :=
  match value? byte with
  | some bits => .ok bits
  | none => .error (.invalidSymbol byte offset)

/-- The symbols of the last group, read from the given place in the group on. `firstPad` is the
place of the first padding character read so far. Padding stands at the end of the group and
not before its third place. -/
def lastSymbols (start : Nat) : (place : Nat) → (firstPad : Option Nat) → List UInt8 →
    Except Fault (List Nat)
  | _, _, [] => .ok []
  | place, firstPad, byte :: rest =>
    if byte = padding then
      if place < 2 then .error (.invalidSymbol byte (start + place))
      else lastSymbols start (place + 1) (firstPad <|> some place) rest
    else match firstPad with
      | some pad => .error (.invalidSymbol padding (start + pad))
      | none => do
        let bits ← bitsAt (start + place) byte
        let others ← lastSymbols start (place + 1) none rest
        .ok (bits :: others)

/-- The bytes of the last group, which has one to four characters and starts at the offset. -/
def decodeLast (start : Nat) (group : List UInt8) : Except Fault (List UInt8) := do
  let symbols ← lastSymbols start 0 none group
  let lastByte := group.getD (symbols.length - 1) 0
  match symbols with
  | [a, b] =>
    if group.length ≠ 4 then .error .invalidPadding
    else if b % 16 ≠ 0 then .error (.invalidLastSymbol lastByte (start + 1))
    else .ok [UInt8.ofNat (a * 4 + b / 16)]
  | [a, b, c] =>
    if group.length ≠ 4 then .error .invalidPadding
    else if c % 4 ≠ 0 then .error (.invalidLastSymbol lastByte (start + 2))
    else .ok [UInt8.ofNat (a * 4 + b / 16), UInt8.ofNat (b % 16 * 16 + c / 4)]
  | [a, b, c, d] =>
    .ok [UInt8.ofNat (a * 4 + b / 16), UInt8.ofNat (b % 16 * 16 + c / 4),
      UInt8.ofNat (c % 4 * 64 + d)]
  | symbols => .error (.invalidLength (start + symbols.length))

/-- Decodes groups of four symbols as long as others follow, and then the last group. -/
def decodeFrom : (start : Nat) → List UInt8 → Except Fault (List UInt8)
  | start, a :: b :: c :: d :: e :: rest => do
    let a ← bitsAt start a
    let b ← bitsAt (start + 1) b
    let c ← bitsAt (start + 2) c
    let d ← bitsAt (start + 3) d
    let others ← decodeFrom (start + 4) (e :: rest)
    .ok (UInt8.ofNat (a * 4 + b / 16) :: UInt8.ofNat (b % 16 * 16 + c / 4) ::
      UInt8.ofNat (c % 4 * 64 + d) :: others)
  | start, group => decodeLast start group

/-- A byte that makes the last group too short is reported first, if it is no symbol. -/
def checkSurplus (bytes : List UInt8) : Except Fault Unit :=
  match bytes.getLast? with
  | some last =>
    if bytes.length % 4 = 1 ∧ last ≠ padding ∧ value? last = none then
      .error (.invalidSymbol last (bytes.length - 1))
    else .ok ()
  | none => .ok ()

/-- The bytes that a text encodes. -/
def decode (text : List UInt8) : Except Fault (List UInt8) := do
  checkSurplus text
  match text with
  | [] => .ok []
  | text => decodeFrom 0 text

/-- The encoding of a text. -/
def encodeText (text : String) : String :=
  String.ofList (encode (Text.utf8Encode text.toList))

/-- The text that an encoding holds. -/
def decodeText (encoded : String) : Except Fault String := do
  let bytes ← decode (Text.utf8Encode encoded.toList)
  match Text.utf8Decode bytes with
  | .ok text => .ok (String.ofList text)
  | .error fault => .error (.notText fault)

end CloudTemplate.Base64
