/-!
# Ranges of encodings

A character is encoded in one to four bytes. The encodings of a range of characters are listed
by ranges of bytes, one list for each part of the range within which the bytes vary
independently (`byteRanges`).
-/

set_option autoImplicit false

namespace CloudTemplate.Pattern

/-- A list of ranges of bytes: an encoding has one byte in each of them. -/
abbrev ByteRanges := List (Nat × Nat)

/-- The ranges of characters whose encodings have the same length, where the code points that
are no characters separate two of them. -/
def lengthBlocks : List (Nat × Nat) :=
  [(0, 0x7F), (0x80, 0x7FF), (0x800, 0xD7FF), (0xE000, 0xFFFF), (0x10000, 0x10FFFF)]

/-- The bytes that encode a code point. -/
def encoding (code : Nat) : List Nat :=
  if code < 0x80 then [code]
  else if code < 0x800 then [0xC0 + code / 64, 0x80 + code % 64]
  else if code < 0x10000 then [0xE0 + code / 4096, 0x80 + code / 64 % 64, 0x80 + code % 64]
  else [0xF0 + code / 262144, 0x80 + code / 4096 % 64, 0x80 + code / 64 % 64, 0x80 + code % 64]

/-- The parts of a range within which the encodings have the same length. -/
def byLength (bounds : Nat × Nat) : List (Nat × Nat) :=
  (lengthBlocks.map fun block => (max block.1 bounds.1, min block.2 bounds.2)).filter fun part =>
    part.1 ≤ part.2

/-- The parts of a range within which the bytes of the encodings vary independently, looking at
all bytes but the last `units`: in each part the bytes after the first one that varies take all
their values. -/
def byBytes : (units : Nat) → Nat × Nat → List (Nat × Nat)
  | 0, bounds => [bounds]
  | units + 1, (low, high) =>
    let block := Nat.pow 64 (units + 1)
    if low / block = high / block then byBytes units (low, high)
    else
      let firstWhole := (low + block - 1) / block * block
      let endWhole := (high + 1) / block * block
      (if low < firstWhole then byBytes units (low, firstWhole - 1) else []) ++
        (if firstWhole < endWhole then [(firstWhole, endWhole - 1)] else []) ++
        (if endWhole ≤ high then byBytes units (endWhole, high) else [])

/-- The ranges of bytes that a range of characters is encoded in, one list for each part. -/
def byteRanges (bounds : Nat × Nat) : List ByteRanges :=
  (byLength bounds).flatMap fun part =>
    (byBytes ((encoding part.1).length - 1) part).map fun (low, high) =>
      (encoding low).zip (encoding high)

end CloudTemplate.Pattern
