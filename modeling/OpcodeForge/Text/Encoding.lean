/-!
# UTF-8

Documents, configuration and reference files are bytes on disk and text in
memory. Decoding must say *where* and *why* bytes are not text, because the
report of an unreadable document names both, so it is done here byte by byte
and not by a validity check.

A sequence is refused at its first byte when no character starts with it, and
at the same place when a later byte does not fit; the two limits on the second
byte (no overlong form, no surrogate, nothing above the last plane) count as a
byte that does not fit. Bytes that end inside a character are reported as such.

## Main definitions

* `Text.DecodeFault`: Why and where bytes are not text.
* `Text.decode`: The text of a list of bytes.
* `Text.encode`: The bytes of a text.
* `Text.unixLines`: A text with every line end written as a line feed.
-/

namespace OpcodeForge.Text

/-- What is wrong with a byte sequence. -/
inductive DecodeReason
  /-- No character starts with this byte. -/
  | invalidStart
  /-- A byte inside the character does not continue it. -/
  | invalidContinuation
  /-- The bytes end inside a character. -/
  | unexpectedEnd
  deriving DecidableEq, Repr

/-- The reason in words. -/
def DecodeReason.message : DecodeReason → String
  | .invalidStart => "invalid start byte"
  | .invalidContinuation => "invalid continuation byte"
  | .unexpectedEnd => "unexpected end of data"

/-- Why bytes are not text, and the index of the byte where the faulty
    character starts. -/
structure DecodeFault where
  reason : DecodeReason
  index : Nat
  deriving DecidableEq, Repr

/-- The lowest and highest second byte after a first byte, and the number of
    continuation bytes in all. Nothing for a byte that starts no longer
    character. -/
def leadShape? (b : Nat) : Option (Nat × Nat × Nat) :=
  if b < 0xC2 then none
  else if b < 0xE0 then some (0x80, 0xBF, 1)
  else if b == 0xE0 then some (0xA0, 0xBF, 2)
  else if b == 0xED then some (0x80, 0x9F, 2)
  else if b < 0xF0 then some (0x80, 0xBF, 2)
  else if b == 0xF0 then some (0x90, 0xBF, 3)
  else if b < 0xF4 then some (0x80, 0xBF, 3)
  else if b == 0xF4 then some (0x80, 0x8F, 3)
  else none

/-- Reads `count` continuation bytes, the first of them between `low` and
    `high`, onto the bits `bits` read so far. -/
def readTail (low high : Nat) (bits : Nat) :
    Nat → List UInt8 → Except DecodeReason (Nat × List UInt8)
  | 0, rest => .ok (bits, rest)
  | _ + 1, [] => .error .unexpectedEnd
  | count + 1, b :: rest =>
    if low ≤ b.toNat && b.toNat ≤ high then
      readTail 0x80 0xBF (bits * 64 + b.toNat % 64) count rest
    else .error .invalidContinuation

/-- The bits that a first byte with `count` continuation bytes contributes. -/
def leadBits (b count : Nat) : Nat :=
  b % Nat.pow 2 (6 - count)

/-- Reads one character. The answer also says how many bytes it took. -/
def readChar (b : UInt8) (rest : List UInt8) :
    Except DecodeReason (Char × Nat × List UInt8) :=
  if b.toNat < 0x80 then .ok (Char.ofNat b.toNat, 1, rest)
  else match leadShape? b.toNat with
    | none => .error .invalidStart
    | some (low, high, count) =>
      -- Only the byte after the first one has limits of its own.
      (readTail low high (leadBits b.toNat count) count rest).map
        fun (n, rest) => (Char.ofNat n, count + 1, rest)

/-- Decodes with at most `fuel` characters to go, `index` bytes into the
    source. -/
def decodeFrom : Nat → Nat → List UInt8 → Except DecodeFault (List Char)
  | 0, _, _ => .ok []
  | _ + 1, _, [] => .ok []
  | fuel + 1, index, b :: rest =>
    match readChar b rest with
    | .error reason => .error ⟨reason, index⟩
    | .ok (c, width, rest) => (decodeFrom fuel (index + width) rest).map (c :: ·)

/-- The text of a list of bytes, or the first place where they are no text. -/
def decode (bs : List UInt8) : Except DecodeFault (List Char) :=
  decodeFrom bs.length 0 bs

/-- The bytes of one character. -/
def encodeChar (c : Char) : List UInt8 :=
  let n := c.toNat
  if n < 0x80 then [n.toUInt8]
  else if n < 0x800 then [(0xC0 + n / 64).toUInt8, (0x80 + n % 64).toUInt8]
  else if n < 0x10000 then
    [(0xE0 + n / 4096).toUInt8, (0x80 + n / 64 % 64).toUInt8,
      (0x80 + n % 64).toUInt8]
  else
    [(0xF0 + n / 262144).toUInt8, (0x80 + n / 4096 % 64).toUInt8,
      (0x80 + n / 64 % 64).toUInt8, (0x80 + n % 64).toUInt8]

/-- The bytes of a text. -/
def encode (s : String) : List UInt8 :=
  s.toList.flatMap encodeChar

/-- The text with a line feed in place of every carriage return and of every
    pair of a carriage return and a line feed. -/
def unixLines : List Char → List Char
  | [] => []
  | '\r' :: '\n' :: rest => '\n' :: unixLines rest
  | '\r' :: rest => '\n' :: unixLines rest
  | c :: rest => c :: unixLines rest

end OpcodeForge.Text
