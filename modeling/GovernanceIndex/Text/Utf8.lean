/-!
Reading bytes as UTF-8. A byte that starts no character, or whose character is broken off by the
next byte, is a fault of so many bytes; a character that lacks bytes at the end is incomplete. Bytes
are read strictly, up to the first fault, or leniently, with a replacement for every fault.
-/
namespace GovernanceIndex.Text.Utf8

/-- What is wrong with bytes, and at which of them it starts. -/
inductive Fault where
  | invalid (length index : Nat)
  | incomplete (index : Nat)
  deriving DecidableEq, Repr

def Fault.message : Fault → String
  | .invalid length index =>
    "invalid utf-8 sequence of " ++ toString length ++ " bytes from index " ++ toString index
  | .incomplete index => "incomplete utf-8 byte sequence from index " ++ toString index

/-- How many bytes follow the first byte of a character, and the range of the second one. -/
def follow? (b : Nat) : Option (Nat × Nat × Nat) :=
  if b ≤ 0x7F then some (0, 0, 0)
  else if b < 0xC2 then none
  else if b ≤ 0xDF then some (1, 0x80, 0xBF)
  else if b = 0xE0 then some (2, 0xA0, 0xBF)
  else if b = 0xED then some (2, 0x80, 0x9F)
  else if b ≤ 0xEF then some (2, 0x80, 0xBF)
  else if b = 0xF0 then some (3, 0x90, 0xBF)
  else if b ≤ 0xF3 then some (3, 0x80, 0xBF)
  else if b = 0xF4 then some (3, 0x80, 0x8F)
  else none

/-- What the bytes at one place are: a character of so many bytes, a fault of so many bytes, or the
start of a character that the end cuts off. -/
inductive Piece where
  | char (code width : Nat)
  | invalid (width : Nat)
  | incomplete
  deriving DecidableEq, Repr

/-- Reads the bytes that follow the first one: so many, the next of them in a range. The code so far
and the bytes taken so far go along. -/
def readFollowing : (missing low high code width : Nat) → List UInt8 → Piece
  | 0, _, _, code, width, _ => .char code width
  | _ + 1, _, _, _, _, [] => .incomplete
  | missing + 1, low, high, code, width, b :: bs =>
    if low ≤ b.toNat ∧ b.toNat ≤ high then
      readFollowing missing 0x80 0xBF (code * 64 + b.toNat % 64) (width + 1) bs
    else .invalid width

/-- The bits of a character's code that its first byte holds, when so many bytes follow. -/
def firstBits (following b : Nat) : Nat :=
  if following = 0 then b else b % Nat.pow 2 (6 - following)

/-- What the bytes from a first byte on are. -/
def readPiece (b : UInt8) (rest : List UInt8) : Piece :=
  match follow? b.toNat with
  | none => .invalid 1
  | some (following, low, high) =>
    readFollowing following low high (firstBits following b.toNat) 1 rest

/-- Reads bytes from an index on; `fuel` bounds their number. -/
def decodeFrom : (fuel index : Nat) → List UInt8 → Except Fault (List Char)
  | 0, _, _ => .ok []
  | _, _, [] => .ok []
  | fuel + 1, index, b :: bs =>
    match readPiece b bs with
    | .char code width => do
      return Char.ofNat code :: (← decodeFrom fuel (index + width) (bs.drop (width - 1)))
    | .invalid width => .error (.invalid width index)
    | .incomplete => .error (.incomplete index)

def decode (bytes : List UInt8) : Except Fault (List Char) := decodeFrom bytes.length 0 bytes

def replacement : Char := Char.ofNat 0xFFFD

def decodeLossyFrom : (fuel : Nat) → List UInt8 → List Char
  | 0, _ => []
  | _, [] => []
  | fuel + 1, b :: bs =>
    match readPiece b bs with
    | .char code width => Char.ofNat code :: decodeLossyFrom fuel (bs.drop (width - 1))
    | .invalid width => replacement :: decodeLossyFrom fuel (bs.drop (width - 1))
    | .incomplete => [replacement]

/-- The text that bytes spell, with every fault replaced. -/
def decodeLossy (bytes : List UInt8) : List Char := decodeLossyFrom bytes.length bytes

def encodeChar (c : Char) : List UInt8 := (String.singleton c).toUTF8.toList

def encode (s : List Char) : List UInt8 := s.flatMap encodeChar

end GovernanceIndex.Text.Utf8
