import GovernanceIndex.Json.Value

/-!
Writing JSON text, without blanks and with the fields of an object in the order of the value.
-/
namespace GovernanceIndex.Json

def hexUnit (n : Nat) : List Char :=
  let digits := Nat.toDigits 16 n
  List.replicate (4 - digits.length) '0' ++ digits

def escaped (c : Char) : List Char :=
  if c = '"' then ['\\', '"']
  else if c = '\\' then ['\\', '\\']
  else if c = '\n' then ['\\', 'n']
  else if c = '\r' then ['\\', 'r']
  else if c = '\t' then ['\\', 't']
  else if c.toNat < 0x20 then ['\\', 'u'] ++ hexUnit c.toNat
  else [c]

def renderText (s : String) : String :=
  String.ofList ('"' :: s.toList.flatMap escaped ++ ['"'])

/-- A decimal in positional notation, with at least one place behind the point. -/
def renderDecimal (d : Decimal) : String :=
  let digits := Nat.toDigits 10 d.digits
  let (whole, places) :=
    if 0 ≤ d.exponent then (digits ++ List.replicate d.exponent.toNat '0', ['0'])
    else
      let n := (-d.exponent).toNat
      let padded := List.replicate (n + 1 - digits.length) '0' ++ digits
      (padded.take (padded.length - n), padded.drop (padded.length - n))
  String.ofList ((if d.negative then ['-'] else []) ++ whole ++ ['.'] ++ places)

mutual

/-- The text of a value; a string without a text is written as an empty one. -/
def render : Json → String
  | .null => "null"
  | .bool true => "true"
  | .bool false => "false"
  | .int n => toString n
  | .float d => renderDecimal d
  | .text s => renderText (s.getD "")
  | .list xs => "[" ++ renderItems xs ++ "]"
  | .object fs => "\x7b" ++ renderFields fs ++ "\x7d"

def renderItems : List Json → String
  | [] => ""
  | [x] => render x
  | x :: y :: xs => render x ++ "," ++ renderItems (y :: xs)

def renderFields : List (Option String × Json) → String
  | [] => ""
  | [(k, x)] => renderText (k.getD "") ++ ":" ++ render x
  | (k, x) :: f :: fs =>
    renderText (k.getD "") ++ ":" ++ render x ++ "," ++ renderFields (f :: fs)

end

end GovernanceIndex.Json
