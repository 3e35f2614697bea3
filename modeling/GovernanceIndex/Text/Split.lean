/-!
Splitting text at separators. The pieces stand between the separators, so there is always one more
of them.
-/
namespace GovernanceIndex.Text

def split (isSeparator : Char → Bool) : List Char → List (List Char)
  | [] => [[]]
  | c :: cs =>
    if isSeparator c then [] :: split isSeparator cs
    else match split isSeparator cs with
      | [] => [[c]]
      | piece :: pieces => (c :: piece) :: pieces

def splitAt (separator : Char) (s : String) : List String :=
  (split (· = separator) s.toList).map String.ofList

/-- The text before the first occurrence of a character, and the text behind it if there is one. -/
def cut (separator : Char) (s : List Char) : List Char × Option (List Char) :=
  match s.dropWhile (· ≠ separator) with
  | [] => (s, none)
  | _ :: rest => (s.takeWhile (· ≠ separator), some rest)

end GovernanceIndex.Text
