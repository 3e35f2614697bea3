import GovernanceIndex.Web.Encoding

/-!
Paths of addresses in normal form. A path with segments has no dot segments: one dot is left out,
and two dots take the segment before them away, unless that is the name of a drive. The path of a
file starts with no empty segment, and a drive at its start is written with a colon.
-/
namespace GovernanceIndex.Web.Path

def dots : List Char → List Char
  | '%' :: '2' :: c :: r => if c = 'e' || c = 'E' then '.' :: dots r else '%' :: '2' :: c :: dots r
  | c :: r => c :: dots r
  | [] => []

/-- Whether a segment is the name of a drive: a letter, and a colon or a bar. -/
def isDrive : List Char → Bool
  | [letter, mark] => letter.isAlpha && (mark = ':' || mark = '|')
  | _ => false

/-- Whether two dots stop at a segment, which starts with the name of a drive. -/
def isKept (s : List Char) : Bool :=
  match s.drop 2 with
  | [] => isDrive s
  | c :: _ => c = '\\' && isDrive (s.take 2)

/-- The segments in front without the one that two dots take away; the last one stands first. -/
def parent : List (List Char) → List (List Char)
  | [] => []
  | s :: ss => if isKept s then s :: ss else ss

/-- How a segment of a file's path is written: a drive at the start of the path has a colon. -/
def fileSegment (done : List (List Char)) (s : List Char) : List Char :=
  if done.isEmpty && isDrive s then s.take 1 ++ [':'] else s

/-- Resolves dot segments; `done` holds the segments so far, the last one first. -/
def resolve (file : Bool) (done : List (List Char)) : List (List Char) → List (List Char)
  | [] => done.reverse
  | s :: rest =>
    let ending (done : List (List Char)) : List (List Char) :=
      if rest.isEmpty then [] :: done else done
    if dots s = ['.'] then resolve file (ending done) rest
    else if dots s = ['.', '.'] then resolve file (ending (parent done)) rest
    else resolve file ((if file then fileSegment done s else s) :: done) rest

/-- Whether a segment at the start of a file's path is the name of a drive, when dot segments are
resolved. A file on a drive has no host. -/
def isOnDrive (done : List (List Char)) : List (List Char) → Bool
  | [] => false
  | s :: rest =>
    if dots s = ['.'] then isOnDrive done rest
    else if dots s = ['.', '.'] then isOnDrive (parent done) rest
    else (done.isEmpty && isDrive s) || isOnDrive (s :: done) rest

def render (segments : List (List Char)) : String :=
  String.ofList (segments.flatMap fun s => '/' :: s)

/-- The segments of a file's path without the empty ones at its start; one is always left. -/
def trimmed (segments : List (List Char)) : List (List Char) :=
  match segments.dropWhile (·.isEmpty) with
  | [] => [[]]
  | rest => rest

/-- The normal form of a path, whose segments are given raw. -/
def normal (file : Bool) (raw : List (List Char)) : List (List Char) :=
  let segments := resolve file [] (raw.map fun s => encodeUnless inPath s)
  if file then trimmed segments else segments

end GovernanceIndex.Web.Path
