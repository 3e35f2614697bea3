import GovernanceIndex.Text.Combining

/-!
The direction of writing. A host name with a character from right to left is two-directional, and
then each of its labels runs in one direction: it starts with a letter of the direction, ends with a
letter of the direction or a number, marks behind that aside, and holds no letter of the other
direction. A label from right to left does not mix the two kinds of numbers.
-/
namespace GovernanceIndex.Web.HostName

open Text

inductive Direction where
  | leftToRight
  | rightToLeft
  | european
  | arabic
  | neutral
  | mark
  deriving DecidableEq, Repr

def rightToLeftLetters : CodeSet := .ofLines
  ["5BE 5C0 5C3 5C6 5D0-5F4 608 60B 60D 61B-64A 66D-66F 671-6D5 6E5-6E6 6EE-6EF 6FA-710",
   "712-72F 74D-7A5 7B1-7EA 7F4-7F5 7FA 7FE-815 81A 824 828 830-858 85E-88F 8A0-8C9 FBB2-FBC2",
   "FE73 10800-1091B 10920-10A00 10A10-10A35 10A40-10AE4 10AEB-10B35 10B40-10D23 10D4A-10D4F",
   "10D6F-10D8F 10E80-10EA9 10EAD-10EC7 10F00-10F45 10F51-10F81 10F86-10FF6 1E800-1E8CF",
   "1E922-1E943 1E94B-1ED3D"]

def arabicNumbers : CodeSet := .ofLines
  ["660-669 66B-66C 10D30-10D49 10E60-10E7E"]

def europeanNumbers : CodeSet := .ofLines
  ["30-39 6F0-6F9 102E1-102FB"]

/-- Characters without a direction. -/
def neutrals : CodeSet := .ofLines
  ["0-2F 3A-60 7B-D7 F7 2B9-2BA 2C2-2CF 2D2-2ED 2EF-2FF 375 3F6 58A-58F 606-607 609-60A 60C",
   "60E-60F 66A 6DE 6E9 7F6-7F9 9F2-9F3 9FB AF1 BF3-BFA C78-C7E E3F F3A-F3D 1390-1399 1400",
   "169B-169C 17DB 17F0-180A 1940-1945 19DE-19FF 200C-20C1 2104-214D 218A-2335 237B-2394",
   "2396-26AB 26AD-27FF 2900-2BFF 2CE5-2CEA 2CF9-2CFF 2E00-3004 3008-3020 3030 3037 303D-303F",
   "30A0 30FB 31C0-31E5 4DC0-4DFF A490-A4C6 A60D-A60F A673 A67E-A67F A700-A721 A788 A828-A82B",
   "A838-A839 A874-A877 AB6A-AB6B FBC3-FDFF FE45-FE46 10101 10140-1018C 10190-101A0 1091F",
   "10B39-10B3F 10D6E 10ED0-10ED8 11052-11065 11660-1166C 11FD5-11FF1 16FE2 1CC00-1CEF0",
   "1D1E9-1D241 1D245 1D300-1D356 1E2FF 1EEF0-1F12F 1F16D-1F16F 1F1AD 1F260-1FBFA"]

def letterMarks : CodeSet := .ofLines ["CBF CC6 11A07-11A08 11C3F"]

def direction (c : Char) : Direction :=
  if rightToLeftLetters.contains c then .rightToLeft
  else if arabicNumbers.contains c then .arabic
  else if europeanNumbers.contains c then .european
  else if neutrals.contains c then .neutral
  else if nonspacingMarks.contains c && !letterMarks.contains c then .mark
  else .leftToRight

/-- Whether a name with a character of this direction is two-directional. -/
def Direction.isMixing : Direction → Bool
  | .rightToLeft | .arabic => true
  | _ => false

/-- Whether a label in a two-directional name runs in one direction. -/
def runsOneWay (label : List Char) : Bool :=
  let ds := label.map direction
  let last := (ds.reverse.dropWhile (· = .mark)).head?
  match ds.head? with
  | none => true
  | some .leftToRight =>
    (last = some .leftToRight || last = some .european) && ds.all fun d => !d.isMixing
  | some .rightToLeft =>
    (last = some .rightToLeft || last = some .european || last = some .arabic) &&
      ds.all (fun d => d ≠ .leftToRight) && !(ds.contains .european && ds.contains .arabic)
  | some _ => false

end GovernanceIndex.Web.HostName
