import PathRouter.Text.Mark

/-!
The directions in which the characters of domain names are written, by the Unicode standard, version 17,
and the rule that keeps the labels of a name apart when some of it is written from right to left.
-/

namespace PathRouter.Url.Domain

inductive Direction where
  | left
  | right
  | europeanNumber
  | arabicNumber
  /-- A mark that goes with the character before it. -/
  | mark
  | neutral
  deriving Repr, DecidableEq

namespace Direction

/-- The words of the table of characters written from right to left. Its ranges and those of the next three
tables run over code points that no domain name holds. -/
def rightLines : List String :=
  ["5BE 5C0 5C3 5C6 5D0-5F4 608 60B 60D 61B-64A 66D-66F 671-6D5 6E5-6E6 6EE-6EF 6FA-710 712-72F",
   "74D-7A5 7B1-7EA 7F4-7F5 7FA 7FE-815 81A 824 828 830-858 85E-88F 8A0-8C9 FBB2-FBC2 FE73",
   "10800-1091B 10920-10A00 10A10-10A35 10A40-10AE4 10AEB-10B35 10B40-10D23 10D4A-10D4F 10D6F-10D8F",
   "10E80-10EA9 10EAD-10EC7 10F00-10F45 10F51-10F81 10F86-10FF6 1E800-1E8CF 1E922-1E943 1E94B-1ED3D"]

def europeanLines : List String :=
  ["30-39 6F0-6F9 102E1-102FB"]

def arabicLines : List String :=
  ["660-669 66B-66C 10D30-10D49 10E60-10E7E"]

def neutralLines : List String :=
  ["21-2E 3B-60 7B-D7 F7 2B9-2BA 2C2-2CF 2D2-2ED 2EF-2FF 375 3F6 58A-58F 606-607 609-60A 60C 60E-60F",
   "66A 6DE 6E9 7F6-7F9 9F2-9F3 9FB AF1 BF3-BFA C78-C7E E3F F3A-F3D 1390-1399 1400 169B-169C 17DB",
   "17F0-180A 1940-1945 19DE-19FF 200C-20C1 2104-214D 218A-2335 237B-2394 2396-26AB 26AD-27FF",
   "2900-2BFF 2CE5-2CEA 2CF9-2CFF 2E00-3004 3008-3020 3030 3037 303D-303F 30A0 30FB 31C0-31E5",
   "4DC0-4DFF A490-A4C6 A60D-A60F A673 A67E-A67F A700-A721 A788 A828-A82B A838-A839 A874-A877",
   "AB6A-AB6B FBC3-FDFF FE45-FE46 10101 10140-1018C 10190-101A0 1091F 10B39-10B3F 10D6E 10ED0-10ED8",
   "11052-11065 11660-1166C 11FD5-11FF1 16FE2 1CC00-1CEF0 1D1E9-1D241 1D245 1D300-1D356 1E2FF",
   "1EEF0-1F12F 1F16D-1F16F 1F1AD 1F260-1FBFA"]

def rightRanges : List CodePoints.Range :=
  CodePoints.ranges rightLines

def europeanRanges : List CodePoints.Range :=
  CodePoints.ranges europeanLines

def arabicRanges : List CodePoints.Range :=
  CodePoints.ranges arabicLines

def neutralRanges : List CodePoints.Range :=
  CodePoints.ranges neutralLines

def ofChar (c : Char) : Direction :=
  if c.isAlpha then left
  else if CodePoints.anyContains europeanRanges c.toNat then europeanNumber
  else if CodePoints.anyContains neutralRanges c.toNat then neutral
  else if Mark.isNonspacing c then mark
  else if CodePoints.anyContains rightRanges c.toNat then right
  else if CodePoints.anyContains arabicRanges c.toNat then arabicNumber
  else left

def leastRight : Nat := 0x590

def isRightward (c : Char) : Bool :=
  leastRight ≤ c.toNat &&
    match ofChar c with
    | right => true
    | arabicNumber => true
    | _ => false

/-- Whether the directions of a label's characters belong together. A label is led by a letter. Marks at its
end aside, a label from left to right ends with a letter or a European digit and holds nothing written from
right to left; one from right to left ends with a letter or digit, holds nothing written from left to right,
and digits of one kind only. -/
def isLabel (label : List Direction) : Bool :=
  let core := (label.reverse.dropWhile (· = mark)).reverse
  match label with
  | [] => true
  | left :: _ =>
    (core.getLast?.any fun d => d = left || d = europeanNumber) &&
      core.all fun d => d ≠ right && d ≠ arabicNumber
  | right :: _ =>
    (core.getLast?.any fun d => d = right || d = europeanNumber || d = arabicNumber) &&
      core.all (· ≠ left) && !(core.contains europeanNumber && core.contains arabicNumber)
  | _ => false

def areLabels (labels : List (List Char)) : Bool :=
  !(labels.any fun label => label.any isRightward) || labels.all fun label => isLabel (label.map ofChar)

end Direction

end PathRouter.Url.Domain
