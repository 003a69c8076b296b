import PathRouter.Text.Mark

/-!
Where the invisible joiners may stand in domain names: behind a sign that joins consonants, or, for the one
that keeps letters apart, between letters that would join. The letters are those of the Unicode standard,
version 17.
-/

namespace PathRouter.Url.Domain.Joining

/-- The words of the table of letters that join on both sides. Its ranges and those of the next three tables
run over code points that no domain name holds. -/
def dualLines : List String :=
  ["620 626 628 62A-62E 633-63F 641-647 649-64A 66E-66F 679-687 69A-6BF 6C1-6C2 6CC 6CE 6D0-6D1",
   "6FA-6FC 6FF 712-714 71A-71D 71F-727 729 72B 72D-72E 74E-758 75C-76A 76D-770 772 775-777 77A-77F",
   "7CA-7EA 841-845 848 84A-853 855 860 862-865 868 886 889-88D 88F 8A0-8A9 8AF-8B0 8B3-8B8 8BA-8C8",
   "1807 1820-1878 1887-18A8 18AA A840-A871 10AC0-10AC4 10AD3-10AD6 10AD8-10ADC 10ADE-10AE0",
   "10AEB-10AEE 10B80 10B82 10B86-10B88 10B8A-10B8B 10B8D 10B90 10BAD-10BAE 10D01-10D21 10D23",
   "10EC3-10EC4 10EC6-10EC7 10F30-10F32 10F34-10F44 10F51-10F53 10F70-10F73 10F76-10F81 10FB0",
   "10FB2-10FB3 10FB8 10FBB-10FBC 10FBE-10FBF 10FC1 10FC4 10FCA 1E922-1E943"]

def leftLines : List String :=
  ["A872 10ACD 10AD7 10D00 10FCB"]

def rightLines : List String :=
  ["622-625 627 629 62F-632 648 671-673 688-699 6C0 6C3-6CB 6CD 6CF 6D2-6D3 6D5 6EE-6EF 710 715-719",
   "71E 728 72A 72C 72F 74D 759-75B 76B-76C 771 773-774 778-779 840 846-847 849 854 856-858 867",
   "869-882 88E 8AA-8AC 8AE 8B1-8B2 8B9 10AC5 10AC7 10AC9-10ACA 10ACE-10AD2 10ADD 10AE1 10AE4 10AEF",
   "10B81 10B83-10B85 10B89 10B8C 10B8E-10B8F 10B91 10BA9-10BAC 10D22 10EC2 10F33 10F54 10F74-10F75",
   "10FB4-10FB6 10FB9-10FBA 10FBD 10FC2-10FC3 10FC9"]

def passedLines : List String :=
  ["CBF CC6 11A07-11A08 11C3F 1E94B"]

def dual : List CodePoints.Range :=
  CodePoints.ranges dualLines

def left : List CodePoints.Range :=
  CodePoints.ranges leftLines

def right : List CodePoints.Range :=
  CodePoints.ranges rightLines

def passed : List CodePoints.Range :=
  CodePoints.ranges passedLines

def nonJoiner : Char := '\u200c'

def joiner : Char := '\u200d'

def viramaClass : Nat := 9

def isPassed (c : Char) : Bool :=
  Mark.isNonspacing c || CodePoints.anyContains passed c.toNat

/-- Whether the first character that bears on joining joins, by a table or on both sides. -/
def joins (table : List CodePoints.Range) (text : List Char) : Bool :=
  match text.dropWhile isPassed with
  | [] => false
  | c :: _ => CodePoints.anyContains dual c.toNat || CodePoints.anyContains table c.toNat

/-- Whether a joiner may stand between the characters before it, the nearest one first, and those after. -/
def isPlace (c : Char) (before after : List Char) : Bool :=
  before.head?.any fun d =>
    Mark.combiningClass d = viramaClass || (c = nonJoiner && joins left before && joins right after)

/-- Whether all joiners of a text may stand where they do, after the characters before it. -/
def areInPlace (before : List Char) : List Char → Bool
  | [] => true
  | c :: after =>
    ((c ≠ nonJoiner && c ≠ joiner) || isPlace c before after) && areInPlace (c :: before) after

end PathRouter.Url.Domain.Joining
