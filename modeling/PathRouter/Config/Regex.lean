/-!
Regular expressions, as far as it bears on whether one can be used: which characters and sets of characters it
names, how its parts are nested, and where its options change.
-/

namespace PathRouter

namespace Regex

/-- What an expression sets of the options that matter; nothing if it leaves an option as it is. -/
structure Options where
  foldsCase : Option Bool := none
  isUnicode : Option Bool := none
  skipsBlanks : Option Bool := none
  deriving Repr, DecidableEq

inductive CharSet where
  | range (first last : Char)
  | named (negated : Bool)
  /-- A set with a letter for its name: digits, blanks, or the characters of words. -/
  | shorthand (negated : Bool)
  | bracketed (negated : Bool) (content : CharSet)
  | union (sets : List CharSet)
  | operation (left right : CharSet)
  deriving Repr, Inhabited

def CharSet.ofList : List CharSet → CharSet
  | [chars] => chars
  | sets => .union sets

end Regex

open Regex in
inductive Regex where
  | empty
  | options (changes : Options)
  /-- One character. Written as an octet by two hexadecimal digits, it may stand for that octet. -/
  | char (c : Char) (isOctet : Bool)
  | anyChar
  | edge (isWord : Bool)
  | shorthand (negated : Bool)
  | oneOf (chars : CharSet)
  | repeated (inner : Regex)
  | group (name? : Option (List Char)) (changes : Options) (inner : Regex)
  | sequence (parts : List Regex)
  | choice (branches : List Regex)
  deriving Repr, Inhabited

namespace Regex

def ofParts : List Regex → Regex
  | [] => .empty
  | [part] => part
  | parts => .sequence parts

def ofBranches : List Regex → Regex
  | [branch] => branch
  | branches => .choice branches

mutual

def CharSet.depth : CharSet → Nat
  | .range _ _ => 0
  | .named _ => 0
  | .shorthand _ => 0
  | .bracketed _ content => content.depth + 1
  | .union [] => 0
  | .union (chars :: sets) => max chars.depth (CharSet.greatestDepth sets) + 1
  | .operation left right => max left.depth right.depth + 1

def CharSet.greatestDepth : List CharSet → Nat
  | [] => 0
  | chars :: sets => max chars.depth (CharSet.greatestDepth sets)

end

mutual

def depth : Regex → Nat
  | .empty => 0
  | .options _ => 0
  | .char _ _ => 0
  | .anyChar => 0
  | .edge _ => 0
  | .shorthand _ => 0
  | .oneOf chars => chars.depth
  | .repeated inner => inner.depth + 1
  | .group _ _ inner => inner.depth + 1
  | .sequence parts => greatestDepth parts + 1
  | .choice branches => greatestDepth branches + 1

def greatestDepth : List Regex → Nat
  | [] => 0
  | part :: parts => max part.depth (greatestDepth parts)

end

mutual

def names : Regex → List (List Char)
  | .repeated inner => inner.names
  | .group name? _ inner => name?.toList ++ inner.names
  | .sequence parts => allNames parts
  | .choice branches => allNames branches
  | _ => []

def allNames : List Regex → List (List Char)
  | [] => []
  | part :: parts => part.names ++ allNames parts

end

end Regex

end PathRouter
