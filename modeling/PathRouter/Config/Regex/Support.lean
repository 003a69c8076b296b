import PathRouter.Config.Regex.Reader

/-!
Which regular expressions can be used. Tables of letter case, of words and of sets with a letter for their
name are not at hand, so that these work only for ASCII, where octets count instead of characters; and there
nothing may match a part of a character beyond ASCII.
-/

namespace PathRouter.Regex

structure Mode where
  foldsCase : Bool
  isUnicode : Bool
  deriving Repr, DecidableEq

namespace Mode

def initial : Mode := ⟨false, true⟩

def after (mode : Mode) (changes : Options) : Mode :=
  ⟨changes.foldsCase.getD mode.foldsCase, changes.isUnicode.getD mode.isUnicode⟩

def needsCases (mode : Mode) : Bool :=
  mode.foldsCase && mode.isUnicode

end Mode

mutual

def CharSet.isSupported (mode : Mode) : CharSet → Bool
  | .range _ last => !mode.needsCases && (mode.isUnicode || last.toNat < 0x80)
  | .named negated => !mode.needsCases && (mode.isUnicode || !negated)
  | .shorthand negated => !mode.isUnicode && !negated
  | .bracketed negated content => content.isSupported mode && (mode.isUnicode || !negated)
  | .union sets => CharSet.areSupported mode sets
  | .operation left right => left.isSupported mode && right.isSupported mode

def CharSet.areSupported (mode : Mode) : List CharSet → Bool
  | [] => true
  | chars :: sets => chars.isSupported mode && CharSet.areSupported mode sets

end

mutual

def modeAfter? (mode : Mode) : Regex → Option Mode
  | .empty => some mode
  | .options changes => some (mode.after changes)
  | .char c isOctet =>
    if mode.needsCases || (!mode.isUnicode && isOctet && 0x80 ≤ c.toNat) then none else some mode
  | .anyChar => if mode.isUnicode then some mode else none
  | .edge isWord => if isWord && mode.isUnicode then none else some mode
  | .shorthand negated => if mode.isUnicode || negated then none else some mode
  | .oneOf chars => if chars.isSupported mode then some mode else none
  | .repeated inner => modeAfter? mode inner
  | .group _ changes inner => (modeAfter? (mode.after changes) inner).map fun _ => mode
  | .sequence parts => modeAfterAll? mode parts
  | .choice branches => modeAfterAll? mode branches

def modeAfterAll? (mode : Mode) : List Regex → Option Mode
  | [] => some mode
  | part :: parts => (modeAfter? mode part).bind fun mode => modeAfterAll? mode parts

end

def greatestNesting : Nat := 250

def isUsable (text : List Char) : Bool :=
  match parse? text with
  | none => false
  | some r => r.depth ≤ greatestNesting && r.names.eraseDups.length = r.names.length &&
      (modeAfter? .initial r).isSome

end PathRouter.Regex
