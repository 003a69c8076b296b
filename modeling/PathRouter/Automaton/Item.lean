import Std.Data.HashMap

/-!
Positions in a set of patterns, and the pool that numbers them in the order in which they are first seen.
-/

namespace PathRouter.Automaton

/-- A position: `offset` octets into segment `segment` of route `route`. Within a variable the offset only
tells whether an octet has been read. -/
structure Item where
  route : Nat
  segment : Nat
  offset : Nat
  deriving Repr, DecidableEq, Hashable

structure ItemPool where
  items : Array Item
  numbers : Std.HashMap Item Nat

namespace ItemPool

def empty : ItemPool :=
  ⟨#[], ∅⟩

def intern (pool : ItemPool) (item : Item) : Nat × ItemPool :=
  match pool.numbers[item]? with
  | some number => (number, pool)
  | none =>
    (pool.items.size, ⟨pool.items.push item, pool.numbers.insert item pool.items.size⟩)

def internAll (pool : ItemPool) : List Item → List Nat × ItemPool
  | [] => ([], pool)
  | item :: rest =>
    let (number, pool) := pool.intern item
    let (numbers, pool) := pool.internAll rest
    (number :: numbers, pool)

def toList (pool : ItemPool) : List Item :=
  pool.items.toList

def isEmpty (pool : ItemPool) : Bool :=
  pool.items.isEmpty

end ItemPool

end PathRouter.Automaton
