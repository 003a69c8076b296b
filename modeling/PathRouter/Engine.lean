import PathRouter.Table.Sparse

/-!
A compiled automaton in one of the two layouts, which answer every path alike.
-/

namespace PathRouter

open Automaton Table

inductive Engine where
  | dense (table : Dense)
  | sparse (table : Sparse)
  deriving Repr, DecidableEq

namespace Engine

def compile (states : Array State) (routes : Nat) (compress : Bool) : Except CapacityError Engine :=
  if compress then (Sparse.build states routes).map .sparse
  else (Dense.build states routes).map .dense

def isCompressed : Engine → Bool
  | .dense _ => false
  | .sparse _ => true

def kind : Engine → String
  | .dense _ => "dense"
  | .sparse _ => "csr"

def states : Engine → Nat
  | .dense table => table.states
  | .sparse table => table.states

def routes : Engine → Nat
  | .dense table => table.routes
  | .sparse table => table.routes

def octets : Engine → Nat
  | .dense table => table.octets
  | .sparse table => table.octets

/-- The route of a path, of which the first octet is passed over. The outer `none` means that a read fell
outside the arrays. -/
def run? (engine : Engine) (path : List UInt8) : Option (Option Nat) :=
  match engine with
  | .dense table => table.run? path
  | .sparse table => table.run? path

def run (engine : Engine) (path : List UInt8) : Option Nat :=
  (engine.run? path).join

inductive Flaw where
  | dense (flaw : Dense.Flaw)
  | sparse (flaw : Sparse.Flaw)
  deriving Repr, DecidableEq

def Flaw.detail : Flaw → String
  | .dense flaw => flaw.detail
  | .sparse flaw => flaw.detail

def flaw? : Engine → Option Flaw
  | .dense table => table.flaw?.map .dense
  | .sparse table => table.flaw?.map .sparse

end Engine

end PathRouter
