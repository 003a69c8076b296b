/-!
Arrays of natural numbers stored in 8, 16 or 32 bits each: the narrowest width that holds the greatest
number which the array is meant for. A number too wide for its element loses its high bits.
-/

namespace PathRouter.Table

def maxPacked : Nat := 0x7ffffffe

inductive Width where
  | u8
  | u16
  | u32
  deriving Repr, DecidableEq

namespace Width

def forMax? (greatest : Nat) : Option Width :=
  if greatest < 0x100 then some .u8
  else if greatest < 0x10000 then some .u16
  else if greatest ≤ maxPacked then some .u32
  else none

def octets : Width → Nat
  | .u8 => 1
  | .u16 => 2
  | .u32 => 4

def bound : Width → Nat
  | .u8 => 0x100
  | .u16 => 0x10000
  | .u32 => 0x100000000

end Width

inductive Packed where
  | u8 (elements : Array UInt8)
  | u16 (elements : Array UInt16)
  | u32 (elements : Array UInt32)
  deriving Repr, DecidableEq

namespace Packed

def width : Packed → Width
  | .u8 _ => .u8
  | .u16 _ => .u16
  | .u32 _ => .u32

def size : Packed → Nat
  | .u8 elements => elements.size
  | .u16 elements => elements.size
  | .u32 elements => elements.size

def isEmpty (p : Packed) : Bool :=
  p.size = 0

def octets (p : Packed) : Nat :=
  p.width.octets * p.size

def toList : Packed → List Nat
  | .u8 elements => elements.toList.map UInt8.toNat
  | .u16 elements => elements.toList.map UInt16.toNat
  | .u32 elements => elements.toList.map UInt32.toNat

def ofList (width : Width) (numbers : List Nat) : Packed :=
  match width with
  | .u8 => .u8 (numbers.map UInt8.ofNat).toArray
  | .u16 => .u16 (numbers.map UInt16.ofNat).toArray
  | .u32 => .u32 (numbers.map UInt32.ofNat).toArray

def ofList? (numbers : List Nat) (greatest : Nat) : Option Packed :=
  (Width.forMax? greatest).map fun width => ofList width numbers

def filled? (size value greatest : Nat) : Option Packed :=
  (Width.forMax? greatest).map fun
    | .u8 => .u8 (Array.replicate size (UInt8.ofNat value))
    | .u16 => .u16 (Array.replicate size (UInt16.ofNat value))
    | .u32 => .u32 (Array.replicate size (UInt32.ofNat value))

def get? (p : Packed) (i : Nat) : Option Nat :=
  match p with
  | .u8 elements => elements[i]?.map UInt8.toNat
  | .u16 elements => elements[i]?.map UInt16.toNat
  | .u32 elements => elements[i]?.map UInt32.toNat

def set (p : Packed) (i value : Nat) : Packed :=
  match p with
  | .u8 elements => .u8 (elements.setIfInBounds i (UInt8.ofNat value))
  | .u16 elements => .u16 (elements.setIfInBounds i (UInt16.ofNat value))
  | .u32 elements => .u32 (elements.setIfInBounds i (UInt32.ofNat value))

end Packed

end PathRouter.Table
