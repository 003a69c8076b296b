import Mathlib.Algebra.Ring.Nat
import Mathlib.Data.List.Induction
import PathRouter.Proofs.Table.Packed

/-! Writing to a packed array. However often it is written to, it keeps its size and its width, which is the narrowest
one for the numbers that it is meant for; and each element reads as the number last written there, less the bits that
the width cannot hold. -/

namespace PathRouter.Table

namespace Width

def bits (width : Width) : Nat :=
  8 * width.octets

lemma bound_eq (width : Width) : width.bound = 2 ^ width.bits := by
  cases width <;> rfl

structure IsNarrowest (width : Width) (n : Nat) : Prop where
  holds : n < 2 ^ width.bits
  least : ∀ other : Width, n < 2 ^ other.bits → width.bits ≤ other.bits

lemma forMax?_eq_none_iff (greatest : Nat) : forMax? greatest = none ↔ maxPacked < greatest := by
  rw [← Nat.not_le]
  constructor
  · intro h hle
    obtain ⟨width, hwidth⟩ := exists_forMax?_eq hle
    rw [h] at hwidth
    cases hwidth
  · intro h
    cases hwidth : forMax? greatest with
    | none => rfl
    | some width => exact absurd (le_maxPacked_of_forMax? hwidth) h

lemma isNarrowest_of_forMax? {greatest : Nat} {width : Width} (h : forMax? greatest = some width) :
    width.IsNarrowest greatest where
  holds := bound_eq width ▸ lt_bound_of_forMax? h (Nat.le_refl greatest)
  least other hother := by
    have hs := forMax?_eq_some_iff.mp h
    cases width <;> cases other <;> simp only [Suits, bits, octets] at hs hother ⊢ <;> omega

end Width

/-- The number last written at an index of a list: by the last of the writes there, or from the beginning. -/
def lastAt? (numbers : List Nat) (writes : List (Nat × Nat)) (i : Nat) : Option Nat :=
  match writes.reverse.find? (·.1 = i) with
  | some write => some write.2
  | none => numbers[i]?

lemma lastAt?_append_singleton (numbers : List Nat) (writes : List (Nat × Nat)) (write : Nat × Nat) (i : Nat) :
    lastAt? numbers (writes ++ [write]) i = if write.1 = i then some write.2 else lastAt? numbers writes i := by
  rw [lastAt?, List.reverse_append, List.reverse_singleton, List.singleton_append, List.find?_cons]
  by_cases hi : write.1 = i
  · simp [hi]
  · simp only [hi, decide_false, if_false]
    rfl

namespace Packed

def writeAll (p : Packed) (writes : List (Nat × Nat)) : Packed :=
  writes.foldl (fun p write => p.set write.1 write.2) p

@[simp] lemma writeAll_append_singleton (p : Packed) (writes : List (Nat × Nat)) (write : Nat × Nat) :
    p.writeAll (writes ++ [write]) = (p.writeAll writes).set write.1 write.2 := by
  rw [writeAll, List.foldl_append]
  rfl

@[simp] lemma width_set (p : Packed) (i value : Nat) : (p.set i value).width = p.width := by
  cases p <;> rfl

@[simp]
lemma toList_set (p : Packed) (i value : Nat) : (p.set i value).toList = p.toList.set i (value % p.width.bound) := by
  cases p <;> simp [set, toList, width, Width.bound, List.map_set]

lemma filled?_eq (size value greatest : Nat) :
    filled? size value greatest = ofList? (List.replicate size value) greatest := by
  rw [filled?, ofList?]
  refine congrArg (Option.map · _) (funext fun width => ?_)
  cases width <;> simp [ofList]

/-- The two ways to make an array that is meant for numbers up to `greatest`, and the numbers that it holds at first. -/
inductive Makes (greatest : Nat) : List Nat → Option Packed → Prop
  | ofList (numbers : List Nat) : Makes greatest numbers (ofList? numbers greatest)
  | filled (size value : Nat) : Makes greatest (List.replicate size value) (filled? size value greatest)

/-- Whether an array meant for numbers up to `greatest` stands for a list of numbers after writes. -/
structure Represents (p : Packed) (greatest : Nat) (numbers : List Nat) (writes : List (Nat × Nat)) : Prop where
  size : p.size = numbers.length
  width : p.width.IsNarrowest greatest
  element : ∀ i < numbers.length, ∃ n, lastAt? numbers writes i = some n ∧
    p.get? i = some (n % 2 ^ p.width.bits) ∧ (n ≤ greatest → p.get? i = some n)
  iterated : p.toList.length = p.size ∧ ∀ i : Nat, p.toList[i]? = p.get? i
  octets : 8 * p.octets = p.size * p.width.bits

lemma Makes.eq_ofList? {greatest : Nat} {numbers : List Nat} {made : Option Packed} (h : Makes greatest numbers made) :
    made = ofList? numbers greatest := by
  cases h with
  | ofList => rfl
  | filled size value => exact filled?_eq size value greatest

section Written

variable {p : Packed} {numbers : List Nat} {writes : List (Nat × Nat)}

@[simp] lemma width_writeAll (p : Packed) (writes : List (Nat × Nat)) : (p.writeAll writes).width = p.width := by
  induction writes using List.reverseRecOn with
  | nil => rfl
  | append_singleton writes write ih => simp [ih]

@[simp] lemma length_writeAll (p : Packed) (writes : List (Nat × Nat)) :
    (p.writeAll writes).toList.length = p.toList.length := by
  induction writes using List.reverseRecOn with
  | nil => rfl
  | append_singleton writes write ih => simp [ih]

lemma getElem?_writeAll (hp : p.toList = numbers.map (· % p.width.bound))
    (hw : ∀ write ∈ writes, write.1 < numbers.length) (i : Nat) :
    (p.writeAll writes).toList[i]? = (lastAt? numbers writes i).map (· % p.width.bound) := by
  induction writes using List.reverseRecOn with
  | nil => rw [writeAll, List.foldl_nil, hp, List.getElem?_map]; rfl
  | append_singleton writes write ih =>
    obtain ⟨hwrites, hwrite⟩ := List.forall_mem_append.mp hw
    have hin : write.1 < (p.writeAll writes).toList.length := by
      rw [length_writeAll, hp, List.length_map]
      exact hwrite write (List.mem_singleton_self write)
    rw [writeAll_append_singleton, toList_set, lastAt?_append_singleton, width_writeAll]
    by_cases hi : write.1 = i
    · rw [if_pos hi, ← hi, List.getElem?_set_self hin, Option.map_some]
    · rw [if_neg hi, List.getElem?_set_ne hi, ih hwrites]

lemma exists_lastAt? (writes : List (Nat × Nat)) {i : Nat} (hi : i < numbers.length) :
    ∃ n, lastAt? numbers writes i = some n := by
  rw [lastAt?]
  split
  · exact ⟨_, rfl⟩
  · exact ⟨_, List.getElem?_eq_getElem hi⟩

end Written

lemma represents_writeAll {greatest : Nat} {numbers : List Nat} {p : Packed} (hp : ofList? numbers greatest = some p)
    {writes : List (Nat × Nat)} (hw : ∀ write ∈ writes, write.1 < numbers.length) :
    (p.writeAll writes).Represents greatest numbers writes := by
  obtain ⟨width, hwidth, rfl⟩ := Option.map_eq_some_iff.mp hp
  have hlist := toList_ofList width numbers
  have hsame := width_ofList width numbers
  generalize ofList width numbers = p at hlist hsame
  subst hsame
  have hread := fun i => getElem?_writeAll hlist hw i
  have hlength : (p.writeAll writes).toList.length = numbers.length := by
    rw [length_writeAll, hlist, List.length_map]
  refine ⟨?size, ?width, fun i hi => ?element, ?iterated, ?octets⟩
  case size => rw [← length_toList, hlength]
  case width =>
    rw [width_writeAll]
    exact Width.isNarrowest_of_forMax? hwidth
  case element =>
    obtain ⟨n, hn⟩ := exists_lastAt? writes hi
    rw [get?_eq, hread, hn, width_writeAll, Width.bound_eq, Option.map_some]
    refine ⟨n, rfl, rfl, fun hle => ?_⟩
    rw [← Width.bound_eq, Nat.mod_eq_of_lt (Width.lt_bound_of_forMax? hwidth hle)]
  case iterated => exact ⟨length_toList _, fun i => (get?_eq _ i).symm⟩
  case octets => rw [octets, Width.bits, Nat.mul_comm (p.writeAll writes).width.octets, Nat.mul_left_comm]

theorem writeAll_exact {greatest : Nat} {numbers : List Nat} {made : Option Packed} (hm : Makes greatest numbers made)
    {writes : List (Nat × Nat)} (hw : ∀ write ∈ writes, write.1 < numbers.length) :
    (made = none ↔ maxPacked < greatest) ∧ ∀ p, made = some p →
      (p.writeAll writes).width = p.width ∧ (p.writeAll writes).Represents greatest numbers writes := by
  obtain rfl := hm.eq_ofList?
  refine ⟨?_, fun p hp => ⟨width_writeAll p writes, represents_writeAll hp hw⟩⟩
  rw [ofList?, Option.map_eq_none_iff, Width.forMax?_eq_none_iff]

/-- A number that is too wide for its element keeps only its low bits. -/
theorem writeAll_exact_filled : ∃ p, filled? 4 300 300 = some p ∧ p.width = .u16 ∧
    (p.writeAll [(2, 7), (0, 1), (0, 0x10005)]).get? 0 = some 5 ∧
    (p.writeAll [(2, 7), (0, 1), (0, 0x10005)]).get? 2 = some 7 ∧
    (p.writeAll [(2, 7), (0, 1), (0, 0x10005)]).get? 3 = some 300 := by
  have hm : Makes 300 (List.replicate 4 300) (filled? 4 300 300) := .filled 4 300
  have hw : ∀ write ∈ [(2, 7), (0, 1), (0, 0x10005)], write.1 < (List.replicate 4 300).length := by decide
  obtain ⟨hnone, hsome⟩ := writeAll_exact hm hw
  obtain ⟨p, hp⟩ := Option.ne_none_iff_exists'.mp fun h => absurd (hnone.mp h) (by decide)
  obtain ⟨hwidth, h⟩ := hsome p hp
  have hu16 : p.width = .u16 := by
    rw [← Option.some.inj hp]
    rfl
  have hread : ∀ i < 4, ∀ n, lastAt? (List.replicate 4 300) [(2, 7), (0, 1), (0, 0x10005)] i = some n →
      (p.writeAll [(2, 7), (0, 1), (0, 0x10005)]).get? i = some (n % 2 ^ 16) := by
    intro i hi n hn
    obtain ⟨n', hn', he, -⟩ := h.element i hi
    rw [hwidth, hu16] at he
    rwa [Option.some.inj (hn.symm.trans hn')]
  exact ⟨p, hp, hu16, hread 0 (by decide) 0x10005 rfl, hread 2 (by decide) 7 rfl, hread 3 (by decide) 300 rfl⟩

end Packed

end PathRouter.Table
