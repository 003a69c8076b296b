import Mathlib.Data.List.Basic
import PathRouter.Table.Packed

/-! A packed array reads as the list of its numbers. Numbers within the bound of the width are kept. -/

namespace PathRouter.Table

namespace Width

def Suits (greatest : Nat) : Width → Prop
  | .u8 => greatest < 0x100
  | .u16 => 0x100 ≤ greatest ∧ greatest < 0x10000
  | .u32 => 0x10000 ≤ greatest ∧ greatest ≤ maxPacked

lemma forMax?_eq_some_iff {greatest : Nat} {width : Width} : forMax? greatest = some width ↔ Suits greatest width := by
  have hm : maxPacked = 0x7ffffffe := rfl
  rw [forMax?]
  cases width <;> split_ifs <;> simp [Suits] <;> omega

lemma lt_bound_of_forMax? {greatest n : Nat} {width : Width} (h : forMax? greatest = some width)
    (hn : n ≤ greatest) : n < width.bound := by
  have hm : maxPacked = 0x7ffffffe := rfl
  have hs := forMax?_eq_some_iff.mp h
  cases width <;> simp only [Suits, bound] at hs ⊢ <;> omega

lemma le_maxPacked_of_forMax? {greatest : Nat} {width : Width} (h : forMax? greatest = some width) :
    greatest ≤ maxPacked := by
  have hm : maxPacked = 0x7ffffffe := rfl
  have hs := forMax?_eq_some_iff.mp h
  cases width <;> simp only [Suits] at hs <;> omega

lemma exists_forMax?_eq {greatest : Nat} (h : greatest ≤ maxPacked) :
    ∃ width, forMax? greatest = some width := by
  rw [forMax?, if_pos h]
  split_ifs <;> exact ⟨_, rfl⟩

end Width

namespace Packed

@[simp] lemma width_ofList (width : Width) (numbers : List Nat) : (ofList width numbers).width = width := by
  cases width <;> rfl

@[simp] lemma toList_ofList (width : Width) (numbers : List Nat) :
    (ofList width numbers).toList = numbers.map (· % width.bound) := by
  cases width <;> simp [ofList, toList, Width.bound, Function.comp_def]

lemma toList_ofList_of_lt {width : Width} {numbers : List Nat} (h : ∀ n ∈ numbers, n < width.bound) :
    (ofList width numbers).toList = numbers := by
  have hm : ∀ n ∈ numbers, n % width.bound = id n := fun n hn => Nat.mod_eq_of_lt (h n hn)
  rw [toList_ofList, List.map_congr_left hm, List.map_id]

lemma get?_eq (p : Packed) (i : Nat) : p.get? i = p.toList[i]? := by
  cases p <;> simp [get?, toList]

@[simp] lemma length_toList (p : Packed) : p.toList.length = p.size := by
  cases p <;> simp [toList, size]

lemma exists_get? {p : Packed} {i : Nat} (hi : i < p.size) : ∃ n ∈ p.toList, p.get? i = some n := by
  rw [← length_toList] at hi
  exact ⟨p.toList[i], List.getElem_mem hi, by rw [get?_eq, List.getElem?_eq_getElem hi]⟩

lemma lt_bound_of_mem {p : Packed} {n : Nat} (h : n ∈ p.toList) : n < p.width.bound := by
  cases p with
  | u8 elements =>
    obtain ⟨b, -, rfl⟩ := List.mem_map.mp h
    exact b.toNat_lt
  | u16 elements =>
    obtain ⟨b, -, rfl⟩ := List.mem_map.mp h
    exact b.toNat_lt
  | u32 elements =>
    obtain ⟨b, -, rfl⟩ := List.mem_map.mp h
    exact b.toNat_lt

@[simp] lemma ofList_toList (p : Packed) : ofList p.width p.toList = p := by
  cases p <;> simp [ofList, width, toList, Function.comp_def]

lemma mapM_get? (p : Packed) : (List.range p.size).mapM p.get? = some p.toList := by
  have hread : p.get? = (p.toList[·]?) := funext p.get?_eq
  rw [hread, ← length_toList]
  generalize p.toList = numbers
  induction numbers with
  | nil => rfl
  | cons n rest ih =>
    rw [List.length_cons, List.range_succ_eq_map, List.mapM_cons, List.mapM_map]
    simp only [List.getElem?_cons_zero, Function.comp_def, List.getElem?_cons_succ, ih]
    rfl

lemma toList_ofList? {numbers : List Nat} {greatest : Nat} {p : Packed} (hp : ofList? numbers greatest = some p)
    (h : ∀ n ∈ numbers, n ≤ greatest) : p.toList = numbers := by
  obtain ⟨width, hw, rfl⟩ := Option.map_eq_some_iff.mp hp
  exact toList_ofList_of_lt fun n hn => Width.lt_bound_of_forMax? hw (h n hn)

lemma exists_ofList?_eq {greatest : Nat} (h : greatest ≤ maxPacked) (numbers : List Nat) :
    ∃ p, ofList? numbers greatest = some p := by
  obtain ⟨width, hw⟩ := Width.exists_forMax?_eq h
  exact ⟨_, by rw [ofList?, hw]; rfl⟩

lemma le_maxPacked_of_ofList? {numbers : List Nat} {greatest : Nat} {p : Packed}
    (hp : ofList? numbers greatest = some p) : greatest ≤ maxPacked := by
  obtain ⟨width, hw, -⟩ := Option.map_eq_some_iff.mp hp
  exact Width.le_maxPacked_of_forMax? hw

end Packed

end PathRouter.Table
