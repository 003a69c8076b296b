import PathRouter.Proofs.Table.Compilation
import PathRouter.Proofs.Table.Update

/-! Tables as they are filled in. An array begins with the number that stands for nothing in each of its elements, and
then the transitions and the routes of the states are written over it; what comes of it are the rows, state by state. -/

namespace PathRouter.Table

open Automaton

section LastAt

variable {numbers : List Nat} {writes : List (Nat × Nat)} {i : Nat}

lemma lastAt?_eq_or {written : Option Nat} (h : ∀ n, (i, n) ∈ writes ↔ written = some n) :
    lastAt? numbers writes i = written.or numbers[i]? := by
  rw [lastAt?]
  cases hf : writes.reverse.find? (·.1 = i) with
  | none =>
    have hnone : written = none := by
      refine Option.eq_none_iff_forall_not_mem.mpr fun n hn => ?_
      have hm := List.mem_reverse.mpr ((h n).mpr hn)
      exact List.find?_eq_none.mp hf _ hm (decide_eq_true rfl)
    rw [hnone, Option.none_or]
  | some write =>
    have hi : write.1 = i := by simpa using List.find?_some hf
    have hm : (i, write.2) ∈ writes := hi ▸ List.mem_reverse.mp (List.mem_of_find?_eq_some hf)
    rw [(h write.2).mp hm, Option.some_or]

end LastAt

namespace Packed

def written? (size value greatest : Nat) (writes : List (Nat × Nat)) : Option Packed :=
  (filled? size value greatest).map fun p => p.writeAll writes

lemma eq_of_toList_eq {p q : Packed} (hwidth : p.width = q.width) (h : p.toList = q.toList) : p = q := by
  rw [← ofList_toList p, ← ofList_toList q, hwidth, h]

lemma writeAll_ofList {width : Width} {numbers written : List Nat} {writes : List (Nat × Nat)}
    (hw : ∀ write ∈ writes, write.1 < numbers.length) (h : ∀ i : Nat, lastAt? numbers writes i = written[i]?) :
    (ofList width numbers).writeAll writes = ofList width written := by
  apply eq_of_toList_eq
  · simp
  · have hlist : (ofList width numbers).toList = numbers.map (· % (ofList width numbers).width.bound) := by simp
    apply List.ext_getElem?
    intro i
    simp [getElem?_writeAll hlist hw, h]

lemma written?_eq {size value : Nat} {written : List Nat} {writes : List (Nat × Nat)}
    (hw : ∀ write ∈ writes, write.1 < size)
    (h : ∀ i : Nat, lastAt? (List.replicate size value) writes i = written[i]?) (greatest : Nat) :
    written? size value greatest writes = ofList? written greatest := by
  rw [written?, filled?_eq, ofList?, ofList?, Option.map_map]
  refine congrArg (Option.map · _) (funext fun width => ?_)
  exact writeAll_ofList (by simpa only [List.length_replicate] using hw) h

lemma represents_of_written? {size value greatest : Nat} {writes : List (Nat × Nat)} {p : Packed}
    (hp : written? size value greatest writes = some p) (hw : ∀ write ∈ writes, write.1 < size) :
    p.Represents greatest (List.replicate size value) writes := by
  obtain ⟨filled, hf, rfl⟩ := Option.map_eq_some_iff.mp hp
  rw [filled?_eq] at hf
  exact represents_writeAll hf (by simpa only [List.length_replicate] using hw)

end Packed

variable {states : Array State} {routes : Nat}

def acceptances (states : Array State) : List (Nat × Nat) :=
  states.toList.filterMap fun state => state.accepts.map fun route => (state.id, route)

lemma mem_acceptances (hw : WellFormed states routes) (write : Nat × Nat) :
    write ∈ acceptances states ↔ ∃ state, states[write.1]? = some state ∧ state.accepts = some write.2 := by
  rw [acceptances, List.mem_filterMap]
  constructor
  · rintro ⟨state, hs, hm⟩
    obtain ⟨route, ha, rfl⟩ := Option.map_eq_some_iff.mp hm
    obtain ⟨i, hi⟩ := List.mem_iff_getElem?.mp hs
    rw [Array.getElem?_toList] at hi
    exact ⟨state, hw.numbered i state hi ▸ hi, ha⟩
  · rintro ⟨state, hs, ha⟩
    refine ⟨state, Array.mem_toList_iff.mpr (Array.mem_of_getElem? hs), ?_⟩
    rw [ha, hw.numbered _ state hs, Option.map_some]

lemma acceptances_lt (hw : WellFormed states routes) : ∀ write ∈ acceptances states, write.1 < states.size := by
  intro write hm
  obtain ⟨state, hs, -⟩ := (mem_acceptances hw write).mp hm
  exact (Array.getElem?_eq_some_iff.mp hs).1

lemma lastAt?_acceptances (hw : WellFormed states routes) (i : Nat) :
    lastAt? (List.replicate states.size routes) (acceptances states) i =
      (states.toList.map fun state => state.accepts.getD routes)[i]? := by
  have hwritten : ∀ n, (i, n) ∈ acceptances states ↔ states[i]?.bind (·.accepts) = some n := fun n => by
    rw [mem_acceptances hw, Option.bind_eq_some_iff]
  rw [List.getElem?_map, Array.getElem?_toList, lastAt?_eq_or hwritten]
  cases hs : states[i]? with
  | none => simpa using Array.getElem?_eq_none_iff.mp hs
  | some state =>
    have hi : i < states.size := (Array.getElem?_eq_some_iff.mp hs).1
    cases ha : state.accepts <;> simp [ha, hi]

namespace Dense

def cells (states : Array State) : List (Nat × Nat) :=
  states.toList.flatMap fun state => state.transitions.map fun t => (state.id * rowWidth + column t.1, t.2)

lemma mem_cells (hw : WellFormed states routes) (write : Nat × Nat) : write ∈ cells states ↔
    ∃ q c state, write.1 = q * rowWidth + c ∧ c < rowWidth ∧ states[q]? = some state ∧
      state.next? (UInt8.ofNat (0x20 + c)) = some write.2 := by
  rw [cells, List.mem_flatMap]
  constructor
  · rintro ⟨state, hs, hm⟩
    obtain ⟨t, ht, rfl⟩ := List.mem_map.mp hm
    obtain ⟨q, hq⟩ := List.mem_iff_getElem?.mp hs
    rw [Array.getElem?_toList] at hq
    have hfits := hw.fits q state hq
    have ho := hfits.octets t ht
    refine ⟨q, column t.1, state, by rw [hw.numbered q state hq], column_lt ho, hq, ?_⟩
    rw [ofNat_column ho]
    exact State.next?_of_mem hfits.sorted ht
  · rintro ⟨q, c, state, hi, hc, hq, hn⟩
    refine ⟨state, Array.mem_toList_iff.mpr (Array.mem_of_getElem? hq), ?_⟩
    refine List.mem_map.mpr ⟨_, State.next?_mem hn, Prod.ext ?_ rfl⟩
    rw [hw.numbered q state hq, column_ofNat hc, hi]

lemma cell_inj {q q' c c' : Nat} (hc : c < rowWidth) (hc' : c' < rowWidth)
    (h : q * rowWidth + c = q' * rowWidth + c') : q = q' ∧ c = c' := by
  simp only [rowWidth] at hc hc' h
  omega

lemma cells_lt (hw : WellFormed states routes) : ∀ write ∈ cells states, write.1 < states.size * rowWidth := by
  intro write hm
  obtain ⟨q, c, state, hi, hc, hq, -⟩ := (mem_cells hw write).mp hm
  have hlt := (Array.getElem?_eq_some_iff.mp hq).1
  rw [hi]
  simp only [rowWidth] at hc ⊢
  omega

lemma lastAt?_cells (hw : WellFormed states routes) (i : Nat) :
    lastAt? (List.replicate (states.size * rowWidth) states.size) (cells states) i =
      (states.toList.flatMap (row states.size))[i]? := by
  obtain ⟨q, c, hc, rfl⟩ : ∃ q c, c < rowWidth ∧ i = q * rowWidth + c :=
    ⟨i / rowWidth, i % rowWidth, Nat.mod_lt _ (by decide), (Nat.div_add_mod' i rowWidth).symm⟩
  have hwritten : ∀ n, (q * rowWidth + c, n) ∈ cells states ↔
      (states[q]?.bind fun state => state.next? (UInt8.ofNat (0x20 + c))) = some n := fun n => by
    rw [mem_cells hw, Option.bind_eq_some_iff]
    constructor
    · rintro ⟨q', c', state, hi, hc', hq, hn⟩
      obtain ⟨rfl, rfl⟩ := cell_inj hc hc' hi
      exact ⟨state, hq, hn⟩
    · rintro ⟨state, hq, hn⟩
      exact ⟨q, c, state, rfl, hc, hq, hn⟩
  rw [getElem?_flatMap_of_length hc _ fun state _ => length_row states.size state, Array.getElem?_toList,
    lastAt?_eq_or hwritten]
  cases hq : states[q]? with
  | none =>
    have hle : states.size * rowWidth ≤ q * rowWidth := Nat.mul_le_mul_right _ (Array.getElem?_eq_none_iff.mp hq)
    simpa using Nat.le_add_right_of_le hle
  | some state =>
    have hin : q * rowWidth + c < states.size * rowWidth := by
      have hlt := (Array.getElem?_eq_some_iff.mp hq).1
      simp only [rowWidth] at hc ⊢
      omega
    rw [Option.bind_some, Option.bind_some, getElem?_row _ _ hc, List.getElem?_replicate_of_lt hin]
    cases state.next? (UInt8.ofNat (0x20 + c)) <;> rfl

/-- Tables filled with the numbers that stand for nothing, which the states are then written to. -/
def write (states : Array State) (routes : Nat) : Except CapacityError Dense :=
  let greatest := max states.size routes
  match Packed.written? (states.size * rowWidth) states.size greatest (cells states),
    Packed.written? states.size routes greatest (acceptances states) with
  | some table, some accepted => .ok ⟨table, accepted, states.size, routes⟩
  | _, _ => .error ⟨states.size, routes⟩

theorem build_eq_write (hw : WellFormed states routes) : build states routes = write states routes := by
  rw [write, Packed.written?_eq (cells_lt hw) (lastAt?_cells hw),
    Packed.written?_eq (acceptances_lt hw) (lastAt?_acceptances hw), build, Packed.ofList?, Packed.ofList?]
  cases Width.forMax? (max states.size routes) with
  | none => rfl
  | some width => rfl

theorem represents_of_build (hw : WellFormed states routes) {m : Dense} (hm : build states routes = .ok m) :
    m.table.Represents (max states.size routes) (List.replicate (states.size * rowWidth) states.size) (cells states) ∧
      m.accepted.Represents (max states.size routes) (List.replicate states.size routes) (acceptances states) := by
  rw [build_eq_write hw, write] at hm
  cases ht : Packed.written? (states.size * rowWidth) states.size (max states.size routes) (cells states) with
  | none => simp only [ht, reduceCtorEq] at hm
  | some table =>
    cases ha : Packed.written? states.size routes (max states.size routes) (acceptances states) with
    | none => simp only [ht, ha, reduceCtorEq] at hm
    | some accepted =>
      simp only [ht, ha, Except.ok.injEq] at hm
      subst hm
      exact ⟨Packed.represents_of_written? ht (cells_lt hw), Packed.represents_of_written? ha (acceptances_lt hw)⟩

end Dense

namespace Sparse

/-- Tables whose accepted routes are written to an array filled with the number of routes. -/
def write (states : Array State) (routes : Nat) : Except CapacityError Sparse :=
  let packed : Option (Packed × Packed × Packed) := do
    let accepted ← Packed.written? states.size routes routes (acceptances states)
    let rowOffsets ← Packed.ofList? (offsets 0 (states.toList.map row)) (entries states).length
    let values ← Packed.ofList? ((entries states).map (·.2)) (states.size - 1)
    some (rowOffsets, values, accepted)
  match packed with
  | none => .error ⟨states.size, routes⟩
  | some (rowOffsets, values, accepted) =>
    .ok ⟨rowOffsets, ((entries states).map (·.1)).toArray, values, accepted, states.size, routes⟩

theorem build_eq_write (hw : WellFormed states routes) : build states routes = write states routes := by
  rw [write, Packed.written?_eq (acceptances_lt hw) (lastAt?_acceptances hw)]
  rfl

theorem represents_of_build (hw : WellFormed states routes) {m : Sparse} (hm : build states routes = .ok m) :
    m.accepted.Represents routes (List.replicate states.size routes) (acceptances states) := by
  obtain ⟨accepted, rowOffsets, values, ha, -, -, rfl⟩ := build_eq_ok_iff.mp hm
  rw [← Packed.written?_eq (acceptances_lt hw) (lastAt?_acceptances hw)] at ha
  exact Packed.represents_of_written? ha (acceptances_lt hw)

end Sparse

end PathRouter.Table
