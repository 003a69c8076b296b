import PathRouter.Proofs.Automaton.WellFormed
import PathRouter.Proofs.Table.Packed
import PathRouter.Table.Dense

/-! The dense table answers as the automaton does: the cell of a state and an octet holds the next state. -/

namespace PathRouter.Table.Dense

open Automaton

lemma getElem?_flatMap_of_length {α β : Type} {f : α → List β} {n c : Nat} (hc : c < n) (l : List α)
    (h : ∀ a ∈ l, (f a).length = n) (i : Nat) :
    (l.flatMap f)[i * n + c]? = l[i]?.bind fun a => (f a)[c]? := by
  induction l generalizing i with
  | nil => simp
  | cons a rest ih =>
    have ha : (f a).length = n := h a List.mem_cons_self
    rw [List.flatMap_cons]
    cases i with
    | zero =>
      rw [Nat.zero_mul, Nat.zero_add, List.getElem?_append_left (ha ▸ hc)]
      rfl
    | succ i =>
      have hi : (i + 1) * n + c = i * n + c + n := by
        rw [Nat.succ_mul]
        omega
      rw [hi, List.getElem?_append_right (by omega), ha, Nat.add_sub_cancel,
        ih (fun x hx => h x (List.mem_cons_of_mem a hx))]
      rfl

@[simp] lemma length_row (absent : Nat) (state : State) : (row absent state).length = rowWidth := by
  simp [row]

lemma column_lt {b : UInt8} (hb : isPathOctet b = true) : column b < rowWidth := by
  have hr := (isPathOctet_iff b).mp hb
  simp only [column, rowWidth]
  omega

lemma ofNat_column {b : UInt8} (hb : isPathOctet b = true) : UInt8.ofNat (0x20 + column b) = b := by
  have hr := (isPathOctet_iff b).mp hb
  rw [column, Nat.add_sub_cancel' (by omega), UInt8.ofNat_toNat]

lemma column_ofNat {c : Nat} (hc : c < rowWidth) : column (UInt8.ofNat (0x20 + c)) = c := by
  rw [rowWidth] at hc
  rw [column, UInt8.toNat_ofNat', Nat.mod_eq_of_lt (by omega), Nat.add_sub_cancel_left]

lemma getElem?_row (absent : Nat) (state : State) {c : Nat} (hc : c < rowWidth) :
    (row absent state)[c]? = some ((state.next? (UInt8.ofNat (0x20 + c))).getD absent) := by
  simp only [row, List.getElem?_map, List.getElem?_range hc, Option.map_some]

lemma row_column (absent : Nat) (state : State) {b : UInt8} (hb : isPathOctet b = true) :
    (row absent state)[column b]? = some ((state.next? b).getD absent) := by
  rw [getElem?_row absent state (column_lt hb), ofNat_column hb]

variable {states : Array State} {routes : Nat} {m : Dense}

lemma row_le {state : State} (h : state.Fits states.size routes) :
    ∀ n ∈ row states.size state, n ≤ states.size := by
  intro n hn
  obtain ⟨c, _, rfl⟩ := List.mem_map.mp hn
  cases ht : state.next? (UInt8.ofNat (0x20 + c)) with
  | none => simp
  | some target => exact Nat.le_of_lt (h.next?_lt ht)

lemma build_eq_ok_iff : build states routes = .ok m ↔ ∃ width, Width.forMax? (max states.size routes) = some width ∧
    m = ⟨.ofList width (states.toList.flatMap (row states.size)),
      .ofList width (states.toList.map fun state => state.accepts.getD routes), states.size, routes⟩ := by
  rw [build]
  cases Width.forMax? (max states.size routes) <;> simp [eq_comm]

lemma build_reads (hw : WellFormed states routes) (hm : build states routes = .ok m) :
    m.states = states.size ∧ m.routes = routes ∧ max states.size routes ≤ maxPacked ∧
      m.table.toList = states.toList.flatMap (row states.size) ∧
      m.accepted.toList = states.toList.map fun state => state.accepts.getD routes := by
  obtain ⟨width, hwidth, rfl⟩ := build_eq_ok_iff.mp hm
  refine ⟨rfl, rfl, Width.le_maxPacked_of_forMax? hwidth, Packed.toList_ofList_of_lt fun n hn => ?_,
    Packed.toList_ofList_of_lt fun n hn => ?_⟩
  · obtain ⟨state, hs, hn⟩ := List.mem_flatMap.mp hn
    exact Width.lt_bound_of_forMax? hwidth
      (Nat.le_trans (row_le (hw.fits_of_mem hs) n hn) (Nat.le_max_left _ _))
  · obtain ⟨state, hs, rfl⟩ := List.mem_map.mp hn
    exact Width.lt_bound_of_forMax? hwidth
      (Nat.le_trans (hw.fits_of_mem hs).accepts_getD_le (Nat.le_max_right _ _))

lemma runFrom?_eq (hw : WellFormed states routes) (hm : build states routes = .ok m) (octets : List UInt8)
    {i : Nat} (hi : i < states.size) : m.runFrom? i octets = some (answer? states i octets) := by
  obtain ⟨hstates, hroutes, -, htable, haccepted⟩ := build_reads hw hm
  induction octets generalizing i with
  | nil =>
    obtain ⟨state, hs⟩ : ∃ state, states[i]? = some state := ⟨_, Array.getElem?_eq_getElem hi⟩
    simpa [runFrom?, Packed.get?_eq, haccepted, hs, hroutes] using (hw.fits i state hs).accepts_of_getD
  | cons b rest ih =>
    obtain ⟨state, hs⟩ : ∃ state, states[i]? = some state := ⟨_, Array.getElem?_eq_getElem hi⟩
    rw [answer?_cons, hs, Option.bind_some, runFrom?]
    by_cases hb : isPathOctet b = true
    · have hcell : m.table.get? (i * rowWidth + column b) =
          some ((state.next? b).getD states.size) := by
        rw [Packed.get?_eq, htable, getElem?_flatMap_of_length (column_lt hb) _ (fun state _ => length_row _ state),
          Array.getElem?_toList, hs]
        exact row_column _ _ hb
      rw [if_pos hb, hcell, hstates]
      cases hn : state.next? b with
      | none => simp
      | some next =>
        have hlt := (hw.fits i state hs).next?_lt hn
        simp [hlt, ih hlt]
    · rw [if_neg hb, (hw.fits i state hs).next?_eq_none (Bool.not_eq_true _ ▸ hb)]
      rfl

lemma run?_eq (hw : WellFormed states routes) (hm : build states routes = .ok m) (path : List UInt8) :
    m.run? path = some (route? states path) :=
  runFrom?_eq hw hm path.tail hw.nonempty

lemma exists_build_iff : (∃ m, build states routes = .ok m) ↔ max states.size routes ≤ maxPacked := by
  simp only [build_eq_ok_iff]
  constructor
  · rintro ⟨_, width, hwidth, -⟩
    exact Width.le_maxPacked_of_forMax? hwidth
  · intro h
    obtain ⟨width, hwidth⟩ := Width.exists_forMax?_eq h
    exact ⟨_, width, hwidth, rfl⟩

lemma build_eq_error {e : CapacityError} (h : build states routes = .error e) : e = ⟨states.size, routes⟩ := by
  simp only [build] at h
  split at h
  · exact (Except.error.inj h).symm
  · cases h

end PathRouter.Table.Dense
