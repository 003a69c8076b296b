import Mathlib.Data.List.Find
import PathRouter.Proofs.Automaton.WellFormed
import PathRouter.Proofs.Table.Packed
import PathRouter.Table.Sparse

/-! The sparse table answers as the automaton does: the first entry of a state's row that reads an octet
holds the next state. -/

namespace PathRouter.Table.Sparse

open Automaton

@[simp] lemma length_offsets (start : Nat) (rows : List (List (UInt8 × Nat))) :
    (offsets start rows).length = rows.length + 1 := by
  induction rows generalizing start with
  | nil => rfl
  | cons row rest ih => simp [offsets, ih]

lemma getElem?_offsets (start : Nat) (rows : List (List (UInt8 × Nat))) {i : Nat} (hi : i ≤ rows.length) :
    (offsets start rows)[i]? = some (start + (rows.take i).flatten.length) := by
  induction rows generalizing start i with
  | nil =>
    obtain rfl : i = 0 := Nat.le_zero.mp hi
    simp [offsets]
  | cons row rest ih =>
    cases i with
    | zero => simp [offsets]
    | succ i =>
      rw [offsets, List.getElem?_cons_succ, ih _ (Nat.le_of_succ_le_succ hi), List.take_succ_cons,
        List.flatten_cons, List.length_append, Nat.add_assoc]

lemma le_of_mem_offsets {rows : List (List (UInt8 × Nat))} {n : Nat} (hn : n ∈ offsets 0 rows) :
    n ≤ rows.flatten.length := by
  obtain ⟨i, hi⟩ := List.mem_iff_getElem?.mp hn
  have hlt := (List.getElem?_eq_some_iff.mp hi).1
  rw [length_offsets] at hlt
  rw [getElem?_offsets 0 rows (Nat.le_of_lt_succ hlt), Nat.zero_add] at hi
  rw [← Option.some.inj hi, ← List.take_append_drop i rows, List.flatten_append, List.length_append,
    List.take_append_drop]
  exact Nat.le_add_right _ _

lemma flatten_eq_append {rows : List (List (UInt8 × Nat))} {row : List (UInt8 × Nat)} {i : Nat}
    (hr : rows[i]? = some row) :
    rows.flatten = (rows.take i).flatten ++ (row ++ (rows.drop (i + 1)).flatten) := by
  obtain ⟨hi, he⟩ := List.getElem?_eq_some_iff.mp hr
  rw [← he, ← List.flatten_cons, ← List.drop_eq_getElem_cons hi, ← List.flatten_append, List.take_append_drop]

lemma getElem?_flatten_row {rows : List (List (UInt8 × Nat))} {row : List (UInt8 × Nat)} {i : Nat}
    (hr : rows[i]? = some row) {j : Nat} (hj : j < row.length) :
    rows.flatten[(rows.take i).flatten.length + j]? = row[j]? := by
  rw [flatten_eq_append hr, List.getElem?_append_right (Nat.le_add_right _ _), Nat.add_sub_cancel_left,
    List.getElem?_append_left hj]

def reads (b key : UInt8) : Bool :=
  key = b || (key = wildcard && b ≠ slash)

lemma slash_ne_wildcard : slash ≠ wildcard := by decide

lemma transition_ne_wildcard {state : State} {states routes : Nat} (h : state.Fits states routes) :
    ∀ e ∈ state.transitions, e.1 ≠ wildcard := by
  intro e he hw
  have ho := h.octets e he
  rw [hw] at ho
  exact absurd ho (by decide)

lemma row_of_wildcard {state : State} {child : Nat} (h : state.wildcardChild? = some child) :
    row state = state.slashChild?.toList.map (slash, ·) ++ [(wildcard, child)] := by
  rw [row, h]
  cases state.slashChild? <;> rfl

lemma row_of_not_wildcard {state : State} (h : state.wildcardChild? = none) : row state = state.transitions := by
  rw [row, h]

lemma mem_row {state : State} {e : UInt8 × Nat} (he : e ∈ row state) :
    e ∈ state.transitions ∨ e.1 = wildcard ∧ state.wildcardChild? = some e.2 := by
  cases hc : state.wildcardChild? with
  | none => exact .inl (row_of_not_wildcard hc ▸ he)
  | some child =>
    rw [row_of_wildcard hc] at he
    rcases List.mem_append.mp he with he | he
    · obtain ⟨next, hn, rfl⟩ := List.mem_map.mp he
      exact .inl (State.next?_mem (Option.mem_toList.mp hn))
    · obtain rfl := List.mem_singleton.mp he
      exact .inr ⟨rfl, rfl⟩

lemma row_wildcard_last {state : State} {states routes : Nat} (h : state.Fits states routes) :
    ∀ e ∈ (row state).dropLast, e.1 ≠ wildcard := by
  intro e he
  cases hc : state.wildcardChild? with
  | none =>
    rw [row_of_not_wildcard hc] at he
    exact transition_ne_wildcard h e (List.dropLast_subset _ he)
  | some child =>
    rw [row_of_wildcard hc, List.dropLast_concat] at he
    obtain ⟨next, -, rfl⟩ := List.mem_map.mp he
    exact slash_ne_wildcard

lemma row_find? {state : State} {states routes : Nat} (h : state.Fits states routes) {b : UInt8}
    (hb : isPathOctet b = true) :
    ((row state).find? fun e => reads b e.1).map (·.2) = state.next? b := by
  cases hc : state.wildcardChild? with
  | some child =>
    rw [row_of_wildcard hc]
    by_cases hs : b = slash
    · subst hs
      rw [State.slashChild?]
      cases state.next? slash <;> simp [reads, slash_ne_wildcard.symm]
    · have hl : isLetter b = true := by simp [isLetter, hb, hs]
      rw [h.next?_of_wildcardChild? hc hl]
      cases state.slashChild? <;> simp [reads, hs, Ne.symm hs, slash_ne_wildcard]
  | none =>
    have hr : ∀ e ∈ state.transitions, reads b e.1 = decide (e.1 = b) := fun e he => by
      simp [reads, transition_ne_wildcard h e he]
    rw [row_of_not_wildcard hc, State.next?, List.find?_congr hr]

lemma find?_row (m : Sparse) (b : UInt8) (entries : List (UInt8 × Nat)) (start : Nat)
    (hk : ∀ j, j < entries.length → m.keys[start + j]? = entries[j]?.map (·.1))
    (hv : ∀ j, j < entries.length → m.values.get? (start + j) = entries[j]?.map (·.2))
    (hw : ∀ e ∈ entries.dropLast, e.1 ≠ wildcard) :
    match entries.find? fun e => reads b e.1 with
    | none => m.find? b start entries.length = some none
    | some e => ∃ j, m.find? b start entries.length = some (some j) ∧ m.values.get? j = some e.2 := by
  induction entries generalizing start with
  | nil => rfl
  | cons e rest ih =>
    have hkey : m.keys[start]? = some e.1 := hk 0 (Nat.zero_lt_succ _)
    have hval : m.values.get? start = some e.2 := hv 0 (Nat.zero_lt_succ _)
    -- A wildcard counts only in the last place, and stands nowhere else.
    have hcond : (e.1 = b || (rest.length = 0 && e.1 = wildcard && b ≠ slash) : Bool) = reads b e.1 := by
      cases rest with
      | nil => simp [reads]
      | cons e' rest =>
        have hne : e.1 ≠ wildcard := hw e (by simp)
        simp [reads, hne]
    have hfind : m.find? b start (e :: rest).length =
        if reads b e.1 then some (some start) else m.find? b (start + 1) rest.length := by
      rw [List.length_cons, find?, hkey, ← hcond]
    rw [List.find?_cons, hfind]
    cases hread : reads b e.1 with
    | true => exact ⟨start, rfl, hval⟩
    | false =>
      refine ih (start + 1) (fun j hj => ?_) (fun j hj => ?_) (fun x hx => hw x ?_)
      · have hh := hk (j + 1) (Nat.succ_lt_succ hj)
        rwa [← Nat.add_assoc, Nat.add_right_comm, List.getElem?_cons_succ] at hh
      · have hh := hv (j + 1) (Nat.succ_lt_succ hj)
        rwa [← Nat.add_assoc, Nat.add_right_comm, List.getElem?_cons_succ] at hh
      · cases rest with
        | nil => cases hx
        | cons e' rest => exact List.mem_cons_of_mem _ hx

variable {states : Array State} {routes : Nat} {m : Sparse}

lemma row_value_lt {state : State} {states routes : Nat} (h : state.Fits states routes) :
    ∀ e ∈ row state, e.2 < states := by
  intro e he
  rcases mem_row he with he | ⟨-, hc⟩
  · exact h.targets e he
  · exact h.next?_lt (h.next?_of_wildcardChild? hc (by decide : isLetter 0x21 = true))

lemma rows_value_lt (hw : WellFormed states routes) :
    ∀ e ∈ (states.toList.map row).flatten, e.2 < states.size := by
  intro e he
  obtain ⟨entries, hr, he⟩ := List.mem_flatten.mp he
  obtain ⟨state, hs, rfl⟩ := List.mem_map.mp hr
  exact row_value_lt (hw.fits_of_mem hs) e he

def entries (states : Array State) : List (UInt8 × Nat) :=
  (states.toList.map row).flatten

lemma build_eq_ok_iff : build states routes = .ok m ↔ ∃ accepted rowOffsets values,
    Packed.ofList? (states.toList.map fun state => state.accepts.getD routes) routes = some accepted ∧
    Packed.ofList? (offsets 0 (states.toList.map row)) (entries states).length = some rowOffsets ∧
    Packed.ofList? ((entries states).map (·.2)) (states.size - 1) = some values ∧
    m = ⟨rowOffsets, ((entries states).map (·.1)).toArray, values, accepted, states.size, routes⟩ := by
  simp only [build, entries, Option.bind_eq_bind]
  cases haccepted : Packed.ofList? (states.toList.map fun state => state.accepts.getD routes) routes with
  | none => simp
  | some accepted =>
    cases hoffsets : Packed.ofList? (offsets 0 (states.toList.map row)) (states.toList.map row).flatten.length with
    | none => simp
    | some rowOffsets =>
      cases hvalues : Packed.ofList? ((states.toList.map row).flatten.map (·.2)) (states.size - 1) with
      | none => simp
      | some values => simp [eq_comm]

lemma build_rows (hw : WellFormed states routes) {count : Nat} (hm : build states count = .ok m) :
    m.keys.toList = (states.toList.map row).flatten.map (·.1) ∧
      m.rowOffsets.toList = offsets 0 (states.toList.map row) ∧
      m.values.toList = (states.toList.map row).flatten.map (·.2) := by
  obtain ⟨accepted, rowOffsets, values, -, hoffsets, hvalues, rfl⟩ := build_eq_ok_iff.mp hm
  refine ⟨rfl, Packed.toList_ofList? hoffsets fun n hn => le_of_mem_offsets hn,
    Packed.toList_ofList? hvalues fun n hn => ?_⟩
  obtain ⟨e, he, rfl⟩ := List.mem_map.mp hn
  exact Nat.le_sub_one_of_lt (rows_value_lt hw e he)

lemma build_reads (hw : WellFormed states routes) (hm : build states routes = .ok m) :
    m.states = states.size ∧ m.routes = routes ∧ routes ≤ maxPacked ∧
      m.keys.toList = (states.toList.map row).flatten.map (·.1) ∧
      m.rowOffsets.toList = offsets 0 (states.toList.map row) ∧
      m.values.toList = (states.toList.map row).flatten.map (·.2) ∧
      m.accepted.toList = states.toList.map fun state => state.accepts.getD routes := by
  obtain ⟨hkeys, hoffsets, hvalues⟩ := build_rows hw hm
  obtain ⟨accepted, rowOffsets, values, haccepted, -, -, rfl⟩ := build_eq_ok_iff.mp hm
  refine ⟨rfl, rfl, Packed.le_maxPacked_of_ofList? haccepted, hkeys, hoffsets, hvalues,
    Packed.toList_ofList? haccepted fun n hn => ?_⟩
  obtain ⟨state, hs, rfl⟩ := List.mem_map.mp hn
  exact (hw.fits_of_mem hs).accepts_getD_le

lemma getElem?_rows {i : Nat} {state : State} (hs : states[i]? = some state) :
    (states.toList.map row)[i]? = some (row state) := by
  rw [List.getElem?_map, Array.getElem?_toList, hs]
  rfl

lemma get?_rowOffsets (hw : WellFormed states routes) {count : Nat} (hm : build states count = .ok m) {i : Nat}
    {state : State} (hs : states[i]? = some state) :
    m.rowOffsets.get? i = some ((states.toList.map row).take i).flatten.length ∧
      m.rowOffsets.get? (i + 1) = some (((states.toList.map row).take i).flatten.length + (row state).length) := by
  obtain ⟨-, hoffsets, -⟩ := build_rows hw hm
  have hrow := getElem?_rows hs
  have hi : i < (states.toList.map row).length := (List.getElem?_eq_some_iff.mp hrow).1
  constructor
  · rw [Packed.get?_eq, hoffsets, getElem?_offsets 0 _ (Nat.le_of_lt hi), Nat.zero_add]
  · rw [Packed.get?_eq, hoffsets, getElem?_offsets 0 _ (Nat.succ_le_of_lt hi), Nat.zero_add, List.take_add_one, hrow,
      Option.toList_some, List.flatten_append, List.length_append, List.flatten_singleton]

lemma exists_row (hw : WellFormed states routes) (hm : build states routes = .ok m) {i : Nat} {state : State}
    (hs : states[i]? = some state) :
    ∃ start, m.rowOffsets.get? i = some start ∧ m.rowOffsets.get? (i + 1) = some (start + (row state).length) ∧
      (∀ j, j < (row state).length → m.keys[start + j]? = (row state)[j]?.map (·.1)) ∧
      ∀ j, j < (row state).length → m.values.get? (start + j) = (row state)[j]?.map (·.2) := by
  obtain ⟨hkeys, -, hvalues⟩ := build_rows hw hm
  obtain ⟨hstart, hstop⟩ := get?_rowOffsets hw hm hs
  have hrow := getElem?_rows hs
  refine ⟨_, hstart, hstop, fun j hj => ?_, fun j hj => ?_⟩
  · rw [← Array.getElem?_toList, hkeys, List.getElem?_map, getElem?_flatten_row hrow hj]
  · rw [Packed.get?_eq, hvalues, List.getElem?_map, getElem?_flatten_row hrow hj]

lemma next?_eq (hw : WellFormed states routes) (hm : build states routes = .ok m) {i : Nat} {state : State}
    (hs : states[i]? = some state) {b : UInt8} (hb : isPathOctet b = true) :
    m.next? i b = some (state.next? b) := by
  obtain ⟨start, hstart, hstop, hkeys, hvalues⟩ := exists_row hw hm hs
  have hfound := find?_row m b (row state) start hkeys hvalues (row_wildcard_last (hw.fits i state hs))
  simp only [next?, hstart, hstop, Nat.add_sub_cancel_left, Option.bind_eq_bind, Option.bind_some]
  rw [← row_find? (hw.fits i state hs) hb]
  cases hread : (row state).find? fun e => reads b e.1 with
  | none =>
    rw [hread] at hfound
    rw [hfound]
    rfl
  | some e =>
    rw [hread] at hfound
    obtain ⟨j, hj, hval⟩ := hfound
    rw [hj]
    simp [hval]

lemma runFrom?_eq (hw : WellFormed states routes) (hm : build states routes = .ok m) (octets : List UInt8)
    {i : Nat} (hi : i < states.size) : m.runFrom? i octets = some (answer? states i octets) := by
  obtain ⟨-, hroutes, -, -, -, -, haccepted⟩ := build_reads hw hm
  induction octets generalizing i with
  | nil =>
    obtain ⟨state, hs⟩ : ∃ state, states[i]? = some state := ⟨_, Array.getElem?_eq_getElem hi⟩
    simpa [runFrom?, Packed.get?_eq, haccepted, hs, hroutes] using (hw.fits i state hs).accepts_of_getD
  | cons b rest ih =>
    obtain ⟨state, hs⟩ : ∃ state, states[i]? = some state := ⟨_, Array.getElem?_eq_getElem hi⟩
    rw [answer?_cons, hs, Option.bind_some, runFrom?]
    by_cases hb : isPathOctet b = true
    · rw [if_pos hb, next?_eq hw hm hs hb]
      cases hn : state.next? b with
      | none => rfl
      | some next => exact ih ((hw.fits i state hs).next?_lt hn)
    · rw [if_neg hb, (hw.fits i state hs).next?_eq_none (Bool.not_eq_true _ ▸ hb)]
      rfl

lemma run?_eq (hw : WellFormed states routes) (hm : build states routes = .ok m) (path : List UInt8) :
    m.run? path = some (route? states path) :=
  runFrom?_eq hw hm path.tail hw.nonempty

lemma length_row_le {state : State} {states routes : Nat} (h : state.Fits states routes) :
    (row state).length ≤ pathOctets.length := by
  cases hc : state.wildcardChild? with
  | none => exact row_of_not_wildcard hc ▸ h.length_transitions_le
  | some child =>
    have htwo : 2 ≤ pathOctets.length := by decide
    rw [row_of_wildcard hc]
    refine Nat.le_trans ?_ htwo
    cases state.slashChild? <;> simp

lemma length_rows_le {states : List State} {count : Nat} (h : ∀ state ∈ states, state.Fits count routes) :
    (states.map row).flatten.length ≤ pathOctets.length * states.length := by
  induction states with
  | nil => exact Nat.zero_le _
  | cons state rest ih =>
    obtain ⟨hstate, hrest⟩ := List.forall_mem_cons.mp h
    rw [List.map_cons, List.flatten_cons, List.length_append, List.length_cons, Nat.mul_succ, Nat.add_comm]
    exact Nat.add_le_add (ih hrest) (length_row_le hstate)

lemma exists_build_iff : (∃ m, build states routes = .ok m) ↔
    max (states.size - 1) routes ≤ maxPacked ∧ (entries states).length ≤ maxPacked := by
  simp only [build_eq_ok_iff, Nat.max_le]
  constructor
  · rintro ⟨_, _, _, _, haccepted, hoffsets, hvalues, -⟩
    exact ⟨⟨Packed.le_maxPacked_of_ofList? hvalues, Packed.le_maxPacked_of_ofList? haccepted⟩,
      Packed.le_maxPacked_of_ofList? hoffsets⟩
  · rintro ⟨⟨hcount, hroutes⟩, hentries⟩
    obtain ⟨accepted, haccepted⟩ := Packed.exists_ofList?_eq hroutes
      (states.toList.map fun state => state.accepts.getD routes)
    obtain ⟨rowOffsets, hoffsets⟩ := Packed.exists_ofList?_eq hentries (offsets 0 (states.toList.map row))
    obtain ⟨values, hvalues⟩ := Packed.exists_ofList?_eq hcount ((entries states).map (·.2))
    exact ⟨_, accepted, rowOffsets, values, haccepted, hoffsets, hvalues, rfl⟩

lemma exists_build (hw : WellFormed states routes) (h : max (pathOctets.length * states.size) routes ≤ maxPacked) :
    ∃ m, build states routes = .ok m := by
  obtain ⟨hsize, hroutes⟩ := Nat.max_le.mp h
  have hcount : states.size ≤ pathOctets.length * states.size := Nat.le_mul_of_pos_left _ (by decide)
  have hentries : (entries states).length ≤ pathOctets.length * states.size :=
    Array.length_toList ▸ length_rows_le fun _ hs => hw.fits_of_mem hs
  apply exists_build_iff.mpr
  exact ⟨Nat.max_le.mpr ⟨by omega, hroutes⟩, Nat.le_trans hentries hsize⟩

lemma build_eq_error {e : CapacityError} (h : build states routes = .error e) : e = ⟨states.size, routes⟩ := by
  simp only [build] at h
  split at h
  · exact (Except.error.inj h).symm
  · cases h

end PathRouter.Table.Sparse
