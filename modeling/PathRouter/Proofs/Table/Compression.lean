import PathRouter.Proofs.Automaton.Minimality
import PathRouter.Proofs.Automaton.Standing
import PathRouter.Proofs.Table.Sparse

/-! Which rows of the sparse table are compressed. The octets that a variable reads lead to one state exactly if some
route stands in a variable and none stands before an octet of a literal; the row of such a state ends in a wildcard,
and any other row lists the transitions of its state. -/

namespace PathRouter

open Automaton

lemma Pattern.Proper.isLetter_of_literal {p : Pattern} (h : p.Proper) {k offset : Nat} {text : String} {a : UInt8}
    (hs : p.segments[k]? = some (.literal text)) (ha : (Utf8.encode text.toList)[offset]? = some a) :
    isLetter a = true := by
  have hplain : ∀ c ∈ text.toList, Percent.isVisible c = true ∧ c ≠ '/' := h.isPlain (List.mem_of_getElem? hs)
  rw [Utf8.encode_of_ascii fun c hc => Percent.isVisible_ascii (hplain c hc).1] at ha
  obtain ⟨c, hc, rfl⟩ := List.mem_map.mp (List.mem_of_getElem? ha)
  exact (isLetter_toUInt8 (hplain c hc).1).mpr (hplain c hc).2

namespace Automaton

variable {routes : Array Pattern} {w : List UInt8}

lemma exists_isInVariable_of_follow {Y : Set Item} (hne : Y.Nonempty)
    (hY : ∀ b, isLetter b = true → follow routes (reached routes w) b = Y) : ∃ p ∈ routes.toList, p.IsInVariable w := by
  obtain ⟨next, hnext⟩ := hne
  have hfirst := hnext
  rw [← hY 0x21 rfl] at hfirst
  rw [← hY 0x22 rfl] at hnext
  obtain ⟨item, hi, p, hr, hn⟩ := hfirst
  obtain ⟨item', hi', p', hr', hn'⟩ := hnext
  obtain rfl : item = item' := reached_unique hi hi' ((Item.next?_isIn hn).1.symm.trans (Item.next?_isIn hn').1)
  obtain rfl := Option.some.inj (hr.symm.trans hr')
  obtain ⟨name, quantifier, hs⟩ := Item.exists_var_of_next? rfl rfl (by decide) hn hn'
  exact exists_isInVariable_iff.mpr ⟨item, hi, p, name, quantifier, hr, hs⟩

lemma not_isBeforeOctet_of_follow (hproper : ∀ p ∈ routes.toList, p.Proper) {Y : Set Item}
    (hY : ∀ b, isLetter b = true → follow routes (reached routes w) b = Y) :
    ¬ ∃ p ∈ routes.toList, p.IsBeforeOctet w := by
  rw [exists_isBeforeOctet_iff]
  rintro ⟨item, hi, p, text, a, hr, hs, ha⟩
  have hletter := (hproper p (Array.mem_toList_iff.mpr (Array.mem_of_getElem? hr))).isLetter_of_literal hs ha
  obtain ⟨b, hb, hne⟩ : ∃ b, isLetter b = true ∧ a ≠ b := by
    by_cases hfirst : a = 0x21
    · exact ⟨0x22, rfl, hfirst ▸ by decide⟩
    · exact ⟨0x21, rfl, hfirst⟩
  have hmem : { item with offset := item.offset + 1 } ∈ follow routes (reached routes w) a :=
    ⟨item, hi, p, hr, by rw [Item.next?_inside hs ha, if_pos rfl]⟩
  rw [hY a hletter, ← hY b hb] at hmem
  obtain ⟨item', hi', p', hr', hn⟩ := hmem
  obtain rfl : item = item' := reached_unique hi hi' (Item.next?_isIn hn).1
  obtain rfl := Option.some.inj (hr.symm.trans hr')
  rw [Item.next?_inside hs ha, if_neg hne] at hn
  cases hn

lemma exists_follow_of_stands (hin : ∃ p ∈ routes.toList, p.IsInVariable w)
    (hno : ¬ ∃ p ∈ routes.toList, p.IsBeforeOctet w) :
    ∃ Y : Set Item, Y.Nonempty ∧ ∀ b, isLetter b = true → follow routes (reached routes w) b = Y := by
  refine ⟨follow routes (reached routes w) 0x21, ?_, fun b hb => ?_⟩
  · obtain ⟨item, hi, p, name, quantifier, hr, hs⟩ := exists_isInVariable_iff.mp hin
    exact ⟨_, item, hi, p, hr, Item.next?_of_variable hs rfl⟩
  · ext next
    refine exists_congr fun item => and_congr_right fun hi => exists_congr fun p => and_congr_right fun hr => ?_
    have hfirst : isLetter 0x21 = true := rfl
    rw [Item.next?_eq_of_letters hb hfirst fun text a hs ha => hno ?_]
    exact exists_isBeforeOctet_iff.mpr ⟨item, hi, p, text, a, hr, hs, ha⟩

lemma exists_follow_iff (hproper : ∀ p ∈ routes.toList, p.Proper) :
    (∃ Y : Set Item, Y.Nonempty ∧ ∀ b, isLetter b = true → follow routes (reached routes w) b = Y) ↔
      (∃ p ∈ routes.toList, p.IsInVariable w) ∧ ¬ ∃ p ∈ routes.toList, p.IsBeforeOctet w :=
  ⟨fun ⟨_, hne, hY⟩ => ⟨exists_isInVariable_of_follow hne hY, not_isBeforeOctet_of_follow hproper hY⟩,
    fun ⟨hin, hno⟩ => exists_follow_of_stands hin hno⟩

namespace Construction

variable {c : Construction} (hc : c.Consistent routes) (hx : Completed routes c none) (hp : c.pending = [])
include hc hx hp

lemma exists_wildcardChild?_iff {id : Nat} {X : Set Item} {atStart : Bool} (hs : StandsFor routes c id X atStart)
    {state : State} (hstate : c.states[id]? = some state) : (∃ child, state.wildcardChild? = some child) ↔
      ∃ Y : Set Item, Y.Nonempty ∧ ∀ b, isLetter b = true → follow routes X b = Y := by
  have hf := filled hx hp hs hstate
  have hfits := (wellFormed hc hx hp).fits id state hstate
  simp only [hfits.wildcardChild?_eq_some_iff, State.next?_eq_some_iff hf.sorted]
  constructor
  · rintro ⟨child, hchild⟩
    have hfirst := (hf.target 0x21 child (hchild 0x21 rfl)).2
    refine ⟨_, hfirst.nonempty hc, fun b hb => ?_⟩
    exact ((hf.target b child (hchild b hb)).2.set_unique hc hfirst).1
  · rintro ⟨Y, hne, hY⟩
    have htotal : ∀ b, isLetter b = true → ∃ child, (b, child) ∈ state.transitions := fun b hb =>
      hf.total b (Bool.and_eq_true_iff.mp hb).1 ((hY b hb).symm ▸ hne)
    obtain ⟨child, hchild⟩ := htotal 0x21 rfl
    refine ⟨child, fun b hb => ?_⟩
    obtain ⟨other, hother⟩ := htotal b hb
    have hfirst := (hf.target 0x21 child hchild).2
    have hsame := (hf.target b other hother).2
    rw [hY 0x21 rfl] at hfirst
    rw [hY b hb] at hsame
    exact hfirst.unique hc hsame ▸ hother

end Construction

lemma exists_wildcardChild?_iff_of_walk (hproper : ∀ p ∈ routes.toList, p.Proper) {states : Array State}
    (h : build routes = .ok states) {i : Nat} (hw : walk states 0 w = some i) {state : State}
    (hs : states[i]? = some state) : (∃ child, state.wildcardChild? = some child) ↔
      (∃ p ∈ routes.toList, p.IsInVariable w) ∧ ¬ ∃ p ∈ routes.toList, p.IsBeforeOctet w := by
  obtain ⟨c, hc, hx, hp, rfl⟩ := exists_of_build_eq_ok h
  have hstands := Construction.standsFor_walk hc hx hp (u := []) .start hw
  rw [List.nil_append] at hstands
  rw [Construction.exists_wildcardChild?_iff hc hx hp hstands hs, exists_follow_iff hproper]

lemma exists_walk_of_standsAt {states : Array State} (h : build routes = .ok states)
    (hw : ∀ b ∈ w, isPathOctet b = true) {p : Pattern} (hp : p ∈ routes.toList) {k offset : Nat}
    (hstands : StandsAt p.segments w k offset) :
    ∃ i state, walk states 0 w = some i ∧ states[i]? = some state := by
  obtain ⟨c, hc, hx, hpending, rfl⟩ := exists_of_build_eq_ok h
  obtain ⟨r, hr⟩ := Array.mem_iff_getElem?.mp (Array.mem_toList_iff.mp hp)
  have hmem : ⟨r, k, offset⟩ ∈ reached routes w := ⟨p, hr, walk?_of_standsAt hstands r⟩
  obtain ⟨i, hwalk⟩ := Construction.exists_walk hc hx hpending (u := []) .start hw fun _ => ⟨_, hmem⟩
  have hlt := (Construction.standsFor_walk hc hx hpending (u := []) .start hwalk).lt hc
  exact ⟨i, _, hwalk, Array.getElem?_eq_getElem hlt⟩

end Automaton

namespace Table.Sparse

variable {states : Array State} {routes count : Nat} {m : Sparse}

/-- The entries of a row as they stand in the arrays, from where the row starts to where it ends. -/
def entriesOf? (m : Sparse) (i : Nat) : Option (List (UInt8 × Nat)) := do
  let start ← m.rowOffsets.get? i
  let stop ← m.rowOffsets.get? (i + 1)
  some ((m.keys.toList.zip m.values.toList).extract start stop)

lemma entriesOf?_of_build (hw : WellFormed states routes) (hm : build states count = .ok m) {i : Nat} {state : State}
    (hs : states[i]? = some state) : m.entriesOf? i = some (row state) := by
  obtain ⟨hkeys, -, hvalues⟩ := build_rows hw hm
  obtain ⟨hstart, hstop⟩ := get?_rowOffsets hw hm hs
  have hentries : m.keys.toList.zip m.values.toList = (states.toList.map row).flatten := by
    rw [hkeys, hvalues, List.zip_map']
    exact List.map_id _
  simp only [entriesOf?, hstart, hstop, Option.bind_eq_bind, Option.bind_some]
  rw [List.extract, hentries, Nat.add_sub_cancel_left, flatten_eq_append (getElem?_rows hs), List.drop_left,
    List.take_left]

end Table.Sparse

namespace Table

open Sparse

/-- After octets that lead to a state, its row is compressed exactly if some route stands in a variable and none before
an octet of a literal. A compressed row has the entry of the separator, if there is one, and a wildcard after it;
any other row lists all the transitions by increasing octet. -/
theorem compressed_rows_exact {routes : Array Pattern} (hr : ∀ p ∈ routes.toList, p.IsRead) {states : Array State}
    (h : build routes = .ok states) {w : List UInt8} {i : Nat} (hw : walk states 0 w = some i) {state : State}
    (hs : states[i]? = some state) :
    ((∃ child, state.wildcardChild? = some child) ↔
        (∃ p ∈ routes.toList, p.IsInVariable w) ∧ ¬ ∃ p ∈ routes.toList, p.IsBeforeOctet w) ∧
      ∀ (count : Nat) (m : Sparse), Sparse.build states count = .ok m →
        (∀ child, state.wildcardChild? = some child →
          m.entriesOf? i = some (state.slashChild?.toList.map (slash, ·) ++ [(wildcard, child)])) ∧
        (state.wildcardChild? = none → m.entriesOf? i = some state.transitions ∧
          (state.transitions.Pairwise fun t u => t.1 < u.1) ∧ ∀ t ∈ state.transitions, t.1 ≠ wildcard) := by
  have hwell := build_wellFormed h
  have hfits := hwell.fits i state hs
  refine ⟨exists_wildcardChild?_iff_of_walk (fun p hp => (hr p hp).proper) h hw hs, fun count m hm => ?_⟩
  rw [entriesOf?_of_build hwell hm hs]
  refine ⟨fun child hchild => by rw [row_of_wildcard hchild], fun hnone => ⟨by rw [row_of_not_wildcard hnone], ?_⟩⟩
  exact ⟨hfits.sorted, transition_ne_wildcard hfits⟩

theorem compressed_rows_exact_optionalAfterFirst : (∀ p ∈ [optionalAfterFirst], p.IsRead) ∧
    ∃ states i state child m, build #[optionalAfterFirst] = .ok states ∧ walk states 0 [0x61] = some i ∧
      states[i]? = some state ∧ state.wildcardChild? = some child ∧ Sparse.build states 1 = .ok m ∧
      m.entriesOf? i = some (state.slashChild?.toList.map (slash, ·) ++ [(wildcard, child)]) := by
  have hr : ∀ p ∈ [optionalAfterFirst], p.IsRead := List.forall_mem_singleton.mpr ⟨.template, by decide +kernel⟩
  obtain ⟨states, h⟩ := exists_build_of_size_le_one (Nat.le_refl (#[optionalAfterFirst].size))
  have hstands : StandsAt optionalAfterFirst.segments [0x61] 0 1 := .letter (w := []) .start rfl rfl
  have hoctets : ∀ b ∈ [0x61], isPathOctet b = true := List.forall_mem_singleton.mpr rfl
  obtain ⟨i, state, hw, hs⟩ := exists_walk_of_standsAt h hoctets List.mem_cons_self hstands
  have hno : ¬ ∃ p ∈ [optionalAfterFirst], Pattern.IsBeforeOctet p [0x61] := by
    rintro ⟨p, hp, k, offset, text, -, hliteral, -⟩
    obtain rfl := List.mem_singleton.mp hp
    have hvariable : ∀ segment ∈ optionalAfterFirst.segments, segment ≠ .literal text := by simp [optionalAfterFirst]
    exact hvariable _ (List.mem_of_getElem? hliteral) rfl
  obtain ⟨hiff, hrow⟩ := compressed_rows_exact hr h hw hs
  obtain ⟨child, hchild⟩ := hiff.mpr ⟨⟨_, List.mem_cons_self, 0, 1, "a", none, hstands, rfl⟩, hno⟩
  have hsize : max (pathOctets.length * states.size) 1 ≤ maxPacked := by
    have hle : states.size ≤ 6 := build_size_le h
    have hcount : pathOctets.length = 94 := rfl
    rw [hcount, maxPacked]
    omega
  obtain ⟨m, hm⟩ := exists_build (build_wellFormed h) hsize
  exact ⟨hr, states, i, state, child, m, h, hw, hs, hchild, hm, (hrow 1 m hm).1 child hchild⟩

end Table

end PathRouter
