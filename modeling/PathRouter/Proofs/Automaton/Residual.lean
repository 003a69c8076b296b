import PathRouter.Proofs.Automaton.Matching
import PathRouter.Proofs.Pattern.Matching

/-! What a route still accepts from an item. Two items of a route accept the same only if they stand in a plain
variable and a `*` variable after it; any others are told apart by how few parts they take, or by the first one. -/

namespace PathRouter

open Percent

namespace Segment

def shortest (offset : Nat) : Segment → List Char
  | .literal text => text.toList.drop offset
  | .var _ _ => if offset = 0 then ['!'] else []

def fewest (segments : List Segment) : List (List Char) :=
  (segments.filter (!·.isStar)).map (shortest 0)

variable {segment : Segment} {segments others : List Segment} {parts : List (List Char)}

lemma fewest_cons (segment : Segment) (others : List Segment) :
    fewest (segment :: others) = if segment.isStar then fewest others else segment.shortest 0 :: fewest others := by
  cases h : segment.isStar <;> simp [fewest, h]

@[simp] lemma completes_shortest (offset : Nat) (segment : Segment) :
    segment.completes offset (segment.shortest offset) = true := by
  cases segment with
  | literal text => simp [completes, shortest]
  | var name quantifier => by_cases h : offset = 0 <;> simp [completes, shortest, h]

lemma takeAll_fewest (hq : ∀ segment ∈ segments.dropLast, segment.isQuantified = false) :
    takeAll segments (fewest segments) = true := by
  induction segments with
  | nil => rfl
  | cons segment others ih =>
    obtain ⟨hlast, hothers⟩ := quantified_last_cons hq
    have hrest := ih hothers
    rw [fewest_cons]
    match segment with
    | .literal text => simpa [takeAll, isStar, shortest] using hrest
    | .var name none => simpa [takeAll, isStar, shortest] using hrest
    | .var name (some quantifier) =>
      obtain rfl := hlast rfl
      cases quantifier <;> rfl

lemma length_fewest_le (h : takeAll segments parts = true) : (fewest segments).length ≤ parts.length := by
  induction segments, parts using takeAll.induct with
  | case1 parts => exact Nat.zero_le _
  | case2 text others part parts ih =>
    rw [takeAll, Bool.and_eq_true] at h
    exact Nat.succ_le_succ (ih h.2)
  | case3 name others part parts ih =>
    rw [takeAll, Bool.and_eq_true] at h
    exact Nat.succ_le_succ (ih h.2)
  | case4 name parts =>
    cases parts with
    | nil => cases h
    | cons part parts => exact Nat.succ_le_succ (Nat.zero_le _)
  | case5 name parts => exact Nat.zero_le _
  | case6 segments parts _ _ _ _ _ =>
    rw [takeAll] at h
    · cases h
    all_goals assumption

lemma passesOn_fewest (hlast : segment.isQuantified = true → others = [])
    (hq : ∀ segment ∈ others.dropLast, segment.isQuantified = false) :
    segment.passesOn others (fewest others) = true := by
  rw [passesOn]
  split_ifs with h
  · rw [hlast h]
    rfl
  · exact takeAll_fewest hq

lemma length_fewest_le_of_passesOn (hlast : segment.isQuantified = true → others = [])
    (h : segment.passesOn others parts = true) : (fewest others).length ≤ parts.length := by
  rw [passesOn] at h
  split_ifs at h with hs
  · rw [hlast hs]
    exact Nat.zero_le _
  · exact length_fewest_le h

lemma completes_shortest_of_lt {offset offset' : Nat} (hp : segment.IsPlain) (hlt : offset < offset')
    (hcount : offset' < Automaton.itemCount segment) : segment.completes offset (segment.shortest offset') = false := by
  cases segment with
  | literal text =>
    have hsize : Utf8.size text.toList = text.toList.length := by
      rw [← Utf8.length_encode, Utf8.encode_of_ascii fun c hc => isVisible_ascii (hp c hc).1, List.length_map]
    rw [Automaton.itemCount, hsize] at hcount
    refine decide_eq_false fun he => ?_
    have hlength := congrArg List.length he
    rw [shortest, List.length_drop, List.length_drop] at hlength
    omega
  | var name quantifier =>
    have hcount : offset' < 2 := hcount
    obtain ⟨rfl, rfl⟩ : offset = 0 ∧ offset' = 1 := by omega
    rfl

def IsPart (part : List Char) : Prop :=
  ∀ c ∈ part, isVisible c = true ∧ c ≠ '/'

lemma IsPlain.shortest_isPart (h : segment.IsPlain) (offset : Nat) : IsPart (segment.shortest offset) := by
  cases segment with
  | literal text => exact fun c hc => h c (List.mem_of_mem_drop hc)
  | var name quantifier =>
    intro c hc
    rw [shortest] at hc
    split at hc
    · obtain rfl := List.mem_singleton.mp hc
      decide
    · cases hc

lemma fewest_isPart (h : ∀ segment ∈ segments, segment.IsPlain) : ∀ part ∈ fewest segments, IsPart part := by
  intro part hp
  obtain ⟨segment, hs, rfl⟩ := List.mem_map.mp hp
  exact (h segment (List.mem_of_mem_filter hs)).shortest_isPart 0

end Segment

namespace Automaton

open Segment

def word (parts : List (List Char)) : List UInt8 :=
  (Pieces.join '/' parts).map Char.toUInt8

variable {parts : List (List Char)}

lemma join_visible (h : ∀ part ∈ parts, IsPart part) : ∀ c ∈ Pieces.join '/' parts, isVisible c = true := by
  intro c hc
  rcases Pieces.mem_join hc with rfl | ⟨part, hp, hc⟩
  · decide
  · exact (h part hp c hc).1

lemma word_isPath (h : ∀ part ∈ parts, IsPart part) : ∀ b ∈ word parts, isPathOctet b = true :=
  List.forall_mem_map.mpr fun c hc => isPathOctet_toUInt8 (join_visible h c hc)

namespace Item

def acceptsAfter (item : Item) (segments : List Segment) (w : List UInt8) : Bool :=
  (item.walk? segments w).any (·.accepts segments false)

def Differ (segments : List Segment) (item item' : Item) : Prop :=
  ∃ w, (∀ b ∈ w, isPathOctet b = true) ∧ item.acceptsAfter segments w ≠ item'.acceptsAfter segments w

lemma Differ.symm {segments : List Segment} {item item' : Item} (h : Differ segments item item') :
    Differ segments item' item := by
  obtain ⟨w, hw, hd⟩ := h
  exact ⟨w, hw, hd.symm⟩

lemma exists_walk?_part {segments : List Segment} {item : Item} {segment : Segment}
    (hs : segments[item.segment]? = some segment) (hplain : segment.IsPlain) {part : List Char} (hp : IsPart part)
    (hc : segment.completes item.offset part = true) :
    ∃ offset, item.walk? segments (part.map Char.toUInt8) = some { item with offset := offset } ∧
      segment.completes offset [] = true := by
  induction part generalizing item with
  | nil => exact ⟨item.offset, rfl, hc⟩
  | cons c part ih =>
    obtain ⟨⟨hv, hslash⟩, hrest⟩ := List.forall_mem_cons.mp hp
    rcases next?_letter hs hplain hv hslash with ⟨offset, hn, hcomp⟩ | ⟨-, hcomp⟩
    · have hnext : segments[({ item with offset := offset } : Item).segment]? = some segment := hs
      obtain ⟨last, hw, hl⟩ := ih hnext hrest (hcomp part ▸ hc)
      refine ⟨last, ?_, hl⟩
      rw [List.map_cons, walk?, hn, Option.bind_some, hw]
    · rw [hcomp] at hc
      cases hc

end Item

/-- Whether no part of a text is empty, except perhaps the first. -/
def isFull (text : List Char) : Bool :=
  (Pieces.cut '/' text).tail.all (!·.isEmpty)

end Automaton

namespace Pattern

open Automaton Segment

def HasStarAfterVariable (p : Pattern) : Prop :=
  ∃ i name rest, p.segments[i]? = some (.var name none) ∧ p.segments[i + 1]? = some (.var rest (some .star))

variable {p : Pattern} {item item' : Item} {segment segment' : Segment}

namespace Proper

variable (h : p.Proper)
include h

lemma acceptsAfter_word (hs : p.segments[item.segment]? = some segment) {part : List Char} {parts : List (List Char)}
    (hp : ∀ part' ∈ part :: parts, IsPart part') :
    item.acceptsAfter p.segments (word (part :: parts)) =
      segment.takesFrom item.offset (p.segments.drop (item.segment + 1)) (part :: parts) := by
  have hcut := Pieces.cut_join (List.cons_ne_nil part parts) fun part' hm hslash => (hp part' hm _ hslash).2 rfl
  rw [Item.acceptsAfter, word, h.any_walk? (join_visible hp) hs, hcut]

lemma drop_isPart (i : Nat) : ∀ part ∈ fewest (p.segments.drop i), IsPart part :=
  fewest_isPart fun _ hs => h.isPlain (List.mem_of_mem_drop hs)

lemma quantified_last_drop (i : Nat) : ∀ s ∈ (p.segments.drop i).dropLast, s.isQuantified = false := by
  intro s hs
  obtain ⟨k, hk⟩ := List.mem_iff_getElem?.mp hs
  rw [List.getElem?_dropLast, List.length_drop] at hk
  split at hk
  · rw [List.getElem?_drop] at hk
    refine h.quantified_last s (List.mem_iff_getElem?.mpr ⟨i + k, ?_⟩)
    rw [List.getElem?_dropLast, if_pos (by omega), hk]
  · cases hk

lemma fewest_drop_lt {i j : Nat} (hi : i < j) (hj : j < p.segments.length) :
    (fewest (p.segments.drop (j + 1))).length < (fewest (p.segments.drop (i + 1))).length ∨
      j = i + 1 ∧ ∃ name, p.segments[j]? = some (.var name (some .star)) := by
  have hnext : i + 1 < p.segments.length := by omega
  rw [List.drop_eq_getElem_cons hnext, fewest_cons]
  have hs := List.getElem?_eq_getElem hnext
  generalize p.segments[i + 1] = next at hs
  match next with
  | .var name (some .star) =>
    have hnil := h.last_of_quantified hs rfl
    rw [List.drop_eq_nil_iff] at hnil
    obtain rfl : j = i + 1 := by omega
    exact .inr ⟨rfl, name, hs⟩
  | .literal _ | .var _ none | .var _ (some .plus) =>
    refine .inl (Nat.lt_succ_of_le ?_)
    simp only [fewest, List.length_map]
    exact ((List.drop_sublist_drop_left _ (by omega)).filter _).length_le

lemma passesOn_fewest_drop {i : Nat} (hs : p.segments[i]? = some segment) :
    segment.passesOn (p.segments.drop (i + 1)) (fewest (p.segments.drop (i + 1))) = true :=
  passesOn_fewest (fun hq => h.last_of_quantified hs hq) (h.quantified_last_drop (i + 1))

lemma acceptsAfter_fewest (hs : p.segments[item.segment]? = some segment) {part : List Char} (hp : IsPart part) :
    item.acceptsAfter p.segments (word (part :: fewest (p.segments.drop (item.segment + 1)))) =
      segment.completes item.offset part := by
  rw [h.acceptsAfter_word hs (List.forall_mem_cons.mpr ⟨hp, h.drop_isPart _⟩), takesFrom, h.passesOn_fewest_drop hs,
    Bool.and_true]

lemma exists_acceptsAfter (hin : item.IsIn p.segments) :
    ∃ w, (∀ b ∈ w, isPathOctet b = true) ∧ item.acceptsAfter p.segments w = true := by
  obtain ⟨segment, hs, -⟩ := hin
  have hpart := (h.isPlain (List.mem_of_getElem? hs)).shortest_isPart item.offset
  exact ⟨_, word_isPath (List.forall_mem_cons.mpr ⟨hpart, h.drop_isPart _⟩),
    (h.acceptsAfter_fewest hs hpart).trans (completes_shortest _ _)⟩

lemma differ_of_offset_lt (hin' : item'.IsIn p.segments) (hs : item.segment = item'.segment)
    (hlt : item.offset < item'.offset) : Item.Differ p.segments item item' := by
  obtain ⟨segment, hs', hcount⟩ := hin'
  have hplain := h.isPlain (List.mem_of_getElem? hs')
  have hpart := hplain.shortest_isPart item'.offset
  refine ⟨_, word_isPath (List.forall_mem_cons.mpr ⟨hpart, h.drop_isPart (item'.segment + 1)⟩), ?_⟩
  rw [h.acceptsAfter_fewest hs' hpart, completes_shortest, ← hs, h.acceptsAfter_fewest (hs ▸ hs') hpart,
    completes_shortest_of_lt hplain hlt hcount]
  exact Bool.false_ne_true

lemma differ_of_segment_lt (hno : ¬ p.HasStarAfterVariable) (hin : item.IsIn p.segments)
    (hin' : item'.IsIn p.segments) (hlt : item.segment < item'.segment) : Item.Differ p.segments item item' := by
  obtain ⟨segment, hs, -⟩ := hin
  obtain ⟨segment', hs', -⟩ := hin'
  have hlength := (List.getElem?_eq_some_iff.mp hs').1
  -- The item in front needs more parts than the other, unless it stands in the segment before a `*` variable.
  rcases h.fewest_drop_lt hlt hlength with hfewer | ⟨hnext, name, hstar⟩
  · have hpart := (h.isPlain (List.mem_of_getElem? hs')).shortest_isPart item'.offset
    have hparts := List.forall_mem_cons.mpr ⟨hpart, h.drop_isPart (item'.segment + 1)⟩
    refine ⟨_, word_isPath hparts, fun he => ?_⟩
    rw [h.acceptsAfter_fewest hs' hpart, completes_shortest, h.acceptsAfter_word hs hparts, takesFrom,
      Bool.and_eq_true] at he
    have hle := length_fewest_le_of_passesOn (fun hq => h.last_of_quantified hs hq) he.2
    omega
  · obtain rfl := Option.some.inj (hs'.symm.trans hstar)
    cases segment with
    | literal text =>
      have hpart : IsPart ('!' :: text.toList.drop item.offset) :=
        List.forall_mem_cons.mpr ⟨by decide, (h.isPlain (List.mem_of_getElem? hs)).shortest_isPart item.offset⟩
      have hparts := List.forall_mem_cons.mpr ⟨hpart, h.drop_isPart (item'.segment + 1)⟩
      refine ⟨_, word_isPath hparts, ?_⟩
      rw [h.acceptsAfter_fewest hs' hpart, h.acceptsAfter_word hs hparts, takesFrom]
      simp [completes]
    | var name' quantifier =>
      cases quantifier with
      | none => exact absurd ⟨_, _, _, hs, hnext ▸ hs'⟩ hno
      | some quantifier =>
        have hnil := h.last_of_quantified hs rfl
        rw [List.drop_eq_nil_iff] at hnil
        omega

lemma differ_of_ne (hno : ¬ p.HasStarAfterVariable) (hin : item.IsIn p.segments) (hin' : item'.IsIn p.segments)
    (hr : item.route = item'.route) (hne : item ≠ item') : Item.Differ p.segments item item' := by
  rcases Nat.lt_trichotomy item.segment item'.segment with hlt | hs | hlt
  · exact h.differ_of_segment_lt hno hin hin' hlt
  · rcases Nat.lt_trichotomy item.offset item'.offset with hlt | ho | hlt
    · exact h.differ_of_offset_lt hin' hs hlt
    · have he : item = item' := by
        cases item
        cases item'
        simp_all
      exact absurd he hne
    · exact (h.differ_of_offset_lt hin hs.symm hlt).symm
  · exact (h.differ_of_segment_lt hno hin' hin hlt).symm

lemma literal_ne_nil_of_drop {i : Nat} {text : String} (ht : .literal text ∈ p.segments.drop (i + 1)) :
    text.toList ≠ [] := by
  by_cases hr : p.IsRoot
  · rw [IsRoot] at hr
    rw [hr, List.drop_succ_cons, List.drop_nil] at ht
    cases ht
  · exact h.literal_ne_nil hr (List.mem_of_mem_drop ht)

lemma all_of_passesOn {i : Nat} {parts : List (List Char)}
    (hp : segment.passesOn (p.segments.drop (i + 1)) parts = true) : parts.all (!·.isEmpty) = true := by
  rw [passesOn] at hp
  split at hp
  · exact hp
  · have htakes := (takeAll_iff (h.quantified_last_drop (i + 1)) parts).mp hp
    have hne := htakes.ne_nil fun text ht => h.literal_ne_nil_of_drop ht
    rw [List.all_eq_true]
    intro part hm
    simpa using hne part hm

lemma isFull_of_acceptsAfter (hs : p.segments[item.segment]? = some segment) {text : List Char}
    (hv : ∀ c ∈ text, isVisible c = true) (ha : item.acceptsAfter p.segments (text.map Char.toUInt8) = true) :
    isFull text = true := by
  obtain ⟨part, parts, hcut⟩ := List.exists_cons_of_ne_nil (Pieces.cut_ne_nil '/' text)
  rw [Item.acceptsAfter, h.any_walk? hv hs, hcut, takesFrom, Bool.and_eq_true] at ha
  rw [isFull, hcut]
  exact h.all_of_passesOn ha.2

lemma acceptsAfter_variable {name : String} {quantifier : Option Quantifier}
    (hs : p.segments[item.segment]? = some (.var name quantifier)) (ho : item.offset ≠ 0)
    (hstar : quantifier = some .star ∨
      quantifier = none ∧ ∃ rest, p.segments[item.segment + 1]? = some (.var rest (some .star)))
    {text : List Char} (hv : ∀ c ∈ text, isVisible c = true) :
    item.acceptsAfter p.segments (text.map Char.toUInt8) = isFull text := by
  obtain ⟨part, parts, hcut⟩ := List.exists_cons_of_ne_nil (Pieces.cut_ne_nil '/' text)
  have hcompletes : (Segment.var name quantifier).completes item.offset part = true := by simp [completes, ho]
  rw [Item.acceptsAfter, h.any_walk? hv hs, hcut, takesFrom, hcompletes, Bool.true_and, isFull, hcut, List.tail_cons]
  rcases hstar with rfl | ⟨rfl, rest, hrest⟩
  · rfl
  · have hlt := (List.getElem?_eq_some_iff.mp hrest).1
    have hdrop : p.segments.drop (item.segment + 1) = [.var rest (some .star)] := by
      rw [List.drop_eq_getElem_cons hlt, h.last_of_quantified hrest rfl]
      exact congrArg (· :: []) (List.getElem?_eq_some_iff.mp hrest).2
    rw [hdrop]
    rfl

lemma exists_walk?_end_of_begin {route i : Nat} (hs : p.segments[i]? = some segment)
    (hw : ∃ w, (∀ b ∈ w, isPathOctet b = true) ∧ Item.walk? p.segments ⟨route, 0, 0⟩ w = some ⟨route, i, 0⟩) :
    ∃ w offset, (∀ b ∈ w, isPathOctet b = true) ∧
      Item.walk? p.segments ⟨route, 0, 0⟩ w = some ⟨route, i, offset⟩ ∧ segment.completes offset [] = true := by
  obtain ⟨w, hw, hbegin⟩ := hw
  have hplain := h.isPlain (List.mem_of_getElem? hs)
  have hpart := hplain.shortest_isPart 0
  have hbegins : p.segments[(⟨route, i, 0⟩ : Item).segment]? = some segment := hs
  obtain ⟨offset, hread, hend⟩ := Item.exists_walk?_part hbegins hplain hpart (completes_shortest 0 segment)
  refine ⟨w ++ (segment.shortest 0).map Char.toUInt8, offset, List.forall_mem_append.mpr ⟨hw, ?_⟩, ?_, hend⟩
  · exact List.forall_mem_map.mpr fun c hc => isPathOctet_toUInt8 (hpart c hc).1
  · rw [Item.walk?_append, hbegin, Option.bind_some, hread]

lemma exists_walk?_begin (route : Nat) {i : Nat} (hi : i < p.segments.length) :
    ∃ w, (∀ b ∈ w, isPathOctet b = true) ∧ Item.walk? p.segments ⟨route, 0, 0⟩ w = some ⟨route, i, 0⟩ := by
  induction i with
  | zero => exact ⟨[], fun _ hb => (by cases hb), rfl⟩
  | succ i ih =>
    have hlt : i < p.segments.length := Nat.lt_of_succ_lt hi
    have hs := List.getElem?_eq_getElem hlt
    obtain ⟨w, offset, hw, hwalk, hend⟩ := h.exists_walk?_end_of_begin hs (ih hlt)
    have hends : p.segments[(⟨route, i, offset⟩ : Item).segment]? = some p.segments[i] := hs
    have hslash := Item.next?_slash hends (h.isPlain (List.getElem_mem hlt))
    have honward : Item.onward? ⟨route, i, offset⟩ p.segments = some ⟨route, i + 1, 0⟩ := by
      rw [Item.onward?, List.getElem?_eq_getElem hi]
    rw [if_pos hend, honward] at hslash
    refine ⟨w ++ [slash], List.forall_mem_append.mpr ⟨hw, List.forall_mem_singleton.mpr rfl⟩, ?_⟩
    rw [Item.walk?_append, hwalk, Option.bind_some, Item.walk?, hslash]
    rfl

lemma exists_walk?_variable (route : Nat) {i : Nat} {name : String} {quantifier : Option Quantifier}
    (hs : p.segments[i]? = some (.var name quantifier)) :
    ∃ w offset, w ≠ [] ∧ (∀ b ∈ w, isPathOctet b = true) ∧ offset ≠ 0 ∧
      Item.walk? p.segments ⟨route, 0, 0⟩ w = some ⟨route, i, offset⟩ := by
  have hi := (List.getElem?_eq_some_iff.mp hs).1
  obtain ⟨w, offset, hw, hwalk, hend⟩ := h.exists_walk?_end_of_begin hs (h.exists_walk?_begin route hi)
  have ho : offset ≠ 0 := by simpa [completes] using hend
  refine ⟨w, offset, ?_, hw, ho, hwalk⟩
  rintro rfl
  exact ho (congrArg Item.offset (Option.some.inj hwalk)).symm

end Proper

end Pattern

end PathRouter
