import Mathlib.Data.List.Basic
import PathRouter.Automaton.Construction

/-! Where the items of a route go. An item has at most one place to go on an octet, so after some octets a
route stands at one item or at none. -/

namespace PathRouter.Automaton

lemma Label.exists_admits (label : Label) : ∃ b, label.admits b = true := by
  cases label with
  | octet b => exact ⟨b, decide_eq_true rfl⟩
  | letter => exact ⟨0x21, rfl⟩

namespace Item

variable {segments : List Segment} {item : Item}

def onward? (item : Item) (segments : List Segment) : Option Item :=
  match segments[item.segment + 1]? with
  | some _ => some ⟨item.route, item.segment + 1, 0⟩
  | none =>
    if segments[item.segment]?.any Segment.isQuantified then some ⟨item.route, item.segment, 0⟩ else none

def next? (item : Item) (segments : List Segment) (b : UInt8) : Option Item :=
  ((item.outlook segments false).moves.find? (·.1.admits b)).map (·.2)

def walk? (segments : List Segment) : Item → List UInt8 → Option Item
  | item, [] => some item
  | item, b :: rest => (item.next? segments b).bind (walk? segments · rest)

def accepts (item : Item) (segments : List Segment) (atStart : Bool) : Bool :=
  (item.outlook segments atStart).accepts

lemma walk?_append (item : Item) (u v : List UInt8) :
    walk? segments item (u ++ v) = (walk? segments item u).bind (walk? segments · v) := by
  induction u generalizing item with
  | nil => rfl
  | cons b rest ih =>
    rw [List.cons_append, walk?, walk?, Option.bind_assoc]
    exact congrArg _ (funext ih)

lemma outlook_moves (item : Item) (segments : List Segment) (atStart : Bool) :
    (item.outlook segments atStart).moves = (item.outlook segments false).moves := by
  simp only [outlook]
  split
  · rfl
  · rfl
  · split <;> rfl

lemma onward_moves {segment : Segment} (hs : segments[item.segment]? = some segment) :
    (item.atSegmentEnd segment segments[item.segment + 1]?).moves =
      (item.onward? segments).toList.map (.octet slash, ·) := by
  unfold atSegmentEnd onward?
  rw [hs]
  cases segments[item.segment + 1]? with
  | some next => rfl
  | none => cases hq : segment.isQuantified <;> simp [hq]

@[simp] lemma atSegmentEnd_accepts (item : Item) (segment : Segment) (next : Option Segment) :
    (item.atSegmentEnd segment next).accepts = next.all Segment.isStar := by
  unfold atSegmentEnd
  cases next with
  | some next => rfl
  | none => cases segment.isQuantified <;> simp

section Literal

variable {text : String} (hs : segments[item.segment]? = some (.literal text))
include hs

lemma outlook_inside {b : UInt8} (hb : (Utf8.encode text.toList)[item.offset]? = some b) (atStart : Bool) :
    item.outlook segments atStart = ⟨[(.octet b, { item with offset := item.offset + 1 })], false⟩ := by
  rw [outlook, hs]
  dsimp only
  rw [hb]

lemma outlook_end (hb : (Utf8.encode text.toList)[item.offset]? = none) (atStart : Bool) :
    item.outlook segments atStart =
      ⟨(item.onward? segments).toList.map (.octet slash, ·),
        segments[item.segment + 1]?.all Segment.isStar⟩ := by
  rw [outlook, hs]
  dsimp only
  rw [hb, ← onward_moves hs, ← atSegmentEnd_accepts item (.literal text)]

end Literal

section Variable

variable {name : String} {quantifier : Option Quantifier}
  (hs : segments[item.segment]? = some (.var name quantifier))
include hs

lemma outlook_unread (h : item.offset = 0) (atStart : Bool) :
    item.outlook segments atStart =
      ⟨[(.letter, { item with offset := 1 })], atStart && quantifier = some .star⟩ := by
  rw [outlook, hs]
  dsimp only
  rw [if_pos h]

lemma outlook_read (h : item.offset ≠ 0) (atStart : Bool) :
    item.outlook segments atStart =
      ⟨(.letter, { item with offset := 1 }) :: (item.onward? segments).toList.map (.octet slash, ·),
        segments[item.segment + 1]?.all Segment.isStar⟩ := by
  rw [outlook, hs]
  dsimp only
  rw [if_neg h, ← onward_moves hs, ← atSegmentEnd_accepts item (.var name quantifier)]

end Variable

lemma moves_exclusive (item : Item) (segments : List Segment) (atStart : Bool) :
    (item.outlook segments atStart).moves.Pairwise fun m m' => ∀ b, m.1.admits b = true → m'.1.admits b = false := by
  have honward : ((item.onward? segments).toList.map (Label.octet slash, ·)).Pairwise
      fun m m' => ∀ b, m.1.admits b = true → m'.1.admits b = false := by
    cases item.onward? segments <;> simp
  cases hs : segments[item.segment]? with
  | none => simp [outlook, hs]
  | some segment =>
    cases segment with
    | literal text =>
      cases hb : (Utf8.encode text.toList)[item.offset]? with
      | some b => simp [outlook_inside hs hb]
      | none =>
        rw [outlook_end hs hb]
        exact honward
    | var name quantifier =>
      by_cases h : item.offset = 0
      · simp [outlook_unread hs h]
      · rw [outlook_read hs h]
        refine List.pairwise_cons.mpr ⟨fun m hm b hb => ?_, honward⟩
        obtain ⟨next, _, rfl⟩ := List.mem_map.mp hm
        have hl : isLetter b = true := hb
        simp only [isLetter, Bool.and_eq_true, decide_eq_true_eq] at hl
        exact decide_eq_false (Ne.symm hl.2)

lemma next?_eq_some_iff (item : Item) (segments : List Segment) (atStart : Bool) (b : UInt8) (next : Item) :
    item.next? segments b = some next ↔
      ∃ label, (label, next) ∈ (item.outlook segments atStart).moves ∧ label.admits b = true := by
  have hp := moves_exclusive item segments atStart
  rw [outlook_moves] at hp ⊢
  rw [next?]
  generalize (item.outlook segments false).moves = moves at hp ⊢
  induction moves with
  | nil => simp
  | cons m rest ih =>
    obtain ⟨hm, hr⟩ := List.pairwise_cons.mp hp
    cases ha : m.1.admits b with
    | false =>
      simp only [List.find?_cons, ha]
      refine (ih hr).trans (exists_congr fun label => ⟨fun h => ⟨List.mem_cons_of_mem _ h.1, h.2⟩, fun h => ⟨?_, h.2⟩⟩)
      rcases List.mem_cons.mp h.1 with he | he
      · rw [← he, h.2] at ha
        cases ha
      · exact he
    | true =>
      simp only [List.find?_cons, ha]
      constructor
      · intro he
        obtain rfl := Option.some.inj he
        exact ⟨m.1, List.mem_cons_self, ha⟩
      · rintro ⟨label, hl, hb⟩
        rcases List.mem_cons.mp hl with he | he
        · exact congrArg (fun n : Label × Item => some n.2) he.symm
        · have hf := hm _ he b ha
          rw [hb] at hf
          cases hf

lemma onward_find? (onward : Option Item) (b : UInt8) :
    (((onward.toList.map (Label.octet slash, ·)).find? (·.1.admits b)).map (·.2)) =
      if b = slash then onward else none := by
  cases onward with
  | none => simp
  | some next =>
    by_cases hb : b = slash
    · subst hb
      simp [Label.admits]
    · simp [Label.admits, hb, Ne.symm hb]

lemma next?_inside {text : String} (hs : segments[item.segment]? = some (.literal text)) {b : UInt8}
    (hb : (Utf8.encode text.toList)[item.offset]? = some b) (b' : UInt8) :
    item.next? segments b' = if b = b' then some { item with offset := item.offset + 1 } else none := by
  rw [next?, outlook_inside hs hb]
  by_cases he : b = b' <;> simp [Label.admits, he]

lemma next?_end {text : String} (hs : segments[item.segment]? = some (.literal text))
    (hb : (Utf8.encode text.toList)[item.offset]? = none) (b' : UInt8) :
    item.next? segments b' = if b' = slash then item.onward? segments else none := by
  rw [next?, outlook_end hs hb]
  exact onward_find? _ b'

lemma next?_unread {name : String} {quantifier : Option Quantifier}
    (hs : segments[item.segment]? = some (.var name quantifier)) (h : item.offset = 0) (b : UInt8) :
    item.next? segments b = if isLetter b = true then some { item with offset := 1 } else none := by
  rw [next?, outlook_unread hs h]
  cases hb : isLetter b <;> simp [Label.admits, hb]

lemma next?_read {name : String} {quantifier : Option Quantifier}
    (hs : segments[item.segment]? = some (.var name quantifier)) (h : item.offset ≠ 0) (b : UInt8) :
    item.next? segments b =
      if isLetter b = true then some { item with offset := 1 }
      else if b = slash then item.onward? segments else none := by
  rw [next?, outlook_read hs h, List.find?_cons]
  cases hb : isLetter b with
  | true => simp [Label.admits, hb]
  | false =>
    simp only [Label.admits, hb]
    exact onward_find? _ b

lemma next?_unknown (hs : segments[item.segment]? = none) (b : UInt8) : item.next? segments b = none := by
  simp [next?, outlook, hs]

def IsIn (item : Item) (segments : List Segment) : Prop :=
  ∃ segment, segments[item.segment]? = some segment ∧ item.offset < itemCount segment

lemma itemCount_pos (segment : Segment) : 0 < itemCount segment := by
  cases segment <;> simp [itemCount]

lemma onward?_isIn {next : Item} (h : item.onward? segments = some next) :
    next.route = item.route ∧ next.IsIn segments := by
  rw [onward?] at h
  cases hs : segments[item.segment + 1]? with
  | some segment =>
    rw [hs] at h
    obtain rfl := Option.some.inj h
    exact ⟨rfl, segment, hs, itemCount_pos segment⟩
  | none =>
    simp only [hs] at h
    split_ifs at h with hq
    obtain rfl := Option.some.inj h
    obtain ⟨segment, hsegment, -⟩ := (Option.any_eq_true _ _).mp hq
    exact ⟨rfl, segment, hsegment, itemCount_pos segment⟩

lemma next?_isIn {b : UInt8} {next : Item} (h : item.next? segments b = some next) :
    next.route = item.route ∧ next.IsIn segments := by
  cases hs : segments[item.segment]? with
  | none =>
    rw [next?_unknown hs] at h
    cases h
  | some segment =>
    cases segment with
    | literal text =>
      cases hb : (Utf8.encode text.toList)[item.offset]? with
      | some b' =>
        rw [next?_inside hs hb] at h
        split at h
        · obtain rfl := Option.some.inj h
          have hlt := (List.getElem?_eq_some_iff.mp hb).1
          rw [Utf8.length_encode] at hlt
          exact ⟨rfl, _, hs, Nat.succ_lt_succ hlt⟩
        · cases h
      | none =>
        rw [next?_end hs hb] at h
        split at h
        · exact onward?_isIn h
        · cases h
    | var name quantifier =>
      by_cases ho : item.offset = 0
      · rw [next?_unread hs ho] at h
        split at h
        · obtain rfl := Option.some.inj h
          exact ⟨rfl, _, hs, Nat.one_lt_two⟩
        · cases h
      · rw [next?_read hs ho] at h
        split at h
        · obtain rfl := Option.some.inj h
          exact ⟨rfl, _, hs, Nat.one_lt_two⟩
        · split at h
          · exact onward?_isIn h
          · cases h

lemma walk?_route {w : List UInt8} {next : Item} (h : walk? segments item w = some next) :
    next.route = item.route := by
  induction w generalizing item with
  | nil => exact congrArg route (Option.some.inj h).symm
  | cons b rest ih =>
    obtain ⟨item', hi, hr⟩ := Option.bind_eq_some_iff.mp h
    exact (ih hr).trans (next?_isIn hi).1

lemma walk?_isIn {w : List UInt8} (hw : w ≠ []) {next : Item} (h : walk? segments item w = some next) :
    next.IsIn segments := by
  obtain ⟨u, b, rfl⟩ : ∃ u b, w = u ++ [b] := ⟨_, _, (List.dropLast_append_getLast hw).symm⟩
  rw [walk?_append] at h
  obtain ⟨item', -, h⟩ := Option.bind_eq_some_iff.mp h
  obtain ⟨next', hn, he⟩ := Option.bind_eq_some_iff.mp h
  obtain rfl := Option.some.inj he
  exact (next?_isIn hn).2

end Item

end PathRouter.Automaton
