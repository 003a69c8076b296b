import PathRouter.Proofs.Pattern.Grammar

/-! What the parser promises of a pattern: literals are canonical spellings, only the last segment may be
quantified, and no name is bound twice. -/

namespace PathRouter

namespace Segment

/-- Whether a segment is a variable or the canonical spelling of a text that is not empty. -/
def IsSpelled : Segment → Prop
  | .literal text => ∃ data, data ≠ [] ∧ text.toList = Percent.encode data
  | .var _ _ => True

end Segment

namespace Pattern

structure Proper (p : Pattern) : Prop where
  nonempty : p.segments ≠ []
  spelled : p.segments = [.literal ""] ∨ ∀ segment ∈ p.segments, segment.IsSpelled
  quantified_last : ∀ segment ∈ p.segments.dropLast, segment.isQuantified = false
  names_nodup : (p.segments.filterMap Segment.name?).Nodup

def IsRead (p : Pattern) : Prop :=
  ∃ mode, parse mode p.source = .ok p

lemma Denotes.isSpelled {mode : Mode} {raw : List Char} {segment : Segment} (h : Denotes mode raw segment)
    (hne : raw ≠ []) : segment.IsSpelled := by
  cases h with
  | verbatim => exact ⟨raw, hne, String.toList_ofList⟩
  | @literal _ text _ hs =>
    refine ⟨text, ?_, String.toList_ofList⟩
    rintro rfl
    exact hne hs.eq_nil
  | var => trivial

lemma isSpelled_of_denotes {mode : Mode} {raws : List (List Char)} {segments : List Segment}
    (h : List.Forall₂ (Denotes mode) raws segments) (hne : ∀ raw ∈ raws, raw ≠ []) :
    ∀ segment ∈ segments, segment.IsSpelled := by
  induction h with
  | nil => exact fun _ hm => (by cases hm)
  | cons hd _ ih =>
    rw [List.forall_mem_cons] at hne ⊢
    exact ⟨hd.isSpelled hne.1, ih hne.2⟩

lemma IsRead.proper {p : Pattern} (h : p.IsRead) : p.Proper := by
  obtain ⟨mode, h⟩ := h
  obtain ⟨-, hd⟩ := (parse_eq_ok_iff _ _ _).mp h
  generalize p.source.toList = source at hd
  generalize hp : p.segments = segments at hd
  cases hd with
  | root =>
    refine ⟨?_, .inl hp, ?_, ?_⟩ <;> rw [hp]
    · exact List.cons_ne_nil _ _
    · exact fun _ hm => (by cases hm)
    · exact List.nodup_nil
  | segments hne hraws hd hlast hnames =>
    subst hp
    refine ⟨fun hn => hne ?_, .inr (isSpelled_of_denotes hd fun raw hm => (hraws raw hm).1), hlast, hnames⟩
    rw [hn] at hd
    exact List.forall₂_nil_right_iff.mp hd

lemma exists_derives_verbatim_iff (source : List Char) :
    (∃ segments, Derives .verbatim source segments) ↔ source = ['/'] ∨ ∃ raws : List (List Char), raws ≠ [] ∧
      (∀ raw ∈ raws, raw ≠ [] ∧ '/' ∉ raw) ∧ source = raws.flatMap ('/' :: ·) := by
  constructor
  · rintro ⟨segments, h⟩
    cases h with
    | root => exact .inl rfl
    | segments hne hraws => exact .inr ⟨_, hne, hraws, rfl⟩
  · rintro (rfl | ⟨raws, hne, hraws, rfl⟩)
    · exact ⟨_, .root⟩
    · refine ⟨raws.map fun raw => .literal (String.ofList (Percent.encode raw)), .segments hne hraws ?_ ?_ ?_⟩
      · rw [List.forall₂_map_right_iff, List.forall₂_same]
        exact fun raw _ => .verbatim raw
      · intro segment hm
        obtain ⟨raw, -, rfl⟩ := List.mem_map.mp (List.dropLast_subset _ hm)
        rfl
      · rw [List.filterMap_map]
        exact (List.filterMap_eq_nil_iff.mpr fun _ _ => rfl) ▸ List.nodup_nil

lemma Derives.eq_root {mode : Mode} {source : List Char} {segments : List Segment} (h : Derives mode source segments)
    (hm : .literal "" ∈ segments) : source = ['/'] := by
  cases h with
  | root => rfl
  | segments _ hraws hd =>
    obtain ⟨data, hne, he⟩ := isSpelled_of_denotes hd (fun raw hm => (hraws raw hm).1) _ hm
    exact absurd ((Percent.encode_eq_nil_iff data).mp he.symm) hne

/-- The parser accepts exactly the grammar, and reads what the grammar derives; a literal is empty only in the
root. -/
theorem parse_exact (source : String) :
    (∀ mode p, parse mode source = .ok p ↔ p.source = source ∧ Derives mode source.toList p.segments) ∧
      (∀ mode, (∃ p, parse mode source = .ok p) ↔ ∃ segments, Derives mode source.toList segments) ∧
      ((∃ p, parse .verbatim source = .ok p) ↔ source = "/" ∨ ∃ raws : List (List Char), raws ≠ [] ∧
        (∀ raw ∈ raws, raw ≠ [] ∧ '/' ∉ raw) ∧ source.toList = raws.flatMap ('/' :: ·)) ∧
      ∀ mode p, parse mode source = .ok p → .literal "" ∈ p.segments → source = "/" := by
  have haccepts (mode : Mode) : (∃ p, parse mode source = .ok p) ↔ ∃ segments, Derives mode source.toList segments :=
    ⟨fun ⟨p, h⟩ => ⟨p.segments, ((parse_eq_ok_iff _ _ _).mp h).2⟩,
      fun ⟨segments, h⟩ => ⟨⟨segments, source⟩, (parse_eq_ok_iff _ _ _).mpr ⟨rfl, h⟩⟩⟩
  have hroot : source.toList = "/".toList ↔ source = "/" := String.toList_inj
  refine ⟨fun mode p => parse_eq_ok_iff mode source p, haccepts, ?_, fun mode p h hm => ?_⟩
  · rw [haccepts, exists_derives_verbatim_iff, ← hroot]
    rfl
  · exact hroot.mp (((parse_eq_ok_iff _ _ _).mp h).2.eq_root hm)

end Pattern

end PathRouter
