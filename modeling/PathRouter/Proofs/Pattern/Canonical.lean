import PathRouter.Proofs.Pattern.Matching

/-! Patterns that match some path match a canonical one together: the literals that they have in common stay,
and in the place of what only variables take stands a text longer than any literal. -/

namespace PathRouter.Pattern

open Percent

def filler (n : Nat) : List Char :=
  List.replicate (n + 1) 'a'

@[simp] lemma encode_filler (n : Nat) : encode (filler n) = filler n := by
  refine encode_of_safe fun c hc => ?_
  rw [List.eq_of_mem_replicate hc]
  decide

lemma exists_longer (segments : List Segment) :
    ∃ n, ∀ text, Segment.literal text ∈ segments → text.toList.length ≤ n := by
  induction segments with
  | nil => exact ⟨0, fun text h => (by cases h)⟩
  | cons segment rest ih =>
    obtain ⟨n, hn⟩ := ih
    cases segment with
    | literal first =>
      refine ⟨n + first.toList.length, fun text h => ?_⟩
      rcases List.mem_cons.mp h with he | h
      · rw [Segment.literal.inj he]
        exact Nat.le_add_left _ _
      · exact Nat.le_trans (hn text h) (Nat.le_add_right _ _)
    | var name quantifier =>
      refine ⟨n, fun text h => hn text ?_⟩
      rcases List.mem_cons.mp h with he | h
      · cases he
      · exact h

variable {routes : List Pattern} (hp : ∀ p ∈ routes, p.Proper)
include hp

lemma exists_text (part : List Char) :
    ∃ data, data ≠ [] ∧ ∀ p ∈ routes, ¬ p.IsRoot → ∀ text, Segment.literal text ∈ p.segments →
      (encode data = text.toList ↔ part = text.toList) := by
  by_cases hk : ∃ p ∈ routes, ¬ p.IsRoot ∧ ∃ text, Segment.literal text ∈ p.segments ∧ part = text.toList
  · obtain ⟨p, hpm, hr, text, ht, rfl⟩ := hk
    obtain ⟨data, hne, he⟩ := (hp p hpm).spelled_of_literal hr ht
    exact ⟨data, hne, fun _ _ _ _ _ => he ▸ Iff.rfl⟩
  · obtain ⟨n, hn⟩ := exists_longer (routes.flatMap (·.segments))
    refine ⟨filler n, List.cons_ne_nil _ _, fun p hpm hr text ht => ?_⟩
    refine iff_of_false (fun he => ?_) fun he => hk ⟨p, hpm, hr, text, ht, he⟩
    have hle := hn text (List.mem_flatMap.mpr ⟨p, hpm, ht⟩)
    rw [← he, encode_filler, filler, List.length_replicate] at hle
    exact absurd hle (Nat.not_succ_le_self n)

/-- Around a path that some pattern matches, a canonical path is matched by the same patterns. -/
theorem exists_isCanonicalPath {path : List Char} {p : Pattern} (hpm : p ∈ routes) (hm : p.matchesPath path = true) :
    ∃ canonical, IsCanonicalPath canonical ∧ ∀ q ∈ routes, q.matchesPath canonical = q.matchesPath path := by
  by_cases hroot : path = ['/']
  · subst hroot
    exact ⟨['/'], (isCanonicalPath_iff _).mpr ⟨[[]], by simp, rfl⟩, fun _ _ => rfl⟩
  have hr : ¬ p.IsRoot := fun hr => hroot ((hr.matchesPath_iff path).mp hm)
  obtain ⟨parts, hparts, htakes⟩ := ((hp p hpm).matchesPath_iff hr path).mp hm
  have hne : ∀ part ∈ parts, part ≠ [] := htakes.ne_nil fun text ht => (hp p hpm).literal_ne_nil hr ht
  have hnil : parts ≠ [] := by
    obtain ⟨body, -, -, rfl⟩ := parts?_eq_some hparts hroot
    exact Pieces.cut_ne_nil '/' body
  choose text htext hliteral using exists_text hp
  have htexts : parts.map text ≠ [] := fun h => hnil (List.map_eq_nil_iff.mp h)
  have hpath : pathOf (parts.map text) ≠ [] := pathOf_ne_nil htexts (List.forall_mem_map.mpr fun part _ => htext part)
  have hspelled : ∀ part ∈ (parts.map text).map encode, part ≠ [] := by
    rw [List.map_map]
    refine List.forall_mem_map.mpr fun part _ => ?_
    exact fun h => htext part ((encode_eq_nil_iff _).mp h)
  refine ⟨'/' :: pathOf (parts.map text), (isCanonicalPath_iff _).mpr ⟨_, htexts, rfl⟩, fun q hq => ?_⟩
  by_cases hqr : q.IsRoot
  · rw [Bool.eq_iff_iff, hqr.matchesPath_iff, hqr.matchesPath_iff]
    exact iff_of_false (fun h => hpath (List.cons.inj h).2) hroot
  · refine (hp q hq).matchesPath_congr hqr (parts?_pathOf htexts hpath) hparts (by simp) hspelled hne ?_
    intro k literal hk
    rw [List.getElem?_map, List.getElem?_map]
    cases parts[k]? with
    | none => exact Iff.rfl
    | some part =>
      simp only [Option.map_some, Option.some.injEq]
      exact hliteral part q hq hqr literal (List.mem_of_getElem? hk)

end PathRouter.Pattern
