import PathRouter.Proofs.Automaton.Matching
import PathRouter.Proofs.Automaton.Representation

/-! The automaton of routes answers a path with the route whose pattern matches the path. -/

namespace PathRouter.Automaton

open Percent

lemma isVisible_of_isPathOctet {c : Char} (hc : c.toNat < 0x80) (h : isPathOctet c.toUInt8 = true) :
    isVisible c = true := by
  rw [isPathOctet_iff, Utf8.toNat_toUInt8 hc] at h
  simp only [isVisible, Bool.and_eq_true, decide_eq_true_eq]
  exact h

lemma visible_of_encode {text : List Char} (h : ∀ b ∈ Utf8.encode text, isPathOctet b = true) :
    Utf8.encode text = text.map Char.toUInt8 ∧ ∀ c ∈ text, isVisible c = true := by
  have hascii : ∀ c ∈ text, c.toNat < 0x80 := Utf8.ascii_of_octets fun b hb =>
    Nat.lt_of_le_of_lt ((isPathOctet_iff b).mp (h b hb)).2 (by decide)
  have he := Utf8.encode_of_ascii hascii
  exact ⟨he, fun c hc => isVisible_of_isPathOctet (hascii c hc) (h _ (he ▸ List.mem_map_of_mem hc))⟩

lemma octets_of_isCanonicalPath {path : List Char} (h : IsCanonicalPath path) :
    ∀ b ∈ Utf8.encode path, isPathOctet b = true := by
  rw [Utf8.encode_of_ascii fun c hc => isVisible_ascii (h.visible c hc)]
  exact List.forall_mem_map.mpr fun c hc => isPathOctet_toUInt8 (h.visible c hc)

@[simp] lemma toUInt8_ofUInt8 (b : UInt8) : (Char.ofUInt8 b).toUInt8 = b :=
  UInt8.toUInt8_toUInt32 b

lemma exists_text_of_octets {w : List UInt8} (h : ∀ b ∈ w, isPathOctet b = true) :
    ∃ text : List Char, (∀ c ∈ text, isVisible c = true) ∧ text.map Char.toUInt8 = w := by
  refine ⟨w.map Char.ofUInt8, fun c hc => ?_, ?_⟩
  · obtain ⟨b, hb, rfl⟩ := List.mem_map.mp hc
    have hle := ((isPathOctet_iff b).mp (h b hb)).2
    refine isVisible_of_isPathOctet (Nat.lt_of_le_of_lt hle (by decide)) ?_
    rw [toUInt8_ofUInt8]
    exact h b hb
  · rw [List.map_map]
    exact (List.map_congr_left fun b _ => toUInt8_ofUInt8 b).trans (List.map_id w)

variable {routes : Array Pattern} (hp : ∀ p ∈ routes.toList, p.Proper)
include hp

lemma mem_accepting_iff_matchesPath {text : List Char} (hv : ∀ c ∈ text, isVisible c = true) (r : Nat) :
    r ∈ accepting routes (reached routes (text.map Char.toUInt8)) (text.map Char.toUInt8).isEmpty ↔
      ∃ p, routes[r]? = some p ∧ p.matchesPath ('/' :: text) = true := by
  rw [mem_accepting_reached, List.isEmpty_map]
  refine exists_congr fun p => and_congr_right fun hr => ?_
  rw [(hp p (Array.mem_toList_iff.mpr (Array.mem_of_getElem? hr))).any_walk?_start r hv]

theorem route?_encode_eq_some_iff {states : Array State} (h : build routes = .ok states) {path : List Char}
    (hs : path.head? = some '/') (hv : ∀ b ∈ Utf8.encode path, isPathOctet b = true) (r : Nat) :
    route? states (Utf8.encode path) = some r ↔ ∃ p, routes[r]? = some p ∧ p.matchesPath path = true := by
  obtain ⟨he, hvisible⟩ := visible_of_encode hv
  cases path with
  | nil => cases hs
  | cons c text =>
    obtain rfl := Option.some.inj hs
    have htext := (List.forall_mem_cons.mp hvisible).2
    rw [he, route?_eq_some_iff h fun b hb => hv b (he ▸ List.mem_of_mem_tail hb), List.map_cons, List.tail_cons]
    exact mem_accepting_iff_matchesPath hp htext r

end PathRouter.Automaton
