import PathRouter.Proofs.Automaton.Exactness
import PathRouter.Proofs.Pattern.Canonical
import PathRouter.Proofs.Router.Builder

/-! Routes are refused exactly if two of them match one canonical path, and the conflict then names all the
routes that match some canonical path, in order. -/

namespace PathRouter

open Automaton Percent

lemma map_getElem?_of_sorted {α : Type} (l : List α) (P : α → Bool) {numbers : List Nat}
    (hs : numbers.Pairwise (· < ·)) (hm : ∀ n, n ∈ numbers ↔ ∃ a, l[n]? = some a ∧ P a = true) :
    numbers.map (l[·]?) = (l.filter P).map some := by
  have hrange : ((List.range l.length).filter fun n => l[n]?.any P).map (l[·]?) = (l.filter P).map some := by
    clear hm
    induction l with
    | nil => rfl
    | cons a rest ih =>
      rw [List.length_cons, List.range_succ_eq_map, List.filter_cons, List.filter_cons, List.filter_map]
      have htail : ((List.range rest.length).filter ((fun n => (a :: rest)[n]?.any P) ∘ Nat.succ)).map Nat.succ =
          ((List.range rest.length).filter fun n => rest[n]?.any P).map Nat.succ := rfl
      rw [htail]
      have hmap : (((List.range rest.length).filter fun n => rest[n]?.any P).map Nat.succ).map ((a :: rest)[·]?) =
          (rest.filter P).map some := by
        rw [List.map_map, ← ih]
        rfl
      cases ha : P a with
      | false => simpa [ha] using hmap
      | true => simpa [ha] using hmap
  rw [← hrange]
  refine congrArg _ (eq_of_sorted_of_mem hs (List.pairwise_lt_range.filter _) fun n => ?_)
  rw [hm, List.mem_filter, List.mem_range, Option.any_eq_true]
  refine ⟨fun ⟨a, hn, ha⟩ => ⟨(List.getElem?_eq_some_iff.mp hn).1, a, hn, ha⟩, fun h => h.2⟩

variable {routes : Array Pattern}

lemma exists_canonical_of_reportedAfter (hp : ∀ p ∈ routes.toList, p.Proper) {conflict : Conflict} {w : List UInt8}
    (hw : ∀ b ∈ w, isPathOctet b = true) (h : conflict.ReportedAfter routes w) :
    ∃ path, IsCanonicalPath path ∧ ∃ numbers : List Nat, numbers.Pairwise (· < ·) ∧ 1 < numbers.length ∧
      (∀ n, n ∈ numbers ↔ ∃ p, routes.toList[n]? = some p ∧ p.matchesPath path = true) ∧
      conflict.sources = numbers.filterMap fun n => routes.toList[n]?.map (·.source) := by
  obtain ⟨numbers, hsorted, hmem, hlength, hsources⟩ := h
  obtain ⟨text, hv, rfl⟩ := exists_text_of_octets hw
  have hmatch := fun r => (hmem r).trans (mem_accepting_iff_matchesPath hp hv r)
  obtain ⟨p, hpr, hpm⟩ := (hmatch numbers[0]).mp (List.getElem_mem _)
  obtain ⟨path, hpath, hsame⟩ := Pattern.exists_isCanonicalPath hp
    (Array.mem_toList_iff.mpr (Array.mem_of_getElem? hpr)) hpm
  refine ⟨path, hpath, numbers, hsorted, hlength, fun n => ?_, ?_⟩
  · rw [hmatch n]
    refine exists_congr fun q => ?_
    rw [← Array.getElem?_toList]
    exact and_congr_right fun hq => by rw [hsame q (List.mem_of_getElem? hq)]
  · simpa only [Array.getElem?_toList] using hsources

lemma match_unique_of_build_eq_ok (hp : ∀ p ∈ routes.toList, p.Proper) {states : Array State}
    (h : Automaton.build routes = .ok states) {path : List Char} {i j : Nat} {p q : Pattern}
    (hi : routes[i]? = some p) (hj : routes[j]? = some q) (hpm : p.matchesPath path = true)
    (hqm : q.matchesPath path = true) : i = j := by
  have hpr : p ∈ routes.toList := Array.mem_toList_iff.mpr (Array.mem_of_getElem? hi)
  have hqr : q ∈ routes.toList := Array.mem_toList_iff.mpr (Array.mem_of_getElem? hj)
  obtain ⟨canonical, hc, hsame⟩ := Pattern.exists_isCanonicalPath hp hpr hpm
  have hroute := route?_encode_eq_some_iff hp h hc.1 (octets_of_isCanonicalPath hc)
  have hri := (hroute i).mpr ⟨p, hi, (hsame p hpr).trans hpm⟩
  have hrj := (hroute j).mpr ⟨q, hj, (hsame q hqr).trans hqm⟩
  exact Option.some.inj (hri.symm.trans hrj)

lemma exists_canonical_of_build_eq_error (hp : ∀ p ∈ routes.toList, p.Proper) {conflict : Conflict}
    (h : Automaton.build routes = .error conflict) :
    ∃ path, IsCanonicalPath path ∧ ∃ numbers : List Nat, numbers.Pairwise (· < ·) ∧ 1 < numbers.length ∧
      (∀ n, n ∈ numbers ↔ ∃ p, routes.toList[n]? = some p ∧ p.matchesPath path = true) ∧
      conflict.sources = numbers.filterMap fun n => routes.toList[n]?.map (·.source) := by
  obtain ⟨w, hw, hafter⟩ := build_eq_error h
  exact exists_canonical_of_reportedAfter hp hw hafter

lemma exists_overlap_of_build_eq_error (hp : ∀ p ∈ routes.toList, p.Proper) {conflict : Conflict}
    (h : Automaton.build routes = .error conflict) :
    ∃ (i j : Nat) (p q : Pattern) (path : List Char), i ≠ j ∧ routes[i]? = some p ∧ routes[j]? = some q ∧
      IsCanonicalPath path ∧ p.matchesPath path = true ∧ q.matchesPath path = true := by
  obtain ⟨path, hpath, numbers, hsorted, hlength, hmem, -⟩ := exists_canonical_of_build_eq_error hp h
  obtain ⟨i, j, rest, rfl⟩ : ∃ i j rest, numbers = i :: j :: rest := by
    match numbers, hlength with
    | i :: j :: rest, _ => exact ⟨i, j, rest, rfl⟩
  obtain ⟨p, hi, hpm⟩ := (hmem i).mp (by simp)
  obtain ⟨q, hj, hqm⟩ := (hmem j).mp (by simp)
  have hlt : i < j := (List.pairwise_cons.mp hsorted).1 j (by simp)
  rw [Array.getElem?_toList] at hi hj
  exact ⟨i, j, p, q, path, Nat.ne_of_lt hlt, hi, hj, hpath, hpm, hqm⟩

lemma sources_of_build_eq_error (hp : ∀ p ∈ routes.toList, p.Proper) {conflict : Conflict}
    (h : Automaton.build routes = .error conflict) :
    ∃ path, IsCanonicalPath path ∧
      conflict.sources = (routes.toList.filter (·.matchesPath path)).map (·.source) ∧
      2 ≤ conflict.sources.length := by
  obtain ⟨path, hpath, numbers, hsorted, hlength, hmem, hsources⟩ := exists_canonical_of_build_eq_error hp h
  have hmap := map_getElem?_of_sorted routes.toList (·.matchesPath path) hsorted hmem
  have hfilter : conflict.sources = (routes.toList.filter (·.matchesPath path)).map (·.source) := by
    calc conflict.sources = (numbers.map (routes.toList[·]?)).filterMap (·.map (·.source)) := by
          rw [hsources, List.filterMap_map]
          rfl
      _ = ((routes.toList.filter (·.matchesPath path)).map some).filterMap (·.map (·.source)) := by rw [hmap]
      _ = (routes.toList.filter (·.matchesPath path)).map (·.source) := by
          rw [List.filterMap_map]
          exact congrFun (List.filterMap_eq_map (f := Pattern.source)) _
  have hcount := congrArg List.length hmap
  rw [List.length_map, List.length_map] at hcount
  refine ⟨path, hpath, hfilter, ?_⟩
  rw [hfilter, List.length_map, ← hcount]
  exact hlength

theorem conflicts_exact {routes : Array Pattern} (hr : ∀ p ∈ routes.toList, p.IsRead) :
    ((∃ conflict, Automaton.build routes = .error conflict) ↔
      ∃ (i j : Nat) (p q : Pattern) (path : List Char), i ≠ j ∧ routes[i]? = some p ∧ routes[j]? = some q ∧
        IsCanonicalPath path ∧ p.matchesPath path = true ∧ q.matchesPath path = true) ∧
    (∀ conflict, Automaton.build routes = .error conflict → ∃ path, IsCanonicalPath path ∧
      conflict.sources = (routes.toList.filter (·.matchesPath path)).map (·.source) ∧
      2 ≤ conflict.sources.length) ∧
    ∀ (α : Type) (builder : Builder α) (options : BuildOptions) (router : Router α),
      builder.patterns = routes → builder.build options = .ok router →
      ∀ (path : List Char) (i j : Nat) (p q : Pattern), routes[i]? = some p → routes[j]? = some q →
        p.matchesPath path = true → q.matchesPath path = true → i = j := by
  have hp : ∀ p ∈ routes.toList, p.Proper := fun p hm => (hr p hm).proper
  refine ⟨⟨?_, ?_⟩, fun conflict => sources_of_build_eq_error hp, ?_⟩
  · rintro ⟨conflict, h⟩
    exact exists_overlap_of_build_eq_error hp h
  · rintro ⟨i, j, p, q, path, hne, hi, hj, -, hpm, hqm⟩
    cases h : Automaton.build routes with
    | error conflict => exact ⟨conflict, rfl⟩
    | ok states => exact absurd (match_unique_of_build_eq_ok hp h hi hj hpm hqm) hne
  · rintro α builder options router rfl h path i j p q hi hj hpm hqm
    obtain ⟨states, hstates, -⟩ := Builder.exists_of_build_eq_ok h
    exact match_unique_of_build_eq_ok hp hstates hi hj hpm hqm

def crossing : Array Pattern :=
  #[⟨[.literal "a", .var "x" none], "/a/{x}"⟩, ⟨[.var "y" none, .literal "b"], "/{y}/b"⟩]

theorem conflicts_exact_crossing :
    (∀ p ∈ crossing.toList, p.IsRead) ∧ ∃ conflict, Automaton.build crossing = .error conflict ∧
      conflict.sources = ["/a/{x}", "/{y}/b"] := by
  have hr : ∀ p ∈ crossing.toList, p.IsRead := by
    refine List.forall_mem_cons.mpr ⟨⟨.template, by decide +kernel⟩, List.forall_mem_singleton.mpr ?_⟩
    exact ⟨.template, by decide +kernel⟩
  obtain ⟨hiff, hsources, -⟩ := conflicts_exact hr
  obtain ⟨conflict, h⟩ := hiff.mpr ⟨0, 1, _, _, "/a/b".toList, Nat.zero_ne_one, rfl, rfl,
    ⟨rfl, by decide +kernel⟩, by decide +kernel, by decide +kernel⟩
  obtain ⟨path, -, hs, hlength⟩ := hsources conflict h
  rw [hs, List.length_map] at hlength
  have hall : crossing.toList.filter (·.matchesPath path) = crossing.toList :=
    List.filter_sublist.eq_of_length_le hlength
  rw [hall] at hs
  exact ⟨hr, conflict, h, hs⟩

end PathRouter
