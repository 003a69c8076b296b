import Mathlib.Data.List.Basic
import PathRouter.Config.Validation

/-! What it means for a configuration to be without problems. -/

namespace PathRouter.Config

structure AreRegular (routes : List Route) : Prop where
  read : ∀ route ∈ routes, ∃ p, Pattern.parse route.mode route.pattern = .ok p
  named : ∀ route ∈ routes, Blank.trim route.name.toList ≠ []
  nodup : (routes.map (·.name)).Nodup

lemma patternProblem?_eq_none_iff (route : Route) :
    route.patternProblem? = none ↔ ∃ p, Pattern.parse route.mode route.pattern = .ok p := by
  rw [Route.patternProblem?]
  cases Pattern.parse route.mode route.pattern <;> simp

/-- The names seen after the `earlier` ones: those that are not blank. -/
def namesSeen (earlier : List String) : List String :=
  earlier.filter fun name => !(Blank.trim name.toList).isEmpty

/-- Whether a list of names has been seen after the `earlier` ones, in whatever order. -/
def Sees (seen earlier : List String) : Prop :=
  ∀ name, name ∈ seen ↔ name ∈ earlier ∧ Blank.trim name.toList ≠ []

lemma sees_namesSeen (earlier : List String) : Sees (namesSeen earlier) earlier := by
  simp [Sees, namesSeen]

section CheckName

variable {seen earlier : List String} {name : String}

lemma checkName_of_blank (h : Blank.trim name.toList = []) (seen : List String) (index : Nat) :
    checkName seen index name = (some (.emptyName index), seen) := by
  simp [checkName, h]

lemma checkName_of_mem (hs : Sees seen earlier) (h : Blank.trim name.toList ≠ []) (hm : name ∈ earlier) (index : Nat) :
    checkName seen index name = (some (.duplicateName name), seen) := by
  have hseen : name ∈ seen := (hs name).mpr ⟨hm, h⟩
  simp [checkName, h, hseen]

lemma checkName_of_not_mem (hs : Sees seen earlier) (h : Blank.trim name.toList ≠ []) (hm : name ∉ earlier)
    (index : Nat) : checkName seen index name = (none, name :: seen) := by
  have hseen : name ∉ seen := fun hseen => hm ((hs name).mp hseen).1
  simp [checkName, h, hseen]

lemma sees_checkName (hs : Sees seen earlier) (index : Nat) (name : String) :
    Sees (checkName seen index name).2 (earlier ++ [name]) := by
  intro other
  rw [List.mem_append, List.mem_singleton]
  by_cases hblank : Blank.trim name.toList = []
  · rw [checkName_of_blank hblank, hs]
    refine and_congr_left fun hother => (or_iff_left fun he => ?_).symm
    exact hother (he ▸ hblank)
  · by_cases hm : name ∈ earlier
    · rw [checkName_of_mem hs hblank hm, hs]
      exact and_congr_left fun _ => (or_iff_left_of_imp fun he => he ▸ hm).symm
    · rw [checkName_of_not_mem hs hblank hm, List.mem_cons, hs, or_comm, or_and_right]
      exact or_congr_right (and_iff_left_of_imp fun he => he ▸ hblank).symm

lemma checkName_eq_none_iff (hs : Sees seen earlier) (index : Nat) (name : String) :
    (checkName seen index name).1 = none ↔ Blank.trim name.toList ≠ [] ∧ name ∉ earlier := by
  by_cases hblank : Blank.trim name.toList = []
  · simp [checkName_of_blank hblank, hblank]
  · by_cases hm : name ∈ earlier
    · simp [checkName_of_mem hs hblank hm, hm]
    · simp [checkName_of_not_mem hs hblank hm, hblank, hm]

end CheckName

lemma routeProblems_eq_nil_iff {seen earlier : List String} (hs : Sees seen earlier) (index : Nat)
    (routes : List Route) :
    routeProblems seen index routes = [] ↔ AreRegular routes ∧ ∀ route ∈ routes, route.name ∉ earlier := by
  induction routes generalizing seen earlier index with
  | nil => exact iff_of_true rfl ⟨⟨by simp, by simp, List.nodup_nil⟩, by simp⟩
  | cons route rest ih =>
    rw [routeProblems, List.append_eq_nil_iff, List.append_eq_nil_iff, Option.toList_eq_nil_iff,
      Option.toList_eq_nil_iff, checkName_eq_none_iff hs, patternProblem?_eq_none_iff, ih (sees_checkName hs _ _)]
    constructor
    · rintro ⟨⟨⟨hblank, hnew⟩, hparse⟩, ⟨hread, hnamed, hnodup⟩, hlater⟩
      have hfresh : ∀ other ∈ rest, other.name ∉ earlier ∧ other.name ≠ route.name := fun other ho => by
        simpa using hlater other ho
      refine ⟨⟨List.forall_mem_cons.mpr ⟨hparse, hread⟩, List.forall_mem_cons.mpr ⟨hblank, hnamed⟩, ?_⟩,
        List.forall_mem_cons.mpr ⟨hnew, fun other ho => (hfresh other ho).1⟩⟩
      refine List.nodup_cons.mpr ⟨fun hm => ?_, hnodup⟩
      obtain ⟨other, ho, he⟩ := List.mem_map.mp hm
      exact (hfresh other ho).2 he
    · rintro ⟨⟨hread, hnamed, hnodup⟩, hfresh⟩
      obtain ⟨hparse, hread⟩ := List.forall_mem_cons.mp hread
      obtain ⟨hblank, hnamed⟩ := List.forall_mem_cons.mp hnamed
      obtain ⟨hnew, hfresh⟩ := List.forall_mem_cons.mp hfresh
      obtain ⟨hne, hnodup⟩ := List.nodup_cons.mp hnodup
      refine ⟨⟨⟨hblank, hnew⟩, hparse⟩, ⟨hread, hnamed, hnodup⟩, fun other ho hm => ?_⟩
      rcases List.mem_append.mp hm with hm | hm
      · exact hfresh other ho hm
      · exact hne (List.mem_map.mpr ⟨other, ho, List.mem_singleton.mp hm⟩)

lemma areRegular_of_problems_eq_nil {config : Config} (h : config.problems = []) : AreRegular config.routes :=
  ((routeProblems_eq_nil_iff (sees_namesSeen []) 0 config.routes).mp (List.append_eq_nil_iff.mp h).1).1

end PathRouter.Config
