import Mathlib.Data.List.Basic
import PathRouter.Proofs.Pattern.Parser
import PathRouter.Router

/-! Binding a name changes what is bound to it and nothing else, so the variables of a pattern, whose names
are distinct, are bound each to its own segments of the path. -/

namespace PathRouter

namespace Variables

lemma lookup_map_set {name other : String} {binding : Binding} (bindings : List (String × Binding)) :
    (bindings.map fun b => if b.1 = name then (name, binding) else b).lookup other =
      if other = name ∧ (bindings.any (·.1 = name)) = true then some binding else bindings.lookup other := by
  induction bindings with
  | nil => simp
  | cons b rest ih =>
    obtain ⟨first, value⟩ := b
    rw [List.map_cons]
    by_cases hf : first = name
    · subst hf
      by_cases ho : other = first
      · subst ho
        simp
      · have hb : (other == first) = false := by simpa using ho
        simp [List.lookup_cons, hb, ho, ih]
    · by_cases ho : other = first
      · subst ho
        simp [hf]
      · have hb : (other == first) = false := by simpa using ho
        have hd : decide (first = name) = false := decide_eq_false hf
        rw [if_neg hf, List.lookup_cons, List.lookup_cons, hb, List.any_cons, hd, Bool.false_or]
        exact ih

@[simp] lemma get?_set (bound : Variables) (name other : String) (binding : Binding) :
    (bound.set name binding).get? other = if other = name then some binding else bound.get? other := by
  simp only [set, get?]
  by_cases hany : bound.bindings.any (·.1 = name) = true
  · rw [if_pos hany, lookup_map_set, hany]
    simp
  · rw [if_neg hany]
    have hnone : bound.bindings.lookup name = none := by
      refine List.lookup_eq_none_iff.mpr fun b hb => ?_
      simp only [List.any_eq_true, decide_eq_true_eq, not_exists, not_and] at hany
      simpa using Ne.symm (hany b hb)
    rw [List.lookup_append]
    by_cases ho : other = name
    · subst ho
      simp [hnone]
    · have hb : (other == name) = false := by simpa using ho
      simp [List.lookup_cons, hb, ho]

end Variables

namespace Router

variable {path : List Char} {bound : Variables}

def slotNames (layout : List (Option VariableSlot)) : List String :=
  layout.filterMap (·.map VariableSlot.name)

lemma get?_bind_of_not_mem_slotNames (index : Nat) {layout : List (Option VariableSlot)} {name : String}
    (h : name ∉ slotNames layout) : (bind path bound index layout).get? name = bound.get? name := by
  induction layout generalizing bound index with
  | nil => rfl
  | cons first rest ih =>
    cases first with
    | none => exact ih (index + 1) h
    | some slot =>
      have h : name ∉ slot.name :: slotNames rest := h
      rw [List.mem_cons, not_or] at h
      refine (ih (index + 1) h.2).trans ?_
      simp [h.1]

lemma get?_bind_of_last (index : Nat) {layout : List (Option VariableSlot)} {k : Nat} {slot : VariableSlot}
    (hs : layout[k]? = some (some slot)) (hlast : slot.name ∉ slotNames (layout.drop (k + 1))) :
    (bind path bound index layout).get? slot.name = some (bindingAt path slot (index + k)) := by
  induction layout generalizing bound index k with
  | nil => cases hs
  | cons first rest ih =>
    cases k with
    | zero =>
      obtain rfl := Option.some.inj hs
      refine (get?_bind_of_not_mem_slotNames (index + 1) hlast).trans ?_
      simp
    | succ k =>
      have hplace : index + 1 + k = index + (k + 1) := by omega
      rw [← hplace]
      cases first with
      | none => exact ih (index + 1) hs hlast
      | some other => exact ih (index + 1) hs hlast

def slot? : Segment → Option VariableSlot
  | .literal _ => none
  | .var name quantifier => some ⟨name, quantifier.isSome⟩

@[simp] lemma slotNames_map_slot? (segments : List Segment) :
    slotNames (segments.map slot?) = segments.filterMap Segment.name? := by
  rw [slotNames, List.filterMap_map]
  exact congrFun (congrArg List.filterMap (funext fun segment => by cases segment <;> rfl)) segments

lemma get?_bind_of_not_mem (index : Nat) {segments : List Segment} {name : String}
    (h : name ∉ segments.filterMap Segment.name?) :
    (bind path bound index (segments.map slot?)).get? name = bound.get? name :=
  get?_bind_of_not_mem_slotNames index ((slotNames_map_slot? segments).symm ▸ h)

lemma get?_bind (index : Nat) {segments : List Segment} (hn : (segments.filterMap Segment.name?).Nodup) {k : Nat}
    {name : String} {quantifier : Option Quantifier} (hs : segments[k]? = some (.var name quantifier)) :
    (bind path bound index (segments.map slot?)).get? name =
      some (bindingAt path ⟨name, quantifier.isSome⟩ (index + k)) := by
  have hslot : (segments.map slot?)[k]? = some (some ⟨name, quantifier.isSome⟩) := by
    rw [List.getElem?_map, hs]
    rfl
  refine get?_bind_of_last index hslot ?_
  obtain ⟨hk, he⟩ := List.getElem?_eq_some_iff.mp hs
  rw [← List.take_append_drop k segments, List.drop_eq_getElem_cons hk, he, List.filterMap_append,
    List.filterMap_cons_some (show Segment.name? (.var name quantifier) = some name from rfl)] at hn
  rw [← List.map_drop, slotNames_map_slot?]
  exact (List.nodup_cons.mp (List.nodup_append.mp hn).2.1).1

end Router

end PathRouter
