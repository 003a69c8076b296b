import PathRouter.Proofs.Engine.Transfer
import PathRouter.Proofs.Router.Binding
import PathRouter.Proofs.Router.Safety

/-! A router is read back from the value that it is written as, if its values are. What is built passes every
check that a router from elsewhere has to pass. -/

namespace PathRouter

open Automaton Table

namespace VariableSlot

lemma ofJson?_toJson (slot : VariableSlot) : ofJson? slot.toJson = some slot := by
  simp [ofJson?, toJson, Json.fields?, Json.member?, Json.str?, Json.bool?]

end VariableSlot

namespace RouteEntry

variable {α : Type}

@[simp] lemma slotOfJson?_ofOption (slot : Option VariableSlot) :
    slotOfJson? (Json.ofOption VariableSlot.toJson slot) = some slot := by
  cases slot with
  | none => rfl
  | some slot =>
    have hs := VariableSlot.ofJson?_toJson slot
    rw [VariableSlot.toJson] at hs
    simp only [Json.ofOption, VariableSlot.toJson, slotOfJson?, hs, Option.map_some]

@[simp] lemma layoutOfJson?_ofOption (layout : Option (List (Option VariableSlot))) :
    layoutOfJson? (Json.ofOption (fun slots => .arr (slots.map (Json.ofOption VariableSlot.toJson))) layout) =
      some layout := by
  cases layout with
  | none => rfl
  | some slots =>
    simp only [Json.ofOption, layoutOfJson?, Json.mapM_map_eq_some fun slot _ => slotOfJson?_ofOption slot,
      List.map_id', Option.map_some]

lemma ofJson?_toJson {valueToJson : α → Json} {valueOfJson? : Json → Option α}
    (hv : ∀ value, valueOfJson? (valueToJson value) = some value) (entry : RouteEntry α) :
    ofJson? valueOfJson? (entry.toJson valueToJson) = some entry := by
  simp [ofJson?, toJson, Json.fields?, Json.member?, hv]

end RouteEntry

namespace Router

variable {α : Type} {valueToJson : α → Json} {valueOfJson? : Json → Option α} {router : Router α}

lemma ofJson_toJson_of_ofParts (hv : ∀ value, valueOfJson? (valueToJson value) = some value)
    (h : ofParts router.engine router.routes = .ok router) :
    ofJson valueOfJson? (router.toJson valueToJson) = .ok router := by
  obtain ⟨-, hf, -, -⟩ := ofParts_eq_ok_iff.mp h
  have hengine : engineOfJson router.engine.toJson = .ok router.engine := by
    rw [engineOfJson, Engine.partsOfJson?_toJson hf]
    simp only [hf]
  have hroutes : (router.routes.toList.map (RouteEntry.toJson valueToJson)).mapM (RouteEntry.ofJson? valueOfJson?) =
      some router.routes.toList := by
    rw [Json.mapM_map_eq_some fun entry _ => RouteEntry.ofJson?_toJson hv entry, List.map_id']
  simp [ofJson, toJson, Json.fields?, Json.member?, Json.arr?, hengine, hroutes, h, Except.mapError]

lemma isMisplaced_layout {p : Pattern} (hp : p.Proper) (value : α) :
    isMisplaced ⟨value, Builder.layout p⟩ = false := by
  rw [layout_eq]
  cases hv : p.hasVariables with
  | false => rfl
  | true =>
    simp only [isMisplaced, if_true, List.any_eq_false, ← List.map_dropLast]
    intro slot hs
    obtain ⟨segment, hm, rfl⟩ := List.mem_map.mp hs
    have hq := hp.quantified_last segment hm
    cases segment with
    | literal text => simp [slot?]
    | var name quantifier =>
      cases quantifier with
      | none => simp [slot?]
      | some quantifier => cases hq

lemma ofParts_of_build {builder : Builder α} {options : BuildOptions} (hm : builder.IsMade)
    (hb : builder.build options = .ok router) (hsize : router.engine.states ≤ maxPacked) :
    ofParts router.engine router.routes = .ok router := by
  obtain ⟨states, hstates, hengine, hroutes⟩ := Builder.exists_of_build_eq_ok hb
  have hw := build_wellFormed hstates
  refine ofParts_eq_ok_iff.mpr ⟨rfl, Engine.flaw?_of_compile hw hengine hsize, ?_, fun entry he => ?_⟩
  · rw [Engine.routes_of_compile hw hengine, hroutes, Builder.patterns, Array.size_map, Array.size_map]
  · rw [hroutes, Array.toList_map] at he
    obtain ⟨⟨p, value⟩, hr, rfl⟩ := List.mem_map.mp he
    refine isMisplaced_layout (hm.proper p ?_) value
    rw [Builder.patterns, Array.toList_map]
    exact List.mem_map_of_mem hr

lemma ofParts_of_ofJson {j : Json} (h : ofJson valueOfJson? j = .ok router) :
    ofParts router.engine router.routes = .ok router := by
  obtain ⟨engine, routes, hp⟩ := exists_parts_of_ofJson h
  obtain ⟨rfl, -⟩ := ofParts_eq_ok_iff.mp hp
  exact hp

theorem ofJson_toJson (hv : ∀ value, valueOfJson? (valueToJson value) = some value)
    (h : (∃ (builder : Builder α) (options : BuildOptions), builder.IsMade ∧ builder.build options = .ok router ∧
        router.engine.states ≤ maxPacked) ∨ ∃ j, ofJson valueOfJson? j = .ok router) :
    router.engine.flaw? = none ∧ ofParts router.engine router.routes = .ok router ∧
      ofJson valueOfJson? (router.toJson valueToJson) = .ok router := by
  have hparts : ofParts router.engine router.routes = .ok router := by
    obtain ⟨builder, options, hm, hb, hsize⟩ | ⟨j, hj⟩ := h
    · exact ofParts_of_build hm hb hsize
    · exact ofParts_of_ofJson hj
  exact ⟨(ofParts_eq_ok_iff.mp hparts).2.1, hparts, ofJson_toJson_of_ofParts hv hparts⟩

def natOfJson? : Json → Option Nat
  | .num (.int value) => some value.toNat
  | _ => none

theorem ofJson_toJson_files :
    files.IsMade ∧ ∀ options, ∃ router, files.build options = .ok router ∧ router.engine.states ≤ maxPacked ∧
      ofJson natOfJson? (router.toJson Json.ofNat) = .ok router := by
  refine ⟨files_isMade, fun options => ?_⟩
  obtain ⟨router, hb⟩ := exists_build_files options
  obtain ⟨states, hstates, hengine, -⟩ := Builder.exists_of_build_eq_ok hb
  have hbound : stateBound files.patterns ≤ maxPacked := by decide +kernel
  have hsize : router.engine.states ≤ maxPacked := by
    rw [Engine.states_of_compile (build_wellFormed hstates) hengine]
    exact Nat.le_trans (build_size_le hstates) hbound
  have hv : ∀ value, natOfJson? (Json.ofNat value) = some value := fun value => rfl
  exact ⟨router, hb, hsize, (ofJson_toJson hv (.inl ⟨files, options, files_isMade, hb, hsize⟩)).2.2⟩

end Router

end PathRouter
