import PathRouter.Proofs.Outcome
import PathRouter.Proofs.Router.Lookup
import PathRouter.Proofs.Router.Variables
import PathRouter.Proofs.Table.Safety
import PathRouter.Router.Transfer

/-! A router whose parts have been accepted is safe to use, whatever its arrays and layouts hold: no lookup
reads outside an array, every route that is found is there, and its variables are bound. -/

namespace PathRouter.Router

open Table

variable {α : Type}

/-- What the variables of a layout are bound to after a path: the last one of each name to the segments from
its place on, and a name without variable to what it was bound to before. -/
structure Binds (path : List Char) (layout : List (Option VariableSlot)) (bound after : Variables) : Prop where
  others : ∀ name, name ∉ slotNames layout → after.get? name = bound.get? name
  last : ∀ (k : Nat) (slot : VariableSlot), layout[k]? = some (some slot) →
    slot.name ∉ slotNames (layout.drop (k + 1)) → after.get? slot.name = some (bindingAt path slot (1 + k))

inductive Ends (router : Router α) (input : RouteInput) (bound : Variables) : Option α × Variables → Prop
  | noPath (hp : input.path? = none) : Ends router input bound (none, bound)
  | noRoute {path : List Char} (hp : input.path? = some path)
      (hr : router.engine.run? (Utf8.encode path) = some none) : Ends router input bound (none, bound)
  | found {path : List Char} {r : Nat} {entry : RouteEntry α} {after : Variables}
      (hp : input.path? = some path)
      (hr : router.engine.run? (Utf8.encode path) = some (some r)) (he : router.routes[r]? = some entry)
      (hb : Binds path (entry.layout.getD []) bound after) : Ends router input bound (some entry.value, after)

lemma binds_bind (path : List Char) (layout : List (Option VariableSlot)) (bound : Variables) :
    Binds path layout bound (bind path bound 1 layout) :=
  ⟨fun _ h => get?_bind_of_not_mem_slotNames 1 h, fun _ _ hs hlast => get?_bind_of_last 1 hs hlast⟩

lemma quantified_last_of_not_misplaced {entry : RouteEntry α} (h : isMisplaced entry = false)
    {layout : List (Option VariableSlot)} (hl : entry.layout = some layout) {slot : VariableSlot}
    (hs : some slot ∈ layout.dropLast) : slot.quantified = false := by
  rw [isMisplaced, hl] at h
  simpa using List.any_eq_false.mp h (some slot) hs

lemma ofParts_eq_ok_iff {engine : Engine} {routes : Array (RouteEntry α)} {router : Router α} :
    ofParts engine routes = .ok router ↔ router = ⟨engine, routes⟩ ∧ engine.flaw? = none ∧
      engine.routes = routes.size ∧ ∀ entry ∈ routes.toList, isMisplaced entry = false := by
  constructor
  · intro h
    rw [ofParts] at h
    cases hf : engine.flaw? with
    | some flaw =>
      rw [hf] at h
      cases h
    | none =>
      simp only [hf] at h
      by_cases hr : engine.routes = routes.size
      · rw [if_neg (not_ne_iff.mpr hr)] at h
        cases hm : routes.toList.findIdx? isMisplaced with
        | some route =>
          rw [hm] at h
          cases h
        | none =>
          rw [hm] at h
          exact ⟨(Except.ok.inj h).symm, rfl, hr, List.findIdx?_eq_none_iff.mp hm⟩
      · rw [if_pos hr] at h
        cases h
  · rintro ⟨rfl, hf, hr, hm⟩
    rw [ofParts, hf]
    simp only [if_neg (not_ne_iff.mpr hr), List.findIdx?_eq_none_iff.mpr hm]

lemma exists_route {router : Router α} (hf : router.engine.flaw? = none)
    (hr : router.engine.routes = router.routes.size) {path : List UInt8} {r : Nat}
    (h : router.engine.run? path = some (some r)) : ∃ entry, router.routes[r]? = some entry := by
  obtain ⟨route, hroute, hlt⟩ := Engine.run?_isAnswer hf path
  have hin : r < router.routes.size := hr ▸ hlt r (Option.some.inj (hroute.symm.trans h))
  exact ⟨_, Array.getElem?_eq_getElem hin⟩

lemma ends_routeWith {router : Router α} (hf : router.engine.flaw? = none)
    (hr : router.engine.routes = router.routes.size) (input : RouteInput) (bound : Variables) :
    router.Ends input bound (router.routeWith input bound) := by
  cases hp : input.path? with
  | none =>
    rw [routeWith_of_path?_eq_none router hp]
    exact .noPath hp
  | some path =>
    rw [routeWith_of_path?_eq_some router hp]
    obtain ⟨route, hroute, -⟩ := Engine.run?_isAnswer hf (Utf8.encode path)
    have hrun : router.engine.run (Utf8.encode path) = route := by rw [Engine.run, hroute, Option.join_some]
    cases route with
    | none =>
      rw [lookup?, hrun, Option.bind_none]
      exact .noRoute hp hroute
    | some r =>
      obtain ⟨entry, hentry⟩ := exists_route hf hr hroute
      rw [lookup?, hrun, Option.bind_some, hentry]
      exact .found hp hroute hentry (binds_bind path _ bound)

lemma exists_parts_of_ofJson {valueOfJson? : Json → Option α} {j : Json} {router : Router α}
    (h : ofJson valueOfJson? j = .ok router) : ∃ engine routes, ofParts engine routes = .ok router := by
  rw [ofJson] at h
  match hfields : j.fields? ["engine", "routes"] 1 true with
  | some [some engineJson, routes] =>
    simp only [hfields] at h
    cases he : engineOfJson engineJson with
    | error e =>
      rw [he] at h
      cases h
    | ok engine =>
      simp only [he] at h
      cases hentries : (routes.bind Json.arr?).bind (·.mapM (RouteEntry.ofJson? valueOfJson?)) with
      | none =>
        rw [hentries] at h
        cases h
      | some entries =>
        simp only [hentries] at h
        split_ifs at h
        exact ⟨engine, entries.toArray, eq_ok_of_mapError_eq_ok h⟩
  | none | some [] | some (none :: _) | some [some _] | some (some _ :: _ :: _ :: _) =>
    simp [hfields] at h

/-- Checking parts from elsewhere reads packed arrays as a whole or, in the sparse layout, within the row
offsets; and parts that are accepted make a router that answers every input from within its arrays. -/
theorem accepted_parts_safe :
    (∀ p : Packed, (List.range p.size).mapM p.get? = some p.toList) ∧
    (∀ m : Sparse, ∃ verdict, m.inspect? = some verdict) ∧
    (∀ engine : Engine, engine.flaw? = none → ∀ octets, IsAnswer engine.routes (engine.run? octets)) ∧
    (∀ (valueOfJson? : Json → Option α) (j : Json) (router : Router α), ofJson valueOfJson? j = .ok router →
      ∃ engine routes, ofParts engine routes = .ok router) ∧
    ∀ (engine : Engine) (routes : Array (RouteEntry α)) (router : Router α), ofParts engine routes = .ok router →
      (∀ octets r, router.engine.run? octets = some (some r) → ∃ entry, router.routes[r]? = some entry) ∧
      (∀ entry ∈ router.routes.toList, ∀ layout, entry.layout = some layout →
        ∀ slot, some slot ∈ layout.dropLast → slot.quantified = false) ∧
      ∀ input bound, router.Ends input bound (router.routeWith input bound) := by
  refine ⟨Packed.mapM_get?, Sparse.exists_inspect?, fun _ => Engine.run?_isAnswer, fun _ _ _ => exists_parts_of_ofJson,
    fun engine routes router h => ?_⟩
  obtain ⟨rfl, hf, hr, hm⟩ := ofParts_eq_ok_iff.mp h
  exact ⟨fun _ _ => exists_route hf hr, fun entry he _ hl _ => quantified_last_of_not_misplaced (hm entry he) hl,
    ends_routeWith hf hr⟩

/-- One state that reads every letter, with a key that is there twice. -/
def loop : Sparse where
  rowOffsets := .u8 #[0, 3]
  keys := #[0x61, 0x61, wildcard]
  values := .u16 #[0, 0, 0]
  accepted := .u32 #[0]
  states := 1
  routes := 1

/-- A layout longer than any path that its route can have, with one name in two places. -/
def overlong : RouteEntry Nat :=
  ⟨7, some [some ⟨"x", false⟩, none, some ⟨"x", false⟩, some ⟨"rest", true⟩]⟩

theorem accepted_parts_safe_overlong :
    ∃ router, ofParts (.sparse loop) #[overlong] = .ok router ∧ IsAnswer 1 (router.engine.run? [0x2f, 0x61, 0x62]) ∧
      ∃ after, router.routeWith (.text "/ab") Variables.empty = (some 7, after) ∧
        after.get? "x" = some (.one "") ∧ after.get? "rest" = some (.many []) := by
  have hf : (Engine.sparse loop).flaw? = none := by decide +kernel
  have hparts : ofParts (.sparse loop) #[overlong] = .ok ⟨.sparse loop, #[overlong]⟩ :=
    ofParts_eq_ok_iff.mpr ⟨rfl, hf, rfl, by decide +kernel⟩
  obtain ⟨-, -, hanswer, -, hsafe⟩ := accepted_parts_safe (α := Nat)
  obtain ⟨-, -, hends⟩ := hsafe _ _ _ hparts
  have hpath : RouteInput.path? (.text "/ab") = some "/ab".toList := by decide +kernel
  have hrun : (Engine.sparse loop).run? (Utf8.encode "/ab".toList) = some (some 0) := by decide +kernel
  refine ⟨_, hparts, hanswer _ hf _, ?_⟩
  have hend := hends (.text "/ab") Variables.empty
  generalize routeWith _ (.text "/ab") Variables.empty = outcome at hend
  cases hend with
  | noPath hp =>
    rw [hpath] at hp
    cases hp
  | noRoute hp hr =>
    obtain rfl := Option.some.inj (hpath.symm.trans hp)
    rw [hrun] at hr
    cases hr
  | found hp hr he hb =>
    obtain rfl := Option.some.inj (hpath.symm.trans hp)
    obtain rfl := Option.some.inj (Option.some.inj (hrun.symm.trans hr))
    obtain rfl := Option.some.inj he
    exact ⟨_, rfl, hb.last 2 ⟨"x", false⟩ rfl (by decide +kernel), hb.last 3 ⟨"rest", true⟩ rfl (by decide +kernel)⟩

end PathRouter.Router
