import Mathlib.Data.List.Basic
import PathRouter.Router

/-! A lookup sees of its input only the normalized path, and of the router the route that its engine answers
with. -/

namespace PathRouter

def RouteInput.path? (input : RouteInput) : Option (List Char) :=
  input.pathname?.bind Percent.normalizePath

namespace Router

variable {α : Type} (router : Router α)

def lookup? (path : List Char) : Option (RouteEntry α) :=
  (router.engine.run (Utf8.encode path)).bind (router.routes[·]?)

lemma find?_eq_bind (input : RouteInput) :
    router.find? input = input.path?.bind fun path => (router.lookup? path).map (path, ·) := by
  rw [find?, RouteInput.path?]
  cases input.pathname? with
  | none => rfl
  | some pathname =>
    simp only [Option.bind_eq_bind, Option.bind_some]
    cases Percent.normalizePath pathname with
    | none => rfl
    | some path =>
      simp only [Option.bind_some, lookup?]
      cases router.engine.run (Utf8.encode path) with
      | none => rfl
      | some r =>
        simp only [Option.bind_some, Option.map_eq_bind]
        rfl

lemma routeWith_of_path?_eq_none {input : RouteInput} (h : input.path? = none) (bound : Variables) :
    router.routeWith input bound = (none, bound) := by
  rw [routeWith, find?_eq_bind, h]
  rfl

lemma routeWith_of_path?_eq_some {input : RouteInput} {path : List Char} (h : input.path? = some path)
    (bound : Variables) : router.routeWith input bound =
      match router.lookup? path with
      | none => (none, bound)
      | some entry => (some entry.value, bind path bound 1 (entry.layout.getD [])) := by
  rw [routeWith, find?_eq_bind, h, Option.bind_some]
  cases router.lookup? path with
  | none => rfl
  | some entry =>
    obtain ⟨value, layout⟩ := entry
    cases layout <;> rfl

lemma route_congr {input input' : RouteInput} (h : input.path? = input'.path?) :
    router.route input = router.route input' := by
  rw [route, route, find?_eq_bind, find?_eq_bind, h]

lemma routeWith_congr {input input' : RouteInput} (h : input.path? = input'.path?) (bound : Variables) :
    router.routeWith input bound = router.routeWith input' bound := by
  rw [routeWith, routeWith, find?_eq_bind, find?_eq_bind, h]

end Router

end PathRouter
