import PathRouter.Config.Loading
import PathRouter.Proofs.Config.Validation
import PathRouter.Proofs.Percent.Normalization
import PathRouter.Proofs.Router.Filling

/-! Compiling a configuration without problems. All its routes are added, so only the table as a whole can be refused,
and the router answers with the name of the one route that matches. -/

namespace PathRouter.Config

open Percent

structure Route.Makes (route : Route) (entry : Pattern × String) : Prop where
  parse : Pattern.parse route.mode route.pattern = .ok entry.1
  name : route.name = entry.2

lemma exists_addRoutes {routes : List Route} (h : ∀ route ∈ routes, ∃ p, Pattern.parse route.mode route.pattern = .ok p)
    {builder : Builder String} (hm : builder.IsMade) :
    ∃ builder' added, addRoutes builder routes = .ok builder' ∧ builder'.IsMade ∧
      builder'.routes.toList = builder.routes.toList ++ added ∧ List.Forall₂ Route.Makes routes added := by
  induction routes generalizing builder with
  | nil => exact ⟨builder, [], rfl, hm, (List.append_nil _).symm, .nil⟩
  | cons route rest ih =>
    obtain ⟨⟨p, hp⟩, hrest⟩ := List.forall_mem_cons.mp h
    have hadd := Builder.add_of_parse hp builder route.name
    obtain ⟨builder', added, hok, hm', hroutes, hmade⟩ := ih hrest (hm.add hadd)
    refine ⟨builder', (p, route.name) :: added, ?_, hm', ?_, .cons ⟨hp, rfl⟩ hmade⟩
    · rw [addRoutes, List.foldlM_cons, hadd]
      exact hok
    · rw [hroutes, Array.toList_push, List.append_assoc]
      rfl

lemma filter_name_eq_singleton_iff {routes : List Route} (h : (routes.map (·.name)).Nodup) (name : String)
    (route : Route) : routes.filter (·.name = name) = [route] ↔ route ∈ routes ∧ route.name = name := by
  constructor
  · intro hf
    obtain ⟨hm, hname⟩ := List.mem_filter.mp (hf ▸ List.mem_singleton_self route)
    exact ⟨hm, of_decide_eq_true hname⟩
  · rintro ⟨hm, rfl⟩
    induction routes with
    | nil => cases hm
    | cons other rest ih =>
      rw [List.map_cons, List.nodup_cons] at h
      rcases List.mem_cons.mp hm with rfl | hm
      · have hrest : rest.filter (·.name = route.name) = [] := by
          rw [List.filter_eq_nil_iff]
          intro other ho he
          exact h.1 (of_decide_eq_true he ▸ List.mem_map_of_mem ho)
        simp [hrest]
      · have hne : other.name ≠ route.name := fun he => h.1 (he ▸ List.mem_map_of_mem hm)
        simpa [hne] using ih h.2 hm

/-- Whether just one route of a configuration has a name, and its pattern matches a path. -/
def Answers (config : Config) (name : String) (path : List Char) : Prop :=
  ∃ route p, config.routes.filter (·.name = name) = [route] ∧ Pattern.parse route.mode route.pattern = .ok p ∧
    p.matchesPath path = true

lemma compile_eq {config : Config} (h : AreRegular config.routes) :
    ∃ builder : Builder String, builder.IsMade ∧ List.Forall₂ Route.Makes config.routes builder.routes.toList ∧
      config.compile = (builder.build ⟨config.compress⟩).mapError fun e => .build (.build e) := by
  obtain ⟨builder, added, hok, hm, hroutes, hmade⟩ := exists_addRoutes h.read Builder.IsMade.empty
  refine ⟨builder, hm, hroutes ▸ hmade, ?_⟩
  rw [compile, hok]

lemma exists_entry_iff_answers {config : Config} (h : AreRegular config.routes) {entries : List (Pattern × String)}
    (hmade : List.Forall₂ Route.Makes config.routes entries) (name : String) (path : List Char) :
    (∃ p, (p, name) ∈ entries ∧ p.matchesPath path = true) ↔ config.Answers name path := by
  constructor
  · rintro ⟨p, hp, hmatch⟩
    obtain ⟨route, hr, hparse, hname⟩ := exists_of_related hmade.flip hp
    exact ⟨route, p, (filter_name_eq_singleton_iff h.nodup name route).mpr ⟨hr, hname⟩, hparse, hmatch⟩
  · rintro ⟨route, p, hfilter, hparse, hmatch⟩
    obtain ⟨hr, rfl⟩ := (filter_name_eq_singleton_iff h.nodup name route).mp hfilter
    obtain ⟨⟨q, other⟩, he, hq, rfl⟩ := exists_of_related hmade hr
    rw [hparse] at hq
    obtain rfl := Except.ok.inj hq
    exact ⟨p, he, hmatch⟩

lemma validate_eq_ok_iff (config : Config) : config.validate = .ok config ↔ config.problems = [] := by
  rw [validate]
  cases config.problems <;> simp

section Compiled

variable {config : Config} (h : AreRegular config.routes)
include h

lemma compile_cases : (∃ router, config.compile = .ok router) ∨
    (∃ conflict, config.compile = .error (.build (.build (.conflict conflict)))) ∨
    ∃ e, config.compile = .error (.build (.build (.capacity e))) := by
  obtain ⟨builder, -, -, hcompile⟩ := compile_eq h
  rw [hcompile]
  cases builder.build ⟨config.compress⟩ with
  | ok router => exact .inl ⟨router, rfl⟩
  | error e =>
    cases e with
    | conflict conflict => exact .inr (.inl ⟨conflict, rfl⟩)
    | capacity e => exact .inr (.inr ⟨e, rfl⟩)

variable {router : Router String} (hok : config.compile = .ok router)
include hok

lemma lookup?_eq_iff_answers {path : List Char} (hc : IsCanonicalPath path) (name : String) :
    (router.lookup? path).map (·.value) = some name ↔ config.Answers name path := by
  obtain ⟨builder, hm, hmade, hcompile⟩ := compile_eq h
  rw [hcompile] at hok
  cases hb : builder.build ⟨config.compress⟩ with
  | error e =>
    rw [hb] at hok
    cases hok
  | ok router' =>
    rw [hb] at hok
    obtain rfl := Except.ok.inj hok
    rw [Router.lookup?_value_eq_some_iff hm hb hc, exists_entry_iff_answers h hmade]

lemma route_eq_iff_answers (input : RouteInput) (name : String) :
    router.route input = some name ↔ ∃ path, input.path? = some path ∧ config.Answers name path := by
  rw [Router.route, Router.find?_eq_bind]
  cases hpath : input.path? with
  | none => simp
  | some path =>
    have hc := Router.isCanonicalPath_of_path? hpath
    rw [Option.bind_some, Option.map_map]
    refine (lookup?_eq_iff_answers h hok hc name).trans ⟨fun ha => ⟨path, rfl, ha⟩, ?_⟩
    rintro ⟨path', hp, ha⟩
    rwa [Option.some.inj hp]

end Compiled

theorem compile_validated {config : Config} (hv : config.validate = .ok config) :
    ((∃ router, config.compile = .ok router) ∨
      (∃ conflict, config.compile = .error (.build (.build (.conflict conflict)))) ∨
      ∃ e, config.compile = .error (.build (.build (.capacity e)))) ∧
    ∀ router, config.compile = .ok router → ∀ name,
      (∀ path, IsCanonicalPath path →
        ((router.lookup? path).map (·.value) = some name ↔ config.Answers name path)) ∧
      ∀ input, router.route input = some name ↔ ∃ path, input.path? = some path ∧ config.Answers name path := by
  have h := areRegular_of_problems_eq_nil ((validate_eq_ok_iff config).mp hv)
  refine ⟨compile_cases h, fun router hok name => ⟨fun path hc => ?_, fun input => ?_⟩⟩
  · exact lookup?_eq_iff_answers h hok hc name
  · exact route_eq_iff_answers h hok input name

def braces : Config :=
  { compress := true, routes := [⟨"braces", "/{raw}", true⟩] }

theorem compile_validated_braces : braces.validate = .ok braces ∧ ∃ router, braces.compile = .ok router ∧
    (router.lookup? "/%7Braw%7D".toList).map (·.value) = some "braces" ∧
    (router.lookup? "/raw".toList).map (·.value) ≠ some "braces" := by
  have hv : braces.validate = .ok braces := (validate_eq_ok_iff braces).mpr (by decide +kernel)
  obtain ⟨-, hanswers⟩ := compile_validated hv
  have hparse : Pattern.parse .verbatim "/{raw}" = .ok ⟨[.literal "%7Braw%7D"], "/{raw}"⟩ := by decide +kernel
  obtain ⟨builder, hm, hmade, hcompile⟩ :=
    compile_eq (areRegular_of_problems_eq_nil ((validate_eq_ok_iff braces).mp hv))
  have hroutes : builder.routes = #[(⟨[.literal "%7Braw%7D"], "/{raw}"⟩, "braces")] := by
    obtain ⟨⟨p, name⟩, entries, ⟨hp, rfl⟩, hentries, he⟩ := List.forall₂_cons_left_iff.mp hmade
    obtain rfl := Except.ok.inj (hparse.symm.trans hp)
    rw [List.forall₂_nil_left_iff.mp hentries] at he
    exact Array.toList_inj.mp he
  obtain ⟨router, hb⟩ := Builder.exists_build_of_size_le_one hm (by rw [hroutes]; decide)
    (by rw [Builder.patterns, hroutes]; decide +kernel) ⟨braces.compress⟩
  have hok : braces.compile = .ok router := by
    rw [hcompile, hb]
    rfl
  obtain ⟨hpath, -⟩ := hanswers router hok "braces"
  refine ⟨hv, router, hok, (hpath _ ⟨rfl, by decide +kernel⟩).mpr ⟨_, _, rfl, hparse, by decide +kernel⟩, fun ha => ?_⟩
  obtain ⟨route, p, hfilter, hp, hmatch⟩ := (hpath _ ⟨rfl, by decide +kernel⟩).mp ha
  obtain rfl : ⟨"braces", "/{raw}", true⟩ = route := by simpa [braces] using hfilter
  obtain rfl := Except.ok.inj (hparse.symm.trans hp)
  exact absurd hmatch (by decide +kernel)

end PathRouter.Config
