import Mathlib.Data.List.Count
import PathRouter.Config.Loading
import PathRouter.Proofs.Config.Validation

/-! The report of a configuration: for each route in turn what its name and its pattern are reported for, which
depends on the names before it, and then what the rest is reported for. A name is reported once for each time that it
comes again. -/

namespace PathRouter.Config

inductive Route.Has (earlier : List String) (route : Route) : Problem → Prop
  | emptyName (h : Blank.trim route.name.toList = []) : Has earlier route (.emptyName earlier.length)
  | duplicateName (h : Blank.trim route.name.toList ≠ []) (hm : route.name ∈ earlier) :
      Has earlier route (.duplicateName route.name)
  | invalidPattern {error : Pattern.SyntaxError} (h : Pattern.parse route.mode route.pattern = .error error) :
      Has earlier route (.invalidPattern route.name error)

def Problem.rank : Problem → Nat
  | .emptyName _ => 0
  | .duplicateName _ => 1
  | .invalidPattern .. => 2
  | .invalidLogLevel _ => 3
  | .invalidMetricsAddress _ => 4

def Route.report (earlier : List String) (route : Route) : List Problem :=
  (if Blank.trim route.name.toList = [] then [.emptyName earlier.length] else []) ++
    (if route.name ∈ namesSeen earlier then [.duplicateName route.name] else []) ++ route.patternProblem?.toList

@[simp] lemma mem_namesSeen {earlier : List String} {name : String} :
    name ∈ namesSeen earlier ↔ name ∈ earlier ∧ Blank.trim name.toList ≠ [] :=
  sees_namesSeen earlier name

lemma patternProblem?_eq_some_iff (route : Route) (problem : Problem) : route.patternProblem? = some problem ↔
    ∃ error, Pattern.parse route.mode route.pattern = .error error ∧ problem = .invalidPattern route.name error := by
  rw [Route.patternProblem?]
  cases Pattern.parse route.mode route.pattern <;> simp [eq_comm]

@[simp] lemma mem_report (earlier : List String) (route : Route) (problem : Problem) :
    problem ∈ route.report earlier ↔ route.Has earlier problem := by
  rw [Route.report, List.mem_append, List.mem_append, List.mem_ite_nil_right, List.mem_ite_nil_right,
    List.mem_singleton, List.mem_singleton, mem_namesSeen, Option.mem_toList,
    patternProblem?_eq_some_iff]
  constructor
  · rintro ((⟨hblank, rfl⟩ | ⟨⟨hm, hblank⟩, rfl⟩) | ⟨error, he, rfl⟩)
    · exact .emptyName hblank
    · exact .duplicateName hblank hm
    · exact .invalidPattern he
  · rintro (hblank | ⟨hblank, hm⟩ | @⟨error, he⟩)
    · exact .inl (.inl ⟨hblank, rfl⟩)
    · exact .inl (.inr ⟨⟨hm, hblank⟩, rfl⟩)
    · exact .inr ⟨error, he, rfl⟩

lemma report_sorted (earlier : List String) (route : Route) :
    (route.report earlier).Pairwise (·.rank < ·.rank) := by
  rw [Route.report, Route.patternProblem?]
  split_ifs <;> cases Pattern.parse route.mode route.pattern <;> simp [Problem.rank]

section Routes

variable {seen earlier : List String} (hs : Sees seen earlier)
include hs

lemma routeProblems_cons (route : Route) (rest : List Route) :
    routeProblems seen earlier.length (route :: rest) = route.report earlier ++
      routeProblems (checkName seen earlier.length route.name).2 (earlier ++ [route.name]).length rest := by
  have hname : (checkName seen earlier.length route.name).1.toList ++ route.patternProblem?.toList =
      route.report earlier := by
    rw [Route.report]
    by_cases hblank : Blank.trim route.name.toList = []
    · simp [checkName_of_blank hblank, hblank]
    · by_cases hm : route.name ∈ earlier
      · simp [checkName_of_mem hs hblank hm, hblank, hm]
      · simp [checkName_of_not_mem hs hblank hm, hblank, hm]
  rw [← hname, List.length_append, List.length_singleton]
  rfl

lemma routeProblems_eq_flatMap (routes : List Route) : routeProblems seen earlier.length routes =
    routes.zipIdx.flatMap fun (route, i) => route.report (earlier ++ (routes.take i).map (·.name)) := by
  induction routes generalizing seen earlier with
  | nil => rfl
  | cons route rest ih =>
    rw [routeProblems_cons hs, ih (sees_checkName hs _ _), List.zipIdx_cons, List.flatMap_cons, List.zipIdx_succ,
      List.flatMap_map]
    simp

/-- What has been seen matters only by the names that it answers for. -/
lemma routeProblems_eq_namesSeen (routes : List Route) :
    routeProblems seen earlier.length routes = routeProblems (namesSeen earlier) earlier.length routes := by
  rw [routeProblems_eq_flatMap hs, routeProblems_eq_flatMap (sees_namesSeen earlier)]

lemma routeProblems_append (routes routes' : List Route) :
    routeProblems seen earlier.length (routes ++ routes') = routeProblems seen earlier.length routes ++
      routeProblems (namesSeen (earlier ++ routes.map (·.name))) (earlier ++ routes.map (·.name)).length routes' := by
  induction routes generalizing seen earlier with
  | nil =>
    rw [List.nil_append, List.map_nil, List.append_nil, routeProblems_eq_namesSeen hs]
    rfl
  | cons route rest ih =>
    rw [List.cons_append, routeProblems_cons hs, routeProblems_cons hs, ih (sees_checkName hs _ _), List.map_cons,
      List.append_assoc, List.append_assoc, List.singleton_append]

end Routes

section Duplicates

variable {name : String} {seen earlier : List String}

lemma count_report (name : String) (earlier : List String) (route : Route) :
    (route.report earlier).count (.duplicateName name) =
      if name = route.name ∧ name ∈ namesSeen earlier then 1 else 0 := by
  have hpattern : route.patternProblem?.toList.count (.duplicateName name) = 0 := by
    rw [Route.patternProblem?]
    cases Pattern.parse route.mode route.pattern <;> simp
  have hblank : (if Blank.trim route.name.toList = [] then [Problem.emptyName earlier.length] else []).count
      (.duplicateName name) = 0 := by
    split_ifs <;> simp
  rw [Route.report, List.count_append, List.count_append, hpattern, hblank, Nat.zero_add, Nat.add_zero]
  by_cases hname : name = route.name
  · subst hname
    by_cases hm : route.name ∈ namesSeen earlier <;> simp [hm]
  · by_cases hm : route.name ∈ namesSeen earlier <;> simp [hm, hname, Ne.symm hname]

lemma count_routeProblems_of_blank (hs : Sees seen earlier) (h : Blank.trim name.toList = []) (routes : List Route) :
    (routeProblems seen earlier.length routes).count (.duplicateName name) = 0 := by
  induction routes generalizing seen earlier with
  | nil => rfl
  | cons route rest ih =>
    have hseen : ¬(name = route.name ∧ name ∈ namesSeen earlier) := fun ⟨_, hm⟩ => (mem_namesSeen.mp hm).2 h
    rw [routeProblems_cons hs, List.count_append, count_report, if_neg hseen, ih (sees_checkName hs _ _)]

variable (h : Blank.trim name.toList ≠ [])
include h

lemma count_routeProblems_of_mem (hs : Sees seen earlier) (hm : name ∈ earlier) (routes : List Route) :
    (routeProblems seen earlier.length routes).count (.duplicateName name) = (routes.map (·.name)).count name := by
  induction routes generalizing seen earlier with
  | nil => rfl
  | cons route rest ih =>
    rw [routeProblems_cons hs, List.count_append, count_report, ih (sees_checkName hs _ _) (List.mem_append_left _ hm),
      List.map_cons]
    by_cases hname : name = route.name
    · rw [if_pos ⟨hname, mem_namesSeen.mpr ⟨hm, h⟩⟩, ← hname, List.count_cons_self, Nat.add_comm]
    · rw [if_neg fun he => hname he.1, List.count_cons_of_ne (Ne.symm hname), Nat.zero_add]

/-- The first route of a name is the one that is not reported. -/
lemma count_routeProblems_of_not_mem (hs : Sees seen earlier) (hm : name ∉ earlier) (routes : List Route) :
    (routeProblems seen earlier.length routes).count (.duplicateName name) =
      (routes.map (·.name)).count name - 1 := by
  induction routes generalizing seen earlier with
  | nil => rfl
  | cons route rest ih =>
    rw [routeProblems_cons hs, List.count_append, count_report, if_neg fun he => hm (mem_namesSeen.mp he.2).1,
      Nat.zero_add, List.map_cons]
    by_cases hname : name = route.name
    · subst hname
      rw [List.count_cons_self, Nat.add_sub_cancel]
      exact count_routeProblems_of_mem h (sees_checkName hs _ _)
        (List.mem_append_right _ (List.mem_singleton_self _)) rest
    · have hfresh : name ∉ earlier ++ [route.name] := by simp [hm, hname]
      rw [ih (sees_checkName hs _ _) hfresh, List.count_cons_of_ne (Ne.symm hname)]

end Duplicates

lemma observability_problems (o : Observability) : o.problems =
    (if LogFilter.isFilter o.logLevel.toList = true then [] else [.invalidLogLevel o.logLevel]) ++
      if o.metricsEnabled = true ∧ Address.Socket.isAddress o.metricsAddress.toList = false then
        [.invalidMetricsAddress o.metricsAddress]
      else [] := by
  simp only [Observability.problems, Bool.and_eq_true, Bool.not_eq_true']

lemma count_observability (name : String) (o : Observability) : o.problems.count (.duplicateName name) = 0 := by
  rw [observability_problems, List.count_append]
  split <;> split <;> simp

lemma count_problems (config : Config) (name : String) : config.problems.count (.duplicateName name) =
    if Blank.trim name.toList = [] then 0 else (config.routes.map (·.name)).count name - 1 := by
  rw [problems, List.count_append, count_observability, Nat.add_zero]
  split_ifs with hblank
  · exact count_routeProblems_of_blank (sees_namesSeen []) hblank config.routes
  · exact count_routeProblems_of_not_mem hblank (sees_namesSeen []) List.not_mem_nil config.routes

theorem problems_exact (config : Config) :
    config.problems =
      (config.routes.zipIdx.flatMap fun (route, i) => route.report ((config.routes.take i).map (·.name))) ++
        ((if LogFilter.isFilter config.observability.logLevel.toList = true then []
          else [.invalidLogLevel config.observability.logLevel]) ++
        if config.observability.metricsEnabled = true ∧
            Address.Socket.isAddress config.observability.metricsAddress.toList = false then
          [.invalidMetricsAddress config.observability.metricsAddress]
        else []) ∧
    (∀ earlier (route : Route), (∀ problem, problem ∈ route.report earlier ↔ route.Has earlier problem) ∧
      (route.report earlier).Pairwise (·.rank < ·.rank)) ∧
    (∀ before route after, routeProblems [] 0 (before ++ route :: after) =
      routeProblems [] 0 before ++ route.report (before.map (·.name)) ++
        routeProblems (namesSeen (before.map (·.name) ++ [route.name])) (before.length + 1) after) ∧
    (∀ name, config.problems.count (.duplicateName name) =
      if Blank.trim name.toList = [] then 0 else (config.routes.map (·.name)).count name - 1) ∧
    config.validate = if config.problems = [] then .ok config else .error (.invalid config.problems) := by
  refine ⟨?listed, fun earlier route => ⟨mem_report earlier route, report_sorted earlier route⟩,
    fun before route after => ?split, count_problems config, ?verdict⟩
  case listed =>
    rw [problems, observability_problems]
    exact congrArg (· ++ _) (routeProblems_eq_flatMap (sees_namesSeen []) config.routes)
  case split =>
    have hsplit := routeProblems_append (sees_namesSeen []) before (route :: after)
    rw [routeProblems_cons (sees_namesSeen _), routeProblems_eq_namesSeen (sees_checkName (sees_namesSeen _) _ _),
      ← List.append_assoc] at hsplit
    simpa [namesSeen] using hsplit
  case verdict =>
    rw [validate]
    cases config.problems <;> rfl

/-- A name that is used again and a pattern that cannot be read are both reported, and the name still counts. -/
example : problems { routes := [⟨"a", "/a", false⟩, ⟨"a", "b", false⟩, ⟨" ", "/c", false⟩, ⟨"a", "/\x7bd", true⟩] } =
    [.duplicateName "a", .invalidPattern "a" ⟨.missingLeadingSlash, 0, "b"⟩, .emptyName 2, .duplicateName "a"] := by
  decide +kernel

end PathRouter.Config
