import PathRouter.Proofs.Pattern.Parser
import PathRouter.Router.Builder

/-! Builders to which patterns have been added one after the other, and what a router that is built has of
them. -/

namespace PathRouter

namespace Builder

variable {α : Type} {builder builder' : Builder α}

inductive IsMade : Builder α → Prop
  | empty : IsMade Builder.empty
  | add {builder builder' : Builder α} {mode : Pattern.Mode} {pattern : String} {value : α}
      (h : IsMade builder) (ha : builder.add mode pattern value = .ok builder') : IsMade builder'

lemma add_of_parse {mode : Pattern.Mode} {pattern : String} {p : Pattern} (hp : Pattern.parse mode pattern = .ok p)
    (builder : Builder α) (value : α) :
    builder.add mode pattern value = .ok ⟨builder.routes.push (p, value)⟩ := by
  rw [add, hp]
  rfl

lemma IsMade.push {mode : Pattern.Mode} {pattern : String} {p : Pattern} (h : builder.IsMade)
    (hp : Pattern.parse mode pattern = .ok p) (value : α) : IsMade ⟨builder.routes.push (p, value)⟩ :=
  h.add (add_of_parse hp builder value)

lemma patterns_add {mode : Pattern.Mode} {pattern : String} {value : α}
    (ha : builder.add mode pattern value = .ok builder') :
    ∃ p, Pattern.parse mode pattern = .ok p ∧ builder'.patterns = builder.patterns.push p := by
  obtain ⟨p, hp, rfl⟩ := exists_of_map_eq_ok ha
  exact ⟨p, hp, Array.map_push⟩

lemma IsMade.isRead (h : builder.IsMade) : ∀ p ∈ builder.patterns.toList, p.IsRead := by
  induction h with
  | empty => simp [Builder.empty, patterns]
  | add _ ha ih =>
    obtain ⟨p, hp, hpatterns⟩ := patterns_add ha
    rw [hpatterns, Array.toList_push]
    intro q hq
    rcases List.mem_append.mp hq with hq | hq
    · exact ih q hq
    · obtain rfl := List.mem_singleton.mp hq
      have hsource := ((Pattern.parse_eq_ok_iff _ _ _).mp hp).1
      exact ⟨_, hsource.symm ▸ hp⟩

lemma getElem?_patterns {r : Nat} {p : Pattern} {value : α} (hr : builder.routes[r]? = some (p, value)) :
    builder.patterns[r]? = some p := by
  rw [patterns, Array.getElem?_map, hr, Option.map_some]

lemma IsMade.proper (h : builder.IsMade) : ∀ p ∈ builder.patterns.toList, p.Proper :=
  fun p hp => (h.isRead p hp).proper

lemma IsMade.proper_of_route (h : builder.IsMade) {r : Nat} {p : Pattern} {value : α}
    (hr : builder.routes[r]? = some (p, value)) : p.Proper :=
  h.proper p (Array.mem_toList_iff.mpr (Array.mem_of_getElem? (getElem?_patterns hr)))

lemma exists_of_build_eq_ok {options : BuildOptions} {router : Router α} (h : builder.build options = .ok router) :
    ∃ states, Automaton.build builder.patterns = .ok states ∧
      Engine.compile states builder.patterns.size options.compress = .ok router.engine ∧
      router.routes = builder.routes.map fun route => ⟨route.2, layout route.1⟩ := by
  rw [build] at h
  cases hstates : Automaton.build builder.patterns with
  | error conflict =>
    rw [hstates] at h
    cases h
  | ok states =>
    simp only [hstates] at h
    cases hengine : Engine.compile states builder.routes.size options.compress with
    | error e =>
      rw [hengine] at h
      cases h
    | ok engine =>
      rw [hengine] at h
      obtain rfl := Except.ok.inj h
      refine ⟨states, rfl, ?_, rfl⟩
      rwa [patterns, Array.size_map]

lemma exists_build_iff {options : BuildOptions} : (∃ router, builder.build options = .ok router) ↔
    ∃ states, Automaton.build builder.patterns = .ok states ∧
      ∃ engine, Engine.compile states builder.patterns.size options.compress = .ok engine := by
  constructor
  · rintro ⟨router, hb⟩
    obtain ⟨states, hstates, hengine, -⟩ := exists_of_build_eq_ok hb
    exact ⟨states, hstates, router.engine, hengine⟩
  · rintro ⟨states, hstates, engine, hengine⟩
    rw [patterns, Array.size_map] at hengine
    refine ⟨⟨engine, builder.routes.map fun route => ⟨route.2, layout route.1⟩⟩, ?_⟩
    simp only [build, hstates, hengine]

end Builder

end PathRouter
