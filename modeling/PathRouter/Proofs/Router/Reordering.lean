import PathRouter.Proofs.Automaton.Reordering
import PathRouter.Proofs.Router.Exactness
import PathRouter.Proofs.Router.Lookup
import PathRouter.Proofs.Table.Renumbering

/-! The order in which routes are added. In another order the same routes are accepted or refused, their automaton and
its tables have the same sizes, and every input is answered alike. -/

namespace PathRouter

open Automaton

variable {α : Type} {σ : Equiv.Perm Nat} {builder builder' : Builder α} {options : BuildOptions}
  {router router' : Router α}

section Reordered

variable (h : Reorders σ builder.routes builder'.routes)
include h

lemma Builder.reorders_patterns : Reorders σ builder.patterns builder'.patterns :=
  h.map _

lemma Builder.exists_build_of_reorders (hb : ∃ router, builder.build options = .ok router) :
    ∃ router, builder'.build options = .ok router := by
  have hpatterns := reorders_patterns h
  obtain ⟨states, hstates, hengine⟩ := exists_build_iff.mp hb
  obtain ⟨states', hstates'⟩ := Automaton.exists_build_of_reorders hpatterns.symm ⟨states, hstates⟩
  obtain ⟨f, hf⟩ := exists_isIsomorphism_of_reorders hpatterns hstates hstates'
  rw [Engine.exists_compile_iff_of_isIsomorphism hf (build_wellFormed hstates)
    (wellFormed_of_reorders hpatterns hstates'), ← hpatterns.size_eq] at hengine
  exact exists_build_iff.mpr ⟨states', hstates', hengine⟩

variable (hb : builder.build options = .ok router) (hb' : builder'.build options = .ok router')
include hb hb'

lemma Router.sameMeasures_of_reorders : router.engine.SameMeasures router'.engine := by
  have hpatterns := Builder.reorders_patterns h
  obtain ⟨states, hstates, hengine, -⟩ := Builder.exists_of_build_eq_ok hb
  obtain ⟨states', hstates', hengine', -⟩ := Builder.exists_of_build_eq_ok hb'
  obtain ⟨f, hf⟩ := exists_isIsomorphism_of_reorders hpatterns hstates hstates'
  rw [hpatterns.size_eq] at hengine'
  exact Engine.sameMeasures_of_isIsomorphism hf (build_wellFormed hstates) (wellFormed_of_reorders hpatterns hstates')
    hengine hengine'

lemma Router.run_of_reorders (octets : List UInt8) :
    router'.engine.run octets = (router.engine.run octets).map σ := by
  obtain ⟨states, hstates, hrun⟩ := Builder.run?_eq_some hb
  obtain ⟨states', hstates', hrun'⟩ := Builder.run?_eq_some hb'
  obtain ⟨f, hf⟩ := exists_isIsomorphism_of_reorders (Builder.reorders_patterns h) hstates hstates'
  rw [Engine.run, Engine.run, hrun, hrun', Option.join_some, Option.join_some, hf.route?_eq (build_wellFormed hstates)]

lemma Router.lookup?_of_reorders (path : List Char) : router'.lookup? path = router.lookup? path := by
  obtain ⟨-, -, -, hroutes⟩ := Builder.exists_of_build_eq_ok hb
  obtain ⟨-, -, -, hroutes'⟩ := Builder.exists_of_build_eq_ok hb'
  have hentries : Reorders σ router.routes router'.routes := by
    rw [hroutes, hroutes']
    exact h.map _
  rw [lookup?, lookup?, run_of_reorders h hb hb', Option.bind_map]
  exact congrArg _ (funext hentries)

lemma Router.find?_of_reorders (input : RouteInput) : router'.find? input = router.find? input := by
  rw [find?_eq_bind, find?_eq_bind, funext (lookup?_of_reorders h hb hb')]

end Reordered

/-- A permutation of the routes permutes their numbers, and whichever permutation of the numbers it is taken for, the
two automata are isomorphic along it. -/
theorem Builder.build_reordered (hperm : builder.routes.toList.Perm builder'.routes.toList) :
    (∃ σ, Reorders σ builder.routes builder'.routes) ∧ ∀ σ, Reorders σ builder.routes builder'.routes →
    ((∃ states, Automaton.build builder.patterns = .ok states) ↔
      ∃ states', Automaton.build builder'.patterns = .ok states') ∧
    (∀ states states', Automaton.build builder.patterns = .ok states → Automaton.build builder'.patterns = .ok states' →
      states'.size = states.size ∧ ∃ f, IsIsomorphism f σ states states') ∧
    ∀ options, ((∃ router, builder.build options = .ok router) ↔ ∃ router', builder'.build options = .ok router') ∧
      ∀ router router', builder.build options = .ok router → builder'.build options = .ok router' →
        router.engine.SameMeasures router'.engine ∧
        ∀ input, router'.route input = router.route input ∧
          ∀ bound, router'.routeWith input bound = router.routeWith input bound := by
  refine ⟨Reorders.exists_of_perm hperm, fun σ h => ?_⟩
  have hpatterns := reorders_patterns h
  refine ⟨⟨Automaton.exists_build_of_reorders hpatterns.symm, Automaton.exists_build_of_reorders hpatterns⟩, ?_, ?_⟩
  · intro states states' hstates hstates'
    obtain ⟨f, hf⟩ := exists_isIsomorphism_of_reorders hpatterns hstates hstates'
    exact ⟨hf.size_eq, f, hf⟩
  · intro options
    refine ⟨⟨exists_build_of_reorders h, exists_build_of_reorders h.symm⟩, fun router router' hb hb' => ?_⟩
    refine ⟨Router.sameMeasures_of_reorders h hb hb', fun input => ⟨?_, fun bound => ?_⟩⟩
    · rw [Router.route, Router.route, Router.find?_of_reorders h hb hb']
    · rw [Router.routeWith, Router.routeWith, Router.find?_of_reorders h hb hb']

def filesReversed : Builder Nat :=
  ⟨#[(⟨[.literal "files", .var "rest" (some .star)], "/files/{rest}*"⟩, 2), (⟨[.literal ""], "/"⟩, 1)]⟩

theorem Builder.build_reordered_files : files.routes.toList.Perm filesReversed.routes.toList ∧
    Reorders (Equiv.swap 0 1) files.routes filesReversed.routes ∧ ∀ options, ∃ router router',
      files.build options = .ok router ∧ filesReversed.build options = .ok router' ∧
        ∀ input, router'.route input = router.route input := by
  have hperm : files.routes.toList.Perm filesReversed.routes.toList := .swap _ _ []
  have h : Reorders (Equiv.swap 0 1) files.routes filesReversed.routes := fun i => by
    rcases i with _ | _ | i
    · rfl
    · rfl
    · rw [Equiv.swap_apply_of_ne_of_ne (by omega) (by omega)]
      rfl
  obtain ⟨-, -, hbuild⟩ := (build_reordered hperm).2 _ h
  refine ⟨hperm, h, fun options => ?_⟩
  obtain ⟨hiff, hroute⟩ := hbuild options
  obtain ⟨router, hb⟩ := exists_build_files options
  obtain ⟨router', hb'⟩ := hiff.mp ⟨router, hb⟩
  exact ⟨router, router', hb, hb', fun input => ((hroute router router' hb hb').2 input).1⟩

end PathRouter
