import PathRouter.Proofs.Router.Conflict
import PathRouter.Proofs.Table.Agreement

/-! A router that has been built answers every path with the route whose pattern matches the path, in either
layout. -/

namespace PathRouter

open Automaton

variable {α : Type} {builder : Builder α} {options : BuildOptions} {router : Router α}

lemma Builder.run?_eq_some (hb : builder.build options = .ok router) :
    ∃ states, Automaton.build builder.patterns = .ok states ∧
      ∀ octets, router.engine.run? octets = some (route? states octets) := by
  obtain ⟨states, hstates, hengine, -⟩ := Builder.exists_of_build_eq_ok hb
  exact ⟨states, hstates, Engine.run?_compile (build_wellFormed hstates) hengine⟩

lemma Builder.exists_build (hm : builder.IsMade)
    (hd : ∀ (path : List Char) (i j : Nat) (p q : Pattern), builder.patterns[i]? = some p →
      builder.patterns[j]? = some q → p.matchesPath path = true → q.matchesPath path = true → i = j)
    (hsize : pathOctets.length * stateBound builder.patterns ≤ Table.maxPacked)
    (hroutes : builder.patterns.size ≤ Table.maxPacked) (options : BuildOptions) :
    ∃ router, builder.build options = .ok router := by
  obtain ⟨states, hstates⟩ : ∃ states, Automaton.build builder.patterns = .ok states := by
    cases h : Automaton.build builder.patterns with
    | ok states => exact ⟨states, rfl⟩
    | error conflict =>
      obtain ⟨i, j, p, q, path, hne, hi, hj, -, hpm, hqm⟩ := exists_overlap_of_build_eq_error hm.proper h
      exact absurd (hd path i j p q hi hj hpm hqm) hne
  have hle : pathOctets.length * states.size ≤ Table.maxPacked :=
    Nat.le_trans (Nat.mul_le_mul_left _ (build_size_le hstates)) hsize
  have hholds := Engine.holds_of_le (build_wellFormed hstates) (Nat.max_le.mpr ⟨hle, hroutes⟩) options.compress
  exact exists_build_iff.mpr ⟨states, hstates, Engine.exists_compile_iff.mpr hholds⟩

lemma Builder.exists_build_of_size_le_one (hm : builder.IsMade) (hone : builder.routes.size ≤ 1)
    (hsize : pathOctets.length * stateBound builder.patterns ≤ Table.maxPacked) (options : BuildOptions) :
    ∃ router, builder.build options = .ok router := by
  have hpatterns : builder.patterns.size = builder.routes.size := Array.size_map
  rw [← hpatterns] at hone
  refine exists_build hm (fun _ i j _ _ hi hj _ _ => ?_) hsize (Nat.le_trans hone (by decide)) options
  have hlt := (Array.getElem?_eq_some_iff.mp hi).1
  have hlt' := (Array.getElem?_eq_some_iff.mp hj).1
  omega

lemma Router.run_eq_some_iff (hm : builder.IsMade) (hb : builder.build options = .ok router) {path : List Char}
    (hs : path.head? = some '/') (hv : ∀ b ∈ Utf8.encode path, isPathOctet b = true) (r : Nat) :
    router.engine.run (Utf8.encode path) = some r ↔
      ∃ p, builder.patterns[r]? = some p ∧ p.matchesPath path = true := by
  obtain ⟨states, hstates, hrun⟩ := Builder.run?_eq_some hb
  rw [Engine.run, hrun, Option.join_some]
  exact route?_encode_eq_some_iff hm.proper hstates hs hv r

theorem Router.run_exact (hm : builder.IsMade) (hb : builder.build options = .ok router) {path : List Char}
    (hs : path.head? = some '/') (hv : ∀ b ∈ Utf8.encode path, isPathOctet b = true) :
    router.engine.run? (Utf8.encode path) = some (router.engine.run (Utf8.encode path)) ∧
      ∀ r, router.engine.run (Utf8.encode path) = some r ↔
        ∃ p, builder.patterns[r]? = some p ∧ p.matchesPath path = true := by
  obtain ⟨states, -, hrun⟩ := Builder.run?_eq_some hb
  refine ⟨?_, run_eq_some_iff hm hb hs hv⟩
  rw [Engine.run, hrun, Option.join_some]

def files : Builder Nat :=
  ⟨#[(⟨[.literal ""], "/"⟩, 1), (⟨[.literal "files", .var "rest" (some .star)], "/files/{rest}*"⟩, 2)]⟩

lemma files_isMade : files.IsMade := by
  have hrest : Pattern.parse .template "/files/{rest}*" =
      .ok ⟨[.literal "files", .var "rest" (some .star)], "/files/{rest}*"⟩ := by decide +kernel
  have hroot : Pattern.parse .template "/" = .ok ⟨[.literal ""], "/"⟩ := rfl
  exact (Builder.IsMade.empty.push hroot 1).push hrest 2

lemma files_match_iff {path : List Char} {i : Nat} {p : Pattern} (hi : files.patterns[i]? = some p)
    (hpm : p.matchesPath path = true) : i = if path = ['/'] then 0 else 1 := by
  have hpatterns : files.patterns = #[⟨[.literal ""], "/"⟩,
      ⟨[.literal "files", .var "rest" (some .star)], "/files/{rest}*"⟩] := by simp [files, Builder.patterns]
  rw [hpatterns] at hi
  have hlt : i < 2 := (Array.getElem?_eq_some_iff.mp hi).1
  obtain rfl | rfl : i = 0 ∨ i = 1 := by omega
  · obtain rfl := Option.some.inj hi
    have hr : Pattern.IsRoot ⟨[.literal ""], "/"⟩ := rfl
    rw [if_pos ((hr.matchesPath_iff path).mp hpm)]
  · obtain rfl := Option.some.inj hi
    rw [if_neg]
    rintro rfl
    exact absurd hpm (by decide +kernel)

lemma exists_build_files (options : BuildOptions) : ∃ router, files.build options = .ok router :=
  Builder.exists_build files_isMade
    (fun _ _ _ _ _ hi hj hpm hqm => (files_match_iff hi hpm).trans (files_match_iff hj hqm).symm)
    (by decide +kernel) (by decide +kernel) options

theorem Router.run_exact_files :
    files.IsMade ∧ ∀ options, ∃ router, files.build options = .ok router ∧
      router.engine.run (Utf8.encode "/files/a/b".toList) = some 1 ∧
      router.engine.run (Utf8.encode "/files/".toList) = none := by
  refine ⟨files_isMade, fun options => ?_⟩
  obtain ⟨router, hb⟩ := exists_build_files options
  have hsome := (run_exact files_isMade hb (show "/files/a/b".toList.head? = some '/' from rfl) (by decide +kernel)).2
  have hnone := (run_exact files_isMade hb (show "/files/".toList.head? = some '/' from rfl) (by decide +kernel)).2
  have hmatch : (⟨[.literal "files", .var "rest" (some .star)], "/files/{rest}*"⟩ : Pattern).matchesPath
      "/files/a/b".toList = true := by decide +kernel
  have hfirst : files.patterns[1]? = some ⟨[.literal "files", .var "rest" (some .star)], "/files/{rest}*"⟩ := by
    simp [files, Builder.patterns]
  refine ⟨router, hb, (hsome 1).mpr ⟨_, hfirst, hmatch⟩, ?_⟩
  refine Option.eq_none_iff_forall_ne_some.mpr fun r hr => ?_
  obtain ⟨p, hp, hpm⟩ := (hnone r).mp hr
  have hall : ∀ p ∈ files.patterns.toList, p.matchesPath "/files/".toList = false := by decide +kernel
  rw [hall p (Array.mem_toList_iff.mpr (Array.mem_of_getElem? hp))] at hpm
  cases hpm

end PathRouter
