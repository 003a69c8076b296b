import PathRouter.Proofs.Table.Compilation

/-! Both layouts of an automaton read within their arrays and answer every octet string as the automaton
does, and so alike. -/

namespace PathRouter

open Automaton Table

namespace Engine

lemma run?_compile {states : Array State} {routes : Nat} {compress : Bool} {engine : Engine}
    (hw : WellFormed states routes) (h : compile states routes compress = .ok engine) (path : List UInt8) :
    engine.run? path = some (route? states path) := by
  obtain ⟨-, m, hm, rfl⟩ | ⟨-, m, hm, rfl⟩ := compile_eq_ok h
  · exact Dense.run?_eq hw hm path
  · exact Sparse.run?_eq hw hm path

end Engine

namespace Table

theorem layouts_agree {states : Array State} {routes : Nat} {dense : Dense} {sparse : Sparse}
    (hw : WellFormed states routes) (hd : Dense.build states routes = .ok dense)
    (hs : Sparse.build states routes = .ok sparse) (input : List UInt8) :
    dense.run? input = some (route? states input) ∧ sparse.run? input = some (route? states input) :=
  ⟨Dense.run?_eq hw hd input, Sparse.run?_eq hw hs input⟩

/-- The automaton of the pattern with one variable that is quantified by a plus sign. -/
def repetition : Array State :=
  #[⟨0, letters.map (·, 1), none⟩,
    ⟨1, pathOctets.map fun b => (b, if b = slash then 2 else 1), some 0⟩,
    ⟨2, letters.map (·, 1), none⟩]

theorem layouts_agree_repetition :
    WellFormed repetition 1 ∧ ∃ dense sparse, Dense.build repetition 1 = .ok dense ∧
      Sparse.build repetition 1 = .ok sparse ∧
      dense.run? [0x2f, 0x61, 0x2f, 0x62] = some (some 0) ∧
      sparse.run? [0x2f, 0x61, 0x2f, 0x62] = some (some 0) := by
  have hw : WellFormed repetition 1 := by decide +kernel
  obtain ⟨dense, hd⟩ : ∃ dense, Dense.build repetition 1 = .ok dense := ⟨_, rfl⟩
  obtain ⟨sparse, hs⟩ : ∃ sparse, Sparse.build repetition 1 = .ok sparse := ⟨_, rfl⟩
  have hr : route? repetition [0x2f, 0x61, 0x2f, 0x62] = some 0 := by decide +kernel
  have hh := layouts_agree hw hd hs [0x2f, 0x61, 0x2f, 0x62]
  rw [hr] at hh
  exact ⟨hw, dense, sparse, hd, hs, hh⟩

end Table

end PathRouter
