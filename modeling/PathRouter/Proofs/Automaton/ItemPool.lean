import Mathlib.Data.Set.Basic
import PathRouter.Automaton.Construction

/-! Numbered items. A pool numbers its items densely and each once, so an increasing list of numbers
stands for one set of items, and no two lists stand for the same. -/

namespace PathRouter.Automaton

@[simp] lemma mem_insertNumber (n m : Nat) (numbers : List Nat) :
    m ∈ insertNumber n numbers ↔ m = n ∨ m ∈ numbers := by
  induction numbers with
  | nil => simp [insertNumber]
  | cons k rest ih =>
    rw [insertNumber]
    split_ifs with hlt he
    · simp
    · subst he
      simp
    · simp only [List.mem_cons, ih]
      exact or_left_comm

lemma insertNumber_sorted {n : Nat} {numbers : List Nat} (h : numbers.Pairwise (· < ·)) :
    (insertNumber n numbers).Pairwise (· < ·) := by
  induction numbers with
  | nil => simp [insertNumber]
  | cons k rest ih =>
    have hr := List.pairwise_cons.mp h
    rw [insertNumber]
    split_ifs with hlt he
    · exact List.pairwise_cons.mpr ⟨List.forall_mem_cons.mpr
        ⟨hlt, fun m hm => Nat.lt_trans hlt (hr.1 m hm)⟩, h⟩
    · exact h
    · refine List.pairwise_cons.mpr ⟨fun m hm => ?_, ih hr.2⟩
      rcases (mem_insertNumber n m rest).mp hm with rfl | hm
      · omega
      · exact hr.1 m hm

@[simp] lemma mem_numberSet (n : Nat) (numbers : List Nat) : n ∈ numberSet numbers ↔ n ∈ numbers := by
  induction numbers with
  | nil => simp [numberSet]
  | cons m rest ih =>
    simp only [numberSet, List.foldr_cons, List.mem_cons] at *
    rw [mem_insertNumber, ih]

lemma numberSet_sorted (numbers : List Nat) : (numberSet numbers).Pairwise (· < ·) := by
  induction numbers with
  | nil => exact List.Pairwise.nil
  | cons n rest ih => exact insertNumber_sorted ih

lemma eq_of_pairwise_of_mem {α : Type} {r : α → α → Prop} (hr : ∀ {a b}, r a b → ¬ r b a) {l₁ l₂ : List α}
    (h₁ : l₁.Pairwise r) (h₂ : l₂.Pairwise r) (hm : ∀ a, a ∈ l₁ ↔ a ∈ l₂) : l₁ = l₂ := by
  have hne : ∀ {a b}, r a b → a ≠ b := by
    rintro a _ h rfl
    exact hr h h
  have hp : l₁.Perm l₂ := (List.perm_ext_iff_of_nodup (h₁.imp hne) (h₂.imp hne)).mpr hm
  exact hp.eq_of_pairwise (fun a b _ _ hab hba => absurd hba (hr hab)) h₁ h₂

lemma eq_of_sorted_of_mem {l₁ l₂ : List Nat} (h₁ : l₁.Pairwise (· < ·)) (h₂ : l₂.Pairwise (· < ·))
    (hm : ∀ n, n ∈ l₁ ↔ n ∈ l₂) : l₁ = l₂ :=
  eq_of_pairwise_of_mem Nat.lt_asymm h₁ h₂ hm

namespace ItemPool

def Consistent (pool : ItemPool) : Prop :=
  ∀ (item : Item) (n : Nat), pool.numbers[item]? = some n ↔ pool.items[n]? = some item

def Extends (pool pool' : ItemPool) : Prop :=
  ∀ (n : Nat) (item : Item), pool.items[n]? = some item → pool'.items[n]? = some item

lemma Extends.refl (pool : ItemPool) : pool.Extends pool :=
  fun _ _ h => h

lemma Extends.trans {pool pool' pool'' : ItemPool} (h : pool.Extends pool') (h' : pool'.Extends pool'') :
    pool.Extends pool'' :=
  fun n item hn => h' n item (h n item hn)

lemma empty_consistent : empty.Consistent := by
  intro item n
  simp [empty]

variable {pool : ItemPool}

lemma Consistent.inj (h : pool.Consistent) {item : Item} {m n : Nat} (hm : pool.items[m]? = some item)
    (hn : pool.items[n]? = some item) : m = n :=
  Option.some.inj (((h item m).mpr hm).symm.trans ((h item n).mpr hn))

lemma intern_spec (h : pool.Consistent) (item : Item) :
    (pool.intern item).2.Consistent ∧ pool.Extends (pool.intern item).2 ∧
      (pool.intern item).2.items[(pool.intern item).1]? = some item := by
  rw [intern]
  cases hn : pool.numbers[item]? with
  | some n => exact ⟨h, Extends.refl pool, (h item n).mp hn⟩
  | none =>
    have hfresh : ∀ n, pool.items[n]? ≠ some item := fun n hi => by
      rw [(h item n).mpr hi] at hn
      cases hn
    refine ⟨fun other n => ?_, fun n other hi => ?_, by simp⟩
    · rw [Std.HashMap.getElem?_insert, Array.getElem?_push]
      by_cases he : item = other
      · subst he
        simp only [beq_self_eq_true, if_true]
        constructor
        · intro hs
          rw [if_pos (Option.some.inj hs).symm]
        · intro hs
          split_ifs at hs with hsize
          · exact congrArg some hsize.symm
          · exact absurd hs (hfresh n)
      · have hb : (item == other) = false := by simpa using he
        rw [hb, if_neg (by simp), h other n]
        split_ifs with hsize
        · subst hsize
          simp [he]
        · exact Iff.rfl
    · have hlt := (Array.getElem?_eq_some_iff.mp hi).1
      show (pool.items.push item)[n]? = some other
      rw [Array.getElem?_push_lt hlt]
      rw [Array.getElem?_eq_getElem hlt] at hi
      exact hi

lemma internAll_spec (h : pool.Consistent) (items : List Item) :
    (pool.internAll items).2.Consistent ∧ pool.Extends (pool.internAll items).2 ∧
      (pool.internAll items).1.map ((pool.internAll items).2.items[·]?) = items.map some := by
  induction items generalizing pool with
  | nil => exact ⟨h, Extends.refl pool, rfl⟩
  | cons item rest ih =>
    obtain ⟨hc, he, hn⟩ := intern_spec h item
    obtain ⟨hc', he', hn'⟩ := ih hc
    refine ⟨hc', he.trans he', ?_⟩
    simp only [internAll, List.map_cons]
    rw [he' _ _ hn, hn']

lemma mem_intern {item other : Item} (h : other ∈ (pool.intern item).2.items) : other ∈ pool.items ∨ other = item := by
  rw [intern] at h
  split at h
  · exact .inl h
  · exact Array.mem_push.mp h

lemma mem_internAll {items : List Item} {other : Item} (h : other ∈ (pool.internAll items).2.items) :
    other ∈ pool.items ∨ other ∈ items := by
  induction items generalizing pool with
  | nil => exact .inl h
  | cons item rest ih =>
    rcases ih h with h | h
    · rcases mem_intern h with h | rfl
      · exact .inl h
      · exact .inr List.mem_cons_self
    · exact .inr (List.mem_cons_of_mem _ h)

lemma Consistent.nodup (h : pool.Consistent) : pool.items.toList.Nodup := by
  refine List.pairwise_iff_getElem.mpr fun i j hi hj hlt he => ?_
  rw [Array.getElem_toList, Array.getElem_toList] at he
  exact absurd (h.inj (Array.getElem?_eq_getElem hi) (he ▸ Array.getElem?_eq_getElem hj)) (Nat.ne_of_lt hlt)

structure Names (pool : ItemPool) (numbers : List Nat) (X : Set Item) : Prop where
  sorted : numbers.Pairwise (· < ·)
  known : ∀ n ∈ numbers, ∃ item ∈ X, pool.items[n]? = some item
  named : ∀ item ∈ X, ∃ n ∈ numbers, pool.items[n]? = some item

namespace Names

variable {pool' : ItemPool} {l₁ l₂ : List Nat} {X Y : Set Item}

lemma mono (h : pool.Names l₁ X) (he : pool.Extends pool') : pool'.Names l₁ X where
  sorted := h.sorted
  known n hn := by
    obtain ⟨item, hx, hi⟩ := h.known n hn
    exact ⟨item, hx, he n item hi⟩
  named item hx := by
    obtain ⟨n, hn, hi⟩ := h.named item hx
    exact ⟨n, hn, he n item hi⟩

lemma unique (hc : pool.Consistent) (h₁ : pool.Names l₁ X) (h₂ : pool.Names l₂ X) : l₁ = l₂ := by
  have hsub : ∀ {l l' : List Nat}, pool.Names l X → pool.Names l' X → ∀ n ∈ l, n ∈ l' := by
    intro l l' h h' n hn
    obtain ⟨item, hx, hi⟩ := h.known n hn
    obtain ⟨m, hm, hi'⟩ := h'.named item hx
    exact hc.inj hi' hi ▸ hm
  exact eq_of_sorted_of_mem h₁.sorted h₂.sorted fun n => ⟨hsub h₁ h₂ n, hsub h₂ h₁ n⟩

lemma set_unique (hX : pool.Names l₁ X) (hY : pool.Names l₁ Y) : X = Y := by
  have hsub : ∀ {X Y : Set Item}, pool.Names l₁ X → pool.Names l₁ Y → X ⊆ Y := by
    intro X Y hX hY item hx
    obtain ⟨n, hn, hi⟩ := hX.named item hx
    obtain ⟨item', hy, hi'⟩ := hY.known n hn
    rw [hi] at hi'
    exact Option.some.inj hi' ▸ hy
  exact Set.Subset.antisymm (hsub hX hY) (hsub hY hX)

lemma eq_nil_iff (h : pool.Names l₁ X) : l₁ = [] ↔ ¬ X.Nonempty := by
  constructor
  · rintro rfl ⟨item, hx⟩
    obtain ⟨n, hn, -⟩ := h.named item hx
    cases hn
  · intro hX
    refine List.eq_nil_iff_forall_not_mem.mpr fun n hn => hX ?_
    obtain ⟨item, hx, -⟩ := h.known n hn
    exact ⟨item, hx⟩

end Names

lemma names_numberSet {numbers : List Nat} {items : List Item}
    (h : numbers.map (pool.items[·]?) = items.map some) : pool.Names (numberSet numbers) {item | item ∈ items} where
  sorted := numberSet_sorted numbers
  known n hn := by
    have hm : pool.items[n]? ∈ items.map some :=
      h ▸ List.mem_map_of_mem ((mem_numberSet n numbers).mp hn)
    obtain ⟨item, hi, he⟩ := List.mem_map.mp hm
    exact ⟨item, hi, he.symm⟩
  named item hi := by
    have hm : some item ∈ numbers.map (pool.items[·]?) := h ▸ List.mem_map_of_mem hi
    obtain ⟨n, hn, he⟩ := List.mem_map.mp hm
    exact ⟨n, (mem_numberSet n numbers).mpr hn, he⟩

end ItemPool

end PathRouter.Automaton
