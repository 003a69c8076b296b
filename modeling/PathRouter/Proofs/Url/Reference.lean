import PathRouter.Proofs.Url.Path
import PathRouter.Url

/-! An absolute path is read alike as a reference to a site and behind the address of a site, with any query or
fragment after it. -/

namespace PathRouter

open Percent

namespace Blank

lemma dropWhile_append_of_kept {p : Char → Bool} {text : List Char} (hne : text ≠ []) (hp : ∀ c ∈ text, p c = false)
    (rest : List Char) : (text ++ rest).dropWhile p = text ++ rest := by
  obtain ⟨c, others, rfl⟩ := List.exists_cons_of_ne_nil hne
  rw [List.cons_append, List.dropWhile_cons_of_neg (by rw [hp c List.mem_cons_self]; exact Bool.false_ne_true)]

lemma trimBy_append {p : Char → Bool} {text : List Char} (hne : text ≠ []) (hp : ∀ c ∈ text, p c = false)
    (rest : List Char) : trimBy p (text ++ rest) = text ++ (rest.reverse.dropWhile p).reverse := by
  have hend : text.reverse.dropWhile p = text.reverse := by
    have hkept := dropWhile_append_of_kept (fun h => hne (List.reverse_eq_nil_iff.mp h))
      (fun c hc => hp c (List.mem_reverse.mp hc)) []
    rwa [List.append_nil] at hkept
  rw [trimBy, dropWhile_append_of_kept hne hp, List.reverse_append, List.dropWhile_append, hend]
  split_ifs with hempty
  · rw [List.isEmpty_iff.mp hempty, List.reverse_reverse, List.reverse_nil, List.append_nil]
  · rw [List.reverse_append, List.reverse_reverse]

end Blank

namespace Url

lemma IsTail.of_isPrefix {tail tail' : List Char} (h : IsTail tail) (hp : tail' <+: tail) : IsTail tail' := by
  obtain ⟨rest, rfl⟩ := hp
  intro c hc
  obtain ⟨others, rfl⟩ := List.head?_eq_some_iff.mp hc
  exact h c rfl

lemma not_le_blank_of_isVisible {c : Char} (h : isVisible c = true) : decide (c ≤ ' ') = false := by
  rw [isVisible, Bool.and_eq_true, decide_eq_true_eq, decide_eq_true_eq] at h
  rw [decide_eq_false_iff_not]
  exact fun hle => absurd (Char.le_trans h.1 hle) (by decide)

lemma exists_trimBy {text tail : List Char} (hv : ∀ c ∈ text, isVisible c = true) (hne : text ≠ [])
    (ht : IsTail tail) : ∃ tail', IsTail tail' ∧ Blank.trimBy (· ≤ ' ') (text ++ tail) = text ++ tail' := by
  -- Trimming takes away nothing but the end of the tail.
  refine ⟨_, ht.of_isPrefix ?_, Blank.trimBy_append hne (fun c hc => not_le_blank_of_isVisible (hv c hc)) tail⟩
  have hs := List.reverse_prefix.mpr (List.dropWhile_suffix (l := tail.reverse) (· ≤ ' '))
  rwa [List.reverse_reverse] at hs

lemma leadingSlashes_of_head {text : List Char}
    (h : ∀ c, text.head? = some c → isBreak c = false ∧ c ≠ '/' ∧ c ≠ '\\') : leadingSlashes text = (0, text) := by
  cases text with
  | nil => rfl
  | cons c rest =>
    obtain ⟨hb, hs, hr⟩ := h c rfl
    simp [leadingSlashes, hb, hs, hr]

lemma not_slash_of_endsPath {c : Char} (h : endsPath c = true) : isBreak c = false ∧ c ≠ '/' ∧ c ≠ '\\' := by
  rw [endsPath, Bool.or_eq_true, decide_eq_true_eq, decide_eq_true_eq] at h
  rcases h with rfl | rfl <;> decide

lemma isHost_localhost : Host.isHost .web "localhost".toList = true := by decide +kernel

lemma afterAuthority?_localhost (rest : List Char) :
    afterAuthority? .web ("localhost".toList ++ '/' :: rest) = some ('/' :: rest) := by
  have hauthority : ("localhost".toList ++ '/' :: rest).takeWhile (fun c => !Kind.web.endsAuthority c) =
      "localhost".toList := rfl
  have huser : afterUser? .web ("localhost".toList ++ '/' :: rest) =
      some (false, "localhost".toList ++ '/' :: rest) := by
    rw [afterUser?, hauthority]
    exact if_neg (by decide)
  have hhost : hostText .web false ("localhost".toList ++ '/' :: rest) = "localhost".toList := rfl
  have hclean : clean "localhost".toList = "localhost".toList := rfl
  simp only [afterAuthority?, huser, Option.bind_eq_bind, Option.bind_some, hhost, hclean, isHost_localhost, if_true]
  rfl

variable {body tail : List Char} (hb : ∀ c ∈ body, isPathChar c = true) (ht : IsTail tail)
include hb ht

lemma head?_path {c : Char} (hs : body.head? ≠ some '/') (h : (body ++ tail).head? = some c) :
    isBreak c = false ∧ c ≠ '/' ∧ c ≠ '\\' := by
  cases body with
  | nil => exact not_slash_of_endsPath (ht c h)
  | cons d rest =>
    obtain rfl : d = c := Option.some.inj h
    obtain ⟨hv, -, hr⟩ := (isPathChar_iff d).mp (hb d List.mem_cons_self)
    exact ⟨not_isBreak_of_isVisible hv, fun he => hs (congrArg some he), hr⟩

lemma parse?_absolute (hs : body.head? ≠ some '/') (site : List Char) : ∃ tail', IsTail tail' ∧
    parse? (some site) ('/' :: body ++ tail) = some ⟨some (Path.ofText .web ('/' :: body ++ tail'))⟩ := by
  have hv : ∀ c ∈ '/' :: body, isVisible c = true :=
    List.forall_mem_cons.mpr ⟨by decide, fun c hc => ((isPathChar_iff c).mp (hb c hc)).1⟩
  obtain ⟨tail', ht', htrim⟩ := exists_trimBy hv (List.cons_ne_nil _ _) ht
  have hscheme : scheme? ('/' :: body ++ tail') = none := rfl
  have hslashes : leadingSlashes ('/' :: body ++ tail') = (1, body ++ tail') := by
    have hrest := leadingSlashes_of_head fun c => head?_path hb ht' (c := c) hs
    simp [leadingSlashes, isBreak, hrest]
  refine ⟨tail', ht', ?_⟩
  rw [parse?, htrim]
  simp only [hscheme, Option.isSome_some, if_true, ofReference?, hslashes]
  rw [if_neg (by decide)]

variable (hd : ∀ segment ∈ Pieces.cut '/' body, Path.isDot (Path.escape segment) = false ∧
  Path.isDoubleDot (Path.escape segment) = false)
include hd

lemma parse?_reference (hs : body.head? ≠ some '/') (site : List Char) :
    parse? (some site) ('/' :: body ++ tail) = some ⟨some (Path.escapeAll body)⟩ := by
  obtain ⟨tail', ht', hparse⟩ := parse?_absolute hb ht hs site
  rw [hparse, Path.ofText_append hb ht' hd]

lemma parse?_address :
    parse? none ("http://localhost".toList ++ ('/' :: body ++ tail)) = some ⟨some (Path.escapeAll body)⟩ := by
  have hsite : ∀ c ∈ "http://localhost/".toList, isVisible c = true := List.all_eq_true.mp (by decide +kernel)
  have hv : ∀ c ∈ "http://localhost/".toList ++ body, isVisible c = true :=
    List.forall_mem_append.mpr ⟨hsite, fun c hc => ((isPathChar_iff c).mp (hb c hc)).1⟩
  obtain ⟨tail', ht', htrim⟩ := exists_trimBy hv (List.cons_ne_nil _ _) ht
  have hscheme : scheme? ("http://localhost/".toList ++ body ++ tail') =
      some ("http".toList, "//localhost/".toList ++ body ++ tail') := rfl
  have hslashes : leadingSlashes ("//localhost/".toList ++ body ++ tail') =
      (2, "localhost".toList ++ '/' :: (body ++ tail')) := rfl
  have hkind : Kind.ofScheme "http".toList = .web := by decide
  change parse? none ("http://localhost/".toList ++ body ++ tail) = _
  rw [parse?, htrim]
  simp only [hscheme, hkind, hslashes]
  rw [if_neg (by decide)]
  simp only [ofAuthority?, afterAuthority?_localhost, Option.bind_eq_bind, Option.bind_some]
  exact congrArg (fun path => some (Url.mk (some path))) (Path.ofText_append hb ht' hd)

end Url

end PathRouter
