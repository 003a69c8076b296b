import PathRouter.Proofs.Pattern.Grammar
import PathRouter.Proofs.Percent.Normalization

/-! Patterns and paths spell their segments in one way: the literals of a template are compared with the segments
of normal paths, and they are equal exactly if they spell the same text. -/

namespace PathRouter.Pattern

open Percent

variable {source : String} {p : Pattern} {k : Nat} {raw : List Char} {text : String}

lemma exists_spells_of_literal (h : parse .template source = .ok p)
    (hraw : (Pieces.cut '/' source.toList.tail)[k]? = some raw) (htext : p.segments[k]? = some (.literal text)) :
    ∃ data, Spells raw data ∧ text.toList = encode data := by
  have hd := related_of_getElem? ((parse_eq_ok_iff _ _ _).mp h).2.denotes hraw htext
  generalize hsegment : Segment.literal text = segment at hd
  cases hd with
  | literal _ hs =>
    obtain rfl := Segment.literal.inj hsegment
    exact ⟨_, hs, String.toList_ofList⟩
  | var => cases hsegment

lemma literal_eq_iff {path normal segment spelling : List Char} {j : Nat} (h : parse .template source = .ok p)
    (hraw : (Pieces.cut '/' source.toList.tail)[k]? = some raw) (htext : p.segments[k]? = some (.literal text))
    (hn : normalizePath path = some normal) (hsegment : (Pieces.cut '/' path)[j]? = some segment)
    (hspelling : (Pieces.cut '/' normal)[j]? = some spelling) :
    text.toList = spelling ↔ ∃ data, Spells raw data ∧ Spells segment data := by
  obtain ⟨data, hs, ht⟩ := exists_spells_of_literal h hraw htext
  obtain ⟨data', hs', rfl⟩ := exists_spells_of_getElem? hn hsegment hspelling
  rw [ht, encode_injective.eq_iff]
  constructor
  · rintro rfl
    exact ⟨data, hs, hs'⟩
  · rintro ⟨both, hb, hb'⟩
    rw [hs.unique hb, hs'.unique hb']

/-- Canonical spelling is a complete invariant of what is spelled, in paths and in patterns. -/
theorem canonical_spelling_complete :
    (∀ path, normalizePath path = none ↔ ∃ segment ∈ Pieces.cut '/' path,
      (∃ i, (Utf8.encode segment)[i]? = some 0x25 ∧ ¬ IsEscapeAt (Utf8.encode segment) i) ∨
        ∀ text, unescape (Utf8.encode segment) ≠ Utf8.encode text) ∧
      (∀ path, isCanonicalAsIs path = true → normalizePath path = some path ∧
        ((Pieces.cut '/' path).mapM fun segment => (canonical segment).toOption).map (Pieces.join '/') = some path) ∧
      (∀ path path' normal normal', normalizePath path = some normal → normalizePath path' = some normal' →
        (normal = normal' ↔
          List.Forall₂ (fun segment segment' => ∃ text, Spells segment text ∧ Spells segment' text)
            (Pieces.cut '/' path) (Pieces.cut '/' path'))) ∧
      (∀ path normal, normalizePath path = some normal → normalizePath normal = some normal) ∧
      ∀ (source : String) (p : Pattern) (text : String) (raw path normal segment spelling : List Char) (k j : Nat),
        parse .template source = .ok p →
        (Pieces.cut '/' source.toList.tail)[k]? = some raw → p.segments[k]? = some (.literal text) →
        normalizePath path = some normal → (Pieces.cut '/' path)[j]? = some segment →
        (Pieces.cut '/' normal)[j]? = some spelling →
        (text.toList = spelling ↔ ∃ data, Spells raw data ∧ Spells segment data) := by
  refine ⟨normalizePath_eq_none_iff, fun path has => ?_, fun _ _ _ _ => normal_eq_iff,
    fun _ _ => normalizePath_idempotent, fun _ _ _ _ _ _ _ _ _ _ => literal_eq_iff⟩
  have hquick : normalizePath path = some path := if_pos has
  exact ⟨hquick, normalizePath_eq_map path ▸ hquick⟩

theorem canonical_spelling_complete_escaped :
    parse .template "/%7ba%2fb/c" = .ok ⟨[.literal "%7Ba%2Fb", .literal "c"], "/%7ba%2fb/c"⟩ ∧
      normalizePath "x%/%7ba".toList = none ∧ normalizePath "x/%7B%61%2Fb".toList = some "x/%7Ba%2Fb".toList ∧
      ∃ data, Spells "%7ba%2fb".toList data ∧ Spells "%7B%61%2Fb".toList data := by
  obtain ⟨hnone, -, -, -, hliteral⟩ := canonical_spelling_complete
  have hparse : parse .template "/%7ba%2fb/c" = .ok ⟨[.literal "%7Ba%2Fb", .literal "c"], "/%7ba%2fb/c"⟩ := by
    decide +kernel
  have hnormal : normalizePath "x/%7B%61%2Fb".toList = some "x/%7Ba%2Fb".toList := by decide +kernel
  refine ⟨hparse, (hnone _).mpr ⟨"x%".toList, by decide +kernel, .inl ⟨1, by decide +kernel, ?_⟩⟩, hnormal, ?_⟩
  · rintro ⟨high, _, _, _, hhigh, -⟩
    rw [show (Utf8.encode "x%".toList)[1 + 1]? = none by decide +kernel] at hhigh
    cases hhigh
  · exact (hliteral "/%7ba%2fb/c" _ "%7Ba%2Fb" _ _ _ "%7B%61%2Fb".toList "%7Ba%2Fb".toList 0 1 hparse
      (by decide +kernel) rfl hnormal (by decide +kernel) (by decide +kernel)).mp rfl

end PathRouter.Pattern
