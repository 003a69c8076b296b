import PathRouter.Proofs.Pattern.Grammar

/-! A verbatim pattern is the template in which each of its segments is spelled canonically. Its literals spell the
segments of its text, so that two verbatim patterns have the same segments only if they are the same text. -/

namespace PathRouter.Pattern

open Percent

def encoded (source : String) : String :=
  String.ofList (pathOf (Pieces.cut '/' source.toList))

lemma Denotes.decode {raw : List Char} {segment : Segment} (h : Denotes .verbatim raw segment) :
    ∃ text, segment = .literal text ∧ Percent.decode text.toList = .ok raw := by
  cases h with
  | verbatim =>
    refine ⟨_, rfl, ?_⟩
    rw [String.toList_ofList]
    exact decode_encode raw

lemma Denotes.encoded {raw : List Char} {segment : Segment} (h : Denotes .verbatim raw segment) :
    Denotes .template (encode raw) segment := by
  cases h with
  | verbatim => exact .literal (brace_not_mem_encode raw) (.of_encode raw)

lemma Denotes.raw_eq {raw raw' : List Char} {segment : Segment} (h : Denotes .verbatim raw segment)
    (h' : Denotes .verbatim raw' segment) : raw = raw' := by
  obtain ⟨text, rfl, hd⟩ := h.decode
  obtain ⟨text', he, hd'⟩ := h'.decode
  obtain rfl := Segment.literal.inj he
  exact Except.ok.inj (hd.symm.trans hd')

variable {source source' : List Char} {segments : List Segment}

lemma Derives.exists_body {mode : Mode} (h : Derives mode source segments) : ∃ body, source = '/' :: body := by
  cases h with
  | root => exact ⟨[], rfl⟩
  | segments hne => exact ⟨_, flatMap_eq_join hne⟩

lemma Derives.encoded (h : Derives .verbatim source segments) :
    Derives .template (pathOf (Pieces.cut '/' source)) segments := by
  cases h with
  | root => exact .root
  | @segments raws _ hne hraws hd hlast hnames =>
    have hmap : raws.map encode ≠ [] := fun he => hne (List.map_eq_nil_iff.mp he)
    rw [flatMap_eq_join hne, Pieces.cut_cons_separator, Pieces.cut_join hne fun raw hm => (hraws raw hm).2,
      pathOf_nil_cons hne, pathOf, ← flatMap_eq_join hmap]
    refine .segments hmap (List.forall_mem_map.mpr fun raw hm => ?_) ?_ hlast hnames
    · exact ⟨fun he => (hraws raw hm).1 ((encode_eq_nil_iff raw).mp he), slash_not_mem_encode raw⟩
    · exact List.forall₂_map_left_iff.mpr (hd.imp fun _ _ => Denotes.encoded)

lemma Derives.source_eq (h : Derives .verbatim source segments) (h' : Derives .verbatim source' segments) :
    source = source' := by
  obtain ⟨body, rfl⟩ := h.exists_body
  obtain ⟨body', rfl⟩ := h'.exists_body
  have hunique : Relator.LeftUnique (Denotes .verbatim) := fun _ _ _ hd hd' => hd.raw_eq hd'
  have hcut : Pieces.cut '/' body = Pieces.cut '/' body' := hunique.forall₂ h.denotes h'.denotes
  rw [← Pieces.join_cut '/' body, hcut, Pieces.join_cut]

/-- A verbatim pattern has the segments of the template that spells its segments canonically. They are literals that
spell the segments of its text, and no other text has them. -/
theorem verbatim_exact {source : String} {p : Pattern} (h : parse .verbatim source = .ok p) :
    parse .template (encoded source) = .ok ⟨p.segments, encoded source⟩ ∧
      List.Forall₂ (fun raw segment => ∃ text, segment = .literal text ∧ decode text.toList = .ok raw)
        (Pieces.cut '/' source.toList.tail) p.segments ∧
      ∀ source' p', parse .verbatim source' = .ok p' → (p.segments = p'.segments ↔ source = source') := by
  obtain ⟨-, hd⟩ := (parse_eq_ok_iff _ _ _).mp h
  refine ⟨(parse_eq_ok_iff _ _ _).mpr ⟨rfl, ?_⟩, hd.denotes.imp fun _ _ => Denotes.decode, fun source' p' h' => ?_⟩
  · rw [encoded, String.toList_ofList]
    exact hd.encoded
  · obtain ⟨-, hd'⟩ := (parse_eq_ok_iff _ _ _).mp h'
    constructor
    · intro hs
      exact String.toList_inj.mp (hd.source_eq (hs ▸ hd'))
    · rintro rfl
      rw [Except.ok.inj (h.symm.trans h')]

theorem verbatim_exact_braces :
    parse .verbatim "/{foo}+/%6F" = .ok ⟨[.literal "%7Bfoo%7D%2B", .literal "%256F"], "/{foo}+/%6F"⟩ ∧
      parse .template (encoded "/{foo}+/%6F") =
        .ok ⟨[.literal "%7Bfoo%7D%2B", .literal "%256F"], encoded "/{foo}+/%6F"⟩ := by
  have h : parse .verbatim "/{foo}+/%6F" = .ok ⟨[.literal "%7Bfoo%7D%2B", .literal "%256F"], "/{foo}+/%6F"⟩ := by
    decide +kernel
  exact ⟨h, (verbatim_exact h).1⟩

end PathRouter.Pattern
