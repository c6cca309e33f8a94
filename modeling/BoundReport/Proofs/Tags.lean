import BoundReport.Proofs.Atoms
import BoundReport.Proofs.Spaces

/-!
# Tags of Texts Side by Side

The written form of a tag has its opening braces at the beginning only and its closing ones at
the end only, so no two tags of a text overlap, and cutting a text changes only the tag that
the cut goes through.

## Main results

* `atoms_append_of_not_straddles`: a place that no tag straddles does not show in the reading.
* `exists_tags_append`: at most one tag straddles a place, and the other tags of a text are those
  of its two parts.
* `mem_tags_iff`: the tags of a text are the written tags that stand in it.
* `tags_trim`: the spaces around a text hold no tags.
-/

namespace BoundReport

theorem tags_tag_append {tag : Tag} (h : tag.Written) (rest : Text) :
    tags (tag.raw ++ rest) = tag :: tags rest := by
  rw [tags_eq_filterMap_atoms, atoms_tag_append h, tags_eq_filterMap_atoms]
  rfl

theorem tags_cons {c : Char} {rest : Text}
    (h : ∀ tag after, Tag.Written tag → c :: rest ≠ tag.raw ++ after) :
    tags (c :: rest) = tags rest := by
  rw [tags_eq_filterMap_atoms, atoms_cons h, tags_eq_filterMap_atoms]
  rfl

/-- The tags of a text are the tags that are read in it. -/
theorem Reads.mem_tags_iff {text : Text} {found : List Atom} (h : Reads text found) {tag : Tag} :
    tag ∈ tags text ↔ .tag tag ∈ found := by
  have hatom (atom : Atom) : atom.tag? = some tag ↔ atom = .tag tag := by
    cases atom <;> simp [Atom.tag?]
  simp [tags_eq_filterMap_atoms, reads_iff.1 h, hatom]

/-- A text without tags is read character by character. -/
theorem atoms_of_tags_eq_nil {text : Text} (h : tags text = []) : atoms text = text.map .char := by
  have hread (found : List Fragment) (hnone : found.filterMap Fragment.tag? = []) :
      found.flatMap Atom.ofFragment = (found.flatMap Fragment.raw).map .char := by
    induction found with
    | nil => rfl
    | cons first rest ih =>
      cases first with
      | literal text => simp [Atom.ofFragment, Fragment.raw, ih hnone]
      | tag found => cases hnone
  rw [← raw_fragments text, ← hread _ h, raw_fragments]
  rfl

namespace Tag.Written

variable {tag : Tag}

/-- Behind its two braces a written tag has no opening brace, and ends with a closing one. -/
theorem exists_body (h : tag.Written) :
    ∃ body, tag.raw = '{' :: '{' :: (body ++ ['}']) ∧ '{' ∉ body := by
  obtain ⟨⟨-, hdata⟩, ⟨-, hfield⟩, before, after, ⟨-, hbefore⟩, ⟨-, hafter⟩, hraw⟩ := h
  refine ⟨before ++ tag.dataSet ++ '.' :: (tag.field ++ after ++ ['}']), by simp [hraw], ?_⟩
  have hspace (text : Text) (h : ∀ c ∈ text, isSpace c) : '{' ∉ text :=
    fun hmem => absurd (h _ hmem) (by decide)
  have hword (text : Text) (h : ∀ c ∈ text, isWordChar c) : '{' ∉ text :=
    fun hmem => absurd (h _ hmem) (by decide)
  simp [hspace before hbefore, hspace after hafter, hword tag.dataSet hdata,
    hword tag.field hfield]

/-- No tag is empty. -/
theorem raw_ne_nil (h : tag.Written) : tag.raw ≠ [] := by
  obtain ⟨body, hraw, -⟩ := h.exists_body
  simp [hraw]

/-- The last character of a written tag is a brace. -/
theorem getLast?_raw (h : tag.Written) : tag.raw.getLast? = some '}' := by
  obtain ⟨body, hraw, -⟩ := h.exists_body
  exact List.getLast?_eq_some_iff.2 ⟨'{' :: '{' :: body, hraw⟩

/-- A written tag has no space at its ends. -/
theorem trim_raw (h : tag.Written) : Text.trim tag.raw = tag.raw := by
  obtain ⟨body, hraw, -⟩ := h.exists_body
  refine Text.trim_eq_self_iff.2 ⟨fun c hc => ?_, fun c hc => ?_⟩
  · obtain rfl : '{' = c := by simpa [hraw] using hc
    decide
  · obtain rfl : '}' = c := by simpa [h.getLast?_raw] using hc
    decide

/-- Inside a written tag, behind its first character, no tag begins: what stands there is read
character by character, up to the end of the tag or of the text. -/
theorem atoms_inside (h : tag.Written) {before inner after rest : Text}
    (hraw : tag.raw = before ++ inner ++ after) (hbefore : before ≠ [])
    (hend : after = [] ∨ rest = []) :
    atoms (inner ++ rest) = inner.map .char ++ atoms rest := by
  obtain ⟨body, hbody, hnot⟩ := h.exists_body
  induction inner generalizing before with
  | nil => rfl
  | cons c inner ih =>
    have hstep : tag.raw = (before ++ [c]) ++ inner ++ after := by simp [hraw]
    rw [List.cons_append, atoms_cons_of_no_braces, ih hstep (by simp)]
    · rfl
    · rintro rfl
      rw [hbody] at hraw
      match before, hbefore with
      | [a], _ =>
        -- the brace is the second one of the tag, so the body of the tag follows
        obtain ⟨-, htail⟩ := List.cons.inj hraw
        obtain ⟨-, htail⟩ := List.cons.inj htail
        cases inner with
        | cons d inner =>
          intro heq
          obtain rfl : d = '{' := by simpa using heq
          have hmem : '{' ∈ body ++ ['}'] := by
            rw [htail]
            exact List.mem_cons_self
          simp [hnot] at hmem
        | nil =>
          rcases hend with rfl | rfl
          · simp at htail
          · simp
      | a :: b :: before, _ =>
        have hmem : '{' ∈ body ++ ['}'] := by
          obtain ⟨-, htail⟩ := List.cons.inj hraw
          obtain ⟨-, htail⟩ := List.cons.inj htail
          simp [htail]
        simp [hnot] at hmem

/-- The beginning of a written tag holds no tag. -/
theorem tags_of_raw_eq_append (h : tag.Written) {s t : Text} (hraw : tag.raw = s ++ t)
    (ht : t ≠ []) : tags s = [] := by
  cases s with
  | nil => rfl
  | cons c s =>
    have hfirst : ∀ other after, Tag.Written other → c :: s ≠ other.raw ++ after := by
      intro other after hother heq
      -- reading the whole tag finds it alone, so no other one can begin it
      have hone : tags (tag.raw ++ []) = [tag] := tags_tag_append h []
      rw [List.append_nil, hraw, heq, List.append_assoc, tags_tag_append hother] at hone
      obtain ⟨rfl, -⟩ := List.cons.inj hone
      have hlen := congrArg List.length hraw
      rw [heq] at hlen
      have := List.length_pos_iff.2 ht
      simp only [List.length_append] at hlen
      omega
    have hcut : tag.raw = [c] ++ s ++ t := hraw
    have hrest : atoms (s ++ []) = s.map .char ++ atoms [] :=
      h.atoms_inside hcut (List.cons_ne_nil c []) (.inr rfl)
    rw [tags_cons hfirst, tags_eq_filterMap_atoms, ← List.append_nil s, hrest]
    simp [Atom.tag?, List.filterMap_map, Function.comp_def, atoms, lex, Fragment.alignBraces,
      Atom.ofLexemes, Fragment.ofLexemes]

/-- The end of a written tag holds no tag. -/
theorem tags_append_of_raw_eq_append (h : tag.Written) {s t : Text} (hraw : tag.raw = s ++ t)
    (hs : s ≠ []) (rest : Text) : tags (t ++ rest) = tags rest := by
  have hcut : tag.raw = s ++ t ++ [] := by rw [hraw, List.append_nil]
  have hread : atoms (t ++ rest) = t.map .char ++ atoms rest := h.atoms_inside hcut hs (.inl rfl)
  rw [tags_eq_filterMap_atoms, hread, tags_eq_filterMap_atoms]
  simp [Atom.tag?, List.filterMap_map, Function.comp_def]

end Tag.Written

/-- A tag **straddles** the place between two texts if its written form begins before the place
and ends behind it. -/
def Tag.Straddles (tag : Tag) (s t : Text) : Prop :=
  tag.Written ∧ ∃ s' b c t', s = s' ++ b ∧ t = c ++ t' ∧ b ≠ [] ∧ c ≠ [] ∧ tag.raw = b ++ c

/-- Of two cuts of one text the later one cuts the part behind the earlier one. -/
theorem exists_append_of_length_le {s t u v : Text} (h : s ++ t = u ++ v)
    (hle : s.length ≤ u.length) : ∃ m, u = s ++ m ∧ t = m ++ v := by
  have hprefix : s <+: u :=
    List.prefix_of_prefix_length_le ⟨t, h⟩ ⟨v, rfl⟩ hle
  obtain ⟨m, rfl⟩ := hprefix
  rw [List.append_assoc] at h
  exact ⟨m, rfl, List.append_cancel_left h⟩

/-- A tag straddles a place if it stands in the text so that it begins before the place and ends
behind it. -/
theorem Tag.straddles_iff {tag : Tag} {s t : Text} :
    tag.Straddles s t ↔ tag.Written ∧ ∃ before after, s ++ t = before ++ tag.raw ++ after ∧
      before.length < s.length ∧ s.length < before.length + tag.raw.length := by
  constructor
  · rintro ⟨hwritten, s', b, c, t', rfl, rfl, hb, hc, hraw⟩
    have hb := List.length_pos_iff.2 hb
    have hc := List.length_pos_iff.2 hc
    refine ⟨hwritten, s', t', by simp [hraw], ?_, ?_⟩
    · rw [List.length_append]; omega
    · rw [hraw, List.length_append, List.length_append]; omega
  · rintro ⟨hwritten, before, after, htext, hstart, hend⟩
    rw [List.append_assoc] at htext
    obtain ⟨b, rfl, htail⟩ := exists_append_of_length_le htext.symm (Nat.le_of_lt hstart)
    rw [List.length_append] at hstart hend
    obtain ⟨c, hraw, rfl⟩ := exists_append_of_length_le htail.symm (by omega)
    refine ⟨hwritten, before, b, c, after, rfl, rfl, ?_, ?_, hraw⟩
    · rintro rfl
      simp at hstart
    · rintro rfl
      rw [hraw, List.append_nil] at hend
      omega

/-- **Where no tag straddles**, the atoms of a text are those of its two parts. -/
theorem atoms_append_of_not_straddles {s t : Text} (h : ∀ tag : Tag, ¬ tag.Straddles s t) :
    atoms (s ++ t) = atoms s ++ atoms t := by
  obtain ⟨found, hreads⟩ : ∃ found, Reads s found := ⟨_, reads_atoms s⟩
  rw [reads_iff.1 hreads]
  induction hreads with
  | nil => rfl
  | @tag tag rest found hwritten _ ih =>
    have hrest (other : Tag) : ¬ other.Straddles rest t := by
      rintro ⟨hother, s', b, d, t', rfl, hraw⟩
      exact h other ⟨hother, tag.raw ++ s', b, d, t', (List.append_assoc ..).symm, hraw⟩
    rw [List.append_assoc, atoms_tag_append hwritten, ih hrest, List.cons_append]
  | @char c s found hnone _ ih =>
    have hnone' : ∀ tag rest, Tag.Written tag → c :: (s ++ t) ≠ tag.raw ++ rest := by
      -- such a tag would end in the second text
      intro tag rest hwritten heq
      rcases List.append_eq_append_iff.1 (show c :: s ++ t = tag.raw ++ rest from heq) with
        ⟨d, hraw, rfl⟩ | ⟨d, hs, -⟩
      · have hd : d ≠ [] := by
          rintro rfl
          exact hnone tag [] hwritten (by rw [hraw, List.append_nil, List.append_nil])
        exact h tag ⟨hwritten, [], c :: s, d, rest, rfl, rfl, List.cons_ne_nil c s, hd, hraw⟩
      · exact hnone tag d hwritten hs
    have hrest (other : Tag) : ¬ other.Straddles s t := by
      rintro ⟨hother, s', b, d, t', rfl, hraw⟩
      exact h other ⟨hother, c :: s', b, d, t', rfl, hraw⟩
    rw [List.cons_append, atoms_cons hnone', ih hrest, List.cons_append]

/-- Where nothing straddles, the tags of a text are those of its two parts. -/
theorem tags_append_of_not_straddles {s t : Text} (h : ∀ tag : Tag, ¬ tag.Straddles s t) :
    tags (s ++ t) = tags s ++ tags t := by
  rw [tags_eq_filterMap_atoms, atoms_append_of_not_straddles h, List.filterMap_append,
    ← tags_eq_filterMap_atoms, ← tags_eq_filterMap_atoms]

/-- No tag goes on where two opening braces stand. -/
theorem not_straddles_braces {tag : Tag} {s t : Text} (hfirst : t.head? = some '{')
    (hsecond : ∀ d ∈ t.tail.head?, d = '{') : ¬ tag.Straddles s t := by
  rintro ⟨hwritten, s', b, c, t', -, rfl, hb, hc, hraw⟩
  obtain ⟨body, hbody, hnot⟩ := hwritten.exists_body
  have hnot' : '{' ∉ body ++ ['}'] := by simp [hnot]
  match b, hb, c, hc with
  | [x], _, y :: c, _ =>
    -- only the second brace of the tag can be the first one behind the place
    obtain ⟨-, htail⟩ := List.cons.inj (hbody.symm.trans hraw)
    obtain ⟨-, htail⟩ := List.cons.inj htail
    cases c with
    | nil => simp at htail
    | cons z c =>
      obtain rfl : z = '{' := hsecond z rfl
      exact hnot' (by rw [htail]; exact List.mem_cons_self)
  | x :: z :: b, _, y :: c, _ =>
    obtain ⟨-, htail⟩ := List.cons.inj (hbody.symm.trans hraw)
    obtain ⟨-, htail⟩ := List.cons.inj htail
    obtain rfl : y = '{' := by simpa using hfirst
    exact hnot' (by rw [htail]; simp)

/-- **A tag that straddles a place is a tag of the text**, and the only one there. -/
theorem tags_append_of_straddles {tag : Tag} {s t : Text} (h : tag.Straddles s t) :
    tags (s ++ t) = tags s ++ tag :: tags t := by
  obtain ⟨hwritten, s', b, c, t', rfl, rfl, hb, hc, hraw⟩ := h
  obtain ⟨body, hbody, -⟩ := hwritten.exists_body
  have hwhole : tags (s' ++ (tag.raw ++ t')) = tags s' ++ tag :: tags t' := by
    have hnot (other : Tag) : ¬ other.Straddles s' (tag.raw ++ t') :=
      not_straddles_braces (by simp [hbody]) (by simp [hbody])
    rw [tags_append_of_not_straddles hnot, tags_tag_append hwritten]
  have hbefore : tags (s' ++ b) = tags s' := by
    rw [tags_append_of_not_straddles fun _ => not_straddles_braces ?_ ?_,
      hwritten.tags_of_raw_eq_append hraw hc, List.append_nil]
    · cases b with
      | nil => exact absurd rfl hb
      | cons x b =>
        obtain ⟨rfl, -⟩ := List.cons.inj (hbody.symm.trans hraw)
        rfl
    · intro d hd
      match b, hb with
      | [x], _ => simp at hd
      | x :: y :: b, _ =>
        obtain ⟨-, htail⟩ := List.cons.inj (hbody.symm.trans hraw)
        obtain ⟨rfl, -⟩ := List.cons.inj htail
        simpa [eq_comm] using hd
  have hafter : tags (c ++ t') = tags t' := hwritten.tags_append_of_raw_eq_append hraw hb t'
  have htext : s' ++ b ++ (c ++ t') = s' ++ (tag.raw ++ t') := by
    rw [hraw, List.append_assoc, List.append_assoc]
  rw [htext, hwhole, hbefore, hafter]

/-- **At most one tag straddles a place**, and the other tags of a text are those of its two
parts. -/
theorem exists_tags_append (s t : Text) :
    ∃ across : Option Tag, tags (s ++ t) = tags s ++ across.toList ++ tags t ∧
      ∀ tag, across = some tag ↔ tag.Straddles s t := by
  by_cases h : ∃ tag : Tag, tag.Straddles s t
  · obtain ⟨tag, htag⟩ := h
    have htags := tags_append_of_straddles htag
    refine ⟨some tag, by simp [htags], fun other => ⟨?_, fun hother => ?_⟩⟩
    · rintro ⟨⟩
      exact htag
    · -- the text has its tags in one way only
      have heq := htags.symm.trans (tags_append_of_straddles hother)
      exact congrArg some (List.cons.inj (List.append_cancel_left heq)).1
  · have hnot : ∀ tag : Tag, ¬ tag.Straddles s t := not_exists.1 h
    refine ⟨none, ?_, fun tag => ⟨nofun, fun htag => absurd htag (hnot tag)⟩⟩
    simp [tags_append_of_not_straddles hnot]

/-- **The tags of a text are the written tags that stand in it.** -/
theorem mem_tags_iff {tag : Tag} {text : Text} :
    tag ∈ tags text ↔ tag.Written ∧ ∃ before after, text = before ++ tag.raw ++ after := by
  constructor
  · intro h
    obtain ⟨found, hreads⟩ : ∃ found, Reads text found := ⟨_, reads_atoms text⟩
    rw [hreads.mem_tags_iff] at h
    induction hreads with
    | nil => cases h
    | @tag other rest found hother _ ih =>
      rcases List.mem_cons.1 h with heq | h
      · obtain rfl := Atom.tag.inj heq
        exact ⟨hother, [], rest, rfl⟩
      · obtain ⟨hwritten, u, v, rfl⟩ := ih h
        exact ⟨hwritten, other.raw ++ u, v, by simp⟩
    | @char c rest found _ _ ih =>
      obtain ⟨hwritten, u, v, rfl⟩ := ih ((List.mem_cons.1 h).resolve_left nofun)
      exact ⟨hwritten, c :: u, v, rfl⟩
  · rintro ⟨hwritten, before, after, rfl⟩
    obtain ⟨across, htags, -⟩ := exists_tags_append before (tag.raw ++ after)
    rw [List.append_assoc, htags, tags_tag_append hwritten]
    simp

/-- No tag begins in spaces. -/
theorem not_straddles_spaces_left {tag : Tag} {spaces : Text} (h : ∀ c ∈ spaces, isSpace c)
    (text : Text) : ¬ tag.Straddles spaces text := by
  rintro ⟨hwritten, s, b, c, t, rfl, -, hb, -, hraw⟩
  obtain ⟨body, hbody, -⟩ := hwritten.exists_body
  cases b with
  | nil => exact hb rfl
  | cons d b =>
    obtain ⟨rfl, -⟩ := List.cons.inj (hbody.symm.trans hraw)
    exact absurd (h '{' (by simp)) (by decide)

/-- No tag ends in spaces. -/
theorem not_straddles_spaces_right {tag : Tag} {spaces : Text} (h : ∀ c ∈ spaces, isSpace c)
    (text : Text) : ¬ tag.Straddles text spaces := by
  rintro ⟨hwritten, s, b, c, t, -, rfl, -, hc, hraw⟩
  have hlast := hwritten.getLast?_raw
  rw [hraw, List.getLast?_append_of_ne_nil _ hc] at hlast
  exact absurd (h _ (List.mem_append_left t (List.mem_of_getLast? hlast))) (by decide)

/-- Spaces hold no tags. -/
theorem tags_spaces {spaces : Text} (h : ∀ c ∈ spaces, isSpace c) : tags spaces = [] := by
  refine List.eq_nil_iff_forall_not_mem.2 fun tag hmem => ?_
  obtain ⟨hwritten, before, after, rfl⟩ := mem_tags_iff.1 hmem
  obtain ⟨body, hraw, -⟩ := hwritten.exists_body
  exact absurd (h '{' (by simp [hraw])) (by decide)

/-- **The spaces around a text hold no tags.** -/
theorem tags_trim (text : Text) : tags (Text.trim text) = tags text := by
  obtain ⟨before, after, hbefore, hafter, htext⟩ := Text.exists_eq_append_trim text
  conv_rhs => rw [htext, List.append_assoc,
    tags_append_of_not_straddles fun _ => not_straddles_spaces_left hbefore _,
    tags_append_of_not_straddles fun _ => not_straddles_spaces_right hafter _,
    tags_spaces hbefore, tags_spaces hafter, List.nil_append, List.append_nil]

end BoundReport
