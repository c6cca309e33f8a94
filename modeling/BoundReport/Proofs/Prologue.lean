import Mathlib.Tactic.ByContra
import Mathlib.Tactic.SplitIfs
import BoundReport.Page
import BoundReport.Proofs.Spaces

/-!
# Pages with a Prologue

A page may begin with a **prologue**: a document type, with spaces in front of it, up to the first
closing bracket. The rule for the page size has to stand behind it, or the document type would no
longer be the first thing in the page. The place of the rule is looked for at a head tag first,
wherever it is, and at the document type only if there is no head tag. This does not harm the
prologue if the head tag is closed, as no tag is closed in front of the first closing bracket. But
if the first head tag is not closed, no place is found at all, and the rule is put in front of
everything.

## Main results

* `Text.toLower_eq_iff`: what case folding leaves alone.
* `Page.length_le_of_tagLength?`: a tag that is closed is closed behind the prologue.
* `Page.exists_headStart?_of_beginsHead`, `Page.beginsHead_drop`: head tags are found, and nothing
  else is.
* `Page.insertionPoint?_of_hasOpenHead`, `Page.exists_insertionPoint?_of_isPrologue`: when there is
  no place for the rule, and when there is one behind the prologue.
* `Page.render_prologue`: where the rule of a page with a prologue stands.
-/

namespace BoundReport

/-! ### Case folding -/

namespace Text

/-- What case folding does can be told from the characters of ASCII: it leaves all others alone. -/
theorem forall_toLower (P : Char → Char → Prop)
    (hascii : ∀ n < 128, P (Char.ofNat n) (Char.ofNat n).toLower) (hother : ∀ c, P c c) (c : Char) :
    P c c.toLower := by
  by_cases h : 'A'.val ≤ c.val ∧ c.val ≤ 'Z'.val
  · have hlt : c.toNat < 128 := by
      have hcode : c.val.toNat ≤ 90 := UInt32.le_iff_toNat_le.1 h.2
      exact Nat.lt_of_le_of_lt hcode (by decide)
    have hletter := hascii c.toNat hlt
    rwa [Char.ofNat_toNat] at hletter
  · have hsame : c.toLower = c := dif_neg h
    rw [hsame]
    exact hother c

/-- Letters become letters, and characters other than letters stay as they are. -/
theorem isAlpha_toLower (c : Char) :
    c.toLower.isAlpha = c.isAlpha ∧ (c.isAlpha = false → c.toLower = c) :=
  forall_toLower (fun c d => d.isAlpha = c.isAlpha ∧ (c.isAlpha = false → d = c))
    (by decide) (fun _ => ⟨rfl, fun _ => rfl⟩) c

/-- **Characters other than letters are left alone** by case folding, and nothing else becomes one
of them. -/
theorem toLower_eq_iff {c d : Char} (h : d.isAlpha = false) : c.toLower = d ↔ c = d := by
  obtain ⟨halpha, hsame⟩ := isAlpha_toLower c
  constructor
  · rintro rfl
    exact (hsame (halpha ▸ h)).symm
  · rintro rfl
    exact hsame h

@[simp] theorem length_toAsciiLower (t : Text) : (toAsciiLower t).length = t.length :=
  List.length_map _

@[simp] theorem toAsciiLower_append (s t : Text) :
    toAsciiLower (s ++ t) = toAsciiLower s ++ toAsciiLower t := List.map_append

end Text

namespace Page

variable {html : Text}

/-! ### Closing brackets -/

/-- A tag reaches up to its first closing bracket. -/
theorem tagLength?_append {inner : Text} (h : '>' ∉ inner) (rest : Text) :
    tagLength? (inner ++ '>' :: rest) = some (inner.length + 1) := by
  have hinner : inner.findIdx? (· = '>') = none :=
    List.findIdx?_eq_none_iff.2 fun c hc => decide_eq_false fun heq => h (heq ▸ hc)
  rw [tagLength?, List.findIdx?_append, hinner, List.findIdx?_cons]
  simp

/-- A tag has a length if and only if it is closed. -/
theorem tagLength?_eq_none_iff : tagLength? html = none ↔ '>' ∉ html := by
  rw [tagLength?, Option.map_eq_none_iff, List.findIdx?_eq_none_iff]
  simp only [decide_eq_false_iff_not]
  exact ⟨fun h hmem => h _ hmem rfl, fun h c hc heq => h (heq ▸ hc)⟩

/-- Tags are as long in small letters. -/
theorem tagLength?_toAsciiLower (html : Text) :
    tagLength? (Text.toAsciiLower html) = tagLength? html := by
  have hbracket : '>'.isAlpha = false := by decide
  have hsame : (fun c : Char => decide (c = '>')) ∘ Char.toLower = fun c => decide (c = '>') :=
    funext fun c => decide_eq_decide.2 (Text.toLower_eq_iff hbracket)
  rw [tagLength?, Text.toAsciiLower, List.findIdx?_map, hsame]
  rfl

/-- **A tag that is closed is closed behind the prologue**: the first closing bracket of a page is
not behind the bracket of any tag in it. -/
theorem length_le_of_tagLength? {before rest : Text} (hbefore : '>' ∉ before) {start length : Nat}
    (h : tagLength? ((before ++ '>' :: rest).drop start) = some length) :
    before.length + 1 ≤ start + length := by
  have hmem : '>' ∈ (before ++ '>' :: rest).drop start := by
    by_contra hnone
    rw [tagLength?_eq_none_iff.2 hnone] at h
    cases h
  obtain ⟨inner, after, hdrop, hinner⟩ := List.eq_append_cons_of_mem hmem
  rw [hdrop, tagLength?_append hinner] at h
  obtain rfl := Option.some.inj h
  have hplace : (before ++ '>' :: rest)[start + inner.length]? = some '>' := by
    rw [← List.getElem?_drop, hdrop]
    simp
  by_contra hlt
  rw [List.getElem?_append_left (by omega)] at hplace
  exact hbefore (List.mem_of_getElem? hplace)

/-! ### Head tags -/

/-- A **head tag** begins a text: in any case of its letters, and with a closing bracket or a space
of HTML behind its name. -/
def BeginsHead (text : Text) : Prop :=
  ∃ word c rest, text = word ++ c :: rest ∧ Text.toAsciiLower word = "<head" ∧ endsTagName c

/-- A page has an **open head** if a head tag begins in it, but none is closed. -/
def HasOpenHead (html : Text) : Prop :=
  (∃ before head, html = before ++ head ∧ BeginsHead head) ∧
    ∀ before head, html = before ++ head → BeginsHead head → '>' ∉ head

/-- The characters that end the name of a tag are no letters. -/
theorem endsTagName_toLower (c : Char) : endsTagName c.toLower = endsTagName c := by
  have hsame {d : Char} (h : d.isAlpha = false) : (c.toLower == d) = (c == d) := by
    rw [Bool.eq_iff_iff, beq_iff_eq, beq_iff_eq]
    exact Text.toLower_eq_iff h
  simp only [endsTagName, hsame (by decide : '>'.isAlpha = false),
    hsame (by decide : ' '.isAlpha = false), hsame (by decide : '\t'.isAlpha = false),
    hsame (by decide : '\n'.isAlpha = false), hsame (by decide : '\x0c'.isAlpha = false),
    hsame (by decide : '\r'.isAlpha = false)]

/-- Head tags are told from the text in small letters. -/
theorem beginsHead_toAsciiLower_iff {text : Text} :
    beginsHead (Text.toAsciiLower text) ↔ BeginsHead text := by
  rw [beginsHead, Bool.and_eq_true, List.isPrefixOf_iff_prefix]
  constructor
  · rintro ⟨⟨more, htext⟩, hend⟩
    obtain ⟨word, rest, rfl, hword, rfl⟩ := List.map_eq_append_iff.1 htext.symm
    have hlength : (Text.toAsciiLower word).length = 5 := congrArg List.length hword
    rw [Text.toAsciiLower_append, List.drop_left' hlength] at hend
    cases rest with
    | nil => cases hend
    | cons c rest => exact ⟨word, c, rest, rfl, hword, endsTagName_toLower c ▸ hend⟩
  · rintro ⟨word, c, rest, rfl, hword, hend⟩
    rw [Text.toAsciiLower_append, hword]
    exact ⟨List.prefix_append _ _, (endsTagName_toLower c).trans hend⟩

/-- A head tag is found, or an earlier one. -/
theorem exists_headStart?_le {head : Text} (h : beginsHead head) (before : Text) :
    ∃ start ≤ before.length, headStart? (before ++ head) = some start := by
  induction before with
  | nil =>
    cases head with
    | nil => exact absurd h (by decide)
    | cons c rest => exact ⟨0, Nat.le_refl 0, if_pos h⟩
  | cons c before ih =>
    rw [List.cons_append, headStart?]
    split_ifs with hfirst
    · exact ⟨0, Nat.zero_le _, rfl⟩
    · obtain ⟨start, hle, hstart⟩ := ih
      exact ⟨start + 1, Nat.succ_le_succ hle, by rw [hstart]; rfl⟩

/-- Where a head tag is found, one begins. -/
theorem beginsHead_drop_of_headStart? {start : Nat} (h : headStart? html = some start) :
    beginsHead (html.drop start) := by
  induction html generalizing start with
  | nil => cases h
  | cons c rest ih =>
    rw [headStart?] at h
    split_ifs at h with hfirst
    · cases h
      exact hfirst
    · obtain ⟨later, hlater, rfl⟩ := Option.map_eq_some_iff.1 h
      exact ih hlater

/-- The place of the rule is behind the first head tag, if one begins. -/
theorem insertionPoint?_of_headStart? {start : Nat}
    (h : headStart? (Text.toAsciiLower html) = some start) :
    insertionPoint? html = (tagLength? (html.drop start)).map (start + ·) := by
  rw [← tagLength?_toAsciiLower, Text.toAsciiLower, List.map_drop]
  simp only [insertionPoint?, h]
  rfl

/-- Where a head tag begins, it or an earlier one is found. -/
theorem exists_headStart?_of_beginsHead (before : Text) {head : Text} (h : BeginsHead head) :
    ∃ start ≤ before.length, headStart? (Text.toAsciiLower (before ++ head)) = some start := by
  have hfound := exists_headStart?_le (beginsHead_toAsciiLower_iff.2 h) (Text.toAsciiLower before)
  rwa [← Text.toAsciiLower_append, Text.length_toAsciiLower] at hfound

/-- The first head tag that is found begins a part of the page. -/
theorem beginsHead_drop {start : Nat} (h : headStart? (Text.toAsciiLower html) = some start) :
    BeginsHead (html.drop start) := by
  have hbegins := beginsHead_drop_of_headStart? h
  rw [Text.toAsciiLower, ← List.map_drop] at hbegins
  exact beginsHead_toAsciiLower_iff.1 hbegins

/-- With an open head there is no place for the rule. -/
theorem insertionPoint?_of_hasOpenHead (h : HasOpenHead html) : insertionPoint? html = none := by
  obtain ⟨⟨before, head, rfl, hhead⟩, hopen⟩ := h
  obtain ⟨start, -, hstart⟩ := exists_headStart?_of_beginsHead before hhead
  have hnone := hopen _ _ (List.take_append_drop start _).symm (beginsHead_drop hstart)
  rw [insertionPoint?_of_headStart? hstart, tagLength?_eq_none_iff.2 hnone]
  rfl

/-- With a head tag that is closed the place of the rule is that behind a tag. -/
theorem exists_insertionPoint?_of_beginsHead {before head : Text} (h : BeginsHead head)
    (hclosed : '>' ∈ head) : ∃ start length,
      tagLength? ((before ++ head).drop start) = some length ∧
        insertionPoint? (before ++ head) = some (start + length) := by
  obtain ⟨start, hle, hstart⟩ := exists_headStart?_of_beginsHead before h
  have hmem : '>' ∈ (before ++ head).drop start := by
    rw [List.drop_append_of_le_length hle]
    exact List.mem_append_right _ hclosed
  cases hlength : tagLength? ((before ++ head).drop start) with
  | none => exact absurd hmem (tagLength?_eq_none_iff.1 hlength)
  | some length =>
    refine ⟨start, length, hlength, ?_⟩
    rw [insertionPoint?_of_headStart? hstart, hlength]
    rfl

/-! ### The document type -/

/-- A **prologue** is the beginning of a page up to the first closing bracket of its document type.
There may be spaces in front of the document type, and its letters may be in any case. -/
def IsPrologue (prologue : Text) : Prop :=
  ∃ spaces word inner, (∀ c ∈ spaces, isSpace c) ∧ Text.toAsciiLower word = "<!doctype" ∧
    '>' ∉ inner ∧ prologue = spaces ++ (word ++ (inner ++ ['>']))

/-- Spaces are left alone by case folding. -/
theorem toAsciiLower_of_isSpace {spaces : Text} (h : ∀ c ∈ spaces, isSpace c) :
    Text.toAsciiLower spaces = spaces := by
  have hall : ∀ n ∈ spaceCodePoints, (Char.ofNat n).isAlpha = false := by decide
  refine (List.map_congr_left fun c hc => ?_).trans (List.map_id _)
  have halpha := hall c.toNat (List.contains_iff_mem.1 (h c hc))
  rw [Char.ofNat_toNat] at halpha
  exact (Text.isAlpha_toLower _).2 halpha

/-- The first closing bracket of a prologue is its last character. -/
theorem IsPrologue.exists_eq_append {prologue : Text} (h : IsPrologue prologue) :
    ∃ before, '>' ∉ before ∧ prologue = before ++ ['>'] := by
  obtain ⟨spaces, word, inner, hspaces, hword, hinner, rfl⟩ := h
  refine ⟨spaces ++ (word ++ inner), ?_, by simp⟩
  simp only [List.mem_append, not_or]
  refine ⟨fun hmem => ?_, fun hmem => ?_, hinner⟩
  · exact absurd (hspaces _ hmem) (by decide)
  · have hlower : '>'.toLower ∈ Text.toAsciiLower word := List.mem_map_of_mem hmem
    rw [hword] at hlower
    exact absurd hlower (by decide)

/-- Without a head tag the place of the rule is behind the document type, if there is one. -/
theorem insertionPoint?_of_doctype {spaces word more : Text} (hspaces : ∀ c ∈ spaces, isSpace c)
    (hword : Text.toAsciiLower word = "<!doctype")
    (hnone : headStart? (Text.toAsciiLower (spaces ++ (word ++ more))) = none) :
    insertionPoint? (spaces ++ (word ++ more)) =
      (tagLength? (word ++ more)).map (spaces.length + ·) := by
  have hlower : Text.toAsciiLower (spaces ++ (word ++ more)) =
      spaces ++ ("<!doctype" ++ Text.toAsciiLower more) := by
    rw [Text.toAsciiLower_append, Text.toAsciiLower_append, toAsciiLower_of_isSpace hspaces, hword]
  have htrim : Text.trimStart (spaces ++ ("<!doctype" ++ Text.toAsciiLower more)) =
      "<!doctype" ++ Text.toAsciiLower more := by
    rw [Text.trimStart, List.dropWhile_append_of_pos hspaces]
    refine Text.trimStart_eq_self_iff.2 fun c hc => ?_
    cases hc
    decide
  have hprefix : "<!doctype".toList.isPrefixOf ("<!doctype" ++ Text.toAsciiLower more) :=
    List.isPrefixOf_iff_prefix.2 (List.prefix_append _ _)
  rw [hlower] at hnone
  rw [← tagLength?_toAsciiLower (word ++ more), Text.toAsciiLower_append, hword, insertionPoint?,
    hlower]
  have hstart : (spaces ++ ("<!doctype" ++ Text.toAsciiLower more)).length -
      ("<!doctype" ++ Text.toAsciiLower more : Text).length = spaces.length := by
    rw [List.length_append, Nat.add_sub_cancel]
  simp only [hnone, htrim, hstart, List.drop_left, hprefix, if_true]

/-- **Behind a prologue there is a place for the rule**, unless the page has an open head. -/
theorem exists_insertionPoint?_of_isPrologue {prologue rest : Text} (h : IsPrologue prologue)
    (hopen : ¬ HasOpenHead (prologue ++ rest)) :
    ∃ place ≥ prologue.length, insertionPoint? (prologue ++ rest) = some place := by
  -- the tag behind which the rule is put: a head tag or the document type
  have htag : ∃ start length, tagLength? ((prologue ++ rest).drop start) = some length ∧
      insertionPoint? (prologue ++ rest) = some (start + length) := by
    cases hstart : headStart? (Text.toAsciiLower (prologue ++ rest)) with
    | some start =>
      have hbegins : ∃ before head, prologue ++ rest = before ++ head ∧ BeginsHead head :=
        ⟨_, _, (List.take_append_drop start _).symm, beginsHead_drop hstart⟩
      rw [HasOpenHead, not_and] at hopen
      have hclosed := hopen hbegins
      push Not at hclosed
      obtain ⟨before, head, hpage, hhead, hmem⟩ := hclosed
      rw [hpage]
      exact exists_insertionPoint?_of_beginsHead hhead hmem
    | none =>
      obtain ⟨spaces, word, inner, hspaces, hword, -, rfl⟩ := h
      have hpage : spaces ++ (word ++ (inner ++ ['>'])) ++ rest =
          spaces ++ (word ++ (inner ++ '>' :: rest)) := by simp
      rw [hpage] at hstart ⊢
      rw [insertionPoint?_of_doctype hspaces hword hstart]
      cases hlength : tagLength? (word ++ (inner ++ '>' :: rest)) with
      | none => exact absurd (by simp) (tagLength?_eq_none_iff.1 hlength)
      | some length => exact ⟨spaces.length, length, by rwa [List.drop_left], rfl⟩
  obtain ⟨start, length, hlength, hplace⟩ := htag
  obtain ⟨before, hbefore, rfl⟩ := h.exists_eq_append
  refine ⟨start + length, ?_, hplace⟩
  rw [List.append_assoc] at hlength
  simpa using length_le_of_tagLength? hbefore hlength

/-! ### Where the rule stands -/

/-- The rule of a page is put in at its place. -/
theorem render_of_insertionPoint? {place : Nat} (h : insertionPoint? html = some place)
    (size : PageSize) :
    render html size = html.take place ++ '\n' :: rule size ++ html.drop place := by
  simp only [render, h]

/-- **The rule stands behind the prologue**, at some place of the rest of the page, if the page has
no open head; **with an open head it stands in front of everything**, the document type too. -/
theorem render_prologue (prologue rest : Text) (size : PageSize) (h : IsPrologue prologue) :
    (¬ HasOpenHead (prologue ++ rest) → ∃ before after, rest = before ++ after ∧
      render (prologue ++ rest) size = prologue ++ before ++ '\n' :: rule size ++ after) ∧
    (HasOpenHead (prologue ++ rest) →
      render (prologue ++ rest) size = rule size ++ '\n' :: (prologue ++ rest)) := by
  constructor
  · intro hopen
    obtain ⟨place, hle, hplace⟩ := exists_insertionPoint?_of_isPrologue h hopen
    refine ⟨rest.take (place - prologue.length), rest.drop (place - prologue.length),
      (List.take_append_drop _ _).symm, ?_⟩
    rw [render_of_insertionPoint? hplace, List.take_append, List.drop_append,
      List.take_of_length_le hle, List.drop_eq_nil_of_le hle, List.nil_append]
  · intro hopen
    simp only [render, insertionPoint?_of_hasOpenHead hopen]

/-- In a page with a header and a head the rule stands behind the document type. -/
theorem render_prologue_header :
    IsPrologue "\n<!DOCTYPE html>" ∧ ¬ HasOpenHead ("\n<!DOCTYPE html>" ++ "<header/><HEAD a>x") ∧
      ∃ before after, ("<header/><HEAD a>x" : Text) = before ++ after ∧
        render ("\n<!DOCTYPE html>" ++ "<header/><HEAD a>x") .a4 =
          "\n<!DOCTYPE html>" ++ before ++ '\n' :: rule .a4 ++ after := by
  have hprologue : IsPrologue "\n<!DOCTYPE html>" :=
    ⟨['\n'], "<!DOCTYPE", " html", List.forall_mem_singleton.2 (by decide), by decide, by decide,
      by decide⟩
  have hclosed : ¬ HasOpenHead ("\n<!DOCTYPE html>" ++ "<header/><HEAD a>x") :=
    mt insertionPoint?_of_hasOpenHead (by decide +kernel)
  exact ⟨hprologue, hclosed, (render_prologue _ _ .a4 hprologue).1 hclosed⟩

/-- **The rule may stand in front of the document type**: behind it a head tag begins, and the page
ends before it is closed. -/
theorem render_openHead :
    IsPrologue "<!doctype html>" ∧
      render ("<!doctype html>" ++ "<head ") .letter =
        rule .letter ++ '\n' :: ("<!doctype html>" ++ "<head ") ∧
      ¬ ∃ before after, ("<head " : Text) = before ++ after ∧
        render ("<!doctype html>" ++ "<head ") .letter =
          "<!doctype html>" ++ before ++ '\n' :: rule .letter ++ after := by
  refine ⟨⟨[], "<!doctype", " html", List.forall_mem_nil _, by decide, by decide, by decide⟩,
    by decide +kernel, ?_⟩
  rintro ⟨before, after, -, hrender⟩
  have hsecond := congrArg (·[1]?) hrender
  simp only [List.append_assoc] at hsecond
  rw [List.getElem?_append_left (by decide)] at hsecond
  exact absurd hsecond (by decide +kernel)

end Page

end BoundReport
