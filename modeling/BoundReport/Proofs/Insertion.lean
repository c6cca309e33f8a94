import Mathlib.Data.List.Infix
import BoundReport.Proofs.Bytes
import BoundReport.Proofs.Prologue

/-!
# Where the Rule Is Put In

The place of the rule is looked for in the bytes of the page in small letters, and the page itself
is cut there. Folding the case of a letter leaves its width alone, so the place is one between two
characters of the page too. The **search for the head** goes from one `<head` to the next: one that
is followed by more of a name, as in `<header>`, is passed over, and the search goes on behind it.
As `<head` does not overlap with itself, no head tag is missed on the way.

## Main results

* `Text.width_toAsciiLower`: a text is as wide in small letters.
* `Page.searchesHead_iff`: the search for the head ends, and it finds the first head tag.
* `Page.findsPlace_iff`: the place that is found in small letters is the place of the rule.
* `Page.insertionPoint?_of_firstHead`: the rule stands behind the first head tag.
* `Page.render_insertion`: rendering puts in the rule at its place and changes nothing else.
-/

namespace BoundReport

/-! ### The width of folded texts -/

namespace Text

/-- Folding the case of a letter leaves its width alone, as both letters are of ASCII. -/
theorem utf8Size_toLower (c : Char) : c.toLower.utf8Size = c.utf8Size :=
  forall_toLower (fun c d => d.utf8Size = c.utf8Size) (by decide) (fun _ => rfl) c

/-- **A text is as wide in small letters.** -/
@[simp] theorem width_toAsciiLower (t : Text) : width (toAsciiLower t) = width t := by
  induction t with
  | nil => rfl
  | cons c t ih =>
    rw [toAsciiLower, List.map_cons, width_cons, width_cons, utf8Size_toLower, ← ih]
    rfl

end Text

namespace Page

variable {html lower front rest : Text} {start : Nat} {found : Option Nat}

/-! ### The search for the head -/

/-- The codes of the characters that end the name of a tag: the closing bracket and the spaces of
HTML. -/
def nameEndCodes : List Nat := [0x3e, 0x20, 0x09, 0x0a, 0x0c, 0x0d]

/-- The name of a tag **ends** at a place if the byte there is one that ends it. -/
def NameEndsAt (place : Nat) (text : Text) : Prop :=
  ∃ byte ∈ (Text.utf8 text)[place]?, byte.toNat ∈ nameEndCodes

/-- **The search for the head** from a place on: the next `<head` is looked for. If the name ends
there, a head tag is found, and else the search goes on behind it. -/
inductive SearchesHead (lower : Text) : Nat → Option Nat → Prop
  | nowhere {start : Nat} (hfinds : Text.Finds "<head" lower start none) :
      SearchesHead lower start none
  | head {start place : Nat} (hfinds : Text.Finds "<head" lower start (some place))
      (hends : NameEndsAt (place + 5) lower) : SearchesHead lower start (some place)
  | skip {start place : Nat} {found : Option Nat}
      (hfinds : Text.Finds "<head" lower start (some place))
      (hends : ¬ NameEndsAt (place + 5) lower) (hrest : SearchesHead lower (place + 5) found) :
      SearchesHead lower start found

theorem endsTagName_iff {c : Char} : endsTagName c ↔ c.toNat ∈ nameEndCodes := by
  have hsame {d : Char} : c = d ↔ c.toNat = d.toNat := Char.toNat_inj.symm
  simp only [endsTagName, Bool.or_eq_true, beq_iff_eq, hsame, nameEndCodes, List.mem_cons,
    List.not_mem_nil, or_false, or_assoc]
  exact Iff.rfl

/-- Whether a name ends at a place is told from the character there, as the bytes of a character
beyond ASCII are beyond ASCII too. -/
theorem nameEndsAt_iff :
    NameEndsAt (Text.width front) (front ++ rest) ↔ ∃ c ∈ rest.head?, endsTagName c := by
  have hascii : ∀ n ∈ nameEndCodes, n ≤ 127 := by decide
  cases rest with
  | nil =>
    have hnone : (Text.utf8 front)[Text.width front]? = none :=
      getElem?_neg (Text.utf8 front) _ (by simp [Text.size_utf8])
    simp [NameEndsAt, hnone]
  | cons c rest =>
    obtain ⟨byte, hbyte, hcode⟩ := Text.exists_getElem?_utf8 front c rest
    have hsame : byte.toNat ∈ nameEndCodes ↔ c.toNat ∈ nameEndCodes := by
      rcases hcode with heq | ⟨hlarge, hlarge'⟩
      · rw [heq]
      · exact ⟨fun h => absurd (hascii _ h) (by omega), fun h => absurd (hascii _ h) (by omega)⟩
    simp only [NameEndsAt, hbyte, Option.mem_some_iff, exists_eq_left', hsame, List.head?_cons,
      endsTagName_iff]

/-- Text in which no head tag begins may be passed over. -/
theorem headStart?_append {skipped : Text}
    (h : ∀ m m', skipped = m ++ m' → m' ≠ [] → beginsHead (m' ++ rest) = false) :
    headStart? (skipped ++ rest) = (headStart? rest).map (skipped.length + ·) := by
  induction skipped with
  | nil => simp
  | cons c skipped ih =>
    have hfirst : beginsHead (c :: (skipped ++ rest)) = false :=
      h [] (c :: skipped) rfl (List.cons_ne_nil _ _)
    have hskipped := ih fun m m' heq hne => h (c :: m) m' (congrArg (c :: ·) heq) hne
    rw [List.cons_append, headStart?, hfirst, if_neg Bool.false_ne_true, hskipped, Option.map_map]
    congr 1
    funext n
    simp only [Function.comp_apply, List.length_cons]
    omega

/-- A head tag is a `<head` with a character behind it that ends the name. -/
theorem beginsHead_append_iff {after : Text} :
    beginsHead ("<head" ++ after) ↔ ∃ c ∈ after.head?, endsTagName c := by
  have hbegins : "<head".toList.isPrefixOf ("<head" ++ after) :=
    List.isPrefixOf_iff_prefix.2 (List.prefix_append _ _)
  have hdrop : ("<head" ++ after : Text).drop 5 = after := List.drop_left' rfl
  rw [beginsHead, hbegins, hdrop]
  cases after <;> simp

theorem prefix_of_beginsHead (h : beginsHead html) : "<head" <+: html := by
  rw [beginsHead, Bool.and_eq_true] at h
  exact List.isPrefixOf_iff_prefix.1 h.1

/-- Behind a `<head` that is no tag the search goes on: no other one begins in it. -/
theorem headStart?_of_not_beginsHead {after : Text} (h : ¬ beginsHead ("<head" ++ after)) :
    headStart? ("<head" ++ after) = (headStart? after).map (5 + ·) := by
  refine headStart?_append fun m m' heq hne => Bool.eq_false_iff.2 fun hbegins => ?_
  cases m with
  | nil =>
    obtain rfl : "<head" = m' := heq
    exact h hbegins
  | cons bracket m =>
    obtain ⟨c, m', rfl⟩ := List.exists_cons_of_ne_nil hne
    have hletters : ("head" : Text) = m ++ c :: m' := (List.cons.inj heq).2
    have hmem : c ∈ ("head" : Text) := by simp [hletters]
    obtain ⟨tail, htail⟩ := prefix_of_beginsHead hbegins
    obtain ⟨rfl, -⟩ := List.cons.inj htail
    exact absurd hmem (by decide)

/-- **One turn of the search** passes over text in which no head tag begins, up to the end of the
next `<head`. -/
theorem exists_of_finds_head {place : Nat}
    (h : Text.Finds "<head" (front ++ rest) (Text.width front) (some place)) :
    ∃ skipped after, rest = skipped ++ ("<head" ++ after) ∧
      Text.width (front ++ skipped) = place ∧
      Text.width (front ++ skipped ++ "<head") = place + 5 ∧
      headStart? rest = (headStart? ("<head" ++ after)).map (skipped.length + ·) ∧
      (NameEndsAt (place + 5) (front ++ rest) ↔ beginsHead ("<head" ++ after)) := by
  obtain ⟨skipped, after, rfl, rfl, hearlier⟩ := h.exists_append
  have hplace : Text.width (front ++ skipped ++ "<head") = Text.width (front ++ skipped) + 5 :=
    Text.width_append _ _
  have htext : front ++ (skipped ++ "<head" ++ after) = front ++ skipped ++ "<head" ++ after := by
    simp
  refine ⟨skipped, after, List.append_assoc .., rfl, hplace, ?_, ?_⟩
  · rw [List.append_assoc]
    refine headStart?_append fun m m' heq hne => Bool.eq_false_iff.2 fun hbegins => ?_
    exact hearlier m m' heq hne (List.append_assoc .. ▸ prefix_of_beginsHead hbegins)
  · rw [← hplace, htext, nameEndsAt_iff, beginsHead_append_iff]

/-- The place that is some characters behind the front of a text. -/
def placeBehind (front rest : Text) (count : Nat) : Nat :=
  Text.width front + Text.width (rest.take count)

theorem placeBehind_append (front s rest : Text) (count : Nat) :
    placeBehind front (s ++ rest) (s.length + count) = placeBehind (front ++ s) rest count := by
  rw [placeBehind, placeBehind, List.take_length_add_append, Text.width_append, Text.width_append,
    Nat.add_assoc]

/-- What the search for the head finds is the first head tag. -/
theorem SearchesHead.eq_headStart? (h : SearchesHead lower start found)
    (htext : lower = front ++ rest) (hstart : Text.width front = start) :
    found = (headStart? rest).map (placeBehind front rest) := by
  induction h generalizing front rest with
  | nowhere hfinds =>
    subst htext hstart
    cases hhead : headStart? rest with
    | none => rfl
    | some count =>
      have hbegins := prefix_of_beginsHead (beginsHead_drop_of_headStart? hhead)
      have hholds := hbegins.isInfix.trans (List.drop_suffix count rest).isInfix
      exact absurd hholds hfinds.not_infix
  | head hfinds hends =>
    subst htext hstart
    obtain ⟨skipped, after, rfl, rfl, -, hsearch, hname⟩ := exists_of_finds_head hfinds
    have hfirst : headStart? ("<head" ++ after) = some 0 := if_pos (hname.1 hends)
    rw [hsearch, hfirst, Option.map_some, Option.map_some, placeBehind_append]
    simp [placeBehind]
  | skip hfinds hends _ ih =>
    subst htext hstart
    obtain ⟨skipped, after, rfl, rfl, hplace, hsearch, hname⟩ := exists_of_finds_head hfinds
    have htext : front ++ (skipped ++ ("<head" ++ after)) =
        front ++ skipped ++ "<head" ++ after := by simp
    rw [ih htext hplace, hsearch, headStart?_of_not_beginsHead (mt hname.2 hends),
      Option.map_map, Option.map_map]
    congr 1
    funext count
    simp only [Function.comp_apply]
    rw [placeBehind_append]
    exact (placeBehind_append (front ++ skipped) "<head" after count).symm

/-- The search for the head ends, as what is left of the text gets less with every turn. -/
theorem exists_searchesHead (front rest : Text) :
    ∃ found, SearchesHead (front ++ rest) (Text.width front) found := by
  induction hlength : rest.length using Nat.strong_induction_on generalizing front rest with
  | h length ih =>
    obtain ⟨found, hfinds⟩ := Text.exists_finds "<head" (front ++ rest) (Text.width front)
    cases found with
    | none => exact ⟨none, .nowhere hfinds⟩
    | some place =>
      by_cases hends : NameEndsAt (place + 5) (front ++ rest)
      · exact ⟨some place, .head hfinds hends⟩
      · obtain ⟨skipped, after, rfl, rfl, hplace, -, -⟩ := exists_of_finds_head hfinds
        have hless : after.length < length := by
          rw [← hlength, List.length_append, List.length_append]
          have : ("<head" : Text).length = 5 := rfl
          omega
        have htext : front ++ skipped ++ "<head" ++ after =
            front ++ (skipped ++ ("<head" ++ after)) := by simp
        obtain ⟨found, hrest⟩ := ih after.length hless (front ++ skipped ++ "<head") after rfl
        rw [hplace, htext] at hrest
        exact ⟨found, .skip hfinds hends hrest⟩

/-- **The search for the head ends, and it finds the first head tag**, or nothing if there is
none. -/
theorem searchesHead_iff :
    SearchesHead lower 0 found ↔
      found = (headStart? lower).map fun count => Text.width (lower.take count) := by
  have heq {found : Option Nat} (h : SearchesHead lower 0 found) :
      found = (headStart? lower).map fun count => Text.width (lower.take count) := by
    have hbehind : placeBehind [] lower = fun count => Text.width (lower.take count) :=
      funext fun count => Nat.zero_add _
    rw [← hbehind]
    exact h.eq_headStart? (List.nil_append lower).symm Text.width_nil
  refine ⟨heq, ?_⟩
  rintro rfl
  obtain ⟨found, hfound⟩ := exists_searchesHead [] lower
  rwa [← heq hfound]

/-! ### The place of the rule -/

/-- The place behind the spaces at the beginning of a text. -/
def contentStart (text : Text) : Nat := Text.width text - Text.width (Text.trimStart text)

/-- **Looking for the place of the rule** in a page in small letters: it is behind the closing
bracket of the head tag that is found first, or behind that of the document type if no head tag is
found. -/
inductive FindsPlace (lower : Text) : Option Nat → Prop
  | head {start : Nat} {close : Option Nat} (hsearch : SearchesHead lower 0 (some start))
      (hclose : Text.Finds ">" lower start close) : FindsPlace lower (close.map (· + 1))
  | doctype {close : Option Nat} (hsearch : SearchesHead lower 0 none)
      (hstands : Text.StandsAt "<!doctype" (contentStart lower) lower)
      (hclose : Text.Finds ">" lower (contentStart lower) close) :
      FindsPlace lower (close.map (· + 1))
  | fragment (hsearch : SearchesHead lower 0 none)
      (hstands : ¬ Text.StandsAt "<!doctype" (contentStart lower) lower) : FindsPlace lower none

/-- The place of the rule in bytes, if it has one inside the page. -/
def offset? (html : Text) : Option Nat :=
  (insertionPoint? html).map fun count => Text.width (html.take count)

/-- A tag is closed where a closing bracket is found. -/
theorem map_succ_of_finds {close : Option Nat}
    (h : Text.Finds ">" (front ++ rest) (Text.width front) close) :
    close.map (· + 1) = (tagLength? rest).map (placeBehind front rest) := by
  cases close with
  | none =>
    have hnone : '>' ∉ rest := fun hmem => h.not_infix ((List.singleton_infix_iff ..).2 hmem)
    rw [tagLength?_eq_none_iff.2 hnone]
    rfl
  | some place =>
    obtain ⟨skipped, after, rfl, rfl, hearlier⟩ := h.exists_append
    have hskipped : '>' ∉ skipped := by
      intro hmem
      obtain ⟨m, m', rfl⟩ := List.append_of_mem hmem
      exact hearlier m ('>' :: m') rfl (List.cons_ne_nil _ _) ⟨_, rfl⟩
    have hrest : skipped ++ ">" ++ after = skipped ++ '>' :: after := List.append_assoc ..
    rw [hrest, tagLength?_append hskipped, Option.map_some, Option.map_some, placeBehind_append,
      placeBehind, List.take_succ_cons, List.take_zero]
    rfl

/-- The same with the places told from the text as a whole. -/
theorem map_succ_of_finds_take {count : Nat} {close : Option Nat}
    (h : Text.Finds ">" lower (Text.width (lower.take count)) close) :
    close.map (· + 1) = ((tagLength? (lower.drop count)).map (count + ·)).map
      fun length => Text.width (lower.take length) := by
  have hcut : Text.Finds ">" (lower.take count ++ lower.drop count)
      (Text.width (lower.take count)) close := by
    rwa [List.take_append_drop]
  rw [map_succ_of_finds hcut, Option.map_map]
  congr 1
  funext length
  rw [Function.comp_apply, List.take_add, Text.width_append, placeBehind]

theorem contentStart_eq (text : Text) :
    contentStart text =
      Text.width (text.take (text.length - (Text.trimStart text).length)) := by
  obtain ⟨spaces, htext⟩ : Text.trimStart text <:+ text := List.dropWhile_suffix _
  have hlength := congrArg List.length htext
  have hwidth := congrArg Text.width htext
  rw [List.length_append] at hlength
  rw [Text.width_append] at hwidth
  have hcount : text.length - (Text.trimStart text).length = spaces.length := by omega
  have htake : text.take spaces.length = spaces := by
    rw [← htext]
    exact List.take_left
  rw [contentStart, hcount, htake]
  omega

theorem standsAt_take_iff {word text : Text} {count : Nat} :
    Text.StandsAt word (Text.width (text.take count)) text ↔ word.isPrefixOf (text.drop count) := by
  rw [List.isPrefixOf_iff_prefix, ← Text.standsAt_width_iff, List.take_append_drop]

/-- What is found in small letters is the place of the rule. -/
theorem FindsPlace.eq_offset? (h : FindsPlace (Text.toAsciiLower html) found) :
    found = offset? html := by
  have hoffset : offset? html = (insertionPoint? html).map
      fun count => Text.width ((Text.toAsciiLower html).take count) := by
    refine congrArg (Option.map · _) (funext fun count => ?_)
    rw [← Text.width_toAsciiLower, Text.toAsciiLower, List.map_take]
    rfl
  rw [hoffset]
  cases h with
  | head hsearch hclose =>
    obtain ⟨count, hcount, rfl⟩ := Option.map_eq_some_iff.1 (searchesHead_iff.1 hsearch).symm
    rw [map_succ_of_finds_take hclose]
    simp only [insertionPoint?, hcount]
  | doctype hsearch hstands hclose =>
    have hnone := Option.map_eq_none_iff.1 (searchesHead_iff.1 hsearch).symm
    rw [contentStart_eq] at hclose hstands
    rw [map_succ_of_finds_take hclose]
    simp only [insertionPoint?, hnone]
    rw [if_pos (standsAt_take_iff.1 hstands)]
  | fragment hsearch hstands =>
    have hnone := Option.map_eq_none_iff.1 (searchesHead_iff.1 hsearch).symm
    rw [contentStart_eq] at hstands
    simp only [insertionPoint?, hnone]
    rw [if_neg (mt standsAt_take_iff.2 hstands)]
    rfl

theorem exists_findsPlace (lower : Text) : ∃ found, FindsPlace lower found := by
  obtain ⟨found, hsearch⟩ := exists_searchesHead [] lower
  cases found with
  | some start =>
    obtain ⟨close, hclose⟩ := Text.exists_finds ">" lower start
    exact ⟨_, .head hsearch hclose⟩
  | none =>
    by_cases hstands : Text.StandsAt "<!doctype" (contentStart lower) lower
    · obtain ⟨close, hclose⟩ := Text.exists_finds ">" lower (contentStart lower)
      exact ⟨_, .doctype hsearch hstands hclose⟩
    · exact ⟨_, .fragment hsearch hstands⟩

/-- **The place that is found in small letters is the place of the rule**, and no other one is
found. -/
theorem findsPlace_iff : FindsPlace (Text.toAsciiLower html) found ↔ found = offset? html := by
  refine ⟨FindsPlace.eq_offset?, ?_⟩
  rintro rfl
  obtain ⟨found, hfound⟩ := exists_findsPlace (Text.toAsciiLower html)
  rwa [← hfound.eq_offset?]

/-- The place of the rule can be told from the page in small letters. -/
theorem offset?_congr {other : Text} (h : Text.toAsciiLower other = Text.toAsciiLower html) :
    offset? other = offset? html :=
  findsPlace_iff.1 (h ▸ findsPlace_iff.2 rfl)

/-! ### What is put in -/

/-- The text that is put into a page: at a place inside it a line feed and the rule, and in front of
it the rule and a line feed. -/
def insertion (size : PageSize) : Option Nat → Text
  | some _ => '\n' :: rule size
  | none => rule size ++ ['\n']

/-- A page is **rendered at** a place if that is one between two of its characters, and the rule is
put in there; without a place the rule is put in front of it. -/
def IsRenderedAt (html : Text) (size : PageSize) (place : Option Nat) : Prop :=
  ∃ before after, html = before ++ after ∧ Text.width before = place.getD 0 ∧
    render html size = before ++ insertion size place ++ after

/-- A page is rendered at the place of the rule. -/
theorem isRenderedAt_offset? (html : Text) (size : PageSize) :
    IsRenderedAt html size (offset? html) := by
  cases hplace : insertionPoint? html with
  | none =>
    have hoffset : offset? html = none := by rw [offset?, hplace]; rfl
    refine ⟨[], html, rfl, by rw [hoffset]; rfl, ?_⟩
    rw [hoffset]
    simp [render, hplace, insertion]
  | some count =>
    have hoffset : offset? html = some (Text.width (html.take count)) := by
      rw [offset?, hplace]
      rfl
    refine ⟨html.take count, html.drop count, (List.take_append_drop count html).symm, ?_, ?_⟩
    · rw [hoffset]
      rfl
    · rw [render_of_insertionPoint? hplace, hoffset]
      rfl

/-- **The rule stands behind the first head tag** of a page, if that tag is closed. -/
theorem insertionPoint?_of_firstHead {before inner after : Text}
    (hhead : BeginsHead (inner ++ '>' :: after))
    (hfirst : ∀ other rest, before ++ (inner ++ '>' :: after) = other ++ rest → BeginsHead rest →
      before.length ≤ other.length)
    (hinner : '>' ∉ inner) :
    insertionPoint? (before ++ (inner ++ '>' :: after)) =
      some (before ++ inner ++ ['>']).length := by
  obtain ⟨start, hle, hstart⟩ := exists_headStart?_of_beginsHead before hhead
  have hbegins := beginsHead_drop hstart
  have hbefore := hfirst _ _ (List.take_append_drop start _).symm hbegins
  have hlength : start = before.length :=
    Nat.le_antisymm hle (hbefore.trans (List.length_take_le start _))
  subst hlength
  rw [insertionPoint?_of_headStart? hstart, List.drop_left, tagLength?_append hinner]
  simp

/-- A character of two bytes and a header stand in front of a head tag that is closed on its second
line. -/
def headerPage : Text := "ß<header/><HEAD\nid=x>y"

/-- No head tag begins in front of the one of `headerPage`. -/
theorem le_length_of_beginsHead_headerPage {other rest : Text} (htext : headerPage = other ++ rest)
    (hhead : BeginsHead rest) : "ß<header/>".toList.length ≤ other.length := by
  have hnone : ∀ count < "ß<header/>".toList.length,
      beginsHead (Text.toAsciiLower (headerPage.drop count)) = false := by decide
  by_contra hlt
  have hrest := hnone other.length (Nat.lt_of_not_le hlt)
  rw [htext, List.drop_left, beginsHead_toAsciiLower_iff.2 hhead] at hrest
  cases hrest

end Page

end BoundReport
