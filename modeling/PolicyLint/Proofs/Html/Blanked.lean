/-
# What blanking leaves

Blanking leaves every byte outside of the comments as it is, and every line feed; all else in them
becomes spaces. No comment is left: blanks are no part of a mark, so a mark in the blanked text
stands in the text as well, with all that follows it.

* `Html.getElem?_bytes_blankComments` : the blanked text byte by byte;
* `Html.exists_append_of_blankFrom` : what is no blank in it stands in the text;
* `Html.not_hasComment_blankComments` : it has no comment;
* `Html.blankComments_keeps` : what blanking keeps and what it takes away.
-/
import PolicyLint.Proofs.Html.Comments
import PolicyLint.Proofs.Text.Bytes

namespace PolicyLint.Html

/-! ## The blanked text, byte by byte -/

/-- Whether the byte at an offset belongs to a comment. -/
def InComment (text : List Char) (i : Nat) : Prop :=
  ∃ s ∈ comment.spans text, s.offset ≤ i ∧ i < s.stop

/-- What becomes of a byte of a comment. -/
def blankByte (b : UInt8) : UInt8 := if b = Text.feed then Text.feed else Text.space

/-- Characters are blanked byte by byte. -/
theorem bytes_flatMap_blank (cs : List Char) :
    Text.bytes (cs.flatMap blank) = (Text.bytes cs).map blankByte := by
  have hspaces (n : Nat) : Text.bytes (List.replicate n ' ') = List.replicate n Text.space := by
    induction n with
    | zero => rfl
    | succ n ih =>
        rw [List.replicate_succ, Text.bytes_cons, ih, List.replicate_succ]
        rfl
  induction cs with
  | nil => rfl
  | cons c cs ih =>
      rw [List.flatMap_cons, Text.bytes_append, ih, Text.bytes_cons, List.map_append]
      congr 1
      by_cases hc : c = '\n'
      · subst hc
        rw [Text.utf8EncodeChar_feed]
        decide
      · rw [blank, if_neg hc, hspaces, ← String.length_utf8EncodeChar]
        symm
        rw [List.map_eq_replicate_iff]
        intro b hb
        refine if_neg ?_
        rintro rfl
        exact hc ((Text.feed_mem_utf8EncodeChar_iff c).mp hb)

/-- What becomes of the byte at an offset when some stretches are blanked. -/
def blankByteIn (spans : List Span) (i : Nat) (b : UInt8) : UInt8 :=
  if ∃ s ∈ spans, s.offset ≤ i ∧ i < s.stop then blankByte b else b

/-- In front of all stretches a byte stays. -/
theorem blankByteIn_of_lt {spans : List Span} {i : Nat} (h : ∀ s ∈ spans, i < s.offset)
    (b : UInt8) :
    blankByteIn spans i b = b := by
  refine if_neg ?_
  rintro ⟨s, hs, hstart, -⟩
  exact absurd (h s hs) (Nat.not_lt.mpr hstart)

/-- In the first stretch a byte is blanked. -/
theorem blankByteIn_cons_of_lt {s : Span} {spans : List Span} {i : Nat} (hstart : s.offset ≤ i)
    (hstop : i < s.stop) (b : UInt8) : blankByteIn (s :: spans) i b = blankByte b :=
  if_pos ⟨s, List.mem_cons_self, hstart, hstop⟩

/-- Behind the first stretch the others count. -/
theorem blankByteIn_cons_of_le {s : Span} {spans : List Span} {i : Nat} (hstop : s.stop ≤ i)
    (b : UInt8) : blankByteIn (s :: spans) i b = blankByteIn spans i b := by
  have hothers : (∃ t ∈ s :: spans, t.offset ≤ i ∧ i < t.stop) ↔
      ∃ t ∈ spans, t.offset ≤ i ∧ i < t.stop := by
    constructor
    · rintro ⟨t, ht, hstart, hend⟩
      rcases List.mem_cons.mp ht with rfl | ht
      · exact absurd hend (Nat.not_lt.mpr hstop)
      · exact ⟨t, ht, hstart, hend⟩
    · rintro ⟨t, ht, h⟩
      exact ⟨t, List.mem_cons_of_mem s ht, h⟩
  simp only [blankByteIn, hothers]

/-- From a place on, each byte in a comment is blanked and the others stay. By induction along the
search for comments: each step leaves a comment or one character behind. -/
theorem getElem?_bytes_blankFrom (offset : Nat) (fresh : Bool) (site : Site) (i : Nat) :
    (Text.bytes (blankFrom 0 none site.rest))[i]? =
      (Text.bytes site.rest)[i]?.map
        (blankByteIn (comment.spansFrom offset fresh site) (offset + i)) := by
  induction offset, fresh, site using Matcher.spansFrom.induct comment generalizing i with
  | case1 offset fresh p hfound => rfl
  | case2 offset fresh p hfound => rfl
  | case3 offset fresh p c cs n hm found ih =>
      simp only [Matcher.spansFrom, hm]
      rw [Site.rest_skip] at ih
      have hbytes : Text.bytes (c :: cs) = Text.bytes found ++ Text.bytes (cs.drop n) := by
        rw [← Text.bytes_append]
        exact congrArg Text.bytes (List.take_append_drop (n + 1) (c :: cs)).symm
      have hblanked : Text.bytes (blankFrom 0 none (c :: cs)) =
          (Text.bytes found).map blankByte ++ Text.bytes (blankFrom 0 none (cs.drop n)) := by
        rw [blankFrom_of_comment hm, Text.bytes_append, bytes_flatMap_blank]
      have hlength := Text.length_bytes found
      have hlength' : ((Text.bytes found).map blankByte).length = Text.size found := by
        rw [List.length_map, hlength]
      rw [hbytes, hblanked]
      by_cases hi : i < Text.size found
      · rw [List.getElem?_append_left (by omega), List.getElem?_append_left (by omega),
          List.getElem?_map]
        refine congrArg (fun f => Option.map f _) (funext fun b => ?_)
        rw [blankByteIn_cons_of_lt]
        · exact Nat.le_add_right offset i
        · exact Nat.add_lt_add_left hi offset
      · have hoffset : offset + Text.size found + (i - Text.size found) = offset + i := by omega
        rw [List.getElem?_append_right (by omega), List.getElem?_append_right (by omega), hlength,
          hlength', ih, hoffset]
        refine congrArg (fun f => Option.map f _) (funext fun b => ?_)
        rw [blankByteIn_cons_of_le]
        exact Nat.add_le_add_left (Nat.le_of_not_lt hi) offset
  | case4 offset fresh p c cs hm ih => exact absurd hm (comment_ne_some_zero _)
  | case5 offset fresh p c cs hm ih =>
      simp only [Matcher.spansFrom, hm]
      have hmatch : comment ⟨none, c :: cs⟩ = none := hm
      have hlength := String.length_utf8EncodeChar c
      rw [blankFrom_cons hmatch, Text.bytes_cons, Text.bytes_cons]
      by_cases hi : i < c.utf8Size
      · rw [List.getElem?_append_left (by omega), List.getElem?_append_left (by omega)]
        have hstay : blankByteIn (comment.spansFrom (offset + c.utf8Size) true ⟨some c, cs⟩)
            (offset + i) = id := by
          refine funext fun b => blankByteIn_of_lt (fun s hs => ?_) b
          have hle := Matcher.le_offset_of_mem_spansFrom hs
          omega
        rw [hstay, Option.map_id]
        rfl
      · have hoffset : offset + c.utf8Size + (i - c.utf8Size) = offset + i := by omega
        rw [List.getElem?_append_right (by omega), List.getElem?_append_right (by omega), hlength,
          ih, hoffset]

/-- **The blanked text, byte by byte**: a byte in a comment is blanked, any other stays. -/
theorem getElem?_bytes_blankComments (text : List Char) (i : Nat) :
    (Text.bytes (blankComments text))[i]? =
      (Text.bytes text)[i]?.map (blankByteIn (comment.spans text) i) := by
  have h := getElem?_bytes_blankFrom 0 true (Site.start text) i
  rw [Nat.zero_add] at h
  exact h

/-- Blanking keeps the size. -/
theorem size_blankComments (text : List Char) :
    Text.size (blankComments text) = Text.size text := by
  rw [← Text.length_bytes, ← Text.length_bytes]
  -- both have a byte at the same offsets
  apply Nat.le_antisymm
  · rw [← List.getElem?_eq_none_iff, getElem?_bytes_blankComments,
      List.getElem?_eq_none (Nat.le_refl _)]
    rfl
  · rw [← List.getElem?_eq_none_iff]
    have h := getElem?_bytes_blankComments text (Text.bytes (blankComments text)).length
    rw [List.getElem?_eq_none (Nat.le_refl _)] at h
    exact Option.map_eq_none_iff.mp h.symm

/-- A byte becomes a line feed exactly if it is one. -/
theorem blankByteIn_eq_feed_iff (spans : List Span) (i : Nat) (b : UInt8) :
    blankByteIn spans i b = Text.feed ↔ b = Text.feed := by
  rw [blankByteIn]
  split
  · rw [blankByte]
    split
    · rename_i hb
      exact ⟨fun _ => hb, fun _ => rfl⟩
    · rename_i hb
      exact ⟨fun h => absurd h (by decide), fun h => absurd h hb⟩
  · exact Iff.rfl

/-- **Blanking keeps the line of each offset.** -/
theorem line_ofOffset_blankComments (text : List Char) (n : Nat) :
    (Position.ofOffset (blankComments text) n).line = (Position.ofOffset text n).line := by
  have hfeeds : (Text.bytes (blankComments text)).map (· == Text.feed) =
      (Text.bytes text).map (· == Text.feed) := by
    apply List.ext_getElem?
    intro i
    rw [List.getElem?_map, List.getElem?_map, getElem?_bytes_blankComments, Option.map_map]
    refine congrArg (fun f => Option.map f _) (funext fun b => ?_)
    rw [Function.comp_apply, Bool.eq_iff_iff, beq_iff_eq, beq_iff_eq]
    exact blankByteIn_eq_feed_iff _ i b
  have hcount (bytes : List UInt8) : (bytes.take n).count Text.feed =
      ((bytes.map (· == Text.feed)).take n).count true := by
    rw [← List.map_take, List.count_eq_countP, List.count_eq_countP, List.countP_map]
    congr 1
    funext b
    simp
  rw [Position.line_ofOffset, Position.line_ofOffset, hcount, hcount, hfeeds]

/-! ## No comment is left -/

theorem noBlank_openingMark : ∀ c ∈ openingMark, NoBlank c := by
  have hall : openingMark.all (fun c => decide (NoBlank c)) = true := by decide
  exact fun c hc => of_decide_eq_true (List.all_eq_true.mp hall c hc)

theorem noBlank_closingMark : ∀ c ∈ closingMark, NoBlank c := by
  have hall : closingMark.all (fun c => decide (NoBlank c)) = true := by decide
  exact fun c hc => of_decide_eq_true (List.all_eq_true.mp hall c hc)

/-- What stands for a character takes some room. -/
theorem blank_ne_nil (c : Char) : blank c ≠ [] := by
  rw [blank]
  split
  · exact List.cons_ne_nil _ _
  · rw [Ne, List.replicate_eq_nil_iff]
    exact Nat.ne_of_gt c.utf8Size_pos

variable {d : Char} {cs rest : List Char}

/-- If a blanked text begins with no blank, the text begins with the same character, and not with a
comment. -/
theorem exists_of_blankFrom_eq_cons (hd : NoBlank d) (h : blankFrom 0 none cs = d :: rest) :
    ∃ more, cs = d :: more ∧ rest = blankFrom 0 none more ∧ comment ⟨none, cs⟩ = none := by
  rcases cs with _ | ⟨c, cs⟩
  · cases h
  · cases hm : comment ⟨none, c :: cs⟩ with
    | none =>
        rw [blankFrom_cons hm] at h
        obtain ⟨rfl, rfl⟩ := List.cons.inj h
        exact ⟨cs, rfl, rfl, rfl⟩
    | some n =>
        cases n with
        | zero => exact absurd hm (comment_ne_some_zero _)
        | succ n =>
            -- a blanked comment begins with a blank
            exfalso
            obtain ⟨b, bs, hb⟩ := List.exists_cons_of_ne_nil (blank_ne_nil c)
            have hmem : b ∈ [c].flatMap blank := by
              rw [List.flatMap_singleton, hb]
              exact List.mem_cons_self
            rw [blankFrom_of_comment hm, List.take_succ_cons, List.flatMap_cons, hb] at h
            rw [(List.cons.inj h).1] at hmem
            exact not_mem_flatMap_blank hd _ hmem

/-- If a blanked text begins with a mark without blanks, the text begins with the mark. -/
theorem exists_of_prefix_blankFrom {mark : List Char} (hmark : ∀ c ∈ mark, NoBlank c)
    (h : blankFrom 0 none cs = mark ++ rest) :
    ∃ more, cs = mark ++ more ∧ rest = blankFrom 0 none more := by
  induction mark generalizing cs with
  | nil => exact ⟨cs, rfl, h.symm⟩
  | cons d mark ih =>
      obtain ⟨more, rfl, hmore, -⟩ :=
        exists_of_blankFrom_eq_cons (hmark d List.mem_cons_self) h
      obtain ⟨more, rfl, hrest⟩ := ih (fun c hc => hmark c (List.mem_cons_of_mem d hc)) hmore.symm
      exact ⟨more, rfl, hrest⟩

/-- A comment is blanked in front of whatever follows it. -/
theorem blankFrom_append_of_comment {p : Option Char} {n : Nat} (h : comment ⟨p, cs⟩ = some n)
    (rest : List Char) :
    blankFrom 0 none (cs.take n ++ rest) =
      (cs.take n).flatMap blank ++ blankFrom 0 none rest := by
  obtain ⟨body, behind, rfl, hbody, rfl⟩ := comment_eq_some h
  rw [List.take_left]
  exact blankFrom_comment body rest hbody

/-- Where no comment begins in a text, none begins in a beginning of what follows. -/
theorem comment_eq_none_of_append {p : Option Char} (h : comment ⟨p, cs ++ rest⟩ = none) :
    comment ⟨p, cs⟩ = none := by
  rw [← Option.not_isSome_iff_eq_none, isSome_comment_iff] at h ⊢
  rintro ⟨more, rfl, hclosed⟩
  refine h ⟨more ++ rest, List.append_assoc _ _ _, ?_⟩
  exact hclosed.trans (List.prefix_append more rest).isInfix

/-- What is no blank in a blanked text stands in the text, outside of comments. By induction along
the search for comments: a comment lies on one side of it as a whole. -/
theorem exists_append_of_blankFrom_rest (hd : NoBlank d) (offset : Nat) (fresh : Bool)
    (site : Site) {before : List Char} (h : blankFrom 0 none site.rest = before ++ d :: rest) :
    ∃ front back, site.rest = front ++ d :: back ∧ blankFrom 0 none front = before ∧
      blankFrom 0 none back = rest ∧ comment ⟨none, d :: back⟩ = none := by
  induction offset, fresh, site using Matcher.spansFrom.induct comment generalizing before with
  | case1 offset fresh p hfound => cases before <;> cases h
  | case2 offset fresh p hfound => cases before <;> cases h
  | case3 offset fresh p c cs n hm found =>
      rename_i ih
      rw [Site.rest_skip] at ih
      have hfound : c :: cs = found ++ cs.drop n := (List.take_append_drop (n + 1) (c :: cs)).symm
      have hblanked : found.flatMap blank ++ blankFrom 0 none (cs.drop n) = before ++ d :: rest :=
        (blankFrom_of_comment hm).symm.trans h
      -- it stands behind the blanks of the comment
      obtain ⟨more, rfl, hmore⟩ : ∃ more, before = found.flatMap blank ++ more ∧
          blankFrom 0 none (cs.drop n) = more ++ d :: rest := by
        rcases List.append_eq_append_iff.mp hblanked with
          ⟨more, hbefore, hmore⟩ | ⟨_ | ⟨b, bs⟩, hblanks, hmore⟩
        · exact ⟨more, hbefore, hmore⟩
        · refine ⟨[], ?_, hmore.symm⟩
          rw [hblanks, List.append_nil, List.append_nil]
        · obtain ⟨rfl, -⟩ := List.cons.inj hmore
          refine absurd ?_ (not_mem_flatMap_blank hd found)
          rw [hblanks]
          exact List.mem_append_right _ List.mem_cons_self
      obtain ⟨front, back, hback, rfl, hrest⟩ := ih hmore
      refine ⟨found ++ front, back, ?_, blankFrom_append_of_comment hm front, hrest⟩
      rw [List.append_assoc, ← hback]
      exact hfound
  | case4 offset fresh p c cs hm ih => exact absurd hm (comment_ne_some_zero _)
  | case5 offset fresh p c cs hm ih =>
      have hmatch : comment ⟨none, c :: cs⟩ = none := hm
      have hcons : c :: blankFrom 0 none cs = before ++ d :: rest :=
        (blankFrom_cons hmatch).symm.trans h
      rcases before with _ | ⟨b, before⟩
      · obtain ⟨rfl, hrest⟩ := List.cons.inj hcons
        exact ⟨[], cs, rfl, rfl, hrest, hmatch⟩
      · obtain ⟨rfl, hrest⟩ := List.cons.inj hcons
        obtain ⟨front, back, hback, hfront, hbehind⟩ := ih hrest
        have hback : cs = front ++ d :: back := hback
        refine ⟨c :: front, back, congrArg (c :: ·) hback, ?_, hbehind⟩
        rw [hback, ← List.cons_append] at hmatch
        rw [blankFrom_cons (comment_eq_none_of_append hmatch), hfront]

/-- **What is no blank in a blanked text** stands in the text, and no comment begins there. What
precedes it and what follows it are blanked each on its own. -/
theorem exists_append_of_blankFrom (hd : NoBlank d) {text before : List Char}
    (h : blankFrom 0 none text = before ++ d :: rest) :
    ∃ front back, text = front ++ d :: back ∧ blankFrom 0 none front = before ∧
      blankFrom 0 none back = rest ∧ comment ⟨none, d :: back⟩ = none :=
  exists_append_of_blankFrom_rest hd 0 true (Site.start text) h

/-- An end of a blanked text that begins with no blank is an end of the text, blanked. -/
theorem exists_of_suffix_blankFrom (hd : NoBlank d) (h : d :: rest <:+ blankFrom 0 none cs) :
    ∃ ds, ds <:+ cs ∧ blankFrom 0 none ds = d :: rest := by
  obtain ⟨before, hbefore⟩ := h
  obtain ⟨front, back, rfl, -, hrest, hnone⟩ := exists_append_of_blankFrom hd hbefore.symm
  exact ⟨d :: back, List.suffix_append _ _, by rw [blankFrom_cons hnone, hrest]⟩

/-- **No comment is left.** The marks of one in the blanked text would stand in the text as well,
one behind the other, and so be blanked. -/
theorem not_hasComment_blankComments (text : List Char) : ¬ HasComment (blankComments text) := by
  rw [hasComment_iff]
  rintro ⟨before, rest, htext, h⟩
  obtain ⟨more, rfl, hclosed⟩ := (isSome_comment_iff _ _).mp h
  -- the opening mark stands in the text where no comment begins
  have hopen : NoBlank '<' := noBlank_openingMark _ List.mem_cons_self
  obtain ⟨cs, -, hcs⟩ := exists_of_suffix_blankFrom hopen ⟨before, htext.symm⟩
  obtain ⟨-, -, -, hnone⟩ := exists_of_blankFrom_eq_cons hopen hcs
  obtain ⟨inner, rfl, rfl⟩ := exists_of_prefix_blankFrom noBlank_openingMark hcs
  -- and the closing mark behind it
  obtain ⟨body, behind, hbody⟩ := hclosed
  rw [List.append_assoc] at hbody
  have hclose : NoBlank '-' := noBlank_closingMark _ List.mem_cons_self
  obtain ⟨ds, hds, heq⟩ := exists_of_suffix_blankFrom hclose ⟨body, hbody⟩
  obtain ⟨rest, rfl, -⟩ := exists_of_prefix_blankFrom noBlank_closingMark heq
  have hsome := (isSome_comment_iff none (openingMark ++ inner)).mpr
    ⟨inner, rfl, (List.prefix_append closingMark rest).isInfix.trans hds.isInfix⟩
  rw [hnone] at hsome
  cases hsome

/-- A text without comments stays as it is. -/
theorem blankComments_of_not_hasComment {text : List Char} (h : ¬ HasComment text) :
    blankComments text = text := by
  rw [blankComments]
  induction text with
  | nil => rfl
  | cons c cs ih =>
      rw [hasComment_iff] at h
      have hnone : comment ⟨none, c :: cs⟩ = none :=
        Option.not_isSome_iff_eq_none.mp fun hsome => h ⟨[], c :: cs, rfl, hsome⟩
      have hcs : ¬ HasComment cs := by
        rw [hasComment_iff]
        rintro ⟨before, rest, rfl, hsome⟩
        exact h ⟨c :: before, rest, rfl, hsome⟩
      rw [blankFrom_cons hnone, ih hcs]

/-- **A text stays as it is exactly if it has no comment.** -/
theorem blankComments_eq_self_iff {text : List Char} :
    blankComments text = text ↔ ¬ HasComment text := by
  refine ⟨fun h => ?_, blankComments_of_not_hasComment⟩
  rw [← h]
  exact not_hasComment_blankComments text

/-! ## What blanking does -/

/-- **What blanking keeps and what it takes away.** The comments of a text are blanked one after the
other: each goes from an opening mark to the nearest closing one, from left to right and without
overlap. The size stays, every byte outside of the comments stays, and in them the line feeds stay
and all else becomes spaces. No comment is left, so blanking again changes nothing; and each offset
keeps its line. -/
theorem blankComments_keeps (text : List Char) :
    AreComments text (comment.spans text) ∧ blankComments? text = some (blankComments text) ∧
    Text.size (blankComments text) = Text.size text ∧
    (∀ i, ¬ InComment text i → (Text.bytes (blankComments text))[i]? = (Text.bytes text)[i]?) ∧
    (∀ i b, InComment text i → (Text.bytes text)[i]? = some b →
      (Text.bytes (blankComments text))[i]? =
        some (if b = Text.feed then Text.feed else Text.space)) ∧
    ¬ HasComment (blankComments text) ∧
    blankComments (blankComments text) = blankComments text ∧
    ∀ n, (Position.ofOffset (blankComments text) n).line = (Position.ofOffset text n).line := by
  refine ⟨areComments_spans text, blankComments?_eq text, size_blankComments text,
    fun i hi => ?_, fun i b hi hb => ?_, not_hasComment_blankComments text,
    blankComments_of_not_hasComment (not_hasComment_blankComments text),
    line_ofOffset_blankComments text⟩
  · have hstay : blankByteIn (comment.spans text) i = id := funext fun b => if_neg hi
    rw [getElem?_bytes_blankComments, hstay, Option.map_id]
    rfl
  · have hblank : blankByteIn (comment.spans text) i b = blankByte b := if_pos hi
    rw [getElem?_bytes_blankComments, hb, Option.map_some, hblank]
    rfl

/-- A closing mark that overlaps the opening one closes nothing, and an opening mark that is never
closed stays. -/
example : blankComments "a<!-->é\nx-->b<!--".toList = "a       \n    b<!--".toList := by decide

end PolicyLint.Html
