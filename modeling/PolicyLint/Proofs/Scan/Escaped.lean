/-
# Escaped globs

A path is escaped character by character, and slashes are left as they are. So the glob of the
sources of a directory parses, its pieces are those of the directory, then two stars, and then a star
with the ending. A piece of the directory matches no name but itself, and the last piece matches the
names that end so.

* `Glob.plain` : the tokens of an escaped text;
* `Glob.IsRead.escape` : an escaped text is read as these;
* `Glob.mapM_parse_sourceGlob` : the pieces of the glob of the sources of a directory;
* `Glob.matchesTokens_plain`, `Glob.matchesTokens_lastPiece` : what pieces match;
* `Glob.walk_sourceGlob` : what the glob of the sources of a directory leads to.
-/
import PolicyLint.Proofs.Path.Steps
import PolicyLint.Proofs.Traversal
import PolicyLint.Scan.Target

namespace PolicyLint

/-- Without marks a text is the front of the first piece of what goes on from it. -/
theorem Text.splitAt_append_of_not_mem {mark : Char} {as : List Char} (h : mark ∉ as)
    {bs piece : List Char} {rest : List (List Char)} (hbs : splitAt mark bs = piece :: rest) :
    splitAt mark (as ++ bs) = (as ++ piece) :: rest := by
  induction as with
  | nil => exact hbs
  | cons c cs ih =>
      rw [List.mem_cons, not_or] at h
      rw [List.cons_append, splitAt, if_neg (Ne.symm h.1), ih h.2]
      rfl

namespace Glob

/-! ## Reading -/

/-- The tokens of an escaped text, one for each character. -/
def plain (cs : List Char) : List Token :=
  cs.map fun c => if isWild c then .within [.single c] else .char c

/-- The characters with a meaning of their own. -/
theorem isWild_iff {c : Char} : isWild c = true ↔ c = '?' ∨ c = '*' ∨ c = '[' ∨ c = ']' := by
  simp [isWild, or_assoc]

/-- A character in brackets is a set. -/
theorem set?_of_isWild {c : Char} (h : isWild c = true) (rest : List Char) :
    set? (c :: ']' :: rest) = some (.within [.single c], rest) := by
  rcases isWild_iff.mp h with rfl | rfl | rfl | rfl <;> rfl

/-- A text is escaped one character after the other. -/
theorem escapeChars_cons (c : Char) (cs : List Char) :
    escapeChars (c :: cs) = escapeChars [c] ++ escapeChars cs := by
  rw [escapeChars, escapeChars, List.flatMap_cons, List.flatMap_singleton]
  rfl

/-- Whether a text is read as the given tokens, wherever it stands. -/
def IsRead (cs : List Char) (ts : List Token) : Prop :=
  ∀ fuel atStart place, cs.length ≤ fuel → tokens fuel atStart place cs = .ok ts

/-- An escaped character is read as its token. -/
theorem IsRead.escape_cons {cs : List Char} {ts : List Token} (h : IsRead cs ts) (c : Char) :
    IsRead (escapeChars [c] ++ cs) (plain [c] ++ ts) := by
  intro fuel atStart place hfuel
  by_cases hwild : isWild c = true
  · have hescape : escapeChars [c] = ['[', c, ']'] := by
      rw [escapeChars, List.flatMap_singleton, if_pos hwild]
    have hplain : plain [c] = [.within [.single c]] := by
      rw [plain, List.map_singleton, if_pos hwild]
    rw [hescape] at hfuel ⊢
    obtain ⟨n, rfl⟩ := Nat.exists_eq_add_of_le' (Nat.lt_of_lt_of_le (Nat.zero_lt_succ _) hfuel)
    -- the character and its brackets are three, but one token, which takes one unit of fuel
    show tokens (n + 1) atStart place ('[' :: c :: ']' :: cs) = _
    rw [tokens, if_neg (by decide), if_neg (by decide), if_pos rfl, set?_of_isWild hwild]
    dsimp only
    rw [h n _ _ (by simp at hfuel; omega), hplain]
    rfl
  · have hescape : escapeChars [c] = [c] := by
      rw [escapeChars, List.flatMap_singleton, if_neg hwild]
    have hplain : plain [c] = [.char c] := by
      rw [plain, List.map_singleton, if_neg hwild]
    have hne {d : Char} (hd : isWild d = true) : c ≠ d := fun heq => hwild (heq ▸ hd)
    rw [hescape] at hfuel ⊢
    obtain ⟨n, rfl⟩ := Nat.exists_eq_add_of_le' (Nat.lt_of_lt_of_le (Nat.zero_lt_succ _) hfuel)
    show tokens (n + 1) atStart place (c :: cs) = _
    rw [tokens, if_neg (hne rfl), if_neg (hne rfl), if_neg (hne rfl),
      h n _ _ (by simpa using hfuel), hplain]
    rfl

/-- **An escaped text is read as its tokens.** -/
theorem IsRead.escape {rest : List Char} {ts : List Token} (h : IsRead rest ts) (cs : List Char) :
    IsRead (escapeChars cs ++ rest) (plain cs ++ ts) := by
  induction cs with
  | nil => exact h
  | cons c cs ih =>
      rw [escapeChars_cons, List.append_assoc]
      exact ih.escape_cons c

theorem isRead_nil : IsRead [] [] := by
  rintro (_ | fuel) atStart place -
  · rfl
  · rfl

/-- What is read as tokens parses. -/
theorem IsRead.parse {cs : List Char} {ts : List Token} (h : IsRead cs ts) :
    Glob.parse (String.ofList cs) = .ok ts := by
  rw [Glob.parse, String.toList_ofList]
  exact h _ _ _ (Nat.le_refl _)

/-- A piece of an escaped path parses. -/
theorem parse_escapeChars (cs : List Char) :
    Glob.parse (String.ofList (escapeChars cs)) = .ok (plain cs) := by
  have h := isRead_nil.escape cs
  rw [List.append_nil, List.append_nil] at h
  exact h.parse

/-- The last piece of the glob of the sources with an ending. -/
def lastPiece (ending : String) : List Token := .anySequence :: plain ending.toList

/-- The end of a glob of sources is read. -/
theorem isRead_tail {ending : String} (h : ending ∈ Scan.sourceEnds) :
    IsRead ("/**/*" ++ ending).toList (.char '/' :: .anyPieces :: lastPiece ending) := by
  intro fuel atStart place hfuel
  obtain ⟨n, rfl⟩ := Nat.exists_eq_add_of_le' hfuel
  simp only [Scan.sourceEnds, List.mem_cons, List.not_mem_nil, or_false] at h
  rcases h with rfl | rfl | rfl <;> rfl

/-- The characters of the glob of the sources of a directory. -/
theorem toList_sourceGlob (d ending : String) :
    (Scan.sourceGlob d ending).toList = escapeChars d.toList ++ ("/**/*" ++ ending).toList := by
  rw [Scan.sourceGlob, Glob.escape, String.append_assoc, String.toList_append, String.toList_ofList]

/-- The glob of the sources of a directory parses. -/
theorem parse_sourceGlob (d : String) {ending : String} (h : ending ∈ Scan.sourceEnds) :
    ∃ ts, Glob.parse (Scan.sourceGlob d ending) = .ok ts := by
  have hglob : Scan.sourceGlob d ending =
      String.ofList (escapeChars d.toList ++ ("/**/*" ++ ending).toList) := by
    rw [← toList_sourceGlob, String.ofList_toList]
  rw [hglob]
  exact ⟨_, ((isRead_tail h).escape d.toList).parse⟩

/-! ## Pieces -/

/-- The pieces of an escaped text are those of the text, escaped. -/
theorem pieces_escapeChars (cs : List Char) :
    Path.pieces (escapeChars cs) = (Path.pieces cs).map escapeChars := by
  induction cs with
  | nil => rfl
  | cons c cs ih =>
      rw [escapeChars_cons]
      by_cases hslash : c = '/'
      · -- a slash is escaped as itself and ends a piece before and after
        rw [hslash]
        show [] :: Path.pieces (escapeChars cs) = (Path.pieces ('/' :: cs)).map escapeChars
        rw [ih, Path.pieces, Path.pieces, Text.splitAt, if_pos rfl, List.map_cons]
        rfl
      · -- whatever another character is escaped as has no slash, and goes in front of a piece
        have hmem : '/' ∉ escapeChars [c] := by
          rw [escapeChars, List.flatMap_singleton]
          split
          · simp [Ne.symm hslash]
          · simp [Ne.symm hslash]
        cases hcs : Path.pieces cs with
        | nil => exact absurd hcs (Text.splitAt_ne_nil _ _)
        | cons p ps =>
            have hpieces : Path.pieces (c :: cs) = (c :: p) :: ps := by
              rw [Path.pieces] at hcs ⊢
              rw [Text.splitAt, if_neg hslash, hcs]
            rw [hcs, List.map_cons] at ih
            rw [hpieces, Path.pieces, Text.splitAt_append_of_not_mem hmem ih, List.map_cons,
              escapeChars_cons c p]

/-- The pieces of the end of a glob of sources, and what they are read as. -/
theorem mapM_parse_tail {ending : String} (h : ending ∈ Scan.sourceEnds) :
    ((Path.pieces ('*' :: '*' :: '/' :: '*' :: ending.toList)).map String.ofList).mapM Glob.parse =
      .ok [[.anyPieces], lastPiece ending] := by
  simp only [Scan.sourceEnds, List.mem_cons, List.not_mem_nil, or_false] at h
  rcases h with rfl | rfl | rfl <;> rfl

/-- **The pieces of the glob of the sources of a directory** are those of the directory, two stars,
and the last piece. -/
theorem mapM_parse_sourceGlob (d : String) {ending : String} (h : ending ∈ Scan.sourceEnds) :
    ((Path.pieces (Scan.sourceGlob d ending).toList).map String.ofList).mapM Glob.parse =
      .ok ((Path.pieces d.toList).map plain ++ [[.anyPieces], lastPiece ending]) := by
  have htail : ("/**/*" ++ ending).toList = '/' :: '*' :: '*' :: '/' :: '*' :: ending.toList := by
    rw [String.toList_append]
    rfl
  have hpieces : Path.pieces (Scan.sourceGlob d ending).toList =
      (Path.pieces d.toList).map escapeChars ++
        Path.pieces ('*' :: '*' :: '/' :: '*' :: ending.toList) := by
    rw [toList_sourceGlob, htail, ← pieces_escapeChars]
    exact Text.splitAt_append _ _ _
  rw [hpieces, List.map_append, List.mapM_eq_ok_iff]
  refine List.rel_append ?_ (List.mapM_eq_ok_iff.mp (mapM_parse_tail h))
  rw [List.map_map, List.forall₂_map_left_iff, List.forall₂_map_right_iff]
  exact List.forall₂_same.mpr fun cs _ => parse_escapeChars cs

/-! ## Matching -/

/-- An escaped text without wildcards is its own. -/
theorem text?_plain (cs : List Char) :
    text? (plain cs) = if cs.any isWild then none else some (String.ofList cs) := by
  have hmapM : (plain cs).mapM Token.char? = if cs.any isWild then none else some cs := by
    induction cs with
    | nil => rfl
    | cons c cs ih =>
        have hcons : plain (c :: cs) = plain [c] ++ plain cs := rfl
        rw [hcons, plain, List.map_singleton, List.singleton_append, List.mapM_cons, ih,
          List.any_cons]
        cases isWild c with
        | true => rfl
        | false =>
            rw [Bool.false_or]
            cases cs.any isWild <;> rfl
  rw [text?, hmapM]
  split
  · rfl
  · rfl

/-- An escaped text is no two stars on their own. -/
theorem isRecursive_plain (cs : List Char) : isRecursive (plain cs) = false := by
  rw [isRecursive, List.contains_eq_any_beq, plain, List.any_map, List.any_eq_false]
  intro c _
  rw [Function.comp_apply]
  split
  · exact Bool.false_ne_true
  · exact Bool.false_ne_true

/-- The token of a character takes it off, and nothing else. -/
theorem leaves_plain (c : Char) (ss : List (List Char)) :
    (if isWild c then Token.within [.single c] else .char c).leaves ss =
      ss.filterMap fun
        | d :: ds => if d = c then some ds else none
        | [] => none := by
  have haccepts (d : Char) :
      (if isWild c then Token.within [.single c] else .char c).accepts d = (d == c) := by
    split
    · show [Range.single c].any (·.has d) = _
      rw [List.any_cons, List.any_nil, Bool.or_false]
      rfl
    · rfl
  have hleaves : (if isWild c then Token.within [.single c] else .char c).leaves ss =
      ss.filterMap fun
        | d :: ds => if (if isWild c then Token.within [.single c] else .char c).accepts d
            then some ds else none
        | [] => none := by
    split
    · rfl
    · rfl
  rw [hleaves]
  congr 1
  funext s
  cases s with
  | nil => rfl
  | cons d ds => simp only [haccepts, beq_iff_eq]

/-- **An escaped text matches itself only**, among the texts that may be left to match. -/
theorem contains_foldl_plain (cs : List Char) (ss : List (List Char)) :
    ((plain cs).foldl (fun ss t => t.leaves ss) ss).contains [] = true ↔ cs ∈ ss := by
  induction cs generalizing ss with
  | nil => exact List.contains_iff_mem
  | cons c cs ih =>
      rw [plain, List.map_cons, List.foldl_cons, leaves_plain]
      refine (ih _).trans ?_
      rw [List.mem_filterMap]
      constructor
      · rintro ⟨_ | ⟨d, ds⟩, hmem, heq⟩
        · cases heq
        · dsimp only at heq
          split at heq
          · rename_i hd
            cases heq
            exact hd ▸ hmem
          · cases heq
      · exact fun hmem => ⟨_, hmem, if_pos rfl⟩

/-- A piece of an escaped path matches itself only. -/
theorem matchesTokens_plain {cs name : List Char} :
    matchesTokens (plain cs) name = true ↔ name = cs := by
  rw [matchesTokens, contains_foldl_plain, List.mem_singleton, eq_comm]

/-- The endings of a text are all that it ends with. -/
theorem mem_endings_iff {cs ending : List Char} : ending ∈ endings cs ↔ ending <:+ cs := by
  induction cs with
  | nil => rw [endings, List.mem_singleton, List.suffix_nil]
  | cons c cs ih => rw [endings, List.mem_cons, ih, List.suffix_cons_iff]

/-- The last piece matches the names that end so. -/
theorem matchesTokens_lastPiece {ending : String} {name : List Char} :
    matchesTokens (lastPiece ending) name = true ↔ ending.toList <:+ name := by
  rw [matchesTokens, lastPiece, List.foldl_cons, Token.leaves, contains_foldl_plain, mem_endings_iff]

/-! ## The glob of the sources of a directory -/

/-- Where a path is walked from, as it is written. -/
def origin (d : String) : String := if Path.isAbsolute d then "/" else "."

/-- The pieces of a path after the root. -/
def piecesFrom (d : String) : List (List Char) :=
  if Path.isAbsolute d then (Path.pieces d.toList).drop 1 else Path.pieces d.toList

/-- **What the glob of the sources of a directory leads to.** -/
theorem walk_sourceGlob {w : Workspace} {d ending : String} (hne : d ≠ "")
    (h : ending ∈ Scan.sourceEnds) :
    walk w (Scan.sourceGlob d ending) =
      (advance w ((piecesFrom d).map plain ++ [[.anyPieces], lastPiece ending])
        (.of w (origin d))).map Place.path := by
  have habsolute : Path.isAbsolute (Scan.sourceGlob d ending) = Path.isAbsolute d := by
    obtain ⟨c, cs, hd⟩ := List.exists_cons_of_ne_nil (mt String.toList_eq_nil_iff.mp hne)
    rw [Path.isAbsolute, Path.isAbsolute, toList_sourceGlob, hd, escapeChars_cons, escapeChars,
      List.flatMap_singleton]
    -- a first character that is put in brackets is no slash; any other stays in front
    by_cases hwild : isWild c = true
    · rw [if_pos hwild]
      rcases isWild_iff.mp hwild with rfl | rfl | rfl | rfl <;> rfl
    · rw [if_neg hwild]
      rfl
  obtain ⟨ts, hparse⟩ := parse_sourceGlob d h
  rw [walk, hparse, mapM_parse_sourceGlob d h, habsolute, origin, piecesFrom]
  dsimp only
  split
  · rw [List.drop_append_of_le_length (by
      rw [List.length_map]
      exact List.length_pos_iff.mpr (Text.splitAt_ne_nil _ _)), List.map_drop]
  · rfl

end Glob

end PolicyLint
