/-
# Tokens of a YAML text

A text is a sequence of tokens. Indentation opens and closes blocks: a block has a margin, one more
than the column of its items, and it ends in front of a token that stands left of it. A key is only
known as one when its colon comes, on the same line and within 1024 characters; its token is then
put in where the key began.

* `Yaml.Token` : the tokens;
* `Yaml.tokens?` : all tokens of a text.
-/
import PolicyLint.Yaml.Scalar

namespace PolicyLint.Yaml

/-- A token. -/
inductive Token where
  | version (major minor : Nat)
  | tagHandle (handle uri : String)
  | documentStart
  | documentEnd
  | blockSequence
  | blockMapping
  | blockEnd
  | flowSequence
  | flowSequenceEnd
  | flowMapping
  | flowMappingEnd
  | blockEntry
  | flowEntry
  | key
  | value
  | alias (name : String)
  | anchor (name : String)
  | tag (handle suffix : String)
  | scalar (isPlain : Bool) (text : String)
deriving DecidableEq, Repr

/-! ## Anchors, tags and directives -/

/-- Whether a character may stand in a name. -/
def isNameChar (c : Char) : Bool := c.isAlphanum || c = '_' || c = '-'

/-- The name of an anchor after its mark, and the place after it. -/
def anchorName? (c : Cursor) : Option (String × Cursor) :=
  let name := c.rest.takeWhile isNameChar
  let next := c.skip name.length
  let ends := endsWord next.rest || next.rest.head?.any ("?:,]\x7d%@`".toList.contains ·)
  if name.isEmpty || !ends then none else some (String.ofList name, next)

/-- Whether a character may stand in a tag; in a tag between angles brackets and commas may too. -/
def isTagChar (inAngles : Bool) (c : Char) : Bool :=
  isNameChar c || ";/?:@&=+$.!~*'()".toList.contains c
    || (inAngles && (c = ',' || c = '[' || c = ']'))

/-- A byte written as a percent sign and two hexadecimal digits. -/
def percentByte? : List Char → Option (Nat × List Char)
  | '%' :: a :: b :: cs => (Text.hexNumber? 2 [a, b]).map (·, cs)
  | _ => none

/-- So many bytes of a character after its first one, and what follows them. -/
def percentTail? : Nat → Nat → List Char → Option (Nat × List Char)
  | 0, n, cs => some (n, cs)
  | count + 1, n, cs => do
      let (b, cs) ← percentByte? cs
      if b / 64 = 2 then percentTail? count (64 * n + b % 64) cs else none

/-- A character written as the bytes of its form in UTF-8, and what follows it. -/
def percentChar? (cs : List Char) : Option (Char × List Char) := do
  let (b, cs) ← percentByte? cs
  let (n, cs) ←
    if b < 0x80 then pure (b, cs)
    else if b / 32 = 6 then percentTail? 1 (b % 32) cs
    else if b / 16 = 14 then percentTail? 2 (b % 16) cs
    else if b / 8 = 30 then percentTail? 3 (b % 8) cs
    else none
  return ((Text.charAt? n).getD '\ufffd', cs)

/-- The characters of a tag at the start of a text, at most `fuel` of them, and what follows. -/
def tagChars? (inAngles : Bool) : Nat → List Char → Option (List Char × List Char)
  | 0, cs => some ([], cs)
  | _, [] => some ([], [])
  | fuel + 1, c :: cs =>
    if c = '%' then do
      let (d, rest) ← percentChar? (c :: cs)
      let (ds, rest) ← tagChars? inAngles fuel rest
      return (d :: ds, rest)
    else if isTagChar inAngles c then
      (tagChars? inAngles fuel cs).map fun (ds, rest) => (c :: ds, rest)
    else some ([], c :: cs)

/-- The handle at the start of a text that begins with an exclamation mark: up to a second such mark
after a name, or just the mark and the name. -/
def tagHandle (cs : List Char) : List Char × List Char :=
  let name := (cs.drop 1).takeWhile isNameChar
  match cs.drop (name.length + 1) with
  | '!' :: rest => ('!' :: name ++ ['!'], rest)
  | rest => ('!' :: name, rest)

/-- The handle and the suffix of a tag at a place, and the place after it. -/
def tag? (inFlow : Bool) (c : Cursor) : Option (Token × Cursor) := do
  let (handle, suffix, rest) ←
    match c.rest with
    | '!' :: '<' :: cs => do
        let (uri, rest) ← tagChars? true cs.length cs
        match uri, rest with
        | _ :: _, '>' :: rest => pure ([], uri, rest)
        | _, _ => none
    | cs => do
        let (handle, rest) := tagHandle cs
        let (suffix, after) ← tagChars? false rest.length rest
        if 2 ≤ handle.length && handle.getLast? = some '!' then
          if suffix.isEmpty then none else pure (handle, suffix, after)
        else
          let suffix := handle.drop 1 ++ suffix
          if suffix.isEmpty then pure ([], ['!'], after) else pure (['!'], suffix, after)
  if endsWord rest || (inFlow && rest.head? = some ',') then
    return (.tag (String.ofList handle) (String.ofList suffix), c.skipTo rest)
  else none

/-- A number of at most nine digits, and what follows it. -/
def versionNumber? (cs : List Char) : Option (Nat × List Char) :=
  let ds := cs.takeWhile Char.isDigit
  if ds.isEmpty || 9 < ds.length then none
  else some (ds.foldl (fun n d => 10 * n + (d.toNat - 48)) 0, cs.dropWhile Char.isDigit)

/-- The directive after its mark at a place, and the place on the next line. -/
def directive? (c : Cursor) : Option (Token × Cursor) := do
  let name := c.rest.takeWhile isNameChar
  let c := c.skip name.length
  if !endsWord c.rest then none
  let c := c.skipWhile isBlank
  match String.ofList name with
  | "YAML" => do
      let (major, rest) ← versionNumber? c.rest
      let (minor, rest) ← match rest with
        | '.' :: rest => versionNumber? rest
        | _ => none
      return (.version major minor, ← (c.skipTo rest).lineTail?)
  | "TAG" => do
      if c.rest.head? ≠ some '!' then none
      let (handle, rest) := tagHandle c.rest
      if 2 ≤ handle.length && handle.getLast? ≠ some '!' then none
      if !(rest.head?.any isBlank) then none
      let uri := rest.dropWhile isBlank
      let (prefixChars, rest) ← tagChars? true uri.length uri
      if prefixChars.isEmpty || !endsWord rest then none
      return (.tagHandle (String.ofList handle) (String.ofList prefixChars),
        ← (c.skipTo rest).lineTail?)
  | _ => none

/-! ## The state between tokens -/

/-- What may turn out to be a key: the number of tokens before it, and its place. One at the margin
of a block must be a key. -/
structure Candidate where
  isRequired : Bool
  tokens : Nat
  index : Nat
  line : Nat
  column : Nat

/-- The place reached, the tokens so far with the latest first and their number, the margins of the
open blocks with the innermost first, what may be a key here and around each open flow collection,
and whether a key may begin here. -/
structure Scanner where
  cursor : Cursor
  tokens : List Token := []
  count : Nat := 0
  margins : List Nat := []
  candidate : Option Candidate := none
  outer : List (Option Candidate) := []
  mayBegin : Bool := true

namespace Scanner

/-- Whether the place is inside a flow collection. -/
def inFlow (s : Scanner) : Bool := !s.outer.isEmpty

/-- The margin of the innermost block. -/
def margin (s : Scanner) : Nat := s.margins.headD 0

/-- Adds a token. -/
def push (s : Scanner) (t : Token) : Scanner :=
  { s with tokens := t :: s.tokens, count := s.count + 1 }

/-- Puts a token in after the first so many. -/
def insert (s : Scanner) (place : Nat) (t : Token) : Scanner :=
  { s with tokens := s.tokens.insertIdx (s.count - place) t, count := s.count + 1 }

/-- Goes on to a place. -/
def goOn (s : Scanner) (c : Cursor) : Scanner := { s with cursor := c }

/-- Says whether a key may begin here. -/
def allow (s : Scanner) (b : Bool) : Scanner := { s with mayBegin := b }

/-- Closes the blocks with margins above the given one. -/
def unroll (s : Scanner) (margin : Nat) : Scanner :=
  if s.inFlow then s
  else
    let closed := s.margins.takeWhile (margin < ·)
    { s with
      tokens := List.replicate closed.length .blockEnd ++ s.tokens
      count := s.count + closed.length
      margins := s.margins.dropWhile (margin < ·) }

/-- Opens a block at a column, in front of the token at a place, unless one is open there. -/
def roll (s : Scanner) (column place : Nat) (t : Token) : Scanner :=
  if s.inFlow || column < s.margin then s
  else { s with margins := (column + 1) :: s.margins }.insert place t

/-- Lets go of what may be a key; nothing may be let go that must be one. -/
def drop? (s : Scanner) : Option Scanner :=
  if s.candidate.any (·.isRequired) then none else some { s with candidate := none }

/-- Notes that a key may begin here, if it may. -/
def save? (s : Scanner) : Option Scanner :=
  if s.mayBegin then do
    let s ← s.drop?
    let isRequired := !s.inFlow && s.margin = s.cursor.column + 1
    let k := ⟨isRequired, s.count, s.cursor.index, s.cursor.line, s.cursor.column⟩
    return { s with candidate := some k }
  else some s

/-- Whether a key cannot have begun so far back. -/
def isStale (s : Scanner) (k : Candidate) : Bool :=
  k.line < s.cursor.line || k.index + 1024 < s.cursor.index

/-- Lets go of all that has become too old to be a key. -/
def refresh? (s : Scanner) : Option Scanner :=
  let isLost (k : Candidate) : Bool := s.isStale k && k.isRequired
  if (s.candidate :: s.outer).any (·.any isLost) then none
  else
    let keep (k : Option Candidate) := k.filter fun k => !s.isStale k
    some { s with candidate := keep s.candidate, outer := s.outer.map keep }

/-- Goes on to the next token, over at most `fuel` lines. -/
def skipGap : Nat → Scanner → Scanner
  | 0, s => s
  | fuel + 1, s =>
    let c := s.cursor.skipByteOrderMark.skipWhile fun x =>
      x = ' ' || (x = '\t' && (s.inFlow || !s.mayBegin))
    let c := c.skipComment
    match c.break? with
    | some (_, next) => skipGap fuel { s with cursor := next, mayBegin := s.mayBegin || !s.inFlow }
    | none => s.goOn c

/-! ## One token -/

/-- A mark between documents or a directive, which closes all blocks. -/
def atDocument? (s : Scanner) (t : Token) (next : Cursor) : Option Scanner := do
  return (((← (s.unroll 0).drop?).allow false).push t).goOn next

/-- The start of a flow collection, which may begin a key. -/
def openFlow? (s : Scanner) (t : Token) : Option Scanner := do
  let s ← s.save?
  let s := { s with outer := s.candidate :: s.outer, candidate := none }
  return ((s.allow true).push t).goOn (s.cursor.skip 1)

/-- The end of a flow collection. -/
def closeFlow? (s : Scanner) (t : Token) : Option Scanner := do
  let s ← s.drop?
  let s := match s.outer with
    | k :: outer => { s with candidate := k, outer }
    | [] => s
  return ((s.allow false).push t).goOn (s.cursor.skip 1)

/-- A comma of a flow collection. -/
def flowEntry? (s : Scanner) : Option Scanner := do
  return (((← s.drop?).allow true).push .flowEntry).goOn (s.cursor.skip 1)

/-- A dash of a block. -/
def blockEntry? (s : Scanner) : Option Scanner := do
  if !s.inFlow && !s.mayBegin then none
  let s := s.roll s.cursor.column s.count .blockSequence
  return (((← s.drop?).allow true).push .blockEntry).goOn (s.cursor.skip 1)

/-- A question mark in front of a key. -/
def key? (s : Scanner) : Option Scanner := do
  if !s.inFlow && !s.mayBegin then none
  let s := s.roll s.cursor.column s.count .blockMapping
  return (((← s.drop?).allow (!s.inFlow)).push .key).goOn (s.cursor.skip 1)

/-- A colon in front of a value. -/
def value? (s : Scanner) : Option Scanner := do
  let s ← match s.candidate with
    | some k =>
        let s := (s.insert k.tokens .key).roll k.column k.tokens .blockMapping
        pure ({ s with candidate := none }.allow false)
    | none =>
        if !s.inFlow && !s.mayBegin then none
        else pure ((s.roll s.cursor.column s.count .blockMapping).allow (!s.inFlow))
  return (s.push .value).goOn (s.cursor.skip 1)

/-- An alias or an anchor. -/
def anchor? (s : Scanner) (make : String → Token) : Option Scanner := do
  let s ← s.save?
  let (name, next) ← anchorName? (s.cursor.skip 1)
  return ((s.allow false).push (make name)).goOn next

/-- A tag. -/
def tag? (s : Scanner) : Option Scanner := do
  let s ← s.save?
  let (t, next) ← Yaml.tag? s.inFlow s.cursor
  return ((s.allow false).push t).goOn next

/-- A block scalar. -/
def block? (s : Scanner) (isFolded : Bool) : Option Scanner := do
  let s ← s.drop?
  let (text, next) ← Yaml.block? isFolded s.margin (s.cursor.skip 1)
  return ((s.allow true).push (.scalar false (String.ofList text))).goOn next

/-- A quoted scalar. -/
def quoted? (s : Scanner) (quote : Char) : Option Scanner := do
  let s ← s.save?
  let start := s.cursor.skip 1
  let (text, next) ← Yaml.quoted? quote (start.rest.length + 1) start
  return ((s.allow false).push (.scalar false (String.ofList text))).goOn next

/-- A plain scalar. After a line break a key may begin. -/
def plain? (s : Scanner) : Option Scanner := do
  let s ← s.save?
  let (text, next, broken) ← Yaml.plain? s.inFlow s.margin s.cursor
  return ((s.allow broken).push (.scalar true (String.ofList text))).goOn next

/-- The characters that no plain scalar begins with, whatever follows. -/
def isIndicator (c : Char) : Bool := ",[]\x7b\x7d#&*!|>'\"%@`".toList.contains c

/-- The token at a place. -/
def token? (s : Scanner) : Option Scanner :=
  let c := s.cursor
  match c.rest with
  | [] => none
  | x :: cs =>
    let isMark := s.inFlow || endsWord cs
    if c.column = 0 && x = '%' then do
      let (t, next) ← directive? (c.skip 1)
      s.atDocument? t next
    else if c.isAtMark then
      s.atDocument? (if x = '-' then .documentStart else .documentEnd) (c.skip 3)
    else if x = '[' then s.openFlow? .flowSequence
    else if x = '\x7b' then s.openFlow? .flowMapping
    else if x = ']' then s.closeFlow? .flowSequenceEnd
    else if x = '\x7d' then s.closeFlow? .flowMappingEnd
    else if x = ',' then s.flowEntry?
    else if x = '-' && endsWord cs then s.blockEntry?
    else if x = '?' && isMark then s.key?
    else if x = ':' && isMark then s.value?
    else if x = '*' then s.anchor? .alias
    else if x = '&' then s.anchor? .anchor
    else if x = '!' then s.tag?
    else if x = '|' && !s.inFlow then s.block? false
    else if x = '>' && !s.inFlow then s.block? true
    else if x = '\x27' || x = '"' then s.quoted? x
    else if isIndicator x || endsWord c.rest then none
    else s.plain?

/-- All tokens from a place on, at most `fuel` of them. -/
def all? : Nat → Scanner → Option (List Token)
  | 0, _ => none
  | fuel + 1, s => do
    let s ← (s.skipGap (s.cursor.rest.length + 1)).refresh?
    if s.cursor.rest.isEmpty then
      let s ← (s.unroll 0).drop?
      return s.tokens.reverse
    else all? fuel (← (s.unroll (s.cursor.column + 1)).token?)

end Scanner

/-- All tokens of a text. -/
def tokens? (text : String) : Option (List Token) :=
  let cs := text.toList
  if cs.all isPrintable then Scanner.all? (cs.length + 1) { cursor := { rest := cs } } else none

end PolicyLint.Yaml
