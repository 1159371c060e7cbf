/-
# YAML nodes

The document of a YAML text as a tree of nodes. An anchor is numbered by how many names of anchors
are known where it stands, so a name that is given again may share its number with the next new
name. An alias has the number that its name was last given before it, and stands for the last node
with that number, which may be one that it stands in itself; so it stays an alias in the tree, and
is looked up from the root when it is read.

* `Yaml.Node` : the nodes;
* `Yaml.parse?` : the node that a text with one document is.
-/
import PolicyLint.Yaml.Token
import PolicyLint.Entries

namespace PolicyLint.Yaml

/-- A node. A scalar is plain or not, and may have a tag. -/
inductive Node where
  | scalar (isPlain : Bool) (tag : Option String) (text : String)
  | sequence (items : List Node)
  | mapping (pairs : List (Node × Node))
  | anchored (id : Nat) (content : Node)
  | alias (id : Nat)

/-- What stands where nothing is written. -/
def Node.empty : Node := .scalar true none ""

/-! ## From tokens to nodes -/

/-- The tokens left to read, the names of anchors so far with the number that each has last, and
what the handles of tags stand for. -/
structure Reader where
  tokens : List Token
  anchors : List (String × Nat) := []
  handles : List (String × String) := []

namespace Reader

/-- The same reader with other tokens left. -/
def goOn (r : Reader) (tokens : List Token) : Reader := { r with tokens }

/-- Whether the next token is one of the given ones. -/
def isAt (r : Reader) (ts : List Token) : Bool := r.tokens.head?.any (ts.contains ·)

/-- The number of the anchor that an alias means. -/
def anchorId? (r : Reader) (name : String) : Option Nat := r.anchors.lookup name

/-- The full text of a tag. -/
def tag? (r : Reader) (handle suffix : String) : Option String :=
  if handle.isEmpty then some suffix else (r.handles.lookup handle).map (· ++ suffix)

/-- The anchor and the tag in front of a node, in either order, each perhaps missing. -/
def properties? (r : Reader) : Option (Option String × Option String × Reader) :=
  match r.tokens with
  | .anchor a :: .tag h s :: rest => (r.tag? h s).map fun t => (some a, some t, r.goOn rest)
  | .tag h s :: .anchor a :: rest => (r.tag? h s).map fun t => (some a, some t, r.goOn rest)
  | .anchor a :: rest => some (some a, none, r.goOn rest)
  | .tag h s :: rest => (r.tag? h s).map fun t => (none, some t, r.goOn rest)
  | _ => some (none, none, r)

mutual

/-- The node at the next token. In a block it may be a block itself, and as a value of a mapping it
may be a sequence whose dashes stand at the margin of the mapping. -/
def node? (inBlock atMargin : Bool) : Nat → Reader → Option (Node × Reader)
  | 0, _ => none
  | fuel + 1, r =>
    match r.tokens with
    | .alias name :: rest => (r.anchorId? name).map fun id => (.alias id, r.goOn rest)
    | _ => do
      let (anchor, tag, r) ← r.properties?
      let id := r.anchors.length
      let r := match anchor with
        | some name => { r with anchors := setEntry name id r.anchors }
        | none => r
      let mark (n : Node) : Node := if anchor.isSome then .anchored id n else n
      let (n, r) ← match r.tokens with
        | .scalar isPlain text :: rest => pure (.scalar isPlain tag text, r.goOn rest)
        | .flowSequence :: rest => do
            let (items, r) ← flowItems? fuel true (r.goOn rest)
            pure (.sequence items, r)
        | .flowMapping :: rest => do
            let (pairs, r) ← flowPairs? fuel true (r.goOn rest)
            pure (.mapping pairs, r)
        | t :: rest =>
            if atMargin && t = .blockEntry then do
              let (items, r) ← marginItems? fuel r
              pure (.sequence items, r)
            else if inBlock && t = .blockSequence then do
              let (items, r) ← blockItems? fuel (r.goOn rest)
              pure (.sequence items, r)
            else if inBlock && t = .blockMapping then do
              let (pairs, r) ← blockPairs? fuel (r.goOn rest)
              pure (.mapping pairs, r)
            else if anchor.isSome || tag.isSome then pure (.scalar true tag "", r)
            else none
        | [] => if anchor.isSome || tag.isSome then pure (.scalar true tag "", r) else none
      return (mark n, r)

/-- The node at the next token, or an empty one in front of the given tokens. -/
def nodeOr? (inBlock atMargin : Bool) (ends : List Token) : Nat → Reader → Option (Node × Reader)
  | 0, _ => none
  | fuel + 1, r => if r.isAt ends then some (.empty, r) else node? inBlock atMargin fuel r

/-- The items of a block sequence, and its end. -/
def blockItems? : Nat → Reader → Option (List Node × Reader)
  | 0, _ => none
  | fuel + 1, r =>
    match r.tokens with
    | .blockEntry :: rest => do
        let (n, r) ← nodeOr? true false [.blockEntry, .blockEnd] fuel (r.goOn rest)
        let (ns, r) ← blockItems? fuel r
        return (n :: ns, r)
    | .blockEnd :: rest => some ([], r.goOn rest)
    | _ => none

/-- The items of a sequence at the margin of a mapping. -/
def marginItems? : Nat → Reader → Option (List Node × Reader)
  | 0, _ => none
  | fuel + 1, r =>
    match r.tokens with
    | .blockEntry :: rest => do
        let (n, r) ← nodeOr? true false [.blockEntry, .key, .value, .blockEnd] fuel (r.goOn rest)
        let (ns, r) ← marginItems? fuel r
        return (n :: ns, r)
    | _ => some ([], r)

/-- The pairs of a block mapping, and its end. -/
def blockPairs? : Nat → Reader → Option (List (Node × Node) × Reader)
  | 0, _ => none
  | fuel + 1, r =>
    match r.tokens with
    | .key :: rest => do
        let (k, r) ← nodeOr? true true [.key, .value, .blockEnd] fuel (r.goOn rest)
        let (v, r) ← match r.tokens with
          | .value :: rest => nodeOr? true true [.key, .value, .blockEnd] fuel (r.goOn rest)
          | _ => pure (.empty, r)
        let (ps, r) ← blockPairs? fuel r
        return ((k, v) :: ps, r)
    | .blockEnd :: rest => some ([], r.goOn rest)
    | _ => none

/-- The items of a flow sequence, and its end. An item may be a single pair. -/
def flowItems? : Nat → Bool → Reader → Option (List Node × Reader)
  | 0, _, _ => none
  | fuel + 1, isFirst, r => do
    let r ← separated? isFirst .flowSequenceEnd r
    match r.tokens with
    | .flowSequenceEnd :: rest => return ([], r.goOn rest)
    | .key :: rest =>
        let r := r.goOn rest
        let (k, r) ←
          if r.isAt [.value, .flowEntry, .flowSequenceEnd] then
            pure (Node.empty, r.goOn (r.tokens.drop 1))
          else node? false false fuel r
        let (v, r) ← match r.tokens with
          | .value :: rest =>
              nodeOr? false false [.flowEntry, .flowSequenceEnd] fuel (r.goOn rest)
          | _ => pure (.empty, r)
        let (ns, r) ← flowItems? fuel false r
        return (.mapping [(k, v)] :: ns, r)
    | _ =>
        let (n, r) ← node? false false fuel r
        let (ns, r) ← flowItems? fuel false r
        return (n :: ns, r)

/-- The pairs of a flow mapping, and its end. A key may stand without a value. -/
def flowPairs? : Nat → Bool → Reader → Option (List (Node × Node) × Reader)
  | 0, _, _ => none
  | fuel + 1, isFirst, r => do
    let r ← separated? isFirst .flowMappingEnd r
    match r.tokens with
    | .flowMappingEnd :: rest => return ([], r.goOn rest)
    | .key :: rest =>
        let (k, r) ←
          nodeOr? false false [.value, .flowEntry, .flowMappingEnd] fuel (r.goOn rest)
        let (v, r) ← match r.tokens with
          | .value :: rest => nodeOr? false false [.flowEntry, .flowMappingEnd] fuel (r.goOn rest)
          | _ => pure (.empty, r)
        let (ps, r) ← flowPairs? fuel false r
        return ((k, v) :: ps, r)
    | _ =>
        let (k, r) ← node? false false fuel r
        let (ps, r) ← flowPairs? fuel false r
        return ((k, .empty) :: ps, r)

/-- The reader at an item of a flow collection or at its end, after the comma that has to stand in
front of all items but the first. -/
def separated? (isFirst : Bool) (ending : Token) (r : Reader) : Option Reader :=
  if isFirst || r.isAt [ending] then some r
  else match r.tokens with
    | .flowEntry :: rest => some (r.goOn rest)
    | _ => none

end

/-- The reader after the directives and the mark in front of a document. -/
def directives? (seenVersion : Bool) : List Token → List (String × String) → Option Reader
  | .version major minor :: rest, handles =>
      if seenVersion || major ≠ 1 || (minor ≠ 1 && minor ≠ 2) then none
      else directives? true rest handles
  | .tagHandle handle uri :: rest, handles =>
      if (handles.lookup handle).isSome then none
      else directives? seenVersion rest ((handle, uri) :: handles)
  | .documentStart :: rest, handles => some { tokens := rest, handles }
  | _, _ => none

/-- What handles stand for where no directive says so. -/
def defaultHandles : List (String × String) := [("!", "!"), ("!!", "tag:yaml.org,2002:")]

/-- The only document of some tokens; no document at all is an empty node. -/
def document? (tokens : List Token) : Option Node := do
  let fuel := 2 * tokens.length + 2
  let starts : Bool := match tokens with
    | .version _ _ :: _ => true
    | .tagHandle _ _ :: _ => true
    | .documentStart :: _ => true
    | _ => false
  let r ← if starts then directives? false tokens [] else some { tokens }
  let r := { r with handles := r.handles ++ defaultHandles }
  let (n, r) ←
    if tokens.isEmpty then some (.empty, r)
    else if starts && (r.tokens.isEmpty || r.isAt [.documentStart, .documentEnd]) then
      some (.empty, r)
    else node? true false fuel r
  if (r.tokens.dropWhile (· = .documentEnd)).isEmpty then some n else none

end Reader

/-- The node that a text with at most one document is. -/
def parse? (text : String) : Option Node := (tokens? text).bind Reader.document?

/-! ## Reading nodes as data -/

namespace Node

mutual

/-- The last node below a root that has the given number. -/
def find? (id : Nat) : Node → Option Node
  | .scalar _ _ _ => none
  | .sequence items => findItem? id items
  | .mapping pairs => findPair? id pairs
  | .anchored i content => find? id content <|> if i = id then some content else none
  | .alias _ => none

/-- The last node with the given number below one of some items. -/
def findItem? (id : Nat) : List Node → Option Node
  | [] => none
  | n :: ns => findItem? id ns <|> find? id n

/-- The last node with the given number below a key or a value. -/
def findPair? (id : Nat) : List (Node × Node) → Option Node
  | [] => none
  | (k, v) :: ps => findPair? id ps <|> find? id v <|> find? id k

end

/-- What a node in the tree below a root stands for. -/
def content (n root : Node) : Node :=
  match n with
  | .anchored _ n => n
  | .alias id => (root.find? id).getD empty
  | n => n

/-- Whether a plain text stands for nothing. -/
def isNull (s : String) : Bool := s = "null" || s = "Null" || s = "NULL" || s = "~"

/-- The text that a node is: that of any scalar, as it is written. -/
def text? (n root : Node) : Option String :=
  match n.content root with
  | .scalar _ _ s => some s
  | _ => none

/-- The text that a node is, where nothing and a plain null stand for none. -/
def optionalText? (n root : Node) : Option (Option String) :=
  match n.content root with
  | .scalar true none s => some (if s.isEmpty || isNull s then none else some s)
  | .scalar true (some tag) s =>
      if tag ≠ "tag:yaml.org,2002:null" then some (some s)
      else if isNull s then some none
      else none
  | .scalar false _ s => some (some s)
  | _ => none

/-- The items of a sequence; where nothing is written there are none. -/
def items? (n root : Node) : Option (List Node) :=
  match n.content root with
  | .sequence items => some items
  | .scalar true _ "" => some []
  | _ => none

/-- The texts that a sequence holds, if it holds nothing else. -/
def texts? (n root : Node) : Option (List String) := (n.items? root).bind (·.mapM (text? · root))

/-- The pairs of a mapping whose keys are texts; where nothing is written there are none. -/
def members? (n root : Node) : Option (List (String × Node)) :=
  match n.content root with
  | .mapping pairs => pairs.mapM fun (k, v) => (k.text? root).map (·, v)
  | .scalar true _ "" => some []
  | _ => none

/-- The values of the known members of a record, each present or not; no known name may come
twice. -/
def record? (names : List String) (n root : Node) : Option (List (Option Node)) := do
  let members ← n.members? root
  names.mapM fun name =>
    match members.filter (fun m => m.1 == name) with
    | [] => some none
    | [m] => some (some m.2)
    | _ => none

end Node

end PolicyLint.Yaml
