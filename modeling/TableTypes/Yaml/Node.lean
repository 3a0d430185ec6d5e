import TableTypes.Yaml.Lexeme
import TableTypes.Yaml.Tag

/-!
# Nodes of a YAML document

The tree that the lexemes of a text form. An alias stands for a copy of the node it names, or, if
it names a node that it stands in, for a mark of that.
-/

namespace TableTypes.Yaml

/-- A node with what it is. -/
inductive Node where
  | scalar (tag : Tag) (text : String)
  | list (tag : Tag) (items : List Node)
  | map (tag : Tag) (entries : List (Node × Node))
  /-- A list or a map around this place. -/
  | again (isMap : Bool)
  deriving Inhabited

namespace Node

/-- The node where nothing is written. -/
def empty : Node := .scalar .null ""

end Node

/-- What the name of an anchor stands for. -/
inductive Anchored where
  /-- A list or a map that is not read to its end. -/
  | unfinished (isMap : Bool)
  | node (n : Node)

/-- Lexemes that are read up to a place. -/
structure Reading where
  left : List Lexeme
  /-- What the handles of tags stand for. -/
  handles : List (String × String)
  anchors : List (String × Anchored) := []

namespace Reading

/-- Go on with the lexemes that are left. -/
def goOn (r : Reading) (left : List Lexeme) : Reading :=
  { r with left }

/-- The next lexeme is one of these, or there is none. -/
def atAny (r : Reading) (ends : List Lexeme) : Bool :=
  match r.left with
  | [] => true
  | l :: _ => ends.contains l

/-- The anchor and the tag in front of a node, in either order. -/
def properties (r : Reading) : Option String × Option WrittenTag × Reading :=
  match r.left with
  | .anchor name :: .tag t :: left => (some name, some t, r.goOn left)
  | .tag t :: .anchor name :: left => (some name, some t, r.goOn left)
  | .anchor name :: left => (some name, none, r.goOn left)
  | .tag t :: left => (none, some t, r.goOn left)
  | _ => (none, none, r)

/-- The full name of a written tag. -/
def fullName (r : Reading) (t : WrittenTag) : Except Fault String :=
  match t.handle with
  | none => .ok t.suffix
  | some handle => match r.handles.lookup handle with
    | some stem => .ok (stem ++ t.suffix)
    | none => .error .malformed

/-- Tie an anchor to a node, if there is one. -/
def bind (r : Reading) (anchor : Option String) (anchored : Anchored) : Reading :=
  match anchor with
  | some name => { r with anchors := (name, anchored) :: r.anchors }
  | none => r

/-- The node that an alias stands for. -/
def aliased (r : Reading) (name : String) : Except Fault Node :=
  match r.anchors.lookup name with
  | some (.node n) => .ok n
  | some (.unfinished isMap) => .ok (.again isMap)
  | none => .error .malformed

end Reading

/-- The tag of a node: the one with the name that is given, or else the one that the form of the
node suggests. A lone exclamation mark names none. -/
def tagOr (name : Option String) (suggested : Tag) : Tag :=
  match name with
  | none | some "!" => suggested
  | some name => Tag.ofName name

/-- The tag of a written scalar. Quotes make it a text, unless an exclamation mark undoes that. -/
def scalarTag (name : Option String) (text : String) (plain : Bool) : Tag :=
  if plain || name = some "!" then tagOr name (Tag.ofPlain text) else tagOr name .str

mutual

/-- Read a node. Inside brackets only what is in brackets is allowed, and only as a value of a
map an item may stand at the column of its map. -/
def readNode (block indentless : Bool) : (fuel : Nat) → Reading → Except Fault (Node × Reading)
  | 0, _ => .error .malformed
  | fuel + 1, r =>
    match r.left with
    | .alias name :: left => (r.aliased name).map fun n => (n, r.goOn left)
    | _ => do
      let (anchor, written, r) := r.properties
      let name ← written.mapM r.fullName
      if anchor.any fun name => (r.anchors.lookup name).isSome then throw .malformed
      let list (r : Reading) : Reading := r.bind anchor (.unfinished false)
      let map (r : Reading) : Reading := r.bind anchor (.unfinished true)
      let (node, r) ← match r.left with
        | .item :: _ =>
          if !indentless then throw .malformed
          let (items, r) ← readIndentless fuel (list r)
          pure (Node.list (tagOr name .seq) items, r)
        | .scalar text plain :: left =>
          pure (Node.scalar (scalarTag name text plain) text, r.goOn left)
        | .openList :: left => do
          let (items, r) ← readBracketItems true fuel (list (r.goOn left))
          pure (Node.list (tagOr name .seq) items, r)
        | .openMap :: left => do
          let (entries, r) ← readBracketEntries true fuel (map (r.goOn left))
          pure (Node.map (tagOr name .map) entries, r)
        | .blockList :: left => do
          if !block then throw .malformed
          let (items, r) ← readItems fuel (list (r.goOn left))
          pure (Node.list (tagOr name .seq) items, r)
        | .blockMap :: left => do
          if !block then throw .malformed
          let (entries, r) ← readEntries fuel (map (r.goOn left))
          pure (Node.map (tagOr name .map) entries, r)
        | _ =>
          if anchor.isNone && written.isNone then throw .malformed
          pure (Node.scalar (scalarTag name "" true) "", r)
      return (node, r.bind anchor (.node node))

/-- Read a node, or nothing if one of these lexemes follows. -/
def readNodeOr (ends : List Lexeme) (block indentless : Bool) :
    (fuel : Nat) → Reading → Except Fault (Node × Reading)
  | 0, _ => .error .malformed
  | fuel + 1, r =>
    if r.atAny ends then .ok (Node.empty, r) else readNode block indentless fuel r

/-- Read the value of a key, or nothing if no value follows. -/
def readValueOr (ends : List Lexeme) (block : Bool) :
    (fuel : Nat) → Reading → Except Fault (Node × Reading)
  | 0, _ => .error .malformed
  | fuel + 1, r =>
    match r.left with
    | .value :: left => readNodeOr ends block block fuel (r.goOn left)
    | _ => .ok (Node.empty, r)

/-- Read the items of a list by indentation. -/
def readItems : (fuel : Nat) → Reading → Except Fault (List Node × Reading)
  | 0, _ => .error .malformed
  | fuel + 1, r =>
    match r.left with
    | .item :: left => do
      let (first, r) ← readNodeOr [.item, .blockEnd] true false fuel (r.goOn left)
      let (rest, r) ← readItems fuel r
      return (first :: rest, r)
    | .blockEnd :: left => .ok ([], r.goOn left)
    | _ => .error .malformed

/-- Read the items of a list at the column of its map. -/
def readIndentless : (fuel : Nat) → Reading → Except Fault (List Node × Reading)
  | 0, _ => .error .malformed
  | fuel + 1, r =>
    match r.left with
    | .item :: left => do
      let (first, r) ←
        readNodeOr [.item, .key, .value, .blockEnd] true false fuel (r.goOn left)
      let (rest, r) ← readIndentless fuel r
      return (first :: rest, r)
    | _ => .ok ([], r)

/-- Read the entries of a map by indentation. -/
def readEntries : (fuel : Nat) → Reading → Except Fault (List (Node × Node) × Reading)
  | 0, _ => .error .malformed
  | fuel + 1, r =>
    match r.left with
    | .key :: left => do
      let ends := [Lexeme.key, .value, .blockEnd]
      let (key, r) ← readNodeOr ends true true fuel (r.goOn left)
      let (v, r) ← readValueOr ends true fuel r
      let (rest, r) ← readEntries fuel r
      return ((key, v) :: rest, r)
    | .blockEnd :: left => .ok ([], r.goOn left)
    | _ => .error .malformed

/-- Read the items of a list in brackets. A key makes a map of one entry. -/
def readBracketItems (first : Bool) : (fuel : Nat) → Reading → Except Fault (List Node × Reading)
  | 0, _ => .error .malformed
  | fuel + 1, r => do
    let r ← match first, r.left with
      | false, .comma :: left => pure (r.goOn left)
      | false, .closeList :: _ | true, _ => pure r
      | false, _ => throw .malformed
    match r.left with
    | .closeList :: left => return ([], r.goOn left)
    | .key :: left =>
      let (key, r) ← readNodeOr [.value, .comma, .closeList] false false fuel (r.goOn left)
      let (v, r) ← readValueOr [.comma, .closeList] false fuel r
      let (rest, r) ← readBracketItems false fuel r
      return (.map .map [(key, v)] :: rest, r)
    | _ =>
      let (item, r) ← readNode false false fuel r
      let (rest, r) ← readBracketItems false fuel r
      return (item :: rest, r)

/-- Read the entries of a map in brackets. A node without a mark is a key without a value. -/
def readBracketEntries (first : Bool) :
    (fuel : Nat) → Reading → Except Fault (List (Node × Node) × Reading)
  | 0, _ => .error .malformed
  | fuel + 1, r => do
    let r ← match first, r.left with
      | false, .comma :: left => pure (r.goOn left)
      | false, .closeMap :: _ | true, _ => pure r
      | false, _ => throw .malformed
    match r.left with
    | .closeMap :: left => return ([], r.goOn left)
    | .key :: left =>
      let (key, r) ← readNodeOr [.value, .comma, .closeMap] false false fuel (r.goOn left)
      let (v, r) ← readValueOr [.comma, .closeMap] false fuel r
      let (rest, r) ← readBracketEntries false fuel r
      return ((key, v) :: rest, r)
    | _ =>
      let (key, r) ← readNode false false fuel r
      let (rest, r) ← readBracketEntries false fuel r
      return ((key, .empty) :: rest, r)

end

/-- What handles of tags stand for unless a document says otherwise. -/
def standardHandles : List (String × String) :=
  [("!", "!"), ("!!", Tag.stem)]

/-- Read the directives in front of a document. -/
def readDirectives : (versioned : Bool) → Reading → Except Fault Reading
  | versioned, ⟨.directive d :: left, handles, anchors⟩ =>
    match d with
    | .version major =>
      if versioned ∨ major ≠ 1 then .error .malformed
      else readDirectives true ⟨left, handles, anchors⟩
    | .handle name stem =>
      if (handles.lookup name).isSome then .error .malformed
      else readDirectives versioned ⟨left, (name, stem) :: handles, anchors⟩
    | .unknown => readDirectives versioned ⟨left, handles, anchors⟩
  | _, r => .ok { r with handles := r.handles ++ standardHandles }
termination_by _ r => r.left.length

/-- The only document of a text, or nothing if there is none. -/
def Node.ofLexemes? (ls : List Lexeme) : Except Fault (Option Node) := do
  let fuel := 8 * (ls.length + 2)
  let (node, r) ← match ls with
    | [] => return none
    | .directive _ :: _ | .documentStart :: _ => do
      let r ← readDirectives false ⟨ls, [], []⟩
      match r.left with
      | .documentStart :: left =>
        match left with
        | [] | .directive _ :: _ | .documentStart :: _ | .documentEnd :: _ =>
          pure (Node.empty, r.goOn left)
        | _ => readNode true false fuel (r.goOn left)
      | _ => throw .malformed
    | _ => readNode true false fuel ⟨ls, standardHandles, []⟩
  if r.left.all (· = .documentEnd) then return some node else throw .malformed

end TableTypes.Yaml
