import Faceting.Document.Yaml.Cursor

/-!
# Nodes of YAML

The structure that tokens describe: scalars, sequences and mappings, each with its tag, and aliases
of nodes that carry an anchor. `Node.ofTokens?` reads the one document that a stream may hold. An
alias stands for the node that carried the number of its anchor last; an anchor gets as its number
the number of different names met before.
-/

namespace Faceting.Yaml

/-- A node. An empty tag is no tag. -/
inductive Node where
  | scalar (tag : String) (text : String) (style : Style)
  | sequence (tag : String) (items : List Node)
  | mapping (tag : String) (members : List (Node × Node))
  | alias (number : Nat)
deriving Inhabited

/-- An anchored node, with its number and its place in the order of the text. -/
structure Anchored where
  number : Nat
  place : Nat
  node : Node

/-- A document: its root, the anchored nodes, and the number of nodes, with collections counted twice,
for they have an end too. No root stands for a text without a document. -/
structure Stream where
  root : Option Node
  anchored : List Anchored := []
  size : Nat := 0

/-- The node that an alias stands for. -/
def Stream.node? (s : Stream) (number : Nat) : Option Node :=
  (s.anchored.filter (·.number == number)).foldl
    (fun best a =>
      match best with
      | some (b : Anchored) => if b.place < a.place then some a else best
      | none => some a) none |>.map (·.node)

/-- What has been read of a document besides its nodes. -/
structure Reading where
  tokens : List Token
  /-- Names of anchors with their numbers. -/
  names : List (String × Nat) := []
  anchored : List Anchored := []
  size : Nat := 0
  /-- What the handles of tags stand for. -/
  handles : List (String × String) := []

namespace Reading

/-- The reading behind its first token. -/
def next (r : Reading) : Reading :=
  { r with tokens := r.tokens.tail }

/-- The first token, if there is one. -/
def peek (r : Reading) : Option Token :=
  r.tokens.head?

/-- Gives a name its number. -/
def bindName (name : String) (r : Reading) : Nat × Reading :=
  let number := r.names.length
  (number, { r with names := (name, number) :: r.names.filter (·.1 != name) })

/-- Counts a node. -/
def count (n : Nat) (r : Reading) : Reading :=
  { r with size := r.size + n }

/-- Keeps an anchored node. -/
def keep (anchor : Option (Nat × Nat)) (node : Node) (r : Reading) : Reading :=
  match anchor with
  | some (number, place) => { r with anchored := ⟨number, place, node⟩ :: r.anchored }
  | none => r

/-- The tag that a handle and a suffix stand for; nothing if the handle was not declared. -/
def resolveTag? (handle suffix : String) (r : Reading) : Option String :=
  if handle = "" then some suffix else (r.handles.lookup handle).map (· ++ suffix)

end Reading

/-- The properties in front of a node. -/
structure Properties where
  anchor : Option String := none
  tag : Option (String × String) := none

/-- Reads an anchor and a tag, in either order. -/
def readProperties (r : Reading) : Properties × Reading :=
  match r.peek with
  | some (.anchor name) =>
    match r.next.peek with
    | some (.tag handle suffix) => (⟨some name, some (handle, suffix)⟩, r.next.next)
    | _ => (⟨some name, none⟩, r.next)
  | some (.tag handle suffix) =>
    match r.next.peek with
    | some (.anchor name) => (⟨some name, some (handle, suffix)⟩, r.next.next)
    | _ => (⟨none, some (handle, suffix)⟩, r.next)
  | _ => ({}, r)

/-- The empty plain scalar that stands where a node is missing. -/
def emptyNode : Node :=
  .scalar "" "" .plain

/-- Whether one of the tokens comes next, or none at all. -/
def Reading.atAny (tokens : List Token) (r : Reading) : Bool :=
  match r.peek with
  | some token => tokens.contains token
  | none => false

mutual

/-- Reads a node. Block collections only where `block` holds; a sequence without indentation of its
own only as a key or value of a block mapping. -/
def readNode : (fuel : Nat) → (block indentless : Bool) → Reading → Option (Node × Reading)
  | 0, _, _, _ => none
  | fuel + 1, block, indentless, r =>
    match r.peek with
    | some (.alias name) =>
      (r.names.lookup name).map fun number => (.alias number, r.next.count 1)
    | _ =>
      let (properties, r) := readProperties r
      let resolved :=
        match properties.tag with
        | some (handle, suffix) => r.resolveTag? handle suffix
        | none => some ""
      resolved.bind fun tag =>
        let (anchor, r) :=
          match properties.anchor with
          | some name => let (number, r) := r.bindName name; (some (number, r.size), r)
          | none => (none, r)
        let collect (read : Option (Node × Reading)) : Option (Node × Reading) :=
          read.map fun (node, r) => (node, r.keep anchor node)
        match r.peek with
        | some .blockEntry =>
          if indentless then
            collect ((readIndentless fuel (r.count 2)).map fun (items, r) => (.sequence tag items, r))
          else readMissing anchor tag properties r
        | some (.scalar text style) =>
          let node := .scalar (if tag = "!" then "" else tag) text style
          some (node, (r.next.count 1).keep anchor node)
        | some .flowSequence =>
          collect ((readFlowItems fuel true (r.next.count 2)).map fun (items, r) =>
            (.sequence tag items, r))
        | some .flowMapping =>
          collect ((readFlowMembers fuel true (r.next.count 2)).map fun (members, r) =>
            (.mapping tag members, r))
        | some .blockSequence =>
          if block then
            collect ((readBlockItems fuel (r.next.count 2)).map fun (items, r) =>
              (.sequence tag items, r))
          else readMissing anchor tag properties r
        | some .blockMapping =>
          if block then
            collect ((readBlockMembers fuel (r.next.count 2)).map fun (members, r) =>
              (.mapping tag members, r))
          else readMissing anchor tag properties r
        | _ => readMissing anchor tag properties r
where
  /-- The empty scalar of properties without a node; without properties a node is required. -/
  readMissing (anchor : Option (Nat × Nat)) (tag : String) (properties : Properties) (r : Reading) :
      Option (Node × Reading) :=
    if properties.anchor.isSome || properties.tag.isSome then
      let node := .scalar tag "" .plain
      some (node, (r.count 1).keep anchor node)
    else none

/-- Reads the items of a block sequence up to its end. -/
def readBlockItems : (fuel : Nat) → Reading → Option (List Node × Reading)
  | 0, _ => none
  | fuel + 1, r =>
    match r.peek with
    | some .blockEntry =>
      let r := r.next
      if r.atAny [.blockEntry, .blockEnd] then
        (readBlockItems fuel (r.count 1)).map fun (items, r) => (emptyNode :: items, r)
      else
        (readNode fuel true false r).bind fun (item, r) =>
          (readBlockItems fuel r).map fun (items, r) => (item :: items, r)
    | some .blockEnd => some ([], r.next)
    | _ => none

/-- Reads the items of a sequence that is not indented; it ends with its last dash. -/
def readIndentless : (fuel : Nat) → Reading → Option (List Node × Reading)
  | 0, _ => none
  | fuel + 1, r =>
    match r.peek with
    | some .blockEntry =>
      let r := r.next
      if r.atAny [.blockEntry, .key, .value, .blockEnd] then
        (readIndentless fuel (r.count 1)).map fun (items, r) => (emptyNode :: items, r)
      else
        (readNode fuel true false r).bind fun (item, r) =>
          (readIndentless fuel r).map fun (items, r) => (item :: items, r)
    | _ => some ([], r)

/-- Reads the members of a block mapping up to its end. -/
def readBlockMembers : (fuel : Nat) → Reading → Option (List (Node × Node) × Reading)
  | 0, _ => none
  | fuel + 1, r =>
    match r.peek with
    | some .key =>
      let r := r.next
      let key :=
        if r.atAny [.key, .value, .blockEnd] then some (emptyNode, r.count 1)
        else readNode fuel true true r
      key.bind fun (key, r) =>
        let value :=
          if r.peek = some .value then
            let r := r.next
            if r.atAny [.key, .value, .blockEnd] then some (emptyNode, r.count 1)
            else readNode fuel true true r
          else some (emptyNode, r.count 1)
        value.bind fun (value, r) =>
          (readBlockMembers fuel r).map fun (members, r) => ((key, value) :: members, r)
    | some .blockEnd => some ([], r.next)
    | _ => none

/-- Reads the items of a flow sequence up to its end. -/
def readFlowItems : (fuel : Nat) → (first : Bool) → Reading → Option (List Node × Reading)
  | 0, _, _ => none
  | fuel + 1, first, r =>
    if r.peek = some .flowSequenceEnd then some ([], r.next)
    else if !first && r.peek ≠ some .flowEntry then none
    else
      let r := if first then r else r.next
      match r.peek with
      | some .flowSequenceEnd => some ([], r.next)
      | some .key =>
        (readPair fuel (r.next.count 2)).bind fun (member, r) =>
          (readFlowItems fuel false r).map fun (items, r) => (.mapping "" [member] :: items, r)
      | _ =>
        (readNode fuel false false r).bind fun (item, r) =>
          (readFlowItems fuel false r).map fun (items, r) => (item :: items, r)

/-- Reads the key and value of a mapping that is an item of a flow sequence. -/
def readPair : (fuel : Nat) → Reading → Option ((Node × Node) × Reading)
  | 0, _ => none
  | fuel + 1, r =>
    let key :=
      if r.atAny [.value, .flowEntry, .flowSequenceEnd] then some (emptyNode, r.next.count 1)
      else readNode fuel false false r
    key.bind fun (key, r) =>
      let value :=
        if r.peek = some .value then
          let r := r.next
          if r.atAny [.flowEntry, .flowSequenceEnd] then some (emptyNode, r.count 1)
          else readNode fuel false false r
        else some (emptyNode, r.count 1)
      value.map fun (value, r) => ((key, value), r)

/-- Reads the members of a flow mapping up to its end. -/
def readFlowMembers : (fuel : Nat) → (first : Bool) → Reading → Option (List (Node × Node) × Reading)
  | 0, _, _ => none
  | fuel + 1, first, r =>
    if r.peek = some .flowMappingEnd then some ([], r.next)
    else if !first && r.peek ≠ some .flowEntry then none
    else
      let r := if first then r else r.next
      match r.peek with
      | some .flowMappingEnd => some ([], r.next)
      | some .key =>
        let r := r.next
        let key :=
          if r.atAny [.value, .flowEntry, .flowMappingEnd] then some (emptyNode, r.count 1)
          else readNode fuel false false r
        key.bind fun (key, r) =>
          let value :=
            if r.peek = some .value then
              let r := r.next
              if r.atAny [.flowEntry, .flowMappingEnd] then some (emptyNode, r.count 1)
              else readNode fuel false false r
            else some (emptyNode, r.count 1)
          value.bind fun (value, r) =>
            (readFlowMembers fuel false r).map fun (members, r) => ((key, value) :: members, r)
      | _ =>
        (readNode fuel false false r).bind fun (key, r) =>
          (readFlowMembers fuel false (r.count 1)).map fun (members, r) =>
            ((key, emptyNode) :: members, r)

end

/-- Reads directives: at most one version, which is 1.1 or 1.2, and no handle twice. -/
def readDirectives : (versioned : Bool) → (handles : List (String × String)) → List Token →
    Option (List (String × String) × List Token)
  | versioned, handles, .version major minor :: rest =>
    if versioned || major ≠ 1 || (minor ≠ 1 && minor ≠ 2) then none
    else readDirectives true handles rest
  | versioned, handles, .tagDirective handle expansion :: rest =>
    if (handles.lookup handle).isSome then none
    else readDirectives versioned ((handle, expansion) :: handles) rest
  | _, handles, rest => some (handles, rest)

/-- The handles that are known without a directive; a directive may give them another meaning. -/
def defaultHandles : List (String × String) :=
  [("!", "!"), ("!!", "tag:yaml.org,2002:")]

/-- Whether a directive comes first. -/
def startsWithDirective : List Token → Bool
  | .version _ _ :: _ => true
  | .tagDirective _ _ :: _ => true
  | _ => false

/-- Whether a document that has been opened is over. -/
def atDocumentEnd (tokens : List Token) : Bool :=
  startsWithDirective tokens ||
    match tokens with
    | [] => true
    | .documentStart :: _ => true
    | .documentEnd :: _ => true
    | _ => false

/-- Reads a stream of at most one document. -/
def Stream.ofTokens? (tokens : List Token) : Option Stream :=
  if tokens.isEmpty then some ⟨none, [], 0⟩
  else
    let opened :=
      if startsWithDirective tokens || tokens.head? = some .documentStart then
        (readDirectives false [] tokens).bind fun (handles, rest) =>
          match rest with
          | .documentStart :: rest => some (true, handles, rest)
          | _ => none
      else some (false, [], tokens)
    opened.bind fun (marked, handles, tokens) =>
      let r : Reading := { tokens := tokens, handles := handles ++ defaultHandles }
      let root :=
        if marked && atDocumentEnd tokens then some (emptyNode, r.count 1)
        else readNode (3 * tokens.length + 3) true false r
      root.bind fun (root, r) =>
        let rest := r.tokens.dropWhile (· == .documentEnd)
        if rest.isEmpty then some ⟨some root, r.anchored, r.size⟩ else none

end Faceting.Yaml
