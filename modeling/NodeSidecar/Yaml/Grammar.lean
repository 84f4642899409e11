/-
**Documents from tokens.**

A node is an alias, or a scalar, a list or a map behind an anchor and a tag.  In blocks, and after
the signs for an entry, a key or a value, nothing need be written.  A text holds at most one
document.

Main definitions:

* `Reading` — what is known while a document is read;
* `Reading.node` — the node that comes next;
* `Document.ofText?` — the document of a text.
-/

import NodeSidecar.Yaml.Node

set_option autoImplicit false

namespace NodeSidecar.Yaml

/-- The tokens that are left, and what the ones before them define. -/
structure Reading where
  tokens : List Token
  /-- What the handles of tags stand for. -/
  handles : List (String × String) := []
  /-- The numbers of the anchors by name. -/
  anchors : List (String × Nat) := []
  anchored : List Anchored := []
  /-- The number of nodes and ends of nodes. -/
  size : Nat := 0

namespace Reading

/-- Goes on with some tokens. -/
def at_ (r : Reading) (tokens : List Token) : Reading := { r with tokens }

/-- Counts some nodes or ends of nodes. -/
def grow (r : Reading) (n : Nat) : Reading := { r with size := r.size + n }

/-- A place where nothing is written. -/
def nothing (r : Reading) : Node × Reading := (.empty, r.grow 1)

/-- Gives an anchor of a name to the next node; the result is the number of the anchor. -/
def define (r : Reading) (name : String) : Nat × Reading :=
  let number := r.anchors.length
  let others := r.anchors.filter fun a => a.1 != name
  (number, { r with anchors := (name, number) :: others })

/-- Notes the node of an anchor, `start` being the count before the node. -/
def remember (r : Reading) (anchor? : Option Nat) (start : Nat) (node : Node) : Node × Reading :=
  match anchor? with
  | none => (node, r)
  | some anchor => (node, { r with anchored := ⟨anchor, start, node⟩ :: r.anchored })

/-- What the handles stand for that need no directive. -/
def standardHandles : List (String × String) := [("!", "!"), ("!!", "tag:yaml.org,2002:")]

/-- The tag of a handle and a suffix. -/
def expand? (r : Reading) (handle suffix : String) : Option String :=
  if handle = "" then some suffix
  else ((r.handles ++ standardHandles).lookup handle).map (· ++ suffix)

/-- An anchor and a tag in either order, and what follows them. -/
def properties (r : Reading) : Option (Option String × Option String × List Token) := do
  match r.tokens with
  | .anchor name :: .tag handle suffix :: ts =>
    return (some name, some (← r.expand? handle suffix), ts)
  | .tag handle suffix :: .anchor name :: ts =>
    return (some name, some (← r.expand? handle suffix), ts)
  | .anchor name :: ts => return (some name, none, ts)
  | .tag handle suffix :: ts => return (none, some (← r.expand? handle suffix), ts)
  | ts => return (none, none, ts)

/-- Whether one of some tokens comes next. -/
def starts (r : Reading) (tokens : List Token) : Bool := r.tokens.head?.any tokens.contains

mutual

/-- The node that comes next; a block may start if `block`, and a list without indentation of its
own if `dashes`. -/
def node : Nat → (block dashes : Bool) → Reading → Option (Node × Reading)
  | 0, _, _, _ => none
  | fuel + 1, block, dashes, r =>
    match r.tokens with
    | .alias_ name :: ts => do
      return (.alias_ (← r.anchors.lookup name), (r.at_ ts).grow 1)
    | _ => do
      let (name?, tag?, ts) ← r.properties
      let start := r.size
      let (anchor?, r) := match name? with
        | none => (none, r)
        | some name =>
          let (anchor, r) := r.define name
          (some anchor, r)
      let made (node : Node) (r : Reading) : Option (Node × Reading) :=
        some (r.remember anchor? start node)
      let list (items : List Node × Reading) : Option (Node × Reading) :=
        made (.list tag? items.1) (items.2.grow 1)
      let map (entries : List (Node × Node) × Reading) : Option (Node × Reading) :=
        made (.map tag? entries.1) (entries.2.grow 1)
      let inside (ts : List Token) : Reading := (r.at_ ts).grow 1
      match ts with
      | .scalar style text :: ts =>
        made (.scalar (if tag? = some "!" then none else tag?) style text) (inside ts)
      | .flowListStart :: ts => list (← flowItems fuel true (inside ts))
      | .flowMapStart :: ts => map (← flowEntries fuel true (inside ts))
      | .entry :: _ =>
        if dashes then list (← dashItems fuel (inside ts))
        else if anchor?.isSome || tag?.isSome then made (.scalar tag? .plain "") (inside ts)
        else none
      | .blockListStart :: ts =>
        if block then list (← blockItems fuel (inside ts)) else none
      | .blockMapStart :: ts =>
        if block then map (← blockEntries fuel (inside ts)) else none
      | ts =>
        if anchor?.isSome || tag?.isSome then made (.scalar tag? .plain "") (inside ts) else none

/-- The items of a list in a block, up to the end of the block. -/
def blockItems : Nat → Reading → Option (List Node × Reading)
  | 0, _ => none
  | fuel + 1, r =>
    match r.tokens with
    | .blockEnd :: ts => some ([], r.at_ ts)
    | .entry :: ts => do
      let r := r.at_ ts
      let (item, r) ←
        if r.starts [.entry, .blockEnd] then some r.nothing else node fuel true false r
      let (items, r) ← blockItems fuel r
      return (item :: items, r)
    | _ => none

/-- The items of a list without indentation of its own. -/
def dashItems : Nat → Reading → Option (List Node × Reading)
  | 0, _ => none
  | fuel + 1, r =>
    match r.tokens with
    | .entry :: ts => do
      let r := r.at_ ts
      let (item, r) ←
        if r.starts [.entry, .key, .value, .blockEnd] then some r.nothing
        else node fuel true false r
      let (items, r) ← dashItems fuel r
      return (item :: items, r)
    | _ => some ([], r)

/-- The entries of a map in a block, up to the end of the block. -/
def blockEntries : Nat → Reading → Option (List (Node × Node) × Reading)
  | 0, _ => none
  | fuel + 1, r =>
    match r.tokens with
    | .blockEnd :: ts => some ([], r.at_ ts)
    | .key :: ts => do
      let part (r : Reading) : Option (Node × Reading) :=
        if r.starts [.key, .value, .blockEnd] then some r.nothing else node fuel true true r
      let (key, r) ← part (r.at_ ts)
      let (value, r) ← match r.tokens with
        | .value :: ts => part (r.at_ ts)
        | _ => some r.nothing
      let (entries, r) ← blockEntries fuel r
      return ((key, value) :: entries, r)
    | _ => none

/-- The value behind a key between brackets, none being written before one of some tokens. -/
def flowValue : Nat → List Token → Reading → Option (Node × Reading)
  | 0, _, _ => none
  | fuel + 1, ends, r =>
    match r.tokens with
    | .value :: ts =>
      let r := r.at_ ts
      if r.starts ends then some r.nothing else node fuel false false r
    | _ => some r.nothing

/-- The items of a list up to its closing bracket; a pair with a sign for its key is a map.  A sign
in place of that key is passed over. -/
def flowItems : Nat → (first : Bool) → Reading → Option (List Node × Reading)
  | 0, _, _ => none
  | fuel + 1, first, r =>
    if r.starts [.flowListEnd] then some ([], r.at_ r.tokens.tail)
    else if !first && !r.starts [.comma] then none
    else
      let r := if first then r else r.at_ r.tokens.tail
      match r.tokens with
      | .flowListEnd :: ts => some ([], r.at_ ts)
      | .key :: ts => do
        let r := (r.at_ ts).grow 1
        let (key, r) ←
          if r.starts [.value, .comma, .flowListEnd] then some (r.at_ r.tokens.tail).nothing
          else node fuel false false r
        let (value, r) ← flowValue fuel [.comma, .flowListEnd] r
        let (items, r) ← flowItems fuel false (r.grow 1)
        return (.map none [(key, value)] :: items, r)
      | _ => do
        let (item, r) ← node fuel false false r
        let (items, r) ← flowItems fuel false r
        return (item :: items, r)

/-- The entries of a map up to its closing brace. -/
def flowEntries : Nat → (first : Bool) → Reading → Option (List (Node × Node) × Reading)
  | 0, _, _ => none
  | fuel + 1, first, r =>
    if r.starts [.flowMapEnd] then some ([], r.at_ r.tokens.tail)
    else if !first && !r.starts [.comma] then none
    else
      let r := if first then r else r.at_ r.tokens.tail
      match r.tokens with
      | .flowMapEnd :: ts => some ([], r.at_ ts)
      | .key :: ts => do
        let r := r.at_ ts
        let (key, r) ←
          if r.starts [.value, .comma, .flowMapEnd] then some r.nothing
          else node fuel false false r
        let (value, r) ← flowValue fuel [.comma, .flowMapEnd] r
        let (entries, r) ← flowEntries fuel false r
        return ((key, value) :: entries, r)
      | _ => do
        let (key, r) ← node fuel false false r
        let (value, r) := r.nothing
        let (entries, r) ← flowEntries fuel false r
        return ((key, value) :: entries, r)

end

/-- Reads the directives of a document. -/
def directives (versioned : Bool) : List Token → List (String × String) →
    Option (List (String × String) × List Token)
  | .directive (.version major minor) :: ts, handles =>
    if versioned || major != 1 || (minor != 1 && minor != 2) then none
    else directives true ts handles
  | .directive (.shorthand handle meaning) :: ts, handles =>
    if (handles.lookup handle).isSome then none
    else directives versioned ts ((handle, meaning) :: handles)
  | ts, handles => some (handles, ts)

/-- Whether a token belongs to no document. -/
def isOutside : Token → Bool
  | .directive _ | .documentStart | .documentEnd => true
  | _ => false

/-- The root of a document behind its mark.  Each call of a reader within another follows a token,
but for at most two. -/
def root (r : Reading) : Option (Node × Reading) :=
  if r.tokens.isEmpty || r.tokens.head?.any isOutside then some r.nothing
  else r.node (4 * r.tokens.length + 4) true false

/-- The document that the tokens of a text give. -/
def document (tokens : List Token) : Option Document := do
  let some first := tokens.head? | return ⟨none, [], 1⟩
  let explicit := match first with
    | .directive _ | .documentStart => true
    | _ => false
  let (node, r) ←
    if explicit then do
      let (handles, ts) ← directives false tokens []
      let .documentStart :: ts := ts | none
      root { tokens := ts, handles }
    else Reading.node (4 * tokens.length + 4) true false { tokens }
  if (r.tokens.dropWhile (· == .documentEnd)).isEmpty then
    return ⟨some node, r.anchored, r.size⟩
  else none

end Reading

/-- The document of a text, none if the text is malformed or has more than one. -/
def Document.ofText? (s : String) : Option Document := do Reading.document (← Token.ofText? s)

end NodeSidecar.Yaml
