import FormulaTex.Yaml.Token

/-!
# Nodes of YAML

The nodes of one document as they are written: scalars, sequences, mappings and aliases, with their
anchors and tags. Reading them is a walk over the tokens that keeps the collections around the
present place. A node may be empty where the token after its mark cannot start one, and an indented
sequence inside a mapping may do without indentation of its own, so some collections and empty nodes
end in front of a token and not with one.
-/

namespace FormulaTex
namespace Yaml

/-- What may stand in front of a node. -/
structure Properties where
  anchor : Option String
  tag : Option String
deriving DecidableEq, Repr

namespace Properties

def none : Properties := ⟨Option.none, Option.none⟩

def isNone (p : Properties) : Bool :=
  p.anchor.isNone && p.tag.isNone

end Properties

inductive Node where
  | alias (name : String)
  | scalar (properties : Properties) (text : String) (isPlain : Bool)
  | sequence (properties : Properties) (items : List Node)
  | mapping (properties : Properties) (entries : List (Node × Node))

namespace Node

def empty : Node := .scalar .none "" true

end Node

/-- The collection around a node that is being read. Items and entries come latest first. -/
inductive Frame where
  | blockItem (p : Properties) (items : List Node)
  | looseItem (p : Properties) (items : List Node)
  | blockKey (p : Properties) (entries : List (Node × Node))
  | blockValue (p : Properties) (entries : List (Node × Node)) (key : Node)
  | flowItem (p : Properties) (items : List Node)
  | pairKey (p : Properties) (items : List Node)
  | pairValue (p : Properties) (items : List Node) (key : Node)
  | flowKey (p : Properties) (entries : List (Node × Node)) (isMarked : Bool)
  | flowValue (p : Properties) (entries : List (Node × Node)) (key : Node)

/-- What comes next. -/
inductive Expected where
  | node (p : Properties)
  | blockItem (p : Properties) (items : List Node)
  | looseItem (p : Properties) (items : List Node)
  | blockKey (p : Properties) (entries : List (Node × Node))
  | blockValue (p : Properties) (entries : List (Node × Node)) (key : Node)
  | flowItem (p : Properties) (items : List Node)
  | flowItemEnd (p : Properties) (items : List Node)
  | pairValue (p : Properties) (items : List Node) (key : Node)
  | flowKey (p : Properties) (entries : List (Node × Node))
  | flowKeyEnd (p : Properties) (entries : List (Node × Node))
  | flowValue (p : Properties) (entries : List (Node × Node)) (key : Node)
  | documentEnd (root : Node)

/-- The place of the walk. `mayBeEmpty` tells whether the document itself may be empty. -/
structure Place where
  frames : List Frame
  expected : Expected
  mayBeEmpty : Bool

/-- How many collections may stand within one another. -/
def nestingLimit : Nat := 480

namespace Place

def await (frames : List Frame) (p : Place) : Place :=
  { p with frames, expected := .node .none }

def expect (frames : List Frame) (expected : Expected) (p : Place) : Place :=
  { p with frames, expected }

/-- Hands a finished node to the collection around it. -/
def give (node : Node) (p : Place) : Place :=
  match p.frames with
  | [] => p.expect [] (.documentEnd node)
  | frame :: frames => p.expect frames (match frame with
    | .blockItem q items => .blockItem q (node :: items)
    | .looseItem q items => .looseItem q (node :: items)
    | .blockKey q entries => .blockValue q entries node
    | .blockValue q entries key => .blockKey q ((key, node) :: entries)
    | .flowItem q items => .flowItemEnd q (node :: items)
    | .pairKey q items => .pairValue q items node
    | .pairValue q items key => .flowItemEnd q (.mapping .none [(key, node)] :: items)
    | .flowKey q entries true => .flowValue q entries node
    | .flowKey q entries false => .flowKeyEnd q ((node, .empty) :: entries)
    | .flowValue q entries key => .flowKeyEnd q ((key, node) :: entries))

/-- Whether a node without any properties may be left out in front of a token. -/
def allowsEmpty (p : Place) (token : Token) : Bool :=
  match p.frames, token with
  | [], .documentStart | [], .documentEnd | [], .streamEnd => p.mayBeEmpty
  | [], .version _ | [], .handle _ _ | [], .directive => p.mayBeEmpty
  | .blockItem _ _ :: _, .entry | .blockItem _ _ :: _, .blockEnd => true
  | .looseItem _ _ :: _, .entry | .looseItem _ _ :: _, .key | .looseItem _ _ :: _, .value
  | .looseItem _ _ :: _, .blockEnd => true
  | .blockKey _ _ :: _, .key | .blockKey _ _ :: _, .value | .blockKey _ _ :: _, .blockEnd => true
  | .blockValue .. :: _, .key | .blockValue .. :: _, .value | .blockValue .. :: _, .blockEnd => true
  | .pairKey _ _ :: _, .value | .pairKey _ _ :: _, .comma
  | .pairKey _ _ :: _, .flowSequenceEnd => true
  | .pairValue .. :: _, .comma | .pairValue .. :: _, .flowSequenceEnd => true
  | .flowKey _ _ true :: _, .value | .flowKey _ _ true :: _, .comma
  | .flowKey _ _ true :: _, .flowMappingEnd => true
  | .flowValue .. :: _, .comma | .flowValue .. :: _, .flowMappingEnd => true
  | _, _ => false

/-- Whether the node at this place may be a block collection. -/
def isBlock (p : Place) : Bool :=
  match p.frames with
  | [] => true
  | frame :: _ =>
    match frame with
    | .blockItem .. | .looseItem .. | .blockKey .. | .blockValue .. => true
    | _ => false

/-- Whether the node at this place may be a sequence without indentation. -/
def isLoose (p : Place) : Bool :=
  match p.frames with
  | .blockKey .. :: _ | .blockValue .. :: _ => true
  | _ => false

/-- Whether a node, or more of its properties, starts with a token. -/
def continuesNode (p : Place) (q : Properties) (token : Token) : Bool :=
  match token with
  | .alias _ => q.isNone
  | .anchor _ => q.anchor.isNone
  | .tag _ _ => q.tag.isNone
  | .scalar _ _ | .flowSequence | .flowMapping => true
  | .blockSequence | .blockMapping => p.isBlock
  | .entry => p.isLoose
  | _ => false

/-- An empty node in front of a token that does not continue the node. -/
def endNode (p : Place) (token : Token) : Place :=
  match p.expected with
  | .node q =>
    if p.continuesNode q token then p
    else if !q.isNone then p.give (.scalar q "" true)
    else if p.allowsEmpty token then p.give .empty
    else p
  | _ => p

/-- The end of a sequence without indentation. -/
def endLoose (p : Place) (token : Token) : Place :=
  match p.expected, token with
  | .looseItem _ _, .entry => p
  | .looseItem q items, _ => p.give (.sequence q items.reverse)
  | _, _ => p

/-- A value that is left out. -/
def endValue (p : Place) (token : Token) : Place :=
  match p.expected, token with
  | .blockValue _ _ _, .value => p
  | .blockValue q entries key, _ => p.expect p.frames (.blockKey q ((key, .empty) :: entries))
  | .pairValue _ _ _, .value => p
  | .pairValue q items key, _ =>
    p.expect p.frames (.flowItemEnd q (.mapping .none [(key, .empty)] :: items))
  | .flowValue _ _ _, .value => p
  | .flowValue q entries key, _ => p.expect p.frames (.flowKeyEnd q ((key, .empty) :: entries))
  | _, _ => p

/-- Ends all that ends in front of a token. -/
def settle (p : Place) (token : Token) : Place :=
  ((p.endNode token).endLoose token).endValue token

/-- Opens a collection, unless there are too many around it. -/
def opened (p : Place) (expected : Expected) : Except Fault Place :=
  if p.frames.length < nestingLimit then .ok { p with expected } else .error .tooDeep

/-- The full tag of a handle and a suffix. A tag in angle brackets has no handle. -/
def fullTag (handles : List (String × String)) (handle : Option String) (suffix : String) :
    Except Fault String :=
  match handle with
  | none => .ok suffix
  | some handle =>
    match handles.lookup handle with
    | some expansion => .ok (expansion ++ suffix)
    | none => .error .malformed

def takeNode (handles : List (String × String)) (p : Place) (q : Properties) (token : Token) :
    Except Fault Place :=
  if !p.continuesNode q token then .error .malformed
  else
    match token with
    | .alias name => .ok (p.give (.alias name))
    | .anchor name => .ok { p with expected := .node { q with anchor := some name } }
    | .tag handle suffix => do
      let tag ← fullTag handles handle suffix
      return { p with expected := .node { q with tag := some tag } }
    | .scalar text isPlain => .ok (p.give (.scalar q text isPlain))
    | .flowSequence => p.opened (.flowItem q [])
    | .flowMapping => p.opened (.flowKey q [])
    | .blockSequence => p.opened (.blockItem q [])
    | .blockMapping => p.opened (.blockKey q [])
    | .entry => .ok (p.await (.looseItem q [] :: p.frames))
    | _ => .error .malformed

/-- Takes a token that nothing ends in front of. -/
def take (handles : List (String × String)) (p : Place) (token : Token) : Except Fault Place :=
  match p.expected, token with
  | _, .broken fault => .error fault
  | .node q, token => p.takeNode handles q token
  | .blockItem q items, .entry => .ok (p.await (.blockItem q items :: p.frames))
  | .blockItem q items, .blockEnd => .ok (p.give (.sequence q items.reverse))
  | .looseItem q items, .entry => .ok (p.await (.looseItem q items :: p.frames))
  | .blockKey q entries, .key => .ok (p.await (.blockKey q entries :: p.frames))
  | .blockKey q entries, .blockEnd => .ok (p.give (.mapping q entries.reverse))
  | .blockValue q entries key, .value => .ok (p.await (.blockValue q entries key :: p.frames))
  | .flowItem q items, .flowSequenceEnd => .ok (p.give (.sequence q items.reverse))
  | .flowItem q items, .key => .ok (p.await (.pairKey q items :: p.frames))
  | .flowItem q items, token =>
    (p.await (.flowItem q items :: p.frames)).takeNode handles .none token
  | .flowItemEnd q items, .flowSequenceEnd => .ok (p.give (.sequence q items.reverse))
  | .flowItemEnd q items, .comma => .ok { p with expected := .flowItem q items }
  | .pairValue q items key, .value => .ok (p.await (.pairValue q items key :: p.frames))
  | .flowKey q entries, .flowMappingEnd => .ok (p.give (.mapping q entries.reverse))
  | .flowKey q entries, .key => .ok (p.await (.flowKey q entries true :: p.frames))
  | .flowKey q entries, token =>
    (p.await (.flowKey q entries false :: p.frames)).takeNode handles .none token
  | .flowKeyEnd q entries, .flowMappingEnd => .ok (p.give (.mapping q entries.reverse))
  | .flowKeyEnd q entries, .comma => .ok { p with expected := .flowKey q entries }
  | .flowValue q entries key, .value => .ok (p.await (.flowValue q entries key :: p.frames))
  | .documentEnd _, .documentEnd => .ok p
  | _, _ => .error .malformed

/-- Walks over the tokens of a document up to the end of the stream. No second document may
follow. -/
def run (handles : List (String × String)) (p : Place) : List Token → Except Fault Node
  | [] => .error .malformed
  | token :: rest =>
    let p := p.settle token
    match p.expected, token with
    | .documentEnd root, .streamEnd => .ok root
    | _, _ => do run handles (← p.take handles token) rest

end Place

/-- The directives in front of a document. -/
structure Directives where
  hasVersion : Bool
  handles : List (String × String)

namespace Directives

def none : Directives := ⟨false, []⟩

/-- The expansions of all handles, those without a directive included. -/
def allHandles (d : Directives) : List (String × String) :=
  d.handles ++ [("!", "!"), ("!!", "tag:yaml.org,2002:")]

/-- Reads directives up to the start of the document, with the tokens behind it. -/
def read (d : Directives) : List Token → Except Fault (Directives × List Token)
  | .version major :: rest =>
    if d.hasVersion || major != 1 then .error .malformed
    else read { d with hasVersion := true } rest
  | .handle name expansion :: rest =>
    if (d.handles.lookup name).isSome then .error .malformed
    else read { d with handles := d.handles ++ [(name, expansion)] } rest
  | .directive :: rest => read d rest
  | .documentStart :: rest => .ok (d, rest)
  | .broken fault :: _ => .error fault
  | _ => .error .malformed

end Directives

/-- The root node of a token list, or nothing if there is no document. A document without a start
mark may not be empty. -/
def Node.ofTokens (tokens : List Token) : Except Fault (Option Node) :=
  match tokens with
  | [.streamEnd] => .ok none
  | .version _ :: _ | .handle _ _ :: _ | .directive :: _ | .documentStart :: _ => do
    let (directives, rest) ← Directives.none.read tokens
    return some (← (Place.mk [] (.node .none) true).run directives.allHandles rest)
  | _ => do
    return some (← (Place.mk [] (.node .none) false).run Directives.none.allHandles tokens)

end Yaml
end FormulaTex
