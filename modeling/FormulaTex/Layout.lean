import FormulaTex.Layout.Fault
import FormulaTex.Value.Scope

/-!
# The layout of trees in data

Plain data lays out an expression tree. Texts and numbers are literals, lists are sequences, and a
mapping with a `symbol` is a symbol. Every other node is a mapping whose `type` tells the kind of
node and whose other entries are its parts. Data may hold nodes that are already built; they stand
for themselves.

Parts are read in a fixed order, and the first fault is the one reported. A collection that is
part of itself lays out no tree, wherever it is read again. But delimiters and operators are not
read, so these parts may hold the collections around them.
-/

namespace FormulaTex
namespace Layout

/-- The tag in a mapping `{symbol: tag}`. -/
def symbolEntry? (entries : List (Scalar × Value)) : Option String :=
  match field? "symbol" entries with
  | some (.str tag) => some tag
  | _ => none

/-- The text in a mapping `{raw: text}`. -/
def rawEntry? (entries : List (Scalar × Value)) : Option String :=
  match field? "raw" entries with
  | some (.str text) => some text
  | _ => none

/-- A delimiter: a tag or a symbol, or nothing. -/
def readDelimiter (field : String) (value : Value) : Except Fault (Option Tag) :=
  let fault := .error (.naming value (.notSymbol field value))
  match value with
  | .null => .ok none
  | .str tag => .ok (some (some tag))
  | .map _ entries =>
    match symbolEntry? entries with
    | some tag => .ok (some (some tag))
    | none => fault
  | _ => fault

def delimiterField (scope : Scope) (name : String) (entries : List (Scalar × Value)) :
    Except Fault (Option Tag) :=
  readDelimiter name (scope.alone ((field? name entries).getD .null))

/-- An operator: a tag, a symbol or raw text. Other values are kept as they are. -/
def readOperator (value : Value) : Value :=
  match value with
  | .str tag => .symbol (some tag)
  | .map _ entries =>
    match symbolEntry? entries, rawEntry? entries with
    | some tag, _ => .symbol (some tag)
    | none, some text => .rawText text
    | none, none => value
  | _ => value

def operatorField (scope : Scope) (kind : String) (entries : List (Scalar × Value)) :
    Except Fault Value :=
  match field? "op" entries with
  | none => .error (.missingField kind "op")
  | some value => .ok (readOperator (scope.alone value))

/-- The content of a text run. The short field name goes before the long one. -/
def readText (entries : List (Scalar × Value)) : Except Fault Value :=
  match (field? "c" entries).or (field? "content" entries) with
  | some (.str content) => .ok (.textRun content)
  | _ => .error .textContent

/-- A mapping without a kind is a symbol or nothing at all. `whole` is the mapping itself. -/
def readUntyped (whole : Value) (entries : List (Scalar × Value)) : Except Fault Value :=
  match field? "symbol" entries with
  | some (.str tag) => .ok (.symbol (some tag))
  | some _ => .error (.naming whole (.notSymbol "symbol" whole))
  | none => .error (.ofKeys (entries.map (·.1)))

/-- A mapping of a kind that no node has. -/
def readUnknown (kind : Value) : Except Fault Value :=
  .error (.naming kind (.unknownKind kind))

def separatorField (entries : List (Scalar × Value)) : Except Fault (Option String) :=
  match field? "separator" entries with
  | none => .ok none
  | some .null => .ok none
  | some (.str separator) => .ok (some separator)
  | some _ => .error .sequenceSeparator

/-- Scalars that are texts or numbers are literals. -/
def readScalar : Scalar → Except Fault Value
  | .bool b => .error (.truthValue b)
  | .str text => .ok (.literal text)
  | .int n => if Number.isWritable n then .ok (.literal (toString n)) else .error .integerTooLong
  | .float x => .ok (.literal x.toText)
  | s => .error (.noNode s.typeName)

def isList : Value → Bool
  | .list .. => true
  | .cycle _ .list => true
  | _ => false

/-- Whether a value is a list of lists. -/
def isTable : Value → Bool
  | .list _ rows => rows.all isList
  | _ => false

mutual

/-- The tree that a value lays out in a scope. -/
def readIn (scope : Scope) : Value → Except Fault Value
  | .scalar s => readScalar s
  | .list label items => do
    return .sequence (← readAll (scope.enter label (.list label items)) items) none
  | .map label entries =>
    let whole := Value.map label entries
    let inner := scope.enter label whole
    match (field? "type" entries).getD .null with
    | .null => readUntyped (scope.alone whole) entries
    | .str "text" => readText entries
    | .str "seq" => itemsField inner (separatorField entries) entries
    | .str "paren" => do
      let body ← nodeField inner "paren" "e" entries
      let left ← delimiterField inner "lparen" entries
      let right ← delimiterField inner "rparen" entries
      return .parenthesized body left right
    | .str "subsup" => do
      let base ← nodeField inner "subsup" "e" entries
      let sub ← scriptField inner "sub" entries
      let sup ← scriptField inner "sup" entries
      return .subSup base sub sup
    | .str "unary" => do
      let operator ← operatorField inner "unary" entries
      let operand ← nodeField inner "unary" "e" entries
      return .unary operator operand
    | .str "binary" => do
      let operator ← operatorField inner "binary" entries
      let left ← nodeField inner "binary" "e1" entries
      let right ← nodeField inner "binary" "e2" entries
      return .binary operator left right
    | .str "matrix" => do
      let rows ← rowsField inner entries
      let left ← delimiterField inner "lparen" entries
      let right ← delimiterField inner "rparen" entries
      return .matrix rows left right
    | kind => readUnknown (inner.alone kind)
  | .cycle .. => .error .endless
  | .tuple _ => .error (.noNode "tuple")
  | .set _ => .error (.noNode "set")
  | .rawText _ => .error (.noNode "RawText")
  | node => .ok node

def readAll (scope : Scope) : List Value → Except Fault (List Value)
  | [] => .ok []
  | item :: items => do
    let node ← readIn scope item
    return node :: (← readAll scope items)

/-- A part that the kind of node requires. -/
def nodeField (scope : Scope) (kind name : String) : List (Scalar × Value) → Except Fault Value
  | [] => .error (.missingField kind name)
  | (key, value) :: rest =>
    if key = .str name then readIn scope value else nodeField scope kind name rest

/-- A part that may be left out or null. -/
def scriptField (scope : Scope) (name : String) : List (Scalar × Value) → Except Fault Value
  | [] => .ok .null
  | (key, value) :: rest =>
    if key = .str name then (if value.isNull then .ok .null else readIn scope value)
    else scriptField scope name rest

/-- The items of a sequence. The separator is looked at before the items are read. -/
def itemsField (scope : Scope) (separator : Except Fault (Option String)) :
    List (Scalar × Value) → Except Fault Value
  | [] => .error (.missingField "seq" "items")
  | (key, value) :: rest =>
    if key = .str "items" then
      match value with
      | .list label items => do
        let separator ← separator
        return .sequence (← readAll (scope.enter label (.list label items)) items) separator
      | .cycle _ .list => do
        let _ ← separator
        .error .endless
      | _ => .error .sequenceItems
    else itemsField scope separator rest

/-- The rows of a matrix. All of them are lists before any cell is read. -/
def rowsField (scope : Scope) : List (Scalar × Value) → Except Fault (List (Row Value))
  | [] => .error (.missingField "matrix" "rows")
  | (key, value) :: rest =>
    if key = .str "rows" then
      match value with
      | .list label rows =>
        if rows.all isList then readRows (scope.enter label (.list label rows)) rows
        else .error .matrixRows
      | value => .error (if isTable (scope.alone value) then .endless else .matrixRows)
    else rowsField scope rest

def readRows (scope : Scope) : List Value → Except Fault (List (Row Value))
  | [] => .ok []
  | row :: rows => do
    let cells ← match row with
      | .list label cells => readAll (scope.enter label (.list label cells)) cells
      | .cycle .. => .error .endless
      | _ => .error .matrixRows
    return ⟨cells, none⟩ :: (← readRows scope rows)

end

/-- The tree that a value lays out. -/
def read (value : Value) : Except Fault Value :=
  readIn [] value

end Layout
end FormulaTex
