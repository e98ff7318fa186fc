import FormulaTex.Value

/-!
# Equality and order of values

Scalars are compared by value across their types: truth values are the integers zero and one, and
integers and floating-point numbers are compared exactly. Keys of a mapping are the same key when
they are equal in this sense, except that NaN is the same key as itself. Nodes are equal when they
are of one kind with equal fields.

A digest identifies nodes by their fields alone, so that two nodes of different kinds with the
same fields share one. Lists, sets and mappings have none.
-/

namespace FormulaTex

/-- Numbers of all types by their value: truth values count as integers. -/
inductive Numeral where
  | int (n : Int)
  | float (x : Double)
deriving DecidableEq, Repr

namespace Numeral

def equals : Numeral → Numeral → Bool
  | int m, int n => m == n
  | int m, float x => x.equalsInt m
  | float x, int n => x.equalsInt n
  | float x, float y => x.equals y

def less : Numeral → Numeral → Bool
  | int m, int n => decide (m < n)
  | int m, float x => Double.intLess m x
  | float x, int n => x.lessInt n
  | float x, float y => x.less y

end Numeral

namespace Scalar

def numeral? : Scalar → Option Numeral
  | bool b => some (.int (if b then 1 else 0))
  | int n => some (.int n)
  | float x => some (.float x)
  | _ => none

/-- Points in time that both carry an offset are equal when they are the same instant. -/
def timesEqual (s t : DateTime) : Bool :=
  s.offset.isSome == t.offset.isSome && s.instant == t.instant

def equals (a b : Scalar) : Bool :=
  match a.numeral?, b.numeral? with
  | some m, some n => m.equals n
  | none, none =>
    match a, b with
    | .dateTime s, .dateTime t => timesEqual s t
    | _, _ => a == b
  | _, _ => false

def sameKey (a b : Scalar) : Bool :=
  a.equals b || (a == .float .nan && b == .float .nan)

end Scalar

/-- Puts a key with its value into a mapping. A key that is there already keeps its place and its
spelling and takes the new value. -/
def insertEntry {α : Type} (key : Scalar) (value : α) :
    List (Scalar × α) → List (Scalar × α)
  | [] => [(key, value)]
  | (k, v) :: rest =>
    if k.sameKey key then (k, value) :: rest else (k, v) :: insertEntry key value rest

def entriesOf {α : Type} (pairs : List (Scalar × α)) : List (Scalar × α) :=
  pairs.foldl (fun entries (key, value) => insertEntry key value entries) []

/-- The value under a text key. -/
def field? {α : Type} (name : String) (entries : List (Scalar × α)) : Option α :=
  (entries.find? fun (key, _) => key == .str name).map (·.2)

/-- Why two scalars have no order: their types, later one first, or a reason of their own. -/
inductive OrderFault where
  | types (later earlier : String)
  | mixedOffsets
  | timeAndDate
deriving DecidableEq, Repr

namespace OrderFault

def message : OrderFault → String
  | types later earlier =>
    "'<' not supported between instances of '" ++ later ++ "' and '" ++ earlier ++ "'"
  | mixedOffsets => "can't compare offset-naive and offset-aware datetimes"
  | timeAndDate => "can't compare datetime.datetime to datetime.date"

end OrderFault

namespace Scalar

def listLess {α : Type} (less : α → α → Bool) : List α → List α → Bool
  | [], [] => false
  | [], _ :: _ => true
  | _ :: _, [] => false
  | a :: as, b :: bs => less a b || (!less b a && listLess less as bs)

def dateLess (a b : Date) : Bool :=
  listLess (fun m n => decide (m < n)) [a.year, a.month, a.day] [b.year, b.month, b.day]

/-- The full name of a scalar's type, as messages about order give it. -/
def orderTypeName : Scalar → String
  | .date _ => "datetime.date"
  | .dateTime _ => "datetime.datetime"
  | s => s.typeName

/-- Strict order of scalars of comparable types. -/
def less (a b : Scalar) : Except OrderFault Bool :=
  match a.numeral?, b.numeral? with
  | some m, some n => .ok (m.less n)
  | _, _ =>
    match a, b with
    | .str s, .str t => .ok (listLess (fun c d => decide (c < d)) s.toList t.toList)
    | .bytes s, .bytes t => .ok (listLess (fun c d => decide (c < d)) s t)
    | .date s, .date t => .ok (dateLess s t)
    | .dateTime s, .dateTime t =>
      if s.offset.isSome = t.offset.isSome then .ok (decide (s.instant < t.instant))
      else .error .mixedOffsets
    | .dateTime _, .date _ | .date _, .dateTime _ => .error .timeAndDate
    | _, _ => .error (.types a.orderTypeName b.orderTypeName)

end Scalar

namespace KeyOrder

/-- Takes the longest ascending start of a list after `last`, or the longest strictly descending
one. -/
def takeRun (descending : Bool) (last : Scalar) :
    List Scalar → Except OrderFault (List Scalar × List Scalar)
  | [] => .ok ([], [])
  | key :: rest => do
    if (← key.less last) = descending then
      let (run, rest) ← takeRun descending key rest
      return (key :: run, rest)
    else return ([], key :: rest)

/-- Inserts a key behind all members of a sorted array that do not exceed it, by bisection of the
places from `low` to `high`. -/
def place (sorted : Array Scalar) (key : Scalar) : Nat → Nat → Nat → Except OrderFault Nat
  | 0, low, _ => .ok low
  | steps + 1, low, high =>
    if high ≤ low then .ok low
    else
      let middle := low + (high - low) / 2
      match sorted[middle]? with
      | none => .ok low
      | some other => do
        if (← key.less other) then place sorted key steps low middle
        else place sorted key steps (middle + 1) high

def insertAll (sorted : Array Scalar) : List Scalar → Except OrderFault (Array Scalar)
  | [] => .ok sorted
  | key :: rest => do
    let i ← place sorted key (sorted.size + 1) 0 sorted.size
    insertAll (sorted.toList.insertIdx i key).toArray rest

/-- Sorts keys: the run at the start is taken as it is, or reversed, and the others are inserted
one after another. The first two keys found without an order are the fault. -/
def sort : List Scalar → Except OrderFault (List Scalar)
  | [] => .ok []
  | [key] => .ok [key]
  | first :: second :: rest => do
    let descending ← second.less first
    let (run, rest) ← takeRun descending second rest
    let start := first :: second :: run
    let sorted ← insertAll (if descending then start.reverse else start).toArray rest
    return sorted.toList

end KeyOrder

namespace Value

mutual

def equals : Value → Value → Bool
  | .scalar a, .scalar b => a.equals b
  | .list _ a, .list _ b => allEqual a b
  | .tuple a, .tuple b => allEqual a b
  | .set a, .set b => a.all (fun s => b.any s.equals) && b.all (fun s => a.any s.equals)
  | .map _ a, .map _ b => decide (a.length = b.length) && entriesEqual a b
  | .literal a, .literal b => a == b
  | .symbol a, .symbol b => a == b
  | .rawText a, .rawText b => a == b
  | .sequence a s, .sequence b t => allEqual a b && s == t
  | .textRun a, .textRun b => a == b
  | .parenthesized a l r, .parenthesized b m s => equals a b && l == m && r == s
  | .subSup a b c, .subSup x y z => equals a x && equals b y && equals c z
  | .unary a b, .unary x y => equals a x && equals b y
  | .binary a b c, .binary x y z => equals a x && equals b y && equals c z
  | .matrix a l r, .matrix b m s => rowsEqual a b && l == m && r == s
  | _, _ => false

def allEqual : List Value → List Value → Bool
  | [], [] => true
  | a :: as, b :: bs => equals a b && allEqual as bs
  | _, _ => false

/-- Every entry has its equal in the other mapping; the order of entries does not count. -/
def entriesEqual : List (Scalar × Value) → List (Scalar × Value) → Bool
  | [], _ => true
  | (key, a) :: rest, other =>
    (match other.find? fun (k, _) => k.sameKey key with
      | some (_, b) => equals a b
      | none => false)
      && entriesEqual rest other

def rowsEqual : List (Row Value) → List (Row Value) → Bool
  | [], [] => true
  | ⟨a, s⟩ :: as, ⟨b, t⟩ :: bs => allEqual a b && s == t && rowsEqual as bs
  | _, _ => false

end

/-- A tree of field values, numbers by their value. -/
inductive Digest where
  | scalar (s : Scalar)
  | fields (parts : List Digest)

namespace Digest

mutual

def equals : Digest → Digest → Bool
  | .scalar a, .scalar b => a.equals b
  | .fields a, .fields b => allEqual a b
  | _, _ => false

def allEqual : List Digest → List Digest → Bool
  | [], [] => true
  | a :: as, b :: bs => equals a b && allEqual as bs
  | _, _ => false

end

def ofOption (text : Option String) : Digest :=
  .scalar (match text with
    | none => .null
    | some text => .str text)

def ofDelimiter (delimiter : Option Tag) : Digest :=
  match delimiter with
  | none => .scalar .null
  | some tag => .fields [ofOption tag]

end Digest

mutual

/-- The digest of a value, or the type name of the first part that has none. -/
def digest : Value → Except String Digest
  | .scalar s => .ok (.scalar s)
  | .list .. => .error "list"
  | .tuple items => do return .fields (← digests items)
  | .set _ => .error "set"
  | .map .. => .error "dict"
  | .cycle _ .list => .error "list"
  | .cycle _ .map => .error "dict"
  | .literal text => .ok (.fields [.scalar (.str text)])
  | .symbol tag => .ok (.fields [.ofOption tag])
  | .rawText text => .ok (.fields [.scalar (.str text)])
  | .sequence items separator => do
    return .fields [.fields (← digests items), .ofOption separator]
  | .textRun content => .ok (.fields [.scalar (.str content)])
  | .parenthesized inner left right => do
    return .fields [← digest inner, .ofDelimiter left, .ofDelimiter right]
  | .subSup base sub sup => do return .fields [← digest base, ← digest sub, ← digest sup]
  | .unary operator operand => do return .fields [← digest operator, ← digest operand]
  | .binary operator left right => do
    return .fields [← digest operator, ← digest left, ← digest right]
  | .matrix rows left right => do
    return .fields [.fields (← rowDigests rows), .ofDelimiter left, .ofDelimiter right]

def digests : List Value → Except String (List Digest)
  | [] => .ok []
  | item :: items => do return (← digest item) :: (← digests items)

def rowDigests : List (Row Value) → Except String (List Digest)
  | [] => .ok []
  | ⟨cells, separator⟩ :: rows => do
    return .fields [.fields (← digests cells), .ofOption separator] :: (← rowDigests rows)

end

end Value

end FormulaTex
