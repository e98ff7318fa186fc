import FormulaTex.Value

/-!
# Symbol tables

A symbol table gives the LaTeX fragment of a tag. It is an ordered list in which every tag stands
once. A tag that is missing, or whose fragment is empty, is spelled as a macro of its own name.
Custom entries are layered over the built-in ones: an entry for a tag that is there takes its
place, and new tags follow in the order in which they are given.
-/

namespace FormulaTex

/-- Entries in listing order. -/
abbrev SymbolTable := List (Tag × String)

namespace SymbolTable

def builtin : SymbolTable := [
  -- operators and relations
  (some "plus", "+"), (some "minus", "-"), (some "ast", "*"), (some "slash", "/"),
  (some "eq", "="), (some "ne", "\\neq"), (some "assign", ":="), (some "lt", "<"),
  (some "gt", ">"), (some "sub", "\\text\x7b–\x7d"), (some "sup", "\\text\x7b^\x7d"),
  -- logic
  (some "implies", "\\Rightarrow"), (some "iff", "\\Leftrightarrow"),
  (some "if", "\\text\x7bif\x7d"), (some "and", "\\text\x7band\x7d"),
  (some "or", "\\text\x7bor\x7d"),
  -- delimiters
  (some "lparen", "("), (some "rparen", ")"), (some "lbracket", "["), (some "rbracket", "]"),
  (some "lbrace", "\\\x7b"), (some "rbrace", "\\\x7d"), (some "lvert", "\\lVert"),
  (some "rvert", "\\rVert"), (some "vbar", "|"), (none, "."),
  -- calculus
  (some "integral", "\\int"), (some "dx", "dx"), (some "dy", "dy"), (some "dz", "dz"),
  (some "dt", "dt"), (some "contourintegral", "\\oint"),
  -- functions set upright
  (some "Lim", "\\text\x7bLim\x7d"), (some "Sin", "\\text\x7bSin\x7d"),
  (some "Cos", "\\text\x7bCos\x7d"), (some "Tan", "\\text\x7bTan\x7d"),
  (some "Sinh", "\\text\x7bSinh\x7d"), (some "Cosh", "\\text\x7bCosh\x7d"),
  (some "Tanh", "\\text\x7bTanh\x7d"), (some "Cot", "\\text\x7bCot\x7d"),
  (some "Sec", "\\text\x7bSec\x7d"), (some "csc", "\\text\x7bcsc\x7d"),
  (some "Csc", "\\text\x7bCsc\x7d"), (some "sech", "\\text\x7bsech\x7d"),
  (some "csch", "\\text\x7bcsch\x7d"), (some "Abs", "\\text\x7bAbs\x7d"),
  (some "Log", "\\text\x7bLog\x7d"), (some "Ln", "\\text\x7bLn\x7d"),
  (some "lcm", "\\text\x7blcm\x7d"), (some "lub", "\\text\x7blub\x7d"),
  (some "glb", "\\text\x7bglb\x7d"),
  -- miscellaneous
  (some "partial", "\\del"), (some "prime", "'"), (some "tilde", "\\~"), (some "nbsp", "\\;"),
  (some "quad", "\\;\\;"), (some "qquad", "\\;\\;\\;\\;"), (some "lceiling", "\\lceil"),
  (some "rceiling", "\\rceil"),
  -- number sets
  (some "dstruck_captial_c", "\\mathbb\x7bC\x7d"), (some "dstruck_captial_n", "\\mathbb\x7bN\x7d"),
  (some "dstruck_captial_q", "\\mathbb\x7bQ\x7d"), (some "dstruck_captial_r", "\\mathbb\x7bR\x7d"),
  (some "dstruck_captial_z", "\\mathbb\x7bZ\x7d"), (some "f", "f"), (some "g", "g"),
  (some "to", "\\rightarrow"),
  -- font styles
  (some "bold", "\\mathbf"), (some "double_struck", "\\mathbb"), (some "italic", "\\mathit"),
  (some "bold_italic", "\\mathbf"), (some "script", "\\mathscr"), (some "bold_script", "\\mathscr"),
  (some "monospace", "\\mathtt"), (some "fraktur", "\\mathfrak"),
  (some "bold_fraktur", "\\mathfrak"), (some "sans_serif", "\\mathsf"),
  (some "bold_sans_serif", "\\mathsf"), (some "sans_serif_italic", "\\mathsf"),
  (some "sans_serif_bold_italic", "\\mathsf")]

/-- The entry of a tag, empty or not. -/
def get? (table : SymbolTable) (tag : Tag) : Option String :=
  List.lookup tag table

/-- Replaces the entry of a tag in place, or adds it at the end. -/
def put (tag : Tag) (fragment : String) : SymbolTable → SymbolTable
  | [] => [(tag, fragment)]
  | (t, f) :: rest => if t = tag then (tag, fragment) :: rest else (t, f) :: put tag fragment rest

/-- The built-in table with custom entries over it. -/
def layered (custom : List (String × String)) : SymbolTable :=
  custom.foldl (fun table (tag, fragment) => put (some tag) fragment table) builtin

/-- A tag is known when the table has a fragment for it that is not empty. -/
def isKnown (table : SymbolTable) (tag : Tag) : Bool :=
  match table.get? tag with
  | some fragment => !fragment.isEmpty
  | none => false

/-- The macro named after a tag. -/
def fallback (tag : Tag) : String :=
  "\\" ++ tag.getD ""

def resolve (table : SymbolTable) (tag : Tag) : String :=
  match table.get? tag with
  | some fragment => if fragment.isEmpty then fallback tag else fragment
  | none => fallback tag

theorem resolve_of_not_isKnown {table : SymbolTable} {tag : Tag}
    (h : table.isKnown tag = false) : table.resolve tag = fallback tag := by
  unfold isKnown at h
  unfold resolve
  split <;> simp_all

theorem get?_put (table : SymbolTable) (tag other : Tag) (fragment : String) :
    (put tag fragment table).get? other =
      if other = tag then some fragment else table.get? other := by
  induction table with
  | nil =>
    by_cases h : other = tag
    · simp [put, get?, h]
    · have : (other == tag) = false := by simpa using h
      simp [put, get?, List.lookup_cons, this, h]
  | cons entry rest ih =>
    obtain ⟨t, f⟩ := entry
    by_cases ht : t = tag
    · subst ht
      by_cases h : other = t
      · simp [put, get?, h]
      · have : (other == t) = false := by simpa using h
        simp [put, get?, List.lookup_cons, this, h]
    · by_cases h : other = t
      · subst h
        simp [put, get?, ht]
      · have : (other == t) = false := by simpa using h
        simpa [put, get?, ht, List.lookup_cons, this] using ih

end SymbolTable

end FormulaTex
