import FormulaTex.Latex.Escape

/-!
# Reading LaTeX

A reader takes a text from left to right, and a backslash together with the character after it. A
backslash with a letter begins a control word, which goes on as long as letters follow. Braces are
brackets, and so are the control words that open and close a fence or an environment. Brackets nest
when each one that closes closes the one that was opened last.

What a piece of text ends in may depend on the text that follows, since a letter lengthens a control
word. The brackets of a text are therefore stated before any text that does not begin with a letter.
-/

namespace FormulaTex
namespace Latex

inductive Piece where
  | char (c : Char)
  /-- A backslash with the character after it. -/
  | pair (c : Char)
  /-- A backslash with nothing after it. -/
  | lone
deriving DecidableEq, Repr

def pieces : List Char → List Piece
  | [] => []
  | [c] => [if c = '\\' then .lone else .char c]
  | c :: d :: rest =>
    if c = '\\' then .pair d :: pieces rest else .char c :: pieces (d :: rest)

/-- No backslash is left alone at the end. -/
def Paired (text : List Char) : Prop :=
  .lone ∉ pieces text

instance (text : List Char) : Decidable (Paired text) :=
  inferInstanceAs (Decidable (_ ∉ _))

@[simp] theorem pieces_nil : pieces [] = [] := rfl

theorem pieces_pair (c : Char) (rest : List Char) :
    pieces ('\\' :: c :: rest) = .pair c :: pieces rest := by
  simp [pieces]

theorem pieces_char {c : Char} (h : c ≠ '\\') (rest : List Char) :
    pieces (c :: rest) = .char c :: pieces rest := by
  cases rest <;> simp [pieces, h]

theorem pieces_append {a : List Char} (h : Paired a) (b : List Char) :
    pieces (a ++ b) = pieces a ++ pieces b := by
  induction a using pieces.induct with
  | case1 => rfl
  | case2 c =>
    have hc : c ≠ '\\' := by
      intro hc
      exact h (by simp [pieces, hc])
    simp [pieces_char hc]
  | case3 d rest ih =>
    have hrest : Paired rest := by simpa [Paired, pieces] using h
    simp [pieces_pair, ih hrest]
  | case4 c d rest hc ih =>
    have hrest : Paired (d :: rest) := by simpa [Paired, pieces, hc] using h
    simp [pieces_char hc, ← ih hrest]

theorem pieces_of_plain {text : List Char} (h : '\\' ∉ text) :
    pieces text = text.map .char := by
  induction text with
  | nil => rfl
  | cons c rest ih =>
    have hc : c ≠ '\\' := fun hc => h (by simp [hc])
    rw [pieces_char hc, ih fun hrest => h (by simp [hrest]), List.map_cons]

inductive Kind where
  | group
  | fence
  | environment (name : List Char)
deriving DecidableEq, Repr

inductive Bracket where
  | opening (kind : Kind)
  | closing (kind : Kind)
deriving DecidableEq, Repr

/-- Reads brackets while some kinds are open, the last one first. Gives the kinds that are open in
the end, unless a bracket closes something else than what was opened last. -/
def close : List Kind → List Bracket → Option (List Kind)
  | unclosed, [] => some unclosed
  | unclosed, .opening kind :: rest => close (kind :: unclosed) rest
  | [], .closing _ :: _ => none
  | last :: unclosed, .closing kind :: rest => if last = kind then close unclosed rest else none

/-- Each bracket that closes closes the one that was opened last, and none is left open. -/
def Nested (brackets : List Bracket) : Prop :=
  close [] brackets = some []

instance (brackets : List Bracket) : Decidable (Nested brackets) :=
  inferInstanceAs (Decidable (_ = _))

theorem close_append {unclosed inner : List Kind} {a : List Bracket}
    (h : close unclosed a = some inner) (b : List Bracket) :
    close unclosed (a ++ b) = close inner b := by
  induction unclosed, a using close.induct with
  | case1 unclosed =>
    cases h
    rfl
  | case2 unclosed kind rest ih => exact ih h
  | case3 kind rest => cases h
  | case4 unclosed kind rest ih =>
    simp only [close, List.cons_append, if_true] at h ⊢
    exact ih h
  | case5 last unclosed kind rest hkind => simp [close, hkind] at h

/-- What is open further out plays no part. -/
theorem close_outer {unclosed inner : List Kind} {a : List Bracket}
    (h : close unclosed a = some inner) (outer : List Kind) :
    close (unclosed ++ outer) a = some (inner ++ outer) := by
  induction unclosed, a using close.induct with
  | case1 unclosed =>
    cases h
    simp [close]
  | case2 unclosed kind rest ih => exact ih h
  | case3 kind rest => cases h
  | case4 unclosed kind rest ih =>
    simp only [close, List.cons_append, if_true] at h ⊢
    exact ih h
  | case5 last unclosed kind rest hkind => simp [close, hkind] at h

namespace Nested

variable {a b : List Bracket}

theorem nil : Nested [] := rfl

theorem close_eq (h : Nested a) (unclosed : List Kind) : close unclosed a = some unclosed :=
  close_outer h unclosed

theorem append (ha : Nested a) (hb : Nested b) : Nested (a ++ b) :=
  (close_append ha b).trans hb

theorem enclosed (kind : Kind) (h : Nested a) :
    Nested ([.opening kind] ++ (a ++ [.closing kind])) := by
  have hbody : close [kind] (a ++ [.closing kind]) = close [kind] [.closing kind] :=
    close_append (h.close_eq [kind]) _
  simpa [Nested, close] using hbody

end Nested

def Piece.brace? : Piece → Option Bracket
  | .char c =>
    if c = '\x7b' then some (.opening .group)
    else if c = '\x7d' then some (.closing .group)
    else none
  | _ => none

/-- The braces that are not part of a pair. -/
def braces (text : List Piece) : List Bracket :=
  text.filterMap Piece.brace?

@[simp] theorem braces_append (a b : List Piece) : braces (a ++ b) = braces a ++ braces b := by
  simp [braces]

@[simp] theorem braces_cons (p : Piece) (a : List Piece) :
    braces (p :: a) = p.brace?.toList ++ braces a := by
  cases h : p.brace? <;> simp [braces, h]

/-- A text that can stand anywhere in another without disturbing its braces. -/
def SelfContained (text : List Char) : Prop :=
  Paired text ∧ Nested (braces (pieces text))

instance (text : List Char) : Decidable (SelfContained text) :=
  inferInstanceAs (Decidable (_ ∧ _))

theorem Paired.append {a b : List Char} (ha : Paired a) (hb : Paired b) : Paired (a ++ b) := by
  rw [Paired, pieces_append ha, List.mem_append, not_or]
  exact ⟨ha, hb⟩

theorem SelfContained.nil : SelfContained [] := by
  decide

theorem SelfContained.append {a b : List Char} (ha : SelfContained a) (hb : SelfContained b) :
    SelfContained (a ++ b) := by
  refine ⟨ha.1.append hb.1, ?_⟩
  rw [pieces_append ha.1, braces_append]
  exact ha.2.append hb.2

def letters : List Piece → List Char
  | .char c :: rest => if Accent.isLetter c then c :: letters rest else []
  | _ => []

def controlName (c : Char) (rest : List Piece) : List Char :=
  if Accent.isLetter c then c :: letters rest else [c]

def untilBrace : List Piece → List Char
  | .char c :: rest => if c = '\x7d' then [] else c :: untilBrace rest
  | _ => []

/-- The name in braces after the letters of a control word. -/
def environmentName : List Piece → List Char
  | .char c :: rest =>
    if Accent.isLetter c then environmentName rest
    else if c = '\x7b' then untilBrace rest
    else []
  | _ => []

/-- The bracket that a control sequence is, if it is one. -/
def controlBracket? (c : Char) (rest : List Piece) : Option Bracket :=
  let name := controlName c rest
  if name = "left".toList then some (.opening .fence)
  else if name = "right".toList then some (.closing .fence)
  else if name = "begin".toList then some (.opening (.environment (environmentName rest)))
  else if name = "end".toList then some (.closing (.environment (environmentName rest)))
  else none

def brackets : List Piece → List Bracket
  | [] => []
  | .pair c :: rest => (controlBracket? c rest).toList ++ brackets rest
  | .char c :: rest => (Piece.char c).brace?.toList ++ brackets rest
  | .lone :: rest => brackets rest

/-- The names of the control sequences in a text. -/
def controls : List Piece → List (List Char)
  | [] => []
  | .pair c :: rest => controlName c rest :: controls rest
  | _ :: rest => controls rest

def bracketWords : List (List Char) :=
  ["left".toList, "right".toList, "begin".toList, "end".toList]

variable {a b rest : List Piece}

theorem letters_append (hrest : letters rest = []) (a : List Piece) :
    letters (a ++ rest) = letters a := by
  induction a with
  | nil => exact hrest
  | cons p a ih => cases p <;> simp [letters, ih]

theorem controlName_append (hrest : letters rest = []) (c : Char) (a : List Piece) :
    controlName c (a ++ rest) = controlName c a := by
  unfold controlName
  rw [letters_append hrest]

theorem controlBracket?_eq_none {c : Char} (h : controlName c rest ∉ bracketWords) :
    controlBracket? c rest = none := by
  simp only [bracketWords, List.mem_cons, List.not_mem_nil, or_false, not_or] at h
  simp only [controlBracket?, h, if_false]

/-- What the brackets of a text are, wherever no letter comes next. -/
def ReadsAs (a : List Piece) (word : List Bracket) : Prop :=
  ∀ rest, letters rest = [] → brackets (a ++ rest) = word ++ brackets rest

/-- A text that ends any control word before it, and whose own brackets are the same whatever comes
next. -/
structure Parts (a : List Piece) (word : List Bracket) : Prop where
  apart : ∀ rest, letters (a ++ rest) = []
  reads : ∀ rest, brackets (a ++ rest) = word ++ brackets rest

/-- A text in which no control word is a bracket has its braces for brackets. -/
theorem ReadsAs.of_controls (h : ∀ name ∈ controls a, name ∉ bracketWords) :
    ReadsAs a (braces a) := by
  intro rest hrest
  induction a with
  | nil => rfl
  | cons p a ih =>
    cases p with
    | char c => simp [brackets, ih h]
    | pair c =>
      have hname : controlName c (a ++ rest) ∉ bracketWords := by
        rw [controlName_append hrest]
        exact h _ List.mem_cons_self
      have hrest := ih fun name hname => h name (List.mem_cons_of_mem _ hname)
      simp [brackets, controlBracket?_eq_none hname, hrest, Piece.brace?]
    | lone => simp [brackets, ih h, Piece.brace?]

theorem ReadsAs.nil : ReadsAs [] [] := fun _ _ => rfl

/-- What parts two texts lets each of them be read by itself. -/
theorem ReadsAs.joint {s : List Piece} {u v w : List Bracket} (ha : ReadsAs a u) (hs : Parts s v)
    (hb : ReadsAs b w) : ReadsAs (a ++ (s ++ b)) (u ++ (v ++ w)) := by
  intro rest hrest
  calc brackets (a ++ (s ++ b) ++ rest)
      = brackets (a ++ (s ++ (b ++ rest))) := by simp only [List.append_assoc]
    _ = u ++ brackets (s ++ (b ++ rest)) := ha _ (hs.apart _)
    _ = u ++ (v ++ brackets (b ++ rest)) := by rw [hs.reads]
    _ = u ++ (v ++ (w ++ brackets rest)) := by rw [hb rest hrest]
    _ = u ++ (v ++ w) ++ brackets rest := by simp only [List.append_assoc]

theorem ReadsAs.joint_pieces {a s b : List Char} {u v w : List Bracket} (hpaira : Paired a)
    (hpairs : Paired s) (ha : ReadsAs (pieces a) u) (hs : Parts (pieces s) v)
    (hb : ReadsAs (pieces b) w) : ReadsAs (pieces (a ++ (s ++ b))) (u ++ (v ++ w)) := by
  rw [pieces_append hpaira, pieces_append hpairs]
  exact ha.joint hs hb

theorem brackets_map_char (text : List Char) (rest : List Piece) :
    brackets (text.map .char ++ rest) = braces (text.map .char) ++ brackets rest := by
  induction text with
  | nil => rfl
  | cons c text ih => simp [brackets, ih]

/-- A text without letters and backslashes parts what stands around it. -/
theorem Parts.of_plain {text : List Char} (hne : text ≠ [])
    (h : ∀ c ∈ text, c ≠ '\\' ∧ Accent.isLetter c = false) :
    Parts (pieces text) (braces (pieces text)) := by
  have hplain : '\\' ∉ text := fun hc => (h _ hc).1 rfl
  rw [pieces_of_plain hplain]
  constructor
  · intro rest
    cases text with
    | nil => exact absurd rfl hne
    | cons c text => simp [letters, (h c List.mem_cons_self).2]
  · exact brackets_map_char text

variable {text : List Char}

@[simp] theorem toList_escapeText (text : String) :
    (escapeText false text).toList = escape text.toList := by
  simp [escapeText]

/-- What a character other than the backslash is read as once it is escaped. -/
def escapedPiece (c : Char) : Piece :=
  if isSpecial c then .pair c else .char c

theorem pieces_escape_cons {c : Char} (hc : c ≠ '\\') (text rest : List Char) :
    pieces (escape (c :: text) ++ rest) = escapedPiece c :: pieces (escape text ++ rest) := by
  cases hs : isSpecial c
  · simp [escape, escapeChar, escapedPiece, hs, pieces_char hc]
  · simp [escape, escapeChar, escapedPiece, hs, pieces_pair]

theorem pieces_escape (h : '\\' ∉ text) : pieces (escape text) = text.map escapedPiece := by
  induction text with
  | nil => rfl
  | cons c text ih =>
    have hc : c ≠ '\\' := fun hc => h (by simp [hc])
    have hcons := pieces_escape_cons hc text []
    rw [List.append_nil, List.append_nil] at hcons
    rw [hcons, ih fun htext => h (by simp [htext]), List.map_cons]

theorem brace?_escapedPiece (c : Char) : (escapedPiece c).brace? = none := by
  by_cases hs : isSpecial c
  · simp [escapedPiece, hs, Piece.brace?]
  · have hbrace : c ≠ '\x7b' ∧ c ≠ '\x7d' := by
      constructor <;> rintro rfl <;> exact hs rfl
    simp [escapedPiece, hs, Piece.brace?, hbrace]

theorem selfContained_escape (h : '\\' ∉ text) : SelfContained (escape text) := by
  constructor
  · rw [Paired, pieces_escape h]
    intro hlone
    obtain ⟨c, -, hc⟩ := List.mem_map.1 hlone
    unfold escapedPiece at hc
    split at hc <;> cases hc
  · have hnone : braces (pieces (escape text)) = [] := by
      rw [pieces_escape h, braces, List.filterMap_map, List.filterMap_eq_nil_iff]
      intro c _
      exact brace?_escapedPiece c
    rw [hnone]
    exact Nested.nil

theorem isLetter_of_isSpecial {c : Char} (h : isSpecial c) : Accent.isLetter c = false :=
  of_isSpecial (Accent.isLetter · = false) h rfl

theorem controls_escape (h : '\\' ∉ text) :
    ∀ name ∈ controls (pieces (escape text)), name ∉ bracketWords := by
  rw [pieces_escape h]
  clear h
  induction text with
  | nil => simp [controls]
  | cons c text ih =>
    by_cases hs : isSpecial c
    · intro name hname
      simp only [List.map_cons, escapedPiece, hs, if_true, controls, controlName,
        isLetter_of_isSpecial hs, Bool.false_eq_true, if_false, List.mem_cons] at hname
      rcases hname with rfl | hname
      · simp [bracketWords]
      · exact ih name hname
    · simpa [escapedPiece, hs, controls] using ih

end Latex
end FormulaTex
