/-!
# Blank characters and lines

White space here is the white space of Unicode together with the four information separators, so
that every character that ends a line is also blank. A line ends at a line feed, a carriage
return, a vertical tab, a form feed, a separator from U+001C to U+001E, the next-line character,
or one of the two Unicode separators.
-/

namespace FormulaTex
namespace Text

def isBlank (c : Char) : Bool :=
  let n := c.toNat
  (decide (0x09 ≤ n) && decide (n ≤ 0x0D)) || (decide (0x1C ≤ n) && decide (n ≤ 0x20))
    || n == 0x85 || n == 0xA0 || n == 0x1680 || (decide (0x2000 ≤ n) && decide (n ≤ 0x200A))
    || n == 0x2028 || n == 0x2029 || n == 0x202F || n == 0x205F || n == 0x3000

def isLineEnd (c : Char) : Bool :=
  let n := c.toNat
  (decide (0x0A ≤ n) && decide (n ≤ 0x0D)) || (decide (0x1C ≤ n) && decide (n ≤ 0x1E))
    || n == 0x85 || n == 0x2028 || n == 0x2029

/-- Every line end is blank, so stripping a text never leaves an empty first line. -/
theorem isBlank_of_isLineEnd {c : Char} (h : isLineEnd c = true) : isBlank c = true := by
  simp only [isLineEnd, isBlank, Bool.or_eq_true, Bool.and_eq_true, decide_eq_true_eq,
    beq_iff_eq] at h ⊢
  omega

def stripStart (text : List Char) : List Char :=
  text.dropWhile isBlank

def stripEnd (text : List Char) : List Char :=
  (text.reverse.dropWhile isBlank).reverse

/-- A text without the blanks around it. -/
def strip (text : List Char) : List Char :=
  stripEnd (stripStart text)

/-- A text that holds nothing but blanks, the empty text included. -/
def allBlank (text : String) : Bool :=
  text.toList.all isBlank

/-- A text up to its first line end. -/
def firstLine (text : List Char) : List Char :=
  text.takeWhile fun c => !isLineEnd c

/-- Cuts a text at every occurrence of a character; there is always at least one piece. -/
def cutAt (mark : Char) : List Char → List (List Char)
  | [] => [[]]
  | c :: rest =>
    if c = mark then [] :: cutAt mark rest
    else
      match cutAt mark rest with
      | [] => [[c]]
      | piece :: pieces => (c :: piece) :: pieces

section

variable {mark : Char} {text : List Char}

theorem cutAt_mark (text : List Char) : cutAt mark (mark :: text) = [] :: cutAt mark text := by
  rw [cutAt, if_pos rfl]

theorem exists_cutAt (mark : Char) (text : List Char) :
    ∃ piece pieces, cutAt mark text = piece :: pieces := by
  cases text with
  | nil => exact ⟨[], [], rfl⟩
  | cons c rest =>
    unfold cutAt
    split
    · exact ⟨[], _, rfl⟩
    · split
      · exact ⟨[c], [], rfl⟩
      · exact ⟨_, _, rfl⟩

theorem cutAt_cons {c : Char} {piece : List Char} {pieces : List (List Char)} (hc : c ≠ mark)
    (h : cutAt mark text = piece :: pieces) : cutAt mark (c :: text) = (c :: piece) :: pieces := by
  rw [cutAt, if_neg hc, h]

theorem cutAt_append (before behind : List Char) :
    cutAt mark (before ++ mark :: behind) = cutAt mark before ++ cutAt mark behind := by
  induction before with
  | nil => exact cutAt_mark behind
  | cons c rest ih =>
    by_cases hc : c = mark
    · subst hc
      rw [List.cons_append, cutAt_mark, cutAt_mark, ih, List.cons_append]
    · obtain ⟨piece, pieces, hrest⟩ := exists_cutAt mark rest
      rw [hrest, List.cons_append] at ih
      rw [List.cons_append, cutAt_cons hc ih, cutAt_cons hc hrest, List.cons_append]

theorem cutAt_of_notMem (h : mark ∉ text) : cutAt mark text = [text] := by
  induction text with
  | nil => rfl
  | cons c rest ih =>
    rw [List.mem_cons, not_or] at h
    obtain ⟨hc, hrest⟩ := h
    exact cutAt_cons (Ne.symm hc) (ih hrest)

theorem length_cutAt (mark : Char) (text : List Char) :
    (cutAt mark text).length = text.count mark + 1 := by
  induction text with
  | nil => rfl
  | cons c rest ih =>
    by_cases hc : c = mark
    · subst hc
      rw [cutAt_mark, List.length_cons, ih, List.count_cons_self]
    · obtain ⟨piece, pieces, hrest⟩ := exists_cutAt mark rest
      rw [hrest] at ih
      rw [cutAt_cons hc hrest, List.count_cons_of_ne hc, ← ih]
      rfl

end

end Text
end FormulaTex
