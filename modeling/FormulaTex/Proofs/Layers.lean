import FormulaTex.Proofs.Reading
import Mathlib.Tactic.SplitIfs

/-!
# Layers of a text

The layer of a piece is the number of brackets around it. A bracket is on the layer that it opens
out of or closes into. Which pieces are brackets is up to the reader: whoever looks for the end of
an optional argument counts braces alone, and whoever looks for the cells of a table counts
environments as well. Fences are not counted by either.

Layers may be negative, so that the layers of a text differ from those of the same text further in
by a number alone.
-/

namespace FormulaTex
namespace Latex

def Piece.spelled : Piece → List Char
  | .char c => [c]
  | .pair c => ['\\', c]
  | .lone => ['\\']

def spelled (text : List Piece) : List Char :=
  text.flatMap Piece.spelled

theorem spelled_pieces (text : List Char) : spelled (pieces text) = text := by
  induction text using pieces.induct with
  | case1 => rfl
  | case2 c => by_cases hc : c = '\\' <;> simp [pieces, hc, spelled, Piece.spelled]
  | case3 d rest ih => simpa [pieces_pair, spelled, Piece.spelled] using ih
  | case4 c d rest hc ih => simpa [pieces_char hc, spelled, Piece.spelled] using ih

/-- Tells which pieces are brackets, by the text after them. -/
abbrev Reader := Piece → List Piece → Option Bracket

def braceReader : Reader :=
  fun p _ => p.brace?

def frameReader : Reader
  | .pair c, rest => (controlBracket? c rest).filter fun b =>
    b != .opening .fence && b != .closing .fence
  | p, _ => p.brace?

/-- How many more brackets there are around what comes after a bracket than around what comes
before it. -/
def Bracket.rise : Bracket → Int
  | opening _ => 1
  | closing _ => -1

/-- Each piece of a text with its layer, where the text begins on layer `n`. -/
def layers (reader : Reader) (n : Int) : List Piece → List (Int × Piece)
  | [] => []
  | p :: rest =>
    match reader p rest with
    | some (.opening _) => (n, p) :: layers reader (n + 1) rest
    | some (.closing _) => (n - 1, p) :: layers reader (n - 1) rest
    | none => (n, p) :: layers reader n rest

@[simp] theorem layers_nil (reader : Reader) (n : Int) : layers reader n [] = [] := rfl

theorem map_snd_layers (reader : Reader) (n : Int) (text : List Piece) :
    (layers reader n text).map Prod.snd = text := by
  induction text generalizing n with
  | nil => rfl
  | cons p rest ih =>
    rw [layers]
    split <;> simp [ih]

theorem mem_of_mem_layers {reader : Reader} {n m : Int} {p : Piece} {text : List Piece}
    (h : (m, p) ∈ layers reader n text) : p ∈ text := by
  rw [← map_snd_layers reader n text]
  exact List.mem_map_of_mem h

theorem layers_add (reader : Reader) (k n : Int) (text : List Piece) :
    layers reader (k + n) text = (layers reader n text).map fun x => (k + x.1, x.2) := by
  induction text generalizing n with
  | nil => rfl
  | cons p rest ih =>
    rw [layers, layers]
    split
    · simp [← ih, Int.add_assoc]
    · simp [← ih, Int.add_sub_assoc]
    · simp [← ih]

theorem layers_eq (reader : Reader) (n : Int) (text : List Piece) :
    layers reader n text = (layers reader 0 text).map fun x => (n + x.1, x.2) := by
  rw [← layers_add, Int.add_zero]

theorem mem_layers_iff {reader : Reader} {n : Int} {x : Int × Piece} {text : List Piece} :
    x ∈ layers reader n text ↔ (x.1 - n, x.2) ∈ layers reader 0 text := by
  rw [layers_eq, List.mem_map]
  constructor
  · rintro ⟨y, hy, rfl⟩
    have hlayer : n + y.1 - n = y.1 := by omega
    simpa [hlayer] using hy
  · intro hx
    have hlayer : n + (x.1 - n) = x.1 := by omega
    exact ⟨_, hx, by simp [hlayer]⟩

/-- A text after which the layer is the same as before it, wherever no letter comes next. It is on
no layer below, and on its own layer has none of the `marks`. -/
structure Level (reader : Reader) (marks text : List Piece) : Prop where
  append_eq : ∀ rest, letters rest = [] →
    layers reader 0 (text ++ rest) = layers reader 0 text ++ layers reader 0 rest
  le : ∀ x ∈ layers reader 0 text, 0 ≤ x.1
  free : ∀ p ∈ marks, (0, p) ∉ layers reader 0 text

/-- A text that ends any control word before it and leads from layer `i` to layer `j`, whatever
comes next. It is on no layer below zero, and has none of the `marks` there. -/
structure Leads (reader : Reader) (marks : List Piece) (i j : Int) (text : List Piece) : Prop where
  apart : ∀ rest, letters (text ++ rest) = []
  append_eq : ∀ rest, layers reader i (text ++ rest) = layers reader i text ++ layers reader j rest
  le : ∀ x ∈ layers reader i text, 0 ≤ x.1
  free : ∀ p ∈ marks, (0, p) ∉ layers reader i text

variable {reader : Reader} {marks inner a b s t rest : List Piece}

theorem Leads.mono {i j : Int} (h : Leads reader inner i j s) (hmarks : marks ⊆ inner) :
    Leads reader marks i j s :=
  ⟨h.apart, h.append_eq, h.le, fun p hp => h.free p (hmarks hp)⟩

namespace Level

theorem nil : Level reader marks [] :=
  ⟨fun _ _ => rfl, nofun, nofun⟩

theorem mono (h : Level reader inner a) (hmarks : marks ⊆ inner) : Level reader marks a :=
  ⟨h.append_eq, h.le, fun p hp => h.free p (hmarks hp)⟩

theorem append (h : Level reader marks a) (hrest : letters rest = []) (n : Int) :
    layers reader n (a ++ rest) = layers reader n a ++ layers reader n rest := by
  rw [layers_eq, h.append_eq rest hrest, List.map_append, ← layers_eq, ← layers_eq]

/-- What stands between two texts lets each of them be read by itself. -/
theorem joint (ha : Level reader marks a) (hs : Leads reader marks 0 0 s)
    (hb : Level reader marks b) : Level reader marks (a ++ (s ++ b)) := by
  have hlayers : layers reader 0 (a ++ (s ++ b)) =
      layers reader 0 a ++ (layers reader 0 s ++ layers reader 0 b) := by
    rw [ha.append_eq _ (hs.apart b), hs.append_eq]
  refine ⟨fun rest hrest => ?_, ?_, fun p hp => ?_⟩
  · calc layers reader 0 (a ++ (s ++ b) ++ rest)
        = layers reader 0 (a ++ (s ++ (b ++ rest))) := by simp only [List.append_assoc]
      _ = layers reader 0 a ++
            (layers reader 0 s ++ (layers reader 0 b ++ layers reader 0 rest)) := by
        rw [ha.append_eq _ (hs.apart _), hs.append_eq, hb.append_eq rest hrest]
      _ = layers reader 0 (a ++ (s ++ b)) ++ layers reader 0 rest := by
        simp only [hlayers, List.append_assoc]
  · rw [hlayers]
    simp only [List.forall_mem_append]
    exact ⟨ha.le, hs.le, hb.le⟩
  · rw [hlayers, List.mem_append, List.mem_append, not_or, not_or]
    exact ⟨ha.free p hp, hs.free p hp, hb.free p hp⟩

end Level

/-- Two texts around a third, which is further in or has none of the marks either. -/
theorem Leads.enclosed {k : Int} (hk : 0 ≤ k) (hs : Leads reader marks 0 k s)
    (ha : Level reader inner a) (hfree : 0 < k ∨ marks ⊆ inner)
    (ht : Leads reader marks k 0 t) : Leads reader marks 0 0 (s ++ (a ++ t)) := by
  have hlayers : ∀ rest, layers reader 0 (s ++ (a ++ t) ++ rest) =
      layers reader 0 s ++ (layers reader k a ++ (layers reader k t ++ layers reader 0 rest)) := by
    intro rest
    rw [List.append_assoc, List.append_assoc, hs.append_eq, ha.append (ht.apart rest),
      ht.append_eq]
  have hself := hlayers []
  rw [List.append_nil, layers_nil, List.append_nil] at hself
  refine ⟨fun rest => ?_, fun rest => ?_, ?_, fun p hp => ?_⟩
  · rw [List.append_assoc]
    exact hs.apart _
  · rw [hlayers, hself]
    simp only [List.append_assoc]
  · rw [hself]
    simp only [List.forall_mem_append]
    refine ⟨hs.le, fun x hx => ?_, ht.le⟩
    have := ha.le _ (mem_layers_iff.mp hx)
    dsimp only at this
    omega
  · rw [hself, List.mem_append, List.mem_append, not_or, not_or]
    refine ⟨hs.free p hp, fun hx => ?_, ht.free p hp⟩
    have hx := mem_layers_iff.mp hx
    have hle := ha.le _ hx
    dsimp only at hle hx
    obtain hk' | hmarks := hfree
    · omega
    · have hzero : k = 0 := by omega
      subst hzero
      exact ha.free p (hmarks hp) hx

def rise : List Bracket → Int
  | [] => 0
  | b :: rest => b.rise + rise rest

theorem rise_of_close {unclosed left : List Kind} {word : List Bracket}
    (h : close unclosed word = some left) : rise word = left.length - unclosed.length := by
  induction unclosed, word using close.induct with
  | case1 unclosed =>
    cases h
    simp [rise]
  | case2 unclosed kind rest ih =>
    have := ih h
    simp only [rise, Bracket.rise, List.length_cons] at this ⊢
    omega
  | case3 kind rest => cases h
  | case4 unclosed kind rest ih =>
    rw [close, if_pos rfl] at h
    have := ih h
    simp only [rise, Bracket.rise, List.length_cons] at this ⊢
    omega
  | case5 last unclosed kind rest hkind => simp [close, hkind] at h

theorem layers_append_of_braces
    (h : ∀ before p after, a = before ++ p :: after → reader p (after ++ rest) = p.brace?)
    (n : Int) : layers reader n (a ++ rest) =
      layers braceReader n a ++ layers reader (n + rise (braces a)) rest := by
  induction a generalizing n with
  | nil => simp [rise, braces]
  | cons p a ih =>
    have hp : reader p (a ++ rest) = p.brace? := h [] p a rfl
    have ih := ih fun before q after ha => h (p :: before) q after (by rw [ha]; rfl)
    rw [List.cons_append, layers, layers, hp, braceReader, braces_cons]
    cases p.brace? with
    | none => simp [ih]
    | some b =>
      cases b <;> simp [ih, rise, Bracket.rise, Int.add_assoc, Int.sub_eq_add_neg]

theorem layers_brace_append (a b : List Piece) (n : Int) :
    layers braceReader n (a ++ b) =
      layers braceReader n a ++ layers braceReader (n + rise (braces a)) b :=
  layers_append_of_braces (fun _ _ _ _ => rfl) n

theorem le_of_close {unclosed left : List Kind} (h : close unclosed (braces a) = some left) :
    ∀ x ∈ layers braceReader unclosed.length a, 0 ≤ x.1 := by
  induction a generalizing unclosed with
  | nil => nofun
  | cons p a ih =>
    rw [braces_cons] at h
    rw [layers, braceReader]
    cases hp : p.brace? with
    | none =>
      rw [hp] at h
      exact List.forall_mem_cons.mpr ⟨Int.natCast_nonneg _, ih h⟩
    | some b =>
      rw [hp] at h
      cases b with
      | opening kind => exact List.forall_mem_cons.mpr ⟨Int.natCast_nonneg _, ih h⟩
      | closing kind =>
        cases unclosed with
        | nil => cases h
        | cons last unclosed =>
          have hrest : close unclosed (braces a) = some left := by
            simp only [Option.toList_some, List.singleton_append, close] at h
            split at h
            · exact h
            · cases h
          have hlayer : ((last :: unclosed).length : Int) - 1 = unclosed.length := by
            simp
          simp only [hlayer]
          exact List.forall_mem_cons.mpr ⟨Int.natCast_nonneg _, ih hrest⟩

theorem rise_eq_zero {word : List Bracket} (h : Nested word) : rise word = 0 := by
  simpa using rise_of_close h

def Frameless (text : List Piece) : Prop :=
  ∀ name ∈ controls text, name ≠ "begin".toList ∧ name ≠ "end".toList

instance (text : List Piece) : Decidable (Frameless text) :=
  inferInstanceAs (Decidable (∀ _ ∈ _, _))

theorem frameReader_of_frameless {c : Char}
    (h : controlName c rest ≠ "begin".toList ∧ controlName c rest ≠ "end".toList) :
    frameReader (.pair c) rest = none := by
  simp only [frameReader, controlBracket?, h.1, h.2, if_false]
  split_ifs <;> rfl

theorem controlName_mem_controls (before : List Piece) (c : Char) (after : List Piece) :
    controlName c after ∈ controls (before ++ .pair c :: after) := by
  induction before with
  | nil => exact List.mem_cons_self
  | cons p before ih => cases p <;> simp [controls, ih]

/-- A text that nests and frames nothing is on the layers that its braces make. -/
theorem layers_of_frameless (h : Frameless a) (hnested : Nested (braces a))
    (hrest : letters rest = []) :
    layers frameReader 0 (a ++ rest) = layers braceReader 0 a ++ layers frameReader 0 rest := by
  rw [layers_append_of_braces, rise_eq_zero hnested, Int.add_zero]
  rintro before p after rfl
  cases p with
  | pair c =>
    refine frameReader_of_frameless ?_
    rw [controlName_append hrest]
    exact h _ (controlName_mem_controls before c after)
  | _ => rfl

theorem Level.of_frameless (h : Frameless a) (hnested : Nested (braces a))
    (hmarks : ∀ p ∈ marks, p ∉ a) : Level frameReader marks a := by
  have hself : layers frameReader 0 a = layers braceReader 0 a := by
    have hlayers := layers_of_frameless h hnested (show letters [] = [] from rfl)
    simpa using hlayers
  refine ⟨fun rest hrest => ?_, ?_, fun p hp hmem => hmarks p hp (mem_of_mem_layers hmem)⟩
  · rw [layers_of_frameless h hnested hrest, hself]
  · rw [hself]
    exact le_of_close hnested

theorem braces_map_char {text : List Char} (h : '\x7b' ∉ text ∧ '\x7d' ∉ text) :
    braces (text.map .char) = [] := by
  rw [braces, List.filterMap_map, List.filterMap_eq_nil_iff]
  intro c hc
  have hopen : c ≠ '\x7b' := ne_of_mem_of_not_mem hc h.1
  have hclose : c ≠ '\x7d' := ne_of_mem_of_not_mem hc h.2
  simp [Piece.brace?, hopen, hclose]

/-- A text without letters, backslashes and braces. -/
theorem Leads.of_plain {text : List Char} (hne : text ≠ [])
    (h : ∀ c ∈ text, c ≠ '\\' ∧ Accent.isLetter c = false)
    (hbraces : '\x7b' ∉ text ∧ '\x7d' ∉ text) (hmarks : ∀ p ∈ marks, p ∉ pieces text) :
    Leads frameReader marks 0 0 (pieces text) := by
  have hpieces : pieces text = text.map .char := pieces_of_plain fun hc => (h _ hc).1 rfl
  have hnone : braces (pieces text) = [] := by rw [hpieces, braces_map_char hbraces]
  have hlayers : ∀ rest, layers frameReader 0 (pieces text ++ rest) =
      layers braceReader 0 (pieces text) ++ layers frameReader 0 rest := by
    intro rest
    rw [layers_append_of_braces, hnone]
    · rfl
    · intro before p after htext
      have hp : p ∈ text.map .char := by
        rw [← hpieces, htext]
        exact List.mem_append_right _ List.mem_cons_self
      obtain ⟨c, -, rfl⟩ := List.mem_map.mp hp
      rfl
  have hself := hlayers []
  simp only [List.append_nil, layers_nil] at hself
  refine ⟨(Parts.of_plain hne h).apart, fun rest => ?_, ?_, fun p hp hmem =>
    hmarks p hp (mem_of_mem_layers hmem)⟩
  · rw [hlayers, hself]
  · rw [hself]
    have hclose : close [] (braces (pieces text)) = some [] := by
      rw [hnone]
      rfl
    exact le_of_close hclose

theorem controls_append (hrest : letters rest = []) (a : List Piece) :
    controls (a ++ rest) = controls a ++ controls rest := by
  induction a with
  | nil => rfl
  | cons p a ih => cases p <;> simp [controls, ih, controlName_append hrest]

theorem Level.joint_pieces {a s b : List Char} (hpaira : Paired a) (hpairs : Paired s)
    (ha : Level reader marks (pieces a)) (hs : Leads reader marks 0 0 (pieces s))
    (hb : Level reader marks (pieces b)) : Level reader marks (pieces (a ++ (s ++ b))) := by
  rw [pieces_append hpaira, pieces_append hpairs]
  exact ha.joint hs hb

theorem Leads.enclosed_pieces {k : Int} {s a t : List Char} (hk : 0 ≤ k) (hpairs : Paired s)
    (hpaira : Paired a) (hs : Leads reader marks 0 k (pieces s))
    (ha : Level reader inner (pieces a)) (hfree : 0 < k ∨ marks ⊆ inner)
    (ht : Leads reader marks k 0 (pieces t)) :
    Leads reader marks 0 0 (pieces (s ++ (a ++ t))) := by
  rw [pieces_append hpairs, pieces_append hpaira]
  exact hs.enclosed hk ha hfree ht

theorem layers_intercalate {separator : List Char} {texts : List (List Char)}
    (hpair : Paired separator) (hseparator : Leads reader marks 0 0 (pieces separator))
    (htexts : ∀ text ∈ texts, Paired text ∧ Level reader inner (pieces text)) :
    layers reader 0 (pieces (separator.intercalate texts)) =
      (layers reader 0 (pieces separator)).intercalate
        (texts.map fun text => layers reader 0 (pieces text)) := by
  induction texts with
  | nil => rfl
  | cons text texts ih =>
    obtain ⟨htext, hrest⟩ := List.forall_mem_cons.mp htexts
    cases texts with
    | nil => simp
    | cons next texts =>
      rw [List.intercalate_cons_cons, List.append_assoc, pieces_append htext.1,
        pieces_append hpair, htext.2.append_eq _ (hseparator.apart _), hseparator.append_eq,
        ih hrest]
      simp only [List.map_cons, List.intercalate_cons_cons, List.append_assoc]

end Latex
end FormulaTex
