import FormulaTex.Proofs.Children
import FormulaTex.Proofs.Layers
import FormulaTex.Proofs.Scripts
import Mathlib.Data.List.Forall2

/-!
# Cells of a matrix

The rows of a matrix are told apart by double backslashes and the cells of a row by ampersands. A
cell may have both inside its own braces and environments, where they do not count. A reader that
cuts the text of a matrix at the marks outside of all brackets gets the cells back, whatever they
are made of, as long as the texts that the renderer takes from elsewhere have no such marks.
-/

namespace FormulaTex

namespace Latex

def cutMarks : List Piece := [.pair '\\', .char '&']

def trimStart : List (Int × Piece) → List (Int × Piece)
  | [] => []
  | x :: text => if x.2 = .char ' ' then text else x :: text

def trimEnd (text : List (Int × Piece)) : List (Int × Piece) :=
  (trimStart text.reverse).reverse

/-- Takes away a blank on each side of the cuts between some parts. -/
def unpad : List (List (Int × Piece)) → List (List (Int × Piece))
  | part :: next :: parts => trimEnd part :: (unpad (next :: parts)).modifyHead trimStart
  | parts => parts

/-- Cuts a text at a mark, wherever it is outside of all brackets. -/
def cut (mark : Piece) (text : List (Int × Piece)) : List (List (Int × Piece)) :=
  unpad (text.splitOn (0, mark))

def beginMark : List Piece :=
  pieces "\\begin\x7bmatrix\x7d ".toList

/-- What stands in the first matrix of a text, up to the end of that matrix. -/
def matrixBody (text : List Piece) : List (Int × Piece) :=
  match text.dropInfix? beginMark with
  | some (_, rest) => trimEnd ((layers frameReader 0 rest).takeWhile (0 ≤ ·.1))
  | none => []

/-- The rows of the first matrix of a text, as the texts of their cells. -/
def readTable (latex : String) : List (List String) :=
  (cut (.pair '\\') (matrixBody (pieces latex.toList))).map fun row =>
    (cut (.char '&') row).map fun cell => String.ofList (spelled (cell.map Prod.snd))

theorem trimEnd_concat (text : List (Int × Piece)) (n : Int) :
    trimEnd (text ++ [(n, .char ' ')]) = text := by
  simp [trimEnd, trimStart]

theorem trimStart_trimEnd (n : Int) (text : List (Int × Piece)) :
    trimStart (trimEnd ((n, .char ' ') :: text)) = trimEnd text := by
  rw [trimEnd, trimEnd, List.reverse_cons]
  cases text.reverse with
  | nil => rfl
  | cons x rest =>
    rw [List.cons_append, trimStart, trimStart]
    split_ifs <;> simp [trimStart]

theorem unpad_blank (n : Int) (part : List (Int × Piece)) (parts : List (List (Int × Piece))) :
    (unpad (((n, .char ' ') :: part) :: parts)).modifyHead trimStart = unpad (part :: parts) := by
  cases parts with
  | nil => rfl
  | cons next parts => simp [unpad, trimStart_trimEnd]

def spaced (mark : Piece) : List (Int × Piece) :=
  [(0, .char ' '), (0, mark), (0, .char ' ')]

theorem splitOn_spaced {mark : Piece} (hmark : mark ≠ .char ' ') {part : List (Int × Piece)}
    (hpart : (0, mark) ∉ part) (rest : List (Int × Piece)) :
    (part ++ spaced mark ++ rest).splitOn (0, mark) =
      (part ++ [(0, .char ' ')]) :: (rest.splitOn (0, mark)).modifyHead ((0, .char ' ') :: ·) := by
  have hpadded : (0, mark) ∉ part ++ [(0, .char ' ')] := by simp [hpart, hmark]
  have hcut := List.splitOn_append_cons_self_of_not_mem hpadded ((0, .char ' ') :: rest)
  simpa [spaced, List.splitOn_cons_eq_if_modifyHead, Ne.symm hmark] using hcut

/-- Parts with a spaced mark between them are got back. -/
theorem cut_intercalate {mark : Piece} (hmark : mark ≠ .char ' ')
    {parts : List (List (Int × Piece))} (hne : parts ≠ [])
    (hfree : ∀ part ∈ parts, (0, mark) ∉ part) :
    cut mark ((spaced mark).intercalate parts) = parts := by
  induction parts with
  | nil => exact absurd rfl hne
  | cons part parts ih =>
    obtain ⟨hpart, hrest⟩ := List.forall_mem_cons.mp hfree
    cases parts with
    | nil =>
      rw [List.intercalate_singleton, cut, List.splitOn_eq_singleton hpart]
      rfl
    | cons next parts =>
      have hcut := ih (by simp) hrest
      rw [cut] at hcut ⊢
      rw [List.intercalate_cons_cons, splitOn_spaced hmark hpart]
      obtain ⟨first, more, hsplit⟩ := List.exists_cons_of_ne_nil
        (List.splitOn_ne_nil (0, mark) ((spaced mark).intercalate (next :: parts)))
      rw [hsplit] at hcut ⊢
      rw [List.modifyHead_cons, unpad, trimEnd_concat, unpad_blank, hcut]

theorem beginMark_eq :
    beginMark = .pair 'b' :: "egin\x7bmatrix\x7d ".toList.map .char := rfl

/-- The first matrix is found where nothing before it frames anything. -/
theorem dropInfix?_beginMark {before : List Piece} (h : Frameless before) (rest : List Piece) :
    (before ++ (beginMark ++ rest)).dropInfix? beginMark = some (before, rest) := by
  rw [List.dropInfix?_eq_some_iff]
  refine ⟨⟨_, by rw [List.append_assoc], by simp⟩, fun earlier mark after htext hmark => ?_⟩
  rw [eq_of_beq hmark, List.append_assoc] at htext
  obtain ⟨between, rfl, -⟩ | ⟨between, rfl, hrest⟩ := List.append_eq_append_iff.mp htext
  · simp
  · cases between with
    | nil => simp
    | cons p between =>
      -- Otherwise the text before would have a control word that begins an environment.
      rw [beginMark_eq, List.cons_append, List.cons_append, List.cons.injEq] at hrest
      obtain ⟨rfl, hrest⟩ := hrest
      have hname : controlName 'b' between = "begin".toList := by
        have hcut : letters (beginMark ++ rest) = [] := rfl
        rw [← controlName_append hcut, beginMark_eq, ← hrest]
        rfl
      exact absurd hname (h _ (controlName_mem_controls earlier 'b' between)).1

theorem matrixBody_eq {marks before body : List Piece} (hbefore : Frameless before)
    (hbody : Level frameReader marks body) (after : List Piece) :
    matrixBody (before ++ (beginMark ++
      (body ++ (pieces " \\end\x7bmatrix\x7d".toList ++ after)))) = layers frameReader 0 body := by
  obtain ⟨rest, hend⟩ : ∃ rest, layers frameReader 0
      (pieces " \\end\x7bmatrix\x7d".toList ++ after) =
        (0, .char ' ') :: (-1, .pair 'e') :: rest := ⟨_, rfl⟩
  have hinside : ∀ x ∈ layers frameReader 0 body, decide (0 ≤ x.1) = true := by
    simpa using hbody.le
  simp only [matrixBody, dropInfix?_beginMark hbefore]
  rw [hbody.append_eq _ rfl, hend, List.takeWhile_append_of_pos hinside]
  exact trimEnd_concat _ 0

theorem mem_intercalate {α : Type} {x : α} {separator : List α} {parts : List (List α)}
    (h : x ∈ separator.intercalate parts) : x ∈ separator ∨ ∃ part ∈ parts, x ∈ part := by
  induction parts with
  | nil => cases h
  | cons part parts ih =>
    cases parts with
    | nil => exact .inr ⟨part, List.mem_cons_self, by simpa using h⟩
    | cons next parts =>
      rw [List.intercalate_cons_cons, List.mem_append, List.mem_append] at h
      obtain (hpart | hseparator) | hrest := h
      · exact .inr ⟨part, List.mem_cons_self, hpart⟩
      · exact .inl hseparator
      · obtain hseparator | ⟨other, hother, hx⟩ := ih hrest
        · exact .inl hseparator
        · exact .inr ⟨other, List.mem_cons_of_mem _ hother, hx⟩

/-- A text that nests and has neither marks of cells nor control words of environments. -/
structure Unmarked (text : List Char) : Prop where
  selfContained : SelfContained text
  marks : ∀ p ∈ cutMarks, p ∉ pieces text
  frameless : Frameless (pieces text)

/-- A separator that cannot be taken for anything else. -/
structure Separates (text : List Char) : Prop where
  ne_nil : text ≠ []
  plain : ∀ c ∈ text, c ≠ '\\' ∧ Accent.isLetter c = false
  unmarked : '\x7b' ∉ text ∧ '\x7d' ∉ text ∧ '&' ∉ text

variable {text : List Char}

instance : Decidable (Unmarked text) :=
  decidable_of_iff
    (SelfContained text ∧ (∀ p ∈ cutMarks, p ∉ pieces text) ∧ Frameless (pieces text))
    ⟨fun ⟨h, h', h''⟩ => ⟨h, h', h''⟩, fun ⟨h, h', h''⟩ => ⟨h, h', h''⟩⟩

theorem Unmarked.level (h : Unmarked text) : Level frameReader cutMarks (pieces text) :=
  .of_frameless h.frameless h.selfContained.2 h.marks

theorem unmarked_escape (h : '\\' ∉ text) : Unmarked (escape text) := by
  refine ⟨selfContained_escape h, ?_, fun name hname => ?_⟩
  · rw [pieces_escape h]
    simp only [cutMarks, List.forall_mem_cons, List.mem_map, not_exists, not_and]
    refine ⟨fun c hc hpair => ?_, fun c hc hchar => ?_, nofun⟩
    · unfold escapedPiece at hpair
      split at hpair
      · cases hpair
        exact h hc
      · cases hpair
    · unfold escapedPiece at hchar
      split at hchar
      · cases hchar
      · rename_i hs
        cases hchar
        exact hs rfl
  · have hwords := controls_escape h name hname
    simp only [bracketWords, List.mem_cons, List.not_mem_nil, or_false, not_or] at hwords
    exact hwords.2.2

theorem Separates.pieces_eq (h : Separates text) : pieces text = text.map .char :=
  pieces_of_plain fun hc => (h.plain _ hc).1 rfl

theorem Separates.selfContained (h : Separates text) : SelfContained text := by
  rw [SelfContained, Paired, h.pieces_eq, braces_map_char ⟨h.unmarked.1, h.unmarked.2.1⟩]
  exact ⟨by simp, .nil⟩

theorem Separates.leads (h : Separates text) : Leads frameReader cutMarks 0 0 (pieces text) := by
  refine .of_plain h.ne_nil h.plain ⟨h.unmarked.1, h.unmarked.2.1⟩ ?_
  rw [h.pieces_eq]
  simp only [cutMarks, List.forall_mem_cons, List.mem_map, not_exists, not_and]
  refine ⟨nofun, fun c hc hchar => ?_, nofun⟩
  cases hchar
  exact h.unmarked.2.2 hc

end Latex

open Latex

namespace Steps

/-- Fragments and separators have no marks of cells, and no text of the tree has a backslash. -/
structure Unmarked (r : Renderer) (steps : List Step) : Prop where
  fragments : ∀ f ∈ steps.filterMap (Step.fragment? r), Latex.Unmarked f.toList
  separators : ∀ f ∈ steps.filterMap (Step.separator? r), Separates f.toList
  contents : ∀ t ∈ steps.filterMap Step.content?, '\\' ∉ t.toList

variable {r : Renderer} {a b : List Step}

theorem unmarked_append : Unmarked r (a ++ b) ↔ Unmarked r a ∧ Unmarked r b := by
  constructor
  · rintro ⟨hf, hs, ht⟩
    simp only [List.filterMap_append, List.forall_mem_append] at hf hs ht
    exact ⟨⟨hf.1, hs.1, ht.1⟩, ⟨hf.2, hs.2, ht.2⟩⟩
  · rintro ⟨ha, hb⟩
    constructor <;> simp only [List.filterMap_append, List.forall_mem_append]
    · exact ⟨ha.fragments, hb.fragments⟩
    · exact ⟨ha.separators, hb.separators⟩
    · exact ⟨ha.contents, hb.contents⟩

theorem Unmarked.of_part (h : Unmarked r b) (hpart : a <:+: b) : Unmarked r a where
  fragments f hf := h.fragments f ((hpart.filterMap _).subset hf)
  separators f hf := h.separators f ((hpart.filterMap _).subset hf)
  contents t ht := h.contents t ((hpart.filterMap _).subset ht)

theorem Unmarked.contained (h : Unmarked r a) : Contained r a where
  fragments f hf := (h.fragments f hf).selfContained
  separators f hf := (h.separators f hf).selfContained
  contents := h.contents

end Steps

open Steps

variable {r : Renderer} {table : Bool} {steps : List Step}

/-- The marks of cells that do not stand among some steps outside of all brackets. -/
def marksOutside (table : Bool) : List Piece :=
  if table then [] else cutMarks

def Enclosure.rise : Enclosure → Int
  | fence => 0
  | _ => 1

theorem Enclosure.leads_opener (e : Enclosure) :
    Leads frameReader cutMarks 0 e.rise (pieces e.opener.toList) := by
  cases e <;> exact ⟨fun _ => rfl, fun _ => rfl, by decide, by decide⟩

theorem Enclosure.leads_closer (e : Enclosure) :
    Leads frameReader cutMarks e.rise 0 (pieces e.closer.toList) := by
  cases e <;> exact ⟨fun _ => rfl, fun _ => rfl, by decide, by decide⟩

theorem leads_joint {mark : String} (h : mark ∈ joints)
    (htable : mark ∈ cellMarks → table = true) :
    Leads frameReader (marksOutside table) 0 0 (pieces mark.toList) := by
  simp only [joints, List.mem_cons, List.not_mem_nil, or_false] at h
  rcases h with rfl | rfl | rfl | rfl | rfl | rfl | rfl <;>
    refine ⟨fun _ => rfl, fun _ => rfl, by decide, ?_⟩ <;>
    cases table <;> first | decide | cases htable (by simp [cellMarks])

theorem marksOutside_subset (table : Bool) : marksOutside table ⊆ cutMarks := by
  cases table
  · exact List.Subset.refl _
  · exact List.nil_subset _

/-- The body of an enclosure is further in, or it has no marks of cells outside either. -/
theorem Enclosure.leads (e : Enclosure) {body : List Char} (hpair : Paired body)
    (hbody : Level frameReader (marksOutside e.isTable) (pieces body)) :
    Leads frameReader (marksOutside table) 0 0
      (pieces (e.opener.toList ++ (body ++ e.closer.toList))) := by
  have hrise : 0 ≤ e.rise := by cases e <;> decide
  have hfree : 0 < e.rise ∨ marksOutside table ⊆ marksOutside e.isTable := by
    cases e with
    | fence => exact .inr (marksOutside_subset table)
    | _ => exact .inl (by decide)
  exact .enclosed_pieces hrise e.paired_opener hpair
    (e.leads_opener.mono (marksOutside_subset table)) hbody hfree
    (e.leads_closer.mono (marksOutside_subset table))

/-- Outside of all brackets, the only marks of cells are those that the walk itself puts there. -/
theorem Arranged.level (hlegacy : r.settings.legacyAccents = false) (h : Arranged table steps)
    (hu : Unmarked r steps) :
    Level frameReader (marksOutside table) (pieces (written r steps)) := by
  -- As with brackets, a text before a mark may end in a control word, so its layers are only known
  -- before a text that begins with no letter.
  induction h with
  | nil => exact .nil
  | silent s hs _ ih =>
    rw [written_append, written_singleton, hs]
    exact ih (unmarked_append.mp hu).2
  | look tag =>
    rw [written_singleton]
    have hfragment := hu.fragments (r.table.resolve tag) (by simp [Step.fragment?])
    exact hfragment.level.mono (marksOutside_subset _)
  | raw fragment =>
    rw [written_singleton]
    have hfragment := hu.fragments fragment (by simp [Step.fragment?])
    exact hfragment.level.mono (marksOutside_subset _)
  | content text =>
    have htext : '\\' ∉ text.toList := hu.contents text (by simp [Step.content?])
    have hwritten : written r [.content text] = escape text.toList := by
      simp [Step.text, hlegacy]
    rw [hwritten]
    exact (unmarked_escape htext).level.mono (marksOutside_subset _)
  | joint hmark htable hbefore _ ihbefore ihafter =>
    simp only [unmarked_append] at hu
    have hpair := (hbefore.selfContained hlegacy hu.1.contained).1
    simp only [written_append, written_singleton]
    exact (ihbefore hu.1).joint_pieces hpair (selfContained_joint hmark).1
      (leads_joint hmark htable) (ihafter hu.2.2)
  | gap separator hbefore _ ihbefore ihafter =>
    simp only [unmarked_append] at hu
    have hpair := (hbefore.selfContained hlegacy hu.1.contained).1
    have hgap := hu.2.1.separators (separator.getD r.settings.separator) (by simp [Step.separator?])
    simp only [written_append, written_singleton]
    exact (ihbefore hu.1).joint_pieces hpair hgap.selfContained.1
      (hgap.leads.mono (marksOutside_subset _)) (ihafter hu.2.2)
  | enclosed e hbefore hbody _ ihbefore ihbody ihafter =>
    simp only [unmarked_append] at hu
    have hpair := (hbefore.selfContained hlegacy hu.1.contained).1
    have hnested := hbody.selfContained hlegacy hu.2.2.1.contained
    have hall := (ihbefore hu.1).joint_pieces hpair (e.selfContained hnested).1
      (e.leads hnested.1 (ihbody hu.2.2.1)) (ihafter hu.2.2.2.2)
    simp only [List.append_assoc] at hall
    simp only [written_append, written_singleton]
    exact hall

namespace Steps

variable (r)

theorem text_of_depth (depth : Nat) (v : Value) : text r (of depth v) = text r (of 0 v) :=
  String.toList_inj.mp (written_of_depth r depth v)

theorem written_joined (depth : Nat) (mark : String) (items : List Value) :
    written r (joined depth (.mark mark) items) =
      mark.toList.intercalate (items.map fun item => written r (of depth item)) := by
  induction items with
  | nil => rfl
  | cons item items ih =>
    cases items with
    | nil => simp [joined]
    | cons next items =>
      rw [joined_cons_cons, written_append, written_append, written_singleton, ih]
      simp [Step.text]

theorem written_joinedRows (depth : Nat) (rows : List (Row Value)) :
    written r (joinedRows depth rows) =
      " \\\\ ".toList.intercalate
        (rows.map fun row => written r (joined depth (.mark " & ") row.cells)) := by
  induction rows with
  | nil => rfl
  | cons row rows ih =>
    cases rows with
    | nil => simp [joinedRows]
    | cons next rows =>
      rw [joinedRows_cons_cons, written_append, written_append, written_singleton, ih]
      simp [Step.text]

variable {r} (hlegacy : r.settings.legacyAccents = false) (depth : Nat)
include hlegacy

/-- A cell has no mark of cells outside of all brackets, wherever it stands. -/
theorem level_of_unmarked {v : Value} (hu : Unmarked r (of depth v)) :
    Paired (written r (of depth v)) ∧
      Level frameReader cutMarks (pieces (written r (of depth v))) :=
  ⟨((Arranged.of depth v).selfContained hlegacy hu.contained).1,
    (Arranged.of depth v).level hlegacy hu⟩

theorem layers_joined {cells : List Value} (hu : Unmarked r (joined depth (.mark " & ") cells)) :
    layers frameReader 0 (pieces (written r (joined depth (.mark " & ") cells))) =
      (spaced (.char '&')).intercalate
        (cells.map fun cell => layers frameReader 0 (pieces (written r (of depth cell)))) := by
  have hmark : Leads frameReader (marksOutside true) 0 0 (pieces " & ".toList) :=
    leads_joint (by simp [joints]) fun _ => rfl
  have hcells : ∀ text ∈ cells.map fun cell => written r (of depth cell),
      Paired text ∧ Level frameReader cutMarks (pieces text) := by
    intro text htext
    obtain ⟨cell, hcell, rfl⟩ := List.mem_map.mp htext
    exact level_of_unmarked hlegacy depth (hu.of_part (infix_joined hcell))
  rw [written_joined, layers_intercalate (by decide) hmark hcells, List.map_map]
  rfl

theorem cut_joined {cells : List Value} (hne : cells ≠ [])
    (hu : Unmarked r (joined depth (.mark " & ") cells)) :
    cut (.char '&') (layers frameReader 0 (pieces (written r (joined depth (.mark " & ") cells)))) =
      cells.map fun cell => layers frameReader 0 (pieces (written r (of depth cell))) := by
  rw [layers_joined hlegacy depth hu, cut_intercalate (by decide) (by simpa using hne)]
  intro part hpart
  obtain ⟨cell, hcell, rfl⟩ := List.mem_map.mp hpart
  have hlevel := (level_of_unmarked hlegacy depth (hu.of_part (infix_joined hcell))).2
  exact hlevel.free (.char '&') (by simp [cutMarks])

/-- A row has no mark of rows outside of all brackets. -/
theorem not_mem_layers_joined {cells : List Value}
    (hu : Unmarked r (joined depth (.mark " & ") cells)) :
    (0, .pair '\\') ∉
      layers frameReader 0 (pieces (written r (joined depth (.mark " & ") cells))) := by
  rw [layers_joined hlegacy depth hu]
  intro hmem
  obtain hmark | ⟨part, hpart, hmem⟩ := mem_intercalate hmem
  · revert hmark
    decide
  · obtain ⟨cell, hcell, rfl⟩ := List.mem_map.mp hpart
    have hlevel := (level_of_unmarked hlegacy depth (hu.of_part (infix_joined hcell))).2
    exact hlevel.free (.pair '\\') (by simp [cutMarks]) hmem

theorem cut_joinedRows {rows : List (Row Value)} (hne : rows ≠ [])
    (hu : Unmarked r (joinedRows depth rows)) :
    cut (.pair '\\') (layers frameReader 0 (pieces (written r (joinedRows depth rows)))) =
      rows.map fun row =>
        layers frameReader 0 (pieces (written r (joined depth (.mark " & ") row.cells))) := by
  have hmark : Leads frameReader (marksOutside true) 0 0 (pieces " \\\\ ".toList) :=
    leads_joint (by simp [joints]) fun _ => rfl
  have hrow : ∀ row ∈ rows, Unmarked r (joined depth (.mark " & ") row.cells) :=
    fun row hrow => hu.of_part (infix_joinedRows hrow)
  have hrows : ∀ text ∈ rows.map fun row => written r (joined depth (.mark " & ") row.cells),
      Paired text ∧ Level frameReader (marksOutside true) (pieces text) := by
    intro text htext
    obtain ⟨row, hmem, rfl⟩ := List.mem_map.mp htext
    have harranged : Arranged true (joined depth (.mark " & ") row.cells) :=
      .joined depth (.joint (by simp [joints]) fun _ => rfl) row.cells
    exact ⟨(harranged.selfContained hlegacy (hrow row hmem).contained).1,
      harranged.level hlegacy (hrow row hmem)⟩
  rw [written_joinedRows, layers_intercalate (by decide) hmark hrows, List.map_map]
  refine cut_intercalate (by decide) (by simpa using hne) fun part hpart => ?_
  obtain ⟨row, hmem, rfl⟩ := List.mem_map.mp hpart
  exact not_mem_layers_joined hlegacy depth (hrow row hmem)

omit hlegacy depth in
/-- What stands around a body between delimiters, if there are any. -/
theorem exists_written_delimited {left right : Option Tag} {body : List Step}
    (hu : Unmarked r (delimited left right body)) :
    ∃ before after, Paired before ∧ Frameless (pieces before) ∧
      written r (delimited left right body) = before ++ (written r body ++ after) := by
  revert hu
  unfold delimited
  split
  · intro _
    exact ⟨[], [], by decide, nofun, by simp⟩
  · intro hu
    have hleft := hu.fragments (r.table.resolve left.join) (by simp [Step.fragment?])
    have hopen : Paired "\\left ".toList := by decide
    have hblank : Paired " ".toList := by decide
    refine ⟨"\\left ".toList ++ ((r.table.resolve left.join).toList ++ " ".toList),
      " \\right ".toList ++ (r.table.resolve right.join).toList,
      hopen.append (hleft.selfContained.1.append hblank), ?_, by simp [Step.text]⟩
    rw [pieces_append hopen, pieces_append hleft.selfContained.1]
    intro name hname
    obtain rfl | hname : name = "left".toList ∨
        name ∈ controls (pieces (r.table.resolve left.join).toList ++ pieces " ".toList) :=
      List.mem_cons.mp hname
    · decide
    · have hnone : controls (pieces " ".toList) = [] := rfl
      rw [controls_append rfl, hnone, List.append_nil] at hname
      exact hleft.frameless name hname

/-- The text of a matrix is that of its rows, with the marks of the environment around them. -/
theorem matrixBody_written {rows : List (Row Value)} {left right : Option Tag}
    (hu : Unmarked r (of depth (.matrix rows left right))) :
    matrixBody (pieces (written r (of depth (.matrix rows left right)))) =
      layers frameReader 0 (pieces (written r (joinedRows (depth + 1) rows))) := by
  have hmatrix : Unmarked r (matrix left right (joinedRows (depth + 1) rows)) :=
    (unmarked_append.mp hu).2
  have hrows : Unmarked r (joinedRows (depth + 1) rows) :=
    hmatrix.of_part (infix_matrix left right (List.infix_refl _))
  have harranged := Arranged.joinedRows (depth + 1) rows
  have hnested := harranged.selfContained hlegacy hrows.contained
  obtain ⟨before, after, hpair, hframeless, hwritten⟩ := exists_written_delimited hmatrix
  have hopen : Paired "\\begin\x7bmatrix\x7d ".toList := by decide
  have hclose : Paired " \\end\x7bmatrix\x7d".toList := by decide
  have htext : written r (of depth (.matrix rows left right)) =
      before ++ ("\\begin\x7bmatrix\x7d ".toList ++ (written r (joinedRows (depth + 1) rows) ++
        (" \\end\x7bmatrix\x7d".toList ++ after))) := by
    rw [of, written_append, matrix, hwritten]
    simp [Step.text]
  rw [htext, pieces_append hpair, pieces_append hopen, pieces_append hnested.1,
    pieces_append hclose]
  exact matrixBody_eq hframeless (harranged.level hlegacy hrows) _

/-- The rows of a matrix are read from its text, and in each row its cells. -/
theorem readTable_text {rows : List (Row Value)} {left right : Option Tag} (hne : rows ≠ [])
    (hcells : ∀ row ∈ rows, row.cells ≠ [])
    (hu : Unmarked r (of depth (.matrix rows left right))) :
    readTable (text r (of depth (.matrix rows left right))) =
      rows.map fun row => row.cells.map fun cell => text r (of (depth + 1) cell) := by
  have hrows : Unmarked r (joinedRows (depth + 1) rows) :=
    hu.of_part (List.infix_append_of_infix_right (infix_matrix left right (List.infix_refl _)))
  rw [readTable, ← written, matrixBody_written hlegacy depth hu,
    cut_joinedRows hlegacy _ hne hrows, List.map_map]
  refine List.map_congr_left fun row hrow => ?_
  rw [Function.comp_apply, cut_joined hlegacy _ (hcells row hrow)
    (hrows.of_part (infix_joinedRows hrow)), List.map_map]
  refine List.map_congr_left fun cell _ => ?_
  rw [Function.comp_apply, map_snd_layers, spelled_pieces, written, String.ofList_toList]

end Steps

namespace Renderer

theorem clear_of_run {v : Value} {p q : Pass} (h : (r.append v).run p = .ok ((), q)) :
    Clear r.settings.maxDepth (Steps.of p.depth v) := by
  rw [run_append, Draft.resume, outcome_draft] at h
  split at h
  · rename_i hok
    split at hok
    · cases hok
    · rename_i hnone
      exact List.findSome?_eq_none_iff.mp hnone
  · cases h

theorem run_of_clear {v : Value} {p : Pass}
    (h : Clear r.settings.maxDepth (Steps.of p.depth v)) :
    (r.append v).run p = .ok ((), ⟨p.text ++ text r (Steps.of p.depth v),
      p.notes ++ (Steps.draft r (Steps.of p.depth v)).notes, p.depth⟩) := by
  rw [run_append, Draft.resume, outcome_draft, List.findSome?_eq_none_iff.mpr h]

theorem outcome_of_clear {v : Value} (h : Clear r.settings.maxDepth (Steps.of 0 v)) :
    (r.render v).outcome = .ok (text r (Steps.of 0 v)) := by
  rw [render_eq_draft, outcome_draft, List.findSome?_eq_none_iff.mpr h]

/-- What takes part in a walk that ends well can be rendered by itself. -/
theorem outcome_of_part {v : Value} {depth : Nat} {steps : List Step}
    (h : Clear r.settings.maxDepth ([.enter (depth + 1)] ++ steps))
    (hpart : Steps.of (depth + 1) v <:+: steps) :
    (r.render v).outcome = .ok (text r (Steps.of 0 v)) := by
  obtain ⟨henter, hsteps⟩ := clear_append.mp h
  have hlevel : depth + 1 ≤ r.settings.maxDepth := by
    have hfault := henter _ List.mem_cons_self
    simpa [Step.fault?] using hfault
  have hclear : Clear r.settings.maxDepth (Steps.of (depth + 1) v) :=
    fun s hs => hsteps s (hpart.subset hs)
  obtain ⟨hheight, hoperable⟩ := (clear_of hlevel v).mp hclear
  exact outcome_of_clear ((clear_of (Nat.zero_le _) v).mpr ⟨by omega, hoperable⟩)

/-- The matrix that a walk has written, read again. Its rows are the rows of the text, in order and
no more, and each of them has its own cells in the same way, each as it is rendered by itself. -/
theorem readTable_matrix (r : Renderer) (rows : List (Row Value)) (left right : Option Tag)
    (p q : Pass) (hlegacy : r.settings.legacyAccents = false) (hne : rows ≠ [])
    (hcells : ∀ row ∈ rows, row.cells ≠ [])
    (hu : Steps.Unmarked r (Steps.of 0 (.matrix rows left right)))
    (h : (r.append (.matrix rows left right)).run p = .ok ((), q)) :
    ∃ latex, q.text = p.text ++ latex ∧
      List.Forall₂ (List.Forall₂ fun cell text => (r.render cell).outcome = .ok text)
        (rows.map Row.cells) (readTable latex) := by
  have hcell : ∀ row ∈ rows, ∀ cell ∈ row.cells,
      (r.render cell).outcome = .ok (text r (Steps.of 0 cell)) := by
    intro row hrow cell hmem
    have hpart : Steps.of (p.depth + 1) cell <:+: Steps.joinedRows (p.depth + 1) rows :=
      (infix_joined hmem).trans (infix_joinedRows hrow)
    exact outcome_of_part (clear_of_run h) (infix_matrix left right hpart)
  refine ⟨text r (Steps.of 0 (.matrix rows left right)), ?_, ?_⟩
  · rw [← String.toList_inj, text_of_run h, String.toList_append, written_of_depth, written]
  · rw [readTable_text hlegacy 0 hne hcells hu, List.forall₂_map_left_iff,
      List.forall₂_map_right_iff, List.forall₂_same]
    intro row hrow
    rw [List.forall₂_map_right_iff, List.forall₂_same]
    intro cell hmem
    rw [hcell row hrow cell hmem, text_of_depth r (0 + 1)]

/-- A matrix in a cell, an escaped ampersand, a cell that is left out and one that is no node. -/
theorem readTable_matrix_nested :
    let r := Renderer.ofSettings {}
    let inner := Value.matrix [⟨[.literal "1", .literal "2"], none⟩] none none
    let rows : List (Row Value) := [⟨[.literal "a&b", .null], some ";"⟩,
      ⟨[.sequence [inner, .literal "3"] (some ", "), .scalar (.int 4), .symbol (some "dx")], none⟩]
    let latex := "\\left ( \\begin\x7bmatrix\x7d \\text\x7ba\\&b\x7d &  \\\\ " ++
      "\\begin\x7bmatrix\x7d 1 & 2 \\end\x7bmatrix\x7d, 3 &  & dx" ++
      " \\end\x7bmatrix\x7d \\right )"
    (r.render (.matrix rows (some (some "lparen")) (some (some "rparen")))).outcome = .ok latex ∧
      List.Forall₂ (List.Forall₂ fun cell text => (r.render cell).outcome = .ok text)
        (rows.map Row.cells) (readTable latex) := by
  intro r inner rows latex
  let tree := Value.matrix rows (some (some "lparen")) (some (some "rparen"))
  have hne : rows ≠ [] := List.cons_ne_nil _ _
  have hcells : ∀ row ∈ rows, row.cells ≠ [] := by
    simp only [rows, List.forall_mem_cons]
    exact ⟨List.cons_ne_nil _ _, List.cons_ne_nil _ _, nofun⟩
  have hu : Steps.Unmarked r (Steps.of 0 tree) := by
    refine ⟨by decide, List.forall_mem_singleton.mpr ⟨by simp, ?_, by simp⟩, by decide⟩
    simp [Accent.isLetter]
  have hclear : Clear r.settings.maxDepth (Steps.of Pass.start.depth tree) :=
    (clear_of (Nat.zero_le _) tree).mpr (by decide)
  have hlatex : text r (Steps.of Pass.start.depth tree) = latex := by
    decide +kernel
  obtain ⟨own, hown, htable⟩ := readTable_matrix r rows (some (some "lparen"))
    (some (some "rparen")) .start _ rfl hne hcells hu (run_of_clear hclear)
  have hsame : "" ++ text r (Steps.of Pass.start.depth tree) = "" ++ own := hown
  rw [String.empty_append, String.empty_append, hlatex] at hsame
  rw [← hsame] at htable
  exact ⟨(outcome_of_clear hclear).trans (congrArg _ hlatex), htable⟩

end Renderer

end FormulaTex
