import FormulaTex.Proofs.Commands
import FormulaTex.Proofs.Layering
import Mathlib.Data.List.TakeWhile

/-!
# Reading a listing back

A plain listing has no quotes, so it can be read back only as far as the entries leave its marks
alone: a tab ends a tag and a line end ends a row. The built-in entries do, and custom entries may
be any text. Away from a terminal they lose their style codes as well. Where no custom entry holds
any of this, the rows that are read are the entries of the table, and different tables have
different listings.
-/

namespace FormulaTex

open Text

namespace Text.Terminal

variable {mark : Char} {begun text : List Char}

/-- A character that parts the cells or the rows of a listing. No style code has one. -/
def IsMark (c : Char) : Prop :=
  c = '\t' ∨ c = '\n'

theorem continuesStyle_mark (hmark : IsMark mark) (begun : List Char) :
    continuesStyle begun mark = false := by
  rcases hmark with rfl | rfl
  all_goals
    unfold continuesStyle
    split <;> rfl

theorem endsStyle_mark (hmark : IsMark mark) (begun : List Char) :
    endsStyle begun mark = false := by
  rcases hmark with rfl | rfl
  all_goals exact Bool.and_false _

theorem ne_escape_of_isMark (hmark : IsMark mark) : mark ≠ escape := by
  rcases hmark with rfl | rfl
  all_goals decide

theorem withoutStyles_mark (hmark : IsMark mark) (begun rest : List Char) :
    withoutStyles begun (mark :: rest) = begun ++ mark :: withoutStyles [] rest := by
  simp only [withoutStyles, continuesStyle_mark hmark, endsStyle_mark hmark,
    ne_escape_of_isMark hmark, if_false, Bool.false_eq_true]

theorem withoutStyles_append (hmark : IsMark mark) (begun before behind : List Char) :
    withoutStyles begun (before ++ mark :: behind) =
      withoutStyles begun before ++ mark :: withoutStyles [] behind := by
  -- What has begun of a code changes from step to step. It is given up at the mark.
  induction before generalizing begun with
  | nil => exact withoutStyles_mark hmark begun behind
  | cons c rest ih =>
    rw [List.cons_append, withoutStyles, withoutStyles]
    split_ifs
    · exact ih _
    · exact ih _
    · rw [ih, List.append_assoc]
    · rw [ih, List.append_assoc, List.cons_append]

theorem withoutStyles_sublist (begun text : List Char) :
    (withoutStyles begun text).Sublist (begun ++ text) := by
  induction text generalizing begun with
  | nil =>
    rw [List.append_nil]
    exact List.Sublist.refl begun
  | cons c rest ih =>
    rw [withoutStyles]
    split_ifs with hcontinues hends hc
    · have hlonger := ih (begun ++ [c])
      rwa [List.append_assoc] at hlonger
    · have hrest : (withoutStyles [] rest).Sublist rest := ih []
      exact (hrest.cons c).trans (List.sublist_append_right begun _)
    · subst hc
      exact (ih [escape]).append_left begun
    · exact ((ih []).cons_cons c).append_left begun

variable {isTerminal : Bool}

theorem echoed_append (hmark : IsMark mark) (before behind : List Char) :
    echoed isTerminal (before ++ mark :: behind) =
      echoed isTerminal before ++ mark :: echoed isTerminal behind := by
  cases isTerminal with
  | true => rfl
  | false => exact withoutStyles_append hmark [] before behind

theorem mem_echoed (hmark : IsMark mark) : mark ∈ echoed isTerminal text ↔ mark ∈ text := by
  constructor
  · intro h
    cases isTerminal with
    | true => exact h
    | false => exact (withoutStyles_sublist [] text).subset h
  · intro h
    obtain ⟨before, behind, rfl⟩ := List.append_of_mem h
    rw [echoed_append hmark]
    exact List.mem_append_right _ List.mem_cons_self

end Text.Terminal

namespace Listing

open Text.Terminal (IsMark echoed echoed_append mem_echoed)

/-- A row, cut at its first tab. -/
def readRow (row : List Char) : Entry :=
  (String.ofList (row.takeWhile fun c => c ≠ '\t'),
    String.ofList ((row.dropWhile fun c => c ≠ '\t').drop 1))

/-- The rows of a text in which every row ends with a line end. -/
def readRows (text : String) : List Entry :=
  (cutAt '\n' text.toList).dropLast.map readRow

/-- An entry that can be read back: neither cell has a character that ends it, and both arrive as
they are. -/
structure IsReadable (isTerminal : Bool) (entry : Entry) : Prop where
  tab_notMem_tag : '\t' ∉ entry.1.toList
  lineEnd_notMem_tag : '\n' ∉ entry.1.toList
  lineEnd_notMem_fragment : '\n' ∉ entry.2.toList
  echoed_tag : echoed isTerminal entry.1.toList = entry.1.toList
  echoed_fragment : echoed isTerminal entry.2.toList = entry.2.toList

instance (isTerminal : Bool) (entry : Entry) : Decidable (IsReadable isTerminal entry) :=
  decidable_of_iff
    ('\t' ∉ entry.1.toList ∧ '\n' ∉ entry.1.toList ∧ '\n' ∉ entry.2.toList ∧
      echoed isTerminal entry.1.toList = entry.1.toList ∧
      echoed isTerminal entry.2.toList = entry.2.toList)
    ⟨fun ⟨a, b, c, d, e⟩ => ⟨a, b, c, d, e⟩, fun ⟨a, b, c, d, e⟩ => ⟨a, b, c, d, e⟩⟩

theorem isMark_tab : IsMark '\t' := .inl rfl

theorem isMark_lineEnd : IsMark '\n' := .inr rfl

section

variable {isTerminal : Bool} {entry : Entry} {rows : List Entry}

def row (isTerminal : Bool) (entry : Entry) : List Char :=
  echoed isTerminal entry.1.toList ++ '\t' :: echoed isTerminal entry.2.toList

theorem readRow_append {before behind : List Char} (h : '\t' ∉ before) :
    readRow (before ++ '\t' :: behind) = (String.ofList before, String.ofList behind) := by
  have hbefore : ∀ c ∈ before, decide (c ≠ '\t') = true := by
    rintro c hc
    exact decide_eq_true fun heq => h (heq ▸ hc)
  rw [readRow, List.takeWhile_append_of_pos hbefore, List.dropWhile_append_of_pos hbefore,
    List.takeWhile_cons_of_neg (by decide), List.dropWhile_cons_of_neg (by decide),
    List.append_nil, List.drop_one, List.tail_cons]

theorem tab_notMem_readRow (text : List Char) : '\t' ∉ (readRow text).1.toList := by
  rw [readRow, String.toList_ofList]
  intro h
  have htab : decide ('\t' ≠ '\t') = true := List.mem_takeWhile_imp (p := fun c => c ≠ '\t') h
  exact of_decide_eq_true htab rfl

theorem readRow_row : readRow (row isTerminal entry) = entry ↔
    '\t' ∉ entry.1.toList ∧ echoed isTerminal entry.1.toList = entry.1.toList ∧
      echoed isTerminal entry.2.toList = entry.2.toList := by
  constructor
  · intro h
    -- A tag that is read has no tab, so the row was cut where its own tag ends.
    have htab : '\t' ∉ entry.1.toList := h ▸ tab_notMem_readRow (row isTerminal entry)
    rw [row, readRow_append ((mem_echoed isMark_tab).not.mpr htab)] at h
    have htag := congrArg (fun cells => cells.1.toList) h
    have hfragment := congrArg (fun cells => cells.2.toList) h
    rw [String.toList_ofList] at htag hfragment
    exact ⟨htab, htag, hfragment⟩
  · rintro ⟨htab, htag, hfragment⟩
    rw [row, htag, hfragment, readRow_append htab, String.ofList_toList, String.ofList_toList]

theorem lineEnd_notMem_row : '\n' ∉ row isTerminal entry ↔
    '\n' ∉ entry.1.toList ∧ '\n' ∉ entry.2.toList := by
  rw [row, List.mem_append, List.mem_cons, mem_echoed isMark_lineEnd, mem_echoed isMark_lineEnd,
    not_or, not_or]
  constructor
  · rintro ⟨htag, -, hfragment⟩
    exact ⟨htag, hfragment⟩
  · rintro ⟨htag, hfragment⟩
    exact ⟨htag, by decide, hfragment⟩

theorem toList_plain_cons (entry : Entry) (rows : List Entry) :
    (plain (entry :: rows)).toList =
      entry.1.toList ++ '\t' :: (entry.2.toList ++ '\n' :: (plain rows).toList) := by
  simp [plain, String.toList_join]

theorem plain_append (rows rest : List Entry) :
    plain (rows ++ rest) = plain rows ++ plain rest := by
  rw [plain, List.map_append, String.join_append]
  rfl

theorem cutAt_echoed_plain (isTerminal : Bool) (rows : List Entry) :
    cutAt '\n' (echoed isTerminal (plain rows).toList) =
      rows.flatMap (fun entry => cutAt '\n' (row isTerminal entry)) ++ [[]] := by
  induction rows with
  | nil => cases isTerminal <;> rfl
  | cons entry rest ih =>
    rw [toList_plain_cons, echoed_append isMark_tab, echoed_append isMark_lineEnd,
      ← List.cons_append, ← List.append_assoc, ← row, cutAt_append, ih, List.flatMap_cons,
      List.append_assoc]

theorem length_le_length_flatMap {α β : Type} {pieces : α → List β} {all : List α}
    (h : ∀ x ∈ all, 1 ≤ (pieces x).length) : all.length ≤ (all.flatMap pieces).length := by
  induction all with
  | nil => rfl
  | cons x rest ih =>
    obtain ⟨hx, hrest⟩ := List.forall_mem_cons.mp h
    have hlength := ih hrest
    rw [List.flatMap_cons, List.length_append, List.length_cons]
    omega

/-- Nothing has less than a piece, so if there are no more pieces than things, each has one. -/
theorem length_eq_one_of_flatMap {α β : Type} {pieces : α → List β} {all : List α}
    (hpieces : ∀ x ∈ all, 1 ≤ (pieces x).length)
    (h : (all.flatMap pieces).length ≤ all.length) : ∀ x ∈ all, (pieces x).length = 1 := by
  induction all with
  | nil => nofun
  | cons x rest ih =>
    obtain ⟨hx, hrest⟩ := List.forall_mem_cons.mp hpieces
    have hlength := length_le_length_flatMap hrest
    rw [List.flatMap_cons, List.length_append, List.length_cons] at h
    exact List.forall_mem_cons.mpr ⟨by omega, ih hrest (by omega)⟩

theorem lineEnd_notMem_row_of_readRows
    (h : readRows (String.ofList (echoed isTerminal (plain rows).toList)) = rows) :
    ∀ entry ∈ rows, '\n' ∉ row isTerminal entry := by
  have hlength := congrArg List.length h
  rw [readRows, String.toList_ofList, cutAt_echoed_plain, List.dropLast_concat,
    List.length_map] at hlength
  have hone : ∀ entry ∈ rows, 1 ≤ (cutAt '\n' (row isTerminal entry)).length := by
    intro entry _
    rw [length_cutAt]
    exact Nat.le_add_left 1 _
  intro entry hentry
  have hlines := length_eq_one_of_flatMap hone hlength.le entry hentry
  rw [length_cutAt] at hlines
  exact List.count_eq_zero.mp (Nat.succ.inj hlines)

theorem readRows_of_notMem (h : ∀ entry ∈ rows, '\n' ∉ row isTerminal entry) :
    readRows (String.ofList (echoed isTerminal (plain rows).toList)) =
      rows.map fun entry => readRow (row isTerminal entry) := by
  have hpieces : rows.flatMap (fun entry => cutAt '\n' (row isTerminal entry)) =
      rows.map (row isTerminal) := by
    rw [← List.flatMap_singleton' (rows.map (row isTerminal)), List.flatMap_map]
    apply List.flatMap_congr
    intro entry hentry
    exact cutAt_of_notMem (h entry hentry)
  rw [readRows, String.toList_ofList, cutAt_echoed_plain, List.dropLast_concat, hpieces,
    List.map_map]
  rfl

theorem readRows_plain : readRows (String.ofList (echoed isTerminal (plain rows).toList)) = rows ↔
    ∀ entry ∈ rows, IsReadable isTerminal entry := by
  constructor
  · intro h
    -- There are as many lines as entries, so no row has a line end of its own.
    have hlines := lineEnd_notMem_row_of_readRows h
    rw [readRows_of_notMem hlines] at h
    intro entry hentry
    have hsame : readRow (row isTerminal entry) = entry :=
      List.map_inj_left.mp (h.trans (List.map_id rows).symm) entry hentry
    obtain ⟨htab, htag, hfragment⟩ := readRow_row.mp hsame
    obtain ⟨htagEnd, hfragmentEnd⟩ := lineEnd_notMem_row.mp (hlines entry hentry)
    exact ⟨htab, htagEnd, hfragmentEnd, htag, hfragment⟩
  · intro h
    have hlines : ∀ entry ∈ rows, '\n' ∉ row isTerminal entry := by
      intro entry hentry
      have hreadable := h entry hentry
      exact lineEnd_notMem_row.mpr
        ⟨hreadable.lineEnd_notMem_tag, hreadable.lineEnd_notMem_fragment⟩
    rw [readRows_of_notMem hlines]
    refine (List.map_congr_left ?_).trans (List.map_id rows)
    intro entry hentry
    have hreadable := h entry hentry
    exact readRow_row.mpr
      ⟨hreadable.tab_notMem_tag, hreadable.echoed_tag, hreadable.echoed_fragment⟩

end

section

variable {settings other : Settings}

theorem entries_append (table rest : SymbolTable) :
    entries (table ++ rest) = entries table ++ entries rest :=
  List.map_append

theorem map_snd_entries (table : SymbolTable) :
    (entries table).map Prod.snd = table.map Prod.snd := by
  rw [entries, List.map_map]
  apply List.map_congr_left
  rintro ⟨_ | tag, fragment⟩ -
  · rfl
  · rfl

def added (settings : Settings) : List (String × String) :=
  settings.symbols.filter fun entry => decide (some entry.1 ∉ SymbolTable.builtin.map Prod.fst)

theorem mem_added {entry : String × String} (h : entry ∈ added settings) :
    entry ∈ settings.symbols :=
  (List.mem_filter.mp h).1

theorem entries_named {custom : List (String × String)}
    (h : ∀ entry ∈ custom, entry.1 ≠ "") :
    entries (custom.map fun entry => (some entry.1, entry.2)) = custom := by
  rw [entries, List.map_map]
  refine (List.map_congr_left ?_).trans (List.map_id custom)
  intro entry hentry
  simp [h entry hentry]

theorem tag_ne_empty (h : settings.IsSound) : ∀ entry ∈ settings.symbols, entry.1 ≠ "" :=
  fun entry hentry => SymbolTable.ne_empty_of_not_blank (h.tag_not_blank entry hentry)

/-- The entries of a table in two parts: the built-in tags with their fragments, and the rest. -/
theorem entries_table (h : settings.IsSound) :
    entries settings.table =
      entries (SymbolTable.builtin.map fun entry =>
        (entry.1, (SymbolTable.override? settings.symbols entry.1).getD entry.2)) ++
        added settings := by
  have hnamed : ∀ entry ∈ added settings, entry.1 ≠ "" :=
    fun entry hentry => tag_ne_empty h entry (mem_added hentry)
  rw [Settings.table, SymbolTable.layered_eq h.nodup, entries_append, ← added,
    entries_named hnamed]

/-- Tables whose entries look the same are the same: the nameless tag has its own place. -/
theorem table_of_entries (h : settings.IsSound) (hother : other.IsSound)
    (hentries : entries settings.table = entries other.table) :
    settings.table = other.table := by
  rw [entries_table h, entries_table hother] at hentries
  obtain ⟨hbuiltin, hadded⟩ := List.append_inj hentries (by simp [entries])
  rw [Settings.table, Settings.table, SymbolTable.layered_eq h.nodup,
    SymbolTable.layered_eq hother.nodup, ← added, ← added, hadded]
  have hfragments := congrArg (List.map Prod.snd) hbuiltin
  rw [map_snd_entries, map_snd_entries, List.map_map, List.map_map] at hfragments
  congr 1
  apply List.map_congr_left
  intro entry hentry
  exact congrArg (Prod.mk entry.1) (List.map_inj_left.mp hfragments entry hentry)

/-- A text without any character that means something in a listing or to a terminal. -/
def isPlainText (text : String) : Bool :=
  text.toList.all fun c => c != '\t' && c != '\n' && c != Terminal.escape

theorem ne_of_isPlainText {text : String} (h : isPlainText text = true) {c : Char}
    (hc : c ∈ text.toList) : c ≠ '\t' ∧ c ≠ '\n' ∧ c ≠ Terminal.escape := by
  have hplain := List.all_eq_true.mp h c hc
  simp only [Bool.and_eq_true, bne_iff_ne] at hplain
  exact ⟨hplain.1.1, hplain.1.2, hplain.2⟩

theorem isReadable_of_isPlainText {entry : Entry} (htag : isPlainText entry.1 = true)
    (hfragment : isPlainText entry.2 = true) (isTerminal : Bool) :
    IsReadable isTerminal entry where
  tab_notMem_tag := fun hmem => (ne_of_isPlainText htag hmem).1 rfl
  lineEnd_notMem_tag := fun hmem => (ne_of_isPlainText htag hmem).2.1 rfl
  lineEnd_notMem_fragment := fun hmem => (ne_of_isPlainText hfragment hmem).2.1 rfl
  echoed_tag :=
    Terminal.echoed_of_notMem isTerminal fun hmem => (ne_of_isPlainText htag hmem).2.2 rfl
  echoed_fragment :=
    Terminal.echoed_of_notMem isTerminal fun hmem => (ne_of_isPlainText hfragment hmem).2.2 rfl

theorem isReadable_builtin (isTerminal : Bool) :
    ∀ entry ∈ entries SymbolTable.builtin, IsReadable isTerminal entry := by
  have hplain : ((entries SymbolTable.builtin).all fun entry =>
      isPlainText entry.1 && isPlainText entry.2) = true := by
    decide +kernel
  intro entry hentry
  have hboth := List.all_eq_true.mp hplain entry hentry
  rw [Bool.and_eq_true] at hboth
  exact isReadable_of_isPlainText hboth.1 hboth.2 isTerminal

/-- No tag of accepted settings is empty, so only the nameless tag is listed under its name. -/
theorem entries_of_isSound (h : settings.IsSound) :
    entries settings.table =
      settings.table.map fun entry => (entry.1.getD namelessTag, entry.2) := by
  have hbuiltin : ∀ entry ∈ SymbolTable.builtin, entry.1 ≠ some "" := by
    decide +kernel
  apply List.map_congr_left
  rintro ⟨tag, fragment⟩ hentry
  cases tag with
  | none => rfl
  | some tag =>
    have hne : tag ≠ "" := by
      rintro rfl
      rcases SymbolTable.mem_layered h.nodup hentry with ⟨own, hown, htag, -⟩ | hmem
      · exact tag_ne_empty h own hown (Option.some.inj htag)
      · exact hbuiltin _ hmem rfl
    simp only [String.isEmpty_iff, hne, if_false, Option.getD_some]

theorem mem_entries_of_mem (h : settings.IsSound) {entry : Entry}
    (hentry : entry ∈ settings.symbols) : entry ∈ entries settings.table := by
  rw [entries_of_isSound h]
  exact List.mem_map.mpr ⟨(some entry.1, entry.2),
    SymbolTable.mem_layered_of_mem h.nodup hentry, rfl⟩

theorem mem_of_mem_entries (h : settings.IsSound) {entry : Entry}
    (hentry : entry ∈ entries settings.table) :
    entry ∈ settings.symbols ∨ entry ∈ entries SymbolTable.builtin := by
  obtain ⟨⟨tag, fragment⟩, hmem, rfl⟩ := List.mem_map.mp hentry
  rcases SymbolTable.mem_layered h.nodup hmem with ⟨own, hown, rfl, rfl⟩ | hbuiltin
  · have hne := tag_ne_empty h own hown
    simp only [String.isEmpty_iff, hne, if_false]
    exact .inl hown
  · exact .inr (List.mem_map_of_mem hbuiltin)

/-- Whether a listing can be read back is up to the custom entries. -/
theorem isReadable_entries (h : settings.IsSound) {isTerminal : Bool} :
    (∀ entry ∈ entries settings.table, IsReadable isTerminal entry) ↔
      ∀ entry ∈ settings.symbols, IsReadable isTerminal entry := by
  constructor
  · intro hall entry hentry
    exact hall entry (mem_entries_of_mem h hentry)
  · intro hcustom entry hentry
    rcases mem_of_mem_entries h hentry with hmem | hbuiltin
    · exact hcustom entry hmem
    · exact isReadable_builtin isTerminal entry hbuiltin

end

end Listing

namespace CommandLine

open Listing

/-- The command line asks for a plain listing of everything, and its settings have been read. So no
text of theirs names a surrogate. -/
def ListsAll (around : Surroundings) (arguments : List String) (settings : Settings) : Prop :=
  ∃ options : SymbolsOptions,
    Request.read around.files around.directory arguments = .symbols options ∧
      options.isPlain = true ∧ options.pattern.getD "" = "" ∧
        (fileSettings around.files options.settings).toOption = some settings

variable {around : Surroundings} {arguments : List String} {settings : Settings}

theorem fileSettings_of_toOption {files : Files} {path : Option Path}
    (h : (fileSettings files path).toOption = some settings) :
    fileSettings files path = .ok settings := by
  cases hread : fileSettings files path with
  | error fault =>
    rw [hread] at h
    cases h
  | ok own =>
    rw [hread] at h
    exact congrArg Except.ok (Option.some.inj h)

theorem ListsAll.isSound (h : ListsAll around arguments settings) : settings.IsSound := by
  obtain ⟨options, -, -, -, hsettings⟩ := h
  exact RenderOptions.isSound_of_fileSettings (fileSettings_of_toOption hsettings)

theorem SymbolsOptions.listed_all {options : SymbolsOptions} (h : options.pattern.getD "" = "")
    (settings : Settings) : options.listed settings = entries settings.table := by
  obtain ⟨pattern, path, isPlain⟩ := options
  cases pattern with
  | none => rfl
  | some pattern =>
    obtain rfl : pattern = "" := h
    rfl

theorem ListsAll.output_eq (h : ListsAll around arguments settings) (isTerminal : Bool) :
    output isTerminal around arguments =
      String.ofList (Terminal.echoed isTerminal (plain (entries settings.table)).toList) := by
  obtain ⟨options, hread, hplain, hpattern, hsettings⟩ := h
  have houtput : ((options.run around).outcome around.display).output =
      plain (entries settings.table) := by
    simp only [SymbolsOptions.run, fileSettings_of_toOption hsettings, hplain, if_true,
      SymbolsOptions.listed_all hpattern, Run.outcome]
  rw [output, outcome, hread, Request.arriving, Request.isLaidOut, hplain, Bool.not_true,
    if_neg Bool.false_ne_true, Request.outcome, houtput]

/-- A plain listing of everything shows the entries of the table, the nameless tag under its name
in parentheses. Its rows, cut at the first tab, are these entries exactly if no custom tag has a tab
or a line end, no custom fragment has a line end and, away from a terminal, neither has a style
code. Different tables of this kind have different listings. -/
theorem readRows_output (isTerminal : Bool) (around : Surroundings) (arguments : List String)
    (settings : Settings) (h : ListsAll around arguments settings) :
    entries settings.table =
      settings.table.map (fun entry => (entry.1.getD "(none)", entry.2)) ∧
    (readRows (output isTerminal around arguments) = entries settings.table ↔
      ∀ entry ∈ settings.symbols, IsReadable isTerminal entry) ∧
    ∀ around' arguments' settings', ListsAll around' arguments' settings' →
      (∀ entry ∈ settings.symbols, IsReadable isTerminal entry) →
      (∀ entry ∈ settings'.symbols, IsReadable isTerminal entry) →
      settings.table ≠ settings'.table →
        output isTerminal around arguments ≠ output isTerminal around' arguments' := by
  have hread : ∀ {around arguments settings}, ListsAll around arguments settings →
      (readRows (output isTerminal around arguments) = entries settings.table ↔
        ∀ entry ∈ settings.symbols, IsReadable isTerminal entry) := by
    intro around arguments settings h
    rw [h.output_eq, readRows_plain, isReadable_entries h.isSound]
  refine ⟨entries_of_isSound h.isSound, hread h, ?_⟩
  intro around' arguments' settings' h' hreadable hreadable' hne houtput
  apply hne
  apply table_of_entries h.isSound h'.isSound
  rw [← (hread h).mpr hreadable, houtput, (hread h').mpr hreadable']

/-- A custom tag that is spelled like the name of the nameless one has a row of its own. -/
theorem readRows_output_parentheses :
    let octets := fun (text : String) => text.toList.map fun c => c.toNat.toUInt8
    let around : Surroundings := {
      files := ⟨[(["c"], octets "symbols: \x7b(none): x\x7d\n"),
        (["d"], octets "symbols: \x7bplus: \"a\\tb\"\x7d\n")], []⟩
      directory := []
      input := .none }
    let settings : Settings := { symbols := [("(none)", "x")] }
    let other : Settings := { symbols := [("plus", "a\tb")] }
    ListsAll around ["symbols", "--plain", "-c", "c"] settings ∧
      ListsAll around ["symbols", "-c", "d", "--plain"] other ∧
      readRows (output false around ["symbols", "--plain", "-c", "c"]) =
        entries settings.table ∧
      output false around ["symbols", "--plain", "-c", "c"] ≠
        output false around ["symbols", "-c", "d", "--plain"] := by
  intro octets around settings other
  have hlists : ListsAll around ["symbols", "--plain", "-c", "c"] settings := by
    refine ⟨{ settings := some ["c"], isPlain := true }, ?_, rfl, rfl, ?_⟩
    all_goals
      simp only [octets, around]
      decide +kernel
  have hlists' : ListsAll around ["symbols", "-c", "d", "--plain"] other := by
    refine ⟨{ settings := some ["d"], isPlain := true }, ?_, rfl, rfl, ?_⟩
    all_goals
      simp only [octets, around]
      decide +kernel
  have hreadable : ∀ entry ∈ settings.symbols, IsReadable false entry := by decide +kernel
  have hreadable' : ∀ entry ∈ other.symbols, IsReadable false entry := by decide +kernel
  have hne : settings.table ≠ other.table := by decide +kernel
  obtain ⟨-, hread, hdiffer⟩ := readRows_output false _ _ _ hlists
  exact ⟨hlists, hlists', hread.mpr hreadable,
    hdiffer _ _ _ hlists' hreadable hreadable' hne⟩

/-- A line end in a fragment looks like the end of its row. -/
theorem not_output_injective :
    ¬ ∀ isTerminal around arguments settings around' arguments' settings',
      ListsAll around arguments settings → ListsAll around' arguments' settings' →
        settings.table ≠ settings'.table →
          output isTerminal around arguments ≠ output isTerminal around' arguments' := by
  intro h
  let octets := fun (text : String) => text.toList.map fun c => c.toNat.toUInt8
  let around : Surroundings := {
    files := ⟨[(["c"], octets "symbols: \x7bq: \"x\\ny\\tz\"\x7d\n"),
      (["d"], octets "symbols: \x7bq: x, y: z\x7d\n")], []⟩
    directory := []
    input := .none }
  let settings : Settings := { symbols := [("q", "x\ny\tz")] }
  let other : Settings := { symbols := [("q", "x"), ("y", "z")] }
  have hlists : ListsAll around ["symbols", "--plain", "-c", "c"] settings := by
    refine ⟨{ settings := some ["c"], isPlain := true }, ?_, rfl, rfl, ?_⟩
    all_goals
      simp only [octets, around]
      decide +kernel
  have hlists' : ListsAll around ["symbols", "--plain", "-c", "d"] other := by
    refine ⟨{ settings := some ["d"], isPlain := true }, ?_, rfl, rfl, ?_⟩
    all_goals
      simp only [octets, around]
      decide +kernel
  have htable : settings.table = SymbolTable.builtin ++ [(some "q", "x\ny\tz")] := by
    decide +kernel
  have htable' : other.table = SymbolTable.builtin ++ [(some "q", "x"), (some "y", "z")] := by
    decide +kernel
  have hsame : plain (entries [(some "q", "x\ny\tz")]) =
      plain (entries [(some "q", "x"), (some "y", "z")]) := by decide +kernel
  apply h true _ _ _ _ _ _ hlists hlists'
  · rw [htable, htable']
    decide +kernel
  · rw [hlists.output_eq, hlists'.output_eq, htable, htable', entries_append, entries_append,
      plain_append, plain_append, hsame]

end CommandLine
end FormulaTex
