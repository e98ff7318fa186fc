import FormulaTex.Proofs.Reading
import FormulaTex.Proofs.Walk

/-!
# Nesting

The marks that a walk writes come in pairs with something between them, or stand between two parts.
What the renderer takes from its table, from raw operators or from the tree stands between such
marks. A rendering therefore nests as soon as each of these texts nests by itself.
-/

namespace FormulaTex

open Latex

/-- A pair of marks that enclose what stands between them. -/
inductive Enclosure where
  | group
  | upright
  | fence
  | matrix

namespace Enclosure

def opener : Enclosure → String
  | group => "\x7b"
  | upright => "\\text\x7b"
  | fence => "\\left "
  | matrix => "\\begin\x7bmatrix\x7d "

def closer : Enclosure → String
  | group => "\x7d"
  | upright => "\x7d"
  | fence => " \\right "
  | matrix => " \\end\x7bmatrix\x7d"

def isTable : Enclosure → Bool
  | matrix => true
  | _ => false

end Enclosure

def joints : List String :=
  ["_", "^", "[", "]", " ", " & ", " \\\\ "]

/-- The marks between the cells and between the rows of a matrix. -/
def cellMarks : List String :=
  [" & ", " \\\\ "]

/-- How the steps of a walk may follow one another. Whatever is not a mark has a mark or a gap on
each side. Marks of cells stand only in a `table`, right inside a matrix. -/
inductive Arranged : Bool → List Step → Prop where
  | nil {table : Bool} : Arranged table []
  | silent {table : Bool} (s : Step) (hs : ∀ r, s.text r = "") {rest : List Step}
      (h : Arranged table rest) : Arranged table ([s] ++ rest)
  | look {table : Bool} (tag : Tag) : Arranged table [.look tag]
  | raw {table : Bool} (fragment : String) : Arranged table [.raw fragment]
  | content {table : Bool} (text : String) : Arranged table [.content text]
  | joint {table : Bool} {before after : List Step} {mark : String} (hmark : mark ∈ joints)
      (htable : mark ∈ cellMarks → table = true)
      (hbefore : Arranged table before) (hafter : Arranged table after) :
      Arranged table (before ++ ([.mark mark] ++ after))
  | gap {table : Bool} {before after : List Step} (separator : Option String)
      (hbefore : Arranged table before) (hafter : Arranged table after) :
      Arranged table (before ++ ([.gap separator] ++ after))
  | enclosed {table : Bool} (e : Enclosure) {before body after : List Step}
      (hbefore : Arranged table before) (hbody : Arranged e.isTable body)
      (hafter : Arranged table after) :
      Arranged table (before ++ ([.mark e.opener] ++ (body ++ ([.mark e.closer] ++ after))))

namespace Arranged

variable {table : Bool} {a b c body left right : List Step}

/-- Nothing but the marks of cells depends on where the steps stand. -/
theorem loosen {inner : Bool} (h : Arranged inner a) (hinner : inner = true → table = true) :
    Arranged table a := by
  induction h with
  | nil => exact .nil
  | silent s hs _ ih => exact .silent s hs (ih hinner)
  | look tag => exact .look tag
  | raw fragment => exact .raw fragment
  | content text => exact .content text
  | joint hmark htable _ _ ihbefore ihafter =>
    exact .joint hmark (fun hcell => hinner (htable hcell)) (ihbefore hinner) (ihafter hinner)
  | gap separator _ _ ihbefore ihafter => exact .gap separator (ihbefore hinner) (ihafter hinner)
  | enclosed e _ hbody _ ihbefore _ ihafter =>
    exact .enclosed e (ihbefore hinner) hbody (ihafter hinner)

theorem enter {level : Nat} (h : Arranged table a) : Arranged table ([.enter level] ++ a) :=
  .silent _ (fun _ => rfl) h

theorem between {mark : String} (hmark : mark ∈ joints) (hcell : mark ∉ cellMarks)
    (ha : Arranged table a) (hb : Arranged table b) : Arranged table (a ++ ([.mark mark] ++ b)) :=
  .joint hmark (fun h => absurd h hcell) ha hb

theorem braced_between (ha : Arranged false a) (hbody : Arranged false body)
    (hb : Arranged false b) : Arranged false (a ++ (Steps.braced body ++ b)) := by
  have h := enclosed .group ha hbody hb
  simpa only [Steps.braced, Enclosure.opener, Enclosure.closer, List.append_assoc] using h

theorem braced_after (ha : Arranged false a) (hbody : Arranged false body) :
    Arranged false (a ++ Steps.braced body) := by
  have h := braced_between ha hbody .nil
  rwa [List.append_nil] at h

theorem braced (hbody : Arranged false body) : Arranged false (Steps.braced body) :=
  braced_after .nil hbody

theorem upright (text : String) : Arranged false (Steps.upright text) :=
  enclosed .upright .nil (.content text) .nil

theorem literal (text : String) : Arranged false (Steps.literal text) := by
  unfold Steps.literal
  split
  · exact upright text
  · exact .content text

theorem delimited (left right : Option Tag) (hbody : Arranged false body) :
    Arranged false (Steps.delimited left right body) := by
  have hopen (l : Tag) : Arranged false ([.look l] ++ ([.mark " "] ++ body)) :=
    between (by simp [joints]) (by simp [cellMarks]) (.look l) hbody
  have hfence (l r : Tag) : Arranged false _ := enclosed .fence .nil (hopen l) (.look r)
  unfold Steps.delimited
  split
  · exact hbody
  · simpa only [Enclosure.opener, Enclosure.closer, List.append_assoc, List.nil_append]
      using hfence left.join right.join

theorem grouped (argument : Value) (hbody : Arranged false body) :
    Arranged false (Steps.grouped argument body) := by
  unfold Steps.grouped
  split
  · exact braced hbody
  · exact hbody

theorem script_after {mark : String} (hmark : mark ∈ joints) (hcell : mark ∉ cellMarks)
    (argument : Value) (ha : Arranged false a) (hbody : Arranged false body) :
    Arranged false (a ++ Steps.script mark argument body) := by
  unfold Steps.script
  split
  · rwa [List.append_nil]
  · exact between hmark hcell ha (grouped argument hbody)

theorem applied (depth : Nat) (tag : Tag) (hbody : Arranged false body) :
    Arranged false (Steps.applied depth tag body) := by
  unfold Steps.applied
  split_ifs
  · exact delimited _ _ hbody
  · exact delimited _ _ hbody
  · exact delimited _ _ hbody
  · exact braced_between (.look _) (enter (.look _)) (braced hbody)
  · exact braced_after (.look tag) hbody

theorem unary (depth : Nat) (operator : Value) (hbody : Arranged false body) :
    Arranged false (Steps.unary depth operator body) := by
  unfold Steps.unary
  split
  · exact applied depth _ hbody
  · exact braced_after (.raw _) hbody
  · exact .silent _ (fun _ => rfl) .nil

theorem root (index : Value) (hleft : Arranged false left) (hright : Arranged false right) :
    Arranged false (Steps.root index left right) := by
  unfold Steps.root Steps.bracketed
  split
  · exact braced_after (.look _) hright
  · have hclose : Arranged false (left ++ ([.mark "]"] ++ Steps.braced right)) :=
      between (by simp [joints]) (by simp [cellMarks]) hleft (braced hright)
    have hopen := between (show "[" ∈ joints by simp [joints]) (by simp [cellMarks])
      (.look (some "sqrt")) hclose
    simpa only [List.append_assoc] using hopen

theorem binary (operator index : Value) (hleft : Arranged false left)
    (hright : Arranged false right) : Arranged false (Steps.binary operator index left right) := by
  unfold Steps.binary
  split
  · split
    · exact root index hleft hright
    · exact braced_between (.look _) hleft (braced hright)
  · exact braced_between (.raw _) hleft (braced hright)
  · exact .silent _ (fun _ => rfl) .nil

theorem matrix (left right : Option Tag) (hbody : Arranged true body) :
    Arranged false (Steps.matrix left right body) :=
  delimited left right (enclosed .matrix .nil hbody .nil)

mutual

/-- The steps of every walk are arranged so. -/
theorem of (depth : Nat) : (v : Value) → Arranged false (Steps.of depth v)
  | .scalar s => by
    cases s with
    | null => exact .nil
    | _ => exact enter (.silent (.skip _) (fun _ => rfl) .nil)
  | .list .. | .tuple _ | .set _ | .map .. | .cycle .. | .rawText _ =>
    enter (.silent (.skip _) (fun _ => rfl) .nil)
  | .sequence items separator => enter (joined _ (.gap separator) items)
  | .literal text => enter (literal text)
  | .symbol tag => enter (.look tag)
  | .textRun text => enter (upright text)
  | .parenthesized inner l r => enter (delimited l r (of _ inner))
  | .subSup base sub sup => by
    have hsub := script_after (show "_" ∈ joints by simp [joints]) (by simp [cellMarks]) sub
      (grouped base (of (depth + 1) base)) (of (depth + 1) sub)
    have hsup := script_after (show "^" ∈ joints by simp [joints]) (by simp [cellMarks]) sup hsub
      (of (depth + 1) sup)
    rw [List.append_assoc] at hsup
    exact enter hsup
  | .unary operator operand => enter (unary _ operator (of _ operand))
  | .binary operator l r => enter (binary operator l (of _ l) (of _ r))
  | .matrix rows l r => enter (matrix l r (joinedRows _ rows))

theorem joined {table : Bool} (depth : Nat) {gap : Step}
    (hgap : ∀ {a b}, Arranged table a → Arranged table b → Arranged table (a ++ ([gap] ++ b))) :
    (items : List Value) → Arranged table (Steps.joined depth gap items)
  | [] => .nil
  | [item] => (of depth item).loosen nofun
  | item :: next :: items => by
    rw [Steps.joined_cons_cons]
    exact hgap ((of depth item).loosen nofun) (joined depth hgap (next :: items))

theorem joinedRows (depth : Nat) :
    (rows : List (Row Value)) → Arranged true (Steps.joinedRows depth rows)
  | [] => .nil
  | [⟨cells, _⟩] => joined depth (joint (by simp [joints]) fun _ => rfl) cells
  | ⟨cells, _⟩ :: next :: rows => by
    have hrow := joined depth (joint (show " & " ∈ joints by simp [joints]) fun _ => rfl) cells
    rw [Steps.joinedRows_cons_cons]
    exact joint (by simp [joints]) (fun _ => rfl) hrow (joinedRows depth (next :: rows))

end

end Arranged

def Step.fragment? (r : Renderer) : Step → Option String
  | look tag => some (r.table.resolve tag)
  | raw fragment => some fragment
  | _ => none

def Step.separator? (r : Renderer) : Step → Option String
  | gap separator => some (separator.getD r.settings.separator)
  | _ => none

def Step.content? : Step → Option String
  | content text => some text
  | _ => none

namespace Steps

/-- Fragments and separators nest by themselves, and no text of the tree has a backslash. -/
structure Contained (r : Renderer) (steps : List Step) : Prop where
  fragments : ∀ f ∈ steps.filterMap (Step.fragment? r), SelfContained f.toList
  separators : ∀ f ∈ steps.filterMap (Step.separator? r), SelfContained f.toList
  contents : ∀ t ∈ steps.filterMap Step.content?, '\\' ∉ t.toList

/-- No control word in a fragment is a bracket, and separators part what stands around them. -/
structure Plain (r : Renderer) (steps : List Step) : Prop where
  fragments : ∀ f ∈ steps.filterMap (Step.fragment? r), ∀ name ∈ controls (pieces f.toList),
    name ∉ bracketWords
  separators : ∀ f ∈ steps.filterMap (Step.separator? r),
    f ≠ "" ∧ ∀ c ∈ f.toList, c ≠ '\\' ∧ Accent.isLetter c = false

variable {r : Renderer} {a b : List Step}

theorem contained_append : Contained r (a ++ b) ↔ Contained r a ∧ Contained r b := by
  constructor
  · rintro ⟨hf, hs, ht⟩
    simp only [List.filterMap_append, List.forall_mem_append] at hf hs ht
    exact ⟨⟨hf.1, hs.1, ht.1⟩, ⟨hf.2, hs.2, ht.2⟩⟩
  · rintro ⟨ha, hb⟩
    constructor <;> simp only [List.filterMap_append, List.forall_mem_append]
    · exact ⟨ha.fragments, hb.fragments⟩
    · exact ⟨ha.separators, hb.separators⟩
    · exact ⟨ha.contents, hb.contents⟩

theorem Contained.of_part (h : Contained r b) (hpart : a <:+: b) : Contained r a where
  fragments f hf := h.fragments f ((hpart.filterMap _).subset hf)
  separators f hf := h.separators f ((hpart.filterMap _).subset hf)
  contents t ht := h.contents t ((hpart.filterMap _).subset ht)

theorem plain_append : Plain r (a ++ b) ↔ Plain r a ∧ Plain r b := by
  constructor
  · rintro ⟨hf, hs⟩
    simp only [List.filterMap_append, List.forall_mem_append] at hf hs
    exact ⟨⟨hf.1, hs.1⟩, ⟨hf.2, hs.2⟩⟩
  · rintro ⟨ha, hb⟩
    constructor <;> simp only [List.filterMap_append, List.forall_mem_append]
    · exact ⟨ha.fragments, hb.fragments⟩
    · exact ⟨ha.separators, hb.separators⟩

def written (r : Renderer) (steps : List Step) : List Char :=
  (text r steps).toList

@[simp] theorem written_nil : written r [] = [] := rfl

@[simp] theorem written_append : written r (a ++ b) = written r a ++ written r b := by
  simp [written, text_append]

@[simp] theorem written_cons (s : Step) (rest : List Step) :
    written r (s :: rest) = (s.text r).toList ++ written r rest := by
  simp [written, text]

theorem written_singleton (s : Step) : written r [s] = (s.text r).toList := by
  simp

end Steps

open Steps

variable {r : Renderer} {table : Bool} {steps : List Step}

theorem selfContained_joint {mark : String} (h : mark ∈ joints) : SelfContained mark.toList := by
  simp only [joints, List.mem_cons, List.not_mem_nil, or_false] at h
  rcases h with rfl | rfl | rfl | rfl | rfl | rfl | rfl <;> decide

namespace Enclosure

def opening : Enclosure → List Bracket
  | group => [.opening .group]
  | upright => [.opening .group]
  | fence => [.opening .fence]
  | matrix => [.opening (.environment "matrix".toList), .opening .group, .closing .group]

def closing : Enclosure → List Bracket
  | group => [.closing .group]
  | upright => [.closing .group]
  | fence => [.closing .fence]
  | matrix => [.closing (.environment "matrix".toList), .opening .group, .closing .group]

theorem nested (e : Enclosure) {word : List Bracket} (h : Nested word) :
    Nested (e.opening ++ (word ++ e.closing)) := by
  cases e with
  | group => exact h.enclosed .group
  | upright => exact h.enclosed .group
  | fence => exact h.enclosed .fence
  | matrix =>
    have hname : Nested [.opening .group, .closing .group] := rfl
    have henvironment := (hname.append h).enclosed (.environment "matrix".toList)
    simpa [opening, closing] using henvironment.append hname

theorem paired_opener (e : Enclosure) : Paired e.opener.toList := by
  cases e <;> decide

theorem paired_closer (e : Enclosure) : Paired e.closer.toList := by
  cases e <;> decide

theorem selfContained (e : Enclosure) {body : List Char} (h : SelfContained body) :
    SelfContained (e.opener.toList ++ (body ++ e.closer.toList)) := by
  refine ⟨e.paired_opener.append (h.1.append e.paired_closer), ?_⟩
  rw [pieces_append e.paired_opener, pieces_append h.1, braces_append, braces_append]
  cases e with
  | group => exact h.2.enclosed .group
  | upright => exact h.2.enclosed .group
  | fence => exact Nested.nil.append (h.2.append Nested.nil)
  | matrix =>
    have hname : Nested [.opening .group, .closing .group] := rfl
    exact hname.append (h.2.append hname)

end Enclosure

/-- What the steps write nests as soon as the texts nest that they take from elsewhere. -/
theorem Arranged.selfContained (hlegacy : r.settings.legacyAccents = false)
    (h : Arranged table steps)
    (hc : Contained r steps) : SelfContained (written r steps) := by
  induction h with
  | nil => exact .nil
  | silent s hs _ ih =>
    rw [written_append, written_singleton, hs]
    exact ih (contained_append.1 hc).2
  | look tag =>
    rw [written_singleton]
    exact hc.fragments (r.table.resolve tag) (by simp [Step.fragment?])
  | raw fragment =>
    rw [written_singleton]
    exact hc.fragments fragment (by simp [Step.fragment?])
  | content text =>
    have htext : '\\' ∉ text.toList := hc.contents text (by simp [Step.content?])
    simpa [Step.text, hlegacy] using selfContained_escape htext
  | joint hmark _ _ _ ihbefore ihafter =>
    obtain ⟨hbefore, h⟩ := contained_append.1 hc
    obtain ⟨-, hafter⟩ := contained_append.1 h
    simp only [written_append, written_singleton]
    exact (ihbefore hbefore).append ((selfContained_joint hmark).append (ihafter hafter))
  | gap separator _ _ ihbefore ihafter =>
    obtain ⟨hbefore, h⟩ := contained_append.1 hc
    obtain ⟨hgap, hafter⟩ := contained_append.1 h
    have hseparator := hgap.separators (separator.getD r.settings.separator)
      (by simp [Step.separator?])
    simp only [written_append, written_singleton]
    exact (ihbefore hbefore).append (hseparator.append (ihafter hafter))
  | enclosed e _ _ _ ihbefore ihbody ihafter =>
    obtain ⟨hbefore, h⟩ := contained_append.1 hc
    obtain ⟨-, h⟩ := contained_append.1 h
    obtain ⟨hbody, h⟩ := contained_append.1 h
    obtain ⟨-, hafter⟩ := contained_append.1 h
    have hpair := (e.selfContained (ihbody hbody)).append (ihafter hafter)
    simp only [List.append_assoc] at hpair
    simp only [written_append, written_singleton]
    exact (ihbefore hbefore).append hpair

theorem parts_joint {mark : String} (h : mark ∈ joints) : Parts (pieces mark.toList) [] := by
  simp only [joints, List.mem_cons, List.not_mem_nil, or_false] at h
  rcases h with rfl | rfl | rfl | rfl | rfl | rfl | rfl <;> exact ⟨fun _ => rfl, fun _ => rfl⟩

theorem Enclosure.parts_opener (e : Enclosure) : Parts (pieces e.opener.toList) e.opening := by
  cases e <;> exact ⟨fun _ => rfl, fun _ => rfl⟩

theorem Enclosure.parts_closer (e : Enclosure) : Parts (pieces e.closer.toList) e.closing := by
  cases e <;> exact ⟨fun _ => rfl, fun _ => rfl⟩

theorem Arranged.reads (hlegacy : r.settings.legacyAccents = false) (h : Arranged table steps)
    (hc : Contained r steps) (hp : Plain r steps) :
    ∃ word, ReadsAs (pieces (written r steps)) word ∧ Nested word := by
  -- What stands before a mark may end in a control word, so its brackets are only known before a
  -- text that begins with no letter. Every mark and every gap is such a text.
  induction h with
  | nil => exact ⟨[], .nil, .nil⟩
  | silent s hs _ ih =>
    rw [written_append, written_singleton, hs]
    exact ih (contained_append.1 hc).2 (plain_append.1 hp).2
  | look tag =>
    have hmem : r.table.resolve tag ∈ [Step.look tag].filterMap (Step.fragment? r) := by
      simp [Step.fragment?]
    rw [written_singleton]
    exact ⟨_, .of_controls (hp.fragments _ hmem), (hc.fragments _ hmem).2⟩
  | raw fragment =>
    have hmem : fragment ∈ [Step.raw fragment].filterMap (Step.fragment? r) := by
      simp [Step.fragment?]
    rw [written_singleton]
    exact ⟨_, .of_controls (hp.fragments _ hmem), (hc.fragments _ hmem).2⟩
  | content text =>
    have htext : '\\' ∉ text.toList := hc.contents text (by simp [Step.content?])
    have hwritten : written r [.content text] = escape text.toList := by
      simp [Step.text, hlegacy]
    rw [hwritten]
    exact ⟨_, .of_controls (controls_escape htext), (selfContained_escape htext).2⟩
  | joint hmark _ hbefore _ ihbefore ihafter =>
    simp only [contained_append, plain_append] at hc hp
    obtain ⟨u, hu, hnu⟩ := ihbefore hc.1 hp.1
    obtain ⟨w, hw, hnw⟩ := ihafter hc.2.2 hp.2.2
    have hpair := (hbefore.selfContained hlegacy hc.1).1
    simp only [written_append, written_singleton]
    exact ⟨_, hu.joint_pieces hpair (selfContained_joint hmark).1 (parts_joint hmark) hw,
      hnu.append hnw⟩
  | gap separator hbefore _ ihbefore ihafter =>
    simp only [contained_append, plain_append] at hc hp
    obtain ⟨u, hu, hnu⟩ := ihbefore hc.1 hp.1
    obtain ⟨w, hw, hnw⟩ := ihafter hc.2.2 hp.2.2
    have hmem : separator.getD r.settings.separator ∈
        [Step.gap separator].filterMap (Step.separator? r) := by
      simp [Step.separator?]
    obtain ⟨hne, hplain⟩ := hp.2.1.separators _ hmem
    have hgap := hc.2.1.separators _ hmem
    have hparts := Parts.of_plain (by simpa using hne) hplain
    have hpair := (hbefore.selfContained hlegacy hc.1).1
    simp only [written_append, written_singleton]
    exact ⟨_, hu.joint_pieces hpair hgap.1 hparts hw, hnu.append (hgap.2.append hnw)⟩
  | enclosed e hbefore hbody _ ihbefore ihbody ihafter =>
    simp only [contained_append, plain_append] at hc hp
    obtain ⟨u, hu, hnu⟩ := ihbefore hc.1 hp.1
    obtain ⟨v, hv, hnv⟩ := ihbody hc.2.2.1 hp.2.2.1
    obtain ⟨w, hw, hnw⟩ := ihafter hc.2.2.2.2 hp.2.2.2.2
    have hpairbefore := (hbefore.selfContained hlegacy hc.1).1
    have hpairbody := (hbody.selfContained hlegacy hc.2.2.1).1
    have hrest := hv.joint_pieces hpairbody e.paired_closer e.parts_closer hw
    have hnested := hnu.append ((e.nested hnv).append hnw)
    simp only [List.append_assoc] at hnested
    simp only [written_append, written_singleton]
    exact ⟨_, hu.joint_pieces hpairbefore e.paired_opener e.parts_opener hrest, hnested⟩

namespace Renderer

/-- A rendering without legacy accents, in which each fragment and each separator nests by itself
and no text has a backslash. Its braces nest. If no fragment has a control word that is a bracket
and each separator parts what stands around it, then braces, fences and environments nest
together. -/
theorem render_nested (r : Renderer) (tree : Value) (latex : String)
    (hlegacy : r.settings.legacyAccents = false) (h : (r.render tree).outcome = .ok latex)
    (hc : Contained r (Steps.of 0 tree)) :
    SelfContained latex.toList ∧
      (Plain r (Steps.of 0 tree) → Nested (brackets (pieces latex.toList))) := by
  have hlatex : latex.toList = written r (Steps.of 0 tree) := by
    rw [render_eq_draft] at h
    rw [eq_text_of_outcome h]
    rfl
  have harranged := Arranged.of 0 tree
  rw [hlatex]
  refine ⟨harranged.selfContained hlegacy hc, fun hp => ?_⟩
  obtain ⟨word, hreads, hnested⟩ := harranged.reads hlegacy hc hp
  have hword := hreads [] rfl
  simp only [List.append_nil, brackets] at hword
  rwa [hword]

theorem render_nested_frac :
    let latex := ("\\left ( \\frac\x7bx, \\text\x7b\\\x7b\\&\x7d\x7d" ++
      "\x7b\\text\x7bok\x7d\x7d \\right )").toList
    SelfContained latex ∧ Nested (brackets (pieces latex)) := by
  have h := render_nested (.ofSettings {})
    (.parenthesized (.binary (.symbol (some "frac"))
      (.sequence [.literal "x", .literal "\x7b&"] (some ", ")) (.textRun "ok"))
      (some (some "lparen")) (some (some "rparen"))) _ rfl rfl
    ⟨by decide, by decide, by decide⟩
  have hgap : ", " ≠ "" ∧ ∀ c ∈ ", ".toList, c ≠ '\\' ∧ Accent.isLetter c = false := by
    simp [Accent.isLetter]
  exact ⟨h.1, h.2 ⟨by decide, List.forall_mem_singleton.2 hgap⟩⟩

end Renderer

end FormulaTex
