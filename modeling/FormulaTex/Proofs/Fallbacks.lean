import FormulaTex.Layout
import FormulaTex.Proofs.Mentions
import Mathlib.Data.List.TakeWhile

/-!
# Sentences about unknown symbols

The event of a symbol that no table knows carries its tag, and its sentence says how the symbol is
spelled. The spelling is found elsewhere: the sentence makes it up from the tag once more. So it is
the fragment that stands in the output for every tag but the empty one, which counts as no tag at
all where the sentence is made, and as a name like any other where the fragment is. A walk that
fails has made the remarks on the steps before its fault.
-/

namespace FormulaTex

open Diagnostics

namespace Steps

variable {r : Renderer} {steps : List Step}

/-- The steps that a walk of at most `limit` levels takes: those before its first fault. -/
def taken (limit : Nat) (steps : List Step) : List Step :=
  steps.takeWhile fun s => (s.fault? limit).isNone

theorem notes_of_fault {s : Step} {limit : Nat} {fault : RenderFault}
    (h : s.fault? limit = some fault) : s.notes r = [] := by
  cases s with
  | look tag => cases h
  | skip typeName => cases h
  | _ => rfl

/-- A walk makes the notes of the steps that it takes, also if it fails in the end. -/
theorem notes_draft_taken (r : Renderer) (steps : List Step) :
    (draft r steps).notes = (taken r.settings.maxDepth steps).flatMap (Step.notes r) := by
  induction steps with
  | nil => rfl
  | cons s rest ih =>
    cases hs : s.fault? r.settings.maxDepth with
    | some fault =>
      -- A step that fails makes no note, so the notes are those of the steps before it.
      have hnone : (s.draft r).notes = [] := notes_of_fault hs
      rw [taken, List.takeWhile_cons_of_neg (by simp [hs]), List.flatMap_nil, ← hnone]
      simp only [draft, Draft.append_def, Draft.append, Step.draft, hs]
    | none =>
      rw [taken, List.takeWhile_cons_of_pos (by simp [hs]), ← taken, List.flatMap_cons, ← ih]
      simp only [draft, Draft.append_def, Draft.append, Step.draft, hs]

theorem taken_of_ok {latex : String} (h : (draft r steps).outcome = .ok latex) :
    taken r.settings.maxDepth steps = steps := by
  rw [outcome_draft] at h
  split at h
  · cases h
  · next hnone =>
    apply List.takeWhile_eq_self_iff.mpr
    intro s hs
    exact Option.isNone_iff_eq_none.mpr (List.findSome?_eq_none_iff.mp hnone s hs)

/-- What each step writes, with what it mentions. -/
def trace (r : Renderer) (steps : List Step) : List (String × Option Mention) :=
  steps.map fun s => (s.text r, s.mention?)

theorem filterMap_trace (r : Renderer) (steps : List Step) :
    (trace r steps).filterMap (·.2) = mentions steps := by
  rw [trace, List.filterMap_map]
  rfl

theorem join_trace (r : Renderer) (steps : List Step) :
    String.join ((trace r steps).map (·.1)) = text r steps := by
  rw [text_eq_join, trace, List.map_map]
  rfl

theorem fst_of_mem_trace {piece : String × Option Mention} (hpiece : piece ∈ trace r steps)
    {m : Mention} (hm : piece.2 = some m) : piece.1 = m.fragment r := by
  obtain ⟨s, -, rfl⟩ := List.mem_map.mp hpiece
  exact Step.text_of_mention? hm

end Steps

/-- What a sentence should say of a tag that is not known and the fragment that stands for it. -/
def fallbackSentence (tag fragment : String) : String :=
  "Unknown symbol '" ++ tag ++ "' rendered as " ++ fragment

namespace Mention

/-- Only a tag with a name has an event, and the macro of this name stands for it. -/
theorem of_event {r : Renderer} {m : Mention} {name : String} {payload : List (Scalar × Value)}
    (h : m.remark? r.table = some (.event name payload)) :
    ∃ tag, m = .tag (some tag) ∧ m.fragment r = "\\" ++ tag ∧
      name = fallbackName ∧ payload = [(.str "tag", .str tag)] := by
  unfold remark? at h
  split at h
  · next tag =>
    split_ifs at h with hknown
    cases h
    have hunknown : r.table.isKnown (some tag) = false := by
      rw [← Bool.not_eq_true, SymbolTable.isKnown_iff]
      exact fun hfragment => hknown (.inr hfragment)
    exact ⟨tag, rfl, SymbolTable.resolve_of_not_isKnown hunknown, rfl, rfl⟩
  · cases h
  · cases h

end Mention

namespace Diagnostics

def shownTag (tag : String) : String :=
  if tag = "" then "<unknown>" else tag

theorem eventMessage?_fallback (tag : String) :
    eventMessage? fallbackName [(.str "tag", .str tag)] =
      some (fallbackSentence (shownTag tag) ("\\" ++ shownTag tag)) := by
  have htag : payloadTag [(.str "tag", .str tag)] = shownTag tag := by
    simp [payloadTag, field?, Value.isFalsy, Value.toText, Scalar.toText, shownTag]
  have hmacro : "' rendered as \\" = "' rendered as " ++ "\\" := by decide +kernel
  have hassoc : ∀ a b c d : String, a ++ (b ++ c) ++ d = a ++ b ++ (c ++ d) := by
    intro a b c d
    simp only [String.append_assoc]
  calc eventMessage? fallbackName [(.str "tag", .str tag)]
      = some ("Unknown symbol '" ++ shownTag tag ++ "' rendered as \\" ++ shownTag tag) := by
        simp only [eventMessage?, if_true, htag]
    _ = some ("Unknown symbol '" ++ shownTag tag ++ ("' rendered as " ++ "\\") ++ shownTag tag) :=
        congrArg (fun mark => some ("Unknown symbol '" ++ shownTag tag ++ mark ++ shownTag tag))
          hmacro
    _ = some (fallbackSentence (shownTag tag) ("\\" ++ shownTag tag)) :=
        congrArg some (hassoc _ _ _ _)

/-- The sentence tells the truth about every tag that has a character. -/
theorem eventMessage?_eq_sentence_iff (tag : String) :
    eventMessage? fallbackName [(.str "tag", .str tag)] =
      some (fallbackSentence tag ("\\" ++ tag)) ↔ tag ≠ "" := by
  rw [eventMessage?_fallback]
  constructor
  · rintro h rfl
    have hsentence : fallbackSentence "<unknown>" ("\\" ++ "<unknown>") ≠
        fallbackSentence "" ("\\" ++ "") := by decide +kernel
    exact hsentence (Option.some.inj h)
  · intro hne
    rw [shownTag, if_neg hne]

end Diagnostics

namespace Renderer

theorem run_symbol (r : Renderer) (tag : Tag) (p : Pass) :
    (r.symbol tag).run p =
      .ok ((), ⟨p.text ++ r.table.resolve tag, p.notes ++ (r.note? tag).toList, p.depth⟩) := by
  rw [Follows.symbol r p.depth tag p rfl, Steps.draft_singleton]
  rfl

/-- The events of a rendering belong to its lookups, of which each leaves a piece of the text, also
if the rendering fails later on. The piece is the macro of the tag, and the sentence of the event
names the tag and this piece, unless the tag is empty. Then it names an unknown tag and a macro
that is not the piece. -/
theorem render_fallbacks (r : Renderer) (tree : Value) :
    (∀ (tag : Tag) (p : Pass), (r.symbol tag).run p =
      .ok ((), ⟨p.text ++ r.table.resolve tag, p.notes ++ (r.note? tag).toList, p.depth⟩)) ∧
    ∃ pieces : List (String × Option Mention),
      pieces.filterMap (·.2) <+: tree.mentions ∧
      (∀ piece ∈ pieces, ∀ m, piece.2 = some m → piece.1 = m.fragment r) ∧
      (r.render tree).notes.map Remark.ofNote =
        (pieces.filterMap (·.2)).filterMap (Mention.remark? r.table) ∧
      (∀ latex, (r.render tree).outcome = .ok latex →
        latex = String.join (pieces.map (·.1)) ∧ pieces.filterMap (·.2) = tree.mentions) ∧
      ∀ piece ∈ pieces, ∀ name payload,
        piece.2.bind (Mention.remark? r.table) = some (.event name payload) →
          ∃ tag, piece = ("\\" ++ tag, some (.tag (some tag))) ∧
            eventMessage? name payload =
              some (fallbackSentence (shownTag tag) ("\\" ++ shownTag tag)) ∧
            (eventMessage? name payload = some (fallbackSentence tag piece.1) ↔ tag ≠ "") := by
  refine ⟨r.run_symbol, ?_⟩
  rw [render_eq_draft]
  refine ⟨Steps.trace r (Steps.taken r.settings.maxDepth (Steps.of 0 tree)), ?_,
    fun _ hpiece _ hm => Steps.fst_of_mem_trace hpiece hm, ?_, ?_, ?_⟩
  · rw [Steps.filterMap_trace, ← Steps.mentions_of 0 tree]
    exact (List.takeWhile_prefix _).filterMap _
  · rw [Steps.filterMap_trace, Steps.notes_draft_taken, Steps.map_ofNote_notes]
  · intro latex h
    rw [Steps.taken_of_ok h, Steps.filterMap_trace, Steps.join_trace, Steps.mentions_of]
    exact ⟨Steps.eq_text_of_outcome h, rfl⟩
  · rintro ⟨text, mention⟩ hpiece name payload hevent
    obtain ⟨m, rfl, hremark⟩ := Option.bind_eq_some_iff.mp hevent
    obtain ⟨tag, rfl, hmacro, rfl, rfl⟩ := Mention.of_event hremark
    obtain rfl : text = "\\" ++ tag := (Steps.fst_of_mem_trace hpiece rfl).trans hmacro
    exact ⟨tag, rfl, eventMessage?_fallback tag, eventMessage?_eq_sentence_iff tag⟩

/-- The loader accepts a symbol with an empty tag, and the sentence about it is not true. -/
theorem not_eventMessage_truthful :
    ¬ ∀ (data tree : Value) (settings : Settings) (tag : String),
      Layout.read data = .ok tree →
        .fallback tag ∈ ((ofSettings settings).render tree).notes →
          eventMessage? "symbol_fallback" [(.str "tag", .str tag)] =
            some (fallbackSentence tag ((ofSettings settings).table.resolve (some tag))) := by
  intro h
  have hread : Layout.read (.map none [(.str "symbol", .str "")]) = .ok (.symbol (some "")) := rfl
  have hnotes : .fallback "" ∈ ((ofSettings {}).render (.symbol (some ""))).notes := by decide
  exact (eventMessage?_eq_sentence_iff "").mp (h _ _ {} "" hread hnotes) rfl

end Renderer

end FormulaTex
