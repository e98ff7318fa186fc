import FormulaTex.Proofs.Places
import Mathlib.Data.List.Perm.Basic

/-!
# The order of keys

Keys that can all be compared with each other are sorted, and sorting loses none of them. Keys
without an order can be met at any point, since the sort compares only those pairs that it needs.
-/

namespace FormulaTex

namespace KeyOrder

open Layout

def comparable (a b : Scalar) : Bool :=
  match a.less b with
  | .ok _ => true
  | .error _ => false

theorem exists_less {a b : Scalar} (h : comparable a b = true) : ∃ less, a.less b = .ok less := by
  unfold comparable at h
  split at h
  · rename_i less hless
    exact ⟨less, hless⟩
  · cases h

variable {descending : Bool} {last key : Scalar} {keys run rest result : List Scalar}
variable {sorted array : Array Scalar} {steps low high i : Nat}

theorem append_of_takeRun (h : takeRun descending last keys = .ok (run, rest)) :
    run ++ rest = keys := by
  induction keys generalizing last run with
  | nil =>
    cases h
    rfl
  | cons key keys ih =>
    rw [takeRun] at h
    obtain ⟨less, -, h⟩ := bind_eq_ok.mp h
    split_ifs at h
    · obtain ⟨⟨more, left⟩, hmore, h⟩ := bind_eq_ok.mp h
      cases h
      rw [List.cons_append, ih hmore]
    · cases h
      rfl

theorem le_of_place (hbounds : low ≤ high) (h : place sorted key steps low high = .ok i) :
    i ≤ high := by
  induction steps generalizing low high with
  | zero =>
    cases h
    exact hbounds
  | succ steps ih =>
    rw [place] at h
    split_ifs at h with hempty
    · cases h
      exact hbounds
    · dsimp only at h
      split at h
      · cases h
        exact hbounds
      · obtain ⟨less, -, h⟩ := bind_eq_ok.mp h
        split_ifs at h
        · have := ih (by omega) h
          omega
        · exact ih (by omega) h

theorem perm_of_insertAll (h : insertAll sorted keys = .ok array) :
    array.toList.Perm (keys ++ sorted.toList) := by
  induction keys generalizing sorted with
  | nil =>
    cases h
    exact .refl _
  | cons key keys ih =>
    rw [insertAll] at h
    obtain ⟨i, hi, h⟩ := bind_eq_ok.mp h
    have hplace : i ≤ sorted.toList.length := le_of_place (Nat.zero_le _) hi
    have hinsert : (sorted.toList.insertIdx i key).Perm (key :: sorted.toList) :=
      List.perm_insertIdx key sorted.toList hplace
    exact (ih h).trans ((hinsert.append_left keys).trans List.perm_middle)

theorem perm_of_sort (h : sort keys = .ok result) : result.Perm keys := by
  unfold sort at h
  split at h
  · cases h
    exact .refl _
  · cases h
    exact .refl _
  · rename_i first second keys
    simp only [bind_eq_ok] at h
    obtain ⟨descending, -, ⟨run, rest⟩, hrun, array, harray, h⟩ := h
    cases h
    have hstart : (if descending then (first :: second :: run).reverse
        else first :: second :: run).Perm (first :: second :: run) := by
      split_ifs
      · exact List.reverse_perm _
      · exact .refl _
    have hkept := (perm_of_insertAll harray).trans (hstart.append_left rest)
    rw [← append_of_takeRun hrun]
    exact hkept.trans List.perm_append_comm

section

variable {p : Scalar → Prop} (hp : ∀ a b, p a → p b → comparable a b = true)
include hp

theorem exists_takeRun (hlast : p last) (hkeys : ∀ key ∈ keys, p key) :
    ∃ parts, takeRun descending last keys = .ok parts := by
  induction keys generalizing last with
  | nil => exact ⟨_, rfl⟩
  | cons key keys ih =>
    obtain ⟨hkey, hkeys⟩ := List.forall_mem_cons.mp hkeys
    obtain ⟨less, hless⟩ := exists_less (hp key last hkey hlast)
    obtain ⟨parts, hparts⟩ := ih hkey hkeys
    rw [takeRun, hless]
    by_cases hrun : less = descending
    · exact ⟨_, by simp [hrun, hparts, Bind.bind, Except.bind]; rfl⟩
    · exact ⟨_, by simp [hrun, Bind.bind, Except.bind]; rfl⟩

theorem exists_place (hsorted : ∀ other ∈ sorted.toList, p other) (hkey : p key)
    (steps low high : Nat) : ∃ i, place sorted key steps low high = .ok i := by
  induction steps generalizing low high with
  | zero => exact ⟨low, rfl⟩
  | succ steps ih =>
    rw [place]
    split_ifs
    · exact ⟨low, rfl⟩
    · dsimp only
      split
      · exact ⟨low, rfl⟩
      · rename_i other hother
        have hmem : other ∈ sorted.toList := by
          obtain ⟨hbound, rfl⟩ := Array.getElem?_eq_some_iff.mp hother
          simp
        obtain ⟨less, hless⟩ := exists_less (hp key other hkey (hsorted other hmem))
        cases less with
        | true => simpa [hless, Bind.bind, Except.bind] using ih _ _
        | false => simpa [hless, Bind.bind, Except.bind] using ih _ _

theorem exists_insertAll (hsorted : ∀ other ∈ sorted.toList, p other)
    (hkeys : ∀ key ∈ keys, p key) : ∃ array, insertAll sorted keys = .ok array := by
  induction keys generalizing sorted with
  | nil => exact ⟨sorted, rfl⟩
  | cons key keys ih =>
    obtain ⟨hkey, hkeys⟩ := List.forall_mem_cons.mp hkeys
    obtain ⟨i, hi⟩ := exists_place hp hsorted hkey (sorted.size + 1) 0 sorted.size
    have hinserted : ∀ other ∈ (sorted.toList.insertIdx i key).toArray.toList, p other := by
      intro other hmem
      obtain rfl | hmem := List.eq_or_mem_of_mem_insertIdx hmem
      · exact hkey
      · exact hsorted other hmem
    obtain ⟨array, harray⟩ := ih hinserted hkeys
    exact ⟨array, by rw [insertAll, hi]; exact harray⟩

theorem exists_sort (hkeys : ∀ key ∈ keys, p key) : ∃ result, sort keys = .ok result := by
  unfold sort
  split
  · exact ⟨[], rfl⟩
  · rename_i key
    exact ⟨[key], rfl⟩
  · rename_i first second keys
    obtain ⟨hfirst, hkeys⟩ := List.forall_mem_cons.mp hkeys
    obtain ⟨hsecond, hkeys⟩ := List.forall_mem_cons.mp hkeys
    obtain ⟨descending, hless⟩ := exists_less (hp second first hsecond hfirst)
    obtain ⟨⟨run, rest⟩, hrun⟩ : ∃ parts, takeRun descending second keys = .ok parts :=
      exists_takeRun hp hsecond hkeys
    rw [← append_of_takeRun hrun, List.forall_mem_append] at hkeys
    have hstart : ∀ key ∈ (if descending then (first :: second :: run).reverse
        else first :: second :: run).toArray.toList, p key := by
      intro key hkey
      have hmem : key ∈ first :: second :: run := by
        split_ifs at hkey
        · exact List.mem_reverse.mp hkey
        · exact hkey
      simp only [List.mem_cons] at hmem
      obtain rfl | rfl | hmem := hmem
      · exact hfirst
      · exact hsecond
      · exact hkeys.1 key hmem
    obtain ⟨array, harray⟩ := exists_insertAll hp hstart hkeys.2
    refine ⟨array.toList, ?_⟩
    simp only [bind_eq_ok]
    exact ⟨descending, hless, ⟨run, rest⟩, hrun, array, harray, rfl⟩

end

end KeyOrder

end FormulaTex
