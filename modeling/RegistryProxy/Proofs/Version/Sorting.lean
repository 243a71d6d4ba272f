import Mathlib.Data.List.Basic
import Mathlib.Data.String.Basic
import RegistryProxy.Proofs.Version.Precedence

/-!
# Proofs/Version/Sorting — there is one sorted list

A list is sorted by precedence and by spelling where precedence does not decide (`Before`).  Two
texts that stand before each other are one text, also when another text spells the same version, so
the texts that spell versions have one sorted list (`eq_sort_iff`).  That list is what is computed,
in whatever order they come in (`sort_canonical`).
-/

namespace RegistryProxy.Version

variable {a b : String} {l texts texts' : List String}

/-! ## The order of a sorted list -/

/-- **What may stand before what in a sorted list**: a version of lower precedence, or one of equal
precedence that is not behind in the order of texts. -/
def Before (a b : String) : Prop :=
  ∃ v ∈ parse? a, ∃ w ∈ parse? b, compare v w = .lt ∨ compare v w = .eq ∧ a ≤ b
deriving Decidable

instance : Std.TransCmp compareSpelled := by
  have hversion : Std.TransCmp fun a b : Version × String => compare a.1 b.1 := {
    eq_swap := @fun _ _ => @Std.OrientedCmp.eq_swap _ compare _ _ _
    isLE_trans := @fun _ _ _ => @Std.TransCmp.isLE_trans _ compare _ _ _ _ }
  exact inferInstanceAs (Std.TransCmp (compareLex _ (compareOn Prod.snd)))

theorem compareSpelled_isLE_iff {v w : Version} : (compareSpelled (v, a) (w, b)).isLE = true ↔
    compare v w = .lt ∨ compare v w = .eq ∧ a ≤ b := by
  rw [compareSpelled, Ordering.isLE_then_iff_or]
  exact or_congr_right (and_congr_right' Std.LawfulBCmp.isLE_iff_le)

/-- **Only a text itself stands both before and behind it.** -/
theorem Before.antisymm (hab : Before a b) (hba : Before b a) : a = b := by
  obtain ⟨v, hv, w, hw, hvw⟩ := hab
  obtain ⟨w', hw', v', hv', hwv⟩ := hba
  obtain rfl : w = w' := Option.some.inj (hw.symm.trans hw')
  obtain rfl : v = v' := Option.some.inj (hv.symm.trans hv')
  have hswap : compare w v = (compare v w).swap := Std.OrientedCmp.eq_swap
  rcases hvw with hlt | ⟨heq, hle⟩
  · simp [hswap, hlt] at hwv
  · have hge : b ≤ a := by simpa [hswap, heq] using hwv
    exact String.le_antisymm hle hge

/-! ## The sorted list -/

/-- Whether a text spells a version. -/
def isVersion (s : String) : Bool := (parse? s).isSome

/-- The texts that are sorted, each with the version it spells. -/
def spelled (texts : List String) : List (Version × String) :=
  texts.filterMap fun s => (parse? s).map fun v => (v, s)

theorem parse?_of_mem_spelled {e : Version × String} (h : e ∈ spelled texts) :
    parse? e.2 = some e.1 := by
  obtain ⟨s, -, he⟩ := List.mem_filterMap.1 h
  obtain ⟨v, hv, rfl⟩ := Option.map_eq_some_iff.1 he
  exact hv

theorem map_snd_spelled (texts : List String) :
    (spelled texts).map Prod.snd = texts.filter isVersion := by
  rw [spelled, List.map_filterMap, ← List.filterMap_eq_filter]
  refine List.filterMap_congr fun s _ => ?_
  cases h : parse? s <;> simp [isVersion, Option.guard, h]

/-- **The versions are all there**, each as often as it came. -/
theorem sort_perm (texts : List String) : (sort texts).Perm (texts.filter isVersion) := by
  rw [← map_snd_spelled]
  exact (List.mergeSort_perm _ _).map _

/-- **The versions are in order.** -/
theorem sort_pairwise (texts : List String) : (sort texts).Pairwise Before := by
  have hne (o : Ordering) : (o != .gt) = o.isLE := by cases o <;> rfl
  have hsorted : ((spelled texts).mergeSort fun a b => compareSpelled a b != .gt).Pairwise
      fun a b => (compareSpelled a b).isLE = true := by
    simp only [hne]
    refine List.pairwise_mergeSort (fun a b c => Std.TransCmp.isLE_trans) (fun a b => ?_) _
    rw [@Std.OrientedCmp.eq_swap _ compareSpelled _ b a]
    cases compareSpelled a b <;> rfl
  refine List.pairwise_map.2 (hsorted.imp_of_mem fun {e e'} he he' hle => ?_)
  exact ⟨e.1, parse?_of_mem_spelled (List.mem_mergeSort.1 he), e'.1,
    parse?_of_mem_spelled (List.mem_mergeSort.1 he'), compareSpelled_isLE_iff.1 hle⟩

/-- **There is one sorted list.** -/
theorem eq_sort_iff : l = sort texts ↔ l.Perm (texts.filter isVersion) ∧ l.Pairwise Before := by
  constructor
  · rintro rfl
    exact ⟨sort_perm texts, sort_pairwise texts⟩
  · rintro ⟨hperm, hsorted⟩
    exact List.Perm.eq_of_pairwise (fun _ _ _ _ => Before.antisymm) hsorted (sort_pairwise texts)
      (hperm.trans (sort_perm texts).symm)

/-- Two lists are sorted alike if and only if the same versions are in them. -/
theorem sort_eq_sort_iff :
    sort texts = sort texts' ↔ (texts.filter isVersion).Perm (texts'.filter isVersion) := by
  rw [eq_sort_iff, and_iff_left (sort_pairwise texts)]
  exact ⟨(sort_perm texts).symm.trans, (sort_perm texts).trans⟩

/-- **Versions are put into one order.**  What comes out of any list of texts are those that spell
versions, as they are spelled and as often as they came; what stands earlier is never of greater
precedence, and texts of equal precedence are in the order of texts; no other list has these two
properties, and so the order in which the texts come in does not matter. -/
theorem sort_canonical (texts : List String) :
    (∀ s, (sort texts).count s = if isVersion s then texts.count s else 0) ∧
      (sort texts).Pairwise Before ∧
      (∀ l, l.Perm (texts.filter isVersion) → l.Pairwise Before → l = sort texts) ∧
      ∀ texts', texts.Perm texts' → sort texts = sort texts' := by
  refine ⟨fun s => ?_, sort_pairwise texts, fun l hperm hsorted => ?_, fun texts' hperm => ?_⟩
  · rw [(sort_perm texts).count_eq]
    split
    · next h => exact List.count_filter h
    · next h => exact List.count_eq_zero.2 fun hmem => h (List.mem_filter.1 hmem).2
  · exact eq_sort_iff.2 ⟨hperm, hsorted⟩
  · exact sort_eq_sort_iff.2 (hperm.filter _)

/-- Builds of one release and candidates for it, among what is no version, in two orders. -/
theorem sort_canonical_builds :
    sort ["1.0.0+b", "next", "v1.0.0", "1.0.0-rc.10", "1.0.0+b", "1.0.0-rc.9"] =
        ["1.0.0-rc.9", "1.0.0-rc.10", "1.0.0+b", "1.0.0+b", "v1.0.0"] ∧
      sort ["1.0.0-rc.10", "1.0.0+b", "v1.0.0", "1.0.0-rc.9", "1.0.0+b", "next"] =
        ["1.0.0-rc.9", "1.0.0-rc.10", "1.0.0+b", "1.0.0+b", "v1.0.0"] := by
  obtain ⟨-, -, hunique, hany⟩ := sort_canonical
    ["1.0.0+b", "next", "v1.0.0", "1.0.0-rc.10", "1.0.0+b", "1.0.0-rc.9"]
  have hsort := hunique ["1.0.0-rc.9", "1.0.0-rc.10", "1.0.0+b", "1.0.0+b", "v1.0.0"]
    (by decide +kernel) (by decide +kernel)
  exact ⟨hsort.symm, (hany _ (by decide)).symm.trans hsort.symm⟩

end RegistryProxy.Version
