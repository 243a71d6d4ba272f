import RegistryProxy.Proofs.Package.Merging

/-!
# Proofs/Package/Dangling — tags that point at nothing

Taking over an uplink's copy adds versions and removes none, and a tag ends up where one of the
packages has it.  So a tag that points at no version of the outcome pointed at none before: whoever
brought it did not have the version either (`dangling_before`).
-/

namespace RegistryProxy.Package

variable {here there p : Package} {theres : List Package} {tag version : String}
  {e : String × String}

theorem mem_danglingTags_iff :
    e ∈ p.danglingTags ↔ p.tags.find? e.1 = some e.2 ∧ p.versions.find? e.2 = none := by
  rw [danglingTags, List.mem_filter, Dict.find?_eq_some_iff, Dict.contains, Bool.not_eq_true',
    Option.isSome_eq_false_iff, Option.isNone_iff_eq_none]

/-- **A tag ends up where one of the packages has it.** -/
theorem find?_tags_merged (h : Merged here theres p) (htag : p.tags.find? tag = some version) :
    ∃ q ∈ here :: theres, q.tags.find? tag = some version := by
  induction h using Merged.merge_induction with
  | start => exact ⟨here, List.mem_singleton_self here, htag⟩
  | @take theres p there _ ih =>
    rw [find?_tags_merge] at htag
    rw [← List.cons_append]
    rcases movedTag_cases (p.tags.find? tag) (there.tags.find? tag) with
      ⟨hstays, -⟩ | ⟨offered, hoffered, -, hmoved⟩
    · obtain ⟨q, hq, hfound⟩ := ih (hstays.symm.trans htag)
      exact ⟨q, List.mem_append_left _ hq, hfound⟩
    · exact ⟨there, by simp, hoffered.trans (hmoved.symm.trans htag)⟩

/-- **A version is missing in the end if no package has it.** -/
theorem find?_versions_merged_eq_none_iff (h : Merged here theres p) :
    p.versions.find? version = none ↔ ∀ q ∈ here :: theres, q.versions.find? version = none := by
  rw [find?_versions_merged h, List.findSome?_eq_none_iff]

/-- **Merging creates no dangling tag.**  Whatever copies are taken over, one after the other, a tag
that points at no version of the outcome is found in one of the packages, where it points at no
version either; so if no package has such a tag, neither has the outcome. -/
theorem dangling_before (h : Merged here theres p) :
    (∀ e ∈ p.danglingTags, ∃ q ∈ here :: theres, e ∈ q.danglingTags) ∧
      ((∀ q ∈ here :: theres, q.danglingTags = []) → p.danglingTags = []) := by
  have hbefore : ∀ e ∈ p.danglingTags, ∃ q ∈ here :: theres, e ∈ q.danglingTags := by
    intro e he
    obtain ⟨htag, hmissing⟩ := mem_danglingTags_iff.1 he
    obtain ⟨q, hq, hfound⟩ := find?_tags_merged h htag
    have hnone := (find?_versions_merged_eq_none_iff h).1 hmissing q hq
    exact ⟨q, hq, mem_danglingTags_iff.2 ⟨hfound, hnone⟩⟩
  refine ⟨hbefore, fun hsound => List.eq_nil_iff_forall_not_mem.2 fun e he => ?_⟩
  obtain ⟨q, hq, hdangling⟩ := hbefore e he
  rw [hsound q hq] at hdangling
  exact List.not_mem_nil hdangling

/-- A package with a tag that points at nothing. -/
def awaiting : Package := ((latestAt "1.1.0").withVersion "1.1.0").withTag "next" "2.0.0"

/-- A copy with the version that is missing. -/
def supplying : Package := ((latestAt "1.0.0").withVersion "1.0.0").withVersion "2.0.0"

/-- A copy with a tag that points at nothing. -/
def promising : Package := withTag { name := "pkg" } "beta" "3.0.0"

/-- Here `next` points at nothing until a copy brings its version; that copy offers an older
`latest`, which is refused.  The tag that the last copy brings has no version. -/
theorem dangling_before_beta :
    ∃ p, Merged awaiting [supplying, promising] p ∧
      awaiting.danglingTags = [("next", "2.0.0")] ∧ p.danglingTags = [("beta", "3.0.0")] ∧
      p.latestTag = awaiting.latestTag ∧
      ∃ q ∈ [awaiting, supplying, promising], ("beta", "3.0.0") ∈ q.danglingTags := by
  have hmerged : Merged awaiting [supplying, promising]
      ([supplying, promising].foldl merge awaiting) := merged_iff.2 rfl
  have hleft : ([supplying, promising].foldl merge awaiting).danglingTags =
      [("beta", "3.0.0")] := by
    decide +kernel
  refine ⟨_, hmerged, by decide +kernel, hleft, by decide +kernel, ?_⟩
  exact (dangling_before hmerged).1 _ (hleft ▸ List.mem_singleton_self _)

end RegistryProxy.Package
