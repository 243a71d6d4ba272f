import RegistryProxy.Proofs.Package.Merging

/-!
# Proofs/Package/Latest — the readme belongs to what `latest` points at

A merge either takes over what `latest` points at together with its readme, or leaves both as they
are (`latestPair_merge`).  So along any sequence of merges the two come from one package: from the
last copy that was in the lead when it was merged, and without such a copy from the package that was
here (`readme_of_leader`).
-/

namespace RegistryProxy.Package

variable {here there p : Package} {theres before later : List Package}

/-- What `latest` points at, and the readme. -/
def latestPair (p : Package) : Option String × Option String := (p.latestTag, p.readme)

/-! ## One merge -/

/-- **A merge takes over the pair or leaves it.** -/
theorem latestPair_merge (here there : Package) : (here.merge there).latestPair =
    if (here.merge there).latestTag = there.latestTag ∧ there.latestTag.isSome then
      there.latestPair
    else here.latestPair := by
  have hmoved : (here.merge there).latestTag = movedTag here.latestTag there.latestTag :=
    find?_tags_merge ..
  rw [latestPair, readme_merge]
  split
  · next hleads => rw [hleads.1, latestPair]
  · next hnot =>
    rw [latestPair]
    rcases movedTag_cases here.latestTag there.latestTag with
      ⟨hstays, -⟩ | ⟨offered, hoffered, -, hmoves⟩
    · rw [hmoved, hstays]
    · exact absurd ⟨hmoved.trans (hmoves.trans hoffered.symm), hoffered ▸ rfl⟩ hnot

/-! ## One merge after the other -/

/-- **A copy is in the lead**: merged in behind others, it has what `latest` points at right
after. -/
def Leads (here : Package) (before : List Package) (there : Package) : Prop :=
  ∃ p, Merged here (before ++ [there]) p ∧ p.latestTag = there.latestTag ∧ there.latestTag.isSome

/-- None of the copies that are merged in behind others is in the lead. -/
def NoneLeads (here : Package) (before later : List Package) : Prop :=
  ∀ between next rest, later = between ++ next :: rest → ¬ Leads here (before ++ between) next

theorem Merged.leads_iff (h : Merged here theres p) (there : Package) : Leads here theres there ↔
    (p.merge there).latestTag = there.latestTag ∧ there.latestTag.isSome := by
  constructor
  · rintro ⟨q, hmerged, hleads⟩
    rwa [(h.concat there).unique hmerged] at hleads
  · exact fun hleads => ⟨_, h.concat there, hleads⟩

theorem noneLeads_nil (here : Package) (before : List Package) : NoneLeads here before [] := by
  intro between next rest hnil
  simp at hnil

/-- One more copy that is not in the lead. -/
theorem NoneLeads.concat (h : NoneLeads here before later)
    (hthere : ¬ Leads here (before ++ later) there) : NoneLeads here before (later ++ [there]) := by
  intro between next rest heq
  rcases List.eq_nil_or_concat rest with rfl | ⟨rest, last, rfl⟩
  · obtain ⟨rfl, hnext⟩ := List.append_inj' heq rfl
    obtain rfl := List.singleton_inj.1 hnext
    exact hthere
  · have hinit : later ++ [there] = (between ++ next :: rest) ++ [last] := by simpa using heq
    exact h between next rest (List.append_inj' hinit rfl).1

/-- **The readme belongs to what `latest` points at.**  Whatever copies are merged in, one after the
other, `latest` and the readme are in the end as one package has them: the last copy that was in the
lead when it was merged in, and if none ever was, the package that was here.  The order in which
tags are gone through does not matter. -/
theorem readme_of_leader (h : Merged here theres p) :
    ((∃ earlier there later, theres = earlier ++ there :: later ∧ Leads here earlier there ∧
        NoneLeads here (earlier ++ [there]) later ∧ p.latestPair = there.latestPair) ∨
      NoneLeads here [] theres ∧ p.latestPair = here.latestPair) ∧
      ∀ q, Merged here theres q → q.latestPair = p.latestPair := by
  refine ⟨?_, fun q h' => by rw [h.unique h']⟩
  induction h using Merged.merge_induction with
  | start => exact .inr ⟨noneLeads_nil _ _, rfl⟩
  | @take theres p there hmerged ih =>
    rw [latestPair_merge]
    split
    · next hlead =>
      exact .inl ⟨theres, there, [], rfl, (hmerged.leads_iff there).2 hlead, noneLeads_nil _ _, rfl⟩
    · next hnot =>
      have hthere : ¬ Leads here theres there := mt (hmerged.leads_iff there).1 hnot
      rcases ih with ⟨earlier, leader, later, rfl, hleads, hnone, hpair⟩ | ⟨hnone, hpair⟩
      · refine .inl ⟨earlier, leader, later ++ [there], ?_, hleads, hnone.concat ?_, hpair⟩
        · simp
        · simpa using hthere
      · exact .inr ⟨hnone.concat hthere, hpair⟩

/-- A copy of a package, whose readme tells it from the others. -/
def copyOf (readme version : String) : Package :=
  { latestAt version with readme := some readme }

/-- A copy without the tag. -/
def untagged : Package := { name := "pkg", readme := some "d" }

/-- The copies that come in, one after the other. -/
def copies : List Package :=
  [copyOf "a" "1.1.0", copyOf "b" "1.1.0-rc.1", copyOf "c" "stable", untagged]

/-- One copy takes the lead; one with an older version, one without a version and one without the
tag do not. -/
theorem readme_of_leader_refused :
    ∃ p, Merged (copyOf "here" "1.0.0") copies p ∧
      p.latestPair = (some "1.1.0", some "a") ∧ untagged.latestPair = (none, some "d") ∧
      Leads (copyOf "here" "1.0.0") [] (copyOf "a" "1.1.0") ∧
      ¬ Leads (copyOf "here" "1.0.0") [copyOf "a" "1.1.0"] (copyOf "b" "1.1.0-rc.1") ∧
      ∃ earlier there later, copies = earlier ++ there :: later ∧
        Leads (copyOf "here" "1.0.0") earlier there ∧
        NoneLeads (copyOf "here" "1.0.0") (earlier ++ [there]) later ∧
        p.latestPair = there.latestPair := by
  have hmerged : Merged (copyOf "here" "1.0.0") copies
      (copies.foldl merge (copyOf "here" "1.0.0")) := merged_iff.2 rfl
  have ha : Merged (copyOf "here" "1.0.0") [copyOf "a" "1.1.0"]
      ((copyOf "here" "1.0.0").merge (copyOf "a" "1.1.0")) := merged_iff.2 rfl
  have hpair : (copies.foldl merge (copyOf "here" "1.0.0")).latestPair =
      (some "1.1.0", some "a") := by
    decide +kernel
  refine ⟨_, hmerged, hpair, rfl, (Merged.start.leads_iff _).2 (by decide +kernel),
    mt (ha.leads_iff _).1 (by decide +kernel), ?_⟩
  rcases (readme_of_leader hmerged).1 with hleader | ⟨-, hhere⟩
  · exact hleader
  · exact absurd (hpair.symm.trans hhere) (by decide +kernel)

end RegistryProxy.Package
