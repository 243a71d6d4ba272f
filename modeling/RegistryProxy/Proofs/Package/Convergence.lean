import RegistryProxy.Proofs.Package.Merging

/-!
# Proofs/Package/Convergence — uplinks may answer in any order

Whatever order the copies of uplinks are merged in, the versions and the tags are those of all of
them, and a tag whose values are all versions ends up at a highest one (`Tops.merged`).  So two
orders differ at most in which of several equals a tag points at (`merged_in_any_order`).
-/

namespace RegistryProxy.Package

variable {here p p' : Package} {theres theres' : List Package} {tag : String}
  {texts : List String} {current : Option String}

/-- What a tag points at in these packages. -/
def valuesOf (tag : String) (ps : List Package) : List String :=
  ps.filterMap fun p => p.tags.find? tag

theorem valuesOf_concat (tag : String) (ps : List Package) (q : Package) :
    valuesOf tag (ps ++ [q]) = valuesOf tag ps ++ (q.tags.find? tag).toList := by
  rw [valuesOf, List.filterMap_append, ← valuesOf]
  cases hvalue : q.tags.find? tag <;> simp [hvalue]

/-- **One of the texts, and the highest of them**: it spells a version, and they are all up to
it. -/
def Highest (texts : List String) (text : String) : Prop :=
  text ∈ texts ∧ ∀ other ∈ texts, Version.UpTo other text

/-- What a tag points at that has seen these texts: the highest, or nothing if there were none. -/
def Tops (texts : List String) (current : Option String) : Prop :=
  current.elim (texts = []) (Highest texts)

theorem Tops.of_perm {texts' : List String} (h : Tops texts current) (hperm : texts.Perm texts') :
    Tops texts' current := by
  cases current with
  | none =>
    obtain rfl : texts = [] := h
    exact hperm.nil_eq.symm
  | some text =>
    exact ⟨hperm.mem_iff.1 h.1, fun other hother => h.2 other (hperm.mem_iff.2 hother)⟩

theorem Tops.exists (h : Tops texts current) (hsome : texts ≠ []) :
    ∃ text, current = some text ∧ Highest texts text := by
  cases current with
  | none => exact absurd h hsome
  | some text => exact ⟨text, rfl, h⟩

/-- **A tag that is offered a version stays on top.** -/
theorem Tops.moved {offered : String} (h : Tops texts current)
    (htexts : ∀ text ∈ texts, (Version.parse? text).isSome)
    (hoffered : (Version.parse? offered).isSome) :
    Tops (texts ++ [offered]) (movedTag current (some offered)) := by
  have hself := Version.UpTo.refl hoffered
  cases current with
  | none =>
    obtain rfl : texts = [] := h
    exact ⟨List.mem_singleton_self _, fun other hother => List.mem_singleton.1 hother ▸ hself⟩
  | some text =>
    obtain ⟨hmem, hupTo⟩ : Highest texts text := h
    rw [movedTag, Option.elim_some]
    split
    · next haccepts =>
      have hle := acceptsTag_some_iff.1 haccepts
      refine ⟨List.mem_append_right _ (List.mem_singleton_self _), ?_⟩
      rw [List.forall_mem_append, List.forall_mem_singleton]
      exact ⟨fun other hother => (hupTo other hother).trans hle, hself⟩
    · next hrefuses =>
      have hge := Version.UpTo.total (htexts text hmem) hoffered (mt acceptsTag_some_iff.2 hrefuses)
      refine ⟨List.mem_append_left _ hmem, ?_⟩
      rw [List.forall_mem_append, List.forall_mem_singleton]
      exact ⟨hupTo, hge⟩

/-- **A tag whose values are all versions ends up at a highest one.** -/
theorem Tops.merged (h : Merged here theres p)
    (htexts : ∀ text ∈ valuesOf tag (here :: theres), (Version.parse? text).isSome) :
    Tops (valuesOf tag (here :: theres)) (p.tags.find? tag) := by
  induction h using Merged.merge_induction with
  | start =>
    cases hvalue : here.tags.find? tag with
    | none => simp [Tops, valuesOf, hvalue]
    | some text =>
      have hvalues : valuesOf tag [here] = [text] := by simp [valuesOf, hvalue]
      rw [hvalues, List.forall_mem_singleton] at htexts
      rw [hvalues]
      exact ⟨List.mem_singleton_self _, List.forall_mem_singleton.2 (Version.UpTo.refl htexts)⟩
  | @take theres p there _ ih =>
    rw [← List.cons_append, valuesOf_concat, List.forall_mem_append] at htexts
    have htops := ih htexts.1
    rw [find?_tags_merge, ← List.cons_append, valuesOf_concat]
    cases hoffered : there.tags.find? tag with
    | none => simpa [movedTag] using htops
    | some offered =>
      exact htops.moved htexts.1 (htexts.2 offered (by simp [hoffered]))

/-- **Uplinks may answer in any order.** -/
theorem merged_in_any_order (hperm : theres.Perm theres') (h : Merged here theres p)
    (h' : Merged here theres' p') :
    (∀ version, version ∈ p.versions.keys ↔ version ∈ p'.versions.keys) ∧
      (∀ tag, tag ∈ p.tags.keys ↔ tag ∈ p'.tags.keys) ∧
      ∀ tag, (∀ text ∈ valuesOf tag (here :: theres), (Version.parse? text).isSome) →
        valuesOf tag (here :: theres) ≠ [] →
        ∃ text text', p.tags.find? tag = some text ∧ p'.tags.find? tag = some text' ∧
          Highest (valuesOf tag (here :: theres)) text ∧
          Highest (valuesOf tag (here :: theres)) text' ∧
          ∃ v v', Version.parse? text = some v ∧ Version.parse? text' = some v' ∧
            Version.compare v v' = .eq := by
  have hinputs : (here :: theres).Perm (here :: theres') := hperm.cons here
  refine ⟨?_, ?_, ?_⟩
  · intro version
    rw [mem_keys_versions_merged h, mem_keys_versions_merged h']
    exact exists_congr fun q => and_congr_left' hinputs.mem_iff
  · intro tag
    rw [mem_keys_tags_merged h, mem_keys_tags_merged h']
    exact exists_congr fun q => and_congr_left' hinputs.mem_iff
  · intro tag htexts hsome
    have hvalues : (valuesOf tag (here :: theres')).Perm (valuesOf tag (here :: theres)) :=
      (hinputs.filterMap _).symm
    have htexts' : ∀ text ∈ valuesOf tag (here :: theres'), (Version.parse? text).isSome :=
      fun text htext => htexts text (hvalues.mem_iff.1 htext)
    obtain ⟨text, htext, hhighest⟩ := (Tops.merged h htexts).exists hsome
    obtain ⟨text', htext', hhighest'⟩ := ((Tops.merged h' htexts').of_perm hvalues).exists hsome
    exact ⟨text, text', htext, htext', hhighest, hhighest',
      (hhighest'.2 text hhighest.1).antisymm (hhighest.2 text' hhighest'.1)⟩

/-- Two builds of one release, which are equals: the one that is merged last stays. -/
theorem merged_in_any_order_builds :
    ∃ p p' : Package,
      Merged (latestAt "1.2.0-rc.10") [latestAt "1.2.0+a", latestAt "1.2.0+b"] p ∧
      Merged (latestAt "1.2.0-rc.10") [latestAt "1.2.0+b", latestAt "1.2.0+a"] p' ∧
      valuesOf latestName [latestAt "1.2.0-rc.10", latestAt "1.2.0+a", latestAt "1.2.0+b"] =
        ["1.2.0-rc.10", "1.2.0+a", "1.2.0+b"] ∧
      p.latestTag = some "1.2.0+b" ∧ p'.latestTag = some "1.2.0+a" ∧
      Highest ["1.2.0-rc.10", "1.2.0+a", "1.2.0+b"] "1.2.0+b" ∧
      Highest ["1.2.0-rc.10", "1.2.0+a", "1.2.0+b"] "1.2.0+a" := by
  have hmerged : Merged (latestAt "1.2.0-rc.10") [latestAt "1.2.0+a", latestAt "1.2.0+b"]
      ([latestAt "1.2.0+a", latestAt "1.2.0+b"].foldl merge (latestAt "1.2.0-rc.10")) :=
    merged_iff.2 rfl
  have hmerged' : Merged (latestAt "1.2.0-rc.10") [latestAt "1.2.0+b", latestAt "1.2.0+a"]
      ([latestAt "1.2.0+b", latestAt "1.2.0+a"].foldl merge (latestAt "1.2.0-rc.10")) :=
    merged_iff.2 rfl
  have hvalues : valuesOf latestName
      [latestAt "1.2.0-rc.10", latestAt "1.2.0+a", latestAt "1.2.0+b"] =
        ["1.2.0-rc.10", "1.2.0+a", "1.2.0+b"] := by
    decide +kernel
  have hlatest : ([latestAt "1.2.0+a", latestAt "1.2.0+b"].foldl merge
      (latestAt "1.2.0-rc.10")).latestTag = some "1.2.0+b" := by
    decide +kernel
  have hlatest' : ([latestAt "1.2.0+b", latestAt "1.2.0+a"].foldl merge
      (latestAt "1.2.0-rc.10")).latestTag = some "1.2.0+a" := by
    decide +kernel
  obtain ⟨text, text', htext, htext', hhighest, hhighest', -⟩ :=
    (merged_in_any_order (.swap _ _ []) hmerged hmerged').2.2 latestName (by decide +kernel)
      (by decide +kernel)
  rw [hvalues] at hhighest hhighest'
  obtain rfl : "1.2.0+b" = text := Option.some.inj (hlatest.symm.trans htext)
  obtain rfl : "1.2.0+a" = text' := Option.some.inj (hlatest'.symm.trans htext')
  exact ⟨_, _, hmerged, hmerged', hvalues, hlatest, hlatest', hhighest, hhighest'⟩

end RegistryProxy.Package
