import RegistryProxy.Proofs.Package.Authority

/-!
# Proofs/Package/Redelivery — a copy that comes again does no harm

A package that took over an uplink's copy has all its versions, and points with every tag of it at
something that the copy has nothing newer for (`Absorbs`).  Merges keep this (`Merged.absorbs`).  So
a copy that is merged once more, at any time later, changes no version and moves a tag only between
equals; right away, it changes nothing (`redelivery_harmless`).
-/

namespace RegistryProxy.Package

variable {here there p q r : Package} {theres earlier : List Package} {tag : String}
  {before after current offered : Option String}

/-! ## Tags that were offered before -/

/-- **There is nothing newer on offer**: what a tag points at goes to what is offered for it only
if that is an equal. -/
def Absorbs (current offered : Option String) : Prop :=
  ∀ text, offered = some text →
    ∃ text', current = some text' ∧ (Version.UpTo text' text → Version.UpTo text text')

/-- A tag stays where it is, or goes from one version to another of equal precedence. -/
def Level (before after : Option String) : Prop :=
  before = after ∨ ∃ text text' v w, before = some text ∧ after = some text' ∧
    Version.parse? text = some v ∧ Version.parse? text' = some w ∧ Version.compare v w = .eq

theorem Absorbs.refl (current : Option String) : Absorbs current current :=
  fun text htext => ⟨text, htext, id⟩

/-- **One merge absorbs what it is offered.** -/
theorem absorbs_movedTag (current offered : Option String) :
    Absorbs (movedTag current offered) offered := by
  intro text htext
  rcases movedTag_cases current offered with ⟨hstays, hrefuses⟩ | ⟨text', hoffered, -, hmoved⟩
  · rw [hstays]
    have hrefuses := hrefuses text htext
    cases current with
    | none => cases hrefuses
    | some current =>
      exact ⟨current, rfl, fun hle => absurd (acceptsTag_some_iff.2 hle) (by simp [hrefuses])⟩
  · exact ⟨text, hmoved.trans (hoffered.symm.trans htext), id⟩

/-- **What is absorbed stays absorbed** wherever a tag goes. -/
theorem Absorbs.follows (h : Absorbs before offered) (hfollows : Follows before after) :
    Absorbs after offered := by
  intro text htext
  obtain ⟨text', hbefore, hback⟩ := h text htext
  by_cases hparse : (Version.parse? text').isSome
  · obtain ⟨text'', hafter, hup⟩ := hfollows.rises text' hbefore hparse
    exact ⟨text'', hafter, fun hle => (hback (hup.trans hle)).trans hup⟩
  · exact ⟨text', hfollows.stuck text' hbefore (by simpa using hparse), hback⟩

theorem Absorbs.level (h : Absorbs current offered) : Level current (movedTag current offered) := by
  rcases movedTag_cases current offered with ⟨hstays, -⟩ | ⟨text, hoffered, haccepts, hmoved⟩
  · exact .inl hstays.symm
  · obtain ⟨text', rfl, hback⟩ := h text hoffered
    have hle := acceptsTag_some_iff.1 haccepts
    obtain ⟨v, w, hv, hw, hvw⟩ := hle.antisymm (hback hle)
    exact .inr ⟨text', text, v, w, rfl, hmoved, hv, hw, hvw⟩

/-- **Every copy that was taken over is absorbed**, and so is what was there before. -/
theorem Merged.absorbs (h : Merged here theres p) (hr : r ∈ here :: theres) (tag : String) :
    Absorbs (p.tags.find? tag) (r.tags.find? tag) := by
  induction h using Merged.merge_induction with
  | start =>
    obtain rfl := List.mem_singleton.1 hr
    exact .refl _
  | take there _ ih =>
    rw [find?_tags_merge]
    rw [← List.cons_append, List.mem_append, List.mem_singleton] at hr
    rcases hr with hr | rfl
    · exact (ih hr).follows (follows_movedTag ..)
    · exact absorbs_movedTag _ _

/-! ## Copies that change nothing -/

/-- An offer that was taken or refused is taken or refused again. -/
theorem movedTag_movedTag (current offered : Option String) :
    movedTag (movedTag current offered) offered = movedTag current offered := by
  rcases movedTag_cases current offered with ⟨hstays, -⟩ | ⟨text, rfl, -, hmoved⟩
  · rw [hstays, hstays]
  · rw [hmoved]
    exact ite_self _

theorem movedTag_self (current : Option String) : movedTag current current = current := by
  cases current with
  | none => rfl
  | some text => exact ite_self _

/-- **A merge that brings nothing new changes nothing.** -/
theorem merge_eq_self
    (hversions : ∀ version, there.versions.contains version → here.versions.contains version)
    (htags : ∀ tag, movedTag (here.tags.find? tag) (there.tags.find? tag) = here.tags.find? tag)
    (hreadme : there.latestTag.isSome → here.latestTag = there.latestTag →
      there.readme = here.readme) : here.merge there = here := by
  have hsame : (here.merge there).versions = here.versions := by
    refine Dict.ext_find? fun version => ?_
    rw [find?_versions_merge]
    cases hhere : here.versions.find? version with
    | some _ => rfl
    | none =>
      have hthere := mt (hversions version)
      simpa [Dict.contains, hhere] using hthere
  have hmoved : (here.merge there).tags = here.tags :=
    Dict.ext_find? fun tag => (find?_tags_merge ..).trans (htags tag)
  have hkept : (here.merge there).readme = here.readme := by
    rw [readme_merge, latestTag, hmoved]
    split
    · next hlatest => exact hreadme hlatest.2 hlatest.1
    · rfl
  rw [merge_eq, hsame, hmoved, hkept]

/-- **The copy that was merged last changes nothing.** -/
theorem merge_merge (here there : Package) :
    (here.merge there).merge there = here.merge there := by
  refine merge_eq_self (fun version hversion => ?_) (fun tag => ?_) fun hsome hlatest => ?_
  · rw [Dict.contains] at hversion ⊢
    simp [find?_versions_merge, hversion]
  · rw [find?_tags_merge]
    exact movedTag_movedTag ..
  · rw [readme_merge, if_pos ⟨hlatest, hsome⟩]

theorem merge_self (here : Package) : here.merge here = here :=
  merge_eq_self (fun _ => id) (fun _ => movedTag_self _) fun _ _ => rfl

/-! ## Copies that come again -/

/-- **A copy that comes again brings no version and no newer tag.** -/
theorem Merged.redelivered (h : Merged here theres p) (hr : r ∈ here :: theres)
    (h' : Merged p [r] q) : q = { p with tags := q.tags, readme := q.readme } ∧
      ∀ tag, Level (p.tags.find? tag) (q.tags.find? tag) := by
  obtain rfl := merged_one_iff.1 h'
  have hversions : (p.merge r).versions = p.versions := by
    refine Dict.ext_find? fun version => ?_
    rw [find?_versions_merge, find?_versions_merged h]
    cases hfound : (here :: theres).findSome? fun q => q.versions.find? version with
    | some _ => rfl
    | none => exact List.findSome?_eq_none_iff.1 hfound r hr
  constructor
  · rw [merge_eq, hversions]
  · intro tag
    rw [find?_tags_merge]
    exact (h.absorbs hr tag).level

/-- **A copy that comes again does no harm.**  Whatever was merged in before, and in whatever order
versions and tags are gone through: to merge the last copy once more changes nothing, nor does it to
merge a package into itself; and to merge once more the package from which all began, or any of the
copies, changes no version, moves a tag only from one version to another of equal precedence, and
changes nothing else but the readme that comes with `latest`. -/
theorem redelivery_harmless (h : Merged here (earlier ++ [there]) p) :
    (∀ q, Merged p [there] q ↔ q = p) ∧
      (∀ q, Merged here [here] q ↔ q = here) ∧
      ∀ r ∈ here :: (earlier ++ [there]), ∀ q, Merged p [r] q →
        q = { p with tags := q.tags, readme := q.readme } ∧
          ∀ tag, Level (p.tags.find? tag) (q.tags.find? tag) := by
  refine ⟨fun q => ?_, fun q => ?_, fun r hr q => h.redelivered hr⟩
  · obtain ⟨before, -, rfl⟩ := merged_concat_iff.1 h
    rw [merged_one_iff, merge_merge]
  · rw [merged_one_iff, merge_self]

/-- What an uplink has, with its own build of a release. -/
def released (version : String) : Package := (latestAt version).withVersion version

/-- Two uplinks have builds of one release: the tag goes back and forth. -/
theorem redelivery_harmless_builds :
    ∃ p q : Package, Merged (latestAt "0.9.0") [released "1.0.0+u", released "1.0.0+v"] p ∧
      Merged p [released "1.0.0+u"] q ∧
      p.latestTag = some "1.0.0+v" ∧ q.latestTag = some "1.0.0+u" ∧
      Level p.latestTag q.latestTag ∧ q.versions = p.versions ∧
      Merged p [released "1.0.0+v"] p := by
  have hp : Merged (latestAt "0.9.0") ([released "1.0.0+u"] ++ [released "1.0.0+v"])
      ([released "1.0.0+u", released "1.0.0+v"].foldl merge (latestAt "0.9.0")) := merged_iff.2 rfl
  have hq : Merged ([released "1.0.0+u", released "1.0.0+v"].foldl merge (latestAt "0.9.0"))
      [released "1.0.0+u"]
      ([released "1.0.0+u", released "1.0.0+v", released "1.0.0+u"].foldl merge
        (latestAt "0.9.0")) :=
    merged_iff.2 rfl
  obtain ⟨hlast, -, hagain⟩ := redelivery_harmless hp
  obtain ⟨heq, hlevel⟩ := hagain (released "1.0.0+u") (by simp) _ hq
  exact ⟨_, _, hp, hq, by decide +kernel, by decide +kernel, hlevel latestName, by rw [heq],
    (hlast _).2 rfl⟩

end RegistryProxy.Package
