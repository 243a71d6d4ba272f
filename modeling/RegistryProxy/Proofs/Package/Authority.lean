import RegistryProxy.Proofs.Package.Merging
import RegistryProxy.Uplink.Freshness

/-!
# Proofs/Package/Authority — what is here goes before what uplinks have

However many copies of uplinks are merged in: a version keeps the manifest of the first package that
has it, a tag is never lost and moves to newer versions only (`Follows`), and all but the versions,
the tags and the readme is as it was (`local_data_stays`).  So no merge makes a package look fresher
to any uplink, or changes the etag it is asked for with.
-/

namespace RegistryProxy.Package

variable {here p q : Package} {theres earlier later : List Package} {tag : String}
  {a b c : Option String}

/-! ## Where tags go -/

/-- **What a tag can point at later.** -/
structure Follows (before after : Option String) : Prop where
  /-- A tag is not lost. -/
  kept : before.isSome → after.isSome
  /-- A tag that points at no version stays where it is. -/
  stuck : ∀ text, before = some text → Version.parse? text = none → after = some text
  /-- A tag that points at a version stays or goes to one that is not older. -/
  rises : ∀ text, before = some text → (Version.parse? text).isSome →
    ∃ text', after = some text' ∧ Version.UpTo text text'
  /-- What is no version is taken over only where the tag was not set. -/
  adopted : ∀ text, after = some text → Version.parse? text = none →
    before = none ∨ before = some text

namespace Follows

theorem refl (a : Option String) : Follows a a where
  kept := id
  stuck _ htext _ := htext
  rises text htext hparse := ⟨text, htext, .refl hparse⟩
  adopted _ htext _ := .inr htext

theorem trans (hab : Follows a b) (hbc : Follows b c) : Follows a c where
  kept hsome := hbc.kept (hab.kept hsome)
  stuck text htext hparse := hbc.stuck text (hab.stuck text htext hparse) hparse
  rises text htext hparse := by
    obtain ⟨text', htext', hle⟩ := hab.rises text htext hparse
    have hparse' : (Version.parse? text').isSome := by
      obtain ⟨-, w, -, hw, -⟩ := hle
      rw [hw]
      rfl
    obtain ⟨text'', htext'', hle'⟩ := hbc.rises text' htext' hparse'
    exact ⟨text'', htext'', hle.trans hle'⟩
  adopted text htext hparse := by
    rcases hbc.adopted text htext hparse with hnone | hsome
    · cases ha : a with
      | none => exact .inl rfl
      | some _ => simpa [hnone] using hab.kept (by rw [ha]; rfl)
    · exact hab.adopted text hsome hparse

end Follows

/-- **One merge moves a tag forward.** -/
theorem follows_movedTag (current offered : Option String) :
    Follows current (movedTag current offered) := by
  rcases movedTag_cases current offered with ⟨hstays, -⟩ | ⟨offered, -, haccepts, hmoved⟩
  · rw [hstays]
    exact .refl current
  · rw [hmoved]
    cases current with
    | none =>
      exact {
        kept := fun hsome => by cases hsome
        stuck := fun text htext => by cases htext
        rises := fun text htext => by cases htext
        adopted := fun text _ _ => .inl rfl }
    | some current =>
      have hle := acceptsTag_some_iff.1 haccepts
      obtain ⟨v, w, hv, hw, -⟩ := id hle
      exact {
        kept := fun _ => rfl
        stuck := fun text htext hparse => by
          obtain rfl := Option.some.inj htext
          cases hv.symm.trans hparse
        rises := fun text htext _ => by
          obtain rfl := Option.some.inj htext
          exact ⟨offered, rfl, hle⟩
        adopted := fun text htext hparse => by
          obtain rfl := Option.some.inj htext
          cases hw.symm.trans hparse }

theorem Merged.follows (h : Merged here theres p) (tag : String) :
    Follows (here.tags.find? tag) (p.tags.find? tag) := by
  induction h using Merged.merge_induction with
  | start => exact .refl _
  | take there _ ih =>
    rw [find?_tags_merge]
    exact ih.trans (follows_movedTag ..)

/-- What a tag points at was there, or comes from one of the uplinks. -/
theorem Merged.tag_source (h : Merged here theres p) {text : String}
    (htext : p.tags.find? tag = some text) :
    here.tags.find? tag = some text ∨ ∃ there ∈ theres, there.tags.find? tag = some text := by
  induction h using Merged.merge_induction with
  | start => exact .inl htext
  | @take theres p there _ ih =>
    rw [find?_tags_merge] at htext
    rcases movedTag_cases (p.tags.find? tag) (there.tags.find? tag) with
      ⟨hstays, -⟩ | ⟨offered, hoffered, -, hmoved⟩
    · refine (ih (hstays.symm.trans htext)).imp_right ?_
      rintro ⟨r, hr, hvalue⟩
      exact ⟨r, List.mem_append_left _ hr, hvalue⟩
    · exact .inr ⟨there, List.mem_append_right _ (List.mem_singleton_self _),
        hoffered.trans (hmoved.symm.trans htext)⟩

/-! ## What stays -/

/-- **Only versions, tags and the readme are taken over.** -/
theorem Merged.eq_of (h : Merged here theres p) :
    p = { here with versions := p.versions, tags := p.tags, readme := p.readme } := by
  induction h using Merged.merge_induction with
  | start => rfl
  | take there _ ih =>
    rw [merge_eq, ih]

theorem Merged.marks_eq (h : Merged here theres p) : p.marks = here.marks := by
  rw [h.eq_of]

/-- **What is here goes before what uplinks have.**  Between any two moments `q` and `p` of a run of
merges that began with `here`: every version has the manifest of the first package that has it, in
the order in which they came, and there is no other; no tag is lost, one that points at a version
goes to versions only that are not older, one that points at no version stays, and such a value is
taken over from an uplink only where the tag was not set; and all else is as it was, so that the
package is as fresh as before and has the same etag, but for the readme, which comes with `latest`
when that ends up as the uplink has it. -/
theorem local_data_stays (h : Merged here earlier q) (h' : Merged q later p) :
    (∀ version, p.versions.find? version =
        (here :: (earlier ++ later)).findSome? fun r => r.versions.find? version) ∧
      (∀ tag, Follows (q.tags.find? tag) (p.tags.find? tag)) ∧
      (∀ tag text, p.tags.find? tag = some text →
        q.tags.find? tag = some text ∨ ∃ r ∈ later, r.tags.find? tag = some text) ∧
      p = { here with versions := p.versions, tags := p.tags, readme := p.readme } ∧
      (∀ r, later = [r] → p.readme =
        if p.latestTag = r.latestTag ∧ r.latestTag.isSome then r.readme else q.readme) ∧
      ∀ (f : Freshness) (now : Moment),
        f.isFreshAt p now = f.isFreshAt here now ∧ f.cachedEtag p = f.cachedEtag here := by
  have hall := h.append h'
  refine ⟨find?_versions_merged hall, h'.follows, fun tag text => h'.tag_source, hall.eq_of, ?_, ?_⟩
  · rintro r rfl
    rw [merged_iff.1 h']
    exact readme_merge q r
  · intro f now
    rw [Freshness.isFreshAt, Freshness.isFreshAt, Freshness.cachedEtag, Freshness.cachedEtag,
      hall.marks_eq]
    exact ⟨rfl, rfl⟩

/-- A package with a version that was changed here, and a tag that points at no version. -/
def kept : Package where
  name := "pkg"
  versions := .ofList [("1.0.0", ⟨"1.0.0", .ofList [("deprecated", .bool true)]⟩)]
  tags := .ofList [("latest", "1.0.0"), ("legacy", "old-build")]

/-- An uplink has the version as well, and would move both tags. -/
def ahead : Package where
  name := "pkg"
  versions := .ofList [("1.0.0", ⟨"1.0.0", ∅⟩)]
  tags := .ofList [("latest", "1.1.0"), ("legacy", "2.0.0")]

/-- Another would move one of them back again. -/
def behind : Package where
  name := "pkg"
  tags := .ofList [("latest", "1.1.0-rc.1")]

/-- The version stays, one tag stays where it is, and the other goes only ahead. -/
theorem local_data_stays_twoUplinks :
    ∃ q p, Merged kept [ahead] q ∧ Merged q [behind] p ∧
      ahead.tags.find? "legacy" = some "2.0.0" ∧ kept.tags.find? "legacy" = some "old-build" ∧
      p.tags.find? "legacy" = some "old-build" ∧
      q.latestTag = some "1.1.0" ∧ behind.latestTag = some "1.1.0-rc.1" ∧
      (∃ text, p.latestTag = some text ∧ Version.UpTo "1.1.0" text) ∧
      ahead.versions.find? "1.0.0" = some ⟨"1.0.0", ∅⟩ ∧
      p.versions.find? "1.0.0" = some ⟨"1.0.0", .ofList [("deprecated", .bool true)]⟩ := by
  have hq : Merged kept [ahead] (kept.merge ahead) := merged_iff.2 rfl
  have hp : Merged (kept.merge ahead) [behind] ((kept.merge ahead).merge behind) :=
    merged_iff.2 rfl
  have hlatest : (kept.merge ahead).latestTag = some "1.1.0" := by decide +kernel
  have hlegacy : (kept.merge ahead).tags.find? "legacy" = some "old-build" := by decide +kernel
  obtain ⟨hversions, hfollows, -⟩ := local_data_stays hq hp
  exact ⟨_, _, hq, hp, by decide +kernel, by decide +kernel,
    (hfollows "legacy").stuck _ hlegacy (by decide +kernel), hlatest, by decide +kernel,
    (hfollows latestName).rises _ hlatest (by decide +kernel), by decide +kernel,
    (hversions "1.0.0").trans (by decide +kernel)⟩

/-- **The readme does not stay**: it comes with `latest`. -/
theorem readme_taken_over :
    ∃ p, Merged (withTag { name := "pkg", readme := some "old" } latestName "1.0.0")
        [withTag { name := "pkg", readme := some "new" } latestName "1.1.0"] p ∧
      p.readme = some "new" ∧
      p.readme ≠ (withTag { name := "pkg", readme := some "old" } latestName "1.0.0").readme :=
  ⟨_, merged_iff.2 rfl, by decide +kernel, by decide +kernel⟩

end RegistryProxy.Package
