import RegistryProxy.Package.Merge
import RegistryProxy.Proofs.Version.Precedence

/-!
# Proofs/Package/Merging — what taking over an uplink's copy changes

A merge is told by look-ups: a version that is missing is added (`find?_versions_merge`), a tag goes
where `movedTag` says (`find?_tags_merge`), the readme follows `latest` (`readme_merge`), and
nothing else changes (`merge_eq`).  So it does not matter in which order the versions and the tags
of an uplink are gone through (`mergeListed_eq`), and `Merged` leaves that order open; what holds
along a run of merges is proved by `Merged.merge_induction`, one whole merge at a time.
-/

namespace RegistryProxy.Package

variable {here there p q : Package} {theres later : List Package} {tags : Dict String}
  {offers : List (String × String)} {versions : List (String × Manifest)}

/-! ## Versions -/

theorem find?_addVersions (here : Dict Manifest) (there : List (String × Manifest))
    (version : String) : (addVersions here there).find? version =
      (here.find? version).or (Entries.find? version there) := by
  induction there generalizing here with
  | nil => exact Option.or_none.symm
  | cons e there ih =>
    rw [addVersions, List.foldl_cons, ← addVersions, ih, Entries.find?]
    by_cases hpresent : here.contains e.1 = true
    · obtain ⟨manifest, hmanifest⟩ := Option.isSome_iff_exists.1 hpresent
      rw [if_pos hpresent]
      split
      · next heq => simp [heq, hmanifest]
      · rfl
    · have hmissing : here.find? e.1 = none := by simpa [Dict.contains] using hpresent
      rw [if_neg hpresent, Dict.find?_insert]
      split
      · next heq => simp [heq, hmissing]
      · rfl

/-! ## Tags -/

/-- What a tag points at when an uplink's copy was taken over that has it at `offered`. -/
def movedTag (current offered : Option String) : Option String :=
  offered.elim current fun offered => if acceptsTag current offered then some offered else current

/-- **A tag moves to what is not the older**, if both are versions. -/
theorem acceptsTag_some_iff {current offered : String} :
    acceptsTag (some current) offered = true ↔ Version.UpTo current offered := by
  rw [acceptsTag, Version.UpTo]
  split
  · next v w hv hw => cases hvw : Version.compare v w <;> simp [hv, hw, hvw]
  · next hnot =>
    refine iff_of_false Bool.false_ne_true ?_
    rintro ⟨v, w, hv, hw, -⟩
    exact hnot v w hv hw

/-- **A tag stays because nothing is accepted, or goes where it is asked to.** -/
theorem movedTag_cases (current offered : Option String) :
    (movedTag current offered = current ∧
        ∀ text, offered = some text → acceptsTag current text = false) ∨
      ∃ text, offered = some text ∧ acceptsTag current text = true ∧
        movedTag current offered = some text := by
  cases offered with
  | none => exact .inl ⟨rfl, by simp⟩
  | some text =>
    rw [movedTag, Option.elim_some]
    cases haccepts : acceptsTag current text with
    | false => exact .inl ⟨rfl, by simpa using haccepts⟩
    | true => exact .inr ⟨text, rfl, haccepts, rfl⟩

theorem isSome_movedTag (current offered : Option String) :
    (movedTag current offered).isSome = (current.isSome || offered.isSome) := by
  cases offered with
  | none => simp [movedTag]
  | some offered =>
    cases current with
    | none => rfl
    | some current =>
      rw [movedTag, Option.elim_some]
      split <;> rfl

/-- The tags when one offer was taken over. -/
def moveTag (tags : Dict String) (offer : String × String) : Dict String :=
  if tags.find? offer.1 != some offer.2 && acceptsTag (tags.find? offer.1) offer.2 then
    tags.insert offer.1 offer.2
  else tags

theorem find?_moveTag (tags : Dict String) (offer : String × String) (tag : String) :
    (moveTag tags offer).find? tag =
      if tag = offer.1 then movedTag (tags.find? tag) (some offer.2) else tags.find? tag := by
  rw [moveTag]
  by_cases htag : tag = offer.1
  · subst htag
    rw [if_pos rfl, movedTag, Option.elim_some]
    by_cases hsame : tags.find? offer.1 = some offer.2
    · simp [hsame]
    · simp only [bne_iff_ne.2 hsame, Bool.true_and]
      split
      · exact Dict.find?_insert_self ..
      · rfl
  · rw [if_neg htag]
    split
    · exact Dict.find?_insert_of_ne _ _ htag
    · rfl

/-- **One offer** moves its tag, and brings the readme along if `latest` ends up as offered. -/
theorem mergeTag_eq (readme : Option String) (p : Package) (offer : String × String) :
    mergeTag readme p offer = { p with
      tags := moveTag p.tags offer
      readme := if offer.1 = latestName ∧ (moveTag p.tags offer).find? offer.1 = some offer.2
        then readme else p.readme } := by
  obtain ⟨tag, offered⟩ := offer
  rw [mergeTag, moveTag]
  simp only [withTag]
  split <;> split <;> rfl

/-- **The offers of an uplink move every tag on its own.** -/
theorem find?_tags_mergeTags (readme : Option String) (p : Package)
    (honce : (offers.map Prod.fst).Nodup) (tag : String) :
    (mergeTags readme p offers).tags.find? tag =
      movedTag (p.tags.find? tag) (Entries.find? tag offers) := by
  induction offers generalizing p with
  | nil => rfl
  | cons offer offers ih =>
    obtain ⟨hnew, honce⟩ := List.nodup_cons.1 honce
    rw [mergeTags, List.foldl_cons, ← mergeTags, ih _ honce, mergeTag_eq, find?_moveTag,
      Entries.find?]
    split
    · next htag =>
      have hnone : Entries.find? tag offers = none :=
        Entries.find?_eq_none_iff.2 fun e he heq =>
          hnew (List.mem_map.2 ⟨e, he, heq.trans htag⟩)
      rw [hnone]
      rfl
    · rfl

/-- **The readme follows `latest`.** -/
theorem readme_mergeTags (readme : Option String) (p : Package)
    (honce : (offers.map Prod.fst).Nodup) :
    (mergeTags readme p offers).readme =
      if (mergeTags readme p offers).latestTag = Entries.find? latestName offers ∧
        (Entries.find? latestName offers).isSome then readme else p.readme := by
  induction offers generalizing p with
  | nil => exact (if_neg (by simp [Entries.find?])).symm
  | cons offer offers ih =>
    obtain ⟨hnew, honce'⟩ := List.nodup_cons.1 honce
    rw [mergeTags, List.foldl_cons, ← mergeTags, ih _ honce', mergeTag_eq, Entries.find?]
    by_cases htag : latestName = offer.1
    · have hnone : Entries.find? latestName offers = none :=
        Entries.find?_eq_none_iff.2 fun e he heq =>
          hnew (List.mem_map.2 ⟨e, he, heq.trans htag⟩)
      -- The offers behind do not touch `latest`.
      rw [latestTag, find?_tags_mergeTags _ _ honce', hnone]
      simp only [← htag, movedTag, Option.elim_none, Option.isSome_none, Option.isSome_some,
        Bool.false_eq_true, and_false, and_true, true_and, ↓reduceIte]
    · simp only [htag, Ne.symm htag, false_and, ↓reduceIte]

/-- Offers change the tags and the readme only. -/
theorem mergeTags_eq (readme : Option String) (p : Package) (offers : List (String × String)) :
    mergeTags readme p offers = { p with
      tags := (mergeTags readme p offers).tags, readme := (mergeTags readme p offers).readme } := by
  induction offers generalizing p with
  | nil => rfl
  | cons offer offers ih =>
    rw [mergeTags, List.foldl_cons, ← mergeTags, ih, mergeTag_eq]

/-! ## One merge -/

/-- An uplink's copy is taken over, its versions and tags in the order in which they are listed. -/
def mergeListed (here there : Package) (versions : List (String × Manifest))
    (tags : List (String × String)) : Package :=
  mergeTags there.readme { here with versions := addVersions here.versions versions } tags

/-- **A merge keeps the versions that are there and adds the others.** -/
theorem find?_versions_merge (here there : Package) (version : String) :
    (here.merge there).versions.find? version =
      (here.versions.find? version).or (there.versions.find? version) := by
  rw [merge, mergeTags_eq]
  exact find?_addVersions ..

/-- **A merge moves every tag on its own.** -/
theorem find?_tags_merge (here there : Package) (tag : String) :
    (here.merge there).tags.find? tag =
      movedTag (here.tags.find? tag) (there.tags.find? tag) :=
  find?_tags_mergeTags _ _ there.tags.nodup_keys tag

/-- **A merge takes the readme over with `latest`.** -/
theorem readme_merge (here there : Package) :
    (here.merge there).readme =
      if (here.merge there).latestTag = there.latestTag ∧ there.latestTag.isSome then there.readme
      else here.readme :=
  readme_mergeTags _ _ there.tags.nodup_keys

/-- **A merge leaves all else as it is.** -/
theorem merge_eq (here there : Package) :
    here.merge there = { here with
      versions := (here.merge there).versions
      tags := (here.merge there).tags
      readme := (here.merge there).readme } := by
  rw [merge, mergeTags_eq]

/-- **The order in which versions and tags are gone through does not matter.** -/
theorem mergeListed_eq (here : Package) {there : Package}
    (hversions : versions.Perm there.versions.entries) (htags : offers.Perm there.tags.entries) :
    here.mergeListed there versions offers = here.merge there := by
  have honce : (offers.map Prod.fst).Nodup :=
    (htags.map Prod.fst).nodup_iff.2 there.tags.nodup_keys
  have hfound := Dict.find?_of_perm htags
  have hadded : addVersions here.versions versions =
      addVersions here.versions there.versions.entries := by
    refine Dict.ext_find? fun version => ?_
    rw [find?_addVersions, find?_addVersions, Dict.find?_of_perm hversions]
    rfl
  have hmoved : (here.mergeListed there versions offers).tags = (here.merge there).tags := by
    refine Dict.ext_find? fun tag => ?_
    rw [mergeListed, find?_tags_mergeTags _ _ honce, find?_tags_merge, hfound]
  have hreadme : (here.mergeListed there versions offers).readme = (here.merge there).readme := by
    rw [mergeListed, readme_mergeTags _ _ honce, ← mergeListed, readme_merge, latestTag, hmoved,
      hfound]
    rfl
  rw [mergeListed, mergeTags_eq, ← mergeListed, hmoved, hreadme, hadded, merge, ← mergeTags_eq]

/-! ## One merge after the other -/

/-- **The copies of uplinks are taken over one after the other**, the versions and the tags of each
in any order. -/
inductive Merged (here : Package) : List Package → Package → Prop
  | start : Merged here [] here
  | take {theres : List Package} {p : Package} {versions : List (String × Manifest)}
    {tags : List (String × String)} (there : Package) (merged : Merged here theres p)
    (anyVersions : versions.Perm there.versions.entries)
    (anyTags : tags.Perm there.tags.entries) :
    Merged here (theres ++ [there]) (p.mergeListed there versions tags)

theorem Merged.concat (h : Merged here theres p) (there : Package) :
    Merged here (theres ++ [there]) (p.merge there) := h.take there (.refl _) (.refl _)

theorem Merged.foldl (h : Merged here theres p) (later : List Package) :
    Merged here (theres ++ later) (later.foldl merge p) := by
  induction later generalizing theres p with
  | nil => simpa using h
  | cons there later ih =>
    rw [List.append_cons, List.foldl_cons]
    exact ih (h.concat there)

/-- **There is one outcome.** -/
theorem merged_iff : Merged here theres p ↔ p = theres.foldl merge here := by
  constructor
  · intro h
    induction h with
    | start => rfl
    | take there _ hversions htags ih =>
      rw [mergeListed_eq _ hversions htags, List.foldl_append, ← ih]
      rfl
  · rintro rfl
    exact Merged.start.foldl theres

theorem Merged.unique (h : Merged here theres p) (h' : Merged here theres q) : q = p :=
  (merged_iff.1 h').trans (merged_iff.1 h).symm

theorem merged_one_iff : Merged here [there] p ↔ p = here.merge there := merged_iff

theorem merged_concat_iff : Merged here (theres ++ [there]) q ↔
    ∃ p, Merged here theres p ∧ q = p.merge there := by
  simp only [merged_iff, List.foldl_append, List.foldl_cons, List.foldl_nil, exists_eq_left]

/-- **What every merge keeps holds of every outcome.**  The order in which a copy is gone through is
out of the way here. -/
theorem Merged.merge_induction {here : Package} {motive : ∀ theres p, Merged here theres p → Prop}
    (start : motive [] here .start)
    (take : ∀ {theres : List Package} {p : Package} (there : Package)
      (merged : Merged here theres p), motive theres p merged →
        motive (theres ++ [there]) (p.merge there) (merged.concat there))
    {theres : List Package} {p : Package} (h : Merged here theres p) : motive theres p h := by
  induction h with
  | start => exact start
  | @take theres p _ _ there merged hversions htags ih =>
    have hmerge (q : Package) (hq : q = p.merge there) (hmerged : Merged here _ q) :
        motive (theres ++ [there]) q hmerged := by
      subst hq
      exact take there merged ih
    exact hmerge _ (mergeListed_eq p hversions htags) _

/-- Takings over one after the other, in two parts. -/
theorem Merged.append (h : Merged here theres p) (h' : Merged p later q) :
    Merged here (theres ++ later) q :=
  merged_iff.1 h' ▸ h.foldl later

/-- **A version has the manifest of the first package that has it.** -/
theorem find?_versions_merged (h : Merged here theres p) (version : String) :
    p.versions.find? version = (here :: theres).findSome? fun q => q.versions.find? version := by
  induction h using Merged.merge_induction with
  | start => simp
  | take there _ ih =>
    rw [find?_versions_merge, ih, ← List.cons_append, List.findSome?_append]
    simp

theorem mem_keys_versions_merged (h : Merged here theres p) (version : String) :
    version ∈ p.versions.keys ↔ ∃ q ∈ here :: theres, version ∈ q.versions.keys := by
  simp only [Dict.mem_keys, ← Option.isSome_iff_exists, find?_versions_merged h,
    List.findSome?_isSome_iff]

theorem mem_keys_tags_merged (h : Merged here theres p) (tag : String) :
    tag ∈ p.tags.keys ↔ ∃ q ∈ here :: theres, tag ∈ q.tags.keys := by
  simp only [Dict.mem_keys, ← Option.isSome_iff_exists]
  induction h using Merged.merge_induction with
  | start => simp
  | take there _ ih =>
    rw [find?_tags_merge, isSome_movedTag, Bool.or_eq_true, ih, ← List.cons_append]
    simp only [List.mem_append, List.mem_singleton, or_and_right, exists_or, exists_eq_left]

/-! ## Samples -/

/-- A copy of a package that tells nothing but what the latest version is. -/
def latestAt (version : String) : Package := withTag { name := "pkg" } latestName version

end RegistryProxy.Package
