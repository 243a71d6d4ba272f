import RegistryProxy.Proofs.Package.Merging
import RegistryProxy.Proofs.Package.Rereading
import RegistryProxy.Store.Basic

/-!
# Proofs/Package/Storing — a package that was read can be stored

A package that its own text is read for is `Storable`.  What was read from a text is
(`storable_of_decode`), and it stays so when it is stored and read (`Storable.reread`), when a mark
is left (`Storable.withMark`) and when another such package is taken over (`Storable.merge`).  Only
carried numbers may be others afterwards.
-/

namespace RegistryProxy.Package

variable {α : Type} {depth : Nat} {p here there : Package}

/-! ## How deep a package is written -/

theorem nesting_object_le_iff {members : List (String × Json)} :
    (Json.object members).nesting ≤ depth + 1 ↔ ∀ m ∈ members, m.2.nesting ≤ depth := by
  rw [Json.nesting, Nat.add_le_add_iff_right, Json.nestingMembers_le]

theorem nesting_writtenMap_le_iff {members : α → List (String × Json)} {d : Dict α} :
    (writtenMap members d).nesting ≤ depth + 1 ↔
      ∀ e ∈ d.entries, (Json.object (members e.2)).nesting ≤ depth := by
  rw [writtenMap, nesting_object_le_iff, List.forall_mem_map]

/-- **A package is written as deep** as its manifests, its attachments, its marks and what it
carries beside them. -/
theorem nesting_written_le_iff : p.written.nesting ≤ depth + 2 ↔
    ((∀ v ∈ p.versions.entries, (Json.object v.2.members).nesting ≤ depth) ∧
      (∀ a ∈ p.attachments.entries, (Json.object a.2.members).nesting ≤ depth) ∧
      ∀ m ∈ p.marks.entries, (Json.object m.2.members).nesting ≤ depth) ∧
    ∀ e ∈ p.other.entries, e.2.nesting ≤ depth + 1 := by
  have htags := nesting_tags_le (Nat.succ_pos depth) p.tags
  have hmarks : p.marks.isEmpty = true ∨ (writtenMap Mark.members p.marks).nesting ≤ depth + 1 ↔
      ∀ m ∈ p.marks.entries, (Json.object m.2.members).nesting ≤ depth := by
    rw [nesting_writtenMap_le_iff, or_iff_right_of_imp]
    intro hempty m hm
    rw [List.isEmpty_iff.1 hempty] at hm
    cases hm
  rw [written, nesting_object_le_iff, members_eq, List.forall_mem_append, knownMembers_nesting,
    nesting_writtenMap_le_iff, nesting_writtenMap_le_iff, hmarks, and_iff_right htags]

/-! ## What a merge takes over -/

/-- The manifests of a merge are manifests of one side. -/
theorem mem_versions_merge {e : String × Manifest}
    (he : e ∈ (here.merge there).versions.entries) :
    e ∈ here.versions.entries ∨ e ∈ there.versions.entries := by
  rw [← Dict.find?_eq_some_iff, find?_versions_merge, Option.or_eq_some_iff] at he
  exact he.imp Dict.mem_of_find? fun h => Dict.mem_of_find? h.2

/-- No mark is taken over. -/
theorem marks_merge (here there : Package) : (here.merge there).marks = here.marks := by
  rw [merge_eq]

/-! ## Storable packages -/

/-- **A package that its own text is read for.** -/
structure Storable (p : Package) : Prop where
  /-- What it carries is in name order. -/
  canonical : p.Carried Json.Canonical
  /-- The numbers it carries are such as a document may have. -/
  legible : p.Carried Json.Legible
  /-- The times of its marks have 64 bits. -/
  timed : p.Timed
  /-- What it carries has no name that is known. -/
  distinct : p.Distinct
  /-- It is nested no deeper than a reader goes. -/
  nesting : p.written.nesting ≤ Json.maxDepth

theorem storable_of_decode {text : Bytes} (h : decode text = some p) : p.Storable := by
  obtain ⟨t, hread, htree⟩ := Option.bind_eq_some_iff.1 h
  obtain ⟨hnesting, hcarried, htimed⟩ := holds_of_ofTree? htree
  exact {
    canonical := hcarried.mono fun _ hj => hj.canonical
    legible := hcarried.mono fun _ hj => hj.numbers _ (Json.legible_of_read hread)
    timed := htimed
    distinct := distinct_of_ofTree? htree
    nesting := Nat.le_trans hnesting (Nat.max_le.2 ⟨Json.nesting_of_read hread, by decide⟩) }

namespace Storable

/-- **Its text is read**, with its values as they are read. -/
theorem decode_encode (h : p.Storable) : decode p.encode = some p.reread :=
  (decode_encode_reread_iff h.canonical h.legible h.timed).2 ⟨h.distinct, h.nesting⟩

/-- **What was stored is there**, with its values as they are read. -/
theorem read_save (h : p.Storable) (d : Documents) (name : String) :
    (d.save name p).read name = .ok p.reread := by
  rw [Documents.read, Documents.save, Dict.find?_insert_self]
  dsimp only
  rw [h.decode_encode]

theorem reread (h : p.Storable) : p.reread.Storable := storable_of_decode h.decode_encode

/-- A mark is no deeper than a manifest may be. -/
theorem withMark (h : p.Storable) (uplink : String) {m : Mark}
    (htime : -0x8000000000000000 ≤ m.fetched ∧ m.fetched ≤ 0x7fffffffffffffff) :
    Storable { p with marks := p.marks.insert uplink m } := by
  have hmem : ∀ e ∈ (p.marks.insert uplink m).entries, e.2 = m ∨ e ∈ p.marks.entries :=
    fun e he => (Entries.mem_insert he).imp_left fun heq => congrArg Prod.snd heq
  have hdepth : (Json.object m.members).nesting ≤ 1 :=
    nesting_object_le_iff.2 (List.forall_mem_append.2
      ⟨nesting_memberOf _ _, List.forall_mem_singleton.2 (Nat.le_refl 0)⟩)
  obtain ⟨⟨hversions, hattachments, hmarks⟩, hother⟩ := nesting_written_le_iff.1 h.nesting
  exact {
    canonical := ⟨h.canonical.other, h.canonical.attributes, h.canonical.attached⟩
    legible := ⟨h.legible.other, h.legible.attributes, h.legible.attached⟩
    timed := fun e he => (hmem e he).elim (fun heq => heq ▸ htime) (h.timed e)
    distinct := ⟨h.distinct.other, h.distinct.attributes, h.distinct.attached⟩
    nesting := nesting_written_le_iff.2 ⟨⟨hversions, hattachments, fun e he =>
      (hmem e he).elim (fun heq => heq ▸ Nat.le_trans hdepth (by decide)) (hmarks e)⟩, hother⟩ }

/-- **A merge takes over nothing that cannot be stored.** -/
theorem merge (h : here.Storable) (h' : there.Storable) : (here.merge there).Storable := by
  have hall {P : String × Manifest → Prop} (hhere : ∀ v ∈ here.versions.entries, P v)
      (hthere : ∀ v ∈ there.versions.entries, P v) :
      ∀ v ∈ (here.merge there).versions.entries, P v :=
    fun v hv => (mem_versions_merge hv).elim (hhere v) (hthere v)
  have hother : (here.merge there).other = here.other := by rw [merge_eq]
  have hattachments : (here.merge there).attachments = here.attachments := by rw [merge_eq]
  have hmarks := marks_merge here there
  have hcarried {P : Json → Prop} (hhere : here.Carried P) (hthere : there.Carried P) :
      (here.merge there).Carried P :=
    ⟨hother ▸ hhere.other, hall hhere.attributes hthere.attributes, hattachments ▸ hhere.attached⟩
  obtain ⟨⟨hversions, hattached, hmarked⟩, hcarrying⟩ := nesting_written_le_iff.1 h.nesting
  obtain ⟨⟨hversions', -⟩, -⟩ := nesting_written_le_iff.1 h'.nesting
  exact {
    canonical := hcarried h.canonical h'.canonical
    legible := hcarried h.legible h'.legible
    timed := fun m hm => h.timed m (hmarks ▸ hm)
    distinct := {
      other := hother ▸ h.distinct.other
      attributes := hall h.distinct.attributes h'.distinct.attributes
      attached := hattachments ▸ h.distinct.attached }
    nesting := by
      refine nesting_written_le_iff.2 ⟨⟨hall hversions hversions', ?_, ?_⟩, ?_⟩
      · exact hattachments ▸ hattached
      · exact hmarks ▸ hmarked
      · exact hother ▸ hcarrying }

end Storable

end RegistryProxy.Package
