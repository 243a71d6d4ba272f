import RegistryProxy.Package.Document
import RegistryProxy.Proofs.Json.Values

/-!
# Proofs/Package/RoundTrip — which packages are read back from their texts

Known members and carried ones stand side by side in the text of a package, so a carried member
with the name of a known one is taken for it; and what is carried may be nested deeper than a
reader goes.  A package with neither is read back (`Package.reads`), and no other is: what has been
read is never of the first kind (`Package.distinct_of_ofTree?`) nor of the second.  It comes back
with its carried values as they are read (`Package.decode_encode_reread_iff`), which is as it was
when their numbers are integers (`Package.decode_encode_iff`).
-/

namespace RegistryProxy

open Json (Reads Avoids treeWithin membersWithin)

variable {depth : Nat}

/-! ## Manifests, attachments and marks -/

/-- A text that is missing has no member. -/
theorem find?_memberOf (name : String) (s : Option String) :
    Entries.find? name (memberOf name s) = s.map Json.string := by
  cases s <;> simp [memberOf, Entries.find?]

theorem find?_memberOf_of_ne {name name' : String} (h : name ≠ name') (s : Option String) :
    Entries.find? name (memberOf name' s) = none := by
  cases s <;> simp [memberOf, Entries.find?, h]

/-- A text that may be missing is read back. -/
theorem optional_text (s b : Option String) :
    Json.Tree.optional Json.Tree.text? ((s.map Json.string).map (treeWithin depth)) = some b ↔
      b = s := by
  cases s with
  | none => exact ⟨fun h => (Option.some.inj h).symm, fun h => congrArg some h.symm⟩
  | some s => exact ⟨fun h => (Option.some.inj h).symm, fun h => congrArg some h.symm⟩

theorem nesting_memberOf (name : String) (s : Option String) :
    ∀ m ∈ memberOf name s, m.2.nesting ≤ depth := by
  cases s <;> simp [memberOf, Json.nesting]

/-- **A manifest is read back** when it carries no version beside its own. -/
theorem Manifest.reads {m : Manifest} (havoids : Avoids ["version"] m.attributes)
    (hcanonical : ∀ e ∈ m.attributes.entries, e.2.Canonical) :
    Reads depth Manifest.ofTree? (.object m.members) m := by
  refine Json.reads_structure rfl (fun _ => rfl) [("version", .string m.version)]
    m.attributes.entries (by simp) (by simp) havoids fun depth field hfield b => ?_
  have hversion : field "version" = some (.string m.version) := hfield "version" (by simp)
  dsimp only
  rw [hversion]
  simp only [Option.bind_eq_bind, Option.bind_eq_some_iff, Json.rest?_written hcanonical]
  constructor
  · rintro ⟨_, ⟨⟩, _, ⟨hcarried, rfl⟩, ⟨⟩⟩
    exact ⟨by simp [Json.nesting], hcarried, rfl⟩
  · rintro ⟨-, hcarried, rfl⟩
    exact ⟨_, rfl, _, ⟨hcarried, rfl⟩, rfl⟩

/-- What a manifest carries was left over by its version. -/
theorem Manifest.avoids_of_ofTree? {t : Json.Tree} {m : Manifest} (h : ofTree? t = some m) :
    Avoids ["version"] m.attributes := by
  obtain ⟨⟨field, rest⟩, hsplit, h⟩ := Option.bind_eq_some_iff.1 h
  obtain ⟨version, -, h⟩ := Option.bind_eq_some_iff.1 h
  obtain ⟨attributes, hattributes, h⟩ := Option.bind_eq_some_iff.1 h
  cases h
  exact Json.avoids_rest? hsplit hattributes

/-- **An attachment is read back** when it carries no checksum or version beside its own. -/
theorem Attachment.reads {a : Attachment} (havoids : Avoids ["shasum", "version"] a.other)
    (hcanonical : ∀ e ∈ a.other.entries, e.2.Canonical) :
    Reads depth Attachment.ofTree? (.object a.members) a := by
  refine Json.reads_structure rfl (fun _ => rfl)
    (memberOf "shasum" a.shasum ++ memberOf "version" a.version) a.other.entries ?_ ?_ havoids
    fun depth field hfield b => ?_
  · cases a.shasum <;> cases a.version <;> simp [memberOf]
  · cases a.shasum <;> cases a.version <;> simp [memberOf]
  dsimp only
  rw [hfield "shasum" (by simp), hfield "version" (by simp), Entries.find?_append,
    Entries.find?_append, find?_memberOf, find?_memberOf, find?_memberOf_of_ne (by decide),
    find?_memberOf_of_ne (by decide), Option.or_none, Option.none_or]
  simp only [Option.bind_eq_bind, Option.bind_eq_some_iff, optional_text,
    Json.rest?_written hcanonical]
  constructor
  · rintro ⟨_, rfl, _, rfl, _, ⟨hcarried, rfl⟩, ⟨⟩⟩
    exact ⟨List.forall_mem_append.2 ⟨nesting_memberOf _ _, nesting_memberOf _ _⟩, hcarried, rfl⟩
  · rintro ⟨-, hcarried, rfl⟩
    exact ⟨_, rfl, _, rfl, _, ⟨hcarried, rfl⟩, rfl⟩

theorem Attachment.avoids_of_ofTree? {t : Json.Tree} {a : Attachment} (h : ofTree? t = some a) :
    Avoids ["shasum", "version"] a.other := by
  obtain ⟨⟨field, rest⟩, hsplit, h⟩ := Option.bind_eq_some_iff.1 h
  obtain ⟨shasum, -, h⟩ := Option.bind_eq_some_iff.1 h
  obtain ⟨version, -, h⟩ := Option.bind_eq_some_iff.1 h
  obtain ⟨other, hother, h⟩ := Option.bind_eq_some_iff.1 h
  cases h
  exact Json.avoids_rest? hsplit hother

/-- **A mark is read back.** -/
theorem Mark.reads {m : Mark}
    (hfetched : -0x8000000000000000 ≤ m.fetched ∧ m.fetched ≤ 0x7fffffffffffffff) :
    Reads depth Mark.ofTree? (.object m.members) m := by
  rw [← List.append_nil m.members]
  refine Json.reads_structure rfl (fun _ => Option.bind_map ..) m.members [] ?_ ?_ nofun
    fun depth field hmembers b => ?_
  · cases hetag : m.etag <;> simp [members, memberOf, hetag]
  · cases hetag : m.etag <;> simp [members, memberOf, hetag]
  have hetag : field "etag" = (m.etag.map Json.string).map (treeWithin depth) := by
    rw [hmembers "etag" (by simp), members, Entries.find?_append, find?_memberOf]
    exact congrArg _ (Option.or_none ..)
  have hfield : field "fetched" = some (treeWithin depth (.number (.int m.fetched))) := by
    rw [hmembers "fetched" (by simp), members, Entries.find?_append,
      find?_memberOf_of_ne (by decide)]
    rfl
  dsimp only [Function.comp]
  rw [hetag, hfield]
  simp only [Option.bind_eq_bind, Option.bind_eq_some_iff, optional_text, Json.Tree.required,
    Json.reads_integer hfetched _]
  constructor
  · rintro ⟨_, rfl, _, ⟨-, rfl⟩, ⟨⟩⟩
    exact ⟨List.forall_mem_append.2 ⟨nesting_memberOf _ _, by simp [Json.nesting]⟩, nofun, rfl⟩
  · rintro ⟨-, -, rfl⟩
    exact ⟨_, rfl, _, ⟨Nat.zero_le _, rfl⟩, rfl⟩

/-! ## Packages -/

namespace Package

variable {p : Package}

/-- The members that a package interprets. -/
def knownMembers (p : Package) : List (String × Json) :=
  [("name", .string p.name),
    ("versions", writtenMap Manifest.members p.versions),
    ("dist-tags", .object (p.tags.entries.map fun t => (t.1, .string t.2)))] ++
  memberOf "readme" p.readme ++
  [("_attachments", writtenMap Attachment.members p.attachments)] ++
  if p.marks.isEmpty then [] else [("_uplinks", writtenMap Mark.members p.marks)]

theorem members_eq (p : Package) : p.members = p.knownMembers ++ p.other.entries := rfl

/-- **No carried member has the name of a known one.** -/
structure Distinct (p : Package) : Prop where
  /-- Beside the members of the package. -/
  other : Avoids knownNames p.other
  /-- Beside the members of a manifest. -/
  attributes : ∀ v ∈ p.versions.entries, Avoids ["version"] v.2.attributes
  /-- Beside the members of an attachment. -/
  attached : ∀ a ∈ p.attachments.entries, Avoids ["shasum", "version"] a.2.other

/-- Values that a package can carry. -/
def Carries (d : Dict Json) : Prop := ∀ e ∈ d.entries, e.2.Canonical ∧ e.2.Integral

/-- **What a package admits**: numbers are integers of 64 bits, and the objects among the carried
values are maps. -/
structure Admitted (p : Package) : Prop where
  /-- The values beside the members of the package. -/
  other : Carries p.other
  /-- The values beside the members of a manifest. -/
  attributes : ∀ v ∈ p.versions.entries, Carries v.2.attributes
  /-- The values beside the members of an attachment. -/
  attached : ∀ a ∈ p.attachments.entries, Carries a.2.other
  /-- The times of the marks, in 64 bits with a sign. -/
  fetched : ∀ m ∈ p.marks.entries,
    -0x8000000000000000 ≤ m.2.fetched ∧ m.2.fetched ≤ 0x7fffffffffffffff

/-- **Every value that a package carries** has a property. -/
structure Carried (P : Json → Prop) (p : Package) : Prop where
  /-- The values beside the members of the package. -/
  other : ∀ e ∈ p.other.entries, P e.2
  /-- The values beside the members of a manifest. -/
  attributes : ∀ v ∈ p.versions.entries, ∀ e ∈ v.2.attributes.entries, P e.2
  /-- The values beside the members of an attachment. -/
  attached : ∀ a ∈ p.attachments.entries, ∀ e ∈ a.2.other.entries, P e.2

/-- The times of the marks have 64 bits with a sign. -/
def Timed (p : Package) : Prop :=
  ∀ m ∈ p.marks.entries, -0x8000000000000000 ≤ m.2.fetched ∧ m.2.fetched ≤ 0x7fffffffffffffff

theorem Carried.mono {P Q : Json → Prop} (h : ∀ j, P j → Q j) (hcarried : p.Carried P) :
    p.Carried Q where
  other e he := h _ (hcarried.other e he)
  attributes v hv e he := h _ (hcarried.attributes v hv e he)
  attached a ha e he := h _ (hcarried.attached a ha e he)

/-- What a package admits is said of what it carries and of its times. -/
theorem admitted_iff :
    p.Admitted ↔ p.Carried (fun j => j.Canonical ∧ j.Integral) ∧ p.Timed :=
  ⟨fun h => ⟨⟨h.other, h.attributes, h.attached⟩, h.fetched⟩,
    fun ⟨h, htimed⟩ => ⟨h.other, h.attributes, h.attached, htimed⟩⟩

/-- A map is read back when its values are. -/
theorem reads_writtenMap {α : Type} {item : Json.Tree → Option α}
    {members : α → List (String × Json)} {d : Dict α}
    (h : ∀ e ∈ d.entries, ∀ depth, Reads depth item (.object (members e.2)) e.2) :
    Reads depth (Json.Tree.mapOf? item) (writtenMap members d) d :=
  Json.reads_map (fun a => .object (members a)) h

/-- Each member that a package interprets is found under its own name. -/
theorem knownMembers_find? (p : Package) :
    Entries.find? "name" p.knownMembers = some (.string p.name) ∧
      Entries.find? "versions" p.knownMembers = some (writtenMap Manifest.members p.versions) ∧
      Entries.find? "dist-tags" p.knownMembers =
        some (.object (p.tags.entries.map fun t => (t.1, .string t.2))) ∧
      Entries.find? "readme" p.knownMembers = p.readme.map Json.string ∧
      Entries.find? "_attachments" p.knownMembers =
        some (writtenMap Attachment.members p.attachments) ∧
      Entries.find? "_uplinks" p.knownMembers =
        if p.marks.isEmpty then none else some (writtenMap Mark.members p.marks) := by
  cases hreadme : p.readme <;> cases hmarks : p.marks.isEmpty <;>
    simp [knownMembers, memberOf, Entries.find?, hreadme, hmarks]

theorem knownMembers_nesting (p : Package) :
    (∀ m ∈ p.knownMembers, m.2.nesting ≤ depth) ↔
      (writtenMap Manifest.members p.versions).nesting ≤ depth ∧
      (Json.object (p.tags.entries.map fun t => (t.1, .string t.2))).nesting ≤ depth ∧
      (writtenMap Attachment.members p.attachments).nesting ≤ depth ∧
      (p.marks.isEmpty = true ∨ (writtenMap Mark.members p.marks).nesting ≤ depth) := by
  have hname : (Json.string p.name).nesting ≤ depth := Nat.zero_le depth
  have hreadme : (∀ m ∈ memberOf "readme" p.readme, m.2.nesting ≤ depth) ↔ True :=
    iff_true_intro (nesting_memberOf _ _)
  cases hmarks : p.marks.isEmpty <;>
    simp only [knownMembers, List.forall_mem_append, List.forall_mem_cons, List.not_mem_nil,
      false_implies, implies_true, hname, hreadme, hmarks, and_true, true_and, and_assoc,
      if_true, if_false, Bool.false_eq_true, true_or, false_or]

/-- The marks are read back, also when there are none and no member says so. -/
theorem reads_marks (htimed : p.Timed) (b : Dict Mark) :
    Json.Tree.orElse ∅ (Json.Tree.mapOf? Mark.ofTree?)
        ((if p.marks.isEmpty then none else some (writtenMap Mark.members p.marks)).map
          (treeWithin depth)) = some b ↔
      (p.marks.isEmpty = true ∨ (writtenMap Mark.members p.marks).nesting ≤ depth) ∧
        b = p.marks := by
  by_cases hempty : p.marks.isEmpty = true
  · have hmarks : p.marks = ∅ := Dict.ext (List.isEmpty_iff.1 hempty)
    rw [if_pos hempty, hmarks]
    exact ⟨fun h => ⟨.inl rfl, (Option.some.inj h).symm⟩, fun h => congrArg some h.2.symm⟩
  · rw [if_neg hempty, or_iff_right hempty]
    exact reads_writtenMap (fun m hm _ => Mark.reads (htimed m hm)) b

/-- **A package whose members are distinct is read back**, unless it is nested too deep. -/
theorem reads (hcarried : p.Carried Json.Canonical) (htimed : p.Timed) (hdistinct : p.Distinct) :
    Reads depth ofTree? p.written p := by
  obtain ⟨hname, hversions, htags, hreadme, hattachments, hmarks⟩ := p.knownMembers_find?
  refine Json.reads_structure rfl (fun _ => rfl) p.knownMembers p.other.entries ?_ ?_
    hdistinct.other fun depth field hfield b => ?_
  · cases hreadme : p.readme <;> cases hmarks : p.marks.isEmpty <;>
      simp [knownMembers, memberOf, knownNames, hreadme, hmarks]
  · cases hreadme : p.readme <;> cases hmarks : p.marks.isEmpty <;>
      simp [knownMembers, memberOf, hreadme, hmarks]
  dsimp only
  rw [hfield "name" (by decide), hfield "versions" (by decide), hfield "dist-tags" (by decide),
    hfield "readme" (by decide), hfield "_attachments" (by decide), hfield "_uplinks" (by decide),
    hname, hversions, htags, hreadme, hattachments, hmarks]
  have hmanifests : Reads depth (Json.Tree.mapOf? Manifest.ofTree?)
      (writtenMap Manifest.members p.versions) p.versions :=
    reads_writtenMap fun v hv _ => Manifest.reads (hdistinct.attributes v hv)
      (hcarried.attributes v hv)
  have hattached : Reads depth (Json.Tree.mapOf? Attachment.ofTree?)
      (writtenMap Attachment.members p.attachments) p.attachments :=
    reads_writtenMap fun a ha _ => Attachment.reads (hdistinct.attached a ha)
      (hcarried.attached a ha)
  have htagged : Reads depth (Json.Tree.mapOf? Json.Tree.text?)
      (.object (p.tags.entries.map fun t => (t.1, .string t.2))) p.tags :=
    Json.reads_map _ fun t _ _ => Json.reads_text t.2
  have helse {α : Type} (missing : α) (item : Json.Tree → Option α) (t : Json.Tree) :
      Json.Tree.orElse missing item (some t) = item t := rfl
  simp only [Option.bind_eq_bind, Option.bind_eq_some_iff, Option.map_some, Json.Tree.required,
    helse, Json.reads_text _ _, hmanifests _, htagged _, hattached _, optional_text,
    reads_marks htimed, Json.rest?_written hcarried.other,
    knownMembers_nesting]
  constructor
  · rintro ⟨_, ⟨-, rfl⟩, _, ⟨hv, rfl⟩, _, ⟨ht, rfl⟩, _, rfl, _, ⟨ha, rfl⟩, _, ⟨hm, rfl⟩, _,
      ⟨ho, rfl⟩, ⟨⟩⟩
    exact ⟨⟨hv, ht, ha, hm⟩, ho, rfl⟩
  · rintro ⟨⟨hv, ht, ha, hm⟩, ho, rfl⟩
    exact ⟨_, ⟨Nat.zero_le _, rfl⟩, _, ⟨hv, rfl⟩, _, ⟨ht, rfl⟩, _, rfl, _, ⟨ha, rfl⟩, _, ⟨hm, rfl⟩,
      _, ⟨ho, rfl⟩, rfl⟩

/-- **A package that has been read has distinct members.** -/
theorem distinct_of_ofTree? {t : Json.Tree} (h : ofTree? t = some p) : p.Distinct := by
  obtain ⟨⟨field, rest⟩, hsplit, h⟩ := Option.bind_eq_some_iff.1 h
  obtain ⟨name, -, h⟩ := Option.bind_eq_some_iff.1 h
  obtain ⟨versions, hversions, h⟩ := Option.bind_eq_some_iff.1 h
  obtain ⟨tags, -, h⟩ := Option.bind_eq_some_iff.1 h
  obtain ⟨readme, -, h⟩ := Option.bind_eq_some_iff.1 h
  obtain ⟨attachments, hattachments, h⟩ := Option.bind_eq_some_iff.1 h
  obtain ⟨marks, -, h⟩ := Option.bind_eq_some_iff.1 h
  obtain ⟨other, hother, h⟩ := Option.bind_eq_some_iff.1 h
  cases h
  refine ⟨Json.avoids_rest? hsplit hother, fun v hv => ?_, fun a ha => ?_⟩
  · obtain ⟨t', ht'⟩ := Json.mem_orElse_mapOf? hversions v hv
    exact Manifest.avoids_of_ofTree? ht'
  · obtain ⟨t', ht'⟩ := Json.mem_orElse_mapOf? hattachments a ha
    exact Attachment.avoids_of_ofTree? ht'

/-! ## What is written has no other numbers -/

section Numbers

variable {P : Json.Number → Prop}

theorem numbers_object {members : List (String × Json)} (h : ∀ m ∈ members, m.2.Numbers P) :
    (Json.object members).Numbers P :=
  Json.numbersMembers_iff.2 h

theorem numbers_writtenMap {α : Type} {members : α → List (String × Json)} {d : Dict α}
    (h : ∀ e ∈ d.entries, ∀ m ∈ members e.2, m.2.Numbers P) : (writtenMap members d).Numbers P :=
  numbers_object (List.forall_mem_map.2 fun e he => numbers_object (h e he))

theorem numbers_memberOf (name : String) (s : Option String) :
    ∀ m ∈ memberOf name s, m.2.Numbers P := by
  cases s <;> simp [memberOf, Json.Numbers]

/-- **What is written for a package** has the numbers that it carries and the times of its marks. -/
theorem Carried.numbers_written (hcarried : p.Carried (Json.Numbers P))
    (htimes : ∀ m ∈ p.marks.entries, P (.int m.2.fetched)) : p.written.Numbers P := by
  have hname : (Json.string p.name).Numbers P := trivial
  have hmanifests : (writtenMap Manifest.members p.versions).Numbers P :=
    numbers_writtenMap fun v hv =>
      List.forall_mem_cons.2 ⟨trivial, fun e he => hcarried.attributes v hv e he⟩
  have htags : (Json.object (p.tags.entries.map fun t => (t.1, .string t.2))).Numbers P :=
    numbers_object (List.forall_mem_map.2 fun _ _ => trivial)
  have hattached : (writtenMap Attachment.members p.attachments).Numbers P :=
    numbers_writtenMap fun a ha => List.forall_mem_append.2
      ⟨List.forall_mem_append.2 ⟨numbers_memberOf _ _, numbers_memberOf _ _⟩,
        fun e he => hcarried.attached a ha e he⟩
  have hmarks : (writtenMap Mark.members p.marks).Numbers P :=
    numbers_writtenMap fun m hm => List.forall_mem_append.2
      ⟨numbers_memberOf _ _, List.forall_mem_singleton.2 (htimes m hm)⟩
  have hreadme := iff_true_intro (numbers_memberOf (P := P) "readme" p.readme)
  have hother := iff_true_intro hcarried.other
  refine numbers_object ?_
  cases hempty : p.marks.isEmpty <;>
    simp only [members_eq, knownMembers, List.forall_mem_append, List.forall_mem_cons,
      List.not_mem_nil, false_implies, implies_true, hname, hmanifests, htags, hreadme, hattached,
      hmarks, hother, hempty, and_true, if_true, if_false, Bool.false_eq_true]

end Numbers

/-- The time of a mark is a number that a document may have. -/
theorem Timed.fits (h : p.Timed) : ∀ m ∈ p.marks.entries, Json.Number.Fits (.int m.2.fetched) := by
  intro m hm
  obtain ⟨hlow, hhigh⟩ := h m hm
  exact ⟨hlow, by omega⟩

end Package

/-! ## What is read for a package -/

/-- The manifest with its values as they are read. -/
def Manifest.reread (m : Manifest) : Manifest :=
  { m with attributes := m.attributes.mapValues Json.reread }

/-- The attachment with its values as they are read. -/
def Attachment.reread (a : Attachment) : Attachment :=
  { a with other := a.other.mapValues Json.reread }

/-- **The package with its values as they are read.** -/
def Package.reread (p : Package) : Package :=
  { p with
    versions := p.versions.mapValues Manifest.reread
    attachments := p.attachments.mapValues Attachment.reread
    other := p.other.mapValues Json.reread }

theorem rereadMembers_memberOf (name : String) (s : Option String) :
    Json.rereadMembers (memberOf name s) = memberOf name s := by
  cases s <;> rfl

/-- The version of a manifest is read as it is, being a text. -/
theorem Manifest.rereadMembers_members (m : Manifest) :
    Json.rereadMembers m.members = m.reread.members :=
  congrArg (("version", Json.string m.version) :: ·) (Json.rereadMembers_entries m.attributes)

theorem Attachment.rereadMembers_members (a : Attachment) :
    Json.rereadMembers a.members = a.reread.members := by
  rw [members, Json.rereadMembers_append, Json.rereadMembers_append, rereadMembers_memberOf,
    rereadMembers_memberOf, Json.rereadMembers_entries]
  rfl

theorem Mark.rereadMembers_members (m : Mark) : Json.rereadMembers m.members = m.members := by
  rw [members, Json.rereadMembers_append, rereadMembers_memberOf]
  rfl

namespace Package

variable {p : Package} {P Q : Json → Prop}

theorem reread_writtenMap {α : Type} {members : α → List (String × Json)} {f : α → α}
    (h : ∀ a, Json.rereadMembers (members a) = members (f a)) (d : Dict α) :
    (writtenMap members d).reread = writtenMap members (d.mapValues f) := by
  rw [writtenMap, Json.reread, Json.rereadMembers_eq, List.map_map, writtenMap, Dict.mapValues,
    List.map_map]
  exact congrArg Json.object
    (List.map_congr_left fun e _ => congrArg (e.1, Json.object ·) (h e.2))

theorem rereadMembers_knownMembers (p : Package) :
    Json.rereadMembers p.knownMembers = p.reread.knownMembers := by
  have htags : (Json.object (p.tags.entries.map fun t => (t.1, .string t.2))).reread =
      .object (p.tags.entries.map fun t => (t.1, .string t.2)) := by
    rw [Json.reread, Json.rereadMembers_eq, List.map_map]
    rfl
  have hmarks : Json.rereadMembers
      (if p.marks.isEmpty then [] else [("_uplinks", writtenMap Mark.members p.marks)]) =
        if p.marks.isEmpty then [] else [("_uplinks", writtenMap Mark.members p.marks)] := by
    split
    · rfl
    · rw [Json.rereadMembers, reread_writtenMap (f := id) Mark.rereadMembers_members]
      have hid : p.marks.mapValues id = p.marks := Dict.ext (List.map_id p.marks.entries)
      rw [hid]
      rfl
  rw [knownMembers, Json.rereadMembers_append, Json.rereadMembers_append, Json.rereadMembers_append,
    rereadMembers_memberOf, hmarks]
  simp only [Json.rereadMembers, htags, reread_writtenMap Manifest.rereadMembers_members,
    reread_writtenMap Attachment.rereadMembers_members]
  rfl

/-- **What is read for what is written** is what is written for the package that is read. -/
theorem reread_written (p : Package) : p.written.reread = p.reread.written := by
  rw [written, Json.reread, members_eq, Json.rereadMembers_append, rereadMembers_knownMembers,
    Json.rereadMembers_entries]
  rfl

theorem Carried.reread (h : ∀ j, P j → Q j.reread) (hcarried : p.Carried P) :
    p.reread.Carried Q where
  other := List.forall_mem_map.2 fun e he => h _ (hcarried.other e he)
  attributes := List.forall_mem_map.2 fun v hv =>
    List.forall_mem_map.2 fun e he => h _ (hcarried.attributes v hv e he)
  attached := List.forall_mem_map.2 fun a ha =>
    List.forall_mem_map.2 fun e he => h _ (hcarried.attached a ha e he)

theorem avoids_mapValues {α β : Type} {names : List String} {d : Dict α} {f : α → β} :
    Avoids names (d.mapValues f) ↔ Avoids names d :=
  List.forall_mem_map

/-- Reading values again changes no name. -/
theorem distinct_reread : p.reread.Distinct ↔ p.Distinct :=
  ⟨fun ⟨hother, hattributes, hattached⟩ => ⟨avoids_mapValues.1 hother,
      fun v hv => avoids_mapValues.1 (List.forall_mem_map.1 hattributes v hv),
      fun a ha => avoids_mapValues.1 (List.forall_mem_map.1 hattached a ha)⟩,
    fun ⟨hother, hattributes, hattached⟩ => ⟨avoids_mapValues.2 hother,
      List.forall_mem_map.2 fun v hv => avoids_mapValues.2 (hattributes v hv),
      List.forall_mem_map.2 fun a ha => avoids_mapValues.2 (hattached a ha)⟩⟩

/-- Nor does it change how deep they are nested. -/
theorem nesting_written_reread (p : Package) : p.reread.written.nesting = p.written.nesting := by
  rw [← reread_written]
  exact (Json.stays_reread p.written).nesting

/-- **The text of a package is read as the package with its values as they are read if and only if**
its members are distinct and nested no deeper than a reader goes. -/
theorem decode_encode_reread_iff (hcanonical : p.Carried Json.Canonical)
    (hlegible : p.Carried Json.Legible) (htimed : p.Timed) :
    decode p.encode = some p.reread ↔ p.Distinct ∧ p.written.nesting ≤ Json.maxDepth := by
  have hwritten : p.written.Legible := hlegible.numbers_written htimed.fits
  have hdecode : decode p.encode = ofTree? (treeWithin Json.maxDepth p.reread.written) := by
    rw [decode, encode, Json.read_write_reread Json.maxDepth hwritten, reread_written]
    rfl
  have hreads (hdistinct : p.reread.Distinct) : decode p.encode = some p.reread ↔
      p.written.nesting ≤ Json.maxDepth := by
    rw [hdecode, ← nesting_written_reread]
    have hcarried : p.reread.Carried Json.Canonical :=
      hcanonical.reread fun j => (Json.stays_reread j).canonical
    exact (reads hcarried htimed hdistinct p.reread).trans (and_iff_left rfl)
  constructor
  · intro hread
    have hdistinct := distinct_of_ofTree? (hdecode ▸ hread)
    exact ⟨distinct_reread.1 hdistinct, (hreads hdistinct).1 hread⟩
  · rintro ⟨hdistinct, hnesting⟩
    exact (hreads (distinct_reread.2 hdistinct)).2 hnesting

theorem mapValues_of_eq {α : Type} {f : α → α} {d : Dict α} (h : ∀ e ∈ d.entries, f e.2 = e.2) :
    d.mapValues f = d :=
  Dict.ext ((List.map_congr_left fun e he => congrArg (e.1, ·) (h e he)).trans (List.map_id _))

/-- Integers of 64 bits are read as they were. -/
theorem reread_of_integral (h : p.Carried Json.Integral) : p.reread = p := by
  have hdict {d : Dict Json} (h : ∀ e ∈ d.entries, e.2.Integral) : d.mapValues Json.reread = d :=
    mapValues_of_eq fun e he => (Json.reread_of_integral (h e he)).2
  have hversions : p.versions.mapValues Manifest.reread = p.versions :=
    mapValues_of_eq fun v hv =>
      congrArg (Manifest.mk v.2.version) (hdict (h.attributes v hv))
  have hattachments : p.attachments.mapValues Attachment.reread = p.attachments :=
    mapValues_of_eq fun a ha =>
      congrArg (Attachment.mk a.2.shasum a.2.version) (hdict (h.attached a ha))
  rw [reread, hversions, hattachments, hdict h.other]

/-- **A package is read back from its text if and only if** its members are distinct and nested no
deeper than a reader goes. -/
theorem decode_encode_iff (hadmitted : p.Admitted) :
    decode p.encode = some p ↔ p.Distinct ∧ p.written.nesting ≤ Json.maxDepth := by
  obtain ⟨hcarried, htimed⟩ := admitted_iff.1 hadmitted
  have hintegral : p.Carried Json.Integral := hcarried.mono fun _ => And.right
  have hlegible : p.Carried Json.Legible :=
    hintegral.mono fun _ h => (Json.reread_of_integral h).1
  have hiff := decode_encode_reread_iff (hcarried.mono fun _ => And.left) hlegible htimed
  rwa [reread_of_integral hintegral] at hiff

end Package

end RegistryProxy
