import RegistryProxy.Proofs.Json.Lookups
import RegistryProxy.Proofs.Package.Rereading

/-!
# Proofs/Package/Passage — documents pass unharmed

`Package.normal` says all that reading a package from a document and writing it again does to the
document: missing maps become empty ones, some members that say nothing are left out, and a mark
keeps only what it consists of.  Each manifest, attachment and mark is written as it was read up to
this, and so is the package (`Package.Taken.document_eq`).
-/

namespace RegistryProxy

open Json (Avoids settled)

variable {α : Type}

/-! ## Documents in normal form -/

/-- A value, unless it is `null`. -/
def notNull (a : Json) : Option Json := if a = .null then none else some a

/-- Leaves a member with one of these names out when it is `null`. -/
def dropNull (names : List String) (name : String) (a : Json) : Option Json :=
  if name ∈ names then notNull a else some a

/-- Applies a function to every value of an object. -/
def Json.mapValues (f : Json → Json) : Json → Json
  | .object members => .object (members.map fun m => (m.1, f m.2))
  | j => j

/-- An attachment without a checksum or a version that is `null`. -/
def Attachment.normal : Json → Json
  | .object members => .object (Entries.refine (dropNull ["shasum", "version"]) members)
  | j => j

/-- The members of a mark: the tag unless it is `null`, and the time. -/
def Mark.keep (name : String) (a : Json) : Option Json :=
  if name ∈ ["etag", "fetched"] then dropNull ["etag"] name a else none

/-- A mark as an object of what it consists of. -/
def Mark.normal : Json → Json
  | .object members => .object (Entries.refine keep members)
  | .array items => .object (Entries.refine keep (["etag", "fetched"].zip items))
  | j => j

namespace Package

/-- What becomes of a member of a package. -/
def keep (name : String) (a : Json) : Option Json :=
  if name = "readme" then notNull a
  else if name = "_attachments" then some (a.mapValues Attachment.normal)
  else if name = "_uplinks" then if a = .object [] then none else some (a.mapValues Mark.normal)
  else some a

/-- The members of a package that are written when they were missing. -/
def missing : List (String × Json) :=
  [("versions", .object []), ("dist-tags", .object []), ("_attachments", .object [])]

/-- **What becomes of a document** that is read as a package and written again. -/
def normal : Json → Json
  | .object members => .ofMembers (missing ++ Entries.refine keep members)
  | j => j

end Package

/-! ## Fields -/

/-- A text that must be there. -/
theorem required_tree {a : Option Json} {s : String}
    (h : Json.Tree.required Json.Tree.text? (a.map Json.tree) = some s) : a = some (.string s) := by
  cases a with
  | none => cases h
  | some a => rw [Json.text?_tree h]

/-- A text that may be missing. -/
theorem optional_tree {a : Option Json} {s : Option String}
    (h : Json.Tree.optional Json.Tree.text? (a.map Json.tree) = some s) :
    a.bind notNull = s.map Json.string := by
  cases a with
  | none =>
    cases h
    rfl
  | some a =>
    cases a with
    | null =>
      cases h
      rfl
    | string =>
      cases h
      rfl
    | bool | number | array | object => cases h

/-- **A map is written as it was read** when its values are. -/
theorem mapOf?_tree {item : Json.Tree → Option α} {write : α → Json} {f : Json → Json}
    (hitem : ∀ j a, j.Canonical → item j.tree = some a → write a = f j) {j : Json} {d : Dict α}
    (hj : j.Canonical) (h : Json.Tree.mapOf? item j.tree = some d) :
    j.mapValues f = .object (d.entries.map fun e => (e.1, write e.2)) := by
  cases j with
  | null | bool | number | string | array => cases h
  | object members =>
    have hentries {members : List (String × Json)} (hcanonical : ∀ m ∈ members, m.2.Canonical) :
        ∀ {found}, Json.Tree.entriesOf? item (Json.treeMembers members) = some found →
          (found.map fun e => (e.1, write e.2)) = members.map fun m => (m.1, f m.2) := by
      induction members with
      | nil =>
        rintro _ ⟨⟩
        rfl
      | cons m members ih =>
        intro found hfound
        obtain ⟨hm, hmembers⟩ := List.forall_mem_cons.1 hcanonical
        rw [Json.treeMembers, Json.Tree.entriesOf?] at hfound
        obtain ⟨_, ⟨⟩, hfound⟩ := Option.bind_eq_some_iff.1 hfound
        obtain ⟨a, ha, hfound⟩ := Option.bind_eq_some_iff.1 hfound
        obtain ⟨rest, hrest, hfound⟩ := Option.bind_eq_some_iff.1 hfound
        cases hfound
        rw [List.map_cons, List.map_cons, hitem m.2 a hm ha, ih hmembers hrest]
    obtain ⟨found, hfound, rfl⟩ := Option.map_eq_some_iff.1 h
    have hmap := hentries (Json.canonicalMembers_iff.1 hj.2) hfound
    have hasc : Ascending found := by
      rw [← Entries.ascending_map (f := write), hmap, Entries.ascending_map]
      exact hj.1
    rw [Dict.ofList_entries ⟨found, hasc⟩, hmap]
    rfl

/-- A map that may be missing. -/
theorem orElse_tree {item : Json.Tree → Option α} {write : α → Json} {f : Json → Json}
    (hitem : ∀ j a, j.Canonical → item j.tree = some a → write a = f j) {a : Option Json}
    {d : Dict α} (ha : ∀ j, a = some j → j.Canonical)
    (h : Json.Tree.orElse ∅ (Json.Tree.mapOf? item) (a.map Json.tree) = some d) :
    (a.map (Json.mapValues f)).or (some (.object [])) =
      some (.object (d.entries.map fun e => (e.1, write e.2))) := by
  cases a with
  | none =>
    cases h
    rfl
  | some j => exact congrArg some (mapOf?_tree hitem (ha j rfl) h)

/-! ## Manifests, attachments and marks -/

/-- **A manifest is written as it was read.** -/
theorem Manifest.settled_of_ofTree? (j : Json) (m : Manifest) (hj : j.Canonical)
    (h : ofTree? j.tree = some m) : (Json.object m.members).settled = j := by
  obtain ⟨⟨field, rest⟩, hsplit, h⟩ := Option.bind_eq_some_iff.1 h
  obtain ⟨version, hversion, h⟩ := Option.bind_eq_some_iff.1 h
  obtain ⟨attributes, hattributes, h⟩ := Option.bind_eq_some_iff.1 h
  cases h
  obtain ⟨d, rfl, -, hfield, hrest⟩ := Json.split?_tree hj hsplit
  obtain ⟨hcanonical, havoids, hlookup⟩ := hrest attributes hattributes
  rw [hfield] at hversion
  refine Json.settled_structure ["version"] [("version", .string version)] attributes d
    (by simp) (by simp) havoids hcanonical ?_ fun name hname => (hlookup name hname).symm
  intro name hname
  cases List.mem_singleton.1 hname
  exact required_tree hversion

theorem dropNull_of_mem {names : List String} {name : String} (h : name ∈ names) :
    dropNull names name = notNull :=
  funext fun _ => if_pos h

theorem dropNull_of_not_mem {names : List String} {name : String} (h : name ∉ names) :
    dropNull names name = some :=
  funext fun _ => if_neg h

/-- **An attachment is written as it was read**, in normal form. -/
theorem Attachment.settled_of_ofTree? (j : Json) (a : Attachment) (hj : j.Canonical)
    (h : ofTree? j.tree = some a) : (Json.object a.members).settled = normal j := by
  obtain ⟨⟨field, rest⟩, hsplit, h⟩ := Option.bind_eq_some_iff.1 h
  obtain ⟨shasum, hshasum, h⟩ := Option.bind_eq_some_iff.1 h
  obtain ⟨version, hversion, h⟩ := Option.bind_eq_some_iff.1 h
  obtain ⟨other, hother, h⟩ := Option.bind_eq_some_iff.1 h
  cases h
  obtain ⟨d, rfl, -, hfield, hrest⟩ := Json.split?_tree hj hsplit
  obtain ⟨hcanonical, havoids, hlookup⟩ := hrest other hother
  rw [hfield] at hshasum hversion
  refine Json.settled_structure ["shasum", "version"]
    (memberOf "shasum" shasum ++ memberOf "version" version) other
    (d.refine (dropNull ["shasum", "version"])) ?_ ?_ havoids hcanonical ?_ ?_
  · cases shasum <;> cases version <;> simp [memberOf]
  · cases shasum <;> cases version <;> simp [memberOf]
  · intro name hname
    rw [Dict.find?_refine, dropNull_of_mem hname, Entries.find?_append]
    simp only [List.mem_cons, List.not_mem_nil, or_false] at hname
    obtain rfl | rfl := hname
    · refine (optional_tree hshasum).trans ?_
      rw [find?_memberOf, find?_memberOf_of_ne (by decide), Option.or_none]
      cases shasum <;> rfl
    · refine (optional_tree hversion).trans ?_
      rw [find?_memberOf, find?_memberOf_of_ne (by decide), Option.none_or]
      cases version <;> rfl
  · intro name hname
    rw [Dict.find?_refine, dropNull_of_not_mem hname, Option.bind_fun_some]
    exact (hlookup name hname).symm

theorem lookup_zip (names : List String) (items : List Json) (name : String) :
    (names.zip (Json.treeItems items)).lookup name =
      (Entries.find? name (names.zip items)).map Json.tree := by
  induction names generalizing items with
  | nil => rfl
  | cons k names ih =>
    cases items with
    | nil => rfl
    | cons a items =>
      rw [Json.treeItems, List.zip_cons_cons, List.zip_cons_cons, List.lookup_cons, Entries.find?,
        ih items]
      by_cases hname : name = k
      · simp [hname]
      · rw [if_neg hname, beq_eq_false_iff_ne.2 hname]

theorem integer?_tree {low high n : Int} {j : Json}
    (h : Json.Tree.integer? low high j.tree = some n) : j = .number (.int n) := by
  cases j with
  | null | bool | string | array | object => cases h
  | number value =>
    cases value with
    | real => cases h
    | int value =>
      rw [Json.tree, Json.Tree.integer?] at h
      split at h
      · cases h
        rfl
      · cases h

namespace Mark

/-- The fields of a mark are look-ups, also those of a mark that is an array. -/
theorem fields?_tree {j : Json} {field : String → Option Json.Tree} (hj : j.Canonical)
    (h : Json.Tree.fields? ["etag", "fetched"] j.tree = some field) :
    ∃ d : Dict Json, normal j = .object (Entries.refine keep d.entries) ∧
      ∀ name, field name = (d.find? name).map Json.tree := by
  cases j with
  | null | bool | number | string => cases h
  | object members =>
    obtain ⟨⟨field, rest⟩, hsplit, rfl⟩ := Option.map_eq_some_iff.1 h
    obtain ⟨d, hd, -, hfield, -⟩ := Json.split?_tree hj hsplit
    cases hd
    exact ⟨d, rfl, hfield⟩
  | array items =>
    rw [Json.tree, Json.Tree.fields?] at h
    split at h
    · cases h
      have hasc : Ascending (["etag", "fetched"].zip items) := by
        cases items with
        | nil => exact List.Pairwise.nil
        | cons a items =>
          cases items with
          | nil => exact List.pairwise_singleton ..
          | cons b items => exact List.pairwise_pair.2 (show "etag" < "fetched" by decide)
      exact ⟨⟨_, hasc⟩, rfl, lookup_zip _ items⟩
    · cases h

/-- **A mark is written as it was read**, in normal form. -/
theorem settled_of_ofTree? (j : Json) (m : Mark) (hj : j.Canonical)
    (h : ofTree? j.tree = some m) : (Json.object m.members).settled = normal j := by
  obtain ⟨field, hfields, h⟩ := Option.bind_eq_some_iff.1 h
  obtain ⟨etag, hetag, h⟩ := Option.bind_eq_some_iff.1 h
  obtain ⟨fetched, hfetched, h⟩ := Option.bind_eq_some_iff.1 h
  cases h
  obtain ⟨d, hnormal, hfield⟩ := fields?_tree hj hfields
  rw [hfield] at hetag hfetched
  rw [hnormal, ← List.append_nil (members _)]
  refine Json.settled_structure ["etag", "fetched"] (members ⟨etag, fetched⟩) ∅ (d.refine keep)
    ?_ ?_ nofun nofun ?_ ?_
  · cases etag <;> simp [members, memberOf]
  · cases etag <;> simp [members, memberOf]
  · intro name hname
    rw [Dict.find?_refine, members, Entries.find?_append]
    simp only [List.mem_cons, List.not_mem_nil, or_false] at hname
    obtain rfl | rfl := hname
    · refine (optional_tree hetag).trans ?_
      rw [find?_memberOf]
      cases etag <;> rfl
    · rw [find?_memberOf_of_ne (by decide), Option.none_or]
      cases hvalue : d.find? "fetched" with
      | none =>
        rw [hvalue] at hfetched
        cases hfetched
      | some j =>
        rw [hvalue] at hfetched
        cases integer?_tree hfetched
        rfl
  · intro name hname
    have hkeep : keep name = fun _ => none := funext fun _ => if_neg hname
    rw [Dict.find?_refine, hkeep, Option.bind_fun_none]
    rfl

end Mark

/-! ## Packages -/

namespace Package

variable {p : Package} {v : Json}

/-- What is written for a map. -/
theorem settled_writtenMap (members : α → List (String × Json)) (d : Dict α) :
    (writtenMap members d).settled =
      .object (d.entries.map fun e => (e.1, (Json.object (members e.2)).settled)) := by
  have hasc :=
    (Entries.ascending_map (f := fun a => (Json.object (members a)).settled)).2 d.ascending
  rw [writtenMap, Json.settled_object, List.map_map]
  exact Json.ofMembers_of_ascending hasc

theorem settled_tags (tags : Dict String) :
    (Json.object (tags.entries.map fun t => (t.1, .string t.2))).settled =
      .object (tags.entries.map fun t => (t.1, .string t.2)) := by
  have hasc : Ascending (tags.entries.map fun t => (t.1, Json.string t.2)) :=
    Entries.ascending_map.2 tags.ascending
  rw [Json.settled_object, List.map_map]
  exact Json.ofMembers_of_ascending hasc

/-- A map of values that are written as they were read. -/
theorem map_mapValues (a : Option Json) : (a.map (Json.mapValues fun j => j)) = a := by
  cases a with
  | none => rfl
  | some j =>
    cases j with
    | object members => exact congrArg (fun ms => some (Json.object ms)) (List.map_id members)
    | null | bool | number | string | array => rfl

theorem keep_of_ne {name : String} (hreadme : name ≠ "readme")
    (hattachments : name ≠ "_attachments") (hmarks : name ≠ "_uplinks") : keep name = some := by
  funext a
  rw [keep, if_neg hreadme, if_neg hattachments, if_neg hmarks]

theorem keep_attachments :
    keep "_attachments" = some ∘ Json.mapValues Attachment.normal := rfl

/-- The marks are left out when there are none, whether or not an empty object said so. -/
theorem keep_marks {a : Option Json} {marks : Dict Mark}
    (h : (a.map (Json.mapValues Mark.normal)).or (some (.object [])) =
      some (writtenMap Mark.members marks).settled) :
    a.bind (keep "_uplinks") =
      (if marks.isEmpty then none else some (writtenMap Mark.members marks)).map settled := by
  rw [settled_writtenMap] at h
  have hkeep (j : Json) : keep "_uplinks" j =
      if j = .object [] then none else some (j.mapValues Mark.normal) := rfl
  cases a with
  | none =>
    have hempty : marks.isEmpty = true := by simpa [Dict.isEmpty] using h.symm
    rw [if_pos hempty, Option.bind_none, Option.map_none]
  | some j =>
    have hj := Option.some.inj h
    have hempty : j = .object [] ↔ marks.isEmpty = true := by
      cases j with
      | null | bool | number | string | array => cases hj
      | object members =>
        have hlength := congrArg List.length (Json.object.inj hj)
        simp only [List.length_map] at hlength
        rw [Json.object.injEq, Dict.isEmpty, List.isEmpty_iff, ← List.length_eq_zero_iff, hlength,
          List.length_eq_zero_iff]
    rw [Option.bind_some, hkeep]
    by_cases hmarks : marks.isEmpty = true
    · rw [if_pos (hempty.2 hmarks), if_pos hmarks, Option.map_none]
    · rw [if_neg (mt hempty.1 hmarks), if_neg hmarks, Option.map_some, settled_writtenMap]
      exact h

/-- The look-ups of a document in normal form. -/
theorem find?_normal (d : Dict Json) (name : String) :
    (Dict.ofList (missing ++ Entries.refine keep d.entries)).find? name =
      ((d.find? name).bind (keep name)).or (Entries.find? name missing) := by
  have hrefine : Dict.ofList (Entries.refine keep d.entries) = d.refine keep :=
    Dict.ofList_entries (d.refine keep)
  rw [Dict.find?_ofList_append, hrefine, Dict.find?_refine,
    Dict.find?_ofList_of_nodup (by decide)]

/-- A member that a package does not interpret stays as it is. -/
theorem find?_normal_of_not_mem (d : Dict Json) {name : String} (hname : name ∉ knownNames) :
    (Dict.ofList (missing ++ Entries.refine keep d.entries)).find? name = d.find? name := by
  have hne {k : String} (hk : k ∈ knownNames) : name ≠ k := fun heq => hname (heq ▸ hk)
  have hmissing : Entries.find? name missing = none :=
    Entries.find?_eq_none_iff.2 fun e he => (hne (by revert e; decide)).symm
  rw [find?_normal, hmissing, Option.or_none, keep_of_ne (hne (by decide)) (hne (by decide))
    (hne (by decide)), Option.bind_fun_some]

/-- **What a package has taken from a document.** -/
structure Taken (d : Dict Json) (p : Package) : Prop where
  /-- The name. -/
  name : d.find? "name" = some (.string p.name)
  /-- The manifests, as they were. -/
  versions : (d.find? "versions").or (some (.object [])) =
    some (writtenMap Manifest.members p.versions).settled
  /-- The tags. -/
  tags : (d.find? "dist-tags").or (some (.object [])) =
    some (Json.object (p.tags.entries.map fun t => (t.1, .string t.2))).settled
  /-- The readme, unless it is `null`. -/
  readme : (d.find? "readme").bind notNull = p.readme.map Json.string
  /-- The attachments, in normal form. -/
  attachments : ((d.find? "_attachments").map (Json.mapValues Attachment.normal)).or
    (some (.object [])) = some (writtenMap Attachment.members p.attachments).settled
  /-- The marks, in normal form. -/
  marks : ((d.find? "_uplinks").map (Json.mapValues Mark.normal)).or (some (.object [])) =
    some (writtenMap Mark.members p.marks).settled
  /-- The other members. -/
  other : ∀ name ∉ knownNames, p.other.find? name = d.find? name
  /-- They are in name order. -/
  canonical : ∀ m ∈ p.other.entries, m.2.Canonical
  /-- They have no name that a package knows. -/
  avoids : Avoids knownNames p.other

theorem taken_of_ofJson? (hv : v.Canonical) (h : ofJson? v = some p) :
    ∃ d : Dict Json, v = .object d.entries ∧ Taken d p := by
  obtain ⟨⟨field, rest⟩, hsplit, h⟩ := Option.bind_eq_some_iff.1 h
  obtain ⟨name, hname, h⟩ := Option.bind_eq_some_iff.1 h
  obtain ⟨versions, hversions, h⟩ := Option.bind_eq_some_iff.1 h
  obtain ⟨tags, htags, h⟩ := Option.bind_eq_some_iff.1 h
  obtain ⟨readme, hreadme, h⟩ := Option.bind_eq_some_iff.1 h
  obtain ⟨attachments, hattachments, h⟩ := Option.bind_eq_some_iff.1 h
  obtain ⟨marks, hmarks, h⟩ := Option.bind_eq_some_iff.1 h
  obtain ⟨other, hother, h⟩ := Option.bind_eq_some_iff.1 h
  cases h
  obtain ⟨d, rfl, hcanonical, hfield, hrest⟩ := Json.split?_tree hv hsplit
  obtain ⟨hcarried, havoids, hlookup⟩ := hrest other hother
  have hvalue (name j) (hj : d.find? name = some j) : j.Canonical :=
    hcanonical _ (Dict.mem_of_find? hj)
  rw [hfield] at hname hversions htags hreadme hattachments hmarks
  have hversions := orElse_tree Manifest.settled_of_ofTree? (hvalue _) hversions
  have htags := orElse_tree (fun j s _ hs => (Json.text?_tree hs).symm) (hvalue _) htags
  have hattachments := orElse_tree Attachment.settled_of_ofTree? (hvalue _) hattachments
  have hmarks := orElse_tree Mark.settled_of_ofTree? (hvalue _) hmarks
  rw [map_mapValues] at hversions htags
  refine ⟨d, rfl, required_tree hname, ?_, ?_, optional_tree hreadme, ?_, ?_, hlookup, hcarried,
    havoids⟩
  · rw [settled_writtenMap, hversions]
  · rw [settled_tags, htags]
  · rw [settled_writtenMap, hattachments]
  · rw [settled_writtenMap, hmarks]

/-- **A package is written as it was read**, in normal form. -/
theorem Taken.document_eq {d : Dict Json} (h : Taken d p) :
    p.document = normal (.object d.entries) := by
  obtain ⟨hname, hversions, htags, hreadme, hattachments, hmarks⟩ := p.knownMembers_find?
  refine Json.settled_structure knownNames p.knownMembers p.other
    (Dict.ofList (missing ++ Entries.refine keep d.entries)) ?_ ?_ h.avoids h.canonical ?_ ?_
  · cases hreadme : p.readme <;> cases hmarks : p.marks.isEmpty <;>
      simp [knownMembers, memberOf, knownNames, hreadme, hmarks]
  · cases hreadme : p.readme <;> cases hmarks : p.marks.isEmpty <;>
      simp [knownMembers, memberOf, hreadme, hmarks]
  · intro name hmem
    rw [find?_normal]
    simp only [knownNames, List.mem_cons, List.not_mem_nil, or_false] at hmem
    obtain rfl | rfl | rfl | rfl | rfl | rfl := hmem
    · rw [hname, h.name]
      rfl
    · rw [hversions, keep_of_ne (by decide) (by decide) (by decide), Option.bind_fun_some]
      exact h.versions
    · rw [htags, keep_of_ne (by decide) (by decide) (by decide), Option.bind_fun_some]
      exact h.tags
    · have hkeep : keep "readme" = notNull := funext fun _ => if_pos rfl
      rw [hreadme, hkeep, h.readme]
      cases p.readme <;> rfl
    · rw [hattachments, keep_attachments, ← Option.map_eq_bind]
      exact h.attachments
    · rw [hmarks, keep_marks h.marks]
      exact Option.or_none ..
  · intro name hmem
    rw [find?_normal_of_not_mem d hmem, h.other name hmem]

/-! ## What is kept member by member -/

theorem get?_mapValues (f : Json → Json) (j : Json) (name : String) :
    (j.mapValues f).get? name = (j.get? name).map f := by
  cases j with
  | object members => exact Entries.find?_map f name members
  | null | bool | number | string | array => rfl

/-- A member that an attachment does not interpret stays as it is. -/
theorem get?_normal_attachment {j : Json} (hj : j.Canonical) {name : String}
    (hname : name ∉ ["shasum", "version"]) : (Attachment.normal j).get? name = j.get? name := by
  cases j with
  | object members =>
    have hrefine := Entries.find?_refine (dropNull ["shasum", "version"]) hj.1 name
    rw [dropNull_of_not_mem hname, Option.bind_fun_some] at hrefine
    exact hrefine
  | null | bool | number | string | array => rfl

theorem canonical_get? {j a : Json} {name : String} (hj : j.Canonical) (h : j.get? name = some a) :
    a.Canonical := by
  cases j with
  | object members =>
    exact Json.canonicalMembers_iff.1 hj.2 _ (Dict.mem_of_find? (d := ⟨members, hj.1⟩) h)
  | null | bool | number | string | array => cases h

/-- **Documents pass unharmed.**  A package that was read from a value is written as the value in
normal form: every member that nothing interprets keeps its value and none is added, beside the
members of the package, in every manifest and in every attachment.  A package that was read from a
text whose numbers are integers of 64 bits is read again from its own text as it was. -/
theorem passes_unharmed :
    (∀ (v : Json) (p : Package), v.Canonical → ofJson? v = some p →
      p.document = normal v ∧
        (∀ name ∉ knownNames, p.document.get? name = v.get? name) ∧
        p.document.get? "versions" = some ((v.get? "versions").getD (.object [])) ∧
        ∀ file, ∀ name ∉ ["shasum", "version"],
          ((p.document.get? "_attachments").bind (·.get? file)).bind (·.get? name) =
            ((v.get? "_attachments").bind (·.get? file)).bind (·.get? name)) ∧
      ∀ (text : Bytes) (t : Json.Tree) (p : Package),
        Json.Tree.read Json.maxDepth text = some t → t.Integral → decode text = some p →
          decode p.encode = some p := by
  refine ⟨?_, fun text t p => decode_encode⟩
  intro v p hv h
  obtain ⟨d, rfl, htaken⟩ := taken_of_ofJson? hv h
  rw [htaken.document_eq]
  refine ⟨rfl, fun name hname => find?_normal_of_not_mem d hname, ?_, ?_⟩
  · change (Dict.ofList _).find? "versions" = some ((d.find? "versions").getD (.object []))
    rw [find?_normal, keep_of_ne (by decide) (by decide) (by decide), Option.bind_fun_some]
    cases d.find? "versions" <;> rfl
  · intro file name hname
    change (((Dict.ofList _).find? "_attachments").bind _).bind _ =
      ((d.find? "_attachments").bind _).bind _
    rw [find?_normal, keep_attachments, ← Option.map_eq_bind]
    cases hattachments : d.find? "_attachments" with
    | none => rfl
    | some a =>
      have ha : a.Canonical := canonical_get? hv hattachments
      change ((a.mapValues Attachment.normal).get? file).bind _ = (a.get? file).bind _
      rw [get?_mapValues]
      cases hfile : a.get? file with
      | none => rfl
      | some j => exact get?_normal_attachment (canonical_get? ha hfile) hname

/-- A package with a mark that is an array, a readme that is `null` and nothing else but a
licence. -/
def halfMarked : Json :=
  .object [("_uplinks", .object [("npm", .array [.null, .number (.int 5)])]),
    ("license", .string "MIT"), ("name", .string "left-pad"), ("readme", .null)]

/-- The package that it is. -/
def leftPad : Package where
  name := "left-pad"
  marks := .ofList [("npm", { fetched := 5 })]
  other := .ofList [("license", .string "MIT")]

/-- It passes with the mark as an object, without the readme and with what was missing. -/
theorem passes_unharmed_halfMarked :
    halfMarked.Canonical ∧ ofJson? halfMarked = some leftPad ∧
      leftPad.document = .object [("_attachments", .object []),
        ("_uplinks", .object [("npm", .object [("fetched", .number (.int 5))])]),
        ("dist-tags", .object []), ("license", .string "MIT"), ("name", .string "left-pad"),
        ("versions", .object [])] ∧
      decode (Json.write halfMarked) = some leftPad ∧ decode leftPad.encode = some leftPad := by
  have hcanonical : halfMarked.Canonical :=
    (Json.inherits (show halfMarked.tree.value? = some halfMarked from rfl)).canonical
  have hinteger : Json.Number.Fits (.int 5) := ⟨by decide, by decide⟩
  have hwritten : halfMarked.Integral :=
    ⟨⟨⟨trivial, hinteger, trivial⟩, trivial⟩, trivial, trivial, trivial, trivial⟩
  have hintegral : (Json.treeWithin Json.maxDepth halfMarked).Integral :=
    ⟨⟨⟨trivial, hinteger, trivial⟩, trivial⟩, trivial, trivial, trivial, trivial⟩
  have hread := Json.read_write Json.maxDepth hwritten
  have hvalue : ofJson? halfMarked = some leftPad := rfl
  have hdecode : decode (Json.write halfMarked) = some leftPad := by
    rw [decode, hread]
    rfl
  obtain ⟨hdocument, htext⟩ := passes_unharmed
  exact ⟨hcanonical, hvalue, (hdocument halfMarked leftPad hcanonical hvalue).1, hdecode,
    htext _ _ leftPad hread hintegral hdecode⟩

end Package

end RegistryProxy
