import RegistryProxy.Proofs.Json.Values
import RegistryProxy.Proofs.Package.RoundTrip

/-!
# Proofs/Package/Rereading — what was read once is read again

What a package carries was inside the tree it was read from: it is in name order, nested less deep
than the tree, and has no other numbers (`Holds`).  So a package that was read from a text has
numbers that a text may have, and its own text is nested no deeper than the reader goes; it is read
as it was when the numbers are integers (`Package.decode_encode`).
-/

namespace RegistryProxy

open Json (Inherits)

variable {α : Type} {depth : Nat} {t : Json.Tree}

namespace Json.Tree

/-! ## What is inside a tree -/

/-- **One tree is inside another**: it is nested less deep and has no other numbers. -/
structure Inside (t' t : Tree) : Prop where
  /-- There is a container around it. -/
  nesting : t'.nesting < t.nesting
  /-- Its numbers are numbers of the other. -/
  numbers : ∀ P, t.Numbers P → t'.Numbers P

/-- **A value that was inside a tree.** -/
structure Holds (t : Tree) (j : Json) : Prop where
  /-- It is in name order. -/
  canonical : j.Canonical
  /-- It is nested less deep. -/
  nesting : j.nesting < t.nesting
  /-- It has no other numbers. -/
  numbers : ∀ P, t.Numbers P → j.Numbers P

/-- What a member holds is inside the object. -/
theorem inside_member {members : List (Option String × Tree)} {m : Option String × Tree}
    (h : m ∈ members) : Inside m.2 (.object members) where
  nesting := Nat.lt_succ_of_le (nestingMembers_le.1 (Nat.le_refl _) m h)
  numbers := fun _ hnumbers => numbersMembers_iff.1 hnumbers m h

/-- The fields of a structure, and what it carries, are inside. -/
theorem inside_split? {names : List String} {field : String → Option Tree}
    {rest : List (Option String × Tree)} (h : split? names t = some (field, rest)) :
    0 < t.nesting ∧ (∀ name t', field name = some t' → Inside t' t) ∧
      ∀ carried, rest? rest = some carried → ∀ e ∈ carried.entries, t.Holds e.2 := by
  rw [split?.eq_def] at h
  split at h
  · next members =>
    obtain ⟨_, _, h⟩ := Option.bind_eq_some_iff.1 h
    obtain ⟨_, _, h⟩ := Option.bind_eq_some_iff.1 h
    cases h
    refine ⟨Nat.succ_pos _, fun name t' hfield => ?_, fun carried hrest e he => ?_⟩
    · obtain ⟨m, hm, rfl⟩ := Option.map_eq_some_iff.1 hfield
      exact inside_member (List.mem_of_find?_eq_some hm)
    · obtain ⟨t', ht', hvalue⟩ := mem_rest? hrest e he
      have hinside := inside_member (List.mem_filter.1 ht').1
      have hinherits := inherits hvalue
      exact ⟨hinherits.canonical, Nat.lt_of_le_of_lt hinherits.nesting hinside.nesting,
        fun P hnumbers => hinherits.numbers P (hinside.numbers P hnumbers)⟩
  · cases h

/-- The values of a map are inside. -/
theorem inside_mapOf? {item : Tree → Option α} {d : Dict α} (h : mapOf? item t = some d) :
    0 < t.nesting ∧ ∀ e ∈ d.entries, ∃ t', Inside t' t ∧ item t' = some e.2 := by
  rw [mapOf?.eq_def] at h
  split at h
  · obtain ⟨found, hfound, rfl⟩ := Option.map_eq_some_iff.1 h
    refine ⟨Nat.succ_pos _, fun e he => ?_⟩
    obtain ⟨t', ht', hitem⟩ := mem_entriesOf? hfound e (Dict.mem_ofList he)
    exact ⟨t', inside_member ht', hitem⟩
  · cases h

theorem Inside.trans {t₁ t₂ t₃ : Tree} (h : Inside t₁ t₂) (h' : Inside t₂ t₃) : Inside t₁ t₃ :=
  ⟨Nat.lt_trans h.nesting h'.nesting, fun P hnumbers => h.numbers P (h'.numbers P hnumbers)⟩

theorem Holds.outside {t' : Tree} {j : Json} (h : t'.Holds j) (h' : Inside t' t) : t.Holds j :=
  ⟨h.canonical, Nat.lt_trans h.nesting h'.nesting,
    fun P hnumbers => h.numbers P (h'.numbers P hnumbers)⟩

/-- The values of a map that may be missing are inside, if there are any. -/
theorem inside_orElse {item : Tree → Option α} {d : Dict α} {missing : Option Tree}
    (hmissing : ∀ t', missing = some t' → Inside t' t)
    (h : orElse ∅ (mapOf? item) missing = some d) :
    ∀ e ∈ d.entries, ∃ t', Inside t' t ∧ item t' = some e.2 := by
  cases missing with
  | none =>
    cases h
    exact nofun
  | some t₁ =>
    intro e he
    obtain ⟨t₂, hinside, hitem⟩ := (inside_mapOf? h).2 e he
    exact ⟨t₂, hinside.trans (hmissing t₁ rfl), hitem⟩

theorem integer?_bounds {low high n : Int} (h : integer? low high t = some n) :
    low ≤ n ∧ n ≤ high := by
  rw [integer?.eq_def] at h
  split at h
  · split at h
    · next hbounds =>
      cases h
      exact hbounds
    · cases h
  · cases h

end Json.Tree

open Json.Tree (Holds Inside)

/-! ## Manifests, attachments and marks -/

/-- Members that are nested less deep than a container make an object no deeper. -/
theorem nesting_object_le {members : List (String × Json)} (hpos : 0 < t.nesting)
    (h : ∀ m ∈ members, m.2.nesting < t.nesting) : (Json.object members).nesting ≤ t.nesting := by
  have hmembers : Json.nestingMembers members ≤ t.nesting - 1 :=
    Json.nestingMembers_le.2 fun m hm => Nat.le_sub_one_of_lt (h m hm)
  rw [Json.nesting]
  omega

theorem nesting_memberOf_lt (hpos : 0 < depth) (name : String) (s : Option String) :
    ∀ m ∈ memberOf name s, m.2.nesting < depth :=
  fun m hm => Nat.lt_of_le_of_lt (nesting_memberOf name s m hm) hpos

/-- A manifest carries what was inside its tree, and is written no deeper. -/
theorem Manifest.holds_of_ofTree? {m : Manifest} (h : ofTree? t = some m) :
    (Json.object m.members).nesting ≤ t.nesting ∧ ∀ e ∈ m.attributes.entries, t.Holds e.2 := by
  obtain ⟨⟨field, rest⟩, hsplit, h⟩ := Option.bind_eq_some_iff.1 h
  obtain ⟨version, -, h⟩ := Option.bind_eq_some_iff.1 h
  obtain ⟨attributes, hattributes, h⟩ := Option.bind_eq_some_iff.1 h
  cases h
  obtain ⟨hpos, -, hrest⟩ := Json.Tree.inside_split? hsplit
  have hholds := hrest attributes hattributes
  refine ⟨nesting_object_le hpos ?_, hholds⟩
  exact List.forall_mem_cons.2 ⟨hpos, fun e he => (hholds e he).nesting⟩

theorem Attachment.holds_of_ofTree? {a : Attachment} (h : ofTree? t = some a) :
    (Json.object a.members).nesting ≤ t.nesting ∧ ∀ e ∈ a.other.entries, t.Holds e.2 := by
  obtain ⟨⟨field, rest⟩, hsplit, h⟩ := Option.bind_eq_some_iff.1 h
  obtain ⟨shasum, -, h⟩ := Option.bind_eq_some_iff.1 h
  obtain ⟨version, -, h⟩ := Option.bind_eq_some_iff.1 h
  obtain ⟨other, hother, h⟩ := Option.bind_eq_some_iff.1 h
  cases h
  obtain ⟨hpos, -, hrest⟩ := Json.Tree.inside_split? hsplit
  have hholds := hrest other hother
  refine ⟨nesting_object_le hpos (List.forall_mem_append.2 ⟨List.forall_mem_append.2 ⟨?_, ?_⟩, ?_⟩),
    hholds⟩
  · exact nesting_memberOf_lt hpos "shasum" shasum
  · exact nesting_memberOf_lt hpos "version" version
  · exact fun e he => (hholds e he).nesting

/-- The time of a mark that was read has 64 bits. -/
theorem Mark.bounds_of_ofTree? {m : Mark} (h : ofTree? t = some m) :
    (Json.object m.members).nesting ≤ t.nesting ∧
      -0x8000000000000000 ≤ m.fetched ∧ m.fetched ≤ 0x7fffffffffffffff := by
  obtain ⟨field, hfields, h⟩ := Option.bind_eq_some_iff.1 h
  obtain ⟨etag, -, h⟩ := Option.bind_eq_some_iff.1 h
  obtain ⟨fetched, hfetched, h⟩ := Option.bind_eq_some_iff.1 h
  cases h
  have hpos : 0 < t.nesting := by
    cases t with
    | array | object => exact Nat.succ_pos _
    | null | bool | number | string | meaningless => cases hfields
  refine ⟨nesting_object_le hpos (List.forall_mem_append.2 ⟨?_, ?_⟩), ?_⟩
  · exact nesting_memberOf_lt hpos "etag" etag
  · exact List.forall_mem_singleton.2 hpos
  · cases hfield : field "fetched" with
    | none => simp [hfield, Json.Tree.required] at hfetched
    | some t' =>
      rw [hfield] at hfetched
      exact Json.Tree.integer?_bounds hfetched

/-! ## Packages -/

namespace Package

variable {p : Package}

/-- A map is written no deeper than it was read, and no deeper than one when it was missing. -/
theorem nesting_writtenMap_le {item : Json.Tree → Option α} {members : α → List (String × Json)}
    {d : Dict α} {missing : Option Json.Tree}
    (hitem : ∀ t a, item t = some a → (Json.object (members a)).nesting ≤ t.nesting)
    (hpos : 0 < depth) (hmissing : ∀ t, missing = some t → t.nesting ≤ depth)
    (h : Json.Tree.orElse ∅ (Json.Tree.mapOf? item) missing = some d) :
    (writtenMap members d).nesting ≤ depth := by
  cases missing with
  | none =>
    cases h
    exact hpos
  | some t =>
    obtain ⟨htpos, hinside⟩ := Json.Tree.inside_mapOf? h
    refine Nat.le_trans (nesting_object_le htpos ?_) (hmissing t rfl)
    refine List.forall_mem_map.2 fun e he => ?_
    obtain ⟨t', ht', hread⟩ := hinside e he
    exact Nat.lt_of_le_of_lt (hitem t' e.2 hread) ht'.nesting

theorem nesting_tags_le (hpos : 0 < depth) (tags : Dict String) :
    (Json.object (tags.entries.map fun t => (t.1, .string t.2))).nesting ≤ depth := by
  have hmembers : Json.nestingMembers (tags.entries.map fun t => (t.1, Json.string t.2)) ≤ 0 :=
    Json.nestingMembers_le.2 (List.forall_mem_map.2 fun _ _ => Nat.le_refl _)
  rw [Json.nesting]
  omega

/-- **A package that was read** carries what was inside the tree, and it is written no deeper than
the tree, or two deep. -/
theorem holds_of_ofTree? (h : ofTree? t = some p) :
    p.written.nesting ≤ max t.nesting 2 ∧ p.Carried t.Holds ∧ p.Timed := by
  obtain ⟨⟨field, rest⟩, hsplit, h⟩ := Option.bind_eq_some_iff.1 h
  obtain ⟨name, -, h⟩ := Option.bind_eq_some_iff.1 h
  obtain ⟨versions, hversions, h⟩ := Option.bind_eq_some_iff.1 h
  obtain ⟨tags, -, h⟩ := Option.bind_eq_some_iff.1 h
  obtain ⟨readme, -, h⟩ := Option.bind_eq_some_iff.1 h
  obtain ⟨attachments, hattachments, h⟩ := Option.bind_eq_some_iff.1 h
  obtain ⟨marks, hmarks, h⟩ := Option.bind_eq_some_iff.1 h
  obtain ⟨other, hother, h⟩ := Option.bind_eq_some_iff.1 h
  cases h
  obtain ⟨hpos, hinside, hrest⟩ := Json.Tree.inside_split? hsplit
  have hholds := hrest other hother
  refine ⟨?_, ⟨hholds, fun v hv e he => ?_, fun a ha e he => ?_⟩, fun m hm => ?_⟩
  · have hfield : ∀ name t', field name = some t' → t'.nesting ≤ max (t.nesting - 1) 1 := by
      intro name t' ht'
      have hlt := (hinside name t' ht').nesting
      omega
    have hone : 0 < max (t.nesting - 1) 1 := by omega
    have hmembers : Json.nestingMembers
        (members ⟨name, versions, tags, readme, attachments, marks, other⟩) ≤
          max (t.nesting - 1) 1 := by
      rw [members_eq, Json.nestingMembers_le, List.forall_mem_append, knownMembers_nesting]
      refine ⟨⟨?_, nesting_tags_le hone tags, ?_, .inr ?_⟩, fun e he => ?_⟩
      · exact nesting_writtenMap_le (fun _ _ h => (Manifest.holds_of_ofTree? h).1) hone
          (hfield "versions") hversions
      · exact nesting_writtenMap_le (fun _ _ h => (Attachment.holds_of_ofTree? h).1) hone
          (hfield "_attachments") hattachments
      · exact nesting_writtenMap_le (fun _ _ h => (Mark.bounds_of_ofTree? h).1) hone
          (hfield "_uplinks") hmarks
      · have hlt := (hholds e he).nesting
        omega
    rw [written, Json.nesting]
    omega
  · obtain ⟨t', ht', hread⟩ := Json.Tree.inside_orElse (hinside "versions") hversions v hv
    exact ((Manifest.holds_of_ofTree? hread).2 e he).outside ht'
  · obtain ⟨t', ht', hread⟩ := Json.Tree.inside_orElse (hinside "_attachments") hattachments a ha
    exact ((Attachment.holds_of_ofTree? hread).2 e he).outside ht'
  · obtain ⟨t', -, hread⟩ := Json.Tree.inside_orElse (hinside "_uplinks") hmarks m hm
    exact (Mark.bounds_of_ofTree? hread).2

/-- **A package that was read from a text is read again** from its own text, as it was. -/
theorem decode_encode {text : Bytes} (hread : Json.Tree.read Json.maxDepth text = some t)
    (hintegral : t.Integral) (hdecode : decode text = some p) : decode p.encode = some p := by
  have htree : ofTree? t = some p := by
    rw [decode, hread] at hdecode
    exact hdecode
  obtain ⟨hnesting, hcarried, htimed⟩ := holds_of_ofTree? htree
  have hadmitted : p.Admitted := by
    exact admitted_iff.2
      ⟨hcarried.mono fun j hj => ⟨hj.canonical, hj.numbers _ hintegral⟩, htimed⟩
  refine (decode_encode_iff hadmitted).2 ⟨distinct_of_ofTree? htree, ?_⟩
  refine Nat.le_trans hnesting (Nat.max_le.2 ⟨Json.nesting_of_read hread, ?_⟩)
  decide

end Package

end RegistryProxy
