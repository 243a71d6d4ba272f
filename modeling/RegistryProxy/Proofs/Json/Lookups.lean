import RegistryProxy.Proofs.Json.Values

/-!
# Proofs/Json/Lookups — structures, look-up by look-up

A structure that is read from a value in name order takes its fields from the look-ups of the value
and carries the members that are left (`split?_tree`).  What a structure writes settles to the
object that answers every look-up as its fields and its carried members do (`settled_structure`).
-/

namespace RegistryProxy

variable {α β : Type}

/-! ## Entries -/

namespace Entries

theorem find?_map (f : α → β) (key : String) (entries : List (String × α)) :
    find? key (entries.map fun e => (e.1, f e.2)) = (find? key entries).map f := by
  induction entries with
  | nil => rfl
  | cons e entries ih =>
    rw [List.map_cons, find?, find?, ih]
    split <;> rfl

theorem find?_filter (p : String → Bool) (key : String) (entries : List (String × α)) :
    find? key (entries.filter fun e => p e.1) = if p key then find? key entries else none := by
  induction entries with
  | nil => simp [find?]
  | cons e entries ih =>
    rw [List.filter_cons]
    by_cases hkey : key = e.1
    · by_cases hp : p e.1 = true
      · simp [find?, hkey, hp]
      · rw [if_neg hp, ih, hkey, if_neg hp, if_neg hp]
    · by_cases hp : p e.1 = true
      · simp [find?, hkey, hp, ih]
      · rw [if_neg hp, ih, find?, if_neg hkey]

theorem ascending_map {f : α → β} {entries : List (String × α)} :
    Ascending (entries.map fun e => (e.1, f e.2)) ↔ Ascending entries := by
  rw [Ascending, List.pairwise_map]
  rfl

/-- Each value in the place that it keeps, or none. -/
def refine (f : String → α → Option β) (entries : List (String × α)) : List (String × β) :=
  entries.filterMap fun e => (f e.1 e.2).map (e.1, ·)

theorem ascending_refine {f : String → α → Option β} {entries : List (String × α)}
    (h : Ascending entries) : Ascending (refine f entries) := by
  refine List.pairwise_filterMap.2 (h.imp ?_)
  intro e e' hlt b hb b' hb'
  obtain ⟨_, -, rfl⟩ := Option.map_eq_some_iff.1 hb
  obtain ⟨_, -, rfl⟩ := Option.map_eq_some_iff.1 hb'
  exact hlt

/-- **Refining refines each look-up.** -/
theorem find?_refine (f : String → α → Option β) {entries : List (String × α)}
    (h : Ascending entries) (key : String) :
    find? key (refine f entries) = (find? key entries).bind (f key) := by
  induction entries with
  | nil => rfl
  | cons e entries ih =>
    obtain ⟨hlt, hentries⟩ := List.pairwise_cons.1 h
    have hrest := ih hentries
    by_cases hkey : key = e.1
    · have hnone : find? key entries = none := by
        refine find?_eq_none_iff.2 fun e' he' heq => ?_
        have hlt' := hlt e' he'
        rw [heq, hkey] at hlt'
        exact String.lt_irrefl e.1 hlt'
      rw [hnone] at hrest
      subst hkey
      cases hf : f e.1 e.2 with
      | none => simpa [refine, find?, hf] using hrest
      | some b => simp [refine, find?, hf]
    · cases hf : f e.1 e.2 with
      | none => simpa [refine, find?, hf, hkey] using hrest
      | some b => simpa [refine, find?, hf, hkey] using hrest

end Entries

/-- Each value of a map in the place that it keeps, or none. -/
def Dict.refine (f : String → α → Option β) (d : Dict α) : Dict β :=
  ⟨Entries.refine f d.entries, Entries.ascending_refine d.ascending⟩

theorem Dict.find?_refine (f : String → α → Option β) (d : Dict α) (key : String) :
    (d.refine f).find? key = (d.find? key).bind (f key) :=
  Entries.find?_refine f d.ascending key

namespace Json

/-! ## Reading a value in name order -/

theorem text?_tree {j : Json} {s : String} (h : Tree.text? j.tree = some s) : j = .string s := by
  cases j <;> cases h
  rfl

/-- The members without these names are carried as they are. -/
theorem rest?_tree {names : List String} {d carried : Dict Json}
    (hcanonical : ∀ m ∈ d.entries, m.2.Canonical)
    (h : Tree.rest? ((treeMembers d.entries).filter fun m => !(names.any fun k => m.1 == some k)) =
      some carried) :
    carried.entries = d.entries.filter fun m => m.1 ∉ names := by
  have hfilter : ((treeMembers d.entries).filter fun m => !(names.any fun k => m.1 == some k)) =
      treeMembers (d.entries.filter fun m => m.1 ∉ names) := by
    rw [treeMembers_eq, treeMembers_eq, List.filter_map]
    refine congrArg (List.map _) (List.filter_congr fun m _ => ?_)
    change (!(names.any fun k => some m.1 == some k)) = decide (m.1 ∉ names)
    rw [Bool.eq_iff_iff, Bool.not_eq_true', Bool.eq_false_iff, decide_eq_true_eq]
    exact not_congr any_name
  have hvalue : ∀ m ∈ d.entries.filter fun m => m.1 ∉ names,
      m.2.tree.value? = some (id m.2) := by
    intro m hm
    rw [value?_tree, settled_of_canonical (hcanonical m (List.mem_filter.1 hm).1), id]
  have hid : ((d.entries.filter fun m => m.1 ∉ names).map fun m => (m.1, id m.2)) = _ :=
    List.map_id _
  rw [hfilter, Tree.rest?, entriesOf?_tree hvalue, hid] at h
  cases h
  exact congrArg Dict.entries
    (Dict.ofList_entries ⟨d.entries.filter fun m => m.1 ∉ names, d.ascending.filter _⟩)

/-- **A structure takes its fields from the look-ups** of a value in name order, and carries the
other members. -/
theorem split?_tree {names : List String} {j : Json} {field : String → Option Tree}
    {rest : List (Option String × Tree)} (hj : j.Canonical)
    (h : Tree.split? names j.tree = some (field, rest)) :
    ∃ d : Dict Json, j = .object d.entries ∧ (∀ m ∈ d.entries, m.2.Canonical) ∧
      (∀ name, field name = (d.find? name).map tree) ∧
      ∀ carried, Tree.rest? rest = some carried →
        (∀ m ∈ carried.entries, m.2.Canonical) ∧ Avoids names carried ∧
          ∀ name ∉ names, carried.find? name = d.find? name := by
  cases j with
  | null | bool | number | string | array => cases h
  | object members =>
    have hcanonical := canonicalMembers_iff.1 hj.2
    obtain ⟨_, _, hbuilt⟩ := Option.bind_eq_some_iff.1 h
    obtain ⟨_, _, hbuilt⟩ := Option.bind_eq_some_iff.1 hbuilt
    cases hbuilt
    have hfound (name : String) :
        Tree.member? name (treeMembers members) = (Entries.find? name members).map tree := by
      rw [treeMembers_eq, member?_map]
    refine ⟨⟨members, hj.1⟩, rfl, hcanonical, hfound, ?_⟩
    intro carried hrest
    have hentries := rest?_tree (d := ⟨members, hj.1⟩) hcanonical hrest
    refine ⟨fun m hm => ?_, avoids_rest? h hrest, fun name hname => ?_⟩
    · rw [hentries] at hm
      exact hcanonical m (List.mem_filter.1 hm).1
    · rw [Dict.find?, hentries, Entries.find?_filter fun k => decide (k ∉ names)]
      exact if_pos (decide_eq_true hname)

/-- **A structure settles to the object that answers alike.** -/
theorem settled_structure (names : List String) (known : List (String × Json))
    (carried target : Dict Json) (hknown : ∀ m ∈ known, m.1 ∈ names)
    (honce : (known.map Prod.fst).Nodup) (hcarried : Avoids names carried)
    (hcanonical : ∀ m ∈ carried.entries, m.2.Canonical)
    (hin : ∀ name ∈ names, target.find? name = (Entries.find? name known).map settled)
    (hout : ∀ name ∉ names, target.find? name = carried.find? name) :
    (object (known ++ carried.entries)).settled = object target.entries := by
  have hsettled : (carried.entries.map fun m => (m.1, m.2.settled)) = carried.entries.map id :=
    List.map_congr_left fun m hm => congrArg (m.1, ·) (settled_of_canonical (hcanonical m hm))
  have hnodup : ((known.map fun m => (m.1, m.2.settled)).map Prod.fst).Nodup := by
    rw [List.map_map]
    exact honce
  rw [settled_object, ofMembers, List.map_append, hsettled, List.map_id]
  refine congrArg (fun d : Dict Json => object d.entries) (Dict.ext_find? fun name => ?_)
  rw [Dict.find?_ofList_append, Dict.ofList_entries, Dict.find?_ofList_of_nodup hnodup,
    Entries.find?_map]
  by_cases hname : name ∈ names
  · have hnone : carried.find? name = none :=
      Entries.find?_eq_none_iff.2 fun e he heq => hcarried e he (heq ▸ hname)
    rw [hnone, Option.none_or, hin name hname]
  · have hnone : Entries.find? name known = none :=
      Entries.find?_eq_none_iff.2 fun e he heq => hname (heq ▸ hknown e he)
    rw [hnone, Option.map_none, Option.or_none, hout name hname]

end Json

end RegistryProxy
