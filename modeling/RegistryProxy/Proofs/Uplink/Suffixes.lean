import RegistryProxy.Proofs.Text.Case
import RegistryProxy.Uplink.Bypass

/-!
# Proofs/Uplink/Suffixes — the hosts that a bypass list covers

An entry and a host are compared as texts with a point in front.  So an entry covers a host if and
only if the host is the entry or ends in it behind a point (`covers_iff`): labels are covered as a
whole.  Nothing else of a list matters, neither its order nor the case of its letters nor whether it
is written in one text.
-/

namespace RegistryProxy

variable {host host' item : String} {cs name : List Char}

/-! ## One entry -/

/-- A name without the point in front, if there is one. -/
def withoutPoint : List Char → List Char
  | '.' :: cs => cs
  | cs => cs

/-- **The name that an entry stands for**: without blanks around it, in lower case, and without one
point in front. -/
def covered (item : String) : List Char :=
  withoutPoint (Text.lower (Text.trimmed item)).toList

/-- A host is a name or ends in it at the border of a label. -/
def EndsIn (host name : List Char) : Prop := host = name ∨ ∃ front, host = front ++ '.' :: name

theorem withoutPoint_eq_self (h : cs.head? ≠ some '.') : withoutPoint cs = cs := by
  rw [withoutPoint.eq_def]
  split
  · exact absurd rfl h
  · rfl

theorem dotted_eq (name : String) : dotted name = '.' :: withoutPoint (Text.lower name).toList := by
  rw [dotted]
  split
  next cs hcs => rw [hcs, withoutPoint]
  next hcs =>
    rw [withoutPoint_eq_self fun hpoint => ?_]
    obtain ⟨cs, hcs'⟩ := List.head?_eq_some_iff.1 hpoint
    exact hcs cs hcs'

theorem dotted_of_head? (hhost : host.toList.head? ≠ some '.') :
    dotted host = '.' :: (Text.lower host).toList := by
  rw [dotted_eq, withoutPoint_eq_self]
  rw [Text.lower, String.toList_ofList, List.head?_map]
  intro hpoint
  obtain ⟨c, hc, hlower⟩ := Option.map_eq_some_iff.1 hpoint
  exact hhost (hc.trans (congrArg some (Text.eq_of_toLower (by decide) hlower)))

theorem endsIn_iff : EndsIn cs name ↔ '.' :: name <:+ '.' :: cs := by
  rw [List.suffix_cons_iff, List.cons.injEq, EndsIn]
  refine or_congr ⟨fun h => ⟨rfl, h.symm⟩, fun h => h.2.symm⟩ ?_
  exact exists_congr fun front => eq_comm

/-- **What an entry covers.** -/
theorem covers_iff (hhost : host.toList.head? ≠ some '.') :
    covers host item = true ↔
      Text.trimmed item ≠ "" ∧ EndsIn (Text.lower host).toList (covered item) := by
  rw [covers, Bool.and_eq_true, List.isSuffixOf_iff_suffix, dotted_of_head? hhost, dotted_eq,
    endsIn_iff, covered]
  simp

theorem covers_trimmed (host item : String) :
    covers host (Text.trimmed item) = covers host item := by
  rw [covers, covers, Text.trimmed_trimmed]

theorem dotted_lower (name : String) : dotted (Text.lower name) = dotted name := by
  rw [dotted_eq, dotted_eq, Text.lower_lower]

theorem covers_lower (host item : String) :
    covers (Text.lower host) (Text.lower item) = covers host item := by
  have hempty : (Text.lower (Text.trimmed item)).isEmpty = (Text.trimmed item).isEmpty := by
    rw [Bool.eq_iff_iff, String.isEmpty_iff, String.isEmpty_iff, ← String.toList_eq_nil_iff,
      ← String.toList_eq_nil_iff, Text.lower, String.toList_ofList, List.map_eq_nil_iff]
  rw [covers, covers, Text.trimmed_lower, dotted_lower, dotted_lower, hempty]

/-! ## A whole setting -/

namespace Bypass

variable {b b' : Bypass}

/-- The setting in lower case. -/
def lower : Bypass → Bypass
  | .list items => .list (items.map Text.lower)
  | .joined text => .joined (Text.lower text)

theorem spelled_lower (b : Bypass) : b.lower.spelled = b.spelled.map Text.lower := by
  cases b with
  | list items => rfl
  | joined text =>
    rw [lower, spelled, spelled, Text.lower, String.toList_ofList,
      Text.splitAt_map_toLower (by decide), List.map_map, List.map_map]
    refine List.map_congr_left fun piece _ => ?_
    simp [Text.lower]

/-- **A host is reached directly when an item covers it**; that items are trimmed and the empty ones
left out makes no difference. -/
theorem bypasses_entries_iff : bypasses host b.entries = true ↔
    ∃ item ∈ b.spelled, covers host item = true := by
  rw [bypasses, List.any_eq_true, entries]
  constructor
  · rintro ⟨entry, hentry, hcovers⟩
    obtain ⟨item, hitem, rfl⟩ := List.mem_map.1 (List.mem_filter.1 hentry).1
    exact ⟨item, hitem, (covers_trimmed host item).symm.trans hcovers⟩
  · rintro ⟨item, hitem, hcovers⟩
    refine ⟨Text.trimmed item, List.mem_filter.2 ⟨List.mem_map_of_mem hitem, ?_⟩,
      (covers_trimmed host item).trans hcovers⟩
    rw [covers, Bool.and_eq_true] at hcovers
    exact hcovers.1

/-- The order and the repetition of items make no difference. -/
theorem bypasses_entries_congr (h : ∀ item, item ∈ b'.spelled ↔ item ∈ b.spelled) :
    bypasses host b'.entries = bypasses host b.entries := by
  rw [Bool.eq_iff_iff, bypasses_entries_iff, bypasses_entries_iff]
  exact exists_congr fun item => and_congr_left fun _ => h item

/-- The case of letters makes no difference. -/
theorem bypasses_lower (host : String) (b : Bypass) :
    bypasses (Text.lower host) b.lower.entries = bypasses host b.entries := by
  rw [Bool.eq_iff_iff, bypasses_entries_iff, bypasses_entries_iff, spelled_lower]
  simp only [List.mem_map, exists_exists_and_eq_and, covers_lower]

/-- One text with commas makes no difference. -/
theorem bypasses_joined {items : List String} (hitems : ∀ item ∈ items, ',' ∉ item.toList) :
    bypasses host (joined (",".intercalate items)).entries =
      bypasses host (list items).entries := by
  cases items with
  | nil => rfl
  | cons item items =>
    have hspelled : (joined (",".intercalate (item :: items))).spelled = item :: items := by
      rw [spelled, String.toList_intercalate, Text.splitAt_eq_splitOn]
      refine (congrArg (List.map String.ofList) (List.splitOn_intercalate ',' ?_ ?_)).trans ?_
      · simpa using hitems
      · simp
      · simp
    rw [entries, hspelled]
    rfl

/-- **Whole labels are covered.**  Whatever the setting is, a host without a point in front is
reached directly if and only if it is, or ends behind a point in, the name that one of the items
stands for: all in lower case, without the blanks around the item, which leave something, and
without one point in front of it.  Neither the order of the items nor their repetition nor the case
of letters makes a difference, nor does it make one whether items without a comma are written as a
list or in one text with commas between them. -/
theorem covers_whole_labels (hhost : host.toList.head? ≠ some '.') (b : Bypass) :
    (bypasses host b.entries = true ↔ ∃ item ∈ b.spelled,
        Text.trimmed item ≠ "" ∧ EndsIn (Text.lower host).toList (covered item)) ∧
      (∀ b' : Bypass, (∀ item, item ∈ b'.spelled ↔ item ∈ b.spelled) →
        bypasses host b'.entries = bypasses host b.entries) ∧
      (∀ (host' : String) (b' : Bypass), Text.lower host' = Text.lower host → b'.lower = b.lower →
        bypasses host' b'.entries = bypasses host b.entries) ∧
      (∀ items, (∀ item ∈ items, ',' ∉ item.toList) →
        bypasses host (joined (",".intercalate items)).entries =
          bypasses host (list items).entries) := by
  refine ⟨?_, fun b' => bypasses_entries_congr, fun host' b' hlower hb => ?_,
    fun items => bypasses_joined⟩
  · rw [bypasses_entries_iff]
    exact exists_congr fun item => and_congr_right fun _ => covers_iff hhost
  · rw [← bypasses_lower, hlower, hb, bypasses_lower]

/-- An item with blanks, a point and capital letters covers a host with other capital letters, in a
list and in one text. -/
theorem covers_whole_labels_mixed :
    "API.example.com".toList.head? ≠ some '.' ∧
      (∀ item ∈ ["corp", " .Example.COM "], ',' ∉ item.toList) ∧
      bypasses "API.example.com" (list ["corp", " .Example.COM "]).entries = true ∧
      bypasses "API.example.com" (joined (",".intercalate ["corp", " .Example.COM "])).entries =
        true := by
  have hhost : "API.example.com".toList.head? ≠ some '.' := by decide
  have hitems : ∀ item ∈ ["corp", " .Example.COM "], ',' ∉ item.toList := by decide
  obtain ⟨hcovers, -, -, hjoined⟩ := covers_whole_labels hhost (list ["corp", " .Example.COM "])
  have hlist := hcovers.2
    ⟨" .Example.COM ", by decide, by decide, .inr ⟨"api".toList, by decide⟩⟩
  exact ⟨hhost, hitems, hlist, (hjoined _ hitems).trans hlist⟩

/-- A name that only ends in the letters of an item is not covered. -/
example : bypasses "notexample.com" ["example.com"] = false := by decide

end Bypass

end RegistryProxy
