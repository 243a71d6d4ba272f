import RegistryProxy.Proofs.Package.Storing
import RegistryProxy.Uplink.Freshness

/-!
# Proofs/Uplink/Marks — the last mark of an uplink decides

A package that was read from a text is kept: uplinks leave marks on it, it is stored and read again,
and copies of uplinks are taken over (`Package.Event`).  Nothing of this fails, and the mark that it
has of an uplink is the last one of its history, the document's own coming first
(`Package.exists_run`).  So that mark alone says whether the package is fresh for the uplink
(`Package.fresh_by_last_mark`).
-/

namespace RegistryProxy

/-- A moment that the calendar reaches. -/
def Moment.OnCalendar (now : Moment) : Prop :=
  -8334601228800000 * perMillisecond ≤ now ∧ now < 8210266876800000 * perMillisecond

namespace Package

variable {p q : Package} {events : List Event} {text : Bytes}

/-! ## Events -/

/-- **What happens to a package** that is kept. -/
inductive Event where
  /-- An uplink leaves its mark. -/
  | mark (f : Freshness) (etag : Option String) (now : Moment) (onCalendar : now.OnCalendar)
  /-- It is stored and read again. -/
  | store (documents : Documents) (name : String)
  /-- The copy of an uplink is taken over. -/
  | take (there : Package) (wasRead : ∃ text, decode text = some there)

namespace Event

/-- The package after an event; none if it cannot be read again. -/
def step (p : Package) : Event → Option Package
  | .mark f etag now _ => some (f.markFetchedAt p etag now)
  | .store documents name => ((documents.save name p).read name).toOption
  | .take there _ => some (p.merge there)

/-- The mark of an uplink that an event leaves. -/
def mark? (uplink : String) : Event → Option Mark
  | .mark f etag now _ =>
    if f.uplink = uplink then some ⟨etag, now / Moment.perMillisecond⟩ else none
  | .store .. | .take .. => none

end Event

/-- The package after a run of events; none if once it cannot be read again. -/
def run (p : Package) (events : List Event) : Option Package := events.foldlM Event.step p

/-- **The marks of an uplink in the history of a package**, its own first. -/
def marksOf (uplink : String) (p : Package) (events : List Event) : List Mark :=
  (p.marks.find? uplink).toList ++ events.filterMap (Event.mark? uplink)

/-! ## The last mark -/

/-- The calendar ends long before the numbers do. -/
theorem fetched_of_onCalendar {now : Int} (h : Moment.OnCalendar now) :
    -0x8000000000000000 ≤ now / Moment.perMillisecond ∧
      now / Moment.perMillisecond ≤ 0x7fffffffffffffff := by
  have hlow : -8334601228800000 * 1000000 ≤ now := h.1
  have hhigh : now < 8210266876800000 * 1000000 := h.2
  rw [Moment.perMillisecond]
  omega

/-- **No event fails**, and the mark that it leaves is there. -/
theorem Event.exists_step (h : p.Storable) (e : Event) :
    ∃ q, e.step p = some q ∧ q.Storable ∧
      ∀ uplink, q.marks.find? uplink = (e.mark? uplink).or (p.marks.find? uplink) := by
  cases e with
  | mark f etag now honCalendar =>
    refine ⟨_, rfl, h.withMark f.uplink (fetched_of_onCalendar honCalendar), fun uplink => ?_⟩
    rw [Freshness.markFetchedAt, Dict.find?_insert, mark?]
    by_cases heq : f.uplink = uplink
    · rw [if_pos heq, if_pos heq.symm, Option.some_or]
    · rw [if_neg heq, if_neg (Ne.symm heq), Option.none_or]
  | store documents name =>
    refine ⟨p.reread, ?_, h.reread, fun _ => rfl⟩
    rw [step, h.read_save]
    rfl
  | take there wasRead =>
    obtain ⟨text, htext⟩ := wasRead
    refine ⟨_, rfl, h.merge (storable_of_decode htext), fun uplink => ?_⟩
    rw [marks_merge]
    rfl

/-- **No run fails**, and the mark of an uplink is the last one of the history. -/
theorem exists_run (h : p.Storable) (events : List Event) :
    ∃ q, p.run events = some q ∧ q.Storable ∧
      ∀ uplink, q.marks.find? uplink = (marksOf uplink p events).getLast? := by
  induction events generalizing p with
  | nil =>
    refine ⟨p, rfl, h, fun uplink => ?_⟩
    rw [marksOf, List.filterMap_nil, List.append_nil]
    cases p.marks.find? uplink <;> rfl
  | cons e events ih =>
    obtain ⟨p', hstep, hstorable, hmarks⟩ := e.exists_step h
    obtain ⟨q, hrun, hstorable', hlast⟩ := ih hstorable
    refine ⟨q, ?_, hstorable', fun uplink => ?_⟩
    · rw [run, List.foldlM_cons, hstep]
      exact hrun
    · rw [hlast, marksOf, marksOf, hmarks, List.getLast?_append, List.getLast?_append,
        List.filterMap_cons]
      cases e.mark? uplink with
      | none => rfl
      | some m => simp [List.getLast?_cons]

/-! ## Freshness -/

/-- **A package is fresh from its mark on until the time is up.** -/
theorem isFreshAt_iff {f : Freshness} {now : Moment} :
    f.isFreshAt p now = true ↔ ∃ m, p.marks.find? f.uplink = some m ∧
      (-8334601228800000 ≤ m.fetched ∧ m.fetched ≤ 8210266876799999) ∧
      m.fetched * Moment.perMillisecond ≤ now ∧
      now < m.fetched * Moment.perMillisecond + f.maxage.nanoseconds := by
  rw [Freshness.isFreshAt]
  cases p.marks.find? f.uplink with
  | none => simp
  | some m =>
    rw [Option.bind_eq_bind, Option.bind_some, Mark.moment?]
    by_cases hcalendar : -8334601228800000 ≤ m.fetched ∧ m.fetched ≤ 8210266876799999
    · rw [if_pos hcalendar]
      simp only [Bool.and_eq_true, decide_eq_true_eq, Option.some.injEq, exists_eq_left',
        hcalendar, and_self, true_and]
      exact and_congr_right fun _ => ⟨Int.lt_add_of_sub_left_lt, Int.sub_left_lt_of_lt_add⟩
    · rw [if_neg hcalendar]
      simp [hcalendar]

/-- **The last mark of an uplink decides whether a package is fresh for it.**  A package that was
read from a text can be kept through any run of events.  Afterwards it is fresh for an uplink if and
only if there has been a mark of the uplink, the last one is on the calendar, and now is not before
it and less than `maxage` after it.  So whatever has the same marks of this uplink, with whatever
marks of others, is as fresh for it. -/
theorem fresh_by_last_mark (hdecode : decode text = some p) (events : List Event) :
    ∃ q, p.run events = some q ∧
      (∀ (f : Freshness) (now : Moment), f.isFreshAt q now = true ↔
        ∃ m, (marksOf f.uplink p events).getLast? = some m ∧
          (-8334601228800000 ≤ m.fetched ∧ m.fetched ≤ 8210266876799999) ∧
          m.fetched * Moment.perMillisecond ≤ now ∧
          now < m.fetched * Moment.perMillisecond + f.maxage.nanoseconds) ∧
      ∀ (f : Freshness) (text' : Bytes) (p' : Package) (events' : List Event),
        decode text' = some p' → marksOf f.uplink p' events' = marksOf f.uplink p events →
          ∃ q', p'.run events' = some q' ∧ ∀ now, f.isFreshAt q' now = f.isFreshAt q now := by
  obtain ⟨q, hrun, -, hlast⟩ := exists_run (storable_of_decode hdecode) events
  refine ⟨q, hrun, fun f now => ?_, fun f text' p' events' hdecode' hsame => ?_⟩
  · rw [isFreshAt_iff, hlast]
  · obtain ⟨q', hrun', -, hlast'⟩ := exists_run (storable_of_decode hdecode') events'
    refine ⟨q', hrun', fun now => ?_⟩
    rw [Freshness.isFreshAt, Freshness.isFreshAt, hlast', hlast, hsame]

/-- The text of a package with a mark. -/
def stamped : Bytes :=
  Utf8.encode "\x7b\"name\":\"p\",\"_uplinks\":\x7b\"a\":\x7b\"fetched\":5\x7d\x7d\x7d"

/-- Another uplink leaves its mark, the package is stored, and the uplink leaves one more, a
nanosecond before 1970. -/
def rewound : List Event :=
  [.mark ⟨"b", .ofMilliseconds 9⟩ none 7000000 ⟨by decide, by decide⟩, .store ∅ "p",
    .mark ⟨"a", .ofMilliseconds 2⟩ (some "x") (-1) ⟨by decide, by decide⟩]

/-- The package is fresh for two milliseconds from the last one before 1970 on. -/
theorem fresh_by_last_mark_rewound :
    ∃ p q, decode stamped = some p ∧ p.run rewound = some q ∧
      marksOf "a" p rewound = [⟨none, 5⟩, ⟨some "x", -1⟩] ∧
      Freshness.isFreshAt ⟨"a", .ofMilliseconds 2⟩ q (-1000000) = true ∧
      Freshness.isFreshAt ⟨"a", .ofMilliseconds 2⟩ q 999999 = true ∧
      Freshness.isFreshAt ⟨"a", .ofMilliseconds 2⟩ q 1000000 = false := by
  obtain ⟨p, hdecode, hmarks⟩ :
      ∃ p, decode stamped = some p ∧ p.marks.find? "a" = some ⟨none, 5⟩ := ⟨_, rfl, rfl⟩
  have hhistory : marksOf "a" p rewound = [⟨none, 5⟩, ⟨some "x", -1⟩] := by
    rw [marksOf, hmarks]
    rfl
  obtain ⟨q, hrun, hfresh, -⟩ := fresh_by_last_mark hdecode rewound
  have hwindow (now : Moment) := hfresh ⟨"a", .ofMilliseconds 2⟩ now
  simp only [hhistory, List.getLast?_cons_cons, List.getLast?_singleton, Option.some.injEq,
    exists_eq_left'] at hwindow
  refine ⟨p, q, hdecode, hrun, hhistory, (hwindow _).2 (by decide), (hwindow _).2 (by decide), ?_⟩
  exact Bool.eq_false_iff.2 fun h => absurd ((hwindow _).1 h) (by decide)

end Package

end RegistryProxy
