import Mathlib.Data.List.Basic
import Mathlib.Data.List.Nodup
import RegistryProxy.Store.Locks

/-!
# Proofs/Store/Exclusion — one guard for each key

A table entry comes and goes while parties wait, so a key may have different locks over time.
`Locks.Sound` is what every operation keeps all the same: the parties to a key are parties to the
lock that the table has for it *now*, and a guard is the first in line for its lock.  Two guards of
one key are therefore one (`Sound.eq_of_guards`).

`Seat` says where one party stands; an operation of another party leaves it where it is.
-/

namespace RegistryProxy.Locks

variable {l : Locks} {c d : Party} {ticket ticket' : Nat} {key key' : String} {held : Bool}

/-! ## What each operation does to the parties -/

/-- Who joins takes the next number, and the lock of the key or a new one. -/
theorem mem_join :
    c ∈ (l.join key).2.parties ↔ c ∈ l.parties ∨
      c = { ticket := l.fresh, key, lock := (l.table.find? key).getD l.fresh } := by
  simp [join]

/-- Who gets in line loses the place it had. -/
theorem mem_enqueue :
    c ∈ (l.enqueue ticket).parties ↔ (c ∈ l.parties ∧ c.ticket ≠ ticket) ∨
      ∃ d ∈ l.parties, d.ticket = ticket ∧ c = { d with queued := true } := by
  simp only [enqueue, List.mem_append, List.mem_filter, bne_iff_ne, List.mem_map, beq_iff_eq,
    eq_comm (b := c), and_assoc]

/-- Who becomes a guard keeps its place. -/
theorem mem_hold :
    c ∈ (l.hold ticket).parties ↔
      ∃ d ∈ l.parties, c = if d.ticket = ticket then { d with held := true } else d := by
  simp only [hold, List.mem_map, eq_comm]

/-- Who is released is no party any more. -/
theorem mem_release :
    c ∈ (l.release ticket).parties ↔ c ∈ l.parties ∧ c.ticket ≠ ticket := by
  simp [release]

/-- Tidying up is about the table alone. -/
@[simp] theorem parties_tidy (l : Locks) (key : String) : (l.tidy key).parties = l.parties := by
  simp only [tidy]
  split
  · rfl
  · split <;> rfl

@[simp] theorem fresh_tidy (l : Locks) (key : String) : (l.tidy key).fresh = l.fresh := by
  simp only [tidy]
  split
  · rfl
  · split <;> rfl

/-- The first element that a test finds stays the first when elements that it is not are taken
away. -/
theorem find?_filter_of_find? {p q : Party → Bool} {parties : List Party}
    (hfind : parties.find? q = some c) (hp : p c = true) :
    (parties.filter p).find? q = some c := by
  induction parties with
  | nil => simp at hfind
  | cons a rest ih =>
    by_cases hq : q a = true
    · obtain rfl : a = c := by simpa [hq] using hfind
      simp [hp, hq]
    · have hrest : rest.find? q = some c := by simpa [hq] using hfind
      by_cases hpa : p a = true
      · simpa [hpa, hq] using ih hrest
      · simpa [hpa] using ih hrest

/-! ## The invariant -/

/-- **What holds of the locks whatever the parties do.** -/
structure Sound (l : Locks) : Prop where
  /-- No party has a number that is still to come. -/
  below : ∀ c ∈ l.parties, c.ticket < l.fresh
  /-- No two parties have one number. -/
  distinct : l.parties.Pairwise fun c d => c.ticket ≠ d.ticket
  /-- The lock of a party is the one that the table has for its key. -/
  entered : ∀ c ∈ l.parties, l.table.find? c.key = some c.lock
  /-- A guard is the first in line for its lock. -/
  first : ∀ c ∈ l.parties, c.held = true → l.owner? c.lock = some c

/-- Where nobody is, nothing has to hold. -/
theorem sound_of_no_parties (h : l.parties = []) : l.Sound := by
  constructor <;> simp [h]

namespace Sound

/-- A number is that of one party. -/
theorem eq_of_ticket (h : l.Sound) (hc : c ∈ l.parties) (hd : d ∈ l.parties)
    (ht : c.ticket = d.ticket) : c = d :=
  List.inj_on_of_nodup_map (List.pairwise_map.2 h.distinct) hc hd ht

/-- A party is found by its number. -/
theorem party?_eq (h : l.Sound) (hc : c ∈ l.parties) (hticket : c.ticket = ticket) :
    l.party? ticket = some c := by
  obtain ⟨d, hd⟩ : ∃ d, l.party? ticket = some d := by
    rw [← Option.isSome_iff_exists, party?, List.find?_isSome]
    exact ⟨c, hc, beq_iff_eq.2 hticket⟩
  have hd' : d.ticket = ticket := by simpa using List.find?_some hd
  rw [hd, h.eq_of_ticket (List.mem_of_find?_eq_some hd) hc (hd'.trans hticket.symm)]

/-- **Two guards of one key are the same party.** -/
theorem eq_of_guards (h : l.Sound) (hc : c ∈ l.parties) (hd : d ∈ l.parties)
    (hkey : c.key = d.key) (hc' : c.held = true) (hd' : d.held = true) : c = d := by
  have hlock : c.lock = d.lock :=
    Option.some.inj ((h.entered c hc).symm.trans ((congrArg _ hkey).trans (h.entered d hd)))
  have howner : l.owner? d.lock = some c := hlock ▸ h.first c hc hc'
  exact Option.some.inj (howner.symm.trans (h.first d hd hd'))

/-- The newcomer has the lock that the table has for its key, entered now or before. -/
theorem join (h : l.Sound) (key : String) : (l.join key).2.Sound where
  below c hc := by
    rcases mem_join.1 hc with hc | rfl
    · exact Nat.lt_succ_of_lt (h.below c hc)
    · exact Nat.lt_succ_self _
  distinct := by
    refine List.pairwise_append.2 ⟨h.distinct, List.pairwise_singleton _ _, fun c hc d hd => ?_⟩
    obtain rfl := List.mem_singleton.1 hd
    exact Nat.ne_of_lt (h.below c hc)
  entered c hc := by
    change (l.table.insert key _).find? c.key = _
    rw [Dict.find?_insert]
    rcases mem_join.1 hc with hc | rfl
    · split
      · next hkey =>
        rw [← hkey, h.entered c hc]
        rfl
      · exact h.entered c hc
    · exact if_pos rfl
  first c hc hheld := by
    -- The newcomer is not in line, so it stands in nobody's way.
    rcases mem_join.1 hc with hc | rfl
    · have hfirst := h.first c hc hheld
      simp only [owner?] at hfirst ⊢
      exact (List.find?_append ..).trans (by rw [hfirst]; rfl)
    · exact absurd hheld (by simp)

/-- A party that gets in line must not be a guard: it would leave its place at the front. -/
theorem enqueue (h : l.Sound) (hnot : ∀ c ∈ l.parties, c.ticket = ticket → c.held = false) :
    (l.enqueue ticket).Sound where
  below c hc := by
    rcases mem_enqueue.1 hc with ⟨hc, -⟩ | ⟨d, hd, -, rfl⟩
    · exact h.below c hc
    · exact h.below d hd
  distinct := by
    refine List.pairwise_append.2 ⟨h.distinct.filter _,
      List.pairwise_map.2 (h.distinct.filter _), fun c hc d hd => ?_⟩
    obtain ⟨e, he, rfl⟩ := List.mem_map.1 hd
    have hc' : c.ticket ≠ ticket := by simpa using (List.mem_filter.1 hc).2
    have he' : e.ticket = ticket := by simpa using (List.mem_filter.1 he).2
    exact he' ▸ hc'
  entered c hc := by
    rcases mem_enqueue.1 hc with ⟨hc, -⟩ | ⟨d, hd, -, rfl⟩
    · exact h.entered c hc
    · exact h.entered d hd
  first c hc hheld := by
    rcases mem_enqueue.1 hc with ⟨hc, hne⟩ | ⟨d, hd, hticket, rfl⟩
    · have hkept := find?_filter_of_find? (p := fun c => c.ticket != ticket)
        (h.first c hc hheld) (bne_iff_ne.2 hne)
      exact (List.find?_append ..).trans (by rw [hkept]; rfl)
    · exact absurd hheld (by simp [hnot d hd hticket])

/-- A party that becomes a guard has to be the first in line. -/
theorem hold (h : l.Sound) (howns : l.owns ticket = true) : (l.hold ticket).Sound where
  below c hc := by
    obtain ⟨d, hd, rfl⟩ := mem_hold.1 hc
    split <;> exact h.below d hd
  distinct := by
    refine List.pairwise_map.2 (h.distinct.imp fun {c d} hne => ?_)
    split <;> split <;> exact hne
  entered c hc := by
    obtain ⟨d, hd, rfl⟩ := mem_hold.1 hc
    split <;> exact h.entered d hd
  first c hc hheld := by
    obtain ⟨d, hd, rfl⟩ := mem_hold.1 hc
    -- Marking a guard changes neither its lock nor its place in line.
    have howner : (l.hold ticket).owner? d.lock =
        (l.owner? d.lock).map fun c =>
          if c.ticket = ticket then { c with held := true } else c := by
      simp only [Locks.hold, owner?, List.find?_map]
      congr 2
      funext c
      simp only [Function.comp]
      split <;> rfl
    have hfirst : l.owner? d.lock = some d := by
      by_cases hticket : d.ticket = ticket
      · have hparty : l.party? ticket = some d := h.party?_eq hd hticket
        obtain ⟨e, he, heq⟩ : ∃ e, l.owner? d.lock = some e ∧ e.ticket = ticket := by
          simpa [owns, hparty, Option.any_eq_true] using howns
        obtain rfl := h.eq_of_ticket (List.mem_of_find?_eq_some he) hd (heq.trans hticket.symm)
        exact he
      · rw [if_neg hticket] at hheld
        exact h.first d hd hheld
    have hlock : (if d.ticket = ticket then { d with held := true } else d).lock = d.lock := by
      split <;> rfl
    rw [hlock, howner, hfirst, Option.map_some]

theorem poll (h : l.Sound) (ticket : Nat) : (l.poll ticket).2.Sound := by
  simp only [Locks.poll]
  split
  · next howns => exact h.hold howns
  · exact h

/-- A guard that stays is still the first when another party leaves the line. -/
theorem release (h : l.Sound) (ticket : Nat) : (l.release ticket).Sound where
  below c hc := h.below c (mem_release.1 hc).1
  distinct := h.distinct.filter _
  entered c hc := h.entered c (mem_release.1 hc).1
  first c hc hheld :=
    find?_filter_of_find? (h.first c (mem_release.1 hc).1 hheld)
      (bne_iff_ne.2 (mem_release.1 hc).2)

/-- The entry of a party stays in the table. -/
theorem tidy (h : l.Sound) (key : String) : (l.tidy key).Sound where
  below c hc := by
    rw [parties_tidy] at hc
    exact (fresh_tidy l key).symm ▸ h.below c hc
  distinct := (parties_tidy l key).symm ▸ h.distinct
  entered c hc := by
    rw [parties_tidy] at hc
    simp only [Locks.tidy]
    split
    · exact h.entered c hc
    · next lock hlock =>
      split
      · next hidle =>
        -- The table forgets a lock that nobody is party to, so not that of `c`.
        have hne : c.key ≠ key := by
          rintro rfl
          have hc' : c.lock ≠ lock := by simpa using List.all_eq_true.1 hidle c hc
          exact hc' (Option.some.inj ((h.entered c hc).symm.trans hlock))
        exact (Dict.find?_erase ..).trans ((if_neg hne).trans (h.entered c hc))
      · exact h.entered c hc
  first c hc hheld := by
    rw [parties_tidy] at hc
    simpa only [owner?, parties_tidy] using h.first c hc hheld

end Sound

/-! ## The seat of one party -/

/-- The party with this number asked for this key; `held` tells whether it is a guard. -/
def Seat (l : Locks) (ticket : Nat) (key : String) (held : Bool) : Prop :=
  ∃ c ∈ l.parties, c.ticket = ticket ∧ c.key = key ∧ c.held = held

theorem Sound.seat_lt_fresh (h : l.Sound) (hseat : l.Seat ticket key held) : ticket < l.fresh := by
  obtain ⟨c, hc, rfl, -, -⟩ := hseat
  exact h.below c hc

/-- **A key has one guard at most.** -/
theorem Sound.ticket_unique (h : l.Sound) (hseat : l.Seat ticket key true)
    (hseat' : l.Seat ticket' key true) : ticket = ticket' := by
  obtain ⟨c, hc, rfl, hkey, hheld⟩ := hseat
  obtain ⟨d, hd, rfl, hkey', hheld'⟩ := hseat'
  rw [h.eq_of_guards hc hd (hkey.trans hkey'.symm) hheld hheld']

/-- Who sits as no guard is none. -/
theorem Sound.held_eq_false (h : l.Sound) (hseat : l.Seat ticket key false) (hc : c ∈ l.parties)
    (hticket : c.ticket = ticket) : c.held = false := by
  obtain ⟨d, hd, hd', -, hheld⟩ := hseat
  rwa [h.eq_of_ticket hc hd (hticket.trans hd'.symm)]

/-- Who is no guard is released without tidying up. -/
theorem Sound.drop_eq_release (h : l.Sound) (hseat : l.Seat ticket key false) :
    l.drop ticket = l.release ticket := by
  obtain ⟨c, hc, hticket, -, hheld⟩ := hseat
  simp [drop, h.party?_eq hc hticket, hheld]

/-- Who joins sits as no guard. -/
theorem seat_join (l : Locks) (key : String) : (l.join key).2.Seat (l.join key).1 key false :=
  ⟨_, mem_join.2 (.inr rfl), rfl, rfl, rfl⟩

theorem Seat.join (hseat : l.Seat ticket key held) (key' : String) :
    (l.join key').2.Seat ticket key held := by
  obtain ⟨c, hc, h⟩ := hseat
  exact ⟨c, mem_join.2 (.inl hc), h⟩

/-- Getting in line changes no seat, not even one's own. -/
theorem Seat.enqueue (hseat : l.Seat ticket key held) (ticket' : Nat) :
    (l.enqueue ticket').Seat ticket key held := by
  obtain ⟨c, hc, h⟩ := hseat
  by_cases hticket : c.ticket = ticket'
  · exact ⟨_, mem_enqueue.2 (.inr ⟨c, hc, hticket, rfl⟩), h⟩
  · exact ⟨c, mem_enqueue.2 (.inl ⟨hc, hticket⟩), h⟩

/-- Who becomes a guard sits as a guard. -/
theorem Seat.hold (hseat : l.Seat ticket key held) : (l.hold ticket).Seat ticket key true := by
  obtain ⟨c, hc, hticket, hkey, -⟩ := hseat
  exact ⟨{ c with held := true }, mem_hold.2 ⟨c, hc, (if_pos hticket).symm⟩, hticket, hkey, rfl⟩

theorem Seat.hold_of_ne (hseat : l.Seat ticket key held) (hne : ticket ≠ ticket') :
    (l.hold ticket').Seat ticket key held := by
  obtain ⟨c, hc, rfl, h⟩ := hseat
  exact ⟨c, mem_hold.2 ⟨c, hc, (if_neg hne).symm⟩, rfl, h⟩

/-- Who is not released stays where it was. -/
theorem Seat.release (hseat : l.Seat ticket key held) (hne : ticket ≠ ticket') :
    (l.release ticket').Seat ticket key held := by
  obtain ⟨c, hc, rfl, h⟩ := hseat
  exact ⟨c, mem_release.2 ⟨hc, hne⟩, rfl, h⟩

theorem Seat.tidy (hseat : l.Seat ticket key held) (key' : String) :
    (l.tidy key').Seat ticket key held := by
  rwa [Seat, parties_tidy]

end RegistryProxy.Locks
