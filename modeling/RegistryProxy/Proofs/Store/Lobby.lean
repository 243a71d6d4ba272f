import Mathlib.Data.List.Find
import RegistryProxy.Proofs.Store.Exclusion

/-!
# Proofs/Store/Lobby — parties that come and go at the same time

In a `Lobby` any number of parties do one `Move` after the other, in any order: they join a lock,
get in line for it, ask whether they have it, give it up, and let it go in two moves with others in
between.  The locks stay sound all the while, and the locks of two keys are two (`Apart`), so a move
at one key leaves the line at every other key as it is (`keyed_exclusion`).
-/

namespace RegistryProxy.Locks

variable {l l' : Locks} {c d : Party} {key key' : String} {lock ticket : Nat}

/-! ## The line at a key -/

/-- The parties to a key; those in line stand in their order. -/
def line (l : Locks) (key : String) : List Party := l.parties.filter fun c => c.key == key

/-- The guards of a key. -/
def guards (l : Locks) (key : String) : List Party := (l.line key).filter Party.held

/-- The party that has the lock of a key. -/
def holder? (l : Locks) (key : String) : Option Party := (l.table.find? key).bind l.owner?

theorem mem_line : c ∈ l.line key ↔ c ∈ l.parties ∧ c.key = key := by
  simp [line]

theorem mem_guards : c ∈ l.guards key ↔ c ∈ l.parties ∧ c.key = key ∧ c.held = true := by
  simp [guards, mem_line, and_assoc]

/-- **A key has one guard at most.** -/
theorem Sound.guards_length (h : l.Sound) (key : String) : (l.guards key).length ≤ 1 := by
  have hnodup : (l.guards key).Pairwise fun c d => c.ticket ≠ d.ticket :=
    (h.distinct.filter _).filter _
  match hguards : l.guards key with
  | [] | [_] => simp
  | c :: d :: rest =>
    rw [hguards] at hnodup
    have hmem {e : Party} (he : e ∈ c :: d :: rest) :
        e ∈ l.parties ∧ e.key = key ∧ e.held = true := by
      rwa [← hguards, mem_guards] at he
    obtain ⟨hc, hckey, hcheld⟩ := hmem (e := c) (by simp)
    obtain ⟨hd, hdkey, hdheld⟩ := hmem (e := d) (by simp)
    have hcd : c = d := h.eq_of_guards hc hd (hckey.trans hdkey.symm) hcheld hdheld
    exact absurd (congrArg Party.ticket hcd) ((List.pairwise_cons.1 hnodup).1 d (by simp))

/-! ## The locks of two keys -/

/-- **No lock is the lock of two keys**, nor one that is still to come. -/
structure Apart (l : Locks) : Prop where
  /-- A lock in the table has been made. -/
  made : ∀ key lock, l.table.find? key = some lock → lock < l.fresh
  /-- Two keys with one lock are one key. -/
  apart : ∀ key key' lock, l.table.find? key = some lock → l.table.find? key' = some lock →
    key = key'

theorem apart_empty : Apart {} := ⟨nofun, nofun⟩

namespace Apart

theorem congr (h : l.Apart) (htable : l'.table = l.table) (hfresh : l'.fresh = l.fresh) :
    l'.Apart where
  made := by
    rw [htable, hfresh]
    exact h.made
  apart := by
    rw [htable]
    exact h.apart

theorem find?_join (l : Locks) (key key' : String) :
    (l.join key).2.table.find? key' =
      if key' = key then some ((l.table.find? key).getD l.fresh) else l.table.find? key' :=
  Dict.find?_insert ..

/-- A lock that is made for a key is new. -/
theorem join (h : l.Apart) (key : String) : (l.join key).2.Apart := by
  -- The lock of the key is its old one, or the number that no lock has had.
  have hlock {key' : String}
      (hother : l.table.find? key' = some ((l.table.find? key).getD l.fresh)) :
      key' = key := by
    cases hkey : l.table.find? key with
    | none =>
      rw [hkey] at hother
      exact absurd (h.made key' _ hother) (Nat.lt_irrefl _)
    | some lock =>
      rw [hkey] at hother
      exact h.apart key' key lock hother hkey
  constructor
  · intro key' lock hfind
    rw [find?_join] at hfind
    split at hfind
    · cases hfind
      cases hkey : l.table.find? key with
      | none => exact Nat.lt_succ_self _
      | some lock => exact Nat.lt_succ_of_lt (h.made key lock hkey)
    · exact Nat.lt_succ_of_lt (h.made key' lock hfind)
  · intro key' key'' lock hfind hfind'
    rw [find?_join] at hfind hfind'
    split at hfind
    · next heq =>
      split at hfind'
      · next heq' => exact heq.trans heq'.symm
      · cases hfind
        exact heq.trans (hlock hfind').symm
    · split at hfind'
      · next heq' =>
        cases hfind'
        exact (hlock hfind).trans heq'.symm
      · exact h.apart key' key'' lock hfind hfind'

theorem find?_tidy_of_ne (l : Locks) (hne : key' ≠ key) :
    (l.tidy key).table.find? key' = l.table.find? key' := by
  simp only [Locks.tidy]
  split
  · rfl
  · split
    · exact (Dict.find?_erase ..).trans (if_neg hne)
    · rfl

theorem find?_of_tidy (hfind : (l.tidy key).table.find? key' = some lock) :
    l.table.find? key' = some lock := by
  revert hfind
  simp only [Locks.tidy]
  split
  · exact id
  · split
    · intro hfind
      rw [Dict.find?_erase] at hfind
      split at hfind
      · cases hfind
      · exact hfind
    · exact id

theorem tidy (h : l.Apart) (key : String) : (l.tidy key).Apart where
  made key' lock hfind := (fresh_tidy l key).symm ▸ h.made key' lock (find?_of_tidy hfind)
  apart key' key'' lock hfind hfind' :=
    h.apart key' key'' lock (find?_of_tidy hfind) (find?_of_tidy hfind')

end Apart

/-- **Who has the lock of a key is the first in line at the key**: nobody else is party to it. -/
theorem holder?_eq (hsound : l.Sound) (hapart : l.Apart) (key : String) :
    l.holder? key = (l.line key).find? Party.queued := by
  cases hkey : l.table.find? key with
  | none =>
    have hline : l.line key = [] := by
      refine List.filter_eq_nil_iff.2 fun c hc hckey => ?_
      have hentered := hsound.entered c hc
      rw [eq_of_beq hckey, hkey] at hentered
      cases hentered
    rw [holder?, hkey, hline]
    rfl
  | some lock =>
    rw [holder?, hkey, line, List.find?_filter]
    refine List.find?_congr fun c hc => ?_
    have hentered := hsound.entered c hc
    have hiff : c.lock = lock ↔ c.key = key := by
      constructor
      · rintro rfl
        exact hapart.apart c.key key c.lock hentered hkey
      · rintro rfl
        exact Option.some.inj (hentered.symm.trans hkey)
    by_cases hc' : c.key = key <;> simp [hiff, hc']

/-! ## What an operation does to the line at a key -/

theorem line_join_of_ne (l : Locks) (hne : key' ≠ key) :
    (l.join key).2.line key' = l.line key' := by
  simp [line, join, Ne.symm hne]

theorem line_enqueue (h : ∀ c ∈ l.line key, c.ticket ≠ ticket) :
    (l.enqueue ticket).line key = l.line key := by
  rw [line] at h
  have hothers : ((l.parties.filter fun c => c.ticket != ticket).filter fun c => c.key == key) =
      l.parties.filter fun c => c.key == key := by
    rw [List.filter_comm]
    exact List.filter_eq_self.2 fun c hc => bne_iff_ne.2 (h c hc)
  have hnone : (((l.parties.filter fun c => c.ticket == ticket).map fun c =>
      { c with queued := true }).filter fun c => c.key == key) = [] := by
    refine List.filter_eq_nil_iff.2 (List.forall_mem_map.2 fun c hc hkey => ?_)
    obtain ⟨hc, hticket⟩ := List.mem_filter.1 hc
    exact h c (List.mem_filter.2 ⟨hc, hkey⟩) (eq_of_beq hticket)
  rw [line, enqueue, List.filter_append, hothers, hnone, List.append_nil, line]

theorem line_hold (h : ∀ c ∈ l.line key, c.ticket ≠ ticket) :
    (l.hold ticket).line key = l.line key := by
  rw [line, hold, List.filter_map, List.map_congr_left (g := id), List.map_id]
  · refine List.filter_congr fun c _ => ?_
    simp only [Function.comp]
    split <;> rfl
  · intro c hc
    refine if_neg (h c ?_)
    obtain ⟨hc, hkey⟩ := List.mem_filter.1 hc
    refine List.mem_filter.2 ⟨hc, ?_⟩
    simp only [Function.comp] at hkey
    split at hkey <;> exact hkey

theorem line_release (h : ∀ c ∈ l.line key, c.ticket ≠ ticket) :
    (l.release ticket).line key = l.line key := by
  rw [line, release, List.filter_comm]
  exact List.filter_eq_self.2 fun c hc => bne_iff_ne.2 (h c hc)

theorem line_tidy (l : Locks) (key key' : String) : (l.tidy key').line key = l.line key := by
  rw [line, parties_tidy, line]

/-- A guard is in line. -/
theorem Sound.queued_of_held (h : l.Sound) (hc : c ∈ l.parties) (hheld : c.held = true) :
    c.queued = true := by
  have howner := List.find?_some (h.first c hc hheld)
  exact (Bool.and_eq_true_iff.1 howner).2

end RegistryProxy.Locks

/-! ## Parties at work -/

namespace RegistryProxy

/-- Locks, and the guards that have let go of one and not tidied up yet. -/
structure Lobby where
  /-- The locks. -/
  locks : Locks := {}
  /-- The keys of the guards on their way out. -/
  leaving : List String := []

namespace Lobby

/-- One thing that a party does. -/
inductive Move where
  /-- It becomes a party to the lock of a key. -/
  | join (key : String)
  /-- It gets in line. -/
  | enqueue (c : Locks.Party)
  /-- It asks whether it has its lock. -/
  | poll (c : Locks.Party)
  /-- It is dropped before it was told that it has its lock. -/
  | giveUp (c : Locks.Party)
  /-- A guard lets its lock go. -/
  | release (c : Locks.Party)
  /-- Afterwards it tidies up. -/
  | tidy (key : String)

/-- The key that a move is about. -/
def Move.key : Move → String
  | .join key | .tidy key => key
  | .enqueue c | .poll c | .giveUp c | .release c => c.key

/-- **What one move can do.** -/
inductive Step (w : Lobby) : Move → Lobby → Prop
  | join (key : String) : Step w (.join key) { w with locks := (w.locks.join key).2 }
  | enqueue (c : Locks.Party) (mem : c ∈ w.locks.parties) (queued : c.queued = false) :
    Step w (.enqueue c) { w with locks := w.locks.enqueue c.ticket }
  | poll (c : Locks.Party) (mem : c ∈ w.locks.parties) (queued : c.queued = true)
    (held : c.held = false) : Step w (.poll c) { w with locks := (w.locks.poll c.ticket).2 }
  | giveUp (c : Locks.Party) (mem : c ∈ w.locks.parties) (held : c.held = false) :
    Step w (.giveUp c) { w with locks := w.locks.release c.ticket }
  | release (c : Locks.Party) (mem : c ∈ w.locks.parties) (held : c.held = true) :
    Step w (.release c) { locks := w.locks.release c.ticket, leaving := w.leaving ++ [c.key] }
  | tidy (key : String) (mem : key ∈ w.leaving) :
    Step w (.tidy key) { locks := w.locks.tidy key, leaving := w.leaving.erase key }

/-- **A run of moves** from the start, when no key is in use. -/
inductive Run : List Move → Lobby → Prop
  | start : Run [] {}
  | step {moves : List Move} {w w' : Lobby} {m : Move} (run : Run moves w) (step : Step w m w') :
    Run (moves ++ [m]) w'

variable {w w' : Lobby} {m : Move} {moves : List Move} {c : Locks.Party} {key : String}

/-- **What holds of the locks in every run.** -/
structure Kept (w : Lobby) : Prop where
  /-- The locks are sound. -/
  sound : w.locks.Sound
  /-- No lock is the lock of two keys. -/
  apart : w.locks.Apart

/-- **Every move keeps it.** -/
theorem Kept.step (h : w.Kept) (hstep : Step w m w') : w'.Kept := by
  cases hstep with
  | join key => exact ⟨h.sound.join key, h.apart.join key⟩
  | enqueue c hc hqueued =>
    refine ⟨h.sound.enqueue fun d hd hticket => ?_, h.apart.congr rfl rfl⟩
    rw [h.sound.eq_of_ticket hd hc hticket, Bool.eq_false_iff]
    exact fun hheld => Bool.false_ne_true (hqueued.symm.trans (h.sound.queued_of_held hc hheld))
  | poll c =>
    refine ⟨h.sound.poll c.ticket, ?_⟩
    simp only [Locks.poll]
    split
    · exact h.apart.congr rfl rfl
    · exact h.apart
  | giveUp c => exact ⟨h.sound.release c.ticket, h.apart.congr rfl rfl⟩
  | release c => exact ⟨h.sound.release c.ticket, h.apart.congr rfl rfl⟩
  | tidy key => exact ⟨h.sound.tidy key, h.apart.tidy key⟩

/-- **So does a run.** -/
theorem kept_run (h : Run moves w) : w.Kept := by
  induction h with
  | start => exact ⟨Locks.sound_of_no_parties rfl, Locks.apart_empty⟩
  | step _ hstep ih => exact ih.step hstep

/-- Who stands in line at another key has another number. -/
theorem Kept.ticket_ne (h : w.Kept) (hc : c ∈ w.locks.parties) (hne : key ≠ c.key) :
    ∀ d ∈ w.locks.line key, d.ticket ≠ c.ticket := by
  intro d hd hticket
  obtain ⟨hd, hkey⟩ := Locks.mem_line.1 hd
  exact hne (hkey ▸ congrArg Locks.Party.key (h.sound.eq_of_ticket hd hc hticket))

/-- **A move at one key leaves every other key as it is**: its lock, and its parties in their
order. -/
theorem Kept.elsewhere (h : w.Kept) (hstep : Step w m w') (hne : key ≠ m.key) :
    w'.locks.table.find? key = w.locks.table.find? key ∧
      w'.locks.line key = w.locks.line key := by
  cases hstep with
  | join key' =>
    exact ⟨(Locks.Apart.find?_join ..).trans (if_neg hne), Locks.line_join_of_ne _ hne⟩
  | enqueue c hc => exact ⟨rfl, Locks.line_enqueue (h.ticket_ne hc hne)⟩
  | poll c hc =>
    simp only [Locks.poll]
    split
    · exact ⟨rfl, Locks.line_hold (h.ticket_ne hc hne)⟩
    · exact ⟨rfl, rfl⟩
  | giveUp c hc => exact ⟨rfl, Locks.line_release (h.ticket_ne hc hne)⟩
  | release c hc => exact ⟨rfl, Locks.line_release (h.ticket_ne hc hne)⟩
  | tidy key' => exact ⟨Locks.Apart.find?_tidy_of_ne _ hne, Locks.line_tidy ..⟩

/-- **Mutual exclusion, key by key.**  After every run of moves a key has one guard at most; all its
parties, guards and others, are parties to the lock that the table has for it now, and a guard is
the first in line for that lock.  The next move, whatever it is, changes neither the lock nor the
parties nor the holder of any key but its own. -/
theorem keyed_exclusion (hrun : Run moves w) :
    (∀ key, (w.locks.guards key).length ≤ 1) ∧
      (∀ c ∈ w.locks.parties, w.locks.table.find? c.key = some c.lock ∧
        (c.held = true → w.locks.holder? c.key = some c)) ∧
      ∀ m w', Step w m w' → ∀ key ≠ m.key,
        w'.locks.table.find? key = w.locks.table.find? key ∧
          w'.locks.line key = w.locks.line key ∧ w'.locks.holder? key = w.locks.holder? key := by
  have hkept := kept_run hrun
  refine ⟨hkept.sound.guards_length, fun c hc => ?_, fun m w' hstep key hne => ?_⟩
  · have hentered := hkept.sound.entered c hc
    refine ⟨hentered, fun hheld => ?_⟩
    rw [Locks.holder?, hentered]
    exact hkept.sound.first c hc hheld
  · obtain ⟨htable, hline⟩ := hkept.elsewhere hstep hne
    have hkept' := hkept.step hstep
    refine ⟨htable, hline, ?_⟩
    rw [Locks.holder?_eq hkept'.sound hkept'.apart, hline,
      Locks.holder?_eq hkept.sound hkept.apart]

/-! ## Whole operations -/

/-- Asking for a lock is two moves. -/
theorem Run.request (h : Run moves w) (key : String) :
    ∃ more, Run (moves ++ more) { w with locks := (w.locks.request key).2 } := by
  have hjoin := h.step (.join key)
  have henqueue := hjoin.step (.enqueue _ (Locks.mem_join.2 (.inr rfl)) rfl)
  rw [List.append_assoc] at henqueue
  exact ⟨_, henqueue⟩

/-- **Dropping a party is one move or two**: only a guard tidies up. -/
theorem Run.drop (h : Run moves w) (ticket : Nat) :
    ∃ more leaving, Run (moves ++ more) { locks := w.locks.drop ticket, leaving } ∧
      leaving.Perm w.leaving := by
  rw [Locks.drop]
  split
  · next hparty => exact ⟨[], w.leaving, by simpa using h, .refl _⟩
  · next c hparty =>
    have hmem : c ∈ w.locks.parties := List.mem_of_find?_eq_some hparty
    obtain rfl : c.ticket = ticket := by simpa using List.find?_some hparty
    split
    · next hheld =>
      have hrelease := h.step (.release c hmem hheld)
      have htidy := hrelease.step (.tidy c.key (by simp))
      rw [List.append_assoc] at htidy
      have hperm := (List.perm_append_singleton c.key w.leaving).erase c.key
      rw [List.erase_cons_head] at hperm
      exact ⟨_, _, htidy, hperm⟩
    · next hheld =>
      exact ⟨_, w.leaving, h.step (.giveUp c hmem (by simpa using hheld)), .refl _⟩

/-- Two parties ask for a key, and the first is told that it has its lock. -/
def twoMoves : List Move :=
  [.join "a", .enqueue { ticket := 0, key := "a", lock := 0 },
    .poll { ticket := 0, key := "a", lock := 0, queued := true },
    .join "a", .enqueue { ticket := 1, key := "a", lock := 0 }]

/-- The lobby with the two of them. -/
def twoParties : Lobby where
  locks := {
    table := .ofList [("a", 0)]
    parties := [
      { ticket := 0, key := "a", lock := 0, queued := true, held := true },
      { ticket := 1, key := "a", lock := 0, queued := true }]
    fresh := 2 }

theorem run_twoMoves : Run twoMoves twoParties := by
  have h := Run.start.step (.join "a")
  have h := h.step (.enqueue _ (.head _) rfl)
  have h := h.step (.poll _ (.head _) rfl rfl)
  have h := h.step (.join "a")
  exact h.step (.enqueue _ (.tail _ (.head _)) rfl)

/-- Of the two parties to the key one is a guard. -/
theorem keyed_exclusion_two :
    Run twoMoves twoParties ∧ (twoParties.locks.guards "a").length ≤ 1 ∧
      (twoParties.locks.line "a").length = 2 :=
  ⟨run_twoMoves, (keyed_exclusion run_twoMoves).1 "a", rfl⟩

end Lobby

end RegistryProxy
