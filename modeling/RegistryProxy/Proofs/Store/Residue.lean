import Mathlib.Data.Finset.Card
import RegistryProxy.Proofs.Store.Lobby

/-!
# Proofs/Store/Residue — the locks that nobody uses

Only a guard tidies up behind itself.  So the lock of a key stays in the table while somebody is
party to it, and longer when the last to go was waiting for it: `forsaken` reads that off the moves
that were made, and `active_eq_iff` says that nothing else leaves a lock behind.
-/

namespace RegistryProxy

namespace Locks

variable {l : Locks} {c : Party} {key key' : String} {ticket : Nat}

/-- The keys that somebody holds or waits for. -/
def inUse (l : Locks) : Finset String := (l.parties.map Party.key).toFinset

theorem mem_inUse : key ∈ l.inUse ↔ ∃ c ∈ l.parties, c.key = key := by
  simp [inUse]

theorem active_eq_card (l : Locks) : l.active = l.table.keys.toFinset.card := by
  rw [List.toFinset_card_of_nodup l.table.nodup_keys, Dict.keys, List.length_map]
  rfl

/-- **As many keys have a lock as are in use if and only if** every lock is in use. -/
theorem Sound.active_eq_card_iff (h : l.Sound) :
    l.active = l.inUse.card ↔ ∀ key ∈ l.table.keys, key ∈ l.inUse := by
  have hsubset : l.inUse ⊆ l.table.keys.toFinset := by
    intro key hkey
    obtain ⟨c, hc, rfl⟩ := mem_inUse.1 hkey
    exact List.mem_toFinset.2 (Dict.mem_keys.2 ⟨_, h.entered c hc⟩)
  rw [active_eq_card]
  constructor
  · intro hcard key hkey
    rw [Finset.eq_of_subset_of_card_le hsubset hcard.le]
    exact List.mem_toFinset.2 hkey
  · intro hused
    refine congrArg _ (Finset.Subset.antisymm (fun key hkey => ?_) hsubset)
    exact hused key (List.mem_toFinset.1 hkey)

end Locks

namespace Lobby

variable {w w' : Lobby} {m : Move} {moves : List Move} {key : String}

/-! ## What the moves tell -/

/-- Whether a key is forsaken after a move, when `before` tells whether it was. -/
def Move.forsakes (key : String) (before : Bool) : Move → Bool
  | .giveUp c => before || c.key == key
  | .join key' | .tidy key' => before && key' != key
  | .enqueue _ | .poll _ | .release _ => before

/-- **Whether a party has given up waiting for a key** since anybody last joined it or tidied it
up. -/
def forsaken (key : String) (moves : List Move) : Bool :=
  moves.foldl (fun before m => m.forsakes key before) false

theorem forsaken_concat (key : String) (moves : List Move) (m : Move) :
    forsaken key (moves ++ [m]) = m.forsakes key (forsaken key moves) := by
  simp [forsaken]

theorem forsakes_of_ne (hne : key ≠ m.key) (before : Bool) : m.forsakes key before = before := by
  cases m with
  | giveUp c => simp [Move.forsakes, Ne.symm (show key ≠ c.key from hne)]
  | join key' | tidy key' => simp [Move.forsakes, Ne.symm (show key ≠ key' from hne)]
  | enqueue | poll | release => rfl

/-! ## What the moves leave behind -/

theorem leaving_of_ne (hstep : Step w m w') (hne : key ≠ m.key) :
    key ∈ w'.leaving ↔ key ∈ w.leaving := by
  cases hstep with
  | release c => simp [show key ≠ c.key from hne]
  | tidy key' => exact List.mem_erase_of_ne hne
  | join | enqueue | poll | giveUp => exact Iff.rfl

theorem inUse_iff (w : Lobby) : key ∈ w.locks.inUse ↔ w.locks.line key ≠ [] := by
  simp only [Locks.mem_inUse, ne_eq, List.eq_nil_iff_forall_not_mem, Locks.mem_line, not_forall,
    not_not]

/-- A key in use has a lock. -/
theorem Kept.find?_of_mem (h : w.Kept) (hkey : key ∈ w.locks.inUse) :
    (w.locks.table.find? key).isSome = true := by
  obtain ⟨c, hc, rfl⟩ := Locks.mem_inUse.1 hkey
  exact Option.isSome_of_eq_some (h.sound.entered c hc)

/-- A lock that is there after tidying up is in use. -/
theorem Kept.inUse_of_tidy (h : w.Kept)
    (hfind : ((w.locks.tidy key).table.find? key).isSome = true) : key ∈ w.locks.inUse := by
  obtain ⟨lock, hlock⟩ := Option.isSome_iff_exists.1 hfind
  have hbefore := Locks.Apart.find?_of_tidy hlock
  rw [Locks.tidy, hbefore] at hlock
  dsimp only at hlock
  split at hlock
  · rw [show (w.locks.table.erase key).find? key = none by simp [Dict.find?_erase]] at hlock
    cases hlock
  · next hidle =>
    obtain ⟨c, hc, hclock⟩ : ∃ c ∈ w.locks.parties, c.lock = lock := by
      simpa [Locks.isIdle] using hidle
    have hentered := h.sound.entered c hc
    rw [hclock] at hentered
    exact Locks.mem_inUse.2 ⟨c, hc, h.apart.apart c.key key lock hentered hbefore⟩

/-- **What the moves tell of the lock of a key.** -/
structure Tells (key : String) (moves : List Move) (w : Lobby) : Prop where
  /-- A forsaken key has a lock. -/
  stays : forsaken key moves = true → (w.locks.table.find? key).isSome = true
  /-- A key that has one is in use, or forsaken, or somebody is about to tidy it up. -/
  needed : (w.locks.table.find? key).isSome = true →
    key ∈ w.locks.inUse ∨ forsaken key moves = true ∨ key ∈ w.leaving

/-- A key in use has a lock, and there is no more to tell. -/
theorem Kept.tells_of_inUse (h : w.Kept) (hkey : key ∈ w.locks.inUse) : Tells key moves w :=
  ⟨fun _ => h.find?_of_mem hkey, fun _ => .inl hkey⟩

/-- **Every move tells the truth**: of its own key and of all others. -/
theorem Tells.step (h : Tells key moves w) (hkept : w.Kept) (hstep : Step w m w') :
    Tells key (moves ++ [m]) w' := by
  by_cases hne : key = m.key
  swap
  · obtain ⟨htable, hline⟩ := hkept.elsewhere hstep hne
    refine ⟨fun hforsaken => ?_, fun hfind => ?_⟩
    · rw [forsaken_concat, forsakes_of_ne hne] at hforsaken
      exact htable ▸ h.stays hforsaken
    · rw [forsaken_concat, forsakes_of_ne hne, leaving_of_ne hstep hne, inUse_iff, hline,
        ← inUse_iff]
      exact h.needed (htable ▸ hfind)
  have hkept' := hkept.step hstep
  -- Who joins, gets in line or asks for its lock is party to it afterwards.
  have hused {c : Locks.Party} (hc : c ∈ w'.locks.parties) (hkey : c.key = key) :
      Tells key (moves ++ [m]) w' :=
    hkept'.tells_of_inUse (Locks.mem_inUse.2 ⟨c, hc, hkey⟩)
  cases hstep with
  | join key' => exact hused (Locks.mem_join.2 (.inr rfl)) hne.symm
  | enqueue c hc => exact hused (Locks.mem_enqueue.2 (.inr ⟨c, hc, rfl, rfl⟩)) hne.symm
  | poll c hc =>
    by_cases howns : w.locks.owns c.ticket = true
    · refine hused (c := { c with held := true }) ?_ hne.symm
      simp only [Locks.poll, howns, if_true]
      exact Locks.mem_hold.2 ⟨c, hc, (if_pos rfl).symm⟩
    · refine hused (c := c) ?_ hne.symm
      rw [Locks.poll, if_neg howns]
      exact hc
  | giveUp c hc =>
    have hfind := hkept.find?_of_mem (Locks.mem_inUse.2 ⟨c, hc, hne.symm⟩)
    refine ⟨fun _ => hfind, fun _ => .inr (.inl ?_)⟩
    rw [forsaken_concat, Move.forsakes, show c.key = key from hne.symm]
    simp
  | release c hc =>
    have hfind := hkept.find?_of_mem (Locks.mem_inUse.2 ⟨c, hc, hne.symm⟩)
    refine ⟨fun _ => hfind, fun _ => .inr (.inr ?_)⟩
    simp [show key = c.key from hne]
  | tidy key' hmem =>
    obtain rfl : key = key' := hne
    refine ⟨fun hforsaken => ?_, fun hfind => .inl ?_⟩
    · simp [forsaken_concat, Move.forsakes] at hforsaken
    · rw [inUse_iff, Locks.line_tidy, ← inUse_iff]
      exact hkept.inUse_of_tidy hfind

theorem tells_run (h : Run moves w) (key : String) : Tells key moves w := by
  induction h with
  | start => exact ⟨nofun, nofun⟩
  | step hrun hstep ih => exact ih.step (kept_run hrun) hstep

/-- **A lock outlives its last party if and only if that party was still waiting**: in every state
of every run, the keys with a lock are those that somebody holds or waits for and those that are
forsaken, but for guards on their way out.  So as many locks are active as keys are in use if and
only if every forsaken key is in use again. -/
theorem active_eq_iff (hrun : Run moves w) :
    (∀ key, key ∉ w.leaving →
        (w.locks.table.contains key = true ↔
          key ∈ w.locks.inUse ∨ forsaken key moves = true)) ∧
      (w.leaving = [] →
        (w.locks.active = w.locks.inUse.card ↔
          ∀ key, forsaken key moves = true → key ∈ w.locks.inUse)) := by
  have hkept := kept_run hrun
  have hentry (key : String) (hleaving : key ∉ w.leaving) :
      w.locks.table.contains key = true ↔ key ∈ w.locks.inUse ∨ forsaken key moves = true := by
    have htells := tells_run hrun key
    constructor
    · intro hcontains
      rcases htells.needed hcontains with hused | hforsaken | hmem
      · exact .inl hused
      · exact .inr hforsaken
      · exact absurd hmem hleaving
    · rintro (hused | hforsaken)
      · exact hkept.find?_of_mem hused
      · exact htells.stays hforsaken
  refine ⟨hentry, fun hleaving => ?_⟩
  have hkeys (key : String) : key ∈ w.locks.table.keys ↔ w.locks.table.contains key = true := by
    rw [Dict.mem_keys, Dict.contains, Option.isSome_iff_exists]
  rw [hkept.sound.active_eq_card_iff]
  simp only [hkeys, hentry _ (hleaving ▸ List.not_mem_nil)]
  exact ⟨fun h key hforsaken => h key (.inr hforsaken), fun h key hkey => hkey.elim id (h key)⟩

/-- The one that waits gives up, and then the guard lets go and tidies up. -/
def waiterFirst : List Move :=
  [.giveUp { ticket := 1, key := "a", lock := 0, queued := true },
    .release { ticket := 0, key := "a", lock := 0, queued := true, held := true }, .tidy "a"]

/-- The guard goes first, and then the one that waits gives up. -/
def waiterLast : List Move :=
  [.release { ticket := 0, key := "a", lock := 0, queued := true, held := true }, .tidy "a",
    .giveUp { ticket := 1, key := "a", lock := 0, queued := true }]

/-- A party that gives up before its guard goes leaves nothing behind. -/
theorem active_eq_iff_waiterFirst :
    ∃ w, Run (twoMoves ++ waiterFirst) w ∧ w.leaving = [] ∧
      w.locks.active = w.locks.inUse.card := by
  have h := run_twoMoves.step (.giveUp _ (.tail _ (.head _)) rfl)
  have h := h.step (.release _ (.head _) rfl)
  have hrun := h.step (.tidy "a" (.head _))
  refine ⟨_, hrun, rfl, ((active_eq_iff hrun).2 rfl).2 fun key hforsaken => ?_⟩
  have hnever : forsaken key (twoMoves ++ waiterFirst) = (("a" == key) && ("a" != key)) := rfl
  exact absurd (hnever.symm.trans hforsaken) (by cases h : "a" == key <;> simp [bne, h])

/-- **The lock of a key outlives all its parties** when the last to go gives up waiting. -/
theorem waiterLast_leaves :
    ∃ w, Run (twoMoves ++ waiterLast) w ∧ w.leaving = [] ∧ w.locks.parties = [] ∧
      w.locks.inUse.card = 0 ∧ w.locks.active = 1 := by
  have h := run_twoMoves.step (.release _ (.head _) rfl)
  have h := h.step (.tidy "a" (.head _))
  have hrun := h.step (.giveUp _ (.head _) rfl)
  exact ⟨_, hrun, rfl, rfl, rfl, rfl⟩

end Lobby

end RegistryProxy
