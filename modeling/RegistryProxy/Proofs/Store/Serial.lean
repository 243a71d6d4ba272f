import RegistryProxy.Proofs.Store.Alone
import RegistryProxy.Proofs.Store.Updates

/-!
# Proofs/Store/Serial — updates in any interleaving are updates in turn

The text of a package is what the updates that have written it leave behind when they are made in
turn, in the order in which they were given the lock.  `Serial` is the invariant that says so for
every state of a run, and `serializable` reads it off.
-/

namespace RegistryProxy

namespace Updates

variable {r r₀ r' : Updates} {i j : Nat} {u v : Update} {name : String}

/-! ## What the updates leave behind -/

/-- The package that an update of `name` has written, with the update as it was at first. -/
def success (r : Updates) (name : String) (i : Nat) : Option (Update × Package) := do
  let u ← r.calls i
  let p ← u.record?
  if u.name = name then some (u.anew, p) else none

/-- **The updates of `name` that have written it**, in the order in which they were given the
lock. -/
def successes (r : Updates) (name : String) : List (Update × Package) :=
  r.granted.filterMap (r.success name)

/-- **Made in turn, updates answer with the packages beside them**, and leave the text of `name`
that the store `s` has. -/
structure InTurn (s₀ : Store) (made : List (Update × Package)) (name : String) (s : Store) :
    Prop where
  /-- Each answers with the package beside it. -/
  answers : (s₀.inTurn (made.map Prod.fst)).1 = made.map fun x => .ready (.ok x.2)
  /-- Nobody stays behind at the locks. -/
  idle : (s₀.inTurn (made.map Prod.fst)).2.locks.parties = []
  /-- The text of the package in the end. -/
  text : (s₀.inTurn (made.map Prod.fst)).2.packages.find? name = s.packages.find? name

theorem InTurn.congr {s₀ s s' : Store} {made : List (Update × Package)}
    (h : InTurn s₀ made name s) (hsame : s'.packages.find? name = s.packages.find? name) :
    InTurn s₀ made name s' := ⟨h.answers, h.idle, h.text.trans hsame.symm⟩

/-- One more update, which reads what the others leave behind. -/
theorem InTurn.concat {s₀ s s' : Store} {made : List (Update × Package)} {p q : Package}
    (h : InTurn s₀ made name s) (hname : u.name = name) (hread : s.packages.read name = .ok q)
    (htransform : u.transform q = .ok p) (htext : s'.packages.find? name = some p.encode) :
    InTurn s₀ (made ++ [(u.anew, p)]) name s' := by
  obtain ⟨hanswers, hidle, hfind⟩ :=
    Store.inTurn_anew h.idle hname ((Documents.read_congr h.text).trans hread) htransform
  constructor <;> simp only [List.map_append, List.map_cons, List.map_nil, Store.inTurn_append]
  · rw [hanswers, h.answers]
  · exact hidle
  · rw [hfind, htext]

/-- The updates are those that the run began with, and their writers save. -/
def Genuine (r₀ r : Updates) : Prop :=
  ∀ i u, r.calls i = some u →
    (r₀.calls i).map Update.anew = some u.anew ∧ u.writer.write = Writer.saving.write

theorem Genuine.goTo (h : Genuine r₀ r) (hu : r.calls i = some u) (stage : Update.Stage) (s : Store)
    (granted : List Nat) :
    Genuine r₀ ⟨s, Function.update r.calls i (some (u.goTo stage)), granted⟩ := by
  intro j v hv
  rcases update_cases hv with ⟨rfl, ⟨⟩⟩ | ⟨-, hv⟩
  · exact h j u hu
  · exact h j v hv

/-- **What a run keeps about the package `name`.** -/
structure Serial (name : String) (r₀ r : Updates) : Prop where
  /-- Every update has a seat of its own. -/
  exclusive : r.Exclusive
  /-- The updates are those that the run began with. -/
  genuine : Genuine r₀ r
  /-- An update is given its lock once, -/
  nodup : r.granted.Nodup
  /-- and no longer waits from then on. -/
  mem_granted : ∀ i u, r.calls i = some u → (i ∈ r.granted ↔ u.isWaiting = false)
  /-- Nobody who was given the lock after its holder has written. -/
  behind : ∀ i u, r.calls i = some u → u.name = name → u.isGuard = true →
    ∃ before after, r.granted = before ++ i :: after ∧ ∀ j ∈ after, r.success name j = none
  /-- What the holder has in hand comes from the package as it is. -/
  current : ∀ i u, r.calls i = some u → u.name = name → u.Current r.store.packages
  /-- The updates that have written explain the package. -/
  inTurn : InTurn r₀.store (r.successes name) name r.store

/-- To begin with nobody has changed anything. -/
theorem Begins.serial (h : r.Begins) (name : String) : Serial name r r where
  exclusive := h.exclusive
  genuine i u hu := ⟨by rw [hu, Option.map_some], h.saving i u hu⟩
  nodup := h.ungranted ▸ List.nodup_nil
  mem_granted i u hu := by simp [h.ungranted, Update.isWaiting, h.start i u hu]
  behind i u hu _ hguard := by simp [Update.isGuard, Update.seat?, h.start i u hu] at hguard
  current i u hu _ := by simp [Update.Current, h.start i u hu]
  inTurn := by
    have hnone : r.successes name = [] := by rw [successes, h.ungranted, List.filterMap_nil]
    exact hnone ▸ ⟨rfl, h.idle, rfl⟩

/-- Who has no record to write has not succeeded. -/
theorem success_of_record?_eq_none (hu : r.calls i = some u) (hrecord : u.record? = none) :
    r.success name i = none := by simp [success, hu, hrecord]

theorem success_of_calls_eq_none (hu : r.calls i = none) : r.success name i = none := by
  simp [success, hu]

theorem success_of_name_ne (hu : r.calls i = some u) (hname : u.name ≠ name) :
    r.success name i = none := by
  cases hrecord : u.record? <;> simp [success, hu, hrecord, hname]

/-- Who has written has succeeded with its package. -/
theorem success_of_name_eq {p : Package} (hu : r.calls i = some u) (hname : u.name = name)
    (hrecord : u.record? = some p) : r.success name i = some (u.anew, p) := by
  simp [success, hu, hrecord, hname]

theorem success_congr (h : r'.calls j = r.calls j) : r'.success name j = r.success name j := by
  simp only [success, h]

theorem current_of_not_guard {d : Documents} (h : ¬ u.isGuard = true) : u.Current d := by
  cases hstage : u.stage <;> simp [Update.isGuard, Update.seat?, Update.Current, hstage] at h ⊢

theorem current_congr {d e : Documents} (h : u.Current d)
    (hsame : e.find? u.name = d.find? u.name) : u.Current e := by
  cases hstage : u.stage <;>
    simp only [Update.Current, hstage, Documents.read_congr hsame] at h ⊢ <;> exact h

/-- A list in which one element comes to count that had not counted, and none behind it counts. -/
theorem filterMap_eq_concat {α : Type} {f g : Nat → Option α} {l before after : List Nat} {x : α}
    (hsplit : l = before ++ i :: after) (hbefore : i ∉ before) (hafter : i ∉ after)
    (hf : f i = some x) (hg : g i = none) (hsame : ∀ k, k ≠ i → f k = g k)
    (hnone : ∀ k ∈ after, g k = none) : l.filterMap f = l.filterMap g ++ [x] := by
  have hfg : before.filterMap f = before.filterMap g :=
    List.filterMap_congr fun k hk => hsame k fun hki => hbefore (hki ▸ hk)
  have hf' : after.filterMap f = [] :=
    List.filterMap_eq_nil_iff.2 fun k hk =>
      (hsame k fun hki => hafter (hki ▸ hk)).trans (hnone k hk)
  rw [hsplit, List.filterMap_append, List.filterMap_append, List.filterMap_cons_some hf,
    List.filterMap_cons_none hg, hfg, hf', List.filterMap_eq_nil_iff.2 hnone, List.append_nil]

namespace Serial

/-- The successes among other updates do not change when one update goes on. -/
theorem success_update_of_ne {s : Store} {call : Option Update} {granted : List Nat} (hj : j ≠ i) :
    Updates.success ⟨s, Function.update r.calls i call, granted⟩ name j = r.success name j :=
  success_congr (Function.update_of_ne hj ..)

/-- **A step that writes nothing to `name`** and gives nobody a lock. -/
theorem replace (h : Serial name r₀ r) (hu : r.calls i = some u) {s : Store} {stage : Update.Stage}
    (hexclusive : Exclusive ⟨s, Function.update r.calls i (some (u.goTo stage)),
      if u.isWaiting && !(u.goTo stage).isWaiting then r.granted ++ [i] else r.granted⟩)
    (hsame : s.packages.find? name = r.store.packages.find? name)
    (hwaiting : (u.goTo stage).isWaiting = u.isWaiting)
    (hguard : (u.goTo stage).isGuard = true → u.isGuard = true)
    (hrecord : u.name = name → (u.goTo stage).record? = u.record?)
    (hcurrent : u.name = name → (u.goTo stage).Current s.packages) :
    Serial name r₀ ⟨s, Function.update r.calls i (some (u.goTo stage)),
      if u.isWaiting && !(u.goTo stage).isWaiting then r.granted ++ [i] else r.granted⟩ := by
  rw [hwaiting, Bool.and_not_self, if_neg Bool.false_ne_true] at hexclusive ⊢
  have hsuccess : ∀ j, Updates.success
      ⟨s, Function.update r.calls i (some (u.goTo stage)), r.granted⟩ name j =
        r.success name j := by
    intro j
    by_cases hj : j = i
    · subst hj
      by_cases hname : u.name = name
      · simp only [success, hu, Function.update_self, Option.bind_eq_bind, Option.bind_some,
          hrecord hname]
        rfl
      · rw [success_of_name_ne hu hname,
          success_of_name_ne (u := u.goTo stage) (Function.update_self ..) hname]
    · exact success_update_of_ne hj
  exact {
    exclusive := hexclusive
    genuine := h.genuine.goTo hu _ _ _
    nodup := h.nodup
    mem_granted := fun j v hv => by
      rcases update_cases hv with ⟨rfl, ⟨⟩⟩ | ⟨-, hv⟩
      · exact hwaiting ▸ h.mem_granted j u hu
      · exact h.mem_granted j v hv
    behind := fun j v hv hname hguard' => by
      obtain ⟨before, after, hsplit, hafter⟩ : ∃ before after, r.granted = before ++ j :: after ∧
          ∀ k ∈ after, r.success name k = none := by
        rcases update_cases hv with ⟨rfl, ⟨⟩⟩ | ⟨-, hv⟩
        · exact h.behind j u hu hname (hguard hguard')
        · exact h.behind j v hv hname hguard'
      exact ⟨before, after, hsplit, fun k hk => (hsuccess k).trans (hafter k hk)⟩
    current := fun j v hv hname => by
      rcases update_cases hv with ⟨rfl, ⟨⟩⟩ | ⟨-, hv⟩
      · exact hcurrent hname
      · exact current_congr (h.current j v hv hname) (hname ▸ hsame)
    inTurn := by
      have hsuccesses : Updates.successes
          ⟨s, Function.update r.calls i (some (u.goTo stage)), r.granted⟩ name = r.successes name :=
        List.filterMap_congr fun k _ => hsuccess k
      exact hsuccesses ▸ h.inTurn.congr hsame }

/-- **Being given the lock** puts an update behind all others. -/
theorem enter (h : Serial name r₀ r) (hu : r.calls i = some u) {s : Store} {ticket : Nat}
    (hexclusive :
      Exclusive ⟨s, Function.update r.calls i (some (u.goTo (.locked ticket))), r.granted ++ [i]⟩)
    (hwaiting : u.isWaiting = true) (hpackages : s.packages = r.store.packages) :
    Serial name r₀
      ⟨s, Function.update r.calls i (some (u.goTo (.locked ticket))), r.granted ++ [i]⟩ := by
  have hnot : i ∉ r.granted := fun hi => by simp [(h.mem_granted i u hu).1 hi] at hwaiting
  have hrecord : u.record? = none := by
    cases hstage : u.stage <;> simp [Update.isWaiting, Update.record?, hstage] at hwaiting ⊢
  have hsuccess : ∀ j, Updates.success
      ⟨s, Function.update r.calls i (some (u.goTo (.locked ticket))), r.granted ++ [i]⟩ name j =
        r.success name j := by
    intro j
    by_cases hj : j = i
    · subst hj
      rw [success_of_record?_eq_none hu hrecord,
        success_of_record?_eq_none (Function.update_self ..) rfl]
    · exact success_update_of_ne hj
  exact {
    exclusive := hexclusive
    genuine := h.genuine.goTo hu _ _ _
    nodup := List.nodup_append.2 ⟨h.nodup, List.nodup_singleton i, fun j hj k hk => by
      rw [List.mem_singleton.1 hk]
      exact fun hji => hnot (hji ▸ hj)⟩
    mem_granted := fun j v hv => by
      rcases update_cases hv with ⟨rfl, ⟨⟩⟩ | ⟨hj, hv⟩
      · simp [Update.isWaiting, Update.goTo]
      · simp [hj, h.mem_granted j v hv]
    behind := fun j v hv hname hguard => by
      rcases update_cases hv with ⟨rfl, ⟨⟩⟩ | ⟨-, hv⟩
      · exact ⟨r.granted, [], rfl, by simp⟩
      · obtain ⟨before, after, hsplit, hafter⟩ := h.behind j v hv hname hguard
        refine ⟨before, after ++ [i], by simp [hsplit], fun k hk => (hsuccess k).trans ?_⟩
        rcases List.mem_append.1 hk with hk | hk
        · exact hafter k hk
        · rw [List.mem_singleton.1 hk]
          exact success_of_record?_eq_none hu hrecord
    current := fun j v hv hname => by
      rcases update_cases hv with ⟨rfl, ⟨⟩⟩ | ⟨-, hv⟩
      · trivial
      · exact hpackages ▸ h.current j v hv hname
    inTurn := by
      have hsuccesses : Updates.successes
          ⟨s, Function.update r.calls i (some (u.goTo (.locked ticket))), r.granted ++ [i]⟩ name =
            r.successes name := by
        rw [successes, List.filterMap_append, List.filterMap_cons_none, List.filterMap_nil,
          List.append_nil]
        · exact List.filterMap_congr fun k _ => hsuccess k
        · exact (hsuccess i).trans (success_of_record?_eq_none hu hrecord)
      exact hsuccesses ▸ h.inTurn.congr (hpackages ▸ rfl) }

/-- **A write** makes its update the last of those that have written. -/
theorem write (h : Serial name r₀ r) (hu : r.calls i = some u) {s : Store} {ticket : Nat}
    {p : Package} (hname : u.name = name)
    (hexclusive :
      Exclusive ⟨s, Function.update r.calls i (some (u.goTo (.leaving ticket (.ok p)))), r.granted⟩)
    (hstage : u.stage = .writing ticket p (some 0))
    (hpackages : s.packages = r.store.packages.save name p) :
    Serial name r₀
      ⟨s, Function.update r.calls i (some (u.goTo (.leaving ticket (.ok p)))), r.granted⟩ := by
  have hguard : u.isGuard = true := by simp [Update.isGuard, Update.seat?, hstage]
  have hwaiting : u.isWaiting = false := by simp [Update.isWaiting, hstage]
  obtain ⟨before, after, hsplit, hafter⟩ := h.behind i u hu hname hguard
  have hapart : i ∉ before ∧ i ∉ after := by
    have hnodup := h.nodup
    rw [hsplit, List.nodup_middle, List.nodup_cons, List.mem_append, not_or] at hnodup
    exact hnodup.1
  have hsuccess : ∀ k, k ≠ i → Updates.success
      ⟨s, Function.update r.calls i (some (u.goTo (.leaving ticket (.ok p)))), r.granted⟩ name k =
        r.success name k := fun k hk => success_update_of_ne hk
  -- Nobody else holds the lock, so nobody else has anything in hand.
  have hothers : ∀ j v, j ≠ i → r.calls j = some v → v.name = name → ¬ v.isGuard = true :=
    fun j v hj hv hvname hvguard =>
      hj (h.exclusive.guard_unique hv hu (hvname.trans hname.symm) hvguard hguard)
  exact {
    exclusive := hexclusive
    genuine := h.genuine.goTo hu _ _ _
    nodup := h.nodup
    mem_granted := fun j v hv => by
      rcases update_cases hv with ⟨rfl, ⟨⟩⟩ | ⟨-, hv⟩
      · exact (h.mem_granted j u hu).trans (iff_of_true hwaiting rfl)
      · exact h.mem_granted j v hv
    behind := fun j v hv hvname hvguard => by
      rcases update_cases hv with ⟨rfl, ⟨⟩⟩ | ⟨hj, hv⟩
      · refine ⟨before, after, hsplit, ?_⟩
        intro k hk
        exact (hsuccess k fun hki => hapart.2 (hki ▸ hk)).trans (hafter k hk)
      · exact absurd hvguard (hothers j v hj hv hvname)
    current := fun j v hv hvname => by
      rcases update_cases hv with ⟨rfl, ⟨⟩⟩ | ⟨hj, hv⟩
      · trivial
      · exact current_of_not_guard (hothers j v hj hv hvname)
    inTurn := by
      have hnone : r.success name i = none :=
        success_of_record?_eq_none hu (by simp [Update.record?, hstage])
      have hsome : Updates.success
          ⟨s, Function.update r.calls i (some (u.goTo (.leaving ticket (.ok p)))), r.granted⟩
            name i = some (u.anew, p) :=
        success_of_name_eq (u := u.goTo (.leaving ticket (.ok p))) (Function.update_self ..)
          hname rfl
      have hsuccesses : Updates.successes
          ⟨s, Function.update r.calls i (some (u.goTo (.leaving ticket (.ok p)))), r.granted⟩ name =
            r.successes name ++ [(u.anew, p)] :=
        filterMap_eq_concat hsplit hapart.1 hapart.2 hsome hnone hsuccess hafter
      obtain ⟨q, hread, htransform⟩ : ∃ q, r.store.packages.read u.name = .ok q ∧
          u.transform q = .ok p := by
        simpa only [Update.Current, hstage] using h.current i u hu hname
      refine hsuccesses ▸ h.inTurn.concat hname (hname ▸ hread) htransform ?_
      rw [hpackages, Documents.find?_save] }

/-- Whatever one update does, all updates stay in turn. -/
theorem advance (h : Serial name r₀ r) (hu : r.calls i = some u) :
    Serial name r₀ (r.advance i u) := by
  have hexclusive := h.exclusive.advance hu
  rw [Updates.advance] at hexclusive ⊢
  generalize hu' : (u.step r.store).2.1 = u', hs' : (u.step r.store).2.2 = s' at hexclusive ⊢
  have hact : u.Act r.store u' s' := hu' ▸ hs' ▸ u.act_step r.store
  cases hact with
  | enter ticket hstage =>
    have hwaiting : u.isWaiting = true := by simp [Update.isWaiting, hstage]
    rw [hwaiting, if_pos (by rfl)] at hexclusive ⊢
    exact h.enter hu hexclusive hwaiting rfl
  | write ticket p hstage =>
    have hwaiting : u.isWaiting = false := by simp [Update.isWaiting, hstage]
    have hguard : u.isGuard = true := by simp [Update.isGuard, Update.seat?, hstage]
    have hwrite : u.writer.write u.name p r.store.packages =
        (.ok (), r.store.packages.save u.name p) := by rw [(h.genuine i u hu).2, Writer.saving]
    rw [hwrite] at hexclusive ⊢
    by_cases hname : u.name = name
    · rw [hwaiting, Bool.false_and, if_neg Bool.false_ne_true] at hexclusive ⊢
      exact h.write hu hname hexclusive hstage (hname ▸ rfl)
    · exact h.replace hu hexclusive (Documents.find?_save_of_ne (Ne.symm hname)) hwaiting.symm
        (fun _ => hguard) (fun h => absurd h hname) (fun h => absurd h hname)
  | stay =>
    have hsame : u.goTo u.stage = u := rfl
    rw [← hsame] at hexclusive ⊢
    exact h.replace hu hexclusive rfl rfl id (fun _ => rfl) (h.current i u hu)
  | load ticket p hstage hread =>
    have hguard : u.isGuard = true := by simp [Update.isGuard, Update.seat?, hstage]
    exact h.replace hu hexclusive rfl (by simp [Update.isWaiting, Update.goTo, hstage])
      (fun _ => hguard) (fun _ => by simp [Update.record?, Update.goTo, hstage]) (fun _ => hread)
  | transform ticket p q hstage htransform =>
    have hguard : u.isGuard = true := by simp [Update.isGuard, Update.seat?, hstage]
    refine h.replace hu hexclusive rfl (by simp [Update.isWaiting, Update.goTo, hstage])
      (fun _ => hguard) (fun _ => by simp [Update.record?, Update.goTo, hstage]) fun hname => ?_
    have hloaded : r.store.packages.read u.name = .ok p := by
      simpa only [Update.Current, hstage] using h.current i u hu hname
    exact ⟨p, hloaded, htransform⟩
  | suspend ticket p n hstage =>
    have hguard : u.isGuard = true := by simp [Update.isGuard, Update.seat?, hstage]
    refine h.replace hu hexclusive rfl (by simp [Update.isWaiting, Update.goTo, hstage])
      (fun _ => hguard) (fun _ => by simp [Update.record?, Update.goTo, hstage]) fun hname => ?_
    have hcurrent : ∃ q, r.store.packages.read u.name = .ok q ∧ u.transform q = .ok p := by
      simpa only [Update.Current, hstage] using h.current i u hu hname
    exact hcurrent
  | fail ticket e hseat hrecord =>
    have hguard : u.isGuard = true := by simp [Update.isGuard, hseat]
    refine h.replace hu hexclusive rfl ?_ (fun _ => hguard) (fun _ => hrecord.symm)
      (fun _ => trivial)
    cases hstage : u.stage <;> simp [Update.seat?, Update.isWaiting, Update.goTo, hstage] at hseat ⊢
  | release ticket result hstage =>
    refine h.replace hu hexclusive rfl (by simp [Update.isWaiting, Update.goTo, hstage])
      (fun hguard => absurd hguard (by simp [Update.isGuard, Update.seat?, Update.goTo])) ?_
      (fun _ => trivial)
    exact fun _ => by cases result <;> simp [Update.record?, Update.goTo, hstage]
  | tidy result hstage =>
    refine h.replace hu hexclusive rfl (by simp [Update.isWaiting, Update.goTo, hstage])
      (fun hguard => absurd hguard (by simp [Update.isGuard, Update.seat?, Update.goTo])) ?_
      (fun _ => trivial)
    exact fun _ => by cases result <;> simp [Update.record?, Update.goTo, hstage]
  | join hstage | enqueue ticket hstage =>
    refine h.replace hu hexclusive rfl (by simp [Update.isWaiting, Update.goTo, hstage])
      (fun hguard => absurd hguard (by simp [Update.isGuard, Update.seat?, Update.goTo])) ?_
      (fun _ => trivial)
    exact fun _ => by simp [Update.record?, Update.goTo, hstage]

/-- They stay so when one that waits is given up. -/
theorem drop (h : Serial name r₀ r) (hu : r.calls i = some u) (hwaiting : u.isWaiting = true) :
    Serial name r₀ (r.drop i u) := by
  have hpackages : (u.cancel r.store).packages = r.store.packages := by
    simp only [Update.cancel]
    split <;> rfl
  have hsuccess : ∀ k, (r.drop i u).success name k = r.success name k := by
    intro k
    by_cases hk : k = i
    · subst hk
      have hrecord : u.record? = none := by
        cases hstage : u.stage <;> simp [Update.isWaiting, Update.record?, hstage] at hwaiting ⊢
      rw [success_of_record?_eq_none hu hrecord, success_of_calls_eq_none]
      exact Function.update_self ..
    · exact success_update_of_ne hk
  have hkept : ∀ k v, (r.drop i u).calls k = some v → r.calls k = some v := by
    intro k v hv
    rcases update_cases hv with ⟨-, ⟨⟩⟩ | ⟨-, hv⟩
    exact hv
  exact {
    exclusive := h.exclusive.drop hu hwaiting
    genuine := fun k v hv => h.genuine k v (hkept k v hv)
    nodup := h.nodup
    mem_granted := fun k v hv => h.mem_granted k v (hkept k v hv)
    behind := fun k v hv hname hguard => by
      obtain ⟨before, after, hsplit, hafter⟩ := h.behind k v (hkept k v hv) hname hguard
      exact ⟨before, after, hsplit, fun m hm => (hsuccess m).trans (hafter m hm)⟩
    current := fun k v hv hname => by
      rw [Updates.drop, hpackages]
      exact h.current k v (hkept k v hv) hname
    inTurn := by
      have hsuccesses : (r.drop i u).successes name = r.successes name :=
        List.filterMap_congr fun k _ => hsuccess k
      exact hsuccesses ▸ h.inTurn.congr (by rw [Updates.drop, hpackages]) }

theorem elsewhere (h : Serial name r₀ r) {s : Store} (hlocks : s.locks = r.store.locks)
    (hsame : s.packages.find? name = r.store.packages.find? name) :
    Serial name r₀ { r with store := s } where
  exclusive := h.exclusive.elsewhere hlocks
  genuine := h.genuine
  nodup := h.nodup
  mem_granted := h.mem_granted
  behind := h.behind
  current i u hu hname := current_congr (h.current i u hu hname) (hname ▸ hsame)
  inTurn := h.inTurn.congr hsame

/-- **Every step keeps the updates in turn.** -/
theorem step (h : Serial name r₀ r) (hstep : Step name r r') : Serial name r₀ r' := by
  cases hstep with
  | advance hu => exact h.advance hu
  | drop hu hwaiting => exact h.drop hu hwaiting
  | elsewhere hlocks hsame => exact h.elsewhere hlocks hsame

theorem run (h : Serial name r₀ r) (hrun : Run name r r') : Serial name r₀ r' := by
  induction hrun with
  | refl => exact h
  | tail _ hstep ih => exact ih.step hstep

end Serial

/-- **Updates are serializable.**  However the updates of a run come in between each other, those of
`name` that have written it answer, made in turn in the order in which they were given their locks,
with the packages they have written, and leave behind the text that is there.  An update that has
told a package is one of them and told its own; one that has failed or was dropped is not. -/
theorem serializable (h : r₀.Begins) (hrun : Run name r₀ r) :
    r.granted.Nodup ∧
      (∀ i u, r.calls i = some u → (r₀.calls i).map Update.anew = some u.anew) ∧
      (∀ i u p, r.calls i = some u → u.name = name → u.stage = .over (.ok p) →
        i ∈ r.granted ∧ r.success name i = some (u.anew, p)) ∧
      (∀ i u e, r.calls i = some u → u.stage = .over (.error e) → r.success name i = none) ∧
      (∀ i, r.calls i = none → r.success name i = none) ∧
      (r₀.store.inTurn ((r.successes name).map Prod.fst)).1 =
        ((r.successes name).map fun x => .ready (.ok x.2)) ∧
      (r₀.store.inTurn ((r.successes name).map Prod.fst)).2.packages.find? name =
        r.store.packages.find? name := by
  have hserial : Serial name r₀ r := (h.serial name).run hrun
  refine ⟨hserial.nodup, fun i u hu => (hserial.genuine i u hu).1, ?_, ?_,
    fun i hnone => success_of_calls_eq_none hnone, hserial.inTurn.answers, hserial.inTurn.text⟩
  · intro i u p hu hname hstage
    have hwaiting : u.isWaiting = false := by rw [Update.isWaiting, hstage]
    have hrecord : u.record? = some p := by rw [Update.record?, hstage]
    exact ⟨(hserial.mem_granted i u hu).2 hwaiting, success_of_name_eq hu hname hrecord⟩
  · intro i u e hu hstage
    have hrecord : u.record? = none := by rw [Update.record?, hstage]
    exact success_of_record?_eq_none hu hrecord

/-- Lets updates go on, one thing each time that its number comes up. -/
def schedule : List Nat → Updates → Updates
  | [], r => r
  | i :: is, r =>
    match r.calls i with
    | some u => schedule is (r.advance i u)
    | none => schedule is r

/-- Every schedule is a run. -/
theorem run_schedule (name : String) (is : List Nat) (r : Updates) :
    Run name r (r.schedule is) := by
  induction is generalizing r with
  | nil => exact .refl
  | cons i is ih =>
    rw [schedule]
    split
    · next u hu => exact (Relation.ReflTransGen.single (.advance hu)).trans (ih _)
    · exact ih r

/-- Two updates of one package that each add a tag; the first has a writer that waits once. -/
def twoTags : Updates where
  store := .ofData [{ name := "p" }] []
  calls
    | 0 => some {
      name := "p"
      transform := fun p => .ok (p.withTag "a" "1")
      writer := { Writer.saving with waits := some 1 } }
    | 1 => some { name := "p", transform := fun p => .ok (p.withTag "b" "2") }
    | _ => none

theorem begins_twoTags : twoTags.Begins where
  idle := rfl
  ungranted := rfl
  start i u hu := by
    match i with
    | 0 | 1 => cases hu; rfl
    | n + 2 => cases hu
  saving i u hu := by
    match i with
    | 0 | 1 => cases hu; rfl
    | n + 2 => cases hu

/-- The second is in line first and gets its lock; the first waits, and then reads the tag of the
second. -/
theorem serializable_twoTags :
    twoTags.Begins ∧ ∃ r, Run "p" twoTags r ∧ r.granted = [1, 0] ∧
      ((r.successes "p").map fun x => x.2.tags.entries) =
        [[("b", "2")], [("a", "1"), ("b", "2")]] ∧
      (twoTags.store.inTurn ((r.successes "p").map Prod.fst)).1 =
        ((r.successes "p").map fun x => .ready (.ok x.2)) ∧
      (twoTags.store.inTurn ((r.successes "p").map Prod.fst)).2.packages.find? "p" =
        r.store.packages.find? "p" := by
  have hrun := run_schedule "p" [0, 1, 1, 0, 1, 0, 1, 1, 1, 0, 1, 1, 0, 0, 0, 0, 0, 0, 0] twoTags
  obtain ⟨-, -, -, -, -, hanswers, htext⟩ := serializable begins_twoTags hrun
  exact ⟨begins_twoTags, _, hrun, by decide +kernel, by decide +kernel, hanswers, htext⟩

end Updates

end RegistryProxy
