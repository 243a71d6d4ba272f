import RegistryProxy.Proofs.Package.RoundTrip
import RegistryProxy.Proofs.Store.Alone
import RegistryProxy.Proofs.Store.Updates

/-!
# Proofs/Store/Custody — what the store has accepted it gives back

`Custody` is a store in use: packages are created, saved and deleted, updates take their steps in
any order and may be dropped, and tarballs come and go.  It keeps a list of every change of the
packages, and a receipt for every operation that has answered that its package is stored.  The text
of a package is the one that was put last (`Kept.text`), so a package is given back if and only if
its text can be read (`given_back_iff`).
-/

namespace RegistryProxy

/-- A change of the packages. -/
inductive Change where
  /-- A package was put under a name. -/
  | put (name : String) (p : Package)
  /-- A package was removed. -/
  | removed (name : String)
  /-- A writer of an update's own has changed the packages. -/
  | rewritten (before after : Documents)

namespace Change

/-- Whether a change writes a name. -/
def Hits (name : String) : Change → Prop
  | .put name' _ | .removed name' => name' = name
  | .rewritten before after => after.find? name ≠ before.find? name

/-- **One change, or none, leads from some packages to others.** -/
structure Leads (c? : Option Change) (before after : Documents) : Prop where
  /-- All names that it does not write are left alone. -/
  frame : ∀ name, (∀ c ∈ c?, ¬ c.Hits name) → after.find? name = before.find? name
  /-- What is put is there. -/
  put : ∀ name p, c? = some (.put name p) → after.find? name = some p.encode

theorem leads_none (d : Documents) : Leads none d d := ⟨fun _ _ => rfl, nofun⟩

theorem leads_put (d : Documents) (name : String) (p : Package) :
    Leads (some (.put name p)) d (d.save name p) where
  frame _ h := Documents.find?_save_of_ne (Ne.symm (h _ rfl))
  put _ _ h := by
    cases h
    exact Documents.find?_save ..

theorem leads_removed (d : Documents) (name : String) :
    Leads (some (.removed name)) d (d.erase name) where
  frame _ h := by rw [Dict.find?_erase, if_neg (Ne.symm (h _ rfl))]
  put := nofun

theorem leads_rewritten (before after : Documents) :
    Leads (some (.rewritten before after)) before after where
  frame _ h := Classical.not_not.1 (h _ rfl)
  put := nofun

end Change

theorem Documents.create_eq_ok {d d' : Documents} {name : String} {p : Package}
    (h : d.create name p = .ok d') : d' = d.save name p := by
  rw [create] at h
  split at h
  · cases h
  · exact (Except.ok.inj h).symm

theorem Documents.read_eq_ok_iff {d : Documents} {name : String} {p : Package} {text : Bytes}
    (h : d.find? name = some text) : d.read name = .ok p ↔ Package.decode text = some p := by
  simp only [read, h]
  cases Package.decode text <;> simp

/-! ## What a step of an update does to the packages -/

namespace Update

variable {u u' : Update} {s s' : Store} {p : Package}

@[simp] theorem cancel_packages (u : Update) (s : Store) :
    (u.cancel s).packages = s.packages := by
  rw [cancel]
  split <;> rfl

/-- The package that an update writes with its next step. -/
def atHand? (u : Update) : Option Package :=
  match u.stage with
  | .writing _ p (some 0) => some p
  | _ => none

namespace Act

theorem name_eq (h : u.Act s u' s') : u'.name = u.name := by
  cases h <;> rfl

theorem writer_eq (h : u.Act s u' s') : u'.writer = u.writer := by
  cases h <;> rfl

/-- **The packages stay** while there is nothing to write. -/
theorem packages_eq (h : u.Act s u' s') (hhand : u.atHand? = none) :
    s'.packages = s.packages := by
  cases h with
  | write ticket p hstage => simp [atHand?, hstage] at hhand
  | _ => rfl

/-- With nothing to write, an update has written no more than it had before. -/
theorem record? (h : u.Act s u' s') (hhand : u.atHand? = none) (hrecord : u'.record? = some p) :
    u.record? = some p := by
  cases h with
  | write ticket p hstage => simp [atHand?, hstage] at hhand
  | stay => exact hrecord
  | release ticket result hstage | tidy result hstage =>
    cases result <;> simp_all [Update.record?, goTo]
  | _ => simp [Update.record?, goTo] at hrecord

end Act

/-- An update that tells its package has written it. -/
theorem record?_of_over (h : (u.step s).1 = .over (.ok p)) :
    u.record? = some p ∧ u.atHand? = none := by
  revert h
  rw [step]
  split <;> simp_all [record?, atHand?]
  all_goals split <;> simp

/-- **What an update writes it has written**, if its writer saves. -/
theorem step_of_saving (h : u.atHand? = some p)
    (hsaving : u.writer.write = Writer.saving.write) :
    (u.step s).2.2.packages = s.packages.save u.name p ∧ (u.step s).2.1.record? = some p := by
  obtain ⟨ticket, hstage⟩ : ∃ ticket, u.stage = .writing ticket p (some 0) := by
    revert h
    rw [atHand?]
    split <;> simp_all
  simp [step, hstage, hsaving, Writer.saving, written, goTo, record?]

end Update

/-! ## A store in use -/

/-- An update of a store in use. -/
structure Custody.Call where
  /-- The update. -/
  update : Update
  /-- Whether it was begun with a writer of its own. -/
  own : Bool
  /-- The number of the change that it has made. -/
  place : Nat := 0

/-- The answer of an operation that its package is stored. -/
structure Custody.Receipt where
  /-- The name. -/
  name : String
  /-- The package. -/
  package : Package
  /-- The number of the change that has put it there. -/
  place : Nat

/-- One thing that happens at a store. -/
inductive Custody.Event where
  /-- A package is created. -/
  | create (name : String) (p : Package)
  /-- A package is saved. -/
  | save (name : String) (p : Package)
  /-- A package is deleted. -/
  | delete (name : String)
  /-- An update is begun, with a writer of its own or without. -/
  | begin (name : String) (transform : Transform) (writer : Option Writer)
  /-- An update does its next thing. -/
  | turn (i : Nat)
  /-- An update is dropped. -/
  | drop (i : Nat)
  /-- Something is done to the tarballs. -/
  | aside (tarballs : Store)

/-- **A store in use**, with a list of what has happened to its packages. -/
structure Custody where
  /-- The store. -/
  store : Store := {}
  /-- The updates that have begun. -/
  calls : List Custody.Call := []
  /-- The changes of the packages, oldest first. -/
  changes : List Change := []
  /-- The answers that a package is stored. -/
  receipts : List Custody.Receipt := []

namespace Custody

/-! ## What happens -/

/-- An operation has put a package under a name, and answers that it is stored. -/
def accept (w : Custody) (name : String) (p : Package) (packages : Documents) : Custody :=
  { w with
    store := { w.store with packages }
    changes := w.changes ++ [.put name p]
    receipts := w.receipts ++ [⟨name, p, w.changes.length⟩] }

/-- The change that an update makes with its next step. -/
def Call.change? (x : Call) (s : Store) : Option Change :=
  x.update.atHand?.map fun p =>
    if x.own then .rewritten s.packages (x.update.step s).2.2.packages
    else .put x.update.name p

/-- The receipt of an update that has been told its result. -/
def Call.receipt? (x : Call) : Progress (Except Error Package) → Option Receipt
  | .over (.ok p) => if x.own then none else some ⟨x.update.name, p, x.place⟩
  | _ => none

/-- An update once it has done its next thing, behind so many changes. -/
def Call.next (x : Call) (s : Store) (count : Nat) : Call where
  update := (x.update.step s).2.1
  own := x.own
  place := if (x.change? s).isSome then count else x.place

/-- An update does its next thing. -/
def turn (w : Custody) (i : Nat) (x : Call) : Custody where
  store := (x.update.step w.store).2.2
  calls := w.calls.set i (x.next w.store w.changes.length)
  changes := w.changes ++ (x.change? w.store).toList
  receipts := w.receipts ++ (x.receipt? (x.update.step w.store).1).toList

/-- **What happens with an event.** -/
def act (w : Custody) : Event → Custody
  | .create name p =>
    match w.store.packages.create name p with
    | .error _ => w
    | .ok packages => w.accept name p packages
  | .save name p => w.accept name p (w.store.packages.save name p)
  | .delete name =>
    { w with
      store := { w.store with packages := w.store.packages.erase name }
      changes := w.changes ++ [.removed name] }
  | .begin name transform writer =>
    { w with calls := w.calls ++
        [{ update := { name, transform, writer := writer.getD .saving }, own := writer.isSome }] }
  | .turn i =>
    match w.calls[i]? with
    | none => w
    | some x => w.turn i x
  | .drop i =>
    match w.calls[i]? with
    | none => w
    | some x => { w with store := x.update.cancel w.store, calls := w.calls.eraseIdx i }
  | .aside tarballs =>
    { w with store := { tarballs with packages := w.store.packages, locks := w.store.locks } }

/-- What happens with events one after the other. -/
def run (w : Custody) (events : List Event) : Custody := events.foldl act w

/-! ## What every event keeps -/

variable {w : Custody} {d : Documents} {c : Change} {name : String} {p : Package}

/-- No change from a place on writes a name. -/
def Spared (w : Custody) (name : String) (place : Nat) : Prop :=
  ∀ c ∈ w.changes.drop place, ¬ c.Hits name

/-- **What is true of every store in use.** -/
structure Kept (w : Custody) : Prop where
  /-- The text under a name is that of the package that was put there last. -/
  text : ∀ k name p, w.changes[k]? = some (.put name p) → w.Spared name (k + 1) →
    w.store.packages.find? name = some p.encode
  /-- A receipt names the change that has put its package there. -/
  receipt : ∀ r ∈ w.receipts, w.changes[r.place]? = some (.put r.name r.package)
  /-- An update without a writer of its own saves its package, -/
  saving : ∀ x ∈ w.calls, x.own = false → x.update.writer.write = Writer.saving.write
  /-- and names the change with which it has. -/
  place : ∀ x ∈ w.calls, x.own = false → ∀ p, x.update.record? = some p →
    w.changes[x.place]? = some (.put x.update.name p)

theorem kept_start (s : Store) : Kept { store := s } :=
  ⟨nofun, nofun, nofun, nofun⟩

/-- **What happens keeps it** when it makes one change or none, adds receipts of what is there, and
updates that know what they have done. -/
theorem Kept.extend {w' : Custody} (h : w.Kept) (c? : Option Change)
    (hchanges : w'.changes = w.changes ++ c?.toList)
    (hleads : Change.Leads c? w.store.packages w'.store.packages)
    (hreceipts : ∀ r ∈ w'.receipts,
      r ∈ w.receipts ∨ w'.changes[r.place]? = some (.put r.name r.package))
    (hcalls : ∀ x ∈ w'.calls, x ∈ w.calls ∨ (x.own = false →
      x.update.writer.write = Writer.saving.write ∧ ∀ p, x.update.record? = some p →
        w'.changes[x.place]? = some (.put x.update.name p))) : w'.Kept := by
  -- The changes that were there keep their numbers.
  have hearlier {k : Nat} {c : Change} (hk : w.changes[k]? = some c) : w'.changes[k]? = some c := by
    obtain ⟨hlt, -⟩ := List.getElem?_eq_some_iff.1 hk
    rwa [hchanges, List.getElem?_append_left hlt]
  refine ⟨fun k name p hk hspared => ?_, fun r hr => ?_, fun x hx hown => ?_,
    fun x hx hown p hrecord => ?_⟩
  · rw [hchanges] at hk
    rw [Spared, hchanges] at hspared
    rcases Nat.lt_or_ge k w.changes.length with hlt | hge
    · rw [List.getElem?_append_left hlt] at hk
      rw [List.drop_append_of_le_length hlt, List.forall_mem_append] at hspared
      rw [hleads.frame name fun c hc => hspared.2 c (Option.mem_toList.2 hc)]
      exact h.text k name p hk hspared.1
    · rw [List.getElem?_append_right hge] at hk
      have hmem := List.mem_of_getElem? hk
      exact hleads.put name p (Option.mem_toList.1 hmem)
  · exact (hreceipts r hr).elim (fun hr => hearlier (h.receipt r hr)) id
  · exact (hcalls x hx).elim (fun hx => h.saving x hx hown) fun hnew => (hnew hown).1
  · exact (hcalls x hx).elim (fun hx => hearlier (h.place x hx hown p hrecord))
      fun hnew => (hnew hown).2 p hrecord

namespace Call

variable {x : Call} {s : Store} {r : Receipt}

theorem change?_eq_none (h : x.update.atHand? = none) : x.change? s = none := by
  rw [change?, h, Option.map_none]

/-- **The change that an update makes is the one that is listed.** -/
theorem leads (hsaving : x.own = false → x.update.writer.write = Writer.saving.write) :
    Change.Leads (x.change? s) s.packages (x.update.step s).2.2.packages := by
  cases hhand : x.update.atHand? with
  | none =>
    rw [change?_eq_none hhand, (x.update.act_step s).packages_eq hhand]
    exact Change.leads_none _
  | some p =>
    rw [change?, hhand, Option.map_some]
    cases hown : x.own with
    | true => exact Change.leads_rewritten ..
    | false =>
      rw [(Update.step_of_saving hhand (hsaving hown)).1]
      exact Change.leads_put ..

theorem eq_of_mem_receipt? {progress : Progress (Except Error Package)}
    (h : r ∈ x.receipt? progress) :
    progress = .over (.ok r.package) ∧ x.own = false ∧ r = ⟨x.update.name, r.package, x.place⟩ := by
  revert h
  rw [Option.mem_def]
  fun_cases receipt? x progress with
  | case1 => exact nofun
  | case2 p hown =>
    rintro ⟨⟩
    exact ⟨rfl, Bool.eq_false_iff.2 hown, rfl⟩
  | case3 => exact nofun

/-- **An update knows which change is its own**, if it did before. -/
theorem place_next (hsaving : x.update.writer.write = Writer.saving.write) (hown : x.own = false)
    {changes : List Change} (hplace : ∀ p, x.update.record? = some p →
      changes[x.place]? = some (.put x.update.name p))
    (hrecord : (x.update.step s).2.1.record? = some p) :
    (changes ++ (x.change? s).toList)[(x.next s changes.length).place]? =
      some (.put x.update.name p) := by
  cases hhand : x.update.atHand? with
  | none =>
    rw [next, change?_eq_none hhand, Option.toList_none, List.append_nil]
    exact hplace p ((x.update.act_step s).record? hhand hrecord)
  | some q =>
    have hwritten := (Update.step_of_saving (s := s) hhand hsaving).2
    obtain rfl : q = p := Option.some.inj (hwritten.symm.trans hrecord)
    have hchange : x.change? s = some (.put x.update.name q) := by
      simp only [change?, hhand, Option.map_some, hown, Bool.false_eq_true, if_false]
    rw [next, hchange]
    exact List.getElem?_concat_length

end Call

theorem Kept.turn (h : w.Kept) {i : Nat} {x : Call} (hx : w.calls[i]? = some x) :
    (w.turn i x).Kept := by
  have hmem := List.mem_of_getElem? hx
  have hact := x.update.act_step w.store
  refine h.extend (x.change? w.store) rfl (Call.leads (h.saving x hmem)) (fun r hr => ?_)
    fun y hy => ?_
  · refine (List.mem_append.1 hr).imp_right fun hr => ?_
    -- A receipt is for an update that is over, and such a one has written before.
    obtain ⟨hover, hown, heq⟩ := Call.eq_of_mem_receipt? (Option.mem_toList.1 hr)
    obtain ⟨hrecord, hhand⟩ := Update.record?_of_over hover
    rw [heq, Custody.turn, Call.change?_eq_none hhand, Option.toList_none, List.append_nil]
    exact h.place x hmem hown _ hrecord
  · rcases List.mem_or_eq_of_mem_set hy with hy | rfl
    · exact .inl hy
    refine .inr fun hown => ⟨?_, fun p hrecord => ?_⟩
    · rw [Call.next, hact.writer_eq]
      exact h.saving x hmem hown
    · rw [show (x.next _ _).update.name = x.update.name from hact.name_eq]
      exact Call.place_next (h.saving x hmem hown) hown (h.place x hmem hown) hrecord

theorem Kept.accept (h : w.Kept) : (w.accept name p (w.store.packages.save name p)).Kept := by
  refine h.extend (some (.put name p)) rfl (Change.leads_put ..) (fun r hr => ?_) fun _ => .inl
  refine (List.mem_append.1 hr).imp_right fun hr => ?_
  obtain rfl := List.mem_singleton.1 hr
  exact List.getElem?_concat_length

/-- **Every event keeps it.** -/
theorem Kept.act (h : w.Kept) (e : Event) : (w.act e).Kept := by
  cases e with
  | create name p =>
    rw [Custody.act]
    split
    next => exact h
    next packages hcreate =>
      rw [Documents.create_eq_ok hcreate]
      exact h.accept
  | save name p => exact h.accept
  | delete name =>
    exact h.extend (some (.removed name)) rfl (Change.leads_removed ..) (fun _ => .inl)
      fun _ => .inl
  | begin name transform writer =>
    refine h.extend none (List.append_nil _).symm (Change.leads_none _) (fun _ => .inl)
      fun x hx => (List.mem_append.1 hx).imp_right fun hx hown => ?_
    obtain rfl := List.mem_singleton.1 hx
    obtain rfl : writer = none := by simpa using hown
    exact ⟨rfl, nofun⟩
  | turn i =>
    rw [Custody.act]
    split
    next => exact h
    next x hx => exact h.turn hx
  | drop i =>
    rw [Custody.act]
    split
    next => exact h
    next x hx =>
      refine h.extend none (List.append_nil _).symm ?_ (fun _ => .inl)
        fun y hy => .inl (List.mem_of_mem_eraseIdx hy)
      rw [Update.cancel_packages]
      exact Change.leads_none _
  | aside tarballs =>
    exact h.extend none (List.append_nil _).symm (Change.leads_none _) (fun _ => .inl)
      fun _ => .inl

/-- **So does a run.** -/
theorem Kept.run (h : w.Kept) (events : List Event) : (w.run events).Kept := by
  induction events generalizing w with
  | nil => exact h
  | cons e events ih => exact ih (h.act e)

/-! ## What is given back -/

/-- **The store gives back what it has accepted if and only if** no carried member has the name of a
known one and nothing is nested deeper than a reader goes.  This is so for every operation of every
run that has answered that its package is stored: it has put the package there, and while nobody has
written the name since, that is what is read. -/
theorem given_back_iff (s : Store) (events : List Event) {r : Receipt}
    (hr : r ∈ (Custody.run { store := s } events).receipts) (hadmitted : r.package.Admitted)
    (hspared : (Custody.run { store := s } events).Spared r.name (r.place + 1)) :
    (Custody.run { store := s } events).changes[r.place]? = some (.put r.name r.package) ∧
      ((Custody.run { store := s } events).store.packages.read r.name = .ok r.package ↔
        r.package.Distinct ∧ r.package.written.nesting ≤ Json.maxDepth) := by
  have hkept := (kept_start s).run events
  have hput := hkept.receipt r hr
  have htext := hkept.text r.place r.name r.package hput hspared
  rw [← Package.decode_encode_iff hadmitted]
  exact ⟨hput, Documents.read_eq_ok_iff htext⟩

/-- A package with one member that it does not interpret. -/
def carrying (name : String) : Package :=
  { name := "p", other := .ofList [(name, .number (.int 5))] }

theorem admitted_carrying (name : String) : (carrying name).Admitted where
  other e he := by
    obtain rfl := List.mem_singleton.1 he
    exact ⟨trivial, show Json.Number.Fits (.int 5) from ⟨by decide, by decide⟩⟩
  attributes := nofun
  attached := nofun
  fetched := nofun

/-- A package is created, and an update gives it a member. -/
def labelling : List Event :=
  [.create "p" { name := "p" }, .begin "p" (fun _ => .ok (carrying "label")) none] ++
    List.replicate 10 (.turn 0)

/-- The update tells its package, which is then read. -/
theorem given_back_label :
    (Custody.run {} labelling).receipts[1]? = some ⟨"p", carrying "label", 1⟩ ∧
      (Custody.run {} labelling).Spared "p" 2 ∧
      (Custody.run {} labelling).store.packages.read "p" = .ok (carrying "label") := by
  have hreceipt : (Custody.run {} labelling).receipts[1]? = some ⟨"p", carrying "label", 1⟩ := rfl
  have hspared : (Custody.run {} labelling).Spared "p" 2 := fun c (hc : c ∈ []) => nomatch hc
  have hdistinct : (carrying "label").Distinct :=
    { other := by
        rintro e he
        obtain rfl := List.mem_singleton.1 he
        decide
      attributes := nofun
      attached := nofun }
  have hnesting : (carrying "label").written.nesting ≤ Json.maxDepth := by decide
  exact ⟨hreceipt, hspared, (given_back_iff {} labelling (List.mem_of_getElem? hreceipt)
    (admitted_carrying _) hspared).2.2 ⟨hdistinct, hnesting⟩⟩

/-- A member with the name of the marks is accepted and cannot be read. -/
theorem accepted_unreadable :
    (Custody.run {} [.save "p" (carrying "_uplinks")]).receipts =
        [⟨"p", carrying "_uplinks", 0⟩] ∧
      (carrying "_uplinks").Admitted ∧
      (Custody.run {} [.save "p" (carrying "_uplinks")]).Spared "p" 1 ∧
      (Custody.run {} [.save "p" (carrying "_uplinks")]).store.packages.read "p" =
        .error (Documents.unreadable "p") :=
  have hspared : (Custody.run {} [.save "p" (carrying "_uplinks")]).Spared "p" 1 :=
    fun c (hc : c ∈ []) => nomatch hc
  ⟨rfl, admitted_carrying _, hspared, rfl⟩

end Custody

end RegistryProxy
