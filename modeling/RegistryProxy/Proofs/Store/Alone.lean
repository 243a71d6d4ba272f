import RegistryProxy.Proofs.Store.Exclusion
import RegistryProxy.Store.Update

/-!
# Proofs/Store/Alone — an update that nobody gets in the way of

While nobody is party to a lock, one poll takes an update all the way (`poll_eq_alone`): it reads,
transforms and writes, and leaves no party behind.  `Store.inTurn` makes updates one after the other
in this manner; it is what updates that run at the same time are compared with.
-/

namespace RegistryProxy

variable {u : Update} {s : Store}

/-! ## The packages that an update reads and writes -/

namespace Documents

variable {d e : Documents} {name name' : String} {p : Package}

/-- Reading looks at one name only. -/
theorem read_congr (h : d.find? name = e.find? name) : d.read name = e.read name := by
  simp only [read, h]

@[simp] theorem find?_save (d : Documents) (name : String) (p : Package) :
    (d.save name p).find? name = some p.encode := Dict.find?_insert_self ..

theorem find?_save_of_ne (h : name' ≠ name) : (d.save name p).find? name' = d.find? name' :=
  Dict.find?_insert_of_ne _ _ h

end Documents

namespace Update

/-- **What an update answers and does to the packages when nobody comes in between**: reading, the
transform and the writer, one behind the other. -/
def alone (u : Update) (d : Documents) : Except Error Package × Documents :=
  match d.read u.name with
  | .error e => (.error e, d)
  | .ok p =>
    match u.transform p with
    | .error e => (.error e, d)
    | .ok p => ((written u.name p (u.writer.write u.name p d).1), (u.writer.write u.name p d).2)

theorem alone_of_unread {d : Documents} {e : Error} (hread : d.read u.name = .error e) :
    u.alone d = (.error e, d) := by
  simp only [alone, hread]

theorem alone_of_refused {d : Documents} {p : Package} {e : Error}
    (hread : d.read u.name = .ok p) (hrefused : u.transform p = .error e) :
    u.alone d = (.error e, d) := by
  simp only [alone, hread, hrefused]

theorem alone_of_transformed {d : Documents} {p q : Package} (hread : d.read u.name = .ok p)
    (htransform : u.transform p = .ok q) :
    u.alone d =
      (written u.name q (u.writer.write u.name q d).1, (u.writer.write u.name q d).2) := by
  simp only [alone, hread, htransform]

/-! ## One thing at a time -/

section Step

variable {p q : Package} {e : Error} (ticket : Nat)

theorem step_locked_of_ok (hread : s.packages.read u.name = .ok p) :
    (u.goTo (.locked ticket)).step s = (.goOn, u.goTo (.loaded ticket p), s) := by
  simp only [step, goTo, hread]

theorem step_locked_of_error (hread : s.packages.read u.name = .error e) :
    (u.goTo (.locked ticket)).step s = (.goOn, u.goTo (.leaving ticket (.error e)), s) := by
  simp only [step, goTo, hread]

theorem step_loaded_of_ok (htransform : u.transform p = .ok q) :
    (u.goTo (.loaded ticket p)).step s =
      (.goOn, u.goTo (.writing ticket q u.writer.waits), s) := by
  simp only [step, goTo, htransform]

theorem step_loaded_of_error (htransform : u.transform p = .error e) :
    (u.goTo (.loaded ticket p)).step s = (.goOn, u.goTo (.leaving ticket (.error e)), s) := by
  simp only [step, goTo, htransform]

end Step

/-- One thing at a time that does not end in waiting. -/
theorem run_succ_of_goOn {fuel : Nat} {u' : Update} {s' : Store} (h : u.step s = (.goOn, u', s')) :
    run (fuel + 1) u s = run fuel u' s' := by
  rw [run, h]

/-! ## The lock, when nobody else is there -/

section Lock

variable {l : Locks} {key : String}

/-- The only party, once it is in line. -/
theorem parties_request (h : l.parties = []) :
    (l.request key).2.parties =
      [{ ticket := l.fresh, key, lock := (l.table.find? key).getD l.fresh, queued := true }] := by
  simp [Locks.request, Locks.join, Locks.enqueue, h]

theorem poll_request (h : l.parties = []) :
    (l.request key).2.poll l.fresh = (true, (l.request key).2.hold l.fresh) := by
  have howns : (l.request key).2.owns l.fresh = true := by
    simp [Locks.owns, Locks.party?, Locks.owner?, parties_request h]
  rw [Locks.poll, if_pos howns]

theorem parties_release_request (h : l.parties = []) :
    (((l.request key).2.hold l.fresh).release l.fresh).parties = [] := by
  simp [Locks.release, Locks.hold, parties_request h]

end Lock

/-- With nobody there, three steps lead to the lock. -/
theorem run_of_start {fuel : Nat} (hidle : s.locks.parties = []) :
    run (fuel + 3) (u.goTo .start) s =
      run fuel (u.goTo (.locked s.locks.fresh))
        { s with locks := (s.locks.request u.name).2.hold s.locks.fresh } := by
  have hqueued : (u.goTo (.queued s.locks.fresh)).step
      { s with locks := (s.locks.request u.name).2 } =
      (.goOn, u.goTo (.locked s.locks.fresh),
        { s with locks := (s.locks.request u.name).2.hold s.locks.fresh }) := by
    simp only [step, goTo, poll_request hidle]
  exact run_succ_of_goOn hqueued

/-- Whatever the result, three steps lead from the lock to the end. -/
theorem run_of_leaving (fuel ticket : Nat) (result : Except Error Package) (u : Update)
    (s : Store) :
    run (fuel + 3) (u.goTo (.leaving ticket result)) s =
      (.ready result, u.goTo (.over result),
        { s with locks := (s.locks.release ticket).tidy u.name }) := rfl

/-- With the lock, an update reads, transforms and writes. -/
theorem run_of_locked (hwaits : u.writer.waits = some 0) (fuel ticket : Nat) :
    run (fuel + 6) (u.goTo (.locked ticket)) s =
      (.ready (u.alone s.packages).1, u.goTo (.over (u.alone s.packages).1),
        { s with
          packages := (u.alone s.packages).2
          locks := (s.locks.release ticket).tidy u.name }) := by
  cases hread : s.packages.read u.name with
  | error e =>
    rw [run_succ_of_goOn (step_locked_of_error ticket hread), alone_of_unread hread]
    exact run_of_leaving (fuel + 2) ..
  | ok p =>
    rw [run_succ_of_goOn (step_locked_of_ok ticket hread)]
    cases htransform : u.transform p with
    | error e =>
      rw [run_succ_of_goOn (step_loaded_of_error ticket htransform),
        alone_of_refused hread htransform]
      exact run_of_leaving (fuel + 1) ..
    | ok q =>
      rw [run_succ_of_goOn (step_loaded_of_ok ticket htransform), hwaits,
        alone_of_transformed hread htransform]
      exact run_of_leaving fuel ..

/-- **Nobody in the way, an update goes all the way in one poll.** -/
theorem poll_eq_alone (hstage : u.stage = .start) (hwaits : u.writer.waits = some 0)
    (hidle : s.locks.parties = []) :
    ∃ u' locks, locks.parties = [] ∧
      u.poll s = (.ready (u.alone s.packages).1, u',
        { s with packages := (u.alone s.packages).2, locks }) := by
  have hu : u = u.goTo .start := by rw [goTo, ← hstage]
  have hpoll : u.poll s = run 9 (u.goTo .start) s := congrArg (fun u => run 9 u s) hu
  refine ⟨_, _, ?_, hpoll.trans ((run_of_start hidle).trans (run_of_locked hwaits 0 _))⟩
  exact (Locks.parties_tidy ..).trans (parties_release_request hidle)

end Update

/-- The same update before it has begun, with the writer that saves at once. -/
def Update.anew (u : Update) : Update := { u with stage := .start, writer := .saving }

/-- Makes updates one after the other, each polled once. -/
def Store.inTurn (s : Store) : List Update → List (Poll (Except Error Package)) × Store
  | [] => ([], s)
  | u :: us =>
    let (r, _, s) := u.poll s
    let (rs, s) := s.inTurn us
    (r :: rs, s)

theorem Store.inTurn_append (s : Store) (us vs : List Update) :
    s.inTurn (us ++ vs) =
      ((s.inTurn us).1 ++ ((s.inTurn us).2.inTurn vs).1, ((s.inTurn us).2.inTurn vs).2) := by
  induction us generalizing s with
  | nil => rfl
  | cons u us ih => simp only [List.cons_append, inTurn, ih]

/-- **An update that reads and transforms saves the outcome under its name.** -/
theorem Store.inTurn_anew {name : String} {p q : Package} (hidle : s.locks.parties = [])
    (hname : u.name = name) (hread : s.packages.read name = .ok p)
    (htransform : u.transform p = .ok q) :
    (s.inTurn [u.anew]).1 = [.ready (.ok q)] ∧ (s.inTurn [u.anew]).2.locks.parties = [] ∧
      (s.inTurn [u.anew]).2.packages.find? name = some q.encode := by
  subst hname
  obtain ⟨u', locks, hparties, hpoll⟩ := u.anew.poll_eq_alone (s := s) rfl rfl hidle
  have halone : u.anew.alone s.packages = (.ok q, s.packages.save u.name q) :=
    Update.alone_of_transformed (u := u.anew) hread htransform
  rw [inTurn, hpoll, halone]
  exact ⟨rfl, hparties, Documents.find?_save ..⟩

end RegistryProxy
