import RegistryProxy.Package.Edit
import RegistryProxy.Proofs.Store.Alone
import RegistryProxy.Proofs.Store.Updates

/-!
# Proofs/Store/Course — the ways an update can go

An `Order` asks for a change that is made in place, so it may have changed something when it
refuses, and may name a writer.  The `deeds` of an update are what it has to do with packages: it
looks one up, and it calls its writer.

`Course` says which deeds an update may have done and what the store may hold when it answers, while
others change the store as they like.  Every turn follows it (`Along.turn`).
-/

namespace RegistryProxy

/-! ## Changes in place -/

/-- A change of a package in place, which may have changed something when it refuses. -/
abbrev Alteration := Package → Except Error Unit × Package

namespace Alteration

variable {f : Alteration} {p q : Package} {e : Error}

/-- What comes out of a change in place: all of it, or nothing when it refuses. -/
def transform (f : Alteration) : Transform := fun p =>
  match f p with
  | (.ok (), q) => .ok q
  | (.error e, _) => .error e

theorem eq_of_transform_eq_ok (h : f.transform p = .ok q) : f p = (.ok (), q) := by
  rw [transform] at h
  split at h
  · next hf => rw [hf, Except.ok.inj h]
  · cases h

theorem exists_of_transform_eq_error (h : f.transform p = .error e) :
    ∃ q, f p = (.error e, q) := by
  rw [transform] at h
  split at h
  · cases h
  · next e' q hf => exact ⟨q, by rw [hf, Except.error.inj h]⟩

end Alteration

/-- Edits made in place; those before the one that refuses have been made. -/
def Edit.inPlace : List Edit → Alteration
  | [], p => (.ok (), p)
  | edit :: edits, p =>
    match edit.apply p with
    | .ok q => inPlace edits q
    | .error e => (.error e, p)

theorem Edit.transform_inPlace (edits : List Edit) :
    (inPlace edits).transform = applyAll edits := by
  funext p
  induction edits generalizing p with
  | nil => rfl
  | cons edit edits ih =>
    rw [applyAll, List.foldlM_cons, Alteration.transform, inPlace]
    cases happly : edit.apply p with
    | ok q => exact ih q
    | error e => rfl

/-! ## What a store holds -/

namespace Store

/-- A store with all its packages and tarballs, and without its locks. -/
def unlocked (s : Store) : Store := { s with locks := {} }

/-- What somebody does to what a store holds. -/
abbrev Change := Store → Store

/-- What a store holds after one change after the other. -/
def after (s : Store) (fs : List Change) : Store :=
  fs.foldl (fun s f => (f s).unlocked) s.unlocked

theorem after_concat (s : Store) (fs : List Change) (f : Change) :
    s.after (fs ++ [f]) = (f (s.after fs)).unlocked := by
  rw [after, after, List.foldl_append]
  rfl

end Store

namespace Update

/-! ## Deeds -/

/-- What is asked of an update. -/
structure Order where
  /-- The name of the package. -/
  name : String
  /-- The change. -/
  change : Alteration
  /-- Who writes it, if not the store itself. -/
  writer : Option Writer := none

/-- The update that an order makes. -/
def Order.update (o : Order) : Update where
  name := o.name
  transform := o.change.transform
  writer := o.writer.getD .saving

/-- One entry in the history of an update. -/
inductive Deed where
  /-- It looked its package up and found a text, or none. -/
  | look (text : Option Bytes)
  /-- It called its writer with a name and a package, and the writer answered. -/
  | call (name : String) (p : Package) (answer : Except Error Unit)
  /-- Somebody else did something to what the store holds. -/
  | other (f : Store.Change)

/-- What others did one after the other. -/
def Deed.others (fs : List Store.Change) : List Deed := fs.map .other

theorem Deed.others_concat (fs : List Store.Change) (f : Store.Change) :
    others (fs ++ [f]) = others fs ++ [.other f] := List.map_append

variable {u : Update} {s : Store} {r : Except Error Package}

/-- **What the next thing that an update does has to do with packages.** -/
def deeds (u : Update) (s : Store) : List Deed :=
  match u.stage with
  | .locked _ => [.look (s.packages.find? u.name)]
  | .writing _ p (some 0) => [.call u.name p (u.writer.write u.name p s.packages).1]
  | _ => []

/-- The update with a writer that writes something else. -/
def rewritten (u : Update) (write : String → Package → Documents → Except Error Unit × Documents) :
    Update := { u with writer := { u.writer with write } }

/-- **The deeds tell of every call of the writer**: what an update does without one, it does with
any other writer. -/
theorem step_rewritten (write : String → Package → Documents → Except Error Unit × Documents)
    (h : ∀ name p answer, .call name p answer ∉ u.deeds s) :
    (u.rewritten write).step s =
      ((u.step s).1, (u.step s).2.1.rewritten write, (u.step s).2.2) := by
  obtain ⟨name, transform, writer, stage⟩ := u
  cases stage with
  | queued | locked | loaded =>
    simp only [step, rewritten]
    split <;> rfl
  | writing ticket p waits =>
    rcases waits with _ | _ | n
    · rfl
    · exact absurd (List.mem_singleton.2 rfl) (h _ _ _)
    · rfl
  | start | joined | leaving | tidying | «over» => rfl

/-- An update stays the same but for its stage. -/
theorem step_eq_goTo (u : Update) (s : Store) : (u.step s).2.1 = u.goTo (u.step s).2.1.stage := by
  have hact := u.act_step s
  generalize (u.step s).2.1 = u' at hact
  generalize (u.step s).2.2 = s' at hact
  cases hact <;> rfl

/-- An update tells its result when it is over. -/
theorem stage_of_step_over (h : (u.step s).1 = .over r) : (u.step s).2.1.stage = .over r := by
  revert h
  rw [step]
  split
  case h_11 result hstage =>
    rintro ⟨⟩
    exact hstage
  case h_3 | h_4 | h_5 => split <;> rintro ⟨⟩
  all_goals rintro ⟨⟩

/-! ## Turns that are left -/

/-- How many turns an update needs at most, if it never has to wait for others. -/
def left (u : Update) : Nat :=
  match u.stage with
  | .start => u.writer.waits.getD 0 + 8
  | .joined _ => u.writer.waits.getD 0 + 7
  | .queued _ => u.writer.waits.getD 0 + 6
  | .locked _ => u.writer.waits.getD 0 + 5
  | .loaded _ _ => u.writer.waits.getD 0 + 4
  | .writing _ _ waits => waits.getD 0 + 3
  | .leaving _ _ => 2
  | .tidying _ => 1
  | .over _ => 0

theorem exists_over_of_left (h : u.left = 0) : ∃ r, u.stage = .over r := by
  cases hstage : u.stage with
  | «over» r => exact ⟨r, rfl⟩
  | _ => simp [left, hstage] at h

/-- **No turn is in vain**, but for those of an update that is over, that does not have its lock
yet, or whose writer is never ready. -/
theorem left_step (u : Update) (s : Store) :
    (u.step s).2.1.left < u.left ∨ (∃ r, u.stage = .over r) ∨
      (∃ ticket, u.stage = .queued ticket ∧ ¬ s.locks.owns ticket = true) ∨
      ∃ ticket p, u.stage = .writing ticket p none := by
  cases hstage : u.stage with
  | «over» r => exact .inr (.inl ⟨r, rfl⟩)
  | queued ticket =>
    by_cases howns : s.locks.owns ticket = true
    · left
      simp [step, left, goTo, hstage, Locks.poll, howns]
    · exact .inr (.inr (.inl ⟨ticket, rfl, howns⟩))
  | writing ticket p waits =>
    rcases waits with _ | _ | n
    · exact .inr (.inr (.inr ⟨ticket, p, rfl⟩))
    all_goals
      left
      simp [step, left, goTo, hstage]
  | locked ticket =>
    left
    simp only [step, hstage]
    split
    · simp [left, goTo, hstage]
    · simp only [left, goTo, hstage]
      omega
  | loaded ticket p =>
    left
    simp only [step, hstage]
    split <;> simp [left, goTo, hstage]
  | start | joined | leaving | tidying =>
    left
    simp [step, left, goTo, hstage]

/-- An update that has been given its lock does not wait for it again. -/
theorem isWaiting_step (h : u.isWaiting = false) : (u.step s).2.1.isWaiting = false := by
  have hact := u.act_step s
  generalize (u.step s).2.1 = u' at hact ⊢
  generalize (u.step s).2.2 = s' at hact
  cases hact with
  | join hstage | enqueue _ hstage | enter _ hstage => simp [isWaiting, hstage] at h
  | stay => exact h
  | load | transform | suspend | fail | write | release | tidy => rfl

/-! ## Courses -/

/-- **What an update answers when its writer has answered**: the package, or something internal —
what the writer told, if that was internal, or else an error with that as its source. -/
inductive Told (name : String) (q : Package) : Except Error Unit → Except Error Package → Prop
  | done : Told name q (.ok ()) (.ok q)
  | inside (message : String) (cause : Cause) :
    Told name q (.error (.internal message cause)) (.error (.internal message cause))
  | outside (e : Error) (h : ∀ message cause, e ≠ .internal message cause) :
    Told name q (.error e)
      (.error (.internal ("failed to write package '" ++ name ++ "'") (.error e)))

theorem told_written (name : String) (q : Package) (answer : Except Error Unit) :
    Told name q answer (written name q answer) := by
  cases answer with
  | ok => exact .done
  | error e =>
    by_cases h : ∃ message cause, e = .internal message cause
    · obtain ⟨message, cause, rfl⟩ := h
      exact .inside message cause
    · have houtside : ∀ message cause, e ≠ .internal message cause :=
        fun message cause he => h ⟨message, cause, he⟩
      rw [written, writeError.eq_2 _ _ houtside]
      exact .outside e houtside

variable {o : Order} {g : Store} {h : List Deed} {text : Option Bytes}

/-- **The package was looked up once, and that was all.**  In the store `s`, as others had left it
by then, there was this text or none; the store `g` is what the others have made of `s`. -/
inductive Looked (o : Order) (s : Store) (text : Option Bytes) : List Deed → Store → Prop
  | intro (before after : List Store.Change)
    (find : (s.after before).packages.find? o.name = text) :
    Looked o s text (Deed.others before ++ .look text :: Deed.others after)
      (s.after (before ++ after))

/-- **The courses that an update can take**: its history, what the store holds, and the answer. -/
inductive Course (o : Order) (s : Store) : List Deed → Store → Except Error Package → Prop
  /-- There is no such package. -/
  | missing {h : List Deed} {g : Store} (looked : Looked o s none h g) :
    Course o s h g (.error (.notFound o.name))
  /-- Its text cannot be read. -/
  | unreadable {h : List Deed} {g : Store} (text : Bytes) (looked : Looked o s (some text) h g)
    (decode : Package.decode text = none) :
    Course o s h g
      (.error (.internal ("failed to parse package '" ++ o.name ++ "'") (.outside none)))
  /-- The change refuses, whatever it has changed. -/
  | refused {h : List Deed} {g : Store} (text : Bytes) (p q : Package) (e : Error)
    (looked : Looked o s (some text) h g) (decode : Package.decode text = some p)
    (change : o.change p = (.error e, q)) : Course o s h g (.error e)
  /-- The writer is called with the changed package, and nothing is written but what it writes. -/
  | written {h : List Deed} {g : Store} (text : Bytes) (p q : Package) (answer : Except Error Unit)
    (packages : Documents) (r : Except Error Package) (after : List Store.Change)
    (looked : Looked o s (some text) h g) (decode : Package.decode text = some p)
    (change : o.change p = (.ok (), q))
    (write : (o.writer.getD .saving).write o.name q g.packages = (answer, packages))
    (told : Told o.name q answer r) :
    Course o s (h ++ .call o.name q answer :: Deed.others after)
      (Store.after { g with packages } after) r

/-- **How far an update has come** at each stage. -/
def Along (o : Order) (s : Store) (h : List Deed) (g : Store) : Stage → Prop
  | .start | .joined _ | .queued _ | .locked _ => ∃ fs, h = Deed.others fs ∧ g = s.after fs
  | .loaded _ p => ∃ text, Looked o s (some text) h g ∧ Package.decode text = some p
  | .writing _ q _ => ∃ text p, Looked o s (some text) h g ∧ Package.decode text = some p ∧
    o.change p = (.ok (), q)
  | .leaving _ r | .tidying r | .over r => Course o s h g r

/-! ## What others do -/

theorem Looked.other (hlooked : Looked o s text h g) (f : Store.Change) :
    Looked o s text (h ++ [.other f]) (f g).unlocked := by
  obtain ⟨before, after, hfind⟩ := hlooked
  have hlooked := Looked.intro before (after ++ [f]) hfind
  rwa [Deed.others_concat, ← List.append_assoc, Store.after_concat, ← List.cons_append,
    ← List.append_assoc] at hlooked

theorem Course.other (hcourse : Course o s h g r) (f : Store.Change) :
    Course o s (h ++ [.other f]) (f g).unlocked r := by
  cases hcourse with
  | missing hlooked => exact .missing (hlooked.other f)
  | unreadable text hlooked hdecode => exact .unreadable text (hlooked.other f) hdecode
  | refused text p q e hlooked hdecode hchange =>
    exact .refused text p q e (hlooked.other f) hdecode hchange
  | written text p q answer packages r after hlooked hdecode hchange hwrite htold =>
    have hcourse := Course.written text p q answer packages r (after ++ [f]) hlooked hdecode hchange
      hwrite htold
    rwa [Deed.others_concat, Store.after_concat, ← List.cons_append, ← List.append_assoc]
      at hcourse

/-- **Whatever others do, an update stays on its course.** -/
theorem Along.other {stage : Stage} (halong : Along o s h g stage) (f : Store.Change) :
    Along o s (h ++ [.other f]) (f g).unlocked stage := by
  cases stage with
  | start | joined | queued | locked =>
    obtain ⟨fs, rfl, rfl⟩ := halong
    exact ⟨fs ++ [f], (Deed.others_concat fs f).symm, (s.after_concat fs f).symm⟩
  | loaded ticket p =>
    obtain ⟨text, hlooked, hdecode⟩ := halong
    exact ⟨text, hlooked.other f, hdecode⟩
  | writing ticket q waits =>
    obtain ⟨text, p, hlooked, hdecode, hchange⟩ := halong
    exact ⟨text, p, hlooked.other f, hdecode, hchange⟩
  | leaving | tidying | «over» => exact Course.other halong f

/-! ## What the update does -/

/-- A package that is not read is missing, or its text cannot be read. -/
theorem Looked.course {d : Documents} {e : Error} (hlooked : Looked o s (d.find? o.name) h g)
    (hread : d.read o.name = .error e) : Course o s h g (.error e) := by
  rw [Documents.read] at hread
  split at hread
  · next hfind =>
    cases hread
    exact .missing (hfind ▸ hlooked)
  · next text hfind =>
    split at hread
    · cases hread
    · next hdecode =>
      cases hread
      exact .unreadable text (hfind ▸ hlooked) hdecode

/-- A package that is read has a text. -/
theorem Looked.decode {d : Documents} {p : Package} (hlooked : Looked o s (d.find? o.name) h g)
    (hread : d.read o.name = .ok p) :
    ∃ text, Looked o s (some text) h g ∧ Package.decode text = some p := by
  rw [Documents.read] at hread
  split at hread
  · cases hread
  · next text hfind =>
    split at hread
    · next q hdecode =>
      cases hread
      exact ⟨text, hfind ▸ hlooked, hdecode⟩
    · cases hread

variable {s' : Store} {ticket : Nat} {p q : Package}

/-- An update with its lock looks its package up. -/
theorem Along.turn_locked (halong : Along o s h s'.unlocked (.locked ticket)) :
    Along o s (h ++ [.look (s'.packages.find? o.name)])
      ((o.update.goTo (.locked ticket)).step s').2.2.unlocked
      ((o.update.goTo (.locked ticket)).step s').2.1.stage := by
  obtain ⟨fs, rfl, hgoods⟩ := halong
  have hlooked := Looked.intro (o := o) (s := s) fs [] rfl
  rw [List.append_nil, ← hgoods] at hlooked
  cases hread : s'.packages.read o.update.name with
  | ok p =>
    rw [step_locked_of_ok ticket hread]
    exact hlooked.decode hread
  | error e =>
    rw [step_locked_of_error ticket hread]
    exact hlooked.course hread

/-- Then the change is made, or refused. -/
theorem Along.turn_loaded (halong : Along o s h s'.unlocked (.loaded ticket p)) :
    Along o s h ((o.update.goTo (.loaded ticket p)).step s').2.2.unlocked
      ((o.update.goTo (.loaded ticket p)).step s').2.1.stage := by
  obtain ⟨text, hlooked, hdecode⟩ := halong
  cases htransform : o.update.transform p with
  | ok q =>
    rw [step_loaded_of_ok ticket htransform]
    exact ⟨text, p, hlooked, hdecode, Alteration.eq_of_transform_eq_ok htransform⟩
  | error e =>
    obtain ⟨q, hchange⟩ := Alteration.exists_of_transform_eq_error htransform
    rw [step_loaded_of_error ticket htransform]
    exact Course.refused text p q e hlooked hdecode hchange

/-- A writer that is ready writes. -/
theorem Along.turn_writing (halong : Along o s h s'.unlocked (.writing ticket q (some 0))) :
    Along o s (h ++ (o.update.goTo (.writing ticket q (some 0))).deeds s')
      ((o.update.goTo (.writing ticket q (some 0))).step s').2.2.unlocked
      ((o.update.goTo (.writing ticket q (some 0))).step s').2.1.stage := by
  obtain ⟨text, p, hlooked, hdecode, hchange⟩ := halong
  exact Course.written (g := s'.unlocked) text p q _ _ _ [] hlooked hdecode hchange rfl
    (told_written ..)

/-- **Every turn follows the course.** -/
theorem Along.turn (hu : u = o.update.goTo u.stage)
    (halong : Along o s h s'.unlocked u.stage) :
    Along o s (h ++ u.deeds s') (u.step s').2.2.unlocked (u.step s').2.1.stage := by
  -- Most stages have nothing to do with packages.
  have hidle (hdeeds : u.deeds s' = [])
      (hstep : Along o s h (u.step s').2.2.unlocked (u.step s').2.1.stage) :
      Along o s (h ++ u.deeds s') (u.step s').2.2.unlocked (u.step s').2.1.stage := by
    rwa [hdeeds, List.append_nil]
  generalize u.stage = stage at hu halong
  subst hu
  cases stage with
  | start | joined | leaving | tidying | «over» => exact hidle rfl halong
  | queued ticket =>
    refine hidle rfl ?_
    simp only [step, goTo]
    split <;> exact halong
  | locked ticket => exact halong.turn_locked
  | loaded ticket p => exact hidle rfl halong.turn_loaded
  | writing ticket q waits =>
    rcases waits with _ | _ | n
    · exact hidle rfl halong
    · exact halong.turn_writing
    · exact hidle rfl halong

end Update

end RegistryProxy
