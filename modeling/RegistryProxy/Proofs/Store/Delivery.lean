import RegistryProxy.Proofs.Store.Verdict
import RegistryProxy.Proofs.Transfer.Abreast

/-!
# Proofs/Store/Delivery — a stream is stored as a whole or not at all

A `Delivery` is a pipe that copies a stream into an intake of a store, amid everybody else who
brings tarballs in.  A `Step` lets the pipe, its intake or anybody else do their next thing, or
gives the stream or the upload up.  To everybody else a delivery is a writer like any other
(`Sound.traffic`), so what its intake reports is true, and what the pipe tells follows from it
(`Concludes`).
-/

namespace RegistryProxy

namespace Traffic

variable {d : Traffic} {i : Nat} {t : Intake}

/-- The store and the writers after the writer of an intake has done something. -/
def write (d : Traffic) (i : Nat) (t : Intake) (x : Hand × Upload) : Traffic where
  store := d.store.setIntake i { t with upload := x.2 }
  calls := d.calls
  hands := Function.update d.hands i x.1

/-- **What a writer does in any number of goes is a run.** -/
theorem run_acts (hintake : d.store.intakes[i]? = some t) {x : Hand × Upload}
    (hacts : Hand.Acts (d.hands i, t.upload) x) : Run d (d.write i t x) := by
  induction hacts with
  | refl =>
    have hsame : d.write i t (d.hands i, t.upload) = d := by
      rw [write, Store.setIntake_self hintake, Function.update_eq_self]
    rw [hsame]
  | @tail x y _ hact ih =>
    have hstep := Step.write (d := d.write i t x) i (Store.getElem?_setIntake_self hintake)
      (by simpa [write] using hact)
    refine ih.tail ?_
    simpa [write, Store.setIntake] using hstep

end Traffic

/-- A pipe into an intake of a store. -/
structure Delivery where
  /-- The store with all who bring tarballs into it. -/
  traffic : Traffic
  /-- The pipe; its upload is the one that it saw last. -/
  pipe : Pipe
  /-- What was seen of the stream, oldest first. -/
  seen : List Stream.Sight := []
  /-- What the pipe has told, when it is over. -/
  result : Option Report := none

namespace Delivery

variable {r r' : Delivery} {i : Nat} {t : Intake} {d d₀ : Traffic} {origin : Stream.Origin}
  {name : String}

/-- The stream with what was seen of it. -/
def watch (r : Delivery) : Stream.Watch := ⟨r.pipe.stream, r.seen⟩

/-- The delivery of a stream to begin with. -/
def start (d : Traffic) (w : Stream.Watch) : Delivery where
  traffic := d
  pipe := { stream := w.stream, upload := .ofCapacity Upload.storeCapacity }
  seen := w.seen

/-- The pipe with its upload as it is in the store. -/
def pipeAt (r : Delivery) (t : Intake) : Pipe := { r.pipe with upload := t.upload }

/-- Lets the pipe into an intake do one thing. -/
def advance (r : Delivery) (i : Nat) (t : Intake) : Delivery where
  traffic := r.traffic.write i t
    ((r.pipeAt t).handAfter (r.traffic.hands i), (r.pipeAt t).step.2.upload)
  pipe := (r.pipeAt t).step.2
  seen := r.seen ++ (r.pipeAt t).sights
  result := match (r.pipeAt t).step.1 with
    | .over report => some report
    | _ => none

/-- **One step of a run**: of the pipe, of whoever gives the stream or the upload up, of the intake,
or of anybody else. -/
inductive Step (i : Nat) : Delivery → Delivery → Prop
  | advance {r : Delivery} {t : Intake} (running : r.result = none)
    (intake : r.traffic.store.intakes[i]? = some t) : Step i r (r.advance i t)
  | abort {r : Delivery} :
    Step i r { r with
      pipe := { r.pipe with stream := r.pipe.stream.abort }, seen := r.seen ++ [.abort] }
  | cancel {r : Delivery} {t : Intake} (intake : r.traffic.store.intakes[i]? = some t) :
    Step i r { r with traffic := r.traffic.write i t (r.traffic.hands i, t.upload.cancel) }
  | intake {r : Delivery} :
    Step i r { r with
      traffic := { r.traffic with store := (r.traffic.store.intakeStep i).2.1 } }
  | others {r : Delivery} {d : Traffic} (step : Traffic.Step r.traffic d)
    (intake : d.store.intakes[i]? = r.traffic.store.intakes[i]?)
    (hand : d.hands i = r.traffic.hands i) : Step i r { r with traffic := d }

/-- A run of any number of steps. -/
abbrev Run (i : Nat) : Delivery → Delivery → Prop := Relation.ReflTransGen (Step i)

/-! ## What a run keeps -/

/-- **What the result of a pipe says**: of success, that all chunks of a complete stream are stored;
of failure, that the end frame was not taken or that the intake has failed. -/
def Concludes (h : Hand) (w : Stream.Watch) (t : Intake) (stored : Option Bytes) : Report → Prop
  | .ok n => Intake.Truthful (.ok n) h stored ∧ h.accepted = Stream.chunksOf w.seen ∧
    w.stream.stage = .completed
  | .error _ => h.ended = false ∨ ∃ e, t.verdict? = some (.error e)

/-- Where a pipe stands with its intake. -/
def Follows (r : Delivery) (i : Nat) (t : Intake) : Prop :=
  match r.result with
  | none => t.upload.reported = false ∧ Pipe.Abreast (r.traffic.hands i) r.watch r.pipe.duty
  | some report =>
    Concludes (r.traffic.hands i) r.watch t (r.traffic.store.tarballs.find? t.name) report

/-- **What a run keeps.** -/
structure Sound (d₀ : Traffic) (origin : Stream.Origin) (i : Nat) (name : String) (r : Delivery) :
    Prop where
  /-- To everybody else it is a run like any other. -/
  traffic : Traffic.Run d₀ r.traffic
  /-- The stream keeps to its protocol. -/
  stands : Stream.Stands origin r.watch
  /-- The pipe follows its intake. -/
  follows : ∃ t, r.traffic.store.intakes[i]? = some t ∧ t.name = name ∧ r.Follows i t

/-- The stream may be given up, and tarballs and settled reports stay. -/
theorem Concludes.keeps {h : Hand} {w w' : Stream.Watch} {t t' : Intake}
    {stored stored' : Option Bytes} {report : Report} (hconcludes : Concludes h w t stored report)
    (hchunks : Stream.chunksOf w'.seen = Stream.chunksOf w.seen)
    (hstage : w'.stream.stage = w.stream.stage)
    (hverdict : ∀ report, t.verdict? = some report → t'.verdict? = some report)
    (hstored : ∀ data, stored = some data → stored' = some data) :
    Concludes h w' t' stored' report := by
  cases report with
  | ok n =>
    obtain ⟨htrue, haccepted, hcompleted⟩ := hconcludes
    exact ⟨htrue.keeps (fun hended => ⟨rfl, hended⟩) hstored, haccepted.trans hchunks.symm,
      hstage.trans hcompleted⟩
  | error e =>
    exact hconcludes.imp_right fun ⟨e, he⟩ => ⟨e, hverdict _ he⟩

namespace Sound

theorem start (hrun : Traffic.Run d₀ d) (hintake : d.store.intakes[i]? = some { name })
    (hhand : d.hands i = {}) {w : Stream.Watch} (hstands : Stream.Stands origin w)
    (huntouched : Stream.Untouched w.seen) : Sound d₀ origin i name (start d w) := by
  refine ⟨hrun, hstands, { name }, hintake, rfl, rfl, ?_⟩
  rw [Delivery.start, hhand]
  exact ⟨rfl, rfl, huntouched.chunks.symm, hstands.not_dead huntouched⟩

/-- Anybody else does something. -/
theorem beside (hbegins : d₀.Begins) (h : Sound d₀ origin i name r)
    (hrun : Traffic.Run r.traffic d) (hhand : d.hands i = r.traffic.hands i)
    (hreported : ∀ t t', r.traffic.store.intakes[i]? = some t → d.store.intakes[i]? = some t' →
      t'.upload.reported = t.upload.reported) :
    Sound d₀ origin i name { r with traffic := d } := by
  obtain ⟨t, hintake, hname, hfollows⟩ := h.follows
  obtain ⟨t', hintake', hname', hverdict⟩ := hrun.verdict? hintake
  have hsound : Traffic.Sound d₀ r.traffic := hbegins.sound.run h.traffic
  refine ⟨h.traffic.trans hrun, h.stands, t', hintake', hname'.trans hname, ?_⟩
  cases hresult : r.result with
  | none =>
    simp only [Follows, hresult, hhand] at hfollows ⊢
    exact ⟨(hreported t t' hintake hintake').trans hfollows.1, hfollows.2⟩
  | some report =>
    simp only [Follows, hresult, hhand] at hfollows ⊢
    refine hfollows.keeps rfl rfl hverdict fun data hdata => ?_
    rw [hname']
    exact hsound.find?_run hrun hdata

/-- The stream is given up. -/
theorem abort (h : Sound d₀ origin i name r) :
    Sound d₀ origin i name { r with
      pipe := { r.pipe with stream := r.pipe.stream.abort }, seen := r.seen ++ [.abort] } := by
  obtain ⟨t, hintake, hname, hfollows⟩ := h.follows
  have hchunks : Stream.chunksOf (r.seen ++ [.abort]) = Stream.chunksOf r.seen := by
    rw [Stream.chunksOf_append]
    exact List.append_nil _
  refine ⟨h.traffic, h.stands.call .abort, t, hintake, hname, ?_⟩
  cases hresult : r.result with
  | none =>
    simp only [Follows, hresult] at hfollows ⊢
    exact ⟨hfollows.1, hfollows.2.congr hchunks rfl⟩
  | some report =>
    simp only [Follows, hresult] at hfollows ⊢
    exact hfollows.keeps hchunks rfl (fun _ => id) fun _ => id

/-- The pipe does something. -/
theorem advance (hbegins : d₀.Begins) (h : Sound d₀ origin i name r) (hrunning : r.result = none)
    (hintake : r.traffic.store.intakes[i]? = some t) :
    Traffic.Run r.traffic (r.advance i t).traffic ∧ Sound d₀ origin i name (r.advance i t) := by
  obtain ⟨t', hintake', hname, hfollows⟩ := h.follows
  obtain rfl : t = t' := Option.some.inj (hintake.symm.trans hintake')
  rw [Follows, hrunning] at hfollows
  obtain ⟨hreported, habreast⟩ := hfollows
  have hrun := Traffic.run_acts hintake (Pipe.acts_step (p := r.pipeAt t) habreast)
  have hnext := Pipe.abreast_step (p := r.pipeAt t) h.stands habreast hreported
  have hhonest := Traffic.Run.honest hbegins h.traffic hintake
  refine ⟨hrun, h.traffic.trans hrun, Pipe.stands_step h.stands, _,
    Store.getElem?_setIntake_self hintake, hname, ?_⟩
  cases hprogress : (r.pipeAt t).step.1 with
  | goOn | wait =>
    simp only [hprogress] at hnext
    simp only [Follows, Delivery.advance, hprogress, Traffic.write, Function.update_self]
    exact hnext
  | «over» report =>
    simp only [hprogress] at hnext
    simp only [Follows, Delivery.advance, hprogress, Traffic.write, Function.update_self]
    cases hnext with
    | fails e hunended => exact .inl hunended
    | tells _ houtcome hupload hhand haccepted hcompleted =>
      obtain ⟨hverdict, htrue⟩ := hhonest.of_outcome hreported houtcome
      rw [hupload, hhand]
      cases report with
      | ok n => exact ⟨htrue, haccepted, hcompleted⟩
      | error e => exact .inr ⟨e, hverdict⟩

theorem step (hbegins : d₀.Begins) (h : Sound d₀ origin i name r) (hstep : Step i r r') :
    Traffic.Run r.traffic r'.traffic ∧ Sound d₀ origin i name r' := by
  cases hstep with
  | advance hrunning hintake => exact h.advance hbegins hrunning hintake
  | abort => exact ⟨.refl, h.abort⟩
  | @cancel t hintake =>
    have hcancel : Hand.Acts (r.traffic.hands i, t.upload)
        (r.traffic.hands i, t.upload.cancel) := .single .cancel
    have hrun := Traffic.run_acts hintake hcancel
    refine ⟨hrun, h.beside hbegins hrun (Function.update_self ..) ?_⟩
    intro t₁ t' hintake₁ hintake'
    obtain rfl := Option.some.inj (hintake.symm.trans hintake₁)
    obtain rfl := Option.some.inj ((Store.getElem?_setIntake_self hintake).symm.trans hintake')
    rfl
  | intake =>
    have hrun : Traffic.Run r.traffic _ := .single (.intake i)
    refine ⟨hrun, h.beside hbegins hrun rfl ?_⟩
    intro t t' hintake hintake'
    exact (r.traffic.store.intaken_intakeStep i).reported_eq hintake hintake'
  | others hstep hsame hhand =>
    refine ⟨.single hstep, h.beside hbegins (.single hstep) hhand ?_⟩
    intro t t' hintake hintake'
    obtain rfl := Option.some.inj (hintake.symm.trans (hsame.symm.trans hintake'))
    rfl

theorem run (hbegins : d₀.Begins) (h : Sound d₀ origin i name r) (hrun : Run i r r') :
    Traffic.Run r.traffic r'.traffic ∧ Sound d₀ origin i name r' := by
  induction hrun with
  | refl => exact ⟨.refl, h⟩
  | tail _ hstep ih =>
    obtain ⟨htraffic, hsound⟩ := ih
    obtain ⟨htraffic', hsound'⟩ := hsound.step hbegins hstep
    exact ⟨htraffic.trans htraffic', hsound'⟩

/-- **A delivery that has failed stores nothing**: success is not what its intake will report. -/
theorem verdict_of_failed (hbegins : d₀.Begins) (h : Sound d₀ origin i name r) {e : Error}
    (hresult : r.result = some (.error e)) (hintake : r.traffic.store.intakes[i]? = some t)
    (n : Nat) : t.verdict? ≠ some (.ok n) := by
  obtain ⟨t', hintake', -, hfollows⟩ := h.follows
  obtain rfl : t = t' := Option.some.inj (hintake.symm.trans hintake')
  intro hverdict
  simp only [Follows, hresult] at hfollows
  rcases hfollows with hended | ⟨e', hfailed⟩
  · have hhonest := Traffic.Run.honest hbegins h.traffic hintake
    have hfed := ((hbegins.sound.run h.traffic).fed i t hintake).1
    rw [hhonest.ended_of_verdict? hfed hverdict] at hended
    cases hended
  · cases hverdict.symm.trans hfailed

end Sound

/-- A pipe tells its result once. -/
theorem Run.result (hrun : Run i r r') {report : Report} (hresult : r.result = some report) :
    r'.result = some report := by
  induction hrun with
  | refl => exact hresult
  | tail _ hstep ih =>
    cases hstep with
    | advance hrunning => cases hrunning.symm.trans ih
    | abort | cancel | intake | others => exact ih

/-! ## Copying is a delivery

A store that copies a stream lets its intakes run whenever the pipe waits, without anybody in
between; the steps are those of a run. -/

/-- The intakes of the store go on. -/
theorem run_works {s : Store} (hworks : r.traffic.store.Works s) :
    Run i r { r with traffic := { r.traffic with store := s } } := by
  induction hworks with
  | refl => exact .refl
  | @tail s _ _ hstep ih =>
    obtain ⟨j, rfl⟩ := hstep
    refine ih.tail ?_
    by_cases hij : i = j
    · subst hij
      exact .intake
    · have hsame : (s.intakeStep j).2.1.intakes[i]? = s.intakes[i]? := by
        have hintaken := s.intaken_intakeStep j
        generalize (s.intakeStep j).2.1 = s' at hintaken
        cases hintaken with
        | stay => rfl
        | move | store | release => exact Store.getElem?_setIntake_of_ne hij
      exact .others (.intake (d := { r.traffic with store := s }) j) hsame rfl

/-- **Asking the pipe is a run**; what it answers it tells. -/
theorem run_pipe (hrunning : r.result = none) (hintake : r.traffic.store.intakes[i]? = some t)
    (fuel : Nat) :
    ∃ r', Run i r r' ∧
      r'.traffic.store = r.traffic.store.setIntake i
        { t with upload := (Pipe.run fuel (r.pipeAt t)).2.upload } ∧
      (∀ u, ({ (Pipe.run fuel (r.pipeAt t)).2 with upload := u } : Pipe) =
        { r'.pipe with upload := u }) ∧
      r'.result = match (Pipe.run fuel (r.pipeAt t)).1 with
        | .pending => none
        | .ready report => some report := by
  induction fuel generalizing r t with
  | zero => exact ⟨r, .refl, (Store.setIntake_self hintake).symm, fun _ => rfl, hrunning⟩
  | succ fuel ih =>
    have hstep : Step i r (r.advance i t) := .advance hrunning hintake
    have hpipe : (r.advance i t).pipe = (r.pipeAt t).step.2 := rfl
    rw [Pipe.run]
    split
    · next p hgo =>
      rw [hgo] at hpipe
      have hintake₁ : (r.advance i t).traffic.store.intakes[i]? =
          some { t with upload := p.upload } := by
        simpa only [advance, Traffic.write, hgo] using Store.getElem?_setIntake_self hintake
      have hat : (r.advance i t).pipeAt { t with upload := p.upload } = p := by
        rw [pipeAt, hpipe]
      obtain ⟨r', hrun, hstore, hpipe', hresult⟩ := ih (by simp [advance, hgo]) hintake₁
      rw [hat] at hstore hpipe' hresult
      refine ⟨r', .head hstep hrun, hstore.trans ?_, hpipe', hresult⟩
      simp [advance, Traffic.write, Store.setIntake]
    · next p hwait =>
      rw [hwait] at hpipe
      refine ⟨r.advance i t, .single hstep, ?_, fun u => by rw [hpipe], ?_⟩
      · simp only [advance, Traffic.write, hwait]
      · simp only [advance, hwait]
    · next report p hover =>
      rw [hover] at hpipe
      refine ⟨r.advance i t, .single hstep, ?_, fun u => by rw [hpipe], ?_⟩
      · simp only [advance, Traffic.write, hover]
      · simp only [advance, hover]

/-- Asks a pipe whose upload has gone on. -/
def ask (p : Pipe) (u : Upload) : Poll Report × Pipe × Upload :=
  ((Pipe.poll { p with upload := u }).1, (Pipe.poll { p with upload := u }).2,
    (Pipe.poll { p with upload := u }).2.upload)

/-- **Asking the pipe again and again is a run**, with the intakes running in between. -/
theorem run_drive (fuel : Nat) {p : Pipe} (log : Log) (hrunning : r.result = none)
    (hintake : r.traffic.store.intakes[i]? = some t)
    (hpipe : ∀ u, ({ p with upload := u } : Pipe) = { r.pipe with upload := u }) :
    ∃ r', Run i r r' ∧ r'.traffic.store = (r.traffic.store.drive i ask p log fuel).2.2.1 ∧
      ∀ report, (r.traffic.store.drive i ask p log fuel).1 = .ready report →
        r'.result = some report := by
  induction fuel generalizing r t p log with
  | zero => exact ⟨r, .refl, rfl, nofun⟩
  | succ fuel ih =>
    have hask : ask p t.upload =
        ((r.pipeAt t).poll.1, (r.pipeAt t).poll.2, (r.pipeAt t).poll.2.upload) := by
      rw [ask, hpipe]
      rfl
    obtain ⟨r₁, hrun₁, hstore₁, hpipe₁, hresult₁⟩ :=
      run_pipe hrunning hintake (2 * (r.pipeAt t).stream.remaining + 4)
    rw [← Pipe.poll] at hstore₁ hpipe₁ hresult₁
    generalize (r.pipeAt t).poll = x at hask hstore₁ hpipe₁ hresult₁
    obtain ⟨answer, p'⟩ := x
    have hset : r.traffic.store.setUpload i p'.upload = r₁.traffic.store := by
      rw [Store.setUpload, hintake, hstore₁]
    have hupload : r.traffic.store.upload? i = some t.upload := by simp [Store.upload?, hintake]
    have hrun₂ := hrun₁.trans (run_works r₁.traffic.store.works_settle)
    rw [Store.drive, hupload]
    simp only [hask, hset]
    cases answer with
    | ready report =>
      refine ⟨_, hrun₂, rfl, ?_⟩
      rintro _ ⟨⟩
      exact hresult₁
    | pending =>
      have hintake₁ : r₁.traffic.store.intakes[i]? = some { t with upload := p'.upload } := by
        rw [hstore₁]
        exact Store.getElem?_setIntake_self hintake
      obtain ⟨t₂, hintake₂, -⟩ := (Traffic.run_settle r₁.traffic).verdict? hintake₁
      obtain ⟨r₂, hrun₃, hrest⟩ := ih (r := { r₁ with
        traffic := { r₁.traffic with store := r₁.traffic.store.settle.1 } })
        _ hresult₁ hintake₂ hpipe₁
      exact ⟨r₂, hrun₂.trans hrun₃, hrest⟩

/-- **Copying a stream is a delivery**; what it answers the pipe tells. -/
theorem run_copy {w : Stream.Watch} (hintake : d.store.intakes[i]? = some t) :
    ∃ r, Run i (start d w) r ∧ r.traffic.store = (d.store.copy i w.stream).2.1 ∧
      ∀ report, (d.store.copy i w.stream).1 = .ready report → r.result = some report :=
  run_drive (w.stream.remaining + 4) (r := start d w) (p := (start d w).pipe) [] rfl hintake
    fun _ => rfl

/-! ## Success and failure -/

/-- **A stream is stored as a whole or not at all.**  A stream of which nothing was taken is copied
into an upload that was just opened, while everybody does what they like, in whatever order.  If the
pipe tells of success, the tarball under the name is the whole body, of the length that is told and
was declared.  If it tells of a failure, the intake comes at no time, before or after, to store
anything. -/
theorem stored_whole_or_never (hbegins : d₀.Begins) (hbefore : Traffic.Run d₀ d)
    (hintake : d.store.intakes[i]? = some { name }) (hhand : d.hands i = {})
    {calls : List Stream.Call} (huntouched : Stream.Untouched (origin.watch calls).seen)
    (hrun : Run i (start d (origin.watch calls)) r) :
    (∀ n, r.result = some (.ok n) →
        ∃ opened, origin.answer = .ok opened ∧ opened.body.ending = .ends ∧
          r.traffic.store.tarballs.find? name = some opened.body.chunks.flatten ∧
          n = opened.body.chunks.flatten.length ∧ ∀ m, opened.length = some m → n = m) ∧
      (∀ e, r.result = some (.error e) →
        ∀ r' t, Run i (start d (origin.watch calls)) r' → (Run i r' r ∨ Run i r r') →
          r'.traffic.store.intakes[i]? = some t → t.stage ≠ .storing) := by
  have hstart := Sound.start hbefore hintake hhand (Stream.stands_watch origin calls) huntouched
  obtain ⟨-, hsound⟩ := hstart.run hbegins hrun
  constructor
  · intro n hresult
    obtain ⟨t, -, rfl, hfollows⟩ := hsound.follows
    simp only [Follows, hresult] at hfollows
    obtain ⟨htrue, haccepted, hcompleted⟩ := hfollows
    obtain ⟨-, hn, hstored⟩ := htrue n rfl
    obtain ⟨opened, hanswer, hending, hchunks, hlength⟩ := hsound.stands.of_completed hcompleted
    rw [haccepted] at hn hstored
    rw [hchunks] at hn hstored hlength
    exact ⟨opened, hanswer, hending, hstored, hn, fun m hm => hn.trans (hlength m hm).symm⟩
  · intro e hresult r' t hrun' hwhen hintake' hstage
    obtain ⟨-, hsound'⟩ := hstart.run hbegins hrun'
    have hverdict : t.verdict? = some (.ok t.buffer.length) := by
      simp only [Intake.verdict?, hstage]
    rcases hwhen with hearlier | hlater
    · -- What was settled then would still be so now.
      obtain ⟨htraffic, -⟩ := hsound'.run hbegins hearlier
      obtain ⟨t', hnow, -, hkept⟩ := htraffic.verdict? hintake'
      exact hsound.verdict_of_failed hbegins hresult hnow _ (hkept _ hverdict)
    · exact hsound'.verdict_of_failed hbegins (hlater.result hresult) hintake' _ hverdict

/-- A body of two chunks is stored; a body that fails behind its first chunk never is. -/
theorem stored_whole_or_never_bodies :
    ∃ d : Traffic,
      (∃ r, Run 0 (start d
            ((Stream.Origin.body [.chunk [2, 3], .wait, .chunk [4]] (some 3)).watch [])) r ∧
          r.result = some (.ok 3) ∧ r.traffic.store.tarballs.find? "p" = some [2, 3, 4]) ∧
        ∃ r, Run 0 (start d
            ((Stream.Origin.body [.chunk [2], .fault (.notFound "q")] none).watch [])) r ∧
          r.result = some (.error (.notFound "q")) ∧
          ∀ r' t, Run 0 r r' → r'.traffic.store.intakes[0]? = some t → t.stage ≠ .storing := by
  obtain ⟨d, hbefore, hintake, hhand, hwhole, hshort⟩ :
      ∃ d : Traffic, Traffic.Run { store := .ofData [] [("a", [1])] } d ∧
        d.store.intakes[0]? = some { name := "p" } ∧ d.hands 0 = {} ∧
        (d.store.copy 0 (.ofBody [.chunk [2, 3], .wait, .chunk [4]] (some 3))).1 =
          .ready (.ok 3) ∧
        (d.store.copy 0 (.ofBody [.chunk [2], .fault (.notFound "q")] none)).1 =
          .ready (.error (.notFound "q")) :=
    ⟨_, ((Relation.ReflTransGen.single (Traffic.Step.claim 0 "p" rfl rfl)).tail
      (.check 0 "p" rfl)).tail (.start 0 "p" rfl), rfl, rfl, rfl, rfl⟩
  have hbegins := Traffic.begins_ofData [] [("a", [1])]
  refine ⟨d, ?_, ?_⟩
  · obtain ⟨r, hrun, -, htold⟩ := run_copy (w := (Stream.Origin.body _ _).watch []) hintake
    have hresult := htold _ hwhole
    have hwhole := (stored_whole_or_never hbegins hbefore hintake hhand
      (by exact ⟨rfl, nofun, nofun⟩) hrun).1
    obtain ⟨_, ⟨⟩, -, hstored, -⟩ := hwhole 3 hresult
    exact ⟨r, hrun, hresult, hstored⟩
  · obtain ⟨r, hrun, -, htold⟩ := run_copy (w := (Stream.Origin.body _ _).watch []) hintake
    have hresult := htold _ hshort
    have hnever := (stored_whole_or_never hbegins hbefore hintake hhand
      (by exact ⟨rfl, nofun, nofun⟩) hrun).2 _ hresult
    exact ⟨r, hrun, hresult, fun r' t hlater => hnever r' t (hrun.trans hlater) (.inr hlater)⟩

end Delivery

end RegistryProxy
