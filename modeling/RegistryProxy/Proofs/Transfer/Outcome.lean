import RegistryProxy.Proofs.Transfer.Piping

/-!
# Proofs/Transfer/Outcome — what becomes of a stream that is used up

Reading a stream into memory and copying it into an upload look at the items only.  A stream that is
used up before it has told its failure is told apart from a complete one: its failure is the result,
and its upload is given up.  A stream that has told its failure before says only that it is over,
and passes for a complete one; these are exactly the streams for which the result is not to be
trusted (`outcome_faithful_iff`).
-/

namespace RegistryProxy

/-! ## Reading into memory -/

namespace Gather

variable {g g' : Gather} {s : Stream} {result : Except Error Bytes} {data : Bytes}

/-- **What a reader can do in one go.** -/
inductive Does (g : Gather) : Progress (Except Error Bytes) × Gather → Prop
  | waits (item : g.stream.next.item = .pending) :
    Does g (.wait, { g with stream := g.stream.next.stream, log := g.log ++ g.stream.next.log })
  | ends (item : g.stream.next.item = .ready none) :
    Does g (.over (.ok g.collected),
      { g with stream := g.stream.next.stream, log := g.log ++ g.stream.next.log })
  | fails (e : Error) (item : g.stream.next.item = .ready (some (.error e))) :
    Does g (.over (.error e),
      { g with stream := g.stream.next.stream, log := g.log ++ g.stream.next.log })
  | reads (chunk : Bytes) (item : g.stream.next.item = .ready (some (.ok chunk))) :
    Does g (.goOn, {
      stream := g.stream.next.stream
      collected := g.collected ++ chunk
      log := g.log ++ g.stream.next.log })

theorem does_step (g : Gather) : Does g g.step := by
  rw [step]
  split
  · next hitem => exact .waits hitem
  · next hitem => exact .ends hitem
  · next e hitem => exact .fails e hitem
  · next chunk hitem => exact .reads chunk hitem

/-- **A reader that is not done yet**: it goes on, and the stream may be given up at any time. -/
inductive Reads (s : Stream) : Gather → Prop
  | start : Reads s { stream := s }
  | step {g : Gather} (reads : Reads s g) (unfinished : ∀ result, g.step.1 ≠ .over result) :
    Reads s g.step.2
  | abort {g : Gather} (reads : Reads s g) : Reads s { g with stream := g.stream.abort }

/-- Asking a reader is a run of it: what it answers it answers in its last step. -/
theorem Reads.run (hreads : Reads s g) (fuel : Nat) :
    (∀ result, (Gather.run fuel g).1 = .ready result →
        ∃ g', Reads s g' ∧ g'.step = (.over result, (Gather.run fuel g).2)) ∧
      ((Gather.run fuel g).1 = .pending → Reads s (Gather.run fuel g).2) := by
  induction fuel generalizing g with
  | zero =>
    refine ⟨?_, fun _ => hreads⟩
    intro result hready
    cases hready
  | succ fuel ih =>
    rw [Gather.run]
    split
    · next g' hstep =>
      have hgo : Reads s g.step.2 := hreads.step (by simp [hstep])
      rw [hstep] at hgo
      exact ih hgo
    · next g' hstep =>
      have hwait : Reads s g.step.2 := hreads.step (by simp [hstep])
      rw [hstep] at hwait
      refine ⟨?_, fun _ => hwait⟩
      intro result hready
      cases hready
    · next value g' hstep =>
      refine ⟨?_, ?_⟩
      · intro result hready
        cases hready
        exact ⟨g, hreads, hstep⟩
      · intro hpending
        cases hpending

/-- **Reading tells the truth**: it succeeds for complete streams only, and fails for dead ones. -/
def Faithful (s : Stream) : Prop :=
  ∀ g result g', Reads s g → g.step = (.over result, g') →
    ((∃ data, result = .ok data) → g'.stream.stage = .completed) ∧
      (g'.stream.stage.isDead = true → ∃ e, result = .error e)

/-- As long as it reads, the stream of a reader is not dead. -/
theorem Reads.not_dead (hreads : Reads s g) (hcoherent : s.Coherent)
    (hdead : s.stage.isDead = false) :
    g.stream.Coherent ∧ g.stream.stage.isDead = false := by
  induction hreads with
  | start => exact ⟨hcoherent, hdead⟩
  | @step g _ hunfinished ih =>
    have hdoes := g.does_step
    generalize g.step = x at hdoes hunfinished
    cases hdoes with
    | waits hitem =>
      have hlive := Stream.next_live ih.1 (.inl hitem)
      exact ⟨ih.1.next, Stage.isDead_eq_false_of_isLive hlive⟩
    | reads chunk hitem =>
      have hlive := Stream.next_live ih.1 (.inr ⟨chunk, hitem⟩)
      exact ⟨ih.1.next, Stage.isDead_eq_false_of_isLive hlive⟩
    | ends hitem | fails e hitem => exact absurd rfl (hunfinished _)
  | abort _ ih => exact ⟨ih.1.abort, ih.2⟩

theorem faithful (hcoherent : s.Coherent) (hdead : s.stage.isDead = false) : Faithful s := by
  intro g result g' hreads hstep
  obtain ⟨hcoherent, hdead⟩ := hreads.not_dead hcoherent hdead
  have hdoes := g.does_step
  rw [hstep] at hdoes
  cases hdoes with
  | ends hitem =>
    have hcompleted := Stream.next_end hcoherent hdead hitem
    exact ⟨fun _ => hcompleted, fun hdead' => by simp [hcompleted, Stage.isDead] at hdead'⟩
  | fails e hitem =>
    refine ⟨?_, fun _ => ⟨e, rfl⟩⟩
    rintro ⟨_, ⟨⟩⟩

/-- **A dead stream is read as an empty one.** -/
theorem step_of_dead (hcoherent : s.Coherent) (hdead : s.stage.isDead = true) :
    Gather.step { stream := s } = (.over (.ok []), { stream := s }) := by
  rw [step, Stream.next_of_over hcoherent (Stage.isLive_eq_false_of_isDead hdead)]
  rfl

theorem faithful_iff (hcoherent : s.Coherent) : Faithful s ↔ s.stage.isDead = false := by
  refine ⟨?_, faithful hcoherent⟩
  intro h
  cases hdead : s.stage.isDead with
  | false => rfl
  | true =>
    obtain ⟨e, he⟩ := (h _ _ _ .start (step_of_dead hcoherent hdead)).2 hdead
    cases he

end Gather

/-! ## Both ways of using a stream up -/

namespace Stream

variable {s : Stream}

/-- **A dead transfer is taken for a finished one if and only if it was dead before.**  Whatever was
done to a stream before it is used up, and whatever happens meanwhile: if the stream has not told
its failure yet, then success is told and the end shown for complete streams only, and a stream that
dies has its upload given up and its failure told as soon as the backend is gone.  If it has told
its failure before, it passes for a complete stream. -/
theorem outcome_faithful_iff (h : s.Reached) :
    (Gather.Faithful s ↔ s.stage.isDead = false) ∧
      ((∀ u : Upload, .finish ∉ u.queue → Piping.Faithful s u) ↔ s.stage.isDead = false) ∧
      (s.stage.isDead = false → ∀ (u : Upload) (r : Piping), .finish ∉ u.queue →
        Piping.Run { pipe := { stream := s, upload := u } } r → r.running = true →
        r.pipe.stream.stage.isDead = true →
        ∃ e, r.pipe.duty = .abandon e ∧ r.pipe.upload.cancelled = true ∧
          ∀ report, r.pipe.upload.backend = .gone report → r.pipe.step.1 = .over (.error e)) := by
  have hcoherent := h.coherent
  refine ⟨Gather.faithful_iff hcoherent, Piping.faithful_iff hcoherent, ?_⟩
  intro hdead u r hunended hrun hrunning hdied
  exact Piping.abandons_of_dead hcoherent hdead hunended hrun hrunning hdied

/-- A stream that is cut short has not told so before it is used up. -/
theorem outcome_faithful_short :
    (ofBody [.chunk [1, 2], .wait] (some 3)).Reached ∧
      Gather.Faithful (ofBody [.chunk [1, 2], .wait] (some 3)) ∧
      ∀ u : Upload, .finish ∉ u.queue →
        Piping.Faithful (ofBody [.chunk [1, 2], .wait] (some 3)) u := by
  have hreached : (ofBody [.chunk [1, 2], .wait] (some 3)).Reached := .ofBody ..
  obtain ⟨hgather, hpiping, -⟩ := outcome_faithful_iff hreached
  exact ⟨hreached, hgather.2 rfl, hpiping.2 rfl⟩

/-- **A stream that failed to open is stored as an empty tarball**, and read as one, once opening it
has told the failure. -/
theorem failed_stored :
    (failed (.notFound "p.tgz")).pollOpen.2.Reached ∧
      (failed (.notFound "p.tgz")).pollOpen.1 = .ready (.error (.notFound "p.tgz")) ∧
      (failed (.notFound "p.tgz")).pollOpen.2.stage = .errored ∧
      (Gather.poll { stream := (failed (.notFound "p.tgz")).pollOpen.2 }).1 = .ready (.ok []) ∧
      ∃ r, Piping.Run {
          pipe := {
            stream := (failed (.notFound "p.tgz")).pollOpen.2
            upload := .ofCapacity Upload.storeCapacity } } r ∧
        r.finished = true ∧ r.result = some (.ok 0) ∧ r.pipe.stream.stage = .errored := by
  have hreached : (failed (.notFound "p.tgz")).pollOpen.2.Reached := (Reached.ofOpening _).pollOpen
  obtain ⟨r, hrun, hfinished, hresult, hstream⟩ := Piping.run_of_dead hreached.coherent rfl 0
  exact ⟨hreached, rfl, rfl, rfl, r, hrun, hfinished, hresult, congrArg Stream.stage hstream⟩

end Stream

end RegistryProxy
