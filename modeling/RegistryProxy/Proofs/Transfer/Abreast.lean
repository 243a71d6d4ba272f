import RegistryProxy.Proofs.Transfer.Piping
import RegistryProxy.Proofs.Transfer.Protocol

/-!
# Proofs/Transfer/Abreast — what a pipe puts into its upload

A pipe is the writer of its upload, so what it does in one go its writer can do (`acts_step`), and
what it does to its stream is seen (`stands_step`).  It keeps abreast of its stream: what the upload
took, and the chunk that waits, is what the stream has handed out, and the end frame is sent for a
complete stream only (`Abreast`).  So a pipe is over either before the end frame was taken, and then
it fails, or with the report on all that the stream had (`Ends`).
-/

namespace RegistryProxy

/-- What a writer can do in any number of goes. -/
abbrev Hand.Acts : Hand × Upload → Hand × Upload → Prop :=
  Relation.ReflTransGen fun x y => x.1.Act x.2 y.1 y.2

namespace Pipe

/-- The writer behind a pipe, after the pipe has done one thing. -/
def handAfter (p : Pipe) (h : Hand) : Hand :=
  match p.duty with
  | .read =>
    match p.stream.next.item with
    | .ready (some (.error _)) => h.leave
    | _ => h
  | .write chunk =>
    match (p.upload.write chunk).1 with
    | .ready (.error _) => h.leave
    | _ => h.afterWrite p.upload chunk
  | .close closing => h.afterClose p.upload closing
  | .abandon _ => h

/-- What is seen of the stream when the pipe does one thing. -/
def sights (p : Pipe) : List Stream.Sight :=
  match p.duty with
  | .read => [.item p.stream.next.item]
  | .write chunk =>
    match (p.upload.write chunk).1 with
    | .ready (.error _) => [.abort]
    | _ => []
  | .close _ | .abandon _ => []

/-- **Where a pipe stands with its writer and its stream.** -/
def Abreast (h : Hand) (w : Stream.Watch) : Duty → Prop
  | .read => h.stage = .writing ∧ h.ended = false ∧ h.accepted = Stream.chunksOf w.seen ∧
    w.stream.stage.isDead = false
  | .write chunk => h.stage = .writing ∧ h.ended = false ∧
    h.accepted ++ [chunk] = Stream.chunksOf w.seen ∧ w.stream.stage.isDead = false
  | .close closing => h.next? = some closing ∧ h.ended = (closing == .awaiting) ∧
    h.accepted = Stream.chunksOf w.seen ∧ w.stream.stage = .completed
  | .abandon _ => h.stage = .gone ∧ h.ended = false

variable {p : Pipe} {h : Hand} {seen : List Stream.Sight} {origin : Stream.Origin}

/-- Only the chunks and the stage of the stream matter. -/
theorem Abreast.congr {w w' : Stream.Watch} {duty : Duty} (habreast : Abreast h w duty)
    (hchunks : Stream.chunksOf w'.seen = Stream.chunksOf w.seen)
    (hstage : w'.stream.stage = w.stream.stage) : Abreast h w' duty := by
  cases duty <;> simpa only [Abreast, hchunks, hstage] using habreast

/-- **What a pipe does to its upload its writer can do.** -/
theorem acts_step (habreast : Abreast h ⟨p.stream, seen⟩ p.duty) :
    Hand.Acts (h, p.upload) (p.handAfter h, p.step.2.upload) := by
  have hdoes := p.does_step
  generalize p.step = x at hdoes
  cases hdoes with
  | waits hduty hitem | ends hduty hitem | reads chunk hduty hitem =>
    simp only [handAfter, hduty, hitem]
    exact .refl
  | lingers reason hduty houtcome | abandons reason report hduty houtcome =>
    simp only [handAfter, hduty]
    exact .refl
  | fails e hduty hitem =>
    simp only [hduty, Abreast] at habreast
    simp only [handAfter, hduty, hitem]
    exact .single (.abort habreast.1)
  | blocked chunk hduty hanswer | writes chunk hduty hanswer =>
    simp only [hduty, Abreast] at habreast
    simp only [handAfter, hduty, hanswer]
    exact .single (.write chunk habreast.1)
  | refused chunk e hduty hanswer =>
    simp only [hduty, Abreast] at habreast
    have hsame : h.afterWrite p.upload chunk = h := by simp only [Hand.afterWrite, hanswer]
    have hwrite := Hand.Act.write (u := p.upload) chunk habreast.1
    rw [hsame] at hwrite
    simp only [handAfter, hduty, hanswer]
    exact .tail (b := (h, (p.upload.write chunk).2)) (.single hwrite) .leave
  | closes closing hduty hanswer | closed closing report hduty hanswer =>
    simp only [hduty, Abreast] at habreast
    simp only [handAfter, hduty]
    exact .single (.close closing habreast.1)

/-- **What a pipe does to its stream is seen.** -/
theorem stands_step (hstands : Stream.Stands origin ⟨p.stream, seen⟩) :
    Stream.Stands origin ⟨p.step.2.stream, seen ++ p.sights⟩ := by
  have hdoes := p.does_step
  generalize p.step = x at hdoes
  cases hdoes with
  | waits hduty hitem | reads chunk hduty hitem | ends hduty hitem | fails e hduty hitem =>
    simp only [sights, hduty]
    exact hstands.call .next
  | blocked chunk hduty hanswer | writes chunk hduty hanswer =>
    simpa only [sights, hduty, hanswer, List.append_nil] using hstands
  | refused chunk e hduty hanswer =>
    simp only [sights, hduty, hanswer]
    exact hstands.call .abort
  | closes closing hduty hanswer | closed closing report hduty hanswer
  | lingers reason hduty houtcome | abandons reason report hduty houtcome =>
    simpa only [sights, hduty, List.append_nil] using hstands

/-- **How a pipe ends**: it fails and the end frame was not taken, or it tells the report on all
that its stream had. -/
inductive Ends (p : Pipe) (h : Hand) (seen : List Stream.Sight) : Report → Prop
  | fails (e : Error) (unended : (p.handAfter h).ended = false) : Ends p h seen (.error e)
  | tells (report : Report) (outcome : p.upload.outcome = .ready report)
    (upload : p.step.2.upload = p.upload) (hand : p.handAfter h = h.leave)
    (accepted : h.accepted = Stream.chunksOf (seen ++ p.sights))
    (completed : p.step.2.stream.stage = .completed) : Ends p h seen report

/-- The end frame is taken, or it has to wait like the report. -/
theorem abreast_closes {closing : Upload.Closing} (hduty : p.duty = .close closing)
    (habreast : Abreast h ⟨p.stream, seen⟩ p.duty) (hreported : p.upload.reported = false)
    (hanswer : (p.upload.close closing).1 = .pending) :
    (p.upload.close closing).2.2.reported = false ∧
      Abreast (p.handAfter h) ⟨p.stream, seen ++ p.sights⟩
        (.close (p.upload.close closing).2.1) := by
  simp only [hduty, Abreast] at habreast
  obtain ⟨hnext, hended, haccepted, hcompleted⟩ := habreast
  simp only [handAfter, sights, hduty, List.append_nil, Abreast]
  cases closing with
  | awaiting =>
    have hpending : p.upload.outcome = .pending := hanswer
    refine ⟨hreported, ?_, ?_, haccepted, hcompleted⟩
    · simp [Hand.afterClose, Hand.next?, Upload.close, hpending, Poll.isReady]
    · simp [Hand.afterClose, Upload.close, hended]
  | sending =>
    have hcloses := p.upload.closes_close
    generalize hclose : p.upload.close .sending = y at hcloses hanswer
    cases hcloses with
    | aborted | refused => cases hanswer
    | waits =>
      refine ⟨hreported, ?_, ?_, haccepted, hcompleted⟩
      · simp [Hand.afterClose, Hand.next?, hclose, Poll.isReady]
      · simp [Hand.afterClose, hclose, hended]
    | taken hcancelled hbackend =>
      have hpending : p.upload.outcome = .pending := hanswer
      refine ⟨hreported, ?_, ?_, haccepted, hcompleted⟩
      · simp [Hand.afterClose, Hand.next?, hclose, hpending, Poll.isReady]
      · simp [Hand.afterClose, hclose]

/-- The end frame is refused, or the report is there.  It is not there at once when the end frame is
taken, for then the backend listens. -/
theorem ends_closed {closing : Upload.Closing} {report : Report} (hduty : p.duty = .close closing)
    (habreast : Abreast h ⟨p.stream, seen⟩ p.duty) (hreported : p.upload.reported = false)
    (hanswer : (p.upload.close closing).1 = .ready report)
    (hstream : p.step.2.stream = p.stream)
    (hupload : p.step.2.upload = (p.upload.close closing).2.2) : Ends p h seen report := by
  simp only [hduty, Abreast] at habreast
  obtain ⟨hnext, hended, haccepted, hcompleted⟩ := habreast
  cases closing with
  | awaiting =>
    refine .tells report hanswer hupload ?_ ?_ (hstream ▸ hcompleted)
    · simp [handAfter, hduty, Hand.afterClose, Hand.leave, hanswer, Poll.isReady]
    · simp only [sights, hduty, List.append_nil, haccepted]
  | sending =>
    have hcloses := p.upload.closes_close
    generalize hclose : p.upload.close .sending = y at hcloses hanswer
    cases hcloses with
    | aborted | refused =>
      cases hanswer
      refine .fails _ ?_
      simp [handAfter, hduty, Hand.afterClose, hclose, hended]
    | waits => cases hanswer
    | taken hcancelled hbackend => simp [Upload.outcome, hreported, hbackend] at hanswer

/-- **A pipe keeps abreast of its stream**, until it ends. -/
theorem abreast_step (hstands : Stream.Stands origin ⟨p.stream, seen⟩)
    (habreast : Abreast h ⟨p.stream, seen⟩ p.duty) (hreported : p.upload.reported = false) :
    match p.step.1 with
    | .over report => Ends p h seen report
    | _ => p.step.2.upload.reported = false ∧
      Abreast (p.handAfter h) ⟨p.step.2.stream, seen ++ p.sights⟩ p.step.2.duty := by
  have hcoherent := hstands.coherent
  have hdoes := p.does_step
  generalize hstep : p.step = x at hdoes
  cases hdoes with
  | waits hduty hitem =>
    simp only [hduty, Abreast] at habreast
    obtain ⟨hstage, hended, haccepted, hdead⟩ := habreast
    have hlive := Stream.next_live hcoherent (.inl hitem)
    simp only [handAfter, sights, asked, hduty, hitem]
    refine ⟨hreported, hstage, hended, ?_, Stage.isDead_eq_false_of_isLive hlive⟩
    rw [Stream.chunksOf_append, haccepted]
    exact (List.append_nil _).symm
  | reads chunk hduty hitem =>
    simp only [hduty, Abreast] at habreast
    obtain ⟨hstage, hended, haccepted, hdead⟩ := habreast
    have hlive := Stream.next_live hcoherent (.inr ⟨chunk, hitem⟩)
    simp only [handAfter, sights, asked, hduty, hitem]
    refine ⟨hreported, hstage, hended, ?_, Stage.isDead_eq_false_of_isLive hlive⟩
    rw [Stream.chunksOf_append, haccepted]
    rfl
  | ends hduty hitem =>
    simp only [hduty, Abreast] at habreast
    obtain ⟨hstage, hended, haccepted, hdead⟩ := habreast
    have hcompleted := Stream.next_end hcoherent hdead hitem
    simp only [handAfter, sights, asked, hduty, hitem]
    refine ⟨hreported, Hand.next?_of_writing hstage, by simp [hended], ?_, hcompleted⟩
    rw [Stream.chunksOf_append, haccepted]
    exact (List.append_nil _).symm
  | fails e hduty hitem =>
    simp only [hduty, Abreast] at habreast
    simp only [handAfter, sights, asked, hduty, hitem]
    exact ⟨hreported, rfl, habreast.2.1⟩
  | blocked chunk hduty hanswer | writes chunk hduty hanswer =>
    simp only [hduty, Abreast] at habreast
    have hsame := (p.upload.sent_write chunk).reported_eq (by simp [hanswer])
    simp only [handAfter, sights, hduty, hanswer, Hand.afterWrite, List.append_nil]
    exact ⟨hsame.trans hreported, habreast⟩
  | refused chunk e hduty hanswer =>
    simp only [hduty, Abreast] at habreast
    refine .fails e ?_
    simp only [handAfter, hduty, hanswer]
    exact habreast.2.1
  | closes closing hduty hanswer => exact abreast_closes hduty habreast hreported hanswer
  | closed closing report hduty hanswer =>
    exact ends_closed hduty habreast hreported hanswer (by rw [hstep]) (by rw [hstep])
  | lingers reason hduty houtcome =>
    rw [hduty] at habreast
    simp only [handAfter, sights, hduty]
    exact ⟨hreported, habreast⟩
  | abandons reason report hduty houtcome =>
    simp only [hduty, Abreast] at habreast
    refine .fails reason ?_
    simp only [handAfter, hduty]
    exact habreast.2

end Pipe

end RegistryProxy
