import RegistryProxy.Proofs.Search.Response
import RegistryProxy.Search.Results

/-!
# Proofs/Search/Chunking — the results of a search, however its body is cut

What one gets from a search by asking again and again (`Yields`) is told by the bytes of the body
and by the chunks that lead up to the first element that is no result.  The failure at the end never
depends on the cuts; the results before it do, for exactly those bodies that hold a result before
such an element (`independent_iff`).
-/

namespace RegistryProxy

/-- **A body that brings all of its chunks**: it may let one wait, but it does not fail. -/
inductive Body.Brings : Body → List Bytes → Prop
  | nil : Brings [] []
  | chunk {body : Body} {chunks : List Bytes} (data : Bytes) (rest : Brings body chunks) :
    Brings (.chunk data :: body) (data :: chunks)
  | wait {body : Body} {chunks : List Bytes} (rest : Brings body chunks) :
    Brings (.wait :: body) chunks

namespace Results

variable {r : Results} {chunks : List Bytes} {values : List (Except Error SearchResult)}

/-- **All that one gets** by asking again and again, up to the end. -/
inductive Yields : Results → List (Except Error SearchResult) → Prop
  | ends {r : Results} (asked : r.next.1 = .ready none) : Yields r []
  | item {r : Results} {value : Except Error SearchResult} {rest : List (Except Error SearchResult)}
    (asked : r.next.1 = .ready (some value)) (later : Yields r.next.2 rest) :
    Yields r (value :: rest)
  | wait {r : Results} {rest : List (Except Error SearchResult)} (asked : r.next.1 = .pending)
    (later : Yields r.next.2 rest) : Yields r rest

/-- **A search that nobody gives up**, and whose body brings all of its chunks. -/
structure Fair (r : Results) (chunks : List Bytes) : Prop where
  /-- What the body still brings. -/
  brings : r.body.Brings chunks
  /-- The scanner has looked at everything before. -/
  ready : r.scanner.Ready
  /-- The search goes on. -/
  cancelled_eq : r.cancelled = false

/-- **What is still to come.** -/
def remaining (r : Results) (chunks : List Bytes) : List (Except Error SearchResult) :=
  r.queue.map .ok ++ if r.finished then [] else r.scanner.view.itemsOf chunks

/-- How many parts and ends can still be taken. -/
def weight (r : Results) : Nat := r.body.length + if r.finished then 0 else 1

/-! ## One step -/

/-- **What one step does** to what is still to come. -/
inductive Does (r : Results) (chunks : List Bytes) : Step × Results → Prop
  | item {r' : Results} {chunks' : List Bytes} (value : Except Error SearchResult)
    (told : r.remaining chunks = value :: r'.remaining chunks') (fair : r'.Fair chunks')
    (le : r'.body.length ≤ r.body.length) : Does r chunks (.item value, r')
  | ends (told : r.remaining chunks = []) : Does r chunks (.over, r)
  | wait {r' : Results} (told : r.remaining chunks = r'.remaining chunks) (fair : r'.Fair chunks)
    (lt : r'.body.length < r.body.length) : Does r chunks (.wait, r')
  | goOn {r' : Results} {chunks' : List Bytes} (told : r.remaining chunks = r'.remaining chunks')
    (fair : r'.Fair chunks') (le : r'.body.length ≤ r.body.length) (lt : r'.weight < r.weight) :
    Does r chunks (.goOn, r')

/-- With nothing to hand out, what is still to come is what the scanner will give. -/
theorem remaining_of_nil (hqueue : r.queue = []) (hfinished : r.finished = false)
    (chunks : List Bytes) :
    r.remaining chunks = r.scanner.view.itemsOf chunks := by
  rw [remaining, hqueue, hfinished]
  rfl

/-- A failure is the last thing. -/
theorem does_fail {r' : Results} {chunks' : List Bytes} {e : Error}
    (htold : r.remaining chunks = [.error e]) (hfair : r'.Fair chunks') (hqueue : r'.queue = [])
    (hle : r'.body.length ≤ r.body.length) : Does r chunks (r'.fail e) := by
  have hfinished : { r' with finished := true }.Fair chunks' :=
    ⟨hfair.brings, hfair.ready, hfair.cancelled_eq⟩
  refine .item _ ?_ hfinished hle
  rw [htold, remaining, hqueue]
  rfl

theorem does_take {body : Body} {chunk : Bytes} {rest : List Bytes} (hready : r.scanner.Ready)
    (hcancelled : r.cancelled = false) (hqueue : r.queue = []) (hfinished : r.finished = false)
    (hbody : r.body.length = body.length + 1) (hbrings : body.Brings rest) :
    Does r (chunk :: rest) (take { r with body } chunk) := by
  obtain ⟨hview, hkept⟩ := Scanner.feed_view hready chunk
  have htold := remaining_of_nil hqueue hfinished (chunk :: rest)
  rw [Scanner.View.itemsOf, ← hview] at htold
  have hle : body.length ≤ r.body.length := by omega
  rw [take]
  dsimp only
  cases hfeed : r.scanner.feed chunk with
  | error e =>
    rw [hfeed] at htold
    exact does_fail htold ⟨hbrings, hready, hcancelled⟩ hqueue hle
  | ok x =>
    obtain ⟨found, scanner⟩ := x
    rw [hfeed] at htold
    have hfair : { r with body, scanner, queue := found }.Fair rest :=
      ⟨hbrings, hkept _ _ hfeed, hcancelled⟩
    refine .goOn (htold.trans ?_) hfair hle ?_
    · rw [remaining, hfinished]
      rfl
    · rw [weight, weight]
      dsimp only
      omega

theorem does_finish (h : r.Fair []) (hqueue : r.queue = []) (hfinished : r.finished = false) :
    Does r [] r.finish := by
  have htold := remaining_of_nil hqueue hfinished []
  rw [Scanner.View.itemsOf] at htold
  rw [finish]
  by_cases hend : r.scanner.mayEnd = true
  · rw [if_pos (c := r.scanner.view.mayEnd = true) hend] at htold
    rw [if_pos hend]
    have hfair : { r with finished := true }.Fair [] := ⟨h.brings, h.ready, h.cancelled_eq⟩
    refine .goOn (htold.trans ?_) hfair (Nat.le_refl _) ?_
    · rw [remaining, hqueue]
      rfl
    · rw [weight, weight, hfinished]
      exact Nat.lt_succ_self _
  · rw [if_neg (c := r.scanner.view.mayEnd = true) hend] at htold
    rw [if_neg hend]
    exact does_fail htold h hqueue (Nat.le_refl _)

theorem does_ask (h : r.Fair chunks) (hqueue : r.queue = []) (hfinished : r.finished = false) :
    Does r chunks r.ask := by
  obtain ⟨hbrings, hready, hcancelled⟩ := h
  rw [ask]
  generalize hbody : r.body = body at hbrings
  cases hbrings with
  | nil =>
    have hsame : { r with body := [] } = r := by rw [← hbody]
    rw [Body.poll]
    dsimp only
    rw [hsame]
    exact does_finish ⟨hbody ▸ .nil, hready, hcancelled⟩ hqueue hfinished
  | chunk data hrest =>
    rw [Body.poll]
    exact does_take hready hcancelled hqueue hfinished (by rw [hbody]; rfl) hrest
  | wait hrest =>
    rw [Body.poll]
    refine .wait ?_ ⟨hrest, hready, hcancelled⟩ ?_
    · rw [remaining, remaining]
    · rw [hbody]
      exact Nat.lt_succ_self _

theorem does_step (h : r.Fair chunks) : Does r chunks r.step := by
  rw [step]
  split
  · next found queue hqueue =>
    have hfair : { r with queue }.Fair chunks := ⟨h.brings, h.ready, h.cancelled_eq⟩
    refine .item _ ?_ hfair (Nat.le_refl _)
    rw [remaining, hqueue]
    rfl
  next hqueue =>
  by_cases hfinished : r.finished = true
  · rw [if_pos hfinished]
    refine .ends ?_
    rw [remaining, hqueue, hfinished]
    rfl
  · rw [if_neg hfinished, h.cancelled_eq]
    exact does_ask h hqueue (Bool.eq_false_iff.2 hfinished)

/-! ## Asking once, and again and again -/

/-- **What asking gives** of what is still to come. -/
inductive Gives (r : Results) (chunks : List Bytes) :
    Poll (Option (Except Error SearchResult)) × Results → Prop
  | item {r' : Results} {chunks' : List Bytes} (value : Except Error SearchResult)
    (told : r.remaining chunks = value :: r'.remaining chunks') (fair : r'.Fair chunks')
    (le : r'.body.length ≤ r.body.length) : Gives r chunks (.ready (some value), r')
  | ends {r' : Results} (told : r.remaining chunks = []) : Gives r chunks (.ready none, r')
  | wait {r' : Results} {chunks' : List Bytes} (told : r.remaining chunks = r'.remaining chunks')
    (fair : r'.Fair chunks') (lt : r'.body.length < r.body.length) : Gives r chunks (.pending, r')

theorem Gives.of_told {r' : Results} {chunks' : List Bytes}
    {x : Poll (Option (Except Error SearchResult)) × Results} (hgives : Gives r' chunks' x)
    (htold : r.remaining chunks = r'.remaining chunks') (hle : r'.body.length ≤ r.body.length) :
    Gives r chunks x := by
  cases hgives with
  | item value htold' hfair hle' =>
    exact .item value (htold.trans htold') hfair (Nat.le_trans hle' hle)
  | ends htold' => exact .ends (htold.trans htold')
  | wait htold' hfair hlt => exact .wait (htold.trans htold') hfair (Nat.lt_of_lt_of_le hlt hle)

theorem gives_nextWithin (h : r.Fair chunks) {fuel : Nat} (hfuel : r.weight < fuel) :
    Gives r chunks (nextWithin fuel r) := by
  induction fuel generalizing r chunks with
  | zero => exact absurd hfuel (Nat.not_lt_zero _)
  | succ fuel ih =>
    have hdoes := does_step h
    rw [nextWithin]
    generalize r.step = x at hdoes
    cases hdoes with
    | item value htold hfair hle => exact .item value htold hfair hle
    | ends htold => exact .ends htold
    | wait htold hfair hlt => exact .wait htold hfair hlt
    | goOn htold hfair hle hlt => exact (ih hfair (by omega)).of_told htold hle

/-- **Asking never stops short**: there are steps enough to get to an item, a wait or the end. -/
theorem gives_next (h : r.Fair chunks) : Gives r chunks r.next := by
  refine gives_nextWithin h ?_
  rw [weight, patience]
  split <;> omega

theorem Yields.eq_remaining (hyields : Yields r values) (h : r.Fair chunks) :
    values = r.remaining chunks := by
  induction hyields generalizing chunks with
  | @ends r hasked =>
    have hgives := gives_next h
    generalize r.next = x at hgives hasked
    cases hgives with
    | item _ _ _ _ => cases hasked
    | ends htold => exact htold.symm
    | wait _ _ _ => cases hasked
  | @item r value rest hasked _ ih =>
    have hgives := gives_next h
    generalize r.next = x at hgives hasked ih
    cases hgives with
    | item value' htold hfair _ =>
      cases hasked
      rw [htold, ih hfair]
    | ends _ => cases hasked
    | wait _ _ _ => cases hasked
  | @wait r rest hasked _ ih =>
    have hgives := gives_next h
    generalize r.next = x at hgives hasked ih
    cases hgives with
    | item _ _ _ _ => cases hasked
    | ends _ => cases hasked
    | wait htold hfair _ => rw [htold, ih hfair]

theorem yields_remaining (h : r.Fair chunks) : Yields r (r.remaining chunks) := by
  -- Every answer leaves fewer parts of the body, or fewer items.
  generalize hn : r.body.length + (r.remaining chunks).length = n
  induction n using Nat.strongRecOn generalizing r chunks with
  | ind n ih =>
    have hgives := gives_next h
    generalize hnext : r.next = x at hgives
    cases hgives with
    | @item r' chunks' value htold hfair hle =>
      rw [htold]
      refine .item (congrArg Prod.fst hnext) ?_
      rw [hnext]
      refine ih (r'.body.length + (r'.remaining chunks').length) ?_ hfair rfl
      rw [htold, List.length_cons] at hn
      omega
    | ends htold =>
      rw [htold]
      exact .ends (congrArg Prod.fst hnext)
    | @wait r' chunks' htold hfair hlt =>
      rw [htold]
      refine .wait (congrArg Prod.fst hnext) ?_
      rw [hnext]
      refine ih (r'.body.length + (r'.remaining chunks').length) ?_ hfair rfl
      rw [htold] at hn
      omega

/-- **One gets what is still to come**, and nothing else. -/
theorem yields_iff (h : r.Fair chunks) : Yields r values ↔ values = r.remaining chunks := by
  refine ⟨fun hyields => hyields.eq_remaining h, ?_⟩
  rintro rfl
  exact yields_remaining h

/-! ## A body, however it is cut -/

open Scanner (elements results failure leading items Even)

theorem items_left_inj {found others : List SearchResult} {failed : Option Error} :
    items found failed = items others failed ↔ found = others := by
  rw [items, items, List.append_left_inj]
  exact List.map_inj_right fun _ _ => Except.ok.inj

theorem yields_start_iff {body : Body} (h : body.Brings chunks) :
    Yields { body } values ↔
      values = items (results (leading [] chunks)) (failure chunks.flatten) := by
  have hfair : Fair { body } chunks := ⟨h, Scanner.ready_empty, rfl⟩
  rw [yields_iff hfair, ← Scanner.itemsOf_empty]
  rfl

/-- **Two bodies give the same** from the first item to the end. -/
def Same (body other : Body) : Prop :=
  ∃ values, Yields { body } values ∧ Yields { body := other } values

theorem same_iff {body other : Body} {chunks others : List Bytes} (hbody : body.Brings chunks)
    (hother : other.Brings others) (h : chunks.flatten = others.flatten) :
    Same body other ↔ results (leading [] chunks) = results (leading [] others) := by
  constructor
  · rintro ⟨values, hyields, hyields'⟩
    have hvalues := (yields_start_iff hbody).1 hyields
    rw [(yields_start_iff hother).1 hyields', ← h] at hvalues
    exact (items_left_inj.1 hvalues).symm
  · intro heq
    refine ⟨_, (yields_start_iff hbody).2 rfl, (yields_start_iff hother).2 ?_⟩
    rw [h, heq]

/-- A body without waits brings its chunks. -/
theorem brings_chunks (chunks : List Bytes) : Body.Brings (chunks.map .chunk) chunks := by
  induction chunks with
  | nil => exact .nil
  | cons data rest ih => exact .chunk data ih

/-- **The cuts change nothing, but for results before an element that is none.**  A body gives the
results of the chunks before the one that completes the first element that is no result, and then
the failure that its bytes tell.  So two bodies with the same bytes give the same if and only if
equally many elements end before those chunks; and all bodies with these bytes do if and only if all
elements are results, or already the first one is none. -/
theorem independent_iff (bytes : Bytes) :
    (∀ (body : Body) (chunks : List Bytes), body.Brings chunks → chunks.flatten = bytes →
      ∀ values, Yields { body } values ↔
        values = items (results (leading [] chunks)) (failure bytes)) ∧
      (∀ (body other : Body) (chunks others : List Bytes), body.Brings chunks →
        other.Brings others → chunks.flatten = bytes → others.flatten = bytes →
        (Same body other ↔
          (elements (leading [] chunks)).length = (elements (leading [] others)).length)) ∧
      ((∀ (body other : Body) (chunks others : List Bytes), body.Brings chunks →
        other.Brings others → chunks.flatten = bytes → others.flatten = bytes →
        Same body other) ↔ Even bytes) := by
  refine ⟨?_, ?_, ?_, ?_⟩
  · rintro body chunks hbody rfl values
    exact yields_start_iff hbody
  · intro body other chunks others hbody hother hchunks hothers
    have hflatten := hchunks.trans hothers.symm
    rw [same_iff hbody hother hflatten, Scanner.leading_eq_iff hflatten]
  · intro hsame
    refine Classical.byContradiction ?_
    intro hnot
    obtain ⟨front, back, rfl, hdiffer⟩ := Scanner.exists_cut hnot
    have hwhole := brings_chunks [front ++ back]
    have hcut := brings_chunks [front, back]
    have hflatten : [front ++ back].flatten = [front, back].flatten := by simp
    refine hdiffer ((same_iff hwhole hcut hflatten).1 ?_)
    exact hsame _ _ _ _ hwhole hcut (by simp) (by simp)
  · intro heven body other chunks others hbody hother hchunks hothers
    have hflatten := hchunks.trans hothers.symm
    rw [same_iff hbody hother hflatten, Scanner.leading_eq_iff hflatten, heven.leading_eq hchunks,
      heven.leading_eq hothers]

/-- A response with one result. -/
def single : Bytes :=
  Utf8.encode "\x7b\"objects\":[\x7b\"package\":\x7b\"name\":\"a\"\x7d\x7d]\x7d"

/-- Whole, or one byte after the other behind a wait, it gives the same. -/
theorem independent_iff_single :
    Scanner.Even single ∧ Body.Brings (.wait :: (single.map fun b => [b]).map .chunk)
        (single.map fun b => [b]) ∧
      Same ([single].map .chunk) (.wait :: (single.map fun b => [b]).map .chunk) := by
  have heven : Even single := .inl (by decide +kernel)
  have hbytes : Body.Brings (.wait :: (single.map fun b => [b]).map .chunk)
      (single.map fun b => [b]) := .wait (brings_chunks _)
  refine ⟨heven, hbytes, ?_⟩
  refine (independent_iff single).2.2.2 heven _ _ _ _ (brings_chunks [single]) hbytes ?_ ?_
  · exact List.append_nil single
  · decide +kernel

/-- A response with a result, and with an element that is none. -/
def mixed : Bytes :=
  Utf8.encode "\x7b\"objects\":[\x7b\"package\":\x7b\"name\":\"a\"\x7d\x7d,1]\x7d"

/-- **The result is lost if it comes in one chunk with the element that is none**, and handed out if
the bytes come one by one. -/
theorem mixed_cut :
    Yields { body := [mixed].map .chunk } [.error Scanner.undecodable] ∧
      Yields { body := (mixed.map fun b => [b]).map .chunk }
        [.ok { package := { name := "a" } }, .error Scanner.undecodable] ∧
      ¬ Same ([mixed].map .chunk) ((mixed.map fun b => [b]).map .chunk) := by
  have hflatten : [mixed].flatten = (mixed.map fun b => [b]).flatten := by decide +kernel
  have hfailure : failure [mixed].flatten = some Scanner.undecodable := by decide +kernel
  have hwhole : results (leading [] [mixed]) = [] := by decide +kernel
  have hcut : results (leading [] (mixed.map fun b => [b])) = [{ package := { name := "a" } }] := by
    decide +kernel
  refine ⟨?_, ?_, ?_⟩
  · rw [yields_start_iff (brings_chunks _), hwhole, hfailure]
    rfl
  · rw [yields_start_iff (brings_chunks _), hcut, ← hflatten, hfailure]
    rfl
  · rw [same_iff (brings_chunks _) (brings_chunks _) hflatten, hwhole, hcut]
    exact nofun

end Results

end RegistryProxy
