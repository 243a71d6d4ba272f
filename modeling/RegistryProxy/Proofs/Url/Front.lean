import RegistryProxy.Error
import RegistryProxy.Proofs.Text.Span
import RegistryProxy.Url.Parser

/-!
# Proofs/Url/Front — what stands in front of a path is read on its own

The part with the host goes up to the first character that ends it, and what stands behind that
character has no say in how the part is read (`parseBehindSlashes_append`).  So two addresses of the
web that agree up to there have the same scheme, host and port, and each has the path, the query and
the fragment that stand behind (`Introduction.parse_eq`).
-/

namespace RegistryProxy.Url

variable {cs behind : List Char} {scheme : String}

/-! ## The part with the host -/

/-- No character ends the part with the host. -/
def Unended (cs : List Char) : Prop := ∀ c ∈ cs, endsAuthority .web c = false

/-- The first character, if there is one, ends the part with the host. -/
def Ended (behind : List Char) : Prop := ∀ c ∈ behind.head?, endsAuthority .web c = true

theorem ended_nil : Ended [] := nofun

theorem Ended.append {c : Char} (h : Ended behind) (hc : endsAuthority .web c = true)
    (rest : List Char) : Ended (behind ++ c :: rest) := by
  cases behind with
  | nil => exact fun d hd => Option.some.inj hd ▸ hc
  | cons d behind => exact h

theorem Ended.of_append {rest : List Char} (h : Ended (behind ++ rest)) : Ended behind := by
  cases behind with
  | nil => exact ended_nil
  | cons c behind => exact h

theorem endsAuthority_iff {c : Char} :
    endsAuthority .web c = true ↔ c = '/' ∨ c = '?' ∨ c = '#' ∨ c = '\\' := by
  simp [endsAuthority, SchemeKind.isSpecial, or_assoc]

theorem endsPath_iff {c : Char} : endsPath c = true ↔ c = '?' ∨ c = '#' := by
  simp [endsPath]

/-- What does not end a part with a host ends no path. -/
theorem endsPath_of_endsAuthority {c : Char} (h : endsAuthority .web c = false) :
    endsPath c = false := by
  refine Bool.eq_false_iff.2 fun hc => ?_
  rcases endsPath_iff.1 hc with rfl | rfl <;> cases h

theorem unended_cons {c : Char} :
    Unended (c :: cs) ↔ endsAuthority .web c = false ∧ Unended cs := List.forall_mem_cons

theorem takeWhile_unended (hcs : Unended cs) (hbehind : Ended behind) :
    (cs ++ behind).takeWhile (fun c => !endsAuthority .web c) = cs :=
  Span.takeWhile_append (fun c hc => by rw [hcs c hc, Bool.not_false])
    fun c hc => by rw [hbehind c hc, Bool.not_true]

theorem dropWhile_unended (hcs : Unended cs) (hbehind : Ended behind) :
    (cs ++ behind).dropWhile (fun c => !endsAuthority .web c) = behind :=
  Span.dropWhile_append (fun c hc => by rw [hcs c hc, Bool.not_false])
    fun c hc => by rw [hbehind c hc, Bool.not_true]

/-- **Every text is a part with the host and what stands behind it.** -/
theorem exists_unended (cs : List Char) :
    ∃ part behind, cs = part ++ behind ∧ Unended part ∧ Ended behind := by
  refine ⟨cs.takeWhile fun c => !endsAuthority .web c, cs.dropWhile fun c => !endsAuthority .web c,
    List.takeWhile_append_dropWhile.symm, fun c hc => ?_, fun c hc => ?_⟩
  · simpa using List.all_eq_true.1 List.all_takeWhile c hc
  · simpa using Span.head?_dropWhile (fun c => !endsAuthority .web c) cs c hc

/-! ## How it is read -/

/-- The number behind the colon is read up to the end of the part. -/
theorem takePort_append (scheme : String) (cs : List Char) (hbehind : Ended behind) :
    takePort scheme (cs ++ behind) =
      (takePort scheme cs).map fun (n, rest) => (n, rest ++ behind) := by
  have hnone : behind.takeWhile Char.isDigit = [] ∧ behind.dropWhile Char.isDigit = behind := by
    cases behind with
    | nil => exact ⟨rfl, rfl⟩
    | cons c rest =>
      have hdigit : ¬ c.isDigit = true := by
        rcases endsAuthority_iff.1 (hbehind c rfl) with rfl | rfl | rfl | rfl <;> decide
      exact ⟨List.takeWhile_cons_of_neg hdigit, List.dropWhile_cons_of_neg hdigit⟩
  have hdigits : (cs ++ behind).takeWhile Char.isDigit = cs.takeWhile Char.isDigit := by
    rw [List.takeWhile_append, hnone.1, List.append_nil]
    split
    · next h => exact ((List.takeWhile_prefix _).eq_of_length h).symm
    · rfl
  have hrest : (cs ++ behind).dropWhile Char.isDigit = cs.dropWhile Char.isDigit ++ behind := by
    rw [List.dropWhile_append, hnone.2]
    split
    · next h => rw [List.isEmpty_iff.1 h, List.nil_append]
    · rfl
  have hhead : (cs.dropWhile Char.isDigit ++ behind).head?.any
      (fun c => !("/\\?#".toList.contains c)) = (cs.dropWhile Char.isDigit).head?.any
        (fun c => !("/\\?#".toList.contains c)) := by
    cases cs.dropWhile Char.isDigit with
    | nil =>
      cases behind with
      | nil => rfl
      | cons c rest =>
        rcases endsAuthority_iff.1 (hbehind c rfl) with rfl | rfl | rfl | rfl <;> rfl
    | cons c rest => rfl
  rw [takePort, takePort, hdigits, hrest, hhead]
  dsimp only
  split
  · rfl
  · split <;> rfl

/-- Behind the number there can only be the end of the part. -/
theorem rest_of_takePort {n : Option Nat} {rest : List Char} (hcs : Unended cs)
    (h : takePort scheme cs = .ok (n, rest)) : rest = [] := by
  have hrest : cs.dropWhile Char.isDigit = [] := by
    cases hdropped : cs.dropWhile Char.isDigit with
    | nil => rfl
    | cons c more =>
      have hc : endsAuthority .web c = false :=
        hcs c ((List.dropWhile_sublist _).mem (hdropped ▸ List.mem_cons_self))
      have hfault : (!("/\\?#".toList.contains c)) = true := by
        simpa [endsAuthority, SchemeKind.isSpecial, and_comm, and_assoc, and_left_comm] using hc
      rw [takePort, hdropped, if_pos (.inr hfault)] at h
      cases h
  rw [takePort, hrest] at h
  split at h
  · cases h
  · split at h <;> cases h <;> rfl

theorem takeHost_append (bracketed : Bool) (hcs : Unended cs) (hbehind : Ended behind) :
    takeHost .web bracketed (cs ++ behind) =
      ((takeHost .web bracketed cs).1, (takeHost .web bracketed cs).2 ++ behind) := by
  induction cs generalizing bracketed with
  | nil =>
    cases behind with
    | nil => rfl
    | cons c rest => simp [takeHost, hbehind c rfl]
  | cons c cs ih =>
    rw [List.cons_append, takeHost, takeHost]
    split
    · rfl
    · dsimp only
      rw [ih _ (unended_cons.1 hcs).2]

/-- Behind a host there is nothing, or the colon in front of its number. -/
theorem takeHost_rest (bracketed : Bool) (hcs : Unended cs) :
    (takeHost .web bracketed cs).2 = [] ∨
      ∃ more, Unended more ∧ (takeHost .web bracketed cs).2 = ':' :: more := by
  induction cs generalizing bracketed with
  | nil => exact .inl rfl
  | cons c cs ih =>
    obtain ⟨hc, hmore⟩ := unended_cons.1 hcs
    rw [takeHost]
    split
    · next h =>
      obtain ⟨rfl, -⟩ : c = ':' ∧ bracketed = false := by simpa [hc] using h
      exact .inr ⟨cs, hmore, rfl⟩
    · exact ih _ hmore

/-- **The host and its number are read up to the end of the part.** -/
theorem takeAuthority_append (scheme : String) (hcs : Unended cs) (hbehind : Ended behind) :
    takeAuthority .web scheme (cs ++ behind) =
      (takeAuthority .web scheme cs).map fun (host, n, rest) => (host, n, rest ++ behind) := by
  have hrest := takeHost_rest false hcs
  rw [takeAuthority, takeAuthority, takeHost_append false hcs hbehind]
  generalize takeHost .web false cs = taken at hrest ⊢
  obtain ⟨hostChars, rest⟩ := taken
  dsimp only at hrest ⊢
  split
  · rfl
  · have hspecial : SchemeKind.web.isSpecial = true := rfl
    simp only [hspecial, if_true]
    cases Host.parse hostChars with
    | error e => rfl
    | ok host =>
      rcases hrest with rfl | ⟨more, -, rfl⟩
      · cases behind with
        | nil => rfl
        | cons c rest =>
          rcases endsAuthority_iff.1 (hbehind c rfl) with rfl | rfl | rfl | rfl <;> rfl
      · rw [List.cons_append]
        change (if hostChars.isEmpty = true then _ else _) =
          Except.map _ (if hostChars.isEmpty = true then _ else _)
        split
        · rfl
        · rw [takePort_append scheme more hbehind]
          cases takePort scheme more <;> rfl

/-- Nothing of the part is left. -/
theorem rest_of_takeAuthority {host : Host} {n : Option Nat} {rest : List Char}
    (hcs : Unended cs) (h : takeAuthority .web scheme cs = .ok (host, n, rest)) : rest = [] := by
  have hrest := takeHost_rest false hcs
  rw [takeAuthority] at h
  generalize takeHost .web false cs = taken at hrest h
  obtain ⟨hostChars, behind⟩ := taken
  dsimp only at hrest h
  split at h
  · cases h
  · obtain ⟨parsed, -, h⟩ := exists_of_bind_eq_ok h
    rcases hrest with rfl | ⟨more, hmore, rfl⟩
    · cases h
      rfl
    · change (if hostChars.isEmpty = true then _ else _) = _ at h
      split at h
      · cases h
      · obtain ⟨⟨n', rest'⟩, hport, h⟩ := exists_of_bind_eq_ok h
        cases h
        exact rest_of_takePort hmore hport

/-- **The user is read up to the end of the part**; without a host there is none. -/
theorem takeUser_append (hcs : Unended cs) (hbehind : Ended behind) :
    (∃ user password host, Unended host ∧
        takeUser .web (cs ++ behind) = .ok ((user, password), host ++ behind) ∧
        takeUser .web cs = .ok ((user, password), host)) ∨
      takeUser .web (cs ++ behind) = .error .emptyHost ∧
        ∃ user, takeUser .web cs = .ok (user, []) := by
  have htaken := takeWhile_unended hcs ended_nil
  have hdropped := dropWhile_unended hcs ended_nil
  rw [List.append_nil] at htaken hdropped
  rw [takeUser, takeUser, takeWhile_unended hcs hbehind, dropWhile_unended hcs hbehind, htaken,
    hdropped]
  have hhost : Unended (cs.reverse.takeWhile (· != '@')).reverse := fun c hc =>
    hcs c (List.mem_reverse.1 ((List.takeWhile_sublist _).mem (List.mem_reverse.1 hc)))
  generalize (cs.reverse.takeWhile (· != '@')).reverse = host at hhost
  dsimp only
  split
  · exact .inl ⟨[], [], cs, hcs, rfl, rfl⟩
  · generalize cs.take (cs.length - host.length - 1) = user
    have hkept : ¬ (user.isEmpty = true ∧ host.isEmpty = true ∧
        ¬ ([] : List Char).isEmpty = true) := fun h => h.2.2 rfl
    rw [if_neg hkept, List.append_nil]
    split
    · next hempty =>
      rw [List.isEmpty_iff.1 hempty.2.1]
      exact .inr ⟨rfl, _, rfl⟩
    · exact .inl ⟨_, _, host, hhost, rfl, rfl⟩

/-- **What stands behind the part with the host has no say in how it is read.** -/
theorem parseBehindSlashes_append (scheme : String) (hcs : Unended cs) (hbehind : Ended behind) :
    parseBehindSlashes .web scheme (cs ++ behind) =
      (parseBehindSlashes .web scheme cs).map fun u => u.withPath .web behind := by
  obtain ⟨user, password, host, hhost, huser, huser'⟩ | ⟨herror, user, huser⟩ :=
    takeUser_append hcs hbehind
  · rw [parseBehindSlashes, parseBehindSlashes, huser, huser']
    change (takeAuthority .web scheme (host ++ behind) >>= _) = Except.map _
      (takeAuthority .web scheme host >>= _)
    rw [takeAuthority_append scheme hhost hbehind]
    cases hauthority : takeAuthority .web scheme host with
    | error e => rfl
    | ok taken =>
      obtain ⟨host', n, rest⟩ := taken
      obtain rfl := rest_of_takeAuthority hhost hauthority
      change (if host' = .domain "" ∧ ¬ (user.isEmpty = true ∧ password.isEmpty = true) then _
        else _) = Except.map _ (if _ then _ else _)
      split <;> rfl
  · rw [parseBehindSlashes, parseBehindSlashes, herror, huser]
    rfl

/-! ## Schemes -/

theorem scheme_of_parseBehindSlashes {k : SchemeKind} {u : Url}
    (h : parseBehindSlashes k scheme cs = .ok u) : u.scheme = scheme := by
  rw [parseBehindSlashes] at h
  obtain ⟨⟨⟨user, password⟩, rest⟩, -, h⟩ := exists_of_bind_eq_ok h
  obtain ⟨⟨host, n, rest'⟩, -, h⟩ := exists_of_bind_eq_ok h
  dsimp only at h
  split at h <;> cases h
  rfl

theorem scheme_of_parseFile {u : Url} (h : parseFile cs = .ok u) : u.scheme = "file" := by
  rw [parseFile.eq_def] at h
  dsimp only at h
  split at h
  · split at h
    · obtain ⟨_, -, h⟩ := exists_of_bind_eq_ok h
      cases h
      rfl
    · cases h
      rfl
  · cases h
    rfl

theorem scheme_of_parseOther {u : Url} (h : parseOther scheme cs = .ok u) : u.scheme = scheme := by
  rw [parseOther.eq_def] at h
  split at h
  · exact scheme_of_parseBehindSlashes h
  · cases h
    rfl
  · cases h
    rfl

/-! ## Addresses -/

/-- **What stands in front of the part with the host**: a scheme of the web, its colon, slashes. -/
structure Introduction (scheme : String) (front : List Char) : Prop where
  /-- It is the scheme in any case, and any number of slashes. -/
  exists_eq : ∃ name slashes, front = name ++ ':' :: slashes ∧
    (∀ c ∈ name, isSchemeChar c = true) ∧ name.head?.any Char.isAlpha = true ∧
    String.ofList (name.map Char.toLower) = scheme ∧ ∀ c ∈ slashes, c = '/' ∨ c = '\\'
  /-- The scheme is one of the web. -/
  web : SchemeKind.of scheme = .web

/-- **An address of the web is read part by part**: the part with the host, and what stands
behind. -/
theorem Introduction.parse_eq {front : List Char} {s : String} (h : Introduction scheme front)
    (hcs : Unended cs) (hne : cs ≠ []) (hbehind : Ended behind)
    (hs : significant s = front ++ (cs ++ behind)) :
    parse s = (parseBehindSlashes .web scheme cs).map fun u => u.withPath .web behind := by
  obtain ⟨name, slashes, rfl, hname, halpha, rfl, hslashes⟩ := h.exists_eq
  have hcolon : ¬ isSchemeChar ':' = true := by decide
  have hscheme : takeScheme (name ++ ':' :: (slashes ++ (cs ++ behind))) =
      some (String.ofList (name.map Char.toLower), slashes ++ (cs ++ behind)) := by
    rw [takeScheme, List.takeWhile_append_of_pos hname, List.dropWhile_append_of_pos hname,
      List.takeWhile_cons_of_neg hcolon, List.dropWhile_cons_of_neg hcolon, List.append_nil]
    exact if_pos halpha
  have hdropped : (slashes ++ (cs ++ behind)).dropWhile (fun c => c == '/' || c == '\\') =
      cs ++ behind := by
    rw [List.dropWhile_append_of_pos fun c hc => by simpa using hslashes c hc]
    obtain ⟨c, cs, rfl⟩ := List.exists_cons_of_ne_nil hne
    have hc := (unended_cons.1 hcs).1
    refine List.dropWhile_cons_of_neg fun hslash => ?_
    rcases (by simpa using hslash : c = '/' ∨ c = '\\') with rfl | rfl <;> cases hc
  rw [parse, hs, List.append_assoc, List.cons_append, hscheme]
  dsimp only
  rw [h.web]
  dsimp only
  rw [hdropped, parseBehindSlashes_append _ hcs hbehind]

/-- Neither a query nor a fragment begins in it. -/
theorem Introduction.not_mem {front : List Char} (h : Introduction scheme front) {c : Char}
    (hc : endsPath c = true) : c ∉ front := by
  obtain ⟨name, slashes, rfl, hname, -, -, hslashes⟩ := h.exists_eq
  intro hmem
  rcases List.mem_append.1 hmem with hmem | hmem
  · have hscheme := hname c hmem
    rcases endsPath_iff.1 hc with rfl | rfl <;> revert hscheme <;> decide
  rcases List.mem_cons.1 hmem with rfl | hmem
  · cases hc
  · rcases hslashes c hmem with rfl | rfl <;> cases hc

theorem takeScheme_eq_some {rest : List Char} (h : takeScheme cs = some (scheme, rest)) :
    ∃ name, cs = name ++ ':' :: rest ∧ (∀ c ∈ name, isSchemeChar c = true) ∧
      name.head?.any Char.isAlpha = true ∧ String.ofList (name.map Char.toLower) = scheme := by
  rw [takeScheme] at h
  split at h
  next rest' hrest =>
    split at h <;> cases h
    next halpha =>
      refine ⟨_, ?_, fun c hc => List.all_eq_true.1 List.all_takeWhile c hc, halpha, rfl⟩
      rw [← hrest, List.takeWhile_append_dropWhile]
  next => cases h

/-- **Every address of the web has such a start and a part with the host.** -/
theorem exists_introduction {s : String} {u : Url} (h : parse s = .ok u)
    (hweb : SchemeKind.of u.scheme = .web) :
    ∃ front cs behind, Introduction u.scheme front ∧ Unended cs ∧ cs ≠ [] ∧ Ended behind ∧
      significant s = front ++ (cs ++ behind) := by
  rw [parse] at h
  split at h
  · cases h
  next scheme rest hscheme =>
  have hparsed : SchemeKind.of scheme = .web ∧
      parseBehindSlashes .web scheme (rest.dropWhile fun c => c == '/' || c == '\\') = .ok u := by
    split at h
    next hkind => exact ⟨hkind, h⟩
    next =>
      rw [scheme_of_parseFile h] at hweb
      cases hweb
    next hkind =>
      rw [scheme_of_parseOther h] at hweb
      cases hkind.symm.trans hweb
  obtain ⟨hkind, hparsed⟩ := hparsed
  obtain rfl := scheme_of_parseBehindSlashes hparsed
  obtain ⟨name, hs, hname, halpha, hlower⟩ := takeScheme_eq_some hscheme
  obtain ⟨cs, behind, hrest, hcs, hbehind⟩ :=
    exists_unended (rest.dropWhile fun c => c == '/' || c == '\\')
  refine ⟨name ++ ':' :: rest.takeWhile fun c => c == '/' || c == '\\', cs, behind,
    ⟨⟨name, _, rfl, hname, halpha, hlower, fun c hc => ?_⟩, hkind⟩, hcs, ?_, hbehind, ?_⟩
  · simpa using List.all_eq_true.1 List.all_takeWhile c hc
  · rintro rfl
    rw [hrest, parseBehindSlashes_append _ hcs hbehind] at hparsed
    cases hparsed
  · rw [hs, ← hrest, List.append_assoc, List.cons_append, List.takeWhile_append_dropWhile]

end RegistryProxy.Url
