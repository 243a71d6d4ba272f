import Mathlib.Data.List.DropRight
import RegistryProxy.Proofs.Url.Directory
import RegistryProxy.Uplink.Resolve

/-!
# Proofs/Uplink/Base — more stands behind a base address than behind the configured one

The base address is the configured one without the slashes at its end, as text.  Blanks at the end
of a text are passed over, but not when more stands behind them (`significant_append`); so the base
address with a path behind has the scheme of the configured one, but not always its host and path
(`exists_base`).
-/

namespace RegistryProxy

variable {cs rest : List Char} {c : Char} {url : String}

namespace Url

/-! ## What counts -/

/-- **What counts of a text when more stands behind.** -/
def held (cs : List Char) : List Char := (cs.dropWhile isEdge).filter fun c => !isSkipped c

theorem isSkipped_of_isEdge (h : isEdge c = false) : isSkipped c = false := by
  rw [isSkipped, Bool.or_eq_false_iff, Bool.or_eq_false_iff]
  refine ⟨⟨?_, ?_⟩, ?_⟩
  all_goals
    refine beq_false_of_ne ?_
    rintro rfl
    cases h

theorem endsAuthority_of_isEdge (h : isEdge c = true) : endsAuthority .web c = false := by
  refine Bool.eq_false_iff.2 fun hc => ?_
  rcases endsAuthority_iff.1 hc with rfl | rfl | rfl | rfl <;> cases h

theorem dropWhile_append_of_mem (hc : c ∈ cs) (hedge : isEdge c = false) (rest : List Char) :
    (cs ++ rest).dropWhile isEdge = cs.dropWhile isEdge ++ rest := by
  rw [List.dropWhile_append, if_neg]
  rw [List.isEmpty_iff]
  exact fun hnil => Bool.false_ne_true (hedge.symm.trans (List.dropWhile_eq_nil_iff.1 hnil c hc))

theorem significant_eq (s : String) :
    significant s = ((s.toList.dropWhile isEdge).rdropWhile isEdge).filter fun c => !isSkipped c :=
  rfl

/-- **Blanks count when more stands behind.** -/
theorem significant_append (hc : c ∈ cs) (hedge : isEdge c = false)
    (hrest : ∀ c ∈ rest, isEdge c = false) (hne : rest ≠ []) :
    significant (String.ofList (cs ++ rest)) = held cs ++ rest := by
  have hdropped := dropWhile_append_of_mem hc hedge rest
  have hends : ((cs ++ rest).dropWhile isEdge).rdropWhile isEdge =
      (cs ++ rest).dropWhile isEdge := by
    refine List.rdropWhile_eq_self_iff.2 fun hne' hlast => ?_
    simp only [hdropped, List.getLast_append_of_ne_nil _ hne] at hlast
    exact Bool.false_ne_true ((hrest _ (List.getLast_mem hne)).symm.trans hlast)
  have hkept : rest.filter (fun c => !isSkipped c) = rest := List.filter_eq_self.2 fun c hc => by
    rw [isSkipped_of_isEdge (hrest c hc), Bool.not_false]
  rw [significant_eq, String.toList_ofList, hends, hdropped, List.filter_append, hkept, held]

/-- Otherwise those at the end do not. -/
theorem exists_edges (s : String) :
    ∃ edges, held s.toList = significant s ++ edges ∧ ∀ c ∈ edges, isEdge c = true := by
  refine ⟨((s.toList.dropWhile isEdge).rtakeWhile isEdge).filter fun c => !isSkipped c, ?_, ?_⟩
  · rw [significant_eq, ← List.filter_append, List.rdropWhile_append_rtakeWhile]
    rfl
  · intro c hc
    exact List.mem_rtakeWhile_imp (List.mem_of_mem_filter hc)

theorem mem_held_iff (hedge : isEdge c = false) : c ∈ held cs ↔ c ∈ cs := by
  refine ⟨fun hc => (List.dropWhile_sublist _).mem (List.mem_of_mem_filter hc), fun hc => ?_⟩
  refine List.mem_filter.2 ⟨?_, by rw [isSkipped_of_isEdge hedge, Bool.not_false]⟩
  rw [← List.takeWhile_append_dropWhile (p := isEdge) (l := cs), List.mem_append] at hc
  exact hc.resolve_left fun htaken =>
    Bool.false_ne_true (hedge.symm.trans (List.mem_takeWhile_imp htaken))

theorem mem_of_significant {s : String} (h : c ∈ significant s) : c ∈ s.toList :=
  (List.dropWhile_sublist _).mem ((List.rdropWhile_prefix _ _).sublist.mem
    (List.mem_of_mem_filter h))

end Url

namespace Uplink

open Url

/-! ## What is configured -/

/-- **A configured address is one of the web**, and its text without slashes is the base address. -/
theorem of_resolve {key : String} {s : UplinkSettings} {g : GlobalSettings} {u : Uplink}
    (h : (resolve key s g).1 = .ok u) :
    parse s.url = .ok u.url ∧ (u.url.scheme = "http" ∨ u.url.scheme = "https") ∧
      u.baseUrl = withoutSlashes s.url := by
  rw [resolve] at h
  split at h
  · cases h
  next v hurl =>
  have hv : parse s.url = .ok v ∧ (v.scheme = "http" ∨ v.scheme = "https") := by
    rw [resolveUrl] at hurl
    split at hurl
    · cases hurl
    next v' hparse =>
    split at hurl
    · next hscheme => exact Except.ok.inj hurl ▸ ⟨hparse, hscheme⟩
    · cases hurl
  split at h
  · cases h
  change resolveRest .. = _ at h
  obtain ⟨_, -, h⟩ := exists_of_bind_eq_ok h
  obtain ⟨_, -, h⟩ := exists_of_bind_eq_ok h
  obtain ⟨_, -, h⟩ := exists_of_bind_eq_ok h
  cases h
  exact ⟨hv.1, hv.2, rfl⟩

theorem web_of_resolve {key : String} {s : UplinkSettings} {g : GlobalSettings} {u : Uplink}
    (h : (resolve key s g).1 = .ok u) : SchemeKind.of u.url.scheme = .web := by
  rcases (of_resolve h).2.1 with hscheme | hscheme <;> rw [hscheme] <;> rfl

/-! ## Slashes at the end -/

theorem withoutSlashes_eq (url : String) :
    withoutSlashes url = String.ofList (url.toList.rdropWhile (· == '/')) := rfl

theorem exists_slashes (url : String) : ∃ n,
    url.toList = (withoutSlashes url).toList ++ List.replicate n '/' := by
  refine ⟨(url.toList.rtakeWhile (· == '/')).length, ?_⟩
  have hslashes : ∀ c ∈ url.toList.rtakeWhile (· == '/'), c = '/' := fun c hc =>
    beq_iff_eq.1 (List.mem_rtakeWhile_imp (p := (· == '/')) hc)
  rw [← List.eq_replicate_of_mem hslashes, withoutSlashes_eq, String.toList_ofList]
  exact (List.rdropWhile_append_rtakeWhile ..).symm

theorem getLast?_withoutSlashes (url : String) :
    (withoutSlashes url).toList.getLast? ≠ some '/' := by
  rw [withoutSlashes_eq, String.toList_ofList]
  intro hlast
  have hne : url.toList.rdropWhile (· == '/') ≠ [] := by
    intro hnil
    rw [hnil] at hlast
    cases hlast
  rw [List.getLast?_eq_some_getLast hne, Option.some.injEq] at hlast
  exact List.rdropWhile_last_not (· == '/') _ hne (beq_iff_eq.2 hlast)

/-- What does not end in a slash is what is left in front of slashes. -/
theorem withoutSlashes_append (hlast : cs.getLast? ≠ some '/') (n : Nat) :
    withoutSlashes (String.ofList (cs ++ List.replicate n '/')) = String.ofList cs := by
  rw [withoutSlashes_eq, String.toList_ofList]
  refine congrArg String.ofList ?_
  induction n with
  | zero =>
    rw [List.replicate_zero, List.append_nil]
    refine List.rdropWhile_eq_self_iff.2 fun hne hslash => hlast ?_
    rw [List.getLast?_eq_some_getLast hne, beq_iff_eq.1 hslash]
  | succ n ih =>
    rw [List.replicate_succ', ← List.append_assoc, List.rdropWhile_concat_pos _ _ _ rfl, ih]

/-- **A start that does not end in a slash stays.** -/
theorem exists_of_append_slashes {ones others : List Char} {n : Nat}
    (hlast : ones.getLast? ≠ some '/') (h : cs ++ List.replicate n '/' = ones ++ others) :
    ∃ more, cs = ones ++ more ∧ others = more ++ List.replicate n '/' := by
  rcases List.append_eq_append_iff.1 h with ⟨slashes, rfl, hslashes⟩ | ⟨more, rfl, hmore⟩
  · rcases List.eq_nil_or_concat slashes with rfl | ⟨slashes, last, rfl⟩
    · rw [List.append_nil] at *
      exact ⟨[], (List.append_nil cs).symm, hslashes.symm⟩
    · rw [List.concat_eq_append] at *
      have hslash : last = '/' := List.eq_of_mem_replicate (n := n) (by rw [hslashes]; simp)
      subst hslash
      rw [← List.append_assoc, List.getLast?_concat] at hlast
      exact absurd rfl hlast
  · exact ⟨more, rfl, hmore⟩

theorem mem_withoutSlashes (hslash : c ≠ '/') :
    c ∈ (withoutSlashes url).toList ↔ c ∈ url.toList := by
  obtain ⟨n, hurl⟩ := exists_slashes url
  rw [hurl, List.mem_append]
  exact (or_iff_left fun hc => hslash (List.eq_of_mem_replicate hc)).symm

/-! ## The base address -/

/-- Whatever introduces a part with a host begin with, no slash ends them. -/
theorem getLast?_of_unended {front : List Char} (hcs : Unended cs) (hne : cs ≠ []) :
    (front ++ cs).getLast? ≠ some '/' := by
  rw [List.getLast?_append_of_ne_nil _ hne, List.getLast?_eq_some_getLast hne]
  intro hlast
  have hslash := hcs _ (List.getLast_mem hne)
  rw [Option.some.inj hlast] at hslash
  cases hslash

/-- The sign behind the scheme is in the base address. -/
theorem colon_mem_base {u : Url} (h : parse url = .ok u) :
    ':' ∈ (withoutSlashes url).toList := by
  rw [parse] at h
  split at h
  · cases h
  next scheme rest hscheme =>
  obtain ⟨name, hname, -⟩ := takeScheme_eq_some hscheme
  refine (mem_withoutSlashes (by decide)).2 (mem_of_significant ?_)
  rw [hname]
  simp

/-- Without slashes at the end, all that counts of the configured address counts of the base. -/
theorem exists_held_base (hcolon : ':' ∈ (withoutSlashes url).toList) :
    (∃ edges, held (withoutSlashes url).toList = significant url ++ edges ∧
        ∀ c ∈ edges, isEdge c = true) ∨
      ∃ n, significant url = held (withoutSlashes url).toList ++ List.replicate n '/' := by
  obtain ⟨n, hslashes⟩ := exists_slashes url
  rcases Nat.eq_zero_or_pos n with rfl | hn
  · rw [List.replicate_zero, List.append_nil] at hslashes
    rw [← hslashes]
    exact .inl (exists_edges url)
  · have hurl := congrArg String.ofList hslashes
    rw [String.ofList_toList] at hurl
    have hslash : ∀ c ∈ List.replicate n '/', isEdge c = false := by
      intro c hc
      rw [List.eq_of_mem_replicate hc]
      rfl
    have hne : List.replicate n '/' ≠ [] := by
      rw [Ne, List.replicate_eq_nil_iff]
      exact Nat.ne_of_gt hn
    exact .inr ⟨n, (congrArg significant hurl).trans (significant_append hcolon rfl hslash hne)⟩

/-- **The base address begins as the configured one does**: with the same scheme and slashes, and a
part with a host.  Blanks at the end of the configured address may be in the part, or in what stands
behind. -/
theorem exists_base {u : Url} (h : parse url = .ok u) (hweb : SchemeKind.of u.scheme = .web) :
    ∃ front cs behind, Introduction u.scheme front ∧ Unended cs ∧ cs ≠ [] ∧ Ended behind ∧
      held (withoutSlashes url).toList = front ++ (cs ++ behind) := by
  obtain ⟨front, cs, behind, hintroduction, hcs, hne, hbehind, hparts⟩ := exists_introduction h hweb
  rcases exists_held_base (colon_mem_base h) with ⟨edges, hheld, hedges⟩ | ⟨n, hslashes⟩
  · rw [hheld, hparts]
    cases behind with
    | nil =>
      refine ⟨front, cs ++ edges, [], hintroduction, ?_, List.append_ne_nil_of_left_ne_nil hne _,
        ended_nil, by simp only [List.append_nil, List.append_assoc]⟩
      intro c hc
      exact (List.mem_append.1 hc).elim (hcs c) fun hc => endsAuthority_of_isEdge (hedges c hc)
    | cons c rest =>
      exact ⟨front, cs, c :: rest ++ edges, hintroduction, hcs, hne, hbehind,
        by simp only [List.append_assoc]⟩
  · rw [hparts, ← List.append_assoc] at hslashes
    obtain ⟨more, hheld, hmore⟩ := exists_of_append_slashes (getLast?_of_unended hcs hne)
      hslashes.symm
    exact ⟨front, cs, more, hintroduction, hcs, hne, (hmore ▸ hbehind).of_append,
      by rw [hheld, List.append_assoc]⟩

/-- **With more behind it the base address is read part by part**, whatever that is.  The signs of a
query and a fragment that are in front of it are those of the configured address. -/
theorem parse_base {u : Url} (h : parse url = .ok u) (hweb : SchemeKind.of u.scheme = .web) :
    ∃ cs behind, Ended behind ∧ (∀ c, endsPath c = true → (c ∈ behind ↔ c ∈ url.toList)) ∧
      ∀ rest : String, (∀ c ∈ rest.toList, isEdge c = false) →
        parse (withoutSlashes url ++ "/" ++ rest) =
          (parseBehindSlashes .web u.scheme cs).map
            fun v => v.withPath .web (behind ++ '/' :: rest.toList) := by
  obtain ⟨front, cs, behind, hintroduction, hcs, hne, hbehind, hheld⟩ := exists_base h hweb
  refine ⟨cs, behind, hbehind, fun c hpath => ?_, fun rest hrest => ?_⟩
  · have hsign := endsPath_iff.1 hpath
    have hedge : isEdge c = false := by rcases hsign with rfl | rfl <;> rfl
    have hslash : c ≠ '/' := by rcases hsign with rfl | rfl <;> decide
    have hends : endsAuthority .web c = true :=
      endsAuthority_iff.2 (.inr (hsign.imp_right .inl))
    have hmem : c ∈ held (withoutSlashes url).toList ↔ c ∈ url.toList :=
      (mem_held_iff hedge).trans (mem_withoutSlashes hslash)
    rw [hheld, List.mem_append, List.mem_append] at hmem
    rw [← hmem]
    have hfront : c ∉ front := hintroduction.not_mem hpath
    have hpart : c ∉ cs := fun hc => absurd hends (Bool.eq_false_iff.1 (hcs c hc))
    exact ⟨fun hc => .inr (.inr hc), fun hc => (hc.resolve_left hfront).resolve_left hpart⟩
  · have haddress : withoutSlashes url ++ "/" ++ rest =
        String.ofList ((withoutSlashes url).toList ++ '/' :: rest.toList) := by
      rw [← String.toList_inj, String.toList_ofList, String.toList_append, String.toList_append,
        List.append_assoc]
      rfl
    have hbehind' : ∀ c ∈ '/' :: rest.toList, isEdge c = false :=
      List.forall_mem_cons.2 ⟨rfl, hrest⟩
    have hsignificant :=
      significant_append (colon_mem_base h) rfl hbehind' (List.cons_ne_nil _ _)
    rw [hheld, List.append_assoc, List.append_assoc] at hsignificant
    rw [haddress]
    exact hintroduction.parse_eq hcs hne (hbehind.append rfl rest.toList) hsignificant

/-! ## Addresses without blanks -/

theorem significant_of_visible (hvisible : ∀ c ∈ url.toList, isEdge c = false) :
    significant url = url.toList := by
  have hstart : url.toList.dropWhile isEdge = url.toList :=
    List.dropWhile_eq_self_iff.2 fun _ => Bool.eq_false_iff.1 (hvisible _ (List.get_mem ..))
  have hend : url.toList.rdropWhile isEdge = url.toList :=
    List.rdropWhile_eq_self_iff.2 fun _ => Bool.eq_false_iff.1 (hvisible _ (List.getLast_mem _))
  rw [significant_eq, hstart, hend]
  exact List.filter_eq_self.2 fun c hc => by
    rw [isSkipped_of_isEdge (hvisible c hc), Bool.not_false]

end Uplink

namespace Url

/-! ## Places in a directory -/

/-- **An address in the directory that another names**: on the same host, with that one's path, a
slash and more as its path, without a query and a fragment. -/
structure Within (u : Url) (rest : String) (v : Url) : Prop where
  /-- The scheme is the same. -/
  scheme : v.scheme = u.scheme
  /-- So is the host. -/
  host : v.host = u.host
  /-- So is its number. -/
  portNumber : v.portNumber = u.portNumber
  /-- There is no query. -/
  query : v.query = none
  /-- There is no fragment. -/
  fragment : v.fragment = none
  /-- The path is that of the directory, a slash and the rest. -/
  path : v.path.text = Uplink.withoutSlashes u.path.text ++ "/" ++ rest

theorem within_withPath_iff {u v : Url} {behind : List Char} {segment : String}
    (hbehind : Ended behind) (hrest : ∀ c ∈ rest, endsAuthority .web c = false) :
    Within u segment (v.withPath .web (behind ++ '/' :: rest)) ↔
      (v.scheme = u.scheme ∧ v.host = u.host ∧ v.portNumber = u.portNumber) ∧
        (∀ c ∈ behind, endsPath c = false) ∧
        Path.text (.segments (addSegment (directory behind) (escaped keepsInPath rest) true)) =
          Uplink.withoutSlashes u.path.text ++ "/" ++ segment := by
  constructor
  · intro h
    have hfree := (List.forall_mem_append.1 (of_withPath h.query h.fragment)).1
    rw [withPath_append hbehind hfree hrest] at h
    exact ⟨⟨h.scheme, h.host, h.portNumber⟩, hfree, h.path⟩
  · rintro ⟨⟨hscheme, hhost, hport⟩, hfree, hpath⟩
    rw [withPath_append hbehind hfree hrest]
    exact ⟨hscheme, hhost, hport, rfl, rfl, hpath⟩

/-- **A plain address**: nothing in it is a blank, begins a query or a fragment, is a backslash, or
stands for a directory itself or the one above. -/
structure Plain (url : String) : Prop where
  /-- There are no blanks. -/
  visible : ∀ c ∈ url.toList, isEdge c = false
  /-- There is no query and no fragment. -/
  noTail : ∀ c ∈ url.toList, endsPath c = false
  /-- There is no backslash. -/
  noBackslash : '\\' ∉ url.toList
  /-- There are no dots between slashes. -/
  dotless : Dotless url.toList

end Url

namespace Uplink

open Url

/-- Without dots, a path without the slashes at its end is its directory. -/
theorem text_directory_eq {more : List Char} {n : Nat} (hlast : more.getLast? ≠ some '/')
    (hended : Ended (more ++ List.replicate n '/'))
    (hfree : ∀ c ∈ more ++ List.replicate n '/', endsPath c = false)
    (hback : '\\' ∉ more ++ List.replicate n '/')
    (hdots : ∀ path, more ++ List.replicate n '/' = '/' :: path → Dotless path) :
    Path.text (.segments (directory more)) =
      withoutSlashes (pathOf .web (more ++ List.replicate n '/')).text := by
  cases hpath : more ++ List.replicate n '/' with
  | nil =>
    rw [(List.append_eq_nil_iff.1 hpath).1]
    rfl
  | cons c path =>
    rw [hpath] at hended hfree hback
    obtain rfl : c = '/' := by
      have hpath := hfree c List.mem_cons_self
      rcases endsAuthority_iff.1 (hended c rfl) with rfl | rfl | rfl | rfl
      · rfl
      · cases hpath
      · cases hpath
      · exact absurd List.mem_cons_self hback
    have hdirectory : Path.text (.segments (directory more)) = escaped keepsInPath more := by
      cases more with
      | nil => rfl
      | cons d rest =>
        rw [List.cons_append, List.cons.injEq] at hpath
        obtain ⟨rfl, rfl⟩ := hpath
        exact text_directory (hdots _ rfl).of_append_slashes fun hc =>
          hback (List.mem_cons_of_mem _ (List.mem_append_left _ hc))
    have hslashes : escaped keepsInPath (List.replicate n '/') =
        String.ofList (List.replicate n '/') := escaped_eq fun c hc => by
      rw [List.eq_of_mem_replicate hc]
      decide
    rw [hdirectory, text_pathOf (hdots path hpath) fun hc => hback (List.mem_cons_of_mem _ hc),
      ← hpath, escaped_append, hslashes, ← String.ofList_toList (s := escaped keepsInPath more),
      ← String.ofList_append, withoutSlashes_append (getLast?_escaped _ hlast)]

/-- **Without blanks, the base address with a slash is read as the configured one**, up to the
path. -/
theorem exists_path {u : Url} (h : parse url = .ok u) (hweb : SchemeKind.of u.scheme = .web)
    (hvisible : ∀ c ∈ url.toList, isEdge c = false) :
    ∃ (v : Url) (start more : List Char) (n : Nat),
      u = v.withPath .web (more ++ List.replicate n '/') ∧
      parse (withoutSlashes url ++ "/") = .ok (v.withPath .web (more ++ ['/'])) ∧
      url.toList = start ++ (more ++ List.replicate n '/') ∧
      Ended (more ++ List.replicate n '/') ∧ more.getLast? ≠ some '/' := by
  obtain ⟨front, cs, behind, hintroduction, hcs, hne, hbehind, hparts⟩ := exists_introduction h hweb
  obtain ⟨n, hslashes⟩ := exists_slashes url
  have hread := (hintroduction.parse_eq hcs hne hbehind hparts).symm.trans h
  rw [significant_of_visible hvisible, ← List.append_assoc] at hparts
  obtain ⟨more, hbase, rfl⟩ := exists_of_append_slashes (getLast?_of_unended hcs hne)
    (hslashes.symm.trans hparts)
  obtain ⟨v, hv, hu⟩ := exists_of_map_eq_ok hread
  refine ⟨v, front ++ cs, more, n, hu.symm, ?_, hparts, hbehind, fun hlast => ?_⟩
  · have hchars : (withoutSlashes url ++ "/").toList = front ++ (cs ++ (more ++ ['/'])) := by
      rw [String.toList_append, hbase, List.append_assoc, List.append_assoc]
      rfl
    have hsignificant : significant (withoutSlashes url ++ "/") =
        (withoutSlashes url ++ "/").toList := by
      refine significant_of_visible fun c hc => ?_
      rw [String.toList_append] at hc
      rcases List.mem_append.1 hc with hc | hc
      · exact hvisible c (hslashes ▸ List.mem_append_left _ hc)
      · obtain rfl := List.mem_singleton.1 hc
        rfl
    rw [hintroduction.parse_eq hcs hne (hbehind.of_append.append rfl [])
      (hsignificant.trans hchars)]
    exact congrArg (Except.map _) hv
  · have hmore : more ≠ [] := by
      rintro rfl
      cases hlast
    refine getLast?_withoutSlashes url ?_
    rw [hbase, List.getLast?_append_of_ne_nil _ hmore, hlast]

/-- **The base of a plain address with a slash behind is its directory.** -/
theorem within_of_plain {u : Url} (h : parse url = .ok u) (hweb : SchemeKind.of u.scheme = .web)
    (hplain : Plain url) : ∃ d, parse (withoutSlashes url ++ "/") = .ok d ∧ Within u "" d := by
  obtain ⟨v, start, more, n, rfl, hread, hparts, hended, hlast⟩ :=
    exists_path h hweb hplain.visible
  have hsub : ∀ c ∈ more ++ List.replicate n '/', c ∈ url.toList := by
    intro c hc
    rw [hparts]
    exact List.mem_append_right _ hc
  have hfree : ∀ c ∈ more ++ List.replicate n '/', endsPath c = false := fun c hc =>
    hplain.noTail c (hsub c hc)
  have hdots : ∀ path, more ++ List.replicate n '/' = '/' :: path → Dotless path := by
    intro path hpath
    have hdotless := hplain.dotless
    rw [hparts, hpath, dotless_append] at hdotless
    exact hdotless.2
  refine ⟨v.withPath .web (more ++ ['/']), hread, ?_⟩
  refine (within_withPath_iff hended.of_append (List.forall_mem_nil _)).2
    ⟨⟨rfl, rfl, rfl⟩, (List.forall_mem_append.1 hfree).1, ?_⟩
  rw [withPath_eq hfree, ← text_directory_eq hlast hended hfree
    (fun hc => hplain.noBackslash (hsub _ hc)) hdots, ← Path.text_concat]
  rfl

end Uplink

end RegistryProxy
