import RegistryProxy.Proofs.Client.Address

/-!
# Proofs/Client/Apart — which documents are asked for at the same path

The segment of a name stands for its bytes, so other names have other segments.  But a segment of
dots is taken for a directory and leaves an empty one behind, so that such a name can be at the path
of the directory itself, as the empty one is (`pathIn_eq_iff`); and behind a query or a fragment no
name is part of the path.  No other names share a path (`segment_faithful`).
-/

namespace RegistryProxy

open Url

variable {name other : String} {done : List String} {u : Uplink} {v v' : Url}

/-! ## The path of a name -/

namespace Package

/-- **A name that a path takes for the directory it is in**: the empty one, one dot, or two where
nothing is above. -/
def InPlaceOf (done : List String) (name : String) : Prop :=
  name = "" ∨ name = "." ∨ name = ".." ∧ done = []

/-- The path that is read for a name in a directory. -/
def pathIn (done : List String) (name : String) : String :=
  Path.text (.segments (addSegment done (encodeName name) true))

theorem pathIn_plain (hself : name ≠ ".") (hparent : name ≠ "..") (done : List String) :
    pathIn done name = Path.text (.segments done) ++ "/" ++ encodeName name := by
  rw [pathIn, addSegment_plain (Bool.eq_false_iff.2 (mt isSelf_encodeName.1 hself))
    (Bool.eq_false_iff.2 (mt isParent_encodeName.1 hparent)), Path.text_concat]

theorem pathIn_self (done : List String) :
    pathIn done "." = Path.text (.segments done) ++ "/" ++ "" := by
  have hparent : isParent (encodeName ".") = false :=
    Bool.eq_false_iff.2 (mt isParent_encodeName.1 (by decide))
  rw [pathIn, addSegment_self (isSelf_encodeName.2 rfl) hparent, Path.text_concat]

theorem pathIn_parent (done : List String) :
    pathIn done ".." = Path.text (.segments done.dropLast) ++ "/" ++ "" := by
  rw [pathIn, addSegment_parent (isParent_encodeName.2 rfl), Path.text_concat]

theorem encodeName_empty : encodeName "" = "" := rfl

theorem encodeName_eq_empty_iff : encodeName name = "" ↔ name = "" := by
  have hempty : encodeName name = encodeName "" ↔ name = "" := encodeName_inj
  rwa [encodeName_empty] at hempty

/-- **The names in place of a directory are at its own path**, with an empty segment. -/
theorem pathIn_eq_self_iff :
    pathIn done name = Path.text (.segments done) ++ "/" ++ "" ↔ InPlaceOf done name := by
  have hslash := slash_not_mem_encodeName name
  rw [InPlaceOf]
  by_cases hself : name = "."
  · rw [hself]
    exact iff_of_true (pathIn_self done) (.inr (.inl rfl))
  by_cases hparent : name = ".."
  · rw [hparent, pathIn_parent, append_slash_inj (by decide) (by decide), Path.text_dropLast_iff]
    simp
  · rw [pathIn_plain hself hparent, append_slash_inj hslash (by decide), encodeName_eq_empty_iff]
    simp [hself, hparent]

/-- All others but the two dots are below it. -/
theorem pathIn_ne_parent (hname : ¬ InPlaceOf done name) (hparent : name ≠ "..") :
    pathIn done name ≠ pathIn done ".." := by
  intro h
  obtain ⟨hempty, hself⟩ : name ≠ "" ∧ name ≠ "." :=
    ⟨fun h => hname (.inl h), fun h => hname (.inr (.inl h))⟩
  rw [pathIn_plain hself hparent, pathIn_parent,
    append_slash_inj (slash_not_mem_encodeName name) (by decide)] at h
  exact hempty (encodeName_eq_empty_iff.1 h.2)

/-- **Two names are at one path if and only if both stand for the directory**, or they are the
same. -/
theorem pathIn_eq_iff : pathIn done other = pathIn done name ↔
    other = name ∨ InPlaceOf done other ∧ InPlaceOf done name := by
  by_cases hname : InPlaceOf done name
  · rw [pathIn_eq_self_iff.2 hname, pathIn_eq_self_iff]
    exact ⟨fun h => .inr ⟨h, hname⟩, fun h => h.elim (fun h => h ▸ hname) And.left⟩
  by_cases hother : InPlaceOf done other
  · rw [pathIn_eq_self_iff.2 hother, eq_comm, pathIn_eq_self_iff]
    exact ⟨fun h => absurd h hname, fun h => h.elim (fun h => h ▸ hother) And.right⟩
  refine ⟨fun h => .inl ?_, fun h => h.elim (congrArg _) fun h => absurd h.2 hname⟩
  -- The dots that are left stand for the directory above, where no name can be.
  have hdot (name : String) (h : ¬ InPlaceOf done name) : name ≠ "." := fun hself =>
    h (.inr (.inl hself))
  by_cases hparent : name = ".."
  · by_contra hne
    rw [hparent] at h hne
    exact pathIn_ne_parent hother hne h
  by_cases hparent' : other = ".."
  · rw [hparent'] at h
    exact absurd h.symm (pathIn_ne_parent hname hparent)
  · rw [pathIn_plain (hdot _ hname) hparent, pathIn_plain (hdot _ hother) hparent',
      append_slash_inj (slash_not_mem_encodeName other) (slash_not_mem_encodeName name)] at h
    exact encodeName_inj.1 h.2

theorem pathIn_empty_eq_root_iff : pathIn done "" = "/" ↔ done = [] := by
  have hroot : pathIn done "" = "" ++ "/" ++ "" ↔ done = [] := by
    rw [pathIn_eq_self_iff.2 (.inl rfl), append_slash_inj (by decide) (by decide),
      Path.text_eq_empty_iff, and_iff_left rfl]
  exact hroot

end Package

/-! ## Base addresses -/

namespace Uplink

/-- **The base address is the root of its host.** -/
def IsRoot (u : Uplink) : Prop := ∃ d, Url.parse (u.baseUrl ++ "/") = .ok d ∧ d.path.text = "/"

/-- **A name that is lost in the path**, and is asked for where the base address is: the empty one,
one dot, or two at the root. -/
def Loses (u : Uplink) (name : String) : Prop := name = "" ∨ name = "." ∨ name = ".." ∧ u.IsRoot

/-- **Without a query and a fragment, all names are read in one directory.** -/
theorem exists_pathIn {url : String} (h : parse url = .ok v) (hweb : SchemeKind.of v.scheme = .web)
    (hsigns : ∀ c ∈ url.toList, endsPath c = false) :
    ∃ done, ∀ name v, parse (withoutSlashes url ++ "/" ++ Package.encodeName name) = .ok v →
      v.path.text = Package.pathIn done name ∧
        ∃ d, parse (withoutSlashes url ++ "/") = .ok d ∧ d.path.text = Package.pathIn done "" := by
  obtain ⟨cs, behind, hbehind, hkept, hparse⟩ := parse_base h hweb
  have hfree : ∀ c ∈ behind, endsPath c = false := fun c hc => Bool.eq_false_iff.2 fun hpath =>
    Bool.false_ne_true ((hsigns c ((hkept c hpath).1 hc)).symm.trans hpath)
  have htext (v : Url) (name : String) :
      (v.withPath .web (behind ++ '/' :: (Package.encodeName name).toList)).path.text =
        Package.pathIn (directory behind) name := by
    rw [withPath_append hbehind hfree fun c hc => (Package.standsInPath_of_mem hc).unended,
      Package.escaped_segment]
    rfl
  refine ⟨directory behind, fun name v hv => ?_⟩
  have hread (name : String) := hparse (Package.encodeName name) fun c hc =>
    (Package.standsInPath_of_mem hc).visible
  rw [hread] at hv
  obtain ⟨v, hpart, rfl⟩ := exists_of_map_eq_ok hv
  have hempty := hread ""
  rw [hpart, Package.encodeName_empty, String.append_empty] at hempty
  exact ⟨htext v name, _, hempty, htext v ""⟩

/-- **With a query or a fragment, all names are behind one path.** -/
theorem exists_path_of_sign {url : String} (h : parse url = .ok v)
    (hweb : SchemeKind.of v.scheme = .web) (hsign : ∃ c ∈ url.toList, endsPath c = true) :
    ∃ path, ∀ name v, parse (withoutSlashes url ++ "/" ++ Package.encodeName name) = .ok v →
      v.path = path := by
  obtain ⟨cs, behind, -, hkept, hparse⟩ := parse_base h hweb
  obtain ⟨c, hc, hpath⟩ := hsign
  refine ⟨pathOf .web (behind.takeWhile fun c => !endsPath c), fun name v hv => ?_⟩
  rw [hparse (Package.encodeName name) fun c hc => (Package.standsInPath_of_mem hc).visible] at hv
  obtain ⟨v, -, rfl⟩ := exists_of_map_eq_ok hv
  exact path_withPath_append ⟨c, (hkept c hpath).2 hc, hpath⟩ _

end Uplink

/-! ## Requests -/

namespace MetadataCall

/-- **A client of an uplink asks for the document of a name at an address.** -/
def AsksAt (u : Uplink) (name : String) (v : Url) : Prop :=
  ∃ (c : MetadataCall) (w : Client.World) (request : Request),
    c.name = name ∧ w.client.uplink = u ∧ c.draft w = .ok request ∧ request.target? = some v

theorem AsksAt.parse_eq (h : AsksAt u name v) :
    parse (u.baseUrl ++ "/" ++ Package.encodeName name) = .ok v := by
  obtain ⟨c, w, request, rfl, rfl, hdraft, htarget⟩ := h
  obtain ⟨headers, rfl⟩ := exists_of_draft_eq_ok hdraft
  exact (target?_eq_some.1 htarget).1

/-- In a directory two documents are at one path if and only if their names are the same, or both
are lost in it. -/
theorem path_eq_iff_of_free {key : String} {s : UplinkSettings} {g : GlobalSettings}
    (hresolve : (Uplink.resolve key s g).1 = .ok u)
    (hsigns : ∀ c ∈ s.url.toList, endsPath c = false) (hname : AsksAt u name v)
    (hother : AsksAt u other v') :
    v'.path.text = v.path.text ↔ other = name ∨ u.Loses other ∧ u.Loses name := by
  obtain ⟨hparse, -, hbase⟩ := Uplink.of_resolve hresolve
  obtain ⟨done, hread⟩ :=
    Uplink.exists_pathIn hparse (Uplink.web_of_resolve hresolve) hsigns
  rw [← hbase] at hread
  obtain ⟨htext, d, hd, hempty⟩ := hread name v hname.parse_eq
  have hroot : u.IsRoot ↔ done = [] := by
    simp only [Uplink.IsRoot, hd, Except.ok.injEq, exists_eq_left', hempty,
      Package.pathIn_empty_eq_root_iff]
  rw [htext, (hread other v' hother.parse_eq).1, Package.pathIn_eq_iff, Uplink.Loses, Uplink.Loses,
    hroot]
  rfl

/-- **Two documents are asked for at one path if and only if** their names are the same, or the
configured address takes all names out of the path, or both names are lost in it. -/
theorem path_eq_iff {key : String} {s : UplinkSettings} {g : GlobalSettings}
    (hresolve : (Uplink.resolve key s g).1 = .ok u) (hname : AsksAt u name v)
    (hother : AsksAt u other v') :
    v'.path.text = v.path.text ↔
      other = name ∨ (∃ c ∈ s.url.toList, endsPath c = true) ∨ u.Loses other ∧ u.Loses name := by
  by_cases hsign : ∃ c ∈ s.url.toList, endsPath c = true
  · obtain ⟨hparse, -, hbase⟩ := Uplink.of_resolve hresolve
    obtain ⟨path, hread⟩ :=
      Uplink.exists_path_of_sign hparse (Uplink.web_of_resolve hresolve) hsign
    rw [← hbase] at hread
    have hpath : v'.path = v.path :=
      (hread other v' hother.parse_eq).trans (hread name v hname.parse_eq).symm
    exact iff_of_true (congrArg Path.text hpath) (.inr (.inl hsign))
  · have hsigns : ∀ c ∈ s.url.toList, endsPath c = false := fun c hc =>
      Bool.eq_false_iff.2 fun hpath => hsign ⟨c, hc, hpath⟩
    rw [path_eq_iff_of_free hresolve hsigns hname hother, or_iff_right hsign]

/-- **A name is one segment, and no other name shares its path unless both are lost in it.**  Its
bytes are what the segment stands for.  Its document and another are asked for at one path if and
only if the names are the same, or the configured address has the sign of a query or a fragment, or
none of the two leaves a segment.  The segment is made of unreserved characters and escapes, with a
sign in front if and only if the name begins with one, and nothing in it ends the segment or the
path. -/
theorem segment_faithful (name : String) :
    Percent.decode (Utf8.encode (Package.encodeName name)) = Utf8.encode name ∧
      (∀ (key : String) (s : UplinkSettings) (g : GlobalSettings) (u : Uplink),
        (Uplink.resolve key s g).1 = .ok u →
          ∀ (other : String) (v v' : Url), AsksAt u name v → AsksAt u other v' →
            (v'.path.text = v.path.text ↔
              other = name ∨ (∃ c ∈ s.url.toList, endsPath c = true) ∨
                u.Loses other ∧ u.Loses name)) ∧
      (∃ rest, Percent.Escaped Package.Unreserved rest ∧ '@' ∉ rest ∧
        (Package.encodeName name).toList =
          if name.toList.head? = some '@' then '@' :: rest else rest) ∧
      ∀ c ∈ ['/', '?', '#', '\\'], c ∉ (Package.encodeName name).toList :=
  ⟨Package.decode_encodeName name,
    fun _ _ _ _ hresolve _ _ _ hname hother => path_eq_iff hresolve hname hother,
    Package.escaped_encodeName name, Package.not_mem_encodeName name⟩

/-- An uplink with nothing but an address asks for every document. -/
theorem asksAt_bare {address : Url} {baseUrl : String}
    (hread : parse (baseUrl ++ "/" ++ Package.encodeName name) = .ok v)
    (hscheme : v.scheme = "http") : AsksAt (bare address baseUrl) name v := by
  obtain ⟨request, hdraft⟩ :
      ∃ request, draft { name } (bareWorld (bare address baseUrl)) = .ok request := ⟨_, rfl⟩
  obtain ⟨headers, rfl⟩ := exists_of_draft_eq_ok hdraft
  exact ⟨_, _, _, rfl, rfl, hdraft, target?_eq_some.2 ⟨hread, .inl hscheme⟩⟩

/-- One of two names is that of the other in a scope. -/
theorem segment_faithful_scoped :
    ∃ (u : Uplink) (v v' : Url), (Uplink.resolve "a" { url := "http://[::1]/x/" } {}).1 = .ok u ∧
      AsksAt u "@s/p" v ∧ AsksAt u "p" v' ∧ v'.path.text ≠ v.path.text := by
  obtain ⟨u, hparse, hscheme⟩ : ∃ u, parse "http://[::1]/x/" = .ok u ∧ u.scheme = "http" :=
    ⟨_, rfl, rfl⟩
  obtain ⟨v, hread, hv⟩ : ∃ v, parse (Uplink.withoutSlashes "http://[::1]/x/" ++ "/" ++
      Package.encodeName "@s/p") = .ok v ∧ v.scheme = "http" := ⟨_, rfl, rfl⟩
  obtain ⟨v', hread', hv'⟩ : ∃ v, parse (Uplink.withoutSlashes "http://[::1]/x/" ++ "/" ++
      Package.encodeName "p") = .ok v ∧ v.scheme = "http" := ⟨_, rfl, rfl⟩
  have hresolve := resolve_bare hparse hscheme
  have hscoped : AsksAt (bare u _) "@s/p" v := asksAt_bare hread hv
  have hplain : AsksAt (bare u _) "p" v' := asksAt_bare hread' hv'
  have hsigns : ¬ ∃ c ∈ "http://[::1]/x/".toList, endsPath c = true := by simp [endsPath]
  refine ⟨_, v, v', hresolve, hscoped, hplain, fun hsame => ?_⟩
  rcases ((segment_faithful "@s/p").2.1 _ _ _ _ hresolve _ _ _ hscoped hplain).1 hsame
    with h | h | ⟨h | h | ⟨h, -⟩, -⟩
  · exact absurd h (by decide)
  · exact hsigns h
  all_goals exact absurd h (by decide)

/-- **Other names are asked for at the same path**: one dot and two at the root of a host, and any
two behind a query. -/
theorem names_share_path :
    (∃ (u : Uplink) (v : Url), (Uplink.resolve "a" { url := "http://[::1]" } {}).1 = .ok u ∧
      AsksAt u "." v ∧ AsksAt u ".." v) ∧
    ∃ (u : Uplink) (v v' : Url), (Uplink.resolve "a" { url := "http://[::1]?" } {}).1 = .ok u ∧
      AsksAt u "p" v ∧ AsksAt u "q" v' ∧ v'.path.text = v.path.text := by
  constructor
  · obtain ⟨u, hparse, hscheme⟩ : ∃ u, parse "http://[::1]" = .ok u ∧ u.scheme = "http" :=
      ⟨_, rfl, rfl⟩
    obtain ⟨v, hself, hparent, hv⟩ : ∃ v,
        parse (Uplink.withoutSlashes "http://[::1]" ++ "/" ++ Package.encodeName ".") = .ok v ∧
        parse (Uplink.withoutSlashes "http://[::1]" ++ "/" ++ Package.encodeName "..") = .ok v ∧
        v.scheme = "http" := ⟨_, rfl, rfl, rfl⟩
    exact ⟨_, v, resolve_bare hparse hscheme, asksAt_bare hself hv, asksAt_bare hparent hv⟩
  · obtain ⟨u, hparse, hscheme⟩ : ∃ u, parse "http://[::1]?" = .ok u ∧ u.scheme = "http" :=
      ⟨_, rfl, rfl⟩
    obtain ⟨v, hread, hv, hpath⟩ : ∃ v,
        parse (Uplink.withoutSlashes "http://[::1]?" ++ "/" ++ Package.encodeName "p") = .ok v ∧
        v.scheme = "http" ∧ v.path.text = "/" := ⟨_, rfl, rfl, rfl⟩
    obtain ⟨v', hread', hv', hpath'⟩ : ∃ v,
        parse (Uplink.withoutSlashes "http://[::1]?" ++ "/" ++ Package.encodeName "q") = .ok v ∧
        v.scheme = "http" ∧ v.path.text = "/" := ⟨_, rfl, rfl, rfl⟩
    exact ⟨_, v, v', resolve_bare hparse hscheme, asksAt_bare hread hv, asksAt_bare hread' hv',
      hpath'.trans hpath.symm⟩

end MetadataCall

end RegistryProxy
