import RegistryProxy.Proofs.Client.Ending
import RegistryProxy.Proofs.Client.Layers
import RegistryProxy.Proofs.Package.Segment
import RegistryProxy.Proofs.Uplink.Base

/-!
# Proofs/Client/Address — where the request for a document goes

The address of a request is the base address, a slash and the segment of a name, as text.  It is in
the directory that is configured if and only if the base address with a slash is this directory, and
the segment is not taken for the directory itself or the one above (`addressed_iff`).
-/

namespace RegistryProxy

variable {name : String} {c : Char}

/-! ## The segment of a name -/

/-- **A character that is read as it is** in a path, and ends nothing. -/
structure Url.StandsInPath (c : Char) : Prop where
  /-- It is one byte. -/
  ascii : c.toNat < 128
  /-- It is not escaped. -/
  kept : keepsInPath (UInt8.ofNat c.toNat) = true
  /-- It is not passed over. -/
  visible : isEdge c = false
  /-- It does not end a segment or a path. -/
  unended : endsAuthority .web c = false

namespace Package

/-- A character that a segment may have. -/
def InSegment (c : Char) : Prop := Unreserved c ∨ c = '%' ∨ Percent.UpperHex c ∨ c = '@'

theorem inSegment_of_mem (hc : c ∈ (encodeName name).toList) : InSegment c := by
  obtain ⟨rest, hescaped, -, hrest⟩ := escaped_encodeName name
  have hmem (h : c ∈ rest) : InSegment c := (hescaped.mem h).imp_right (Or.imp_right .inl)
  rw [hrest] at hc
  split at hc
  · rcases List.mem_cons.1 hc with rfl | hc
    · exact .inr (.inr (.inr rfl))
    · exact hmem hc
  · exact hmem hc

theorem toNat_lt_of_inSegment (h : InSegment c) : c.toNat < 128 := by
  have hletter (h : c.isAlphanum = true) : c.toNat < 128 :=
    Nat.lt_of_le_of_lt (Text.bounds_of_isAlphanum h).2 (by decide)
  rcases h with (h | h) | rfl | (h | h) | rfl
  · exact hletter h
  · have hmarks : ("-_.!~*'()".toList.all fun c => c.toNat < 128) = true := by decide
    exact of_decide_eq_true (List.all_eq_true.1 hmarks c h)
  · decide
  · exact hletter (by rw [Char.isAlphanum, h, Bool.or_true])
  · have hle : c.toNat ≤ 'F'.toNat := h.2
    exact Nat.lt_of_le_of_lt hle (by decide)
  · decide

/-- **A segment is read as it is**, wherever it stands. -/
theorem standsInPath_of_mem (hc : c ∈ (encodeName name).toList) : Url.StandsInPath c := by
  have hall : ∀ n < 128, InSegment (Char.ofNat n) →
      Url.keepsInPath (UInt8.ofNat n) = true ∧ Url.isEdge (Char.ofNat n) = false ∧
        Url.endsAuthority .web (Char.ofNat n) = false := by
    unfold InSegment Unreserved Percent.UpperHex
    decide +kernel
  have hsegment := inSegment_of_mem hc
  have hascii := toNat_lt_of_inSegment hsegment
  obtain ⟨hkept, hvisible, hunended⟩ := hall c.toNat hascii (by rwa [Char.ofNat_toNat])
  rw [Char.ofNat_toNat] at hvisible hunended
  exact ⟨hascii, hkept, hvisible, hunended⟩

theorem isSelf_encodeName : Url.isSelf (encodeName name) = true ↔ name = "." := by
  constructor
  · intro h
    exact Utf8.encode_inj.1 ((decode_encodeName name).symm.trans (Url.decode_of_isSelf h))
  · rintro rfl
    decide +kernel

theorem isParent_encodeName : Url.isParent (encodeName name) = true ↔ name = ".." := by
  constructor
  · intro h
    exact Utf8.encode_inj.1 ((decode_encodeName name).symm.trans (Url.decode_of_isParent h))
  · rintro rfl
    decide +kernel

theorem escaped_segment (name : String) :
    Url.escaped Url.keepsInPath (encodeName name).toList = encodeName name := by
  rw [Url.escaped_eq fun c hc => ⟨(standsInPath_of_mem hc).ascii, (standsInPath_of_mem hc).kept⟩,
    String.ofList_toList]

theorem slash_not_mem_encodeName (name : String) : '/' ∉ (encodeName name).toList :=
  not_mem_encodeName name '/' List.mem_cons_self

end Package

/-! ## The place of a document -/

/-- **The place of a document**: a segment that stands for its name, in the directory that the
configured address names. -/
def Url.PlaceOf (u : Url) (name : String) (v : Url) : Prop :=
  ∃ segment : String, '/' ∉ segment.toList ∧
    Percent.decode (Utf8.encode segment) = Utf8.encode name ∧ u.Within segment v

/-- **The base address with a slash is the directory that is configured.** -/
def Uplink.IsDirectory (u : Uplink) : Prop :=
  ∃ d, Url.parse (u.baseUrl ++ "/") = .ok d ∧ u.url.Within "" d

namespace MetadataCall

open Url

variable {u : Url} {url : String}

/-- A path that ends in a segment for the name does not end in dots: these leave an empty segment
behind, which stands for no name but the empty one. -/
theorem not_dots_of_text {name segment front : String} {done : List String}
    (hsegment : '/' ∉ segment.toList)
    (hdecode : Percent.decode (Utf8.encode segment) = Utf8.encode name)
    (htext : Path.text (.segments (addSegment done (Package.encodeName name) true)) =
      front ++ "/" ++ segment) :
    isSelf (Package.encodeName name) = false ∧ isParent (Package.encodeName name) = false := by
  by_contra hdots
  rw [not_and_or, Bool.not_eq_false, Bool.not_eq_false] at hdots
  obtain ⟨above, habove⟩ := addSegment_dots hdots done
  rw [habove, Path.text_concat, append_slash_inj (by decide) hsegment] at htext
  obtain rfl : name = "" := by
    rw [← htext.2] at hdecode
    exact Utf8.encode_inj.1 hdecode.symm
  revert hdots
  decide +kernel

/-- **With a segment behind, the base address goes to the place of the name** if and only if with
nothing behind it goes to the directory, unless the segment is taken for a directory. -/
theorem exists_place_iff (h : parse url = .ok u) (hweb : SchemeKind.of u.scheme = .web)
    (name : String) :
    (∃ v, parse (Uplink.withoutSlashes url ++ "/" ++ Package.encodeName name) = .ok v ∧
        u.PlaceOf name v) ↔
      name ≠ "." ∧ name ≠ ".." ∧
        ∃ d, parse (Uplink.withoutSlashes url ++ "/") = .ok d ∧ u.Within "" d := by
  obtain ⟨cs, behind, hbehind, -, hparse⟩ := Uplink.parse_base h hweb
  have hdirectory := hparse "" (List.forall_mem_nil _)
  rw [String.append_empty] at hdirectory
  rw [hparse _ fun c hc => (Package.standsInPath_of_mem hc).visible, hdirectory]
  cases parseBehindSlashes .web u.scheme cs with
  | error e => simp [Except.map]
  | ok v =>
    have hnothing : ∀ c ∈ "".toList, endsAuthority .web c = false := List.forall_mem_nil _
    -- Both are put behind the same address, and differ in the last segment only.
    simp only [Except.map, Except.ok.injEq, exists_eq_left', PlaceOf,
      within_withPath_iff hbehind fun c hc => (Package.standsInPath_of_mem hc).unended,
      within_withPath_iff hbehind hnothing, Package.escaped_segment]
    have hempty (done : List String) : addSegment done (escaped keepsInPath "".toList) true =
      done ++ [""] := addSegment_plain rfl rfl done true
    have hslash := Package.slash_not_mem_encodeName name
    rw [hempty, Path.text_concat, append_slash_inj (by decide) (by decide)]
    constructor
    · rintro ⟨segment, hsegment, hdecode, hsame, hfree, htext⟩
      obtain ⟨hself, hparent⟩ := not_dots_of_text hsegment hdecode htext
      rw [addSegment_plain hself hparent, Path.text_concat,
        append_slash_inj hslash hsegment] at htext
      refine ⟨?_, ?_, hsame, hfree, htext.1, rfl⟩
      · exact mt Package.isSelf_encodeName.2 (Bool.eq_false_iff.1 hself)
      · exact mt Package.isParent_encodeName.2 (Bool.eq_false_iff.1 hparent)
    · rintro ⟨hself, hparent, hsame, hfree, htext, -⟩
      refine ⟨Package.encodeName name, hslash, Package.decode_encodeName name, hsame, hfree, ?_⟩
      rw [addSegment_plain (Bool.eq_false_iff.2 (mt Package.isSelf_encodeName.1 hself))
        (Bool.eq_false_iff.2 (mt Package.isParent_encodeName.1 hparent)), Path.text_concat, htext]

theorem target?_eq_some {address : String} {headers : Headers} {v : Url} :
    Request.target? { url := address, headers } = some v ↔
      parse address = .ok v ∧ (v.scheme = "http" ∨ v.scheme = "https") := by
  rw [Request.target?]
  cases parse address with
  | error e => exact ⟨nofun, fun h => nomatch h.1⟩
  | ok v' =>
    change (guard (v'.scheme = "http" ∨ v'.scheme = "https") >>= fun _ => some v') = some v ↔ _
    rw [guard, Except.ok.injEq]
    split
    · next hscheme =>
      exact ⟨fun h => Option.some.inj h ▸ ⟨rfl, hscheme⟩, fun h => congrArg some h.1⟩
    · next hscheme => exact ⟨nofun, fun h => absurd (h.1 ▸ h.2) hscheme⟩

/-- **The request for a document goes to its place if and only if the base address is the directory
that is configured**, unless the name is one that is taken for a directory.  The base address is not
when the configured one has a query or a fragment, and it is when the configured one is plain. -/
theorem addressed_iff {key : String} {s : UplinkSettings} {g : GlobalSettings} {u : Uplink}
    (hresolve : (Uplink.resolve key s g).1 = .ok u) :
    (∀ (c : MetadataCall) (w : Client.World) (request : Request), w.client.uplink = u →
      c.draft w = .ok request →
        ((∃ v, request.target? = some v ∧ u.url.PlaceOf c.name v) ↔
          c.name ≠ "." ∧ c.name ≠ ".." ∧ u.IsDirectory)) ∧
      (u.IsDirectory → ∀ c ∈ s.url.toList, endsPath c = false) ∧
      (Plain s.url → u.IsDirectory) := by
  obtain ⟨hparse, hscheme, hbase⟩ := Uplink.of_resolve hresolve
  have hweb := Uplink.web_of_resolve hresolve
  refine ⟨?_, ?_, ?_⟩
  · rintro c w request rfl hdraft
    obtain ⟨headers, rfl⟩ := exists_of_draft_eq_ok hdraft
    rw [Uplink.IsDirectory, hbase, ← exists_place_iff hparse hweb, address, urlOf, hbase]
    constructor
    · rintro ⟨v, htarget, hplace⟩
      exact ⟨v, (target?_eq_some.1 htarget).1, hplace⟩
    · rintro ⟨v, hv, hplace⟩
      refine ⟨v, target?_eq_some.2 ⟨hv, ?_⟩, hplace⟩
      obtain ⟨segment, -, -, hwithin⟩ := hplace
      rwa [hwithin.scheme]
  · rintro ⟨d, hd, hwithin⟩ c hc
    obtain ⟨cs, behind, hbehind, hsigns, hread⟩ := Uplink.parse_base hparse hweb
    have hdirectory := hread "" (List.forall_mem_nil _)
    rw [String.append_empty, ← hbase, hd] at hdirectory
    obtain ⟨v, -, rfl⟩ := exists_of_map_eq_ok hdirectory.symm
    have hfree := ((within_withPath_iff hbehind (List.forall_mem_nil _)).1 hwithin).2.1
    exact Bool.eq_false_iff.2 fun hpath =>
      Bool.false_ne_true ((hfree c ((hsigns c hpath).2 hc)).symm.trans hpath)
  · intro hplain
    rw [Uplink.IsDirectory, hbase]
    exact Uplink.within_of_plain hparse hweb hplain

/-- The uplink of an address, all else left to the defaults. -/
def bare (address : Url) (baseUrl : String) : Uplink where
  name := "a"
  url := address
  baseUrl := baseUrl
  ca := none
  credential := none
  headers := ∅
  maxage := Uplink.defaultMaxage
  timeout := Uplink.defaultTimeout
  maxFails := Uplink.defaultMaxFails
  failTimeout := Uplink.defaultFailTimeout
  strictSsl := true
  proxy := none
  bypass := []
  userAgent := Uplink.defaultUserAgent
  serverId := Uplink.defaultServerId

theorem resolve_bare (h : parse url = .ok u) (hscheme : u.scheme = "http") :
    (Uplink.resolve "a" { url } {}).1 = .ok (bare u (Uplink.withoutSlashes url)) := by
  have hurl : Uplink.resolveUrl "a" url = .ok u := by
    rw [Uplink.resolveUrl, h]
    exact if_pos (.inl hscheme)
  have hproxy : Uplink.proxyFor u { url } {} = none := by
    rw [Uplink.proxyFor]
    split <;> rfl
  rw [Uplink.resolve, hurl]
  change Uplink.resolveRest .. = _
  rw [Uplink.resolveRest, hproxy]
  rfl

/-- A client of it. -/
def bareWorld (u : Uplink) : Client.World where
  client := { Client.guardedClient with uplink := u }
  network := .refusing

/-- The name has a scope, and the configured address a path and a slash at its end. -/
theorem addressed_iff_scoped :
    ∃ (u : Uplink) (request : Request) (v : Url),
      (Uplink.resolve "a" { url := "http://[::1]/x/" } {}).1 = .ok u ∧
      draft { name := "@s/p" } (bareWorld u) = .ok request ∧
      request.target? = some v ∧ u.url.PlaceOf "@s/p" v := by
  obtain ⟨u, hparse, hscheme⟩ : ∃ u, parse "http://[::1]/x/" = .ok u ∧ u.scheme = "http" :=
    ⟨_, rfl, rfl⟩
  have hresolve := resolve_bare hparse hscheme
  obtain ⟨request, hdraft⟩ : ∃ request, draft { name := "@s/p" }
      (bareWorld (bare u (Uplink.withoutSlashes "http://[::1]/x/"))) = .ok request := ⟨_, rfl⟩
  have hchars : ("http://[::1]/x/".toList.all fun c => !isEdge c && !endsPath c) = true := by decide
  have hplain : Plain "http://[::1]/x/" := by
    have hclear (c : Char) (hc : c ∈ "http://[::1]/x/".toList) :
        isEdge c = false ∧ endsPath c = false := by
      simpa using List.all_eq_true.1 hchars c hc
    refine ⟨fun c hc => (hclear c hc).1, fun c hc => (hclear c hc).2, by decide, ?_⟩
    unfold Dotless
    decide +kernel
  obtain ⟨hplace, -, hdirectory⟩ := addressed_iff hresolve
  obtain ⟨v, htarget, hv⟩ := (hplace { name := "@s/p" } _ request rfl hdraft).2
    ⟨by decide, by decide, hdirectory hplain⟩
  exact ⟨_, request, v, hresolve, hdraft, htarget, hv⟩

/-- **A blank at the end of the configured address becomes a part of the path.** -/
theorem blank_kept :
    ∃ (u : Uplink) (request : Request) (v : Url),
      (Uplink.resolve "a" { url := "http://[::1]/ " } {}).1 = .ok u ∧ u.url.path.text = "/" ∧
      draft { name := "pkg" } (bareWorld u) = .ok request ∧
      request.target? = some v ∧ v.path.text = "/%20/pkg" ∧ ¬ u.url.PlaceOf "pkg" v := by
  obtain ⟨u, hparse, hscheme, hpath⟩ : ∃ u, parse "http://[::1]/ " = .ok u ∧ u.scheme = "http" ∧
      u.path.text = "/" := ⟨_, rfl, rfl, rfl⟩
  obtain ⟨request, hdraft⟩ : ∃ request, draft { name := "pkg" }
      (bareWorld (bare u (Uplink.withoutSlashes "http://[::1]/ "))) = .ok request := ⟨_, rfl⟩
  obtain ⟨v, htarget, hplace⟩ : ∃ v, parse (Uplink.withoutSlashes "http://[::1]/ " ++ "/" ++
      Package.encodeName "pkg") = .ok v ∧ v.scheme = "http" ∧ v.path.text = "/%20/pkg" :=
    ⟨_, rfl, rfl, rfl⟩
  obtain ⟨headers, rfl⟩ := exists_of_draft_eq_ok hdraft
  refine ⟨_, _, v, resolve_bare hparse hscheme, hpath, hdraft,
    target?_eq_some.2 ⟨htarget, .inl hplace.1⟩, hplace.2, ?_⟩
  rintro ⟨segment, hsegment, -, hwithin⟩
  have htext := hplace.2.symm.trans hwithin.path
  change "/%20" ++ "/" ++ "pkg" = Uplink.withoutSlashes u.path.text ++ "/" ++ segment at htext
  rw [append_slash_inj (by decide) hsegment, hpath] at htext
  exact absurd htext.1 (by decide)

end MetadataCall

end RegistryProxy
