import Mathlib.Data.List.Basic
import Mathlib.Data.List.TakeWhile
import RegistryProxy.Proofs.Text.Case
import RegistryProxy.Proofs.Text.Percent
import RegistryProxy.Proofs.Url.Front

/-!
# Proofs/Url/Directory — a segment behind a path goes into its directory

What stands in front of the last slash of a path is read before its last segment, so it comes to the
same directory whatever that segment is (`pathOf_append`).  The segment stays as it is unless it
stands for the directory itself or the one above (`addSegment_plain`).
-/

namespace RegistryProxy

variable {cs ds : List Char}

/-! ## Pieces between separators -/

theorem Text.splitAt_append (sep : Char) (cs ds : List Char) :
    splitAt sep (cs ++ sep :: ds) = splitAt sep cs ++ splitAt sep ds := by
  induction cs with
  | nil => exact if_pos rfl
  | cons c cs ih =>
    rw [List.cons_append, splitAt, splitAt, ih]
    split
    · rfl
    · obtain ⟨piece, pieces, hcs⟩ := List.exists_cons_of_ne_nil (splitAt_ne_nil sep cs)
      rw [hcs]
      rfl

theorem Text.splitAt_of_not_mem {sep : Char} (h : sep ∉ cs) : splitAt sep cs = [cs] := by
  induction cs with
  | nil => rfl
  | cons c cs ih =>
    rw [List.mem_cons, not_or] at h
    rw [splitAt, if_neg (Ne.symm h.1), ih h.2]

/-- The last slash is found. -/
theorem append_slash_inj {front front' segment segment' : String} (hsegment : '/' ∉ segment.toList)
    (hsegment' : '/' ∉ segment'.toList) :
    front ++ "/" ++ segment = front' ++ "/" ++ segment' ↔ front = front' ∧ segment = segment' := by
  refine ⟨fun h => ?_, fun h => by rw [h.1, h.2]⟩
  have hcut (front segment : String) (hsegment : '/' ∉ segment.toList) :
      Text.cutAt '/' (front ++ "/" ++ segment).toList.reverse =
        some (segment.toList.reverse, front.toList.reverse) := by
    rw [String.toList_append, String.toList_append, List.append_assoc, List.reverse_append,
      show "/".toList ++ segment.toList = '/' :: segment.toList from rfl, List.reverse_cons,
      List.append_assoc]
    exact Text.cutAt_append (mt List.mem_reverse.1 hsegment) _
  have hparts := (hcut front segment hsegment).symm.trans
    ((congrArg (fun s => Text.cutAt '/' s.toList.reverse) h).trans (hcut front' segment' hsegment'))
  simp only [Option.some.injEq, Prod.mk.injEq, List.reverse_inj, String.toList_inj] at hparts
  exact ⟨hparts.2, hparts.1⟩

namespace Url

variable {keeps : UInt8 → Bool} {c : Char} {segment : String} {done : List String}

/-! ## Escaped texts -/

theorem escaped_append (keeps : UInt8 → Bool) (cs ds : List Char) :
    escaped keeps (cs ++ ds) = escaped keeps cs ++ escaped keeps ds := by
  rw [escaped, String.ofList_append, Utf8.encode_append, Percent.encode, List.flatMap_append,
    String.ofList_append]
  rfl

/-- Characters that stand for themselves stay. -/
theorem escaped_eq (h : ∀ c ∈ cs, c.toNat < 128 ∧ keeps (UInt8.ofNat c.toNat) = true) :
    escaped keeps cs = String.ofList cs := by
  have hbytes : Percent.encode keeps (cs.flatMap String.utf8EncodeChar) = cs := by
    induction cs with
    | nil => rfl
    | cons c cs ih =>
      obtain ⟨⟨hascii, hkept⟩, hcs⟩ := List.forall_mem_cons.1 h
      have hbyte : String.utf8EncodeChar c = [UInt8.ofNat c.toNat] := by
        have hchar := Utf8.utf8EncodeChar_ofNat hascii
        rwa [Char.ofNat_toNat] at hchar
      rw [List.flatMap_cons, hbyte, List.singleton_append, Percent.encode, List.flatMap_cons,
        ← Percent.encode, ih hcs, Percent.encodeByte, if_pos hkept]
      have hnat : (UInt8.ofNat c.toNat).toNat = c.toNat := by
        rw [UInt8.toNat_ofNat']
        omega
      rw [hnat, Char.ofNat_toNat]
      rfl
  rw [escaped, Utf8.encode_ofList, hbytes]

/-- A slash is only written for a slash. -/
theorem slash_mem_encodeByte {b : UInt8} (h : '/' ∈ Percent.encodeByte keeps b) : b.toNat = 47 := by
  rw [Percent.encodeByte] at h
  split at h
  · have hvalue : ∀ n < 256, '/' = Char.ofNat n → n = 47 := by decide +kernel
    exact hvalue _ b.toNat_lt (List.mem_singleton.1 h)
  · have hhex (n : Nat) (hn : n < 16) : '/' ≠ Percent.upperHex n := fun heq =>
      absurd (heq ▸ Percent.upperHex_upperHex n hn) (by unfold Percent.UpperHex; decide)
    simp only [Percent.escape, List.mem_cons, List.not_mem_nil, or_false] at h
    rcases h with h | h | h
    · cases h
    · exact absurd h (hhex _ (Nat.div_lt_of_lt_mul b.toNat_lt))
    · exact absurd h (hhex _ (Nat.mod_lt _ (by decide)))

theorem encodeByte_ne_nil (keeps : UInt8 → Bool) (b : UInt8) : Percent.encodeByte keeps b ≠ [] := by
  rw [Percent.encodeByte]
  split <;> exact List.cons_ne_nil _ _

/-- **A text that does not end in a slash is not escaped to one that does.** -/
theorem getLast?_escaped (keeps : UInt8 → Bool) (h : cs.getLast? ≠ some '/') :
    (escaped keeps cs).toList.getLast? ≠ some '/' := by
  rcases List.eq_nil_or_concat cs with rfl | ⟨cs, c, rfl⟩
  · exact nofun
  rw [List.concat_eq_append, List.getLast?_concat, Ne, Option.some.injEq] at h
  rw [List.concat_eq_append, escaped_append, String.toList_append]
  have hchar : (escaped keeps [c]).toList =
      (String.utf8EncodeChar c).flatMap (Percent.encodeByte keeps) := by
    rw [escaped, String.toList_ofList, Utf8.encode_ofList, List.flatMap_singleton, Percent.encode]
  have hne : (escaped keeps [c]).toList ≠ [] := by
    obtain ⟨b, bytes, hbytes⟩ := List.exists_cons_of_ne_nil (String.utf8EncodeChar_ne_nil (c := c))
    rw [hchar, hbytes, List.flatMap_cons]
    exact List.append_ne_nil_of_left_ne_nil (encodeByte_ne_nil keeps b) _
  intro hlast
  rw [List.getLast?_append_of_ne_nil _ hne] at hlast
  have hmem := List.mem_of_getLast? hlast
  rw [hchar] at hmem
  obtain ⟨b, hb, hmem⟩ := List.mem_flatMap.1 hmem
  have hbyte := slash_mem_encodeByte hmem
  rcases Utf8.mem_utf8EncodeChar hb with hvalue | hvalue
  · exact h (Char.toNat_inj.1 (hvalue.symm.trans hbyte))
  · omega

/-! ## Directories -/

/-- The segments of a path that more segments follow. -/
def walk (done : List String) (segments : List String) : List String :=
  segments.foldl (fun done segment => addSegment done segment false) done

theorem addSegments_concat (done segments : List String) (last : String) :
    addSegments done (segments ++ [last]) = addSegment (walk done segments) last true := by
  induction segments generalizing done with
  | nil => rfl
  | cons segment segments ih =>
    obtain ⟨next, rest, hrest⟩ := List.exists_cons_of_ne_nil
      (List.append_ne_nil_of_right_ne_nil segments (List.cons_ne_nil last []))
    rw [List.cons_append, hrest, addSegments, ← hrest, ih]
    · rfl
    · exact List.cons_ne_nil next rest

/-- A backslash is a slash. -/
def slashed (cs : List Char) : List Char := cs.map fun c => if c == '\\' then '/' else c

/-- **The directory of what stands behind a path and a slash.** -/
def directory : List Char → List String
  | [] => []
  | _ :: cs => walk [] ((Text.splitAt '/' (slashed cs)).map (escaped keepsInPath))

theorem slashed_of_not_mem (h : '\\' ∉ cs) : slashed cs = cs := by
  refine (List.map_congr_left fun c hc => if_neg ?_).trans (List.map_id cs)
  exact fun heq => h (beq_iff_eq.1 heq ▸ hc)

theorem pathSegments_eq (cs : List Char) :
    pathSegments .web cs =
      addSegments [] ((Text.splitAt '/' (slashed cs)).map (escaped keepsInPath)) := by
  have hspecial : SchemeKind.web.isSpecial = true := rfl
  simp only [pathSegments, hspecial, Bool.and_true]
  rfl

/-- **What stands in front of the last slash is read before the segment behind it.** -/
theorem pathOf_append {behind seg : List Char} (hbehind : Ended behind)
    (hpath : ∀ c ∈ behind, endsPath c = false) (hslash : '/' ∉ seg) (hback : '\\' ∉ seg) :
    pathOf .web (behind ++ '/' :: seg) =
      .segments (addSegment (directory behind) (escaped keepsInPath seg) true) := by
  cases behind with
  | nil =>
    change Path.segments (pathSegments .web seg) = _
    rw [pathSegments_eq, slashed_of_not_mem hback, Text.splitAt_of_not_mem hslash]
    rfl
  | cons c rest =>
    have hseparates : (c == '/' || (c == '\\' && SchemeKind.web.isSpecial)) = true := by
      have hc := hpath c List.mem_cons_self
      rcases endsAuthority_iff.1 (hbehind c rfl) with rfl | rfl | rfl | rfl
      · rfl
      · cases hc
      · cases hc
      · rfl
    have hslashed : slashed (rest ++ '/' :: seg) = slashed rest ++ '/' :: seg := by
      rw [slashed, List.map_append, List.map_cons, ← slashed, ← slashed, slashed_of_not_mem hback]
      rfl
    rw [List.cons_append, pathOf, if_pos hseparates, pathSegments_eq, hslashed,
      Text.splitAt_append, Text.splitAt_of_not_mem hslash, List.map_append]
    exact congrArg Path.segments (addSegments_concat _ _ _)

/-! ## Dots -/

/-- A dot, as it is or escaped. -/
def IsDot (cs : List Char) : Prop :=
  cs.map Char.toLower = ['.'] ∨ cs.map Char.toLower = ['%', '2', 'e']

/-- A dot stands for the byte of the dot. -/
theorem IsDot.decode (h : IsDot cs) (rest : Bytes) :
    Percent.decode (cs.flatMap String.utf8EncodeChar ++ rest) = 0x2e :: Percent.decode rest := by
  rcases h with h | h
  · obtain ⟨c, rfl, hc⟩ := List.map_eq_singleton_iff.1 h
    obtain rfl := Text.eq_of_toLower (by decide) hc
    exact Percent.decode_cons_of_ne (by decide) rest
  · obtain ⟨c, cs, rfl, hc, h⟩ := List.map_eq_cons_iff.1 h
    obtain ⟨d, cs, rfl, hd, h⟩ := List.map_eq_cons_iff.1 h
    obtain ⟨e, rfl, he⟩ := List.map_eq_singleton_iff.1 h
    obtain rfl := Text.eq_of_toLower (by decide) hc
    obtain rfl := Text.eq_of_toLower (by decide) hd
    rcases Text.of_toLower he with rfl | ⟨-, he⟩
    · rfl
    · obtain rfl : e = 'E' := Char.toNat_inj.1 (Nat.add_right_cancel he)
      rfl

theorem isDot_of_isSelf (h : isSelf segment = true) : IsDot segment.toList := by
  rw [isSelf, List.contains_iff_mem] at h
  simp only [List.mem_cons, List.not_mem_nil, or_false, Text.lower] at h
  exact h.imp (fun h => String.ofList_inj.1 h) (fun h => String.ofList_inj.1 h)

theorem dots_of_isParent (h : isParent segment = true) :
    ∃ cs ds, segment.toList = cs ++ ds ∧ IsDot cs ∧ IsDot ds := by
  have hcut (ones others : List Char)
      (h : Text.lower segment = String.ofList (ones ++ others)) :
      ∃ cs ds, segment.toList = cs ++ ds ∧ cs.map Char.toLower = ones ∧
        ds.map Char.toLower = others :=
    List.map_eq_append_iff.1 (String.ofList_inj.1 h)
  rw [isParent, List.contains_iff_mem] at h
  simp only [List.mem_cons, List.not_mem_nil, or_false] at h
  rcases h with h | h | h | h
  · obtain ⟨cs, ds, hsegment, hcs, hds⟩ := hcut ['.'] ['.'] h
    exact ⟨cs, ds, hsegment, .inl hcs, .inl hds⟩
  · obtain ⟨cs, ds, hsegment, hcs, hds⟩ := hcut ['.'] ['%', '2', 'e'] h
    exact ⟨cs, ds, hsegment, .inl hcs, .inr hds⟩
  · obtain ⟨cs, ds, hsegment, hcs, hds⟩ := hcut ['%', '2', 'e'] ['.'] h
    exact ⟨cs, ds, hsegment, .inr hcs, .inl hds⟩
  · obtain ⟨cs, ds, hsegment, hcs, hds⟩ := hcut ['%', '2', 'e'] ['%', '2', 'e'] h
    exact ⟨cs, ds, hsegment, .inr hcs, .inr hds⟩

theorem decode_of_isSelf (h : isSelf segment = true) :
    Percent.decode (Utf8.encode segment) = Utf8.encode "." := by
  rw [← String.ofList_toList (s := segment), Utf8.encode_ofList,
    ← List.append_nil (List.flatMap _ _), (isDot_of_isSelf h).decode]
  rfl

theorem decode_of_isParent (h : isParent segment = true) :
    Percent.decode (Utf8.encode segment) = Utf8.encode ".." := by
  obtain ⟨cs, ds, hsegment, hcs, hds⟩ := dots_of_isParent h
  rw [← String.ofList_toList (s := segment), Utf8.encode_ofList, hsegment, List.flatMap_append,
    hcs.decode, ← List.append_nil (ds.flatMap _), hds.decode]
  rfl

/-! ## The last segment -/

theorem Path.text_cons (segment : String) (rest : List String) :
    Path.text (.segments (segment :: rest)) = "/" ++ segment ++ Path.text (.segments rest) := by
  rw [Path.text, List.map_cons, String.join_cons]
  rfl

theorem Path.text_concat (done : List String) (segment : String) :
    Path.text (.segments (done ++ [segment])) = Path.text (.segments done) ++ "/" ++ segment := by
  rw [Path.text, List.map_append, String.join_append, List.map_singleton, String.join_cons,
    String.join_nil, String.append_empty, ← String.append_assoc]
  rfl

/-- One more segment makes a longer text. -/
theorem Path.length_text_lt (done : List String) (segment : String) :
    (Path.text (.segments done)).length < (Path.text (.segments (done ++ [segment]))).length := by
  have hslash : "/".length = 1 := rfl
  rw [Path.text_concat, String.length_append, String.length_append, hslash]
  omega

theorem Path.text_eq_empty_iff : Path.text (.segments done) = "" ↔ done = [] := by
  refine ⟨fun h => ?_, fun h => by rw [h]; rfl⟩
  rcases List.eq_nil_or_concat done with rfl | ⟨above, segment, rfl⟩
  · rfl
  · have hlonger := Path.length_text_lt above segment
    rw [← List.concat_eq_append, h] at hlonger
    exact absurd hlonger (Nat.not_lt_zero _)

theorem Path.text_dropLast_iff :
    Path.text (.segments done.dropLast) = Path.text (.segments done) ↔ done = [] := by
  refine ⟨fun h => ?_, fun h => by rw [h]; rfl⟩
  rcases List.eq_nil_or_concat done with rfl | ⟨above, segment, rfl⟩
  · rfl
  · rw [List.concat_eq_append, List.dropLast_concat] at h
    exact absurd (congrArg String.length h) (Nat.ne_of_lt (Path.length_text_lt above segment))

/-- **A segment that stands for itself is the last of its path.** -/
theorem addSegment_plain (hself : isSelf segment = false) (hparent : isParent segment = false)
    (done : List String) (last : Bool) : addSegment done segment last = done ++ [segment] := by
  rw [addSegment, hself, hparent]
  rfl

/-- **One that stands for the directory itself leaves an empty one behind.** -/
theorem addSegment_self (hself : isSelf segment = true) (hparent : isParent segment = false)
    (done : List String) : addSegment done segment true = done ++ [""] := by
  rw [addSegment, hself, hparent]
  rfl

/-- **One that stands for the directory above takes the last segment in front of it away.** -/
theorem addSegment_parent (hparent : isParent segment = true) (done : List String) :
    addSegment done segment true = done.dropLast ++ [""] := by
  rw [addSegment, hparent]
  rfl

theorem addSegment_dots (h : isSelf segment = true ∨ isParent segment = true)
    (done : List String) : ∃ above, addSegment done segment true = above ++ [""] := by
  cases hparent : isParent segment with
  | false =>
    rw [hparent] at h
    exact ⟨done, addSegment_self (h.resolve_right Bool.false_ne_true) hparent done⟩
  | true => exact ⟨done.dropLast, addSegment_parent hparent done⟩

/-! ## Paths without dots -/

/-- No segment stands for the one it is in or the one above. -/
def Dotless (cs : List Char) : Prop :=
  ∀ piece ∈ Text.splitAt '/' cs,
    isSelf (escaped keepsInPath piece) = false ∧ isParent (escaped keepsInPath piece) = false

theorem dotless_append {ds : List Char} : Dotless (cs ++ '/' :: ds) ↔ Dotless cs ∧ Dotless ds := by
  rw [Dotless, Text.splitAt_append]
  exact List.forall_mem_append

theorem Dotless.of_append_slashes {n : Nat} (h : Dotless (cs ++ List.replicate n '/')) :
    Dotless cs := by
  cases n with
  | zero => rwa [List.replicate_zero, List.append_nil] at h
  | succ n => exact (dotless_append.1 (by rwa [List.replicate_succ] at h)).1

theorem walk_plain {segments : List String}
    (h : ∀ segment ∈ segments, isSelf segment = false ∧ isParent segment = false)
    (done : List String) : walk done segments = done ++ segments := by
  induction segments generalizing done with
  | nil => exact (List.append_nil done).symm
  | cons segment segments ih =>
    obtain ⟨⟨hself, hparent⟩, hsegments⟩ := List.forall_mem_cons.1 h
    rw [walk, List.foldl_cons, addSegment_plain hself hparent, ← walk, ih hsegments,
      List.append_assoc, List.singleton_append]

theorem addSegments_plain {segments : List String}
    (h : ∀ segment ∈ segments, isSelf segment = false ∧ isParent segment = false)
    (done : List String) : addSegments done segments = done ++ segments := by
  rcases List.eq_nil_or_concat segments with rfl | ⟨segments, last, rfl⟩
  · exact (List.append_nil done).symm
  · rw [List.concat_eq_append] at h ⊢
    obtain ⟨hself, hparent⟩ := h last (List.mem_append_right _ List.mem_cons_self)
    rw [addSegments_concat, walk_plain fun segment hsegment =>
      h segment (List.mem_append_left _ hsegment), addSegment_plain hself hparent,
      List.append_assoc]

/-- The text of all pieces is the escaped text. -/
theorem Path.text_splitAt (cs : List Char) :
    Path.text (.segments ((Text.splitAt '/' cs).map (escaped keepsInPath))) =
      "/" ++ escaped keepsInPath cs := by
  suffices ∃ piece pieces, Text.splitAt '/' cs = piece :: pieces ∧ escaped keepsInPath cs =
      escaped keepsInPath piece ++ Path.text (.segments (pieces.map (escaped keepsInPath))) by
    obtain ⟨piece, pieces, hcs, htext⟩ := this
    rw [hcs, htext, List.map_cons, Path.text_cons, String.append_assoc]
  induction cs with
  | nil => exact ⟨[], [], rfl, rfl⟩
  | cons c cs ih =>
    obtain ⟨piece, pieces, hcs, htext⟩ := ih
    have hcons : escaped keepsInPath (c :: cs) =
        escaped keepsInPath [c] ++ escaped keepsInPath cs := escaped_append keepsInPath [c] cs
    by_cases hc : c = '/'
    · subst hc
      refine ⟨[], piece :: pieces, ?_, ?_⟩
      · rw [Text.splitAt, if_pos rfl, hcs]
      · rw [hcons, htext, List.map_cons, Path.text_cons, String.append_assoc]
        rfl
    · refine ⟨c :: piece, pieces, ?_, ?_⟩
      · rw [Text.splitAt, if_neg hc, hcs]
      · rw [hcons, htext, ← String.append_assoc, ← escaped_append]
        rfl

theorem dotless_segments (h : Dotless cs) :
    ∀ segment ∈ (Text.splitAt '/' cs).map (escaped keepsInPath),
      isSelf segment = false ∧ isParent segment = false := by
  intro segment hsegment
  obtain ⟨piece, hpiece, rfl⟩ := List.mem_map.1 hsegment
  exact h piece hpiece

/-- **Without dots a path is its own text.** -/
theorem text_pathOf (hdots : Dotless cs) (hback : '\\' ∉ cs) :
    (pathOf .web ('/' :: cs)).text = escaped keepsInPath ('/' :: cs) := by
  change Path.text (.segments (pathSegments .web cs)) = _
  rw [pathSegments_eq, slashed_of_not_mem hback, addSegments_plain (dotless_segments hdots),
    List.nil_append, Path.text_splitAt]
  exact (escaped_append keepsInPath ['/'] cs).symm

/-- So is its directory. -/
theorem text_directory (hdots : Dotless cs) (hback : '\\' ∉ cs) :
    Path.text (.segments (directory ('/' :: cs))) = escaped keepsInPath ('/' :: cs) := by
  rw [directory, slashed_of_not_mem hback, walk_plain (dotless_segments hdots), List.nil_append,
    Path.text_splitAt]
  exact (escaped_append keepsInPath ['/'] cs).symm

/-! ## Paths in addresses -/

theorem withPath_eq {u : Url} {k : SchemeKind} (h : ∀ c ∈ cs, endsPath c = false) :
    u.withPath k cs = { u with path := pathOf k cs, query := none, fragment := none } := by
  have hpath (c : Char) (hc : c ∈ cs) : (!endsPath c) = true := by rw [h c hc, Bool.not_false]
  rw [withPath, List.dropWhile_eq_nil_iff.2 hpath, List.takeWhile_eq_self_iff.2 hpath]
  rfl

/-- **A segment behind a path goes into its directory.** -/
theorem withPath_append {u : Url} {behind seg : List Char} (hbehind : Ended behind)
    (hfree : ∀ c ∈ behind, endsPath c = false) (hseg : ∀ c ∈ seg, endsAuthority .web c = false) :
    u.withPath .web (behind ++ '/' :: seg) =
      { u with
        path := .segments (addSegment (directory behind) (escaped keepsInPath seg) true)
        query := none
        fragment := none } := by
  have hslash : '/' ∉ seg := fun hc => Bool.noConfusion (hseg _ hc)
  have hback : '\\' ∉ seg := fun hc => Bool.noConfusion (hseg _ hc)
  have hall : ∀ c ∈ behind ++ '/' :: seg, endsPath c = false :=
    List.forall_mem_append.2 ⟨hfree, List.forall_mem_cons.2
      ⟨rfl, fun c hc => endsPath_of_endsAuthority (hseg c hc)⟩⟩
  rw [withPath_eq hall, pathOf_append hbehind hfree hslash hback]

/-- **Behind the sign of a query or a fragment nothing is path.** -/
theorem path_withPath_append {u : Url} {k : SchemeKind} {behind : List Char}
    (hsign : ∃ c ∈ behind, endsPath c = true) (more : List Char) :
    (u.withPath k (behind ++ more)).path = pathOf k (behind.takeWhile fun c => !endsPath c) := by
  obtain ⟨c, hc, hends⟩ := hsign
  have hshort : (behind.takeWhile fun c => !endsPath c).length ≠ behind.length := by
    intro hlength
    have hall := (List.takeWhile_prefix _).eq_of_length hlength
    have hpath := List.takeWhile_eq_self_iff.1 hall c hc
    rw [hends] at hpath
    cases hpath
  rw [withPath, List.takeWhile_append, if_neg hshort]

/-- **Without a query and a fragment all is path.** -/
theorem of_withPath {u : Url} {k : SchemeKind} (hquery : (u.withPath k cs).query = none)
    (hfragment : (u.withPath k cs).fragment = none) : ∀ c ∈ cs, endsPath c = false := by
  change (takeTail k (cs.dropWhile fun c => !endsPath c)).1 = none at hquery
  change (takeTail k (cs.dropWhile fun c => !endsPath c)).2 = none at hfragment
  have hhead := Span.head?_dropWhile (fun c => !endsPath c) cs
  cases hrest : cs.dropWhile (fun c => !endsPath c) with
  | nil =>
    intro c hc
    simpa using List.dropWhile_eq_nil_iff.1 hrest c hc
  | cons c rest =>
    rw [hrest] at hquery hfragment hhead
    have hc : endsPath c = true := by simpa using hhead c rfl
    rcases endsPath_iff.1 hc with rfl | rfl
    · cases hquery
    · cases hfragment

end Url

end RegistryProxy
