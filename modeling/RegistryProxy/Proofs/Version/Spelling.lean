import RegistryProxy.Error
import RegistryProxy.Proofs.Text.Span
import RegistryProxy.Version.Parser

/-!
# Proofs/Version/Spelling — the texts that spell a version

`Spells` is the grammar of a version: three numbers, a prerelease with its hyphen or without, build
metadata.  Each reader takes the part that the grammar allows and leaves what is behind it
(`takeNumber_eq_ok_iff`, `takeBuild_eq_ok_iff`, `prereleaseOf_eq_ok_iff`).  A version begins with a
digit and has no blank in it, so what stands around it is told apart from it, and the texts that are
read are those of the grammar and no others (`parse_eq_ok_iff`).
-/

namespace RegistryProxy.Version

/-! ## The grammar -/

/-- Letters, digits and hyphens, at least one. -/
structure Identifier (cs : List Char) : Prop where
  /-- It is not empty. -/
  ne_nil : cs ≠ []
  /-- Nothing else stands in it. -/
  chars : ∀ c ∈ cs, c.isAlphanum = true ∨ c = '-'

/-- Identifiers separated by points, at least one. -/
def Identifiers (cs : List Char) : Prop :=
  ∃ parts : List (List Char), parts ≠ [] ∧ (∀ part ∈ parts, Identifier part) ∧
    cs = ['.'].intercalate parts

/-- A number of 64 bits in digits. -/
structure Number (cs : List Char) (n : Nat) : Prop where
  /-- There is a digit. -/
  ne_nil : cs ≠ []
  /-- There are only digits. -/
  digits : ∀ c ∈ cs, c.isDigit = true
  /-- What they are worth. -/
  value : Nat.ofDigitChars 10 cs 0 = n
  /-- It has 64 bits. -/
  bound : n < 0x10000000000000000

/-- A text does not begin with a digit. -/
def NoDigit (cs : List Char) : Prop := ∀ c ∈ cs.head?, c.isDigit = false

/-- What may follow the three numbers: nothing, or identifiers with one hyphen in front or none. -/
inductive Prerelease : List Char → Option String → Prop
  | none : Prerelease [] none
  | hyphen {cs : List Char} (identifiers : Identifiers cs) :
    Prerelease ('-' :: cs) (some (String.ofList cs))
  | bare {cs : List Char} (identifiers : Identifiers cs) (head : cs.head? ≠ some '-') :
    Prerelease cs (some (String.ofList cs))

/-- What may follow the prerelease: nothing, or identifiers behind a plus. -/
inductive Build : List Char → Option String → Prop
  | none : Build [] none
  | plus {cs : List Char} (identifiers : Identifiers cs) :
    Build ('+' :: cs) (some (String.ofList cs))

/-- **The grammar of a version.**  The digits of the last number go on for as long as they can. -/
def Spells (cs : List Char) (v : Version) : Prop :=
  ∃ major minor patch pre build : List Char,
    cs = (major ++ '.' :: (minor ++ '.' :: (patch ++ pre))) ++ build ∧
      Number major v.major ∧ Number minor v.minor ∧ Number patch v.patch ∧ NoDigit pre ∧
      Prerelease pre v.prerelease ∧ Build build v.build

/-- A version with what may stand around it: `v`, `=` and blanks in front, blanks behind. -/
def LooselySpells (cs : List Char) (v : Version) : Prop :=
  ∃ lead body trail : List Char, cs = lead ++ body ++ trail ∧
    (∀ c ∈ lead, c = 'v' ∨ c = '=' ∨ Text.isBlank c = true) ∧
    (∀ c ∈ trail, Text.isBlank c = true) ∧ Spells body v

/-! ## The characters of a version -/

variable {c : Char} {cs rest : List Char} {input : String} {n : Nat} {v : Version}

/-- A character that the grammar has a place for. -/
def Belongs (c : Char) : Prop := c.isAlphanum = true ∨ c = '-' ∨ c = '.' ∨ c = '+'

/-- What has a place in a version is no blank. -/
theorem isBlank_of_belongs (h : Belongs c) : Text.isBlank c = false := by
  rcases h with h | rfl | rfl | rfl
  · exact Text.isBlank_of_isAlphanum h
  all_goals decide

/-- No digit is passed over in front of a version. -/
theorem isLead_of_isDigit (h : c.isDigit = true) : isLead c = false := by
  have hblank : Text.isBlank c = false :=
    isBlank_of_belongs (.inl (by simp [Char.isAlphanum, h]))
  have hv : c ≠ 'v' := by rintro rfl; exact absurd h (by decide)
  have heq : c ≠ '=' := by rintro rfl; exact absurd h (by decide)
  simp [isLead, hblank, hv, heq]

theorem isLead_iff : isLead c = true ↔ c = 'v' ∨ c = '=' ∨ Text.isBlank c = true := by
  simp [isLead, or_assoc]

/-- A number has only characters of a version. -/
theorem Number.belongs (h : Number cs n) : ∀ c ∈ cs, Belongs c :=
  fun c hc => .inl (by simp [Char.isAlphanum, h.digits c hc])

/-- What stands in joined parts is their separator or stands in a part. -/
theorem mem_intercalate {sep : Char} : ∀ {parts : List (List Char)},
    c ∈ [sep].intercalate parts → c = sep ∨ ∃ part ∈ parts, c ∈ part
  | [], h => by simp at h
  | [part], h => .inr ⟨part, by simp, by simpa using h⟩
  | part :: part' :: parts, h => by
    rw [List.intercalate_cons_cons, List.mem_append, List.mem_append, List.mem_singleton] at h
    rcases h with (h | h) | h
    · exact .inr ⟨part, by simp, h⟩
    · exact .inl h
    · exact (mem_intercalate h).imp_right fun ⟨part'', hpart, hc⟩ =>
        ⟨part'', List.mem_cons_of_mem _ hpart, hc⟩

/-- Identifiers have only characters of a version. -/
theorem Identifiers.belongs (h : Identifiers cs) : ∀ c ∈ cs, Belongs c := by
  obtain ⟨parts, -, hparts, rfl⟩ := h
  intro c hc
  rcases mem_intercalate hc with rfl | ⟨part, hpart, hc⟩
  · exact .inr (.inr (.inl rfl))
  · exact ((hparts part hpart).chars c hc).imp_right .inl

/-- No plus stands in identifiers, so the first plus begins the build metadata. -/
theorem Identifiers.ne_plus (h : Identifiers cs) : '+' ∉ cs := by
  obtain ⟨parts, -, hparts, rfl⟩ := h
  intro hmem
  rcases mem_intercalate hmem with heq | ⟨part, hpart, hc⟩
  · exact absurd heq (by decide)
  · exact absurd ((hparts part hpart).chars '+' hc) (by decide)

theorem Prerelease.belongs {pre : Option String} (h : Prerelease cs pre) :
    ∀ c ∈ cs, Belongs c := by
  cases h with
  | none => simp
  | hyphen hids => exact List.forall_mem_cons.2 ⟨.inr (.inl rfl), hids.belongs⟩
  | bare hids => exact hids.belongs

theorem Prerelease.ne_plus {pre : Option String} (h : Prerelease cs pre) : '+' ∉ cs := by
  cases h with
  | none => simp
  | hyphen hids => simpa using hids.ne_plus
  | bare hids => exact hids.ne_plus

/-- A prerelease is kept without its hyphen. -/
theorem Prerelease.identifiers {p : String} (h : Prerelease cs (some p)) :
    Identifiers p.toList := by
  cases h with
  | hyphen hids | bare hids => rwa [String.toList_ofList]

theorem Build.belongs {build : Option String} (h : Build cs build) : ∀ c ∈ cs, Belongs c := by
  cases h with
  | none => simp
  | plus hids => exact List.forall_mem_cons.2 ⟨.inr (.inr (.inr rfl)), hids.belongs⟩

/-- **There is no blank in a version.** -/
theorem Spells.belongs (h : Spells cs v) : ∀ c ∈ cs, Belongs c := by
  obtain ⟨major, minor, patch, pre, build, rfl, hmajor, hminor, hpatch, -, hpre, hbuild⟩ := h
  have hpoint : Belongs '.' := .inr (.inr (.inl rfl))
  simp only [List.forall_mem_append, List.forall_mem_cons]
  exact ⟨⟨hmajor.belongs, hpoint, hminor.belongs, hpoint, hpatch.belongs, hpre.belongs⟩,
    hbuild.belongs⟩

/-- A version begins with a digit. -/
theorem Spells.exists_digit (h : Spells cs v) : ∃ c rest, cs = c :: rest ∧ c.isDigit = true := by
  obtain ⟨major, minor, patch, pre, build, rfl, hmajor, -⟩ := h
  obtain ⟨c, major, rfl⟩ := List.exists_cons_of_ne_nil hmajor.ne_nil
  exact ⟨c, _, rfl, hmajor.digits c List.mem_cons_self⟩

/-! ## The readers of the parts -/

theorem isIdentifierChar_iff : isIdentifierChar c = true ↔ c.isAlphanum = true ∨ c = '-' := by
  simp [isIdentifierChar]

/-- The identifiers are what stands between the points. -/
theorem identifiers_iff : Identifiers cs ↔ ∀ part ∈ Text.splitAt '.' cs, Identifier part := by
  rw [Text.splitAt_eq_splitOn]
  constructor
  · rintro ⟨parts, hne, hparts, rfl⟩
    have hpoint : ∀ part ∈ parts, '.' ∉ part := fun part hpart hmem =>
      absurd ((hparts part hpart).chars '.' hmem) (by decide)
    rwa [List.splitOn_intercalate '.' hpoint hne]
  · intro h
    exact ⟨cs.splitOn '.', List.splitOn_ne_nil _ _, h, (List.intercalate_splitOn '.').symm⟩

/-- The check of identifiers is that of the grammar. -/
theorem areIdentifiers_iff : areIdentifiers cs = true ↔ Identifiers cs := by
  have hpart (part : List Char) :
      (!part.isEmpty && part.all isIdentifierChar) = true ↔ Identifier part := by
    simp only [Bool.and_eq_true, Bool.not_eq_true', List.isEmpty_eq_false_iff, List.all_eq_true,
      isIdentifierChar_iff]
    exact ⟨fun h => ⟨h.1, h.2⟩, fun h => ⟨h.ne_nil, h.chars⟩⟩
  simp only [areIdentifiers, List.all_eq_true, hpart, identifiers_iff]

/-- **A number is read up to where its digits end.** -/
theorem takeNumber_eq_ok_iff : takeNumber input cs = .ok (n, rest) ↔
    ∃ digits, cs = digits ++ rest ∧ Number digits n ∧ NoDigit rest := by
  constructor
  · intro h
    simp only [takeNumber, Decimal.digitsValue_eq] at h
    split at h
    · cases h
    next hne =>
    split at h
    next hbound =>
      cases h
      have hnumber : Number (cs.takeWhile Char.isDigit) _ := {
        ne_nil := by simpa using hne
        digits := List.all_eq_true.1 List.all_takeWhile
        value := rfl
        bound := hbound }
      exact ⟨_, List.takeWhile_append_dropWhile.symm, hnumber,
        Span.head?_dropWhile Char.isDigit cs⟩
    · cases h
  · rintro ⟨digits, rfl, hdigits, hrest⟩
    have htake := Span.takeWhile_append hdigits.digits hrest
    have hdrop := Span.dropWhile_append hdigits.digits hrest
    have hempty : digits.isEmpty = false := by simpa using hdigits.ne_nil
    simp only [takeNumber, Decimal.digitsValue_eq, htake, hdrop, hempty, hdigits.value,
      if_pos hdigits.bound]
    rfl

/-- A point is taken, and nothing else. -/
theorem takePoint_eq_ok_iff : takePoint input cs = .ok rest ↔ cs = '.' :: rest := by
  constructor
  · intro h
    unfold takePoint at h
    split at h <;> cases h
    rfl
  · rintro rfl
    rfl

/-- **Build metadata is what stands behind the first plus.** -/
theorem takeBuild_eq_ok_iff {release : List Char} {build : Option String} :
    takeBuild cs = .ok (release, build) ↔
      ∃ tail, cs = release ++ tail ∧ '+' ∉ release ∧ Build tail build := by
  constructor
  · intro h
    rw [takeBuild] at h
    split at h
    next hcut =>
      cases h
      exact ⟨[], (List.append_nil _).symm, Text.cutAt_eq_none_iff.1 hcut, .none⟩
    next before after hcut =>
      obtain ⟨rfl, hbefore⟩ := Text.cutAt_eq_some_iff.1 hcut
      split at h
      next hids =>
        cases h
        exact ⟨_, rfl, hbefore, .plus (areIdentifiers_iff.1 hids)⟩
      · cases h
  · rintro ⟨tail, rfl, hrelease, htail⟩
    cases htail with
    | none => rw [takeBuild, List.append_nil, Text.cutAt_eq_none_iff.2 hrelease]
    | plus hids =>
      simp only [takeBuild, Text.cutAt_append hrelease, areIdentifiers_iff.2 hids, if_true]

theorem prereleaseOf_hyphen : prereleaseOf ('-' :: cs) =
    if areIdentifiers cs then .ok (some (String.ofList cs))
    else .error (.prerelease (String.ofList ('-' :: cs))) := rfl

theorem prereleaseOf_cons_of_ne (hne : c ≠ '-') : prereleaseOf (c :: cs) =
    if areIdentifiers (c :: cs) then .ok (some (String.ofList (c :: cs)))
    else .error (.prerelease (String.ofList (c :: cs))) := by
  unfold prereleaseOf
  split
  · next rest heq => exact absurd (List.cons.inj heq).1 hne
  · rfl

/-- **One hyphen in front is no part of the prerelease.** -/
theorem prereleaseOf_eq_ok_iff {pre : Option String} :
    prereleaseOf cs = .ok pre ↔ Prerelease cs pre := by
  constructor
  · intro h
    cases cs with
    | nil =>
      cases h
      exact .none
    | cons c cs =>
      by_cases hc : c = '-'
      · subst hc
        rw [prereleaseOf_hyphen] at h
        split at h
        next hids =>
          cases h
          exact .hyphen (areIdentifiers_iff.1 hids)
        · cases h
      · rw [prereleaseOf_cons_of_ne hc] at h
        split at h
        next hids =>
          cases h
          exact .bare (areIdentifiers_iff.1 hids) (by simpa using hc)
        · cases h
  · intro h
    cases h with
    | none => rfl
    | hyphen hids => exact if_pos (areIdentifiers_iff.2 hids)
    | bare hids hhead =>
      cases cs with
      | nil => cases areIdentifiers_iff.2 hids
      | cons c cs =>
        rw [prereleaseOf_cons_of_ne (by simpa using hhead)]
        exact if_pos (areIdentifiers_iff.2 hids)

/-! ## The whole text -/

/-- The part of a text that has to spell the version. -/
def body (s : String) : List Char := (Text.trim s.toList).dropWhile isLead

/-- Around the part that is read there is only what may stand around a version. -/
theorem exists_body (s : String) : ∃ lead trail, s.toList = lead ++ body s ++ trail ∧
    (∀ c ∈ lead, isLead c = true) ∧ (∀ c ∈ trail, Text.isBlank c = true) := by
  obtain ⟨blanks, trail, htext, hblanks, htrail⟩ := Text.exists_trim s.toList
  refine ⟨blanks ++ (Text.trim s.toList).takeWhile isLead, trail, ?_, ?_, htrail⟩
  · rw [body, List.append_assoc blanks, List.takeWhile_append_dropWhile]
    exact htext
  · refine List.forall_mem_append.2 ⟨fun c hc => ?_, List.all_eq_true.1 List.all_takeWhile⟩
    exact isLead_iff.2 (.inr (.inr (hblanks c hc)))

/-- **What stands around a version is told apart from it.** -/
theorem body_eq {s : String} {lead trail : List Char} (htext : s.toList = lead ++ cs ++ trail)
    (hlead : ∀ c ∈ lead, isLead c = true) (htrail : ∀ c ∈ trail, Text.isBlank c = true)
    (hspells : Spells cs v) : body s = cs := by
  obtain ⟨c, rest, hcs, hdigit⟩ := hspells.exists_digit
  have hlast : ∀ d ∈ (lead.dropWhile Text.isBlank ++ cs).getLast?, Text.isBlank d = false := by
    intro d hd
    have hd' : d ∈ cs.getLast? := by
      rw [List.getLast?_append, hcs] at hd
      rw [hcs]
      simpa using hd
    exact isBlank_of_belongs (hspells.belongs d (List.mem_of_getLast? hd'))
  have hstart : (lead ++ (cs ++ trail)).dropWhile Text.isBlank =
      (lead.dropWhile Text.isBlank ++ cs) ++ trail := by
    have hcs' : (cs ++ trail).dropWhile Text.isBlank = cs ++ trail := by
      rw [hcs, List.cons_append, List.dropWhile_cons_of_neg]
      simpa using isBlank_of_belongs (hspells.belongs c (hcs ▸ List.mem_cons_self))
    rw [List.dropWhile_append, hcs']
    split
    next hempty => rw [List.isEmpty_iff.1 hempty, List.nil_append]
    · rw [List.append_assoc]
  have htrim : Text.trim s.toList = lead.dropWhile Text.isBlank ++ cs := by
    rw [Text.trim, Text.trimStart, htext, List.append_assoc, hstart,
      Text.trimEnd_append hlast htrail]
  have hlead' : ∀ c ∈ lead.dropWhile Text.isBlank, isLead c = true :=
    fun c hc => hlead c ((List.dropWhile_sublist _).subset hc)
  rw [body, htrim, List.dropWhile_append_of_pos hlead', hcs,
    List.dropWhile_cons_of_neg (by simp [isLead_of_isDigit hdigit])]

/-- **A version that is read is spelled by the text**, part by part. -/
theorem spells_of_parse {s : String} (h : parse s = .ok v) : Spells (body s) v := by
  obtain ⟨⟨release, build⟩, hbuild, h⟩ := exists_of_bind_eq_ok h
  obtain ⟨⟨major, rest₁⟩, hmajor, h⟩ := exists_of_bind_eq_ok h
  obtain ⟨rest₂, hpoint, h⟩ := exists_of_bind_eq_ok h
  obtain ⟨⟨minor, rest₃⟩, hminor, h⟩ := exists_of_bind_eq_ok h
  obtain ⟨rest₄, hpoint', h⟩ := exists_of_bind_eq_ok h
  obtain ⟨⟨patch, pre⟩, hpatch, h⟩ := exists_of_bind_eq_ok h
  obtain ⟨prerelease, hpre, h⟩ := exists_of_bind_eq_ok h
  cases h
  obtain ⟨tail, hbody, -, hbuild'⟩ := takeBuild_eq_ok_iff.1 hbuild
  obtain ⟨majorDigits, rfl, hmajor', -⟩ := takeNumber_eq_ok_iff.1 hmajor
  obtain rfl := takePoint_eq_ok_iff.1 hpoint
  obtain ⟨minorDigits, rfl, hminor', -⟩ := takeNumber_eq_ok_iff.1 hminor
  obtain rfl := takePoint_eq_ok_iff.1 hpoint'
  obtain ⟨patchDigits, rfl, hpatch', hend⟩ := takeNumber_eq_ok_iff.1 hpatch
  exact ⟨majorDigits, minorDigits, patchDigits, pre, tail, hbody, hmajor', hminor', hpatch', hend,
    prereleaseOf_eq_ok_iff.1 hpre, hbuild'⟩

/-- **A text that spells a version is read.** -/
theorem parse_of_spells {s : String} (h : Spells (body s) v) : parse s = .ok v := by
  obtain ⟨major, minor, patch, pre, build, hbody, hmajor, hminor, hpatch, hend, hpre, hbuild⟩ := h
  have hpoint (cs : List Char) : NoDigit ('.' :: cs) := by
    rintro _ ⟨⟩
    rfl
  have hplus : '+' ∉ major ++ '.' :: (minor ++ '.' :: (patch ++ pre)) := by
    have hnumber {cs : List Char} {n : Nat} (h : Number cs n) : '+' ∉ cs :=
      fun hmem => absurd (h.digits '+' hmem) (by decide)
    simp [hnumber hmajor, hnumber hminor, hnumber hpatch, hpre.ne_plus]
  have hbuild' := takeBuild_eq_ok_iff.2 ⟨build, hbody, hplus, hbuild⟩
  have hmajor' (input : String) :
      takeNumber input (major ++ '.' :: (minor ++ '.' :: (patch ++ pre))) =
        .ok (v.major, '.' :: (minor ++ '.' :: (patch ++ pre))) :=
    takeNumber_eq_ok_iff.2 ⟨major, rfl, hmajor, hpoint _⟩
  have hminor' (input : String) :
      takeNumber input (minor ++ '.' :: (patch ++ pre)) = .ok (v.minor, '.' :: (patch ++ pre)) :=
    takeNumber_eq_ok_iff.2 ⟨minor, rfl, hminor, hpoint _⟩
  have hpatch' (input : String) : takeNumber input (patch ++ pre) = .ok (v.patch, pre) :=
    takeNumber_eq_ok_iff.2 ⟨patch, rfl, hpatch, hend⟩
  rw [body] at hbuild'
  simp only [parse, hbuild', hmajor', hminor', hpatch', prereleaseOf_eq_ok_iff.2 hpre, takePoint,
    bind, Except.bind]
  rfl

/-- **The parser accepts exactly its grammar.**  A text is read as a version if and only if the text
spells it, with `v`, `=` and blanks in front and blanks behind at most; every text that spells no
version is refused. -/
theorem parse_eq_ok_iff (s : String) :
    (∀ v, parse s = .ok v ↔ LooselySpells s.toList v) ∧
      ((∃ e, parse s = .error e) ↔ ∀ v, ¬ LooselySpells s.toList v) := by
  have hread (v : Version) : parse s = .ok v ↔ LooselySpells s.toList v := by
    constructor
    · intro h
      obtain ⟨lead, trail, htext, hlead, htrail⟩ := exists_body s
      exact ⟨lead, body s, trail, htext, fun c hc => isLead_iff.1 (hlead c hc), htrail,
        spells_of_parse h⟩
    · rintro ⟨lead, cs, trail, htext, hlead, htrail, hspells⟩
      have hbody := body_eq htext (fun c hc => isLead_iff.2 (hlead c hc)) htrail hspells
      exact parse_of_spells (hbody ▸ hspells)
  refine ⟨hread, ?_⟩
  simp only [← hread]
  cases parse s <;> simp

end RegistryProxy.Version
