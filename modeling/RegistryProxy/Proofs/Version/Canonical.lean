import RegistryProxy.Proofs.Version.Spelling

/-!
# Proofs/Version/Canonical — one spelling for every version

A version that some text spells has numbers of 64 bits and identifiers that the grammar allows
(`Spellable`).  Its own text spells it as well: each part is read up to where the next one was
written, a prerelease because exactly one hyphen is put in front of it (`Spellable.spells`).  So the
texts of one version have one canonical spelling, and to read that and write it again changes
nothing (`canonical_in_one_step`).
-/

namespace RegistryProxy.Version

variable {s t : String} {v : Version} {n : Nat} {cs : List Char} {part : Option String}

/-! ## What can be spelled -/

/-- **What a version has that some text spells.** -/
structure Spellable (v : Version) : Prop where
  /-- Its numbers have 64 bits. -/
  numbers : ∀ n ∈ [v.major, v.minor, v.patch], n < 0x10000000000000000
  /-- Its prerelease is a list of identifiers. -/
  prerelease : ∀ p ∈ v.prerelease, Identifiers p.toList
  /-- Its build metadata is a list of identifiers. -/
  build : ∀ b ∈ v.build, Identifiers b.toList

theorem Build.identifiers {b : String} (h : Build cs (some b)) : Identifiers b.toList := by
  cases h with
  | plus hids => rwa [String.toList_ofList]

theorem Spells.spellable (h : Spells cs v) : Spellable v := by
  obtain ⟨_, _, _, _, _, -, hmajor, hminor, hpatch, -, hpre, hbuild⟩ := h
  exact {
    numbers := by simp [hmajor.bound, hminor.bound, hpatch.bound]
    prerelease := fun p hp => (hp ▸ hpre).identifiers
    build := fun b hb => (hb ▸ hbuild).identifiers }

/-! ## What is written -/

/-- What is written of a part that may be missing. -/
def marked (mark : Char) : Option String → List Char
  | none => []
  | some part => mark :: part.toList

/-- **The text of a version, part by part.** -/
theorem toList_text (v : Version) : v.text.toList =
    (Nat.toDigits 10 v.major ++ '.' :: (Nat.toDigits 10 v.minor ++ '.' ::
      (Nat.toDigits 10 v.patch ++ marked '-' v.prerelease))) ++ marked '+' v.build := by
  obtain ⟨_, _, _, pre, build⟩ := v
  cases pre <;> cases build <;> simp [text, marked, Nat.toList_repr]

theorem number_toDigits (h : n < 0x10000000000000000) : Number (Nat.toDigits 10 n) n where
  ne_nil := Nat.toDigits_ne_nil
  digits _ hc := Nat.isDigit_of_mem_toDigits (by decide) (by decide) hc
  value := Nat.ofDigitChars_ten_toDigits
  bound := h

theorem prerelease_marked (h : ∀ p ∈ part, Identifiers p.toList) :
    Prerelease (marked '-' part) part := by
  cases part with
  | none => exact .none
  | some p => simpa [marked] using Prerelease.hyphen (h p rfl)

theorem build_marked (h : ∀ b ∈ part, Identifiers b.toList) : Build (marked '+' part) part := by
  cases part with
  | none => exact .none
  | some b => simpa [marked] using Build.plus (h b rfl)

/-- The last number ends where a prerelease begins. -/
theorem noDigit_marked (part : Option String) : NoDigit (marked '-' part) := by
  cases part with
  | none => rintro _ ⟨⟩
  | some p =>
    rintro _ ⟨⟩
    rfl

/-- **The text of a version spells it**, if any text does. -/
theorem Spellable.spells (h : Spellable v) : Spells v.text.toList v := by
  obtain ⟨hmajor, hminor, hpatch⟩ : v.major < _ ∧ v.minor < _ ∧ v.patch < _ := by
    simpa using h.numbers
  exact ⟨_, _, _, _, _, toList_text v, number_toDigits hmajor, number_toDigits hminor,
    number_toDigits hpatch, noDigit_marked _, prerelease_marked h.prerelease, build_marked h.build⟩

/-! ## The canonical spelling -/

/-- The canonical spelling of the version that a text spells. -/
def canonical? (s : String) : Option String := (parse? s).map text

theorem parse?_eq_some_iff : parse? s = some v ↔ parse s = .ok v := by
  rw [parse?]
  cases parse s <;> simp [Except.toOption]

/-- **A version is read from its own text if and only if it is spellable.** -/
theorem parse_text_eq_ok_iff : parse v.text = .ok v ↔ Spellable v := by
  constructor
  · exact fun h => (spells_of_parse h).spellable
  · intro h
    -- Nothing stands around the version in its own text.
    have hbody : body v.text = v.text.toList :=
      body_eq (List.append_nil _).symm (List.forall_mem_nil _) (List.forall_mem_nil _) h.spells
    exact parse_of_spells (hbody ▸ h.spells)

theorem canonical?_eq_some_iff (h : parse s = .ok v) :
    canonical? t = some v.text ↔ parse t = .ok v := by
  rw [canonical?, Option.map_eq_some_iff]
  constructor
  · rintro ⟨w, hw, htext⟩
    have hw := parse?_eq_some_iff.1 hw
    -- Both versions are read from the one text.
    have hv' := parse_text_eq_ok_iff.2 (spells_of_parse h).spellable
    have hw' := parse_text_eq_ok_iff.2 (spells_of_parse hw).spellable
    rw [htext, hv'] at hw'
    rwa [Except.ok.inj hw']
  · exact fun ht => ⟨v, parse?_eq_some_iff.2 ht, rfl⟩

/-- **Loose spellings become canonical in one step.**  The text of a version that was read is read
as the same version, so that to write it once more changes nothing; and the texts that have this
canonical spelling are those that spell the version, in all its parts, and no others. -/
theorem canonical_in_one_step (h : parse s = .ok v) :
    parse v.text = .ok v ∧ canonical? s = some v.text ∧ canonical? v.text = some v.text ∧
      ∀ t, canonical? t = some v.text ↔ parse t = .ok v := by
  have htext := parse_text_eq_ok_iff.2 (spells_of_parse h).spellable
  exact ⟨htext, (canonical?_eq_some_iff h).2 h, (canonical?_eq_some_iff h).2 htext,
    fun _ => canonical?_eq_some_iff h⟩

/-- Zeros, the greatest number, a prerelease of digits with a hyphen of its own. -/
theorem canonical_in_one_step_hyphens :
    ∃ v, parse " v=01.002.18446744073709551615--07.x+0-0 " = .ok v ∧
      v.text = "1.2.18446744073709551615--07.x+0-0" ∧ v.prerelease = some "-07.x" ∧
      parse v.text = .ok v ∧ canonical? v.text = some v.text := by
  have h : parse " v=01.002.18446744073709551615--07.x+0-0 " =
      .ok ⟨1, 2, 18446744073709551615, some "-07.x", some "0-0"⟩ := rfl
  obtain ⟨htext, -, hcanonical, -⟩ := canonical_in_one_step h
  exact ⟨_, h, by decide +kernel, rfl, htext, hcanonical⟩

end RegistryProxy.Version
