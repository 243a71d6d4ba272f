/-!
# Text/Blank — the blank characters, and the two ways they separate text

A character is blank when it has the Unicode property `White_Space`.  `trim` drops blanks at both
ends and `words` cuts at every run of blanks; both look at single characters only, so they are
stated over `List Char`, with `String` forms at the end.
-/

namespace RegistryProxy.Text

/-- The characters with the Unicode property `White_Space`. -/
def isBlank (c : Char) : Bool :=
  let n := c.toNat
  (9 ≤ n && n ≤ 13) || n == 0x20 || n == 0x85 || n == 0xa0 || n == 0x1680 ||
    (0x2000 ≤ n && n ≤ 0x200a) || n == 0x2028 || n == 0x2029 || n == 0x202f || n == 0x205f ||
    n == 0x3000

/-- Letters and digits lie between the first digit and the last small letter. -/
theorem bounds_of_isAlphanum {c : Char} (h : c.isAlphanum = true) :
    48 ≤ c.toNat ∧ c.toNat ≤ 122 := by
  delta Char.isAlphanum Char.isAlpha Char.isUpper Char.isLower Char.isDigit at h
  simp only [Bool.or_eq_true, Bool.and_eq_true, decide_eq_true_eq, ge_iff_le,
    UInt32.le_iff_toNat_le, Char.toNat_val, Char.reduceToNat] at h
  omega

/-- A letter or digit is no blank. -/
theorem isBlank_of_isAlphanum {c : Char} (h : c.isAlphanum = true) : isBlank c = false := by
  have hbounds := bounds_of_isAlphanum h
  simp only [isBlank, Bool.or_eq_false_iff, Bool.and_eq_false_imp, decide_eq_true_eq,
    decide_eq_false_iff_not, Nat.not_le, beq_eq_false_iff_ne]
  omega

/-- `cs` without its leading blanks. -/
def trimStart (cs : List Char) : List Char := cs.dropWhile isBlank

/-- `cs` without its trailing blanks. -/
def trimEnd (cs : List Char) : List Char := (cs.reverse.dropWhile isBlank).reverse

/-- `cs` without the blanks at either end. -/
def trim (cs : List Char) : List Char := trimEnd (trimStart cs)

/-- What is trimmed away is blank. -/
theorem exists_trim (cs : List Char) : ∃ lead trail, cs = lead ++ trim cs ++ trail ∧
    (∀ c ∈ lead, isBlank c = true) ∧ (∀ c ∈ trail, isBlank c = true) := by
  have hall (l : List Char) : ∀ c ∈ l.takeWhile isBlank, isBlank c = true :=
    List.all_eq_true.1 List.all_takeWhile
  refine ⟨cs.takeWhile isBlank, ((trimStart cs).reverse.takeWhile isBlank).reverse, ?_, hall _,
    fun c hc => hall _ c (List.mem_reverse.1 hc)⟩
  have hend : trimEnd (trimStart cs) ++ ((trimStart cs).reverse.takeWhile isBlank).reverse =
      trimStart cs := by
    rw [trimEnd, ← List.reverse_append, List.takeWhile_append_dropWhile, List.reverse_reverse]
  rw [trim, List.append_assoc, hend]
  exact List.takeWhile_append_dropWhile.symm

/-- Blanks at the end are trimmed away, up to a character that is none. -/
theorem trimEnd_append {cs trail : List Char} (hcs : ∀ c ∈ cs.getLast?, isBlank c = false)
    (htrail : ∀ c ∈ trail, isBlank c = true) : trimEnd (cs ++ trail) = cs := by
  have hrev : ∀ c ∈ trail.reverse, isBlank c = true := fun c hc => htrail c (List.mem_reverse.1 hc)
  rw [trimEnd, List.reverse_append, List.dropWhile_append_of_pos hrev]
  rw [← List.head?_reverse] at hcs
  cases h : cs.reverse with
  | nil => simpa using h.symm
  | cons c rest =>
    rw [h] at hcs
    rw [List.dropWhile_cons_of_neg (by simp [hcs c rfl]), ← h, List.reverse_reverse]

/-- The maximal runs of characters that are not blank, in order. -/
def words : List Char → List (List Char)
  | [] => []
  | c :: cs =>
    if isBlank c then words cs
    else
      match cs with
      | [] => [[c]]
      | d :: _ =>
        if isBlank d then [c] :: words cs
        else
          match words cs with
          | [] => [[c]]
          | w :: ws => (c :: w) :: ws

/-- The pieces of `cs` between the separators `sep`; there is always one. -/
def splitAt (sep : Char) : List Char → List (List Char)
  | [] => [[]]
  | c :: cs =>
    if c = sep then [] :: splitAt sep cs
    else
      match splitAt sep cs with
      | [] => [[c]]
      | w :: ws => (c :: w) :: ws

theorem splitAt_ne_nil (sep : Char) (cs : List Char) : splitAt sep cs ≠ [] := by
  cases cs with
  | nil => simp [splitAt]
  | cons c cs =>
    rw [splitAt]
    split
    · simp
    · split <;> simp

/-- The pieces are those that the standard library makes. -/
theorem splitAt_eq_splitOn (sep : Char) (cs : List Char) : splitAt sep cs = cs.splitOn sep := by
  induction cs with
  | nil => simp [splitAt]
  | cons c cs ih =>
    simp only [splitAt, List.splitOn_cons_eq_if_modifyHead, ih, beq_iff_eq]
    split
    · rfl
    · cases h : cs.splitOn sep with
      | nil => exact absurd h (List.splitOn_ne_nil sep cs)
      | cons w ws => rfl

/-- The part before the first `sep` and the part after it, when there is one. -/
def cutAt (sep : Char) : List Char → Option (List Char × List Char)
  | [] => none
  | c :: cs =>
    if c = sep then some ([], cs)
    else (cutAt sep cs).map fun (before, after) => (c :: before, after)

section Cut

variable {sep : Char} {cs before after : List Char}

theorem cutAt_append (h : sep ∉ before) (after : List Char) :
    cutAt sep (before ++ sep :: after) = some (before, after) := by
  induction before with
  | nil => exact if_pos rfl
  | cons c before ih =>
    rw [List.mem_cons, not_or] at h
    rw [List.cons_append, cutAt, if_neg (Ne.symm h.1), ih h.2, Option.map_some]

theorem cutAt_eq_none_iff : cutAt sep cs = none ↔ sep ∉ cs := by
  constructor
  · intro hnone hmem
    obtain ⟨before, after, rfl, hbefore⟩ := List.eq_append_cons_of_mem hmem
    rw [cutAt_append hbefore] at hnone
    cases hnone
  · intro h
    induction cs with
    | nil => rfl
    | cons c cs ih =>
      rw [List.mem_cons, not_or] at h
      rw [cutAt, if_neg (Ne.symm h.1), ih h.2, Option.map_none]

/-- **A text is cut at the first separator.** -/
theorem cutAt_eq_some_iff :
    cutAt sep cs = some (before, after) ↔ cs = before ++ sep :: after ∧ sep ∉ before := by
  refine ⟨fun h => ?_, fun ⟨hcs, hbefore⟩ => hcs ▸ cutAt_append hbefore after⟩
  by_cases hmem : sep ∈ cs
  · obtain ⟨before', after', rfl, hbefore⟩ := List.eq_append_cons_of_mem hmem
    rw [cutAt_append hbefore] at h
    cases h
    exact ⟨rfl, hbefore⟩
  · rw [cutAt_eq_none_iff.2 hmem] at h
    cases h

end Cut

/-- `s` without the blanks at either end. -/
def trimmed (s : String) : String := String.ofList (trim s.toList)

/-- ASCII letters in lower case, everything else as it is. -/
def lower (s : String) : String := String.ofList (s.toList.map Char.toLower)

end RegistryProxy.Text
