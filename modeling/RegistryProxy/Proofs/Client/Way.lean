import RegistryProxy.Proofs.Client.Layers

/-!
# Proofs/Client/Way — the way of a request

Whoever passes a request on adds itself to the way, so that a request that goes round in circles is
noticed.  The way may come in as any number of values, each of any bytes.  Only the first of them is
passed on, and only if it is plain text (`values_via`); so the way is kept if and only if there is
no other value and no other byte (`via_kept_iff`).
-/

namespace RegistryProxy

variable {c : Client} {u : Uplink} {env : Environment} {accept : String} {h out : Headers}
  {peer : Option Peer} {v s : HeaderValue} {values : List HeaderValue}

/-! ## Several values of one name -/

namespace HeaderValue

/-- **What several values of a name say together**: they are one list, with commas in between. -/
def joined (values : List HeaderValue) : Bytes :=
  (Utf8.encode ", ").intercalate (values.map bytes)

theorem joined_singleton (v : HeaderValue) : joined [v] = v.bytes :=
  List.intercalate_singleton

theorem joined_cons (v : HeaderValue) (hmore : values ≠ []) :
    joined (v :: values) = v.bytes ++ Utf8.encode ", " ++ joined values := by
  cases values with
  | nil => exact absurd rfl hmore
  | cons w rest =>
    rw [joined, List.map_cons, List.map_cons, List.intercalate_cons_cons, ← List.map_cons]
    rfl

/-- Whatever stands in front makes the list longer. -/
theorem length_lt_joined (s : HeaderValue) (hmore : values ≠ []) :
    s.bytes.length < (joined (values ++ [s])).length := by
  induction values with
  | nil => exact absurd rfl hmore
  | cons v rest ih =>
    rw [List.cons_append, joined_cons v (by simp)]
    have hcomma : (Utf8.encode ", ").length = 2 := by decide +kernel
    simp only [List.length_append, hcomma]
    cases rest with
    | nil =>
      rw [List.nil_append, joined_singleton]
      omega
    | cons w rest =>
      have hrest := ih (by simp)
      omega

end HeaderValue

namespace Client

open HeaderValue

/-! ## What is passed on -/

/-- The entry of an uplink's client. -/
def station (u : Uplink) : HeaderValue := plainValue ("1.1 " ++ u.serverId ++ " (Burrow)")

/-- **What is passed on of the way**: the first value, if it is plain text. -/
def passedOn (values : List HeaderValue) : List HeaderValue :=
  values.head?.toList.filter fun v => v.text?.isSome

theorem passedOn_cons (v : HeaderValue) (rest : List HeaderValue) :
    passedOn (v :: rest) = if v.text?.isSome then [v] else [] := by
  rw [passedOn, List.head?_cons, Option.toList_some, List.filter_cons, List.filter_nil]

theorem encode_wayOf (hequipped : c.Equipped u env) (h : Headers) :
    Utf8.encode (c.wayOf h) = joined (passedOn (h.values "via") ++ [station u]) := by
  have hstation : Utf8.encode c.via = (station u).bytes := by rw [hequipped.via_eq]; rfl
  rw [wayOf, Headers.get?]
  cases h.values "via" with
  | nil => exact hstation.trans (joined_singleton _).symm
  | cons v rest =>
    rw [passedOn_cons, List.head?_cons, Option.bind_eq_bind, Option.bind_some]
    cases htext : v.text? with
    | none => exact hstation.trans (joined_singleton _).symm
    | some text =>
      dsimp only
      rw [Utf8.encode_append, Utf8.encode_append, encode_of_text? htext, hstation]
      exact ((joined_cons v (List.cons_ne_nil _ _)).trans (by rw [joined_singleton])).symm

/-- **One value goes out**: what is passed on, and the client's own entry. -/
theorem values_via (hequipped : c.Equipped u env) (hplain : u.configured "via" = none)
    (hout : (c.requestHeaders accept h peer).1 = .ok out) :
    out.values "via" = [plainValue (c.wayOf h)] := by
  obtain ⟨before, hdefaults, hvalues, -⟩ := values_requestHeaders hequipped hout hplain
  obtain ⟨way, hway, hforwarded⟩ := exists_of_withDefaults hdefaults
  rw [hvalues (by decide), values_withForwarded hforwarded, if_neg (by decide),
    Headers.values_insert, if_pos rfl, valueOf_eq_ok hway]

/-! ## What is lost -/

/-- **Nothing is lost exactly if all values are passed on.** -/
theorem joined_passedOn_iff (values : List HeaderValue) (s : HeaderValue) :
    joined (passedOn values ++ [s]) = joined (values ++ [s]) ↔
      values.length ≤ 1 ∧ ∀ v ∈ values, v.text?.isSome = true := by
  cases values with
  | nil => simp [passedOn]
  | cons v rest =>
    rw [passedOn_cons]
    cases htext : v.text?.isSome with
    | false =>
      have hlonger := length_lt_joined s (List.cons_ne_nil v rest)
      refine iff_of_false (fun heq => ?_) fun ⟨_, hall⟩ => ?_
      · have heq : joined [s] = joined (v :: rest ++ [s]) := heq
        rw [← heq, joined_singleton] at hlonger
        exact Nat.lt_irrefl _ hlonger
      · exact Bool.false_ne_true (htext.symm.trans (hall v List.mem_cons_self))
    | true =>
      cases rest with
      | nil => simp [htext]
      | cons w rest =>
        have hlonger := length_lt_joined s (List.cons_ne_nil w rest)
        refine iff_of_false (fun heq => ?_) fun ⟨hone, _⟩ => ?_
        · have heq : joined (v :: [s]) = joined (v :: (w :: rest ++ [s])) := heq
          rw [joined_cons v (by simp), joined_cons v (by simp)] at heq
          rw [← List.append_cancel_left heq, joined_singleton] at hlonger
          exact Nat.lt_irrefl _ hlonger
        · simp at hone

/-- **The way that goes out.**  Without a configured one it is one value: the first value that came
in, if it is plain text, and behind it the client's own entry.  So the way that came in is kept if
and only if it came in at most one value, of plain text. -/
theorem via_kept_iff (hmade : c.MadeFor u env) (hplain : u.configured "via" = none)
    (hout : (c.requestHeaders accept h peer).1 = .ok out) :
    (∃ way, out.values "via" = [way] ∧
      way.bytes = joined (passedOn (h.values "via") ++ [station u])) ∧
    (joined (out.values "via") = joined (h.values "via" ++ [station u]) ↔
      (h.values "via").length ≤ 1 ∧ ∀ v ∈ h.values "via", v.text?.isSome = true) := by
  have hvalues := values_via hmade.equipped hplain hout
  have hbytes := encode_wayOf hmade.equipped h
  refine ⟨⟨_, hvalues, hbytes⟩, ?_⟩
  rw [hvalues, joined_singleton, ← joined_passedOn_iff _ (station u), ← hbytes]
  rfl

/-- One value of plain text is kept. -/
theorem via_kept_iff_front :
    guardedClient.MadeFor guarded (fun _ => none) ∧ guarded.configured "via" = none ∧
    ∃ out, (guardedClient.requestHeaders documentType ⟨[("via", plainValue "1.0 front")]⟩ none).1 =
        .ok out ∧
      joined (out.values "via") = Utf8.encode "1.0 front, 1.1 a (Burrow)" := by
  obtain ⟨out, hout⟩ : ∃ out, (guardedClient.requestHeaders documentType
      ⟨[("via", plainValue "1.0 front")]⟩ none).1 = .ok out := ⟨_, rfl⟩
  have hplain : guarded.configured "via" = none := by decide +kernel
  obtain ⟨-, hkept⟩ := via_kept_iff guardedClient_madeFor hplain hout
  exact ⟨guardedClient_madeFor, hplain, out, hout,
    (hkept.2 (by decide +kernel)).trans (by decide +kernel)⟩

/-- **The second value is lost.** -/
theorem via_shortened :
    guardedClient.MadeFor guarded (fun _ => none) ∧ guarded.configured "via" = none ∧
    ∃ out, (guardedClient.requestHeaders documentType
        ⟨[("via", plainValue "1.0 a"), ("via", plainValue "1.0 b")]⟩ none).1 = .ok out ∧
      joined (out.values "via") ≠
        joined ([plainValue "1.0 a", plainValue "1.0 b"] ++ [station guarded]) :=
  ⟨guardedClient_madeFor, by decide +kernel, _, rfl, by decide +kernel⟩

end Client

end RegistryProxy
