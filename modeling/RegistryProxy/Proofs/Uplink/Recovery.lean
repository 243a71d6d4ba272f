import RegistryProxy.Client.Basic
import RegistryProxy.Proofs.Uplink.History
import RegistryProxy.Uplink.Resolve

/-!
# Proofs/Uplink/Recovery — whether a success brings an uplink back

The breaker of a client is made from the settings of its uplink.  A success closes it if at least
one failure is needed to open it.  But settings may ask for none at all: then no count is too low,
the breaker is open whenever an outcome is recent, and a success keeps requests back like a failure
(`refused_after_success`).
-/

namespace RegistryProxy

/-! ## From the settings to the breaker -/

variable {name : String} {s : UplinkSettings} {g : GlobalSettings} {u : Uplink} {c : Client}
  {env : Environment}

/-- What the settings say about failures, or the default. -/
theorem Uplink.of_resolve_ok (h : (Uplink.resolve name s g).1 = .ok u) :
    u.maxFails = s.maxFails.getD defaultMaxFails ∧
      intervalOr defaultFailTimeout (fieldOf name "fail_timeout") s.failTimeout =
        .ok u.failTimeout := by
  rw [resolve] at h
  split at h
  · cases h
  next url hurl =>
  split at h
  · cases h
  next timeout htimeout =>
  obtain ⟨maxage, hmaxage, h⟩ := exists_of_bind_eq_ok h
  obtain ⟨failTimeout, hfailTimeout, h⟩ := exists_of_bind_eq_ok h
  obtain ⟨credential, hcredential, h⟩ := exists_of_bind_eq_ok h
  obtain rfl := Except.ok.inj h
  exact ⟨rfl, hfailTimeout⟩

/-- The breaker of a new client. -/
theorem Client.breaker_of_ofUplink (h : Client.ofUplink u env = .ok c) :
    c.breaker = .fresh u.host u.maxFails u.failTimeout := by
  obtain ⟨_, -, h⟩ := exists_of_bind_eq_ok h
  obtain ⟨userAgent, -, h⟩ := exists_of_bind_eq_ok h
  obtain ⟨_, -, h⟩ := exists_of_bind_eq_ok h
  obtain ⟨overrides, -, h⟩ := exists_of_bind_eq_ok h
  obtain rfl := Except.ok.inj h
  rfl

namespace Breaker

/-! ## Behind a success -/

variable {host : String} {maxFails : Nat} {failTimeout : Duration}

/-- The breaker with a success behind all that it has counted. -/
theorem after_success (history : History) (time : Nat) :
    (fresh host maxFails failTimeout).after (history ++ [(true, time)]) =
      { fresh host maxFails failTimeout with last := some time } := by
  rw [after_fresh, failures_concat_success, last?_concat, Nat.zero_min]

/-- **A success closes a breaker that takes a failure to open**, and no other. -/
theorem stateAt_after_success_eq_closed_iff (history : History) (time now : Nat) :
    ((fresh host maxFails failTimeout).after (history ++ [(true, time)])).stateAt now = .closed ↔
      maxFails ≠ 0 := by
  rw [after_success, stateAt_eq_closed_iff]
  exact Nat.pos_iff_ne_zero

/-- Behind a success requests are refused only by a breaker that takes no failure to open, and only
as long as the success is recent. -/
theorem isAvailableAt_after_success_iff (history : History) (time now : Nat) :
    ((fresh host maxFails failTimeout).after (history ++ [(true, time)])).isAvailableAt now =
        true ↔ maxFails ≠ 0 ∨ failTimeout.nanoseconds ≤ now - time := by
  rw [after_success, isAvailableAt_iff]
  simp only [IsRecent, Option.some.injEq, exists_eq_left', Nat.le_zero]
  omega

/-- **When a success brings an uplink back.**  Whatever was counted before a success: the breaker is
closed behind it if and only if the settings of the uplink do not ask for zero failures; requests
are let through at a time if and only if this is so or the uplink has been left alone for long
enough since the success; and they are let through at every time if and only if this is so or the
uplink is never left alone. -/
theorem success_recovers_iff (hresolve : (Uplink.resolve name s g).1 = .ok u)
    (hclient : Client.ofUplink u env = .ok c) :
    (∀ (history : History) (time now : Nat),
        ((c.breaker.after (history ++ [(true, time)])).stateAt now = .closed ↔
          s.maxFails ≠ some 0) ∧
        ((c.breaker.after (history ++ [(true, time)])).isAvailableAt now = true ↔
          s.maxFails ≠ some 0 ∨ u.failTimeout.nanoseconds ≤ now - time)) ∧
      ((∀ (history : History) (time now : Nat),
        (c.breaker.after (history ++ [(true, time)])).isAvailableAt now = true) ↔
          s.maxFails ≠ some 0 ∨ u.failTimeout.nanoseconds = 0) := by
  have hzero : u.maxFails ≠ 0 ↔ s.maxFails ≠ some 0 := by
    rw [(Uplink.of_resolve_ok hresolve).1]
    cases s.maxFails <;> simp [Uplink.defaultMaxFails]
  have hclosed (history : History) (time now : Nat) :
      (c.breaker.after (history ++ [(true, time)])).stateAt now = .closed ↔
        s.maxFails ≠ some 0 := by
    rw [Client.breaker_of_ofUplink hclient, stateAt_after_success_eq_closed_iff, hzero]
  have havailable (history : History) (time now : Nat) :
      (c.breaker.after (history ++ [(true, time)])).isAvailableAt now = true ↔
        s.maxFails ≠ some 0 ∨ u.failTimeout.nanoseconds ≤ now - time := by
    rw [Client.breaker_of_ofUplink hclient, isAvailableAt_after_success_iff, hzero]
  refine ⟨fun history time now => ⟨hclosed history time now, havailable history time now⟩, ?_, ?_⟩
  · intro hall
    refine ((havailable [] 0 0).1 (hall [] 0 0)).imp_right fun hle => ?_
    omega
  · intro hnever history time now
    refine (havailable history time now).2 (hnever.imp_right fun htimeout => ?_)
    omega

/-! ## Settings that ask for no failures -/

/-- The settings of a registry on the same machine. -/
def localSettings (maxFails : Option Nat) : UplinkSettings where
  url := "http://[::1]:4873/"
  maxFails

theorem exists_client (settings : UplinkSettings)
    (h : ((Uplink.resolve "npmjs" settings {}).1 >>= fun u =>
      Client.ofUplink u fun _ => none).isOk = true) :
    ∃ u c, (Uplink.resolve "npmjs" settings {}).1 = .ok u ∧
      Client.ofUplink u (fun _ => none) = .ok c := by
  cases hclient : ((Uplink.resolve "npmjs" settings {}).1 >>= fun u =>
    Client.ofUplink u fun _ => none) with
  | error e =>
    rw [hclient] at h
    cases h
  | ok c =>
    obtain ⟨u, hu, hc⟩ := exists_of_bind_eq_ok hclient
    exact ⟨u, c, hu, hc⟩

/-- With the default of two failures, three failures and a success let requests through. -/
theorem success_recovers_iff_default :
    ∃ u c, (Uplink.resolve "npmjs" (localSettings none) {}).1 = .ok u ∧
      Client.ofUplink u (fun _ => none) = .ok c ∧
      (c.breaker.after ([(false, 1), (false, 2), (false, 3)] ++ [(true, 4)])).isAvailableAt 5 =
        true := by
  obtain ⟨u, c, hresolve, hclient⟩ := exists_client (localSettings none)
    (by decide +kernel)
  exact ⟨u, c, hresolve, hclient,
    (((success_recovers_iff hresolve hclient).1 _ 4 5).2).2 (.inl (by decide))⟩

/-- **Settings may ask for no failures**, and then a success keeps requests back. -/
theorem refused_after_success :
    ∃ u c, (Uplink.resolve "npmjs" (localSettings (some 0)) {}).1 = .ok u ∧
      Client.ofUplink u (fun _ => none) = .ok c ∧
      (c.breaker.after [(true, 0)]).isAvailableAt 1 = false := by
  obtain ⟨u, c, hresolve, hclient⟩ := exists_client (localSettings (some 0))
    (by decide +kernel)
  obtain ⟨hfails, htimeout⟩ := Uplink.of_resolve_ok hresolve
  have htime : Uplink.defaultFailTimeout = u.failTimeout := Except.ok.inj htimeout
  refine ⟨u, c, hresolve, hclient, Bool.eq_false_iff.2 fun havailable => ?_⟩
  rw [Client.breaker_of_ofUplink hclient, hfails, ← htime] at havailable
  obtain hzero | htime := (isAvailableAt_after_success_iff [] 0 1).1 havailable
  · exact hzero rfl
  · exact absurd htime (by decide)

end Breaker

end RegistryProxy
