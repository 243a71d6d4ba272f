import RegistryProxy.Proofs.Client.Workload

/-!
# Proofs/Client/Counting — what the breaker counts

The breaker counts the answers that calls and downloads hear, each once, and nothing that happens
besides: no refusal, no header that cannot be sent, nothing that is given up, no body and no search.
But it also counts requests that have no address to go to, and those never were on the network
(`unaddressed_counted`).
-/

namespace RegistryProxy

namespace Workload

/-- **The breaker counts what is heard, and nothing else.**  After any run it is what it was at the
start with the ledger counted; the ledger has at most one answer of each call or download, and each
answer is the one that the network gave, or the failure of a request without an address.  So as long
as all requests have one, the breaker counts what the network did. -/
theorem breaker_counts_ledger (w : Client.World) (events : List Event) :
    (run w events).world.client.breaker = w.client.breaker.replay (run w events).ledger ∧
      ((run w events).ledger.filterMap Outcome.task?).Nodup ∧
      (∀ i a time, .answer i a time ∈ (run w events).ledger →
        Told (run w events).world.network a.request a.content) ∧
      ((∀ o ∈ (run w events).ledger, o.onNetwork = true) →
        (run w events).world.client.breaker =
          w.client.breaker.replay ((run w events).ledger.filter Outcome.onNetwork)) := by
  obtain ⟨-, -, hbreaker, htold, -, honce⟩ := kept_run w events
  refine ⟨hbreaker, honce, htold, ?_⟩
  intro hnetwork
  rw [List.filter_eq_self.2 hnetwork]
  exact hbreaker

/-- A registry. -/
def registry : Uplink where
  name := "r"
  url := { scheme := "http", host := some (.domain "r") }
  baseUrl := "http://r"
  ca := none
  credential := none
  headers := ∅
  maxage := .ofSeconds 120
  timeout := .ofSeconds 30
  maxFails := 2
  failTimeout := .ofSeconds 300
  strictSsl := true
  proxy := none
  bypass := []
  userAgent := "a"
  serverId := "a"

/-- A client of it that has not done anything. -/
def idle : Client.World where
  client := {
    uplink := registry
    userAgent := Client.plainValue "npm (a)"
    via := "1.1 a (Burrow)"
    overrides := ∅
    env := fun _ => none
    breaker := { host := "r", maxFails := 2, failTimeout := .ofSeconds 300 } }
  network := .ofList []

/-- **A text that is no address is counted as a failure**, although no request goes out. -/
theorem unaddressed_counted :
    let t := run idle [.tarball "not a url" ∅ none false, .turn 0 true]
    t.world.network.sent = [] ∧ t.world.client.breaker.failed = 1 ∧
      t.world.client.breaker ≠
        idle.client.breaker.replay (t.ledger.filter Outcome.onNetwork) := by
  intro t
  have hsent : t.world.network.sent = [] := by decide +kernel
  have hfailed : t.world.client.breaker.failed = 1 := by decide +kernel
  have hledger : (t.ledger.filter Outcome.onNetwork).length = 0 := by decide +kernel
  refine ⟨hsent, hfailed, ?_⟩
  rw [List.length_eq_zero_iff.1 hledger]
  intro heq
  rw [heq] at hfailed
  cases hfailed

end Workload

end RegistryProxy
