import VersionedStore.Proofs.Client.Exchange
import VersionedStore.Proofs.Retry.Reference

/-!
Whole operations through a caller's own transport, in front of a far side whose
reactions never run out. Only a write is tried again, and it is tried again
just until the first reaction after which no policy asks for more: an answer
that accepts the write or blames the client for it is the last one in any case.
-/

namespace VersionedStore.Client

open Retry

/-- An operation of a client and the reactions of the far side, one for each
time that the request is sent. -/
structure Dialogue (op : Operation) where
  client : Client
  closes : ℕ
  fractions : Fractions
  usage : Usage
  request : op.Request
  reactions : ℕ → Reaction

namespace Dialogue

variable {op : Operation}

def call (d : Dialogue op) (n : ℕ) : Call op :=
  d.client.call (.custom d.closes) d.fractions d.usage op d.request
    ((List.range n).map d.reactions)

def setting (d : Dialogue op) : Setting op.Reply where
  policy := d.client.policy
  fractions := d.fractions
  usage := d.usage
  outcomes k := exchange op (d.reactions k)

/-- Each attempt sends the same request. -/
theorem call_sends (d : Dialogue op) (n : ℕ) :
    (d.call n).sends =
      List.replicate (d.call n).run.attempts (d.client.sending op d.request) := rfl

theorem call_run_put (d : Dialogue .putObject) (n : ℕ) : (d.call n).run = d.setting.run n := by
  simp only [call, Client.call, Transport.prepare, Client.run, List.map_map]
  rfl

theorem call_zero_ending (d : Dialogue op) : (d.call 0).run.ending = .pending := by
  cases op <;> rfl

/-- An operation that is no write is tried once. -/
theorem call_run_once (d : Dialogue op) (hop : op ≠ .putObject) (n : ℕ) :
    (d.call (n + 1)).run =
      ⟨1, [], [], (exchange op (d.reactions 0)).notices, d.usage,
        .of (exchange op (d.reactions 0)).outcome⟩ := by
  have hrun : ∀ tape : List (Attempt op.Reply),
      d.client.run d.fractions d.usage op tape = once d.usage tape := by
    cases op with
    | putObject => exact absurd rfl hop
    | _ => exact fun _ => rfl
  simp only [call, Client.call, Transport.prepare, hrun, List.range_succ_eq_map, List.map_cons,
    once]
  rfl

end Dialogue

end VersionedStore.Client
