import VersionedStore.Proofs.Client.Dialogue

/-!
How operations end, in front of a far side that answers or fails on the way.
Whatever way an operation goes, its last reaction explains the error it ends
with, and the error carries the name of the operation.
-/

namespace VersionedStore

/-- A reaction that is an answer, or a failure on the way that names no
operation. -/
def Reaction.Plain (reaction : Reaction) : Prop :=
  (∃ r, reaction = .answer r) ∨
    ∃ message cause, reaction = .failure (.error ⟨message, none, .transport cause⟩)

namespace Client

open Retry

/-- How an operation may end after its last reaction: with the reply in the body
of an answer that accepts it, or with an error that the reaction explains. -/
inductive Settled (op : Operation) (reaction : Reaction) : Ending op.Reply → Prop where
  | returned (reply : op.Reply) (r : Response) (hr : reaction = .answer r) (hlow : 200 ≤ r.status)
    (hhigh : r.status < 300) (hreply : op.response.decode r.body = .ok reply) :
    Settled op reaction (.returned reply)
  | raised (e : StoreError) (hoperation : e.operation = some op.name)
    (hexplains : Explains op reaction e) : Settled op reaction (.raised (.error e))

/-- An answer settles an operation, whatever its status and its body are. -/
theorem settled_answer (op : Operation) (r : Response) :
    Settled op (.answer r) (.of (exchange op (.answer r)).outcome) := by
  cases hstatus : isSuccess r.status with
  | false =>
    rw [exchange_refused hstatus]
    exact .raised _ (refuse_eq op r).1 (explains_of_refuse hstatus)
  | true =>
    obtain ⟨hlow, hhigh⟩ := isSuccess_iff.mp hstatus
    rw [exchange_success hstatus]
    cases haccept : accept op r with
    | ok reply => exact .returned reply r rfl hlow hhigh (decode_of_accept haccept)
    | error e => exact .raised e (accept_eq_error haccept).1 (explains_of_accept hstatus haccept)

/-- A single exchange settles an operation. -/
theorem settled_exchange (op : Operation) {reaction : Reaction} (hplain : reaction.Plain) :
    Settled op reaction (.of (exchange op reaction).outcome) := by
  rcases hplain with ⟨r, rfl⟩ | ⟨message, cause, rfl⟩
  · exact settled_answer op r
  · rw [exchange_transport rfl]
    exact .raised _ rfl (explains_of_transport rfl)

namespace Dialogue

variable {op : Operation}

/-- A write that ends is settled by its last reaction. -/
theorem settled_put {d : Dialogue .putObject} (hpolicy : d.client.policy.Reference)
    (hfractions : d.fractions.Proper) (hplain : ∀ k, (d.reactions k).Plain) {N : ℕ}
    (hended : (d.call N).run.ending ≠ .pending) :
    ∃ n < N, (d.call N).run.attempts = n + 1 ∧
      Settled .putObject (d.reactions n) (d.call N).run.ending := by
  rw [call_run_put] at hended ⊢
  obtain ⟨n, hn, ending, hleaves, htraces, hending⟩ :=
    Setting.exists_first_leaving ((Setting.ended_iff N).mp hended)
  obtain ⟨rfl, -⟩ := (Setting.leaves_iff_of_reference hpolicy hfractions).mp hleaves
  rw [hending]
  exact ⟨n, hn, htraces.attempts, settled_exchange .putObject (hplain n)⟩

/-- An operation that is no write is settled by the first reaction. -/
theorem settled_once {d : Dialogue op} (hop : op ≠ .putObject) (hplain : ∀ k, (d.reactions k).Plain)
    {N : ℕ} (hN : 0 < N) :
    Settled op (d.reactions 0) (d.call N).run.ending ∧ (d.call N).run.attempts = 1 ∧
      (d.call N).run.sleeps = [] := by
  obtain ⟨n, rfl⟩ : ∃ n, N = n + 1 := ⟨N - 1, by omega⟩
  rw [call_run_once d hop n]
  exact ⟨settled_exchange op (hplain 0), rfl, rfl⟩

/-- Every operation that ends is settled by its last reaction. One that is no
write is settled by its first, whatever the policy is. -/
theorem settled_by_last_reaction (op : Operation) (d : Dialogue op)
    (hplain : ∀ k, (d.reactions k).Plain) :
    (d.client.policy.Reference → d.fractions.Proper → ∀ N, (d.call N).run.ending ≠ .pending →
      ∃ n < N, (d.call N).run.attempts = n + 1 ∧
        Settled op (d.reactions n) (d.call N).run.ending) ∧
    (op ≠ .putObject → ∀ N, 0 < N →
      Settled op (d.reactions 0) (d.call N).run.ending ∧
        (d.call N).sends = [d.client.sending op d.request] ∧ (d.call N).run.sleeps = []) := by
  constructor
  · intro hpolicy hfractions N hended
    by_cases hop : op = .putObject
    · subst hop
      exact settled_put hpolicy hfractions hplain hended
    · have hN : 0 < N := by
        rw [Nat.pos_iff_ne_zero]
        intro hzero
        subst hzero
        exact hended d.call_zero_ending
      obtain ⟨hsettled, hattempts, -⟩ := settled_once hop hplain hN
      exact ⟨0, hN, hattempts, hsettled⟩
  · intro hop N hN
    obtain ⟨hsettled, hattempts, hsleeps⟩ := settled_once hop hplain hN
    exact ⟨hsettled, by rw [call_sends, hattempts]; rfl, hsleeps⟩

def conflicting (op : Operation) (request : op.Request) : Dialogue op where
  client := ⟨"http://store", .never, jsonContentType⟩
  closes := 0
  fractions _ := .zero
  usage := .none
  request := request
  reactions _ := .answer ⟨409, .empty⟩

/-- A conflict, met by a write and by a read. -/
theorem conflicting_settled :
    (∃ n < 4, ((conflicting .putObject ⟨"store", [], [], none⟩).call 4).run.attempts = n + 1 ∧
      Settled .putObject (.answer ⟨409, .empty⟩)
        ((conflicting .putObject ⟨"store", [], [], none⟩).call 4).run.ending) ∧
    Settled .getObject (.answer ⟨409, .empty⟩)
      ((conflicting .getObject ⟨"store", "key"⟩).call 4).run.ending := by
  have hplain : ∀ op request k, ((conflicting op request).reactions k).Plain :=
    fun _ _ _ => .inl ⟨_, rfl⟩
  have hpolicy : RetryPolicy.never.Reference :=
    ⟨by simp [RetryPolicy.never], by simp [RetryPolicy.never]⟩
  have hfraction : Binary64.zero.le .zero = true ∧ Binary64.zero.le (.ofInt 1) = true := by
    decide +kernel
  have hput := settled_by_last_reaction .putObject (conflicting .putObject ⟨"store", [], [], none⟩)
    (hplain _ _)
  have hget := settled_by_last_reaction .getObject (conflicting .getObject ⟨"store", "key"⟩)
    (hplain _ _)
  exact ⟨hput.1 hpolicy (fun _ => hfraction) 4 nofun, (hget.2 nofun 4 (by decide)).1⟩

end Dialogue

end Client

end VersionedStore
