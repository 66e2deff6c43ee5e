import VersionedStore.Proofs.Retry.Decision
import VersionedStore.Proofs.Retry.Loop

/-!
Runs under a policy of the library's own. Such a policy never fails, so that
the run ends as one of its attempts did: the first that is no error, or at
whose error the policy stops.
-/

namespace VersionedStore

variable {α : Type}

def Ending.of : Except Raised α → Ending α
  | .ok x => .returned x
  | .error r => .raised r

namespace Retry.Setting

variable {s : Setting α} {k : ℕ} {ending : Ending α}

/-- Under a policy of the library's own, an attempt leaves the loop just if it
has no error or the policy stops at the error. -/
theorem leaves_iff_of_reference (hpolicy : s.policy.Reference) (hfractions : s.fractions.Proper) :
    s.Leaves k ending ↔ Ending.of (s.outcomes k).outcome = ending ∧
      ∀ e, error? (s.outcomes k) = some e → s.policy.Stops (k + 1 : ℕ) e := by
  constructor
  · intro hleaves
    cases hleaves with
    | returned x ha => simp [ha, Ending.of, error?]
    | fault f ha => simp [ha, Ending.of, error?]
    | stopped e ha hanswer =>
      have herror := error?_eq_some.mpr ha
      refine ⟨by rw [ha]; rfl, fun e' he' => ?_⟩
      obtain rfl := Option.some.inj (herror.symm.trans he')
      by_contra hgo
      obtain ⟨delay, hdelay⟩ := hpolicy.decide_of_not_stops hfractions hgo
      rw [s.answer?_eq herror, hdelay] at hanswer
      cases hanswer
    | policyRaised e f ha hanswer =>
      have herror := error?_eq_some.mpr ha
      rw [s.answer?_eq herror] at hanswer
      by_cases hstops : s.policy.Stops (k + 1 : ℕ) e
      · rw [hpolicy.decide_of_stops hstops] at hanswer
        cases hanswer
      · obtain ⟨delay, hdelay⟩ := hpolicy.decide_of_not_stops hfractions hstops
        rw [hdelay] at hanswer
        cases hanswer
  · intro h
    obtain ⟨rfl, hstops⟩ := h
    rcases ha : (s.outcomes k).outcome with (e | f) | x
    · have herror := error?_eq_some.mpr ha
      refine .stopped e ha ?_
      rw [s.answer?_eq herror, hpolicy.decide_of_stops (hstops e herror)]
    · exact .fault f ha
    · exact .returned x ha

end Retry.Setting

end VersionedStore
