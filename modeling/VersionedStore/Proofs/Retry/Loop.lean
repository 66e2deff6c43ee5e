import Mathlib.Data.Nat.Find
import VersionedStore.Proofs.Retry.Attempt

/-!
Runs of attempts, described from outside the loop. A policy faces a sequence of
outcomes without end. What it answers to an error depends on what it was asked
about before, which is each earlier error once. The first attempt that leaves
the loop decides about the ending, and all traces of the run are read off the
attempts up to that one.
-/

namespace VersionedStore.Retry

variable {α : Type}

/-- A policy that faces the outcomes of attempts without end, with what it has
used up before. -/
structure Setting (α : Type) where
  policy : RetryPolicy
  fractions : Fractions
  usage : Usage
  outcomes : ℕ → Attempt α

namespace Setting

variable (s : Setting α)

def tape (n : ℕ) : List (Attempt α) := (List.range n).map s.outcomes

def run (n : ℕ) : Run α := Retry.run s.policy s.fractions s.usage (s.tape n)

def errors (n : ℕ) : List (ℕ × StoreError) :=
  (List.range n).flatMap fun k => (error? (s.outcomes k)).toList.map fun e => (k + 1, e)

def usageAfter (n : ℕ) : Usage := Retry.usageAfter s.policy s.fractions s.usage (s.errors n)

/-- What the policy answers to the error of an attempt, having been asked about
the errors of all attempts before it. -/
def answer? (k : ℕ) : Option (Except Fault Decision) :=
  Retry.answer? s.policy s.fractions (s.usageAfter k) (k + 1) (s.outcomes k)

def Leaves (k : ℕ) (ending : Ending α) : Prop :=
  Retry.Leaves (s.outcomes k) (s.answer? k) ending

def remarks (k : ℕ) : List Notice := Retry.remarks (k + 1) (s.outcomes k) (s.answer? k)

def delays (n : ℕ) : List Delay :=
  (List.range n).flatMap fun k => ((s.answer? k).bind delay?).toList

/-- What is left of the first attempts in a run: each was made once, the policy
was asked about each error once and in order, and every delay that it asked for
was slept. -/
structure Traces (n : ℕ) (r : Run α) : Prop where
  attempts : r.attempts = n
  consulted : r.consulted = s.errors n
  usage : r.usage = s.usageAfter n
  sleeps : r.sleeps = s.delays n
  notices : r.notices = (List.range n).flatMap fun k => (s.outcomes k).notices ++ s.remarks k

theorem length_tape (n : ℕ) : (s.tape n).length = n := by
  rw [tape, List.length_map, List.length_range]

theorem tape_add (m n : ℕ) :
    s.tape (m + n) = s.tape m ++ (List.range n).map fun k => s.outcomes (m + k) := by
  simp only [tape, List.range_add, List.map_append, List.map_map, Function.comp_def]

theorem tape_succ (n : ℕ) : s.tape (n + 1) = s.tape n ++ [s.outcomes n] := by
  rw [tape_add]
  rfl

/-- What is used up after one more attempt. -/
theorem usageAfter_succ (n : ℕ) :
    s.usageAfter (n + 1) = Retry.usageAfter s.policy s.fractions (s.usageAfter n)
      ((error? (s.outcomes n)).toList.map fun e => (n + 1, e)) := by
  simp only [usageAfter, Retry.usageAfter, errors, List.range_succ, List.flatMap_append,
    List.flatMap_singleton, List.foldl_append]

/-- The policy is asked with what all errors before have used up. -/
theorem answer?_eq {k : ℕ} {e : StoreError} (herror : error? (s.outcomes k) = some e) :
    s.answer? k =
      some (s.policy.decide s.fractions (s.usageAfter k) (k + 1 : ℕ) e).1 := by
  rw [answer?, Retry.answer?, herror]
  rfl

variable {s} in
/-- One more attempt of a run that goes on. -/
theorem run_succ {n : ℕ} (htraces : s.Traces n (s.run n)) (hpending : (s.run n).ending = .pending) :
    s.Traces (n + 1) (s.run (n + 1)) ∧
      (s.run (n + 1)).ending =
        (judge s.policy s.fractions (s.usageAfter n) (n + 1) (s.outcomes n)).next.ending := by
  obtain ⟨hasked, husage, hnotices, hsleeps⟩ :=
    judge_eq s.policy s.fractions (s.usageAfter n) (n + 1) (s.outcomes n)
  have hrun : s.run (n + 1) = (s.run n).andThen
      (runFrom s.policy s.fractions (s.usageAfter n) (n + 1) [s.outcomes n]) := by
    have happend := runFrom_append s.policy s.fractions s.usage 1 (s.tape n) [s.outcomes n] hpending
    rw [← htraces.usage, Nat.add_comm n 1, run, Retry.run, Nat.add_comm 1 n, tape_succ, happend,
      length_tape, Nat.add_comm 1 n]
    rfl
  -- every trace of the longer run is that of the shorter one and a part from the judgement
  rw [runFrom_singleton] at hrun
  rw [hrun]
  refine ⟨⟨?_, ?_, ?_, ?_, ?_⟩, rfl⟩
  · simp only [Run.andThen, htraces.attempts]
  · simp only [Run.andThen, htraces.consulted, hasked, errors, List.range_succ,
      List.flatMap_append, List.flatMap_singleton]
  · simp only [Run.andThen, husage, usageAfter_succ]
  · simp only [Run.andThen, htraces.sleeps, hsleeps, delays, List.range_succ,
      List.flatMap_append, List.flatMap_singleton, answer?]
  · simp only [Run.andThen, htraces.notices, hnotices, remarks, List.range_succ,
      List.flatMap_append, List.flatMap_singleton, answer?]

variable {s}

/-- Every attempt is made as long as none has left the loop. The induction is on
the number of attempts. -/
theorem traces_of_forall_not_leaves {n : ℕ} (hstay : ∀ k < n, ∀ ending, ¬s.Leaves k ending) :
    s.Traces n (s.run n) ∧ (s.run n).ending = .pending := by
  induction n with
  | zero => exact ⟨⟨rfl, rfl, rfl, rfl, rfl⟩, rfl⟩
  | succ n ih =>
    obtain ⟨htraces, hpending⟩ := ih fun k hk => hstay k (by omega)
    obtain ⟨htraces', hending⟩ := run_succ htraces hpending
    refine ⟨htraces', ?_⟩
    rw [hending]
    cases hnext : (judge s.policy s.fractions (s.usageAfter n) (n + 1) (s.outcomes n)).next with
    | again delay => rfl
    | finish ending => exact absurd ((leaves_iff _ _ _ _ _ _).mpr hnext) (hstay n (by omega) ending)

/-- The first attempt that leaves the loop is the last one that is made. -/
theorem traces_of_leaves {n : ℕ} {ending : Ending α} (hleaves : s.Leaves n ending)
    (hstay : ∀ k < n, ∀ other, ¬s.Leaves k other) {N : ℕ} (hN : n < N) :
    s.Traces (n + 1) (s.run N) ∧ (s.run N).ending = ending := by
  obtain ⟨htraces, hpending⟩ := traces_of_forall_not_leaves hstay
  obtain ⟨htraces', hending⟩ := run_succ htraces hpending
  rw [(leaves_iff _ _ _ _ _ _).mp hleaves] at hending
  have hended : (s.run (n + 1)).ending ≠ .pending := by
    intro hpending
    have hfinish : ending = .pending := hending.symm.trans hpending
    exact not_leaves_pending (hfinish ▸ hleaves)
  obtain ⟨m, rfl⟩ : ∃ m, N = n + 1 + m := ⟨N - (n + 1), by omega⟩
  have hrun : s.run (n + 1 + m) = s.run (n + 1) := by
    rw [run, tape_add]
    exact runFrom_append_of_ended _ _ _ _ _ _ hended
  exact hrun ▸ ⟨htraces', hending⟩

/-- If an attempt leaves the loop, one of them is the first to do so. -/
theorem exists_first {N : ℕ} (hsome : ∃ k < N, ∃ ending, s.Leaves k ending) :
    ∃ n < N, ∃ ending, s.Leaves n ending ∧ ∀ k < n, ∀ other, ¬s.Leaves k other := by
  classical
  obtain ⟨hn, ending, hleaves⟩ := Nat.find_spec hsome
  exact ⟨_, hn, ending, hleaves, fun k hk other hother =>
    Nat.find_min hsome hk ⟨Nat.lt_trans hk hn, other, hother⟩⟩

/-- A run within which an attempt leaves the loop was left at the first one. -/
theorem exists_first_leaving {N : ℕ} (hsome : ∃ k < N, ∃ ending, s.Leaves k ending) :
    ∃ n < N, ∃ ending, s.Leaves n ending ∧ s.Traces (n + 1) (s.run N) ∧
      (s.run N).ending = ending := by
  obtain ⟨n, hn, ending, hleaves, hstay⟩ := exists_first hsome
  exact ⟨n, hn, ending, hleaves, traces_of_leaves hleaves hstay hn⟩

/-- A run ends just if an attempt within it leaves the loop. -/
theorem ended_iff (N : ℕ) :
    (s.run N).ending ≠ .pending ↔ ∃ k < N, ∃ ending, s.Leaves k ending := by
  constructor
  · intro hended
    by_contra hnone
    exact hended (traces_of_forall_not_leaves fun k hk ending hleaves =>
      hnone ⟨k, hk, ending, hleaves⟩).2
  · intro hsome
    obtain ⟨n, -, ending, hleaves, -, hending⟩ := exists_first_leaving hsome
    rw [hending]
    intro hpending
    exact not_leaves_pending (hpending ▸ hleaves)

/-- The loop goes on after an attempt just if it has failed with an error and the
policy asks for another one. -/
theorem forall_not_leaves_iff {k : ℕ} :
    (∀ ending, ¬s.Leaves k ending) ↔ ∃ e delay, error? (s.outcomes k) = some e ∧
      s.answer? k = some (.ok (.retryAfter delay)) := by
  constructor
  · intro hstay
    rcases ha : (s.outcomes k).outcome with (e | f) | x
    · have herror : error? (s.outcomes k) = some e := error?_eq_some.mpr ha
      have hanswer := s.answer?_eq herror
      rcases hdecision : (s.policy.decide s.fractions (s.usageAfter k) (k + 1 : ℕ) e).1 with
        f | stop | delay
      · rw [hdecision] at hanswer
        exact absurd (.policyRaised e f ha hanswer) (hstay _)
      · rw [hdecision] at hanswer
        exact absurd (.stopped e ha hanswer) (hstay _)
      · exact ⟨e, delay, herror, by rw [hanswer, hdecision]⟩
    · exact absurd (.fault f ha) (hstay _)
    · exact absurd (.returned x ha) (hstay _)
  · intro h ending hleaves
    obtain ⟨e, delay, herror, hanswer⟩ := h
    cases hleaves with
    | returned x ha => simp [error?, ha] at herror
    | fault f ha => simp [error?, ha] at herror
    | stopped e ha hstop => simp [hanswer] at hstop
    | policyRaised e f ha hraised => simp [hanswer] at hraised

/-- There is a pause after every attempt at which the loop goes on. -/
theorem length_delays {n : ℕ} (hstay : ∀ k < n, ∀ ending, ¬s.Leaves k ending) :
    (s.delays n).length = n := by
  induction n with
  | zero => rfl
  | succ n ih =>
    obtain ⟨e, delay, -, hanswer⟩ := forall_not_leaves_iff.mp (hstay n (by omega))
    have hlength := ih fun k hk => hstay k (by omega)
    rw [delays] at hlength ⊢
    simp only [List.range_succ, List.flatMap_append, List.flatMap_singleton, List.length_append,
      hlength, hanswer, Option.bind_some, delay?, Option.toList_some, List.length_singleton]

/-- No delay follows an attempt at which the loop is left. -/
theorem delays_succ_of_leaves {n : ℕ} {ending : Ending α} (hleaves : s.Leaves n ending) :
    s.delays (n + 1) = s.delays n := by
  have hnone : (s.answer? n).bind delay? = none := by
    cases hleaves with
    | returned x ha => simp [answer?, Retry.answer?, error?, ha]
    | fault f ha => simp [answer?, Retry.answer?, error?, ha]
    | stopped e ha hanswer => rw [hanswer]; rfl
    | policyRaised e f ha hanswer => rw [hanswer]; rfl
  simp only [delays, List.range_succ, List.flatMap_append, List.flatMap_singleton, hnone,
    Option.toList_none, List.append_nil]

/-- The loop has only warnings to say. -/
theorem level_remarks (k : ℕ) : ∀ notice ∈ s.remarks k, notice.level = .warning := by
  intro notice hnotice
  unfold remarks Retry.remarks givingUp at hnotice
  split at hnotice
  · obtain rfl := List.mem_singleton.mp hnotice
    rfl
  · split_ifs at hnotice
    · obtain rfl := List.mem_singleton.mp hnotice
      rfl
    · cases hnotice
  · cases hnotice

structure LeftAt (s : Setting α) (n : ℕ) (ending : Ending α) (r : Run α) : Prop
    extends s.Traces (n + 1) r where
  ending : r.ending = ending
  pauses : r.sleeps.length = n
  retried : ∀ k < n, ∃ e delay, error? (s.outcomes k) = some e ∧
    s.answer? k = some (.ok (.retryAfter delay)) ∧
    s.remarks k = [.retrying (k + 1) e.text e.kind delay.seconds]
  gaveUp : ∀ e, error? (s.outcomes n) = some e → s.answer? n = some (.ok .stop) → 0 < n →
    s.remarks n = [.gaveUp (n + 1) e.text e.kind]
  silent : s.answer? n ≠ some (.ok .stop) ∨ n = 0 → s.remarks n = []
  warnings : ∀ k ≤ n, ∀ notice ∈ s.remarks k, notice.level = .warning

/-- A run ends just if an attempt leaves the loop, by returning, by a fault, or
by an error at which the policy stops or fails. It is left at the first attempt
that does. -/
theorem run_ends_at_first_leaving (s : Setting α) :
    (∀ N, (s.run N).ending ≠ .pending ↔ ∃ k < N, ∃ ending, s.Leaves k ending) ∧
      ∀ n ending, s.Leaves n ending → (∀ k < n, ∀ other, ¬s.Leaves k other) →
        ∀ N, n < N → s.LeftAt n ending (s.run N) := by
  refine ⟨ended_iff, fun n ending hleaves hstay N hN => ?_⟩
  obtain ⟨htraces, hending⟩ := traces_of_leaves hleaves hstay hN
  refine ⟨htraces, hending, ?_, ?_, ?_, ?_, fun k _ => level_remarks k⟩
  · rw [htraces.sleeps, delays_succ_of_leaves hleaves, length_delays hstay]
  · intro k hk
    obtain ⟨e, delay, herror, hanswer⟩ := forall_not_leaves_iff.mp (hstay k hk)
    exact ⟨e, delay, herror, hanswer, by rw [remarks, hanswer, remarks_retryAfter herror]⟩
  · intro e herror hanswer hn
    rw [remarks, hanswer, remarks_stop herror]
    exact if_pos (by omega)
  · intro hsilent
    cases hleaves with
    | returned x ha => exact remarks_of_error?_eq_none (by rw [error?, ha])
    | fault f ha => exact remarks_of_error?_eq_none (by rw [error?, ha])
    | policyRaised e f ha hanswer => rw [remarks, hanswer, remarks_policyRaised]
    | stopped e ha hanswer =>
      obtain rfl := hsilent.resolve_left (not_not.mpr hanswer)
      rw [remarks, hanswer, remarks_stop (e := e) (by rw [error?, ha])]
      rfl

def twiceRetried : Setting Unit where
  policy := .custom fun k _ _ => .ok (if k < 2 then .retryAfter ⟨.zero, by decide⟩ else .stop)
  fractions := fun _ => .zero
  usage := .none
  outcomes := fun _ => ⟨.error (.error ⟨"down", none, .transport none⟩), []⟩

/-- Left at the third attempt, with all that the loop leaves. -/
theorem run_twiceRetried :
    (twiceRetried.run 5).ending ≠ .pending ∧
      twiceRetried.LeftAt 2 (.raised (.error ⟨"down", none, .transport none⟩))
        (twiceRetried.run 5) := by
  have hlast : twiceRetried.Leaves 2 (.raised (.error ⟨"down", none, .transport none⟩)) :=
    .stopped _ rfl rfl
  have hstay : ∀ k < 2, ∀ other, ¬twiceRetried.Leaves k other := by
    intro k hk
    refine forall_not_leaves_iff.mpr ⟨⟨"down", none, .transport none⟩, ⟨.zero, by decide⟩, rfl, ?_⟩
    match k, hk with
    | 0, _ => rfl
    | 1, _ => rfl
  exact ⟨((run_ends_at_first_leaving twiceRetried).1 5).mpr ⟨2, by decide, _, hlast⟩,
    (run_ends_at_first_leaving twiceRetried).2 2 _ hlast hstay 5 (by decide)⟩

end Setting

end VersionedStore.Retry
