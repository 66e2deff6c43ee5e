import VersionedStore.Proofs.Failure.Refusal
import VersionedStore.Proofs.Message.Language

/-!
What the log owes to requests and to bodies. The line of an error shows its words,
and whether there is another attempt is decided by its class; of the body of an answer
only the report of a refusal has a part in either. So two runs whose far sides agree
on that much leave the same notices, whatever was sent and whatever the other bodies
hold.
-/

namespace VersionedStore

variable {α β : Type}

/-- Results that are told apart by what they failed with at most. -/
theorem eq_or_error_of_toOption_eq {ε : Type} {x y : Except ε β} (h : x.toOption = y.toOption) :
    x = y ∨ ∃ f f', x = .error f ∧ y = .error f' := by
  cases x with
  | error f =>
    cases y with
    | error f' => exact .inr ⟨f, f', rfl, rfl⟩
    | ok b => cases h
  | ok a =>
    cases y with
    | error f' => cases h
    | ok b => exact .inl (congrArg _ (Option.some.inj h))

namespace StoreError

/-- Errors that show the same words and that differ in nothing a decision may look at. -/
structure ReadsAs (e e' : StoreError) : Prop where
  text : e.text = e'.text
  errorClass : e.errorClass = e'.errorClass
  kind : e.kind = e'.kind
  retryable : e.retryable = e'.retryable
  status : e.status? = e'.status?

/-- A decision about an error by its class, its kind, its status and whether it may be
retried. What the decision fails with, if it does, is its own matter. -/
def Discreet (decide : StoreError → Except Fault β) : Prop :=
  ∀ e e' : StoreError, e.errorClass = e'.errorClass → e.kind = e'.kind →
    e.retryable = e'.retryable → e.status? = e'.status? →
    (decide e).toOption = (decide e').toOption

variable {e e' : StoreError}

theorem ReadsAs.refl (e : StoreError) : e.ReadsAs e := ⟨rfl, rfl, rfl, rfl, rfl⟩

/-- A discreet decision goes the same way for errors that read alike, or fails for both. -/
theorem Discreet.toOption_eq {decide : StoreError → Except Fault β} (h : Discreet decide)
    (he : e.ReadsAs e') : (decide e).toOption = (decide e').toOption :=
  h e e' he.errorClass he.kind he.retryable he.status

end StoreError

def Base.Discreet : Base → Prop
  | .never | .backoff _ => True
  | .custom answer => ∀ consultations attempt,
    StoreError.Discreet (answer consultations attempt)

def Layer.Discreet : Layer → Prop
  | .maxAttempts .. | .jitter .. => True
  | .skip test => StoreError.Discreet test

structure RetryPolicy.Discreet (p : RetryPolicy) : Prop where
  base : p.base.Discreet
  layers : ∀ l ∈ p.layers, l.Discreet

namespace RetryPolicy

variable (fractions : Fractions) {base : Base} {layers : List Layer} (usage : Usage) (attempt : ℤ)
  {e e' : StoreError}

/-- A base decides alike about errors that read alike, and uses up the same. -/
theorem base_decide_of_readsAs (hbase : base.Discreet) (h : e.ReadsAs e') :
    (base.decide usage attempt e).1.toOption = (base.decide usage attempt e').1.toOption ∧
      (base.decide usage attempt e).2 = (base.decide usage attempt e').2 := by
  cases base with
  | never => exact ⟨rfl, rfl⟩
  | backoff b => simp only [Base.decide, h.retryable, and_self]
  | custom answer => exact ⟨(hbase _ _).toOption_eq h, rfl⟩

/-- A discreet policy does not tell errors apart that read alike. The induction is on
the layers. -/
theorem decideWithin_of_readsAs (hbase : base.Discreet) (hlayers : ∀ l ∈ layers, l.Discreet)
    (h : e.ReadsAs e') :
    (decideWithin fractions base layers usage attempt e).1.toOption =
        (decideWithin fractions base layers usage attempt e').1.toOption ∧
      (decideWithin fractions base layers usage attempt e).2 =
        (decideWithin fractions base layers usage attempt e').2 := by
  induction layers with
  | nil => exact base_decide_of_readsAs usage attempt hbase h
  | cons l layers ih =>
    obtain ⟨hl, hrest⟩ := List.forall_mem_cons.mp hlayers
    obtain ⟨hanswer, husage⟩ := ih hrest
    cases l with
    | maxAttempts n =>
      simp only [decideWithin]
      split_ifs
      · exact ⟨rfl, rfl⟩
      · exact ⟨hanswer, husage⟩
    | skip test =>
      simp only [decideWithin]
      rcases eq_or_error_of_toOption_eq (hl.toOption_eq h) with heq | ⟨f, f', hf, hf'⟩
      -- one answer for both errors, or a fault for each
      · rw [← heq]
        rcases test e with f | goesOn | stops
        · exact ⟨rfl, rfl⟩
        · exact ⟨hanswer, husage⟩
        · exact ⟨rfl, rfl⟩
      · rw [hf, hf']
        exact ⟨rfl, rfl⟩
    | jitter max =>
      simp only [decideWithin]
      rcases hinner : decideWithin fractions base layers usage attempt e with ⟨answer, after⟩
      rcases hinner' : decideWithin fractions base layers usage attempt e' with ⟨answer', after'⟩
      simp only [hinner, hinner'] at hanswer husage
      subst husage
      rcases eq_or_error_of_toOption_eq hanswer with rfl | ⟨f, f', rfl, rfl⟩
      · exact ⟨rfl, rfl⟩
      · exact ⟨rfl, rfl⟩

end RetryPolicy

/-- Outcomes that the loop and the log do not tell apart: replies whatever they hold,
faults, and errors that read alike. -/
inductive EndsAs : Except Raised α → Except Raised α → Prop where
  | returned (x y : α) : EndsAs (.ok x) (.ok y)
  | fault (f f' : Fault) : EndsAs (.error (.fault f)) (.error (.fault f'))
  | error {e e' : StoreError} (h : e.ReadsAs e') :
    EndsAs (.error (.error e)) (.error (.error e'))

theorem EndsAs.refl : ∀ outcome : Except Raised α, EndsAs outcome outcome
  | .ok x => .returned x x
  | .error (.fault f) => .fault f f
  | .error (.error e) => .error (.refl e)

structure Attempt.LogsAs (a a' : Attempt α) : Prop where
  notices : a.notices = a'.notices
  outcome : EndsAs a.outcome a'.outcome

theorem Attempt.LogsAs.refl (a : Attempt α) : a.LogsAs a := ⟨rfl, .refl _⟩

namespace Retry

variable {policy : RetryPolicy} (fractions : Fractions) (usage : Usage) (attempt : ℕ)

theorem givingUp_of_readsAs {e e' : StoreError} (h : e.ReadsAs e') :
    givingUp attempt e = givingUp attempt e' := by
  rw [givingUp, givingUp, h.text, h.kind]

/-- Attempts that are not told apart are judged alike. -/
theorem judge_of_logsAs (hpolicy : policy.Discreet) {a a' : Attempt α} (h : a.LogsAs a') :
    let j := judge policy fractions usage attempt a
    let j' := judge policy fractions usage attempt a'
    j.notices = j'.notices ∧ j.usage = j'.usage ∧ j.next.sleeps = j'.next.sleeps := by
  obtain ⟨outcome, notices⟩ := a
  obtain ⟨outcome', notices'⟩ := a'
  obtain ⟨rfl, hends⟩ := h
  cases hends with
  | returned x y => exact ⟨rfl, rfl, rfl⟩
  | fault f f' => exact ⟨rfl, rfl, rfl⟩
  | @error e e' he =>
    obtain ⟨hanswer, husage⟩ :=
      RetryPolicy.decideWithin_of_readsAs fractions usage attempt hpolicy.base hpolicy.layers he
    change (policy.decide _ _ _ e).1.toOption = (policy.decide _ _ _ e').1.toOption at hanswer
    change (policy.decide _ _ _ e).2 = (policy.decide _ _ _ e').2 at husage
    rcases hdecide : policy.decide fractions usage attempt e with ⟨answer, after⟩
    rcases hdecide' : policy.decide fractions usage attempt e' with ⟨answer', after'⟩
    rw [hdecide, hdecide'] at hanswer husage
    obtain rfl : after = after' := husage
    simp only [judge, hdecide, hdecide']
    rcases eq_or_error_of_toOption_eq hanswer with rfl | ⟨f, f', rfl, rfl⟩
    · rcases answer with f | stop | delay
      · exact ⟨rfl, rfl, rfl⟩
      · exact ⟨by rw [givingUp_of_readsAs attempt he], rfl, rfl⟩
      · exact ⟨by rw [he.text, he.kind], rfl, rfl⟩
    · exact ⟨rfl, rfl, rfl⟩

/-- Runs leave the same notices if the attempts that are made are not told apart. The
induction is on the tape; what the first attempt leaves to the rest is the usage. -/
theorem notices_runFrom_of_logsAs (hpolicy : policy.Discreet) {tape tape' : List (Attempt α)}
    (hlength : tape.length = tape'.length)
    (h : ∀ i < (runFrom policy fractions usage attempt tape).attempts, ∀ a a',
      tape[i]? = some a → tape'[i]? = some a' → a.LogsAs a') :
    (runFrom policy fractions usage attempt tape).notices =
      (runFrom policy fractions usage attempt tape').notices := by
  induction tape generalizing tape' usage attempt with
  | nil =>
    obtain rfl := List.length_eq_zero_iff.mp hlength.symm
    rfl
  | cons a tape ih =>
    cases tape' with
    | nil => cases hlength
    | cons a' tape' =>
      have hpos : 0 < (runFrom policy fractions usage attempt (a :: tape)).attempts := by
        simp only [runFrom]
        split <;> simp
      obtain ⟨hnotices, husage, hnext⟩ :=
        judge_of_logsAs fractions usage attempt hpolicy (h 0 hpos a a' rfl rfl)
      simp only [runFrom] at h ⊢
      cases hj : (judge policy fractions usage attempt a).next with
      | finish ending =>
        cases hj' : (judge policy fractions usage attempt a').next with
        | finish ending' => exact hnotices
        | again delay' => simp [hj, hj', Next.sleeps] at hnext
      | again delay =>
        cases hj' : (judge policy fractions usage attempt a').next with
        | finish ending' => simp [hj, hj', Next.sleeps] at hnext
        | again delay' =>
          rw [hj] at h
          have hrest := ih (judge policy fractions usage attempt a).usage (attempt + 1)
            (Nat.succ.inj hlength) fun i hi => h (i + 1) (Nat.succ_lt_succ hi)
          dsimp only
          rw [hnotices, hrest, husage]

end Retry

namespace Reaction

/-- What far sides have to agree on for the log to be the same: a failure, or the
status of an answer and then, of a success, whether its body is a response, and of a
refusal whether it has a body, the report in it, and how long a body is that is no
report. -/
inductive Agree (op : Operation) : Reaction → Reaction → Prop where
  | failure (r : Raised) : Agree op (.failure r) (.failure r)
  | accepted {r r' : Response} (hstatus : r.status = r'.status)
    (hsuccess : 200 ≤ r.status ∧ r.status < 300)
    (hdecodes : (op.response.decode r.body).isOk = (op.response.decode r'.body).isOk) :
    Agree op (.answer r) (.answer r')
  | refused {r r' : Response} (hstatus : r.status = r'.status)
    (hrefused : ¬(200 ≤ r.status ∧ r.status < 300))
    (hempty : r.body = .empty ↔ r'.body = .empty)
    (hreport : (MessageType.errorResponse.decode r.body).toOption =
      (MessageType.errorResponse.decode r'.body).toOption)
    (hsize : (MessageType.errorResponse.decode r.body).isOk = false →
      r.body.size = r'.body.size) : Agree op (.answer r) (.answer r')

end Reaction

namespace Refusal

/-- The report of a refusal and what the log says of its body. -/
theorem report?_eq_of_agree {body body' : ByteArray} (hempty : body = .empty ↔ body' = .empty)
    (hreport : (MessageType.errorResponse.decode body).toOption =
      (MessageType.errorResponse.decode body').toOption)
    (hsize : (MessageType.errorResponse.decode body).isOk = false → body.size = body'.size) :
    report? body = report? body' := by
  have hsame : body.isEmpty = body'.isEmpty := by
    rw [Bool.eq_iff_iff, isEmpty_iff, isEmpty_iff, hempty]
  rw [report?, report?, hsame]
  split_ifs
  · rfl
  · rcases eq_or_error_of_toOption_eq hreport with heq | ⟨e, e', he, he'⟩
    · rw [← heq]
      cases hbody : MessageType.errorResponse.decode body with
      | ok report => rfl
      | error e => simp only [hsize (by rw [hbody]; rfl)]
    · simp only [he, he', hsize (by rw [he]; rfl)]

end Refusal

namespace Client

variable {op : Operation} {r r' : Response}

/-- The words of a refusal are those of its status and of its report. -/
theorem refuse_of_agree (op : Operation) (hstatus : r.status = r'.status)
    (hreport : Refusal.report? r.body = Refusal.report? r'.body) :
    (refuse op r).1.ReadsAs (refuse op r').1 ∧ (refuse op r).2 = (refuse op r').2 := by
  obtain ⟨status, body⟩ := r
  obtain ⟨status', body'⟩ := r'
  obtain rfl : status = status' := hstatus
  have herror : (refuse op ⟨status, body⟩).1.ReadsAs (refuse op ⟨status, body'⟩).1 := by
    simp only [refuse, StoreError.ofRefusal, hreport]
    exact ⟨rfl, rfl, rfl, rfl, rfl⟩
  refine ⟨herror, ?_⟩
  simp only [refuse, StoreError.ofRefusal] at herror ⊢
  rw [hreport] at herror ⊢
  rw [herror.text]

/-- A write that was answered with success has no reply to show. -/
theorem accept_of_agree (hstatus : r.status = r'.status)
    (hdecodes : (Operation.putObject.response.decode r.body).isOk =
      (Operation.putObject.response.decode r'.body).isOk) :
    EndsAs ((accept .putObject r).mapError .error) ((accept .putObject r').mapError .error) := by
  simp only [accept]
  cases hbody : Operation.putObject.response.decode r.body with
  | ok reply =>
    cases hbody' : Operation.putObject.response.decode r'.body with
    | ok reply' => exact .returned reply reply'
    | error e => simp [hbody, hbody', Except.isOk, Except.toBool] at hdecodes
  | error e =>
    cases hbody' : Operation.putObject.response.decode r'.body with
    | ok reply' => simp [hbody, hbody', Except.isOk, Except.toBool] at hdecodes
    | error e' =>
      exact .error ⟨rfl, rfl, rfl, rfl, congrArg some hstatus⟩

/-- Every answer gets through, or none does, and for the same reason. -/
def Uniform (receive : Reaction → Attempt Response) : Prop :=
  (∀ r, receive (.answer r) = ⟨.ok r, []⟩) ∨
    ∃ f, ∀ r, receive (.answer r) = ⟨.error (.fault f), []⟩

variable {receive : Reaction → Attempt Response} {reaction reaction' : Reaction}

theorem attempt_of_success (h : 200 ≤ r.status ∧ r.status < 300) :
    attempt op ⟨.ok r, []⟩ = ⟨(accept op r).mapError .error, []⟩ := by
  simp only [attempt, isSuccess_iff.mpr h, if_true]

theorem attempt_of_refusal (h : ¬(200 ≤ r.status ∧ r.status < 300)) :
    attempt op ⟨.ok r, []⟩ = ⟨.error (.error (refuse op r).1), (refuse op r).2⟩ := by
  have hstatus := Bool.eq_false_iff.mpr (isSuccess_iff.not.mpr h)
  simp only [attempt, hstatus, Bool.false_eq_true, if_false, List.nil_append]

/-- Attempts leave the same notices if the far sides agree. -/
theorem notices_attempt_of_agree (hreceive : Uniform receive) (h : reaction.Agree op reaction') :
    (attempt op (receive reaction)).notices = (attempt op (receive reaction')).notices := by
  rcases hreceive with hpass | ⟨f, hlost⟩
  · cases h with
    | failure r => rfl
    | accepted hstatus hsuccess hdecodes =>
      rw [hpass, hpass, attempt_of_success hsuccess, attempt_of_success (hstatus ▸ hsuccess)]
    | refused hstatus hrefused hempty hreport hsize =>
      rw [hpass, hpass, attempt_of_refusal hrefused, attempt_of_refusal (hstatus ▸ hrefused)]
      exact (refuse_of_agree op hstatus (Refusal.report?_eq_of_agree hempty hreport hsize)).2
  · cases h with
    | failure r => rfl
    | _ => rw [hlost, hlost]

theorem logsAs_attempt_of_agree (hreceive : Uniform receive)
    (h : reaction.Agree .putObject reaction') :
    (attempt .putObject (receive reaction)).LogsAs (attempt .putObject (receive reaction')) := by
  refine ⟨notices_attempt_of_agree hreceive h, ?_⟩
  rcases hreceive with hpass | ⟨f, hlost⟩
  · cases h with
    | failure r => exact .refl _
    | accepted hstatus hsuccess hdecodes =>
      rw [hpass, hpass, attempt_of_success hsuccess, attempt_of_success (hstatus ▸ hsuccess)]
      exact accept_of_agree hstatus hdecodes
    | refused hstatus hrefused hempty hreport hsize =>
      rw [hpass, hpass, attempt_of_refusal hrefused, attempt_of_refusal (hstatus ▸ hrefused)]
      exact .error
        (refuse_of_agree _ hstatus (Refusal.report?_eq_of_agree hempty hreport hsize)).1
  · cases h with
    | failure r => exact .refl _
    | _ =>
      rw [hlost, hlost]
      exact .refl _

/-- Two clients that reach their stores in the same way: by transports of their own, or
over open or closed connections to one address. -/
inductive SameWay : Client → Transport → Client → Transport → Prop where
  | custom (c c' : Client) (closes closes' : ℕ) :
    SameWay c (.custom closes) c' (.custom closes')
  | http {c c' : Client} {k k' : Connection} (hclosed : k.closed = k'.closed)
    (hurl : c.baseUrl = c'.baseUrl) (htype : c.contentType = c'.contentType) :
    SameWay c (.http k) c' (.http k')

/-- What an HTTP connection makes of a URL, and whether it sends anything there. -/
theorem prepareHttp_fst {k k' : Connection} {s s' : Sending} (hclosed : k.closed = k'.closed)
    (hurl : s.url = s'.url) (htype : s.contentType = s'.contentType) :
    (Transport.prepareHttp k s).map Prod.fst = (Transport.prepareHttp k' s').map Prod.fst := by
  simp only [Transport.prepareHttp, hurl, htype, hclosed]
  rcases Url.ofText s'.url.toList with f | url
  · rfl
  rcases Text.asciiFault? s'.contentType.toList with _ | m
  · simp only [Except.mapError, bind, Except.bind]
    rcases Transport.hostFault? url with _ | f
    · rcases k'.closed with _ | _ <;> rfl
    · rfl
  · rfl

variable {c c' : Client} {t t' : Transport}

/-- What comes back does not depend on what is sent. -/
theorem prepare_snd_of_sameWay (h : SameWay c t c' t') (request request' : op.Request) :
    (t.prepare (c.sending op request)).map Prod.snd =
      (t'.prepare (c'.sending op request')).map Prod.snd := by
  cases h with
  | custom => rfl
  | @http _ k k' hclosed hurl htype =>
    have hsending : (c.sending op request).url = (c'.sending op request').url := by
      simp only [sending, hurl]
    have hmap : ∀ x : Except Fault (Url × Sending),
        (x.map fun x => (x.2, Transport.receiveHttp x.1)).map Prod.snd =
          (x.map Prod.fst).map Transport.receiveHttp := by
      intro x
      cases x <;> rfl
    simp only [Transport.prepare, hmap, prepareHttp_fst hclosed hsending htype]

/-- The URL alone decides whether answers get through, not what they are. -/
theorem uniform_of_prepare {s sent : Sending} (h : t.prepare s = .ok (sent, receive)) :
    Uniform receive := by
  cases t with
  | custom closes =>
    obtain ⟨-, rfl⟩ := Prod.mk.inj (Except.ok.inj h)
    exact .inl fun r => rfl
  | http k =>
    rcases hprepare : Transport.prepareHttp k s with f | ⟨url, s'⟩
    · simp [Transport.prepare, hprepare, Except.map] at h
    simp only [Transport.prepare, hprepare, Except.map] at h
    obtain ⟨-, rfl⟩ := Prod.mk.inj (Except.ok.inj h)
    cases hfault : Transport.answerFault? url with
    | none => exact .inl fun r => by simp only [Transport.receiveHttp, hfault]
    | some f => exact .inr ⟨f, fun r => by simp only [Transport.receiveHttp, hfault]⟩

theorem notices_once {α : Type} (usage : Usage) {tape tape' : List (Attempt α)}
    (hlength : tape.length = tape'.length)
    (h : ∀ a a', tape[0]? = some a → tape'[0]? = some a' → a.notices = a'.notices) :
    (once usage tape).notices = (once usage tape').notices := by
  cases tape with
  | nil =>
    obtain rfl := List.length_eq_zero_iff.mp hlength.symm
    rfl
  | cons a tape =>
    cases tape' with
    | nil => cases hlength
    | cons a' tape' => exact h a a' rfl rfl

theorem attempts_once_pos {α : Type} (usage : Usage) {tape : List (Attempt α)} {a : Attempt α}
    (h : tape[0]? = some a) : 0 < (once usage tape).attempts := by
  cases tape with
  | nil => cases h
  | cons => exact Nat.zero_lt_one

/-- Runs of an operation leave the same notices if the attempts that are made leave the
same and, for a write, are not told apart by the policy either. -/
theorem notices_run_of_logsAs (hpolicy : c.policy = c'.policy) (hdiscreet : c.policy.Discreet)
    (fractions : Fractions) (usage : Usage) {tape tape' : List (Attempt op.Reply)}
    (hlength : tape.length = tape'.length)
    (h : ∀ i < (c.run fractions usage op tape).attempts, ∀ a a',
      tape[i]? = some a → tape'[i]? = some a' →
        a.notices = a'.notices ∧ (op = .putObject → a.LogsAs a')) :
    (c.run fractions usage op tape).notices = (c'.run fractions usage op tape').notices := by
  cases op with
  | putObject =>
    simp only [run, ← hpolicy]
    exact Retry.notices_runFrom_of_logsAs fractions usage 1 hdiscreet hlength
      fun i hi a a' ha ha' => (h i hi a a' ha ha').2 rfl
  | _ =>
    exact notices_once usage hlength fun a a' ha ha' =>
      (h 0 (attempts_once_pos usage ha) a a' ha ha').1

/-- Two runs of an operation leave the same notices in the log, level and text, if the
far sides agree at each attempt that is made. Neither what is asked for nor what a
successful body holds can be seen there. -/
theorem notices_eq_of_agree {op : Operation} {c c' : Client} {t t' : Transport}
    (hway : SameWay c t c' t') (hpolicy : c.policy = c'.policy) (hdiscreet : c.policy.Discreet)
    (fractions : Fractions) (usage : Usage) (request request' : op.Request)
    (reactions reactions' : ℕ → Reaction) (n : ℕ)
    (hagree : ∀ i < (c.call t fractions usage op request
      ((List.range n).map reactions)).run.attempts, (reactions i).Agree op (reactions' i)) :
    (c.call t fractions usage op request ((List.range n).map reactions)).run.notices =
      (c'.call t' fractions usage op request' ((List.range n).map reactions')).run.notices := by
  have hsnd := prepare_snd_of_sameWay hway request request'
  rcases hprepare : t.prepare (c.sending op request) with f | ⟨sent, receive⟩ <;>
    rcases hprepare' : t'.prepare (c'.sending op request') with f' | ⟨sent', receive'⟩ <;>
    rw [hprepare, hprepare'] at hsnd
  · obtain rfl : f = f' := Except.error.inj hsnd
    simp only [call, hprepare, hprepare']
    exact notices_run_of_logsAs hpolicy hdiscreet fractions usage rfl fun i _ a a' ha ha' => by
      obtain rfl := Option.some.inj (ha.symm.trans ha')
      exact ⟨rfl, fun _ => .refl a⟩
  · cases hsnd
  · cases hsnd
  · obtain rfl : receive = receive' := Except.ok.inj hsnd
    have hreceive := uniform_of_prepare hprepare
    simp only [call, hprepare, hprepare'] at hagree ⊢
    refine notices_run_of_logsAs hpolicy hdiscreet fractions usage (by simp) ?_
    intro i hi a a' ha ha'
    simp only [List.getElem?_map, Option.map_eq_some_iff] at ha ha'
    obtain ⟨x, ⟨k, hk, rfl⟩, rfl⟩ := ha
    obtain ⟨x', ⟨k', hk', rfl⟩, rfl⟩ := ha'
    obtain rfl := Option.some.inj (hk.symm.trans hk')
    obtain ⟨_, heq⟩ := List.getElem?_eq_some_iff.mp hk
    obtain rfl : i = k := by simpa using heq
    exact ⟨notices_attempt_of_agree hreceive (hagree i hi),
      fun hop => by subst hop; exact logsAs_attempt_of_agree hreceive (hagree i hi)⟩

/-- Two writes that have nothing in common: each is refused once with a body that is no
report, and accepted then. -/
theorem notices_eq_of_two_writes :
    let policy : RetryPolicy := ⟨.custom fun _ _ _ => .ok (.retryAfter ⟨.zero, by decide⟩),
      [.skip fun e => .ok (e.status? == some 409), .maxAttempts 3 (by decide)]⟩
    let c : Client := ⟨"http://a", policy, "json"⟩
    let c' : Client := ⟨"http://b", policy, "xml"⟩
    let request : PutObjectRequest := ⟨"s", [⟨"k", some 1, ⟨#[1]⟩⟩], [], none⟩
    let request' : PutObjectRequest := ⟨"t", [], [⟨"secret", none, .empty⟩], some 7⟩
    let reactions (refusal success : String) (i : ℕ) : Reaction :=
      .answer (if i = 0 then ⟨503, refusal.toUTF8⟩ else ⟨200, success.toUTF8⟩)
    let call := c.call (.custom 0) (fun _ => .zero) .none .putObject request
      ((List.range 2).map (reactions "oops" "\x7b\x7d"))
    let call' := c'.call (.custom 1) (fun _ => .zero) .none .putObject request'
      ((List.range 2).map (reactions "nope" "\x7b\"x\":1\x7d"))
    call.run.notices = call'.run.notices ∧
      call.run.notices.map (·.level) = [.debug, .debug, .warning] := by
  intro policy c c' request request' reactions call call'
  have hdiscreet : policy.Discreet := by
    refine ⟨fun _ _ _ _ _ _ _ _ => rfl, fun l hl => ?_⟩
    simp only [policy, List.mem_cons, List.not_mem_nil, or_false] at hl
    rcases hl with rfl | rfl
    · intro e e' _ _ _ hstatus
      simp only [hstatus]
    · trivial
  have hrefused : Reaction.Agree .putObject (.answer ⟨503, "oops".toUTF8⟩)
      (.answer ⟨503, "nope".toUTF8⟩) :=
    .refused rfl (by decide) (by decide) (by decide) (by decide)
  have hblank : Json.Grammar.Denotes "\x7b\x7d".toUTF8 (.object []) :=
    Json.Grammar.denotes_toUTF8.mpr (by cbv)
  have hextra : Json.Grammar.Denotes "\x7b\"x\":1\x7d".toUTF8 (.object [("x", .integer 1)]) :=
    Json.Grammar.denotes_toUTF8.mpr (by cbv)
  have haccepted : Reaction.Agree .putObject (.answer ⟨200, "\x7b\x7d".toUTF8⟩)
      (.answer ⟨200, "\x7b\"x\":1\x7d".toUTF8⟩) := by
    refine .accepted rfl (by decide) ?_
    rw [MessageType.decode_of_denotes _ hblank, MessageType.decode_of_denotes _ hextra]
    rfl
  have hagree (i : ℕ) : (reactions "oops" "\x7b\x7d" i).Agree .putObject
      (reactions "nope" "\x7b\"x\":1\x7d" i) := by
    by_cases hi : i = 0
    · simpa only [reactions, if_pos hi] using hrefused
    · simpa only [reactions, if_neg hi] using haccepted
  have hway : Client.SameWay c (.custom 0) c' (.custom 1) := .custom c c' 0 1
  have hnotices := notices_eq_of_agree hway rfl hdiscreet (fun _ => .zero) .none request request'
    _ _ 2 fun i _ => hagree i
  exact ⟨hnotices, by decide +kernel⟩

end Client

end VersionedStore
