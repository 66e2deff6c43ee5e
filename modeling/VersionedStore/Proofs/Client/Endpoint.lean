import VersionedStore.Proofs.BaseUrl
import VersionedStore.Client.Basic

/-!
The URLs that operations are posted to. The path of an operation is written behind
the address of the store, which leaves the place that the address leads to as it is.
It goes on with the path of the address just if neither a query nor a fragment
stands behind that path; otherwise it becomes a part of these.
-/

namespace VersionedStore

namespace Operation

theorem toList_path (op : Operation) : op.path.toList = '/' :: op.path.toList.drop 1 := by
  cases op <;> rfl

theorem pathSafe_path (op : Operation) : ∀ c ∈ op.path.toList, Url.pathSafe c = true := by
  have hall : op.path.toList.all Url.pathSafe = true := by
    cases op <;> decide
  exact List.all_eq_true.mp hall

/-- The path of an operation is one segment of plain characters. -/
theorem exists_segment (op : Operation) : ∃ segment, op.path.toList = '/' :: segment ∧
    Url.Plain segment ∧ ∀ c ∈ '/' :: segment, Url.pathSafe c = true := by
  refine ⟨op.path.toList.drop 1, op.toList_path, ⟨?_, ?_, ?_⟩, ?_⟩
  · cases op <;> decide
  · cases op <;> decide
  · cases op <;> decide
  · intro c hc
    rw [← op.toList_path] at hc
    exact op.pathSafe_path c hc

/-- The path of an operation goes on from any path without slashes at its end. -/
theorem continues_path (op : Operation) : Url.Continues op.path.toList := by
  have hpath : (op.path.toList.all fun c => !Url.endsPath c) = true := by
    cases op <;> decide
  have hvisible : (op.path.toList.all fun c => !Url.isControl c) = true := by
    cases op <;> decide
  refine ⟨?_, ?_, ?_⟩
  · intro c hc
    rw [op.toList_path, List.head?_cons] at hc
    exact (Option.mem_some.mp hc).symm
  · intro c hc
    simpa using List.all_eq_true.mp hpath c hc
  · intro c hc
    simpa using List.all_eq_true.mp hvisible c hc

theorem path_ne_nil (op : Operation) : op.path.toList ≠ [] := by
  rw [op.toList_path]
  exact List.cons_ne_nil _ _

theorem getLast?_path (op : Operation) : ∀ c ∈ op.path.toList.getLast?, c ≠ '/' := by
  have hlast : op.path.toList.getLast? ≠ some '/' := by
    cases op <;> decide
  rintro c hc rfl
  exact hlast hc

/-- What becomes of an address when the path of an operation is written behind it. -/
structure PostedTo (op : Operation) (address validated posted : String) : Prop where
  parts : Url.split posted.toList = (Url.split address.toList).extend op.path.toList
  below : ((Url.split posted.toList).path =
        Url.unslashed (Url.split address.toList).path ++ op.path.toList ∧
      (Url.split posted.toList).query = none ∧ (Url.split posted.toList).fragment = none) ↔
    (Url.split address.toList).query = none ∧ (Url.split address.toList).fragment = none
  readable : posted.toList.length ≤ Url.maxLength →
    ∃ u v w, Url.ofText address.toList = .ok u ∧ Url.ofText validated.toList = .ok v ∧
      Url.ofText posted.toList = .ok w ∧ w.isAbsolute = true ∧ w.SameOrigin u ∧
      ((Url.split address.toList).query = none → (Url.split address.toList).fragment = none →
        w.path = v.path ++ op.path.toList ∧ w.query = none ∧ w.fragment = none)
  tooLong : Url.maxLength < posted.toList.length → Url.ofText posted.toList = .error .tooLong

end Operation

namespace BaseUrl.Names

variable {text : String} {u : Url}

/-- The URL of an operation has the path of the address, and then that of the
operation. -/
theorem path_of_extend (h : Names text u) (op : Operation)
    (hquery : (Url.split text.toList).query = none)
    (hfragment : (Url.split text.toList).fragment = none) :
    (u.moved ((Url.split text.toList).extend op.path.toList)).path =
      (u.moved ((Url.split text.toList).extend [])).path ++ op.path.toList := by
  obtain ⟨segment, hsegment, hplain, hsafe⟩ := op.exists_segment
  have hrooted : ∀ c ∈ (Url.unslashed (Url.split text.toList).path).head?, c = '/' :=
    fun c hc => h.absolute_split.rooted c (Text.mem_head?_of_trimEnd hc)
  rw [Url.Parts.extend_of_path hquery hfragment, Url.Parts.extend_of_path hquery hfragment,
    hsegment]
  simp only [Url.moved, List.append_nil]
  exact Url.escape_normalPath_append hrooted hplain hsafe

/-- What the path of an operation does to an accepted address, part by part. -/
theorem postedTo (h : Names text u) (op : Operation) :
    op.PostedTo text (BaseUrl.withoutSlashes text) (BaseUrl.withoutSlashes text ++ op.path) := by
  have hposted : (BaseUrl.withoutSlashes text ++ op.path).toList =
      Url.unslashed text.toList ++ op.path.toList := by
    rw [String.toList_append, toList_withoutSlashes]
  obtain ⟨hparts, hreads⟩ := h.extend op.continues_path
  rw [← hposted] at hparts hreads
  refine ⟨hparts, ?_, ?_, ?_⟩
  · rw [hparts]
    constructor
    · intro hbelow
      exact (Url.Parts.extend_path_iff op.path_ne_nil op.getLast?_path).mp hbelow.1
    · intro hnone
      exact ⟨(Url.Parts.extend_path_iff op.path_ne_nil op.getLast?_path).mpr hnone,
        Url.Parts.extend_query_eq_none_iff.mpr hnone.1,
        Url.Parts.extend_fragment_eq_none_iff.mpr hnone.2⟩
  · intro hshort
    rw [if_neg (Nat.not_lt.mpr hshort)] at hreads
    refine ⟨u, _, _, h.reads, h.withoutSlashes.reads, hreads,
      Url.sameOrigin_moved.isAbsolute.trans h.isAbsolute, Url.sameOrigin_moved,
      fun hquery hfragment => ⟨h.path_of_extend op hquery hfragment, ?_, ?_⟩⟩
    · simp [Url.moved, Url.Parts.extend_query_eq_none_iff.mpr hquery]
    · simp [Url.moved, Url.Parts.extend_fragment_eq_none_iff.mpr hfragment]
  · intro hlong
    rwa [if_pos hlong] at hreads

end BaseUrl.Names

namespace Client

variable {text contentType : String} {policy : RetryPolicy} {c : Client}

theorem of_eq_ok_iff : of text policy contentType = .ok c ↔
    (∃ u, BaseUrl.Names text u) ∧ c = ⟨BaseUrl.withoutSlashes text, policy, contentType⟩ := by
  rw [of]
  cases hcheck : BaseUrl.check text with
  | error f =>
    refine iff_of_false nofun fun h => ?_
    rw [BaseUrl.check_eq_ok_iff.mpr ⟨h.1, rfl⟩] at hcheck
    cases hcheck
  | ok v =>
    obtain ⟨hnames, rfl⟩ := BaseUrl.check_eq_ok_iff.mp hcheck
    simp [Except.map, hnames, eq_comm]

/-- An operation is posted to a URL of the same origin as the address of the client.
Its path goes on with the path of the address just if the address has neither a
query nor a fragment. -/
theorem sending_goes_below_address (hclient : of text policy contentType = .ok c) (op : Operation)
    (request : op.Request) :
    op.PostedTo text c.baseUrl (c.sending op request).url := by
  obtain ⟨⟨u, hu⟩, rfl⟩ := of_eq_ok_iff.mp hclient
  exact hu.postedTo op

/-- An address with user information, a port, and slashes at its end. -/
theorem sending_below_nested :
    ∃ c, of "https://me@store:8443/vss//" .never jsonContentType = .ok c ∧
      Operation.putObject.PostedTo "https://me@store:8443/vss//" c.baseUrl
        (c.sending .putObject ⟨"store", [], [], none⟩).url ∧
      (c.sending .putObject ⟨"store", [], [], none⟩).url =
        "https://me@store:8443/vss/putObjects" := by
  have hcheck : BaseUrl.check "https://me@store:8443/vss//" = .ok "https://me@store:8443/vss" := by
    decide +kernel
  have hclient : of "https://me@store:8443/vss//" .never jsonContentType =
      .ok ⟨"https://me@store:8443/vss", .never, jsonContentType⟩ := by
    rw [of, hcheck]
    rfl
  exact ⟨_, hclient, sending_goes_below_address hclient .putObject ⟨"store", [], [], none⟩, rfl⟩

/-- Behind an address with a query, a write and a deletion go to one path, and what
tells them apart is in the query. -/
theorem sending_into_query :
    ∃ c, of "https://store/vss?tenant=1" .never jsonContentType = .ok c ∧
      let put := Url.split (c.sending .putObject ⟨"store", [], [], none⟩).url.toList
      let delete := Url.split (c.sending .deleteObject ⟨"store", "key", none⟩).url.toList
      put.path = "/vss".toList ∧ delete.path = "/vss".toList ∧
      put.path ≠ Url.unslashed (Url.split "https://store/vss?tenant=1".toList).path ++
        Operation.putObject.path.toList ∧
      put.query = some "tenant=1/putObjects".toList ∧
      delete.query = some "tenant=1/deleteObject".toList := by
  have hcheck : BaseUrl.check "https://store/vss?tenant=1" = .ok "https://store/vss?tenant=1" := by
    decide +kernel
  refine ⟨⟨"https://store/vss?tenant=1", .never, jsonContentType⟩, ?_, ?_⟩
  · rw [of, hcheck]
    rfl
  · decide +kernel

end Client

end VersionedStore
