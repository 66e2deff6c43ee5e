import VersionedStore.Proofs.Config.Environment

/-!
The address of a client. An accepted text loses nothing but the slashes at its
end, so that the address leads to where the text led to, and it is accepted again
as it is. The address of an accepted configuration has been checked already, and
so a client can always be had for it, under this very address.
-/

namespace VersionedStore

open VersionedStore.Field

structure BaseUrl.Keeps (text url : String) : Prop where
  slashes : ∃ n, text.toList = url.toList ++ List.replicate n '/'
  unslashed : url.toList.getLast? ≠ some '/'
  origin : ∃ u v, Names text u ∧ Names url v ∧ v.SameOrigin u
  again : check url = .ok url

/-- What the check makes of a text keeps all of it but slashes, and passes the check
again. -/
theorem BaseUrl.keeps_of_check {text url : String} (h : check text = .ok url) :
    Keeps text url where
  slashes := by
    rw [(check_eq_ok_iff.mp h).2, toList_withoutSlashes]
    exact Text.exists_eq_trimEnd_append '/' text.toList
  unslashed := by
    rw [(check_eq_ok_iff.mp h).2]
    exact getLast?_withoutSlashes text
  origin := by
    obtain ⟨⟨u, hu⟩, hurl⟩ := check_eq_ok_iff.mp h
    rw [hurl]
    exact ⟨u, _, hu, hu.withoutSlashes, Url.sameOrigin_moved⟩
  again := check_of_check h

namespace Config

inductive Accepted (c : Config) : Prop where
  | given {ms : List (String × Raw)} (h : readMembers ms = .ok c)
  | loaded {env : Environment} (h : ofEnvironment env = .ok c)

theorem readBaseUrl_eq_ok {r : Raw} {url : String} (h : readBaseUrl r = .ok url) :
    ∃ text, BaseUrl.check text = .ok url := by
  unfold readBaseUrl at h
  split at h
  · cases h
  · rename_i text _
    refine ⟨text, ?_⟩
    cases hcheck : BaseUrl.check text with
    | ok v =>
      simp only [hcheck] at h
      exact congrArg Except.ok (Except.ok.inj h)
    | error f =>
      simp only [hcheck] at h
      exact absurd h fail_ne_ok

/-- The address of a configuration has been made of some text. -/
theorem Accepted.exists_check {c : Config} (h : c.Accepted) :
    ∃ text, BaseUrl.check text = .ok c.baseUrl := by
  cases h with
  | given hread =>
    obtain ⟨r, -, hr⟩ := required_eq_ok.mp (readMembers_eq_ok_iff.mp hread).1
    exact readBaseUrl_eq_ok hr
  | loaded hload => exact ⟨_, (ofEnvironment_eq_ok_iff.mp hload).baseUrl.2.2⟩

/-- An accepted configuration always yields a client and its transport. -/
theorem Accepted.ofConfig_eq_ok {c : Config} (h : c.Accepted) :
    Client.ofConfig c =
      .ok (⟨c.baseUrl, c.policy, jsonContentType⟩, .http (.opened c.timeout)) := by
  obtain ⟨text, hcheck⟩ := h.exists_check
  exact Config.ofConfig_eq_ok (BaseUrl.check_of_check hcheck)

/-- An accepted text loses the slashes at its end and keeps everything else, and
what is left is accepted as it is; so a client that is built from an accepted
configuration has the address of the configuration. -/
theorem accepted_address_is_kept :
    (∀ text url, BaseUrl.check text = .ok url →
      url = BaseUrl.withoutSlashes text ∧ BaseUrl.Keeps text url) ∧
    ∀ c : Config, c.Accepted →
      ∃ client transport, Client.ofConfig c = .ok (client, transport) ∧
        client.baseUrl = c.baseUrl := by
  constructor
  · intro text url hcheck
    exact ⟨(BaseUrl.check_eq_ok_iff.mp hcheck).2, BaseUrl.keeps_of_check hcheck⟩
  · intro c haccepted
    exact ⟨_, _, haccepted.ofConfig_eq_ok, rfl⟩

/-- An address with a user, a port and slashes, and an environment whose address has
blanks around it. -/
theorem accepted_address_is_kept_with_slashes :
    (BaseUrl.check "https://me@Store:8443/vss//" = .ok "https://me@Store:8443/vss" ∧
      BaseUrl.Keeps "https://me@Store:8443/vss//" "https://me@Store:8443/vss") ∧
    ∃ c, ofEnvironment [(baseUrlSwitch, " http://store// ")] = .ok c ∧
      c.baseUrl = "http://store" ∧
      ∃ client transport, Client.ofConfig c = .ok (client, transport) ∧
        client.baseUrl = c.baseUrl := by
  have hcheck : BaseUrl.check "https://me@Store:8443/vss//" = .ok "https://me@Store:8443/vss" := by
    decide +kernel
  have hload : (ofEnvironment [(baseUrlSwitch, " http://store// ")]).toOption.map (·.baseUrl) =
      some "http://store" := by decide +kernel
  refine ⟨⟨hcheck, (accepted_address_is_kept.1 _ _ hcheck).2⟩, ?_⟩
  cases hc : ofEnvironment [(baseUrlSwitch, " http://store// ")] with
  | error e =>
    rw [hc] at hload
    cases hload
  | ok c =>
    rw [hc] at hload
    exact ⟨c, rfl, Option.some.inj hload, accepted_address_is_kept.2 c (.loaded hc)⟩

end Config

end VersionedStore
