import Mailroom.Config.Basic
import Mailroom.Proofs.Http.Merge
import Mailroom.Proofs.Outcome

/-!
# Valid configurations

A configuration is valid exactly if nothing that must be given is blank and the root is a URL with a
host; otherwise validation fails with the first fault in that order.
-/

namespace Mailroom

/-- A URL with a host can carry a path. -/
theorem Url.carriesPath_of_hasHost {u : Url} (h : u.hasHost = true) : u.carriesPath = true := by
  unfold hasHost at h
  split at h
  · next a ha => simp [carriesPath, ha]
  · cases h

namespace Config

/-- A configuration that can be used: nothing that must be given is blank, and the root is a URL
with a host. -/
structure Usable (c : Config) (base : Url) : Prop where
  root : Text.isBlank c.baseUrl = false
  user : Text.isBlank c.username = false
  token : Text.isBlank c.token = false
  address : Url.parse c.baseUrl = .ok base
  host : base.hasHost = true

/-- What is wrong with the root: it is no URL, or it has no host. -/
inductive BadAddress (c : Config) : String → Prop where
  | unreadable {fault : Url.Fault} (parsed : Url.parse c.baseUrl = .error fault) :
      BadAddress c fault.message
  | hostless {url : Url} (parsed : Url.parse c.baseUrl = .ok url)
      (hostless : url.hasHost = false) : BadAddress c "missing scheme or host"

/-- The first fault of a configuration: what must be given is looked at before the root is read. -/
inductive FirstFault (c : Config) : ConfigError → Prop where
  | root (blank : Text.isBlank c.baseUrl = true) : FirstFault c .missingBaseUrl
  | user (root : Text.isBlank c.baseUrl = false) (blank : Text.isBlank c.username = true) :
      FirstFault c .missingUsername
  | token (root : Text.isBlank c.baseUrl = false) (user : Text.isBlank c.username = false)
      (blank : Text.isBlank c.token = true) : FirstFault c .missingToken
  | address (root : Text.isBlank c.baseUrl = false) (user : Text.isBlank c.username = false)
      (token : Text.isBlank c.token = false) {reason : String} (bad : BadAddress c reason) :
      FirstFault c (.invalidBaseUrl c.baseUrl reason)

theorem checkedBase_eq_ok_iff {c : Config} {base : Url} :
    c.checkedBase = .ok base ↔ Url.parse c.baseUrl = .ok base ∧ base.hasHost = true := by
  unfold checkedBase Config.base
  cases Url.parse c.baseUrl with
  | error fault => simp
  | ok url =>
    simp only [Outcome.mapError_ok, Except.ok.injEq]
    cases hhost : url.hasHost with
    | false =>
      simp only [Bool.and_false, Bool.false_eq_true, if_false]
      refine iff_of_false (fun h => ?_) ?_
      · cases h
      · rintro ⟨rfl, h⟩
        rw [hhost] at h
        cases h
    | true =>
      have hpath := Url.carriesPath_of_hasHost hhost
      simp only [hpath, Bool.and_self, if_true, Except.ok.injEq]
      exact ⟨fun h => ⟨h, h ▸ hhost⟩, fun h => h.1⟩

theorem checkedBase_eq_error_iff {c : Config} {e : ConfigError} :
    c.checkedBase = .error e ↔
      ∃ reason, c.BadAddress reason ∧ e = .invalidBaseUrl c.baseUrl reason := by
  unfold checkedBase Config.base
  cases hparsed : Url.parse c.baseUrl with
  | error fault =>
    simp only [Outcome.mapError_error, Except.error.injEq]
    constructor
    · rintro rfl
      exact ⟨_, .unreadable hparsed, rfl⟩
    · rintro ⟨reason, hbad, rfl⟩
      cases hbad with
      | unreadable h => rw [Except.error.inj (hparsed.symm.trans h)]
      | hostless h => cases hparsed.symm.trans h
  | ok url =>
    simp only [Outcome.mapError_ok]
    cases hhost : url.hasHost with
    | true =>
      simp only [Url.carriesPath_of_hasHost hhost, Bool.and_self, if_true]
      refine iff_of_false (fun h => ?_) ?_
      · cases h
      · rintro ⟨reason, hbad, -⟩
        cases hbad with
        | unreadable h => cases hparsed.symm.trans h
        | hostless h hhostless =>
          rw [← Except.ok.inj (hparsed.symm.trans h), hhost] at hhostless
          cases hhostless
    | false =>
      simp only [Bool.and_false, Bool.false_eq_true, if_false, Except.error.injEq]
      constructor
      · rintro rfl
        exact ⟨_, .hostless hparsed hhost, rfl⟩
      · rintro ⟨reason, hbad, rfl⟩
        cases hbad with
        | unreadable h => cases hparsed.symm.trans h
        | hostless => rfl

/-- Only a configuration that can be used is valid. -/
theorem validate_eq_ok_iff {c : Config} {base : Url} : c.validate = .ok base ↔ c.Usable base := by
  unfold validate
  constructor
  · intro h
    split at h
    · cases h
    split at h
    · cases h
    split at h
    · cases h
    next hroot huser htoken =>
    obtain ⟨haddress, hhost⟩ := checkedBase_eq_ok_iff.mp h
    exact ⟨by simpa using hroot, by simpa using huser, by simpa using htoken, haddress, hhost⟩
  · intro h
    rw [h.root, h.user, h.token]
    exact checkedBase_eq_ok_iff.mpr ⟨h.address, h.host⟩

/-- Validation fails with the first fault. -/
theorem validate_eq_error_iff {c : Config} {e : ConfigError} :
    c.validate = .error e ↔ c.FirstFault e := by
  unfold validate
  constructor
  · intro h
    cases hroot : Text.isBlank c.baseUrl with
    | true =>
      rw [hroot] at h
      cases h
      exact .root hroot
    | false =>
      cases huser : Text.isBlank c.username with
      | true =>
        rw [hroot, huser] at h
        cases h
        exact .user hroot huser
      | false =>
        cases htoken : Text.isBlank c.token with
        | true =>
          rw [hroot, huser, htoken] at h
          cases h
          exact .token hroot huser htoken
        | false =>
          rw [hroot, huser, htoken] at h
          obtain ⟨reason, hbad, rfl⟩ := checkedBase_eq_error_iff.mp h
          exact .address hroot huser htoken hbad
  · intro h
    cases h with
    | root hroot => rw [hroot]; rfl
    | user hroot huser => rw [hroot, huser]; rfl
    | token hroot huser htoken => rw [hroot, huser, htoken]; rfl
    | address hroot huser htoken hbad =>
      rw [hroot, huser, htoken]
      exact checkedBase_eq_error_iff.mpr ⟨_, hbad, rfl⟩

/-! ## Headers of every request -/

/-- The kind of body and the credentials, in the order of their names. -/
theorem ofList_standardHeaders (c : Config) :
    Dict.ofList [("Content-Type", "application/json"), ("Authorization", c.authorization)] =
      [("Authorization", c.authorization), ("Content-Type", "application/json")] := by
  have hne : "Content-Type" ≠ "Authorization" := by decide
  have hlt : "Authorization" < "Content-Type" := by decide
  simp [Dict.ofList, Dict.insertAll, Dict.insert, hne, hlt]

/-- The kind of body and the credentials are under two names. -/
theorem sameName_standardHeaders : Header.sameName "Content-Type" "Authorization" = false := by
  rw [Header.sameName_eq_toList]
  decide

end Config

end Mailroom
