import WorkflowSearch.Config.Profile
import WorkflowSearch.Proofs.Results

namespace WorkflowSearch

variable {α : Type} [Scalar α]

namespace Profile

omit [Scalar α] in
theorem ofName_name (profile : Profile) :
    (ofName profile.name : Except (ConfigError α) Profile) = .ok profile := by
  cases profile <;> rfl

theorem apply_apply (profile : Profile) (config : Config α) :
    profile.apply (profile.apply config) = profile.apply config := by
  cases profile <;> rfl

end Profile

namespace Config

/-- How a configuration is resolved: it names no profile, or the one that it names is applied and
leaves a valid configuration. -/
inductive Resolves (config : Config α) : Config α → Option Profile → Prop
  | unnamed (profile_eq : config.profile = none) : Resolves config config none
  | applied {name : String} {profile : Profile} (profile_eq : config.profile = some name)
      (known : (Profile.ofName name : Except (ConfigError α) Profile) = .ok profile)
      (valid : (profile.apply config).validate = .ok ()) :
      Resolves config (profile.apply config) (some profile)

variable {config resolved : Config α} {profile? : Option Profile}

theorem resolveProfile_eq_ok_iff :
    config.resolveProfile = (resolved, .ok profile?) ↔ config.Resolves resolved profile? := by
  constructor
  · intro h
    unfold resolveProfile at h
    split at h
    · next hnone =>
      obtain ⟨rfl, hprofile⟩ := Prod.mk.inj h
      obtain rfl := Except.ok.inj hprofile
      exact .unnamed hnone
    · next name hname =>
      split at h
      · cases (Prod.mk.inj h).2
      · next profile hknown =>
        obtain ⟨rfl, hprofile⟩ := Prod.mk.inj h
        cases hvalid : (profile.apply config).validate with
        | error error =>
          rw [hvalid] at hprofile
          cases hprofile
        | ok =>
          rw [hvalid] at hprofile
          obtain rfl := Except.ok.inj hprofile
          exact .applied hname hknown hvalid
  · intro h
    cases h with
    | unnamed hnone => simp only [resolveProfile, hnone]
    | applied hname hknown hvalid =>
      simp only [resolveProfile, hname, hknown, hvalid]
      rfl

theorem Resolves.again (h : config.Resolves resolved profile?) :
    resolved.Resolves resolved profile? := by
  cases h with
  | unnamed hnone => exact .unnamed hnone
  | @applied _ profile hname hknown hvalid =>
    have hagain : (profile.apply (profile.apply config)).validate = .ok () := by
      rwa [profile.apply_apply]
    have hresolves := Resolves.applied rfl profile.ofName_name hagain
    rwa [profile.apply_apply] at hresolves

end Config

end WorkflowSearch
