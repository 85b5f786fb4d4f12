import FieldConfig.Settings
import Mathlib.Data.List.Forall2

set_option autoImplicit false

namespace FieldConfig

def ApiSection.files (listener : ApiSection) : List String :=
  listener.tlsKey.toList ++ listener.tlsCertificate.toList ++ listener.caCertificate.toList

def ApiSettings.file? (api : ApiSettings) (path : String) : Option String :=
  if path = Settings.apiKeyPath then api.tlsKey
  else if path = Settings.apiCertificatePath then api.tlsCertificate
  else if path = Settings.apiAuthorityPath then api.caCertificate
  else none

namespace ApiSettings

@[simp] theorem file_key (api : ApiSettings) : api.file? Settings.apiKeyPath = api.tlsKey :=
  if_pos rfl

@[simp] theorem file_certificate (api : ApiSettings) :
    api.file? Settings.apiCertificatePath = api.tlsCertificate := by
  rw [file?, if_neg (by decide), if_pos rfl]

@[simp] theorem file_authority (api : ApiSettings) :
    api.file? Settings.apiAuthorityPath = api.caCertificate := by
  rw [file?, if_neg (by decide), if_neg (by decide), if_pos rfl]

end ApiSettings

structure Api.Supplied (api : Api) (source : Option ApiSettings) : Prop where
  paired : api.listener.tlsKey.isSome = api.listener.tlsCertificate.isSome
  files : List.Forall₂ (fun path file => file.destination = path ∧
    source.bind (·.file? path) = some file.source) api.listener.files api.certificates
  paths : api.listener.files.Sublist
    [Settings.apiKeyPath, Settings.apiCertificatePath, Settings.apiAuthorityPath]

namespace Settings

-- The settings that a node's listener is made from: its own, or those of the experiment if the node
-- sets neither these nor a bare endpoint.
def listenerSource? (settings : Settings) (node : Option CpuSettings) : Option ApiSettings :=
  match node with
  | none => settings.cpu.api
  | some cpu => cpu.api.or (if cpu.apiEndpoint = .unset then settings.cpu.api else none)

theorem resolved_supplied (api : ApiSettings) (endpoint : String) :
    (resolveApi api endpoint).Supplied (some api) := by
  constructor
  · simp only [resolveApi]
    split <;> rfl
  · refine List.rel_append ?_ ?_
    · cases key : api.tlsKey with
      | none => simp [resolveApi, key]
      | some own =>
          cases certificate : api.tlsCertificate <;> simp [resolveApi, key, certificate]
    · cases authority : api.caCertificate <;> simp [resolveApi, authority]
  · simp only [resolveApi, ApiSection.files]
    cases api.tlsKey <;> cases api.tlsCertificate <;> cases api.caCertificate <;>
      simp [apiKeyPath]

theorem flat_supplied (endpoint : String) : (flatApi endpoint).Supplied none :=
  ⟨rfl, .nil, List.nil_sublist _⟩

def Gives (source : Option ApiSettings) (result : Option Api) : Prop :=
  match source with
  | some own => ∃ endpoint, result = some (resolveApi own endpoint)
  | none => ∀ api ∈ result, ∃ endpoint, api = flatApi endpoint

theorem own_given (settings : Settings) : Gives settings.cpu.api settings.ownApi := by
  rw [ownApi]
  cases settings.cpu.api with
  | some own => exact ⟨_, rfl⟩
  | none => cases settings.cpu.apiEndpoint <;> simp [Gives]

theorem api_given (settings : Settings) (node : Option CpuSettings) :
    Gives (settings.listenerSource? node) (settings.apiFor node) := by
  cases node with
  | none => exact settings.own_given
  | some cpu =>
      obtain ⟨api, endpoint⟩ := cpu
      cases api with
      | some own => exact ⟨_, rfl⟩
      | none =>
          cases endpoint with
          | unset => exact settings.own_given
          | off => simp [Gives, listenerSource?, apiFor]
          | on endpoint => simp [Gives, listenerSource?, apiFor]

theorem api_supplied (settings : Settings) (node : Option CpuSettings) (api : Api)
    (given : settings.apiFor node = some api) :
    api.Supplied (settings.listenerSource? node) := by
  have gives := settings.api_given node
  cases source : settings.listenerSource? node with
  | some own =>
      rw [source] at gives
      obtain ⟨endpoint, same⟩ := gives
      cases given.symm.trans same
      exact resolved_supplied own endpoint
  | none =>
      rw [source] at gives
      obtain ⟨endpoint, rfl⟩ := gives api given
      exact flat_supplied endpoint

end Settings
end FieldConfig
