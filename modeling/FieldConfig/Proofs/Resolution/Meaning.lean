import FieldConfig.Proofs.Register.Expansion
import FieldConfig.Proofs.Resolution.Step

set_option autoImplicit false

-- The registers that a device has by the declarations alone, whatever was resolved before or after.
-- Derivations are finite, so a device on a cycle has none.
namespace FieldConfig

def Device.offered (registers : RegisterSet) : Device → List (Protocol × List Register)
  | .server _ => registers.groups
  | .gateway _ (.serving protocol) => [(protocol, registers.groups.flatMap Prod.snd)]
  | .gateway _ (.unsupported _) => []
  | .client _ => []

theorem Device.exposed_offered (registers : RegisterSet) (device : Device) :
    (device.exposed registers).groups = device.offered registers := by
  cases device with
  | server declaration => rfl
  | client polled => rfl
  | gateway polled downstream => cases downstream <;> rfl

namespace Network

inductive Means (network : Network) (catalog : Catalog) : String → RegisterSet → Prop where
  | server (hostname : String) (station : Station) (declaration : Declaration)
      (found : network.station? hostname = some station)
      (kind : station.device = .server declaration) (typed : declaration.Typed catalog) :
      Means network catalog hostname (RegisterSet.regroup (declaration.expansion catalog))
  | gateway (hostname : String) (station : Station) (polled : List String)
      (downstream : Downstream) (inputs : List (Station × RegisterSet))
      (found : network.station? hostname = some station)
      (kind : station.device = .gateway polled downstream)
      (known : polled.map network.station? = (inputs.map Prod.fst).map some)
      (means : ∀ input ∈ inputs, Means network catalog input.1.hostname input.2) :
      Means network catalog hostname
        (RegisterSet.regroup (inputs.flatMap fun input => input.1.device.offered input.2))
  | client (hostname : String) (station : Station) (polled : List String)
      (found : network.station? hostname = some station) (kind : station.device = .client polled) :
      Means network catalog hostname {}

theorem pairs_agree {α β : Type} (a b : List (α × β)) (keys : a.map Prod.fst = b.map Prod.fst)
    (values : ∀ x ∈ a, ∀ y ∈ b, x.1 = y.1 → x.2 = y.2) : a = b := by
  induction a generalizing b with
  | nil => exact (List.map_eq_nil_iff.mp keys.symm).symm
  | cons x rest ih =>
      cases b with
      | nil => simp at keys
      | cons y others =>
          simp only [List.map_cons, List.cons.injEq] at keys
          have same : x = y := Prod.ext keys.1 (values x (by simp) y (by simp) keys.1)
          rw [same, ih others keys.2 fun x left y right =>
            values x (List.mem_cons_of_mem _ left) y (List.mem_cons_of_mem _ right)]

theorem means_device (network : Network) (catalog : Catalog) (hostname : String)
    (registers : RegisterSet) (means : network.Means catalog hostname registers) (station : Station)
    (found : network.station? hostname = some station) :
    match station.device with
    | .server declaration => registers = RegisterSet.regroup (declaration.expansion catalog)
    | .gateway polled _ => ∃ inputs : List (Station × RegisterSet),
        polled.map network.station? = (inputs.map Prod.fst).map some ∧
          (∀ input ∈ inputs, network.Means catalog input.1.hostname input.2) ∧
          registers = RegisterSet.regroup
            (inputs.flatMap fun input => input.1.device.offered input.2)
    | .client _ => registers = {} := by
  cases means with
  | server _ other declaration foundOther kind typed =>
      rw [← Option.some.inj (foundOther.symm.trans found), kind]
  | gateway _ other polled downstream inputs foundOther kind known means =>
      rw [← Option.some.inj (foundOther.symm.trans found), kind]
      exact ⟨inputs, known, means, rfl⟩
  | client _ other polled foundOther kind =>
      rw [← Option.some.inj (foundOther.symm.trans found), kind]

theorem means_unique (network : Network) (catalog : Catalog) (hostname : String) (a b : RegisterSet)
    (left : network.Means catalog hostname a) (right : network.Means catalog hostname b) : a = b := by
  induction left generalizing b with
  | server hostname station declaration found kind typed =>
      have same := network.means_device catalog hostname b right station found
      rw [kind] at same
      exact same.symm
  | gateway hostname station polled downstream inputs found kind known means ih =>
      have same := network.means_device catalog hostname b right station found
      rw [kind] at same
      obtain ⟨others, knownOther, meansOther, rfl⟩ := same
      have keys : inputs.map Prod.fst = others.map Prod.fst :=
        List.map_injective_iff.mpr (fun _ _ => Option.some.inj) (known.symm.trans knownOther)
      rw [pairs_agree inputs others keys fun input left other right agree =>
        ih input left other.2 (agree ▸ meansOther other right)]
  | client hostname station polled found kind =>
      have same := network.means_device catalog hostname b right station found
      rw [kind] at same
      exact same.symm

theorem collected_means (network : Network) (catalog : Catalog) (resolution : Resolution)
    (station : Station) (targets : List Station) (registers : RegisterSet)
    (member : station ∈ network.stations)
    (known : station.device.polled.map network.station? = targets.map some)
    (means : ∀ target ∈ targets,
      network.Means catalog target.hostname (resolution.registers target.hostname))
    (collected : station.device.collect catalog (targets.map resolution.exposed) = .ok registers) :
    network.Means catalog station.hostname registers := by
  have found := network.station_member station member
  cases kind : station.device with
  | server declaration =>
      rw [kind, Device.collect, Declaration.registers_ok_iff] at collected
      exact collected.2 ▸ .server station.hostname station declaration found kind collected.1
  | gateway polled downstream =>
      rw [kind, Device.polled] at known
      rw [kind, Device.collect, RegisterSet.append_each, Except.ok.injEq] at collected
      let inputs := targets.map fun target => (target, resolution.registers target.hostname)
      have groups : (targets.map resolution.exposed).flatMap RegisterSet.groups =
          inputs.flatMap fun input => input.1.device.offered input.2 := by
        simp only [inputs, List.flatMap_map, Resolution.exposed, Device.exposed_offered]
      have listed : polled.map network.station? = (inputs.map Prod.fst).map some := by
        simp [inputs, known, Function.comp_def]
      rw [← collected, groups]
      refine .gateway station.hostname station polled downstream inputs found kind listed ?_
      simpa [inputs] using means
  | client polled =>
      rw [kind, Device.collect, Except.ok.injEq] at collected
      exact collected ▸ .client station.hostname station polled found kind

end Network
end FieldConfig
