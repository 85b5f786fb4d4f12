import FieldConfig.Proofs.Resolution.Gathering
import FieldConfig.Proofs.Resolution.Soundness

set_option autoImplicit false

namespace FieldConfig.Network

structure PartOf (part whole : Network) : Prop where
  stations : ∀ station ∈ part.stations, station ∈ whole.stations
  closed : ∀ station ∈ part.stations, ∀ target ∈ whole.stations,
    target.hostname ∈ station.device.polled → target ∈ part.stations

section

variable (part whole : Network) (among : part.PartOf whole)

include among

theorem part_found (name : String) (station : Station)
    (found : part.station? name = some station) : whole.station? name = some station := by
  obtain ⟨member, named⟩ := part.station_found name station found
  exact named ▸ whole.station_member station (among.stations station member)

theorem part_polled (station : Station) (member : station ∈ part.stations) (name : String)
    (polled : name ∈ station.device.polled) : part.station? name = whole.station? name := by
  cases found : whole.station? name with
  | some target =>
      obtain ⟨listed, named⟩ := whole.station_found name target found
      have inside := among.closed station member target listed (named ▸ polled)
      exact named ▸ part.station_member target inside
  | none =>
      cases known : part.station? name with
      | none => rfl
      | some target =>
          rw [part_found part whole among name target known] at found
          cases found

theorem part_polls (asker name : String) (polls : part.Polls asker name) :
    whole.Polls asker name := by
  obtain ⟨station, found, polled⟩ := polls
  exact ⟨station, part_found part whole among asker station found, polled⟩

theorem part_reaches (start name : String) (way : part.Reaches start name) :
    whole.Reaches start name :=
  Relation.ReflTransGen.mono (part_polls part whole among) _ _ way

theorem part_known (catalog : Catalog) (station : Station) (member : station ∈ part.stations)
    (sound : whole.SoundFrom catalog station.hostname) (name : String)
    (way : part.Reaches station.hostname name) : (part.station? name).isSome := by
  cases way with
  | refl => simp [part.station_member station member]
  | @tail asker _ before polls =>
      obtain ⟨other, found, polled⟩ := id polls
      obtain ⟨listed, _⟩ := part.station_found asker other found
      rw [part_polled part whole among other listed name polled]
      have onward := part_reaches part whole among _ _ (before.tail polls)
      exact sound.known name onward

theorem part_sound (catalog : Catalog) (station : Station) (member : station ∈ part.stations)
    (sound : whole.SoundFrom catalog station.hostname) :
    part.SoundFrom catalog station.hostname where
  known name way := part_known part whole among catalog station member sound name way
  acyclic name way cycle := sound.acyclic name (part_reaches part whole among _ _ way)
    (Relation.TransGen.mono (part_polls part whole among) _ _ cycle)
  typed name other declaration way found kind :=
    sound.typed name other declaration (part_reaches part whole among _ _ way)
      (part_found part whole among name other found) kind

theorem part_means (catalog : Catalog) (hostname : String) (registers : RegisterSet)
    (means : part.Means catalog hostname registers) : whole.Means catalog hostname registers := by
  induction means with
  | server name station declaration found kind typed =>
      exact .server name station declaration (part_found part whole among name station found) kind
        typed
  | client name station polled found kind =>
      exact .client name station polled (part_found part whole among name station found) kind
  | gateway name station polled downstream inputs found kind known means ih =>
      obtain ⟨member, _⟩ := part.station_found name station found
      have same : polled.map whole.station? = polled.map part.station? :=
        List.map_congr_left fun other asked =>
          (part_polled part whole among station member other (by rwa [kind])).symm
      exact .gateway name station polled downstream inputs
        (part_found part whole among name station found) kind (same.trans known) ih

end

theorem all_resolve_iff (network : Network) (catalog : Catalog) :
    (network.resolveAll catalog {}).2 = .ok () ↔
      ∀ station ∈ network.stations, network.SoundFrom catalog station.hostname := by
  rcases network.call_answered catalog {} .resolveAll with ⟨_, other, _⟩ | ⟨steps, answered⟩
  · cases other
  · have judged := (network.answer_judged catalog _ _ _ _ steps answered
      (network.start_judged catalog)).2
    simpa [asked, perform, member_by_role] using judged

theorem part_resolves (part whole : Network) (among : part.PartOf whole) (catalog : Catalog)
    (resolution : Resolution)
    (finished : whole.resolveAll catalog {} = (resolution, .ok ())) :
    ∃ own, part.resolveAll catalog {} = (own, .ok ()) ∧
      ∀ station ∈ part.stations,
        own.registers station.hostname = resolution.registers station.hostname := by
  have sound := (whole.all_resolve_iff catalog).mp (by rw [finished])
  have resolves := (part.all_resolve_iff catalog).mpr fun station member =>
    part_sound part whole among catalog station member
      (sound station (among.stations station member))
  rcases ended : part.resolveAll catalog {} with ⟨own, result⟩
  rw [ended] at resolves
  cases resolves
  refine ⟨own, rfl, fun station member => ?_⟩
  obtain ⟨consistent, resolved⟩ := part.all_resolved catalog own ended
  obtain ⟨consistentWhole, resolvedWhole⟩ := whole.all_resolved catalog resolution finished
  have inside := among.stations station member
  have means := part_means part whole among catalog _ _
    (consistent.meaning station member (resolved station member))
  exact whole.means_unique catalog _ _ _ means
    (consistentWhole.meaning station inside (resolvedWhole station inside))

end FieldConfig.Network
