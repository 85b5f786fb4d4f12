import FieldConfig.Proofs.Resolution.Work

set_option autoImplicit false

namespace FieldConfig.Network

variable (network : Network) (catalog : Catalog)

-- The searches that a call starts, one for each device that it asks for, up to the first that fails.
inductive Serves : List Station → Resolution → List (Visit × List Visit) → Resolution → Prop where
  | done (before : Resolution) : Serves [] before [] before
  | failed (station : Station) (rest : List Station) (before after : Resolution)
      (fault : CompileError) (made : List Visit) :
      Serves (station :: rest) before [(⟨[], station, before, (after, .error fault)⟩, made)] after
  | next (station : Station) (rest : List Station) (before between after : Resolution)
      (made : List Visit) (others : List (Visit × List Visit))
      (serves : Serves rest between others after) :
      Serves (station :: rest) before ((⟨[], station, before, (between, .ok ())⟩, made) :: others)
        after

inductive Lives (network : Network) : List (Catalog × Call) → Resolution → List Visit →
    Resolution → Prop where
  | start (before : Resolution) : Lives network [] before [] before
  | call (catalog : Catalog) (call : Call) (calls : List (Catalog × Call))
      (before between after : Resolution) (searches : List (Visit × List Visit))
      (made : List Visit) (serves : Serves (network.asked call) before searches between)
      (each : ∀ search ∈ searches, network.Ends catalog search.1 search.2)
      (lives : Lives network calls between made after) :
      Lives network ((catalog, call) :: calls) before (searches.flatMap Prod.snd ++ made) after

def live (before : Resolution) (calls : List (Catalog × Call)) : Resolution :=
  calls.foldl (fun resolution call => (network.perform call.1 resolution call.2).1) before

theorem each_serves (stations : List Station) (members : stations ⊆ network.stations)
    (before : Resolution) :
    ∃ searches, Serves stations before searches (network.resolveEach catalog stations before).1 ∧
      ∀ search ∈ searches, network.Ends catalog search.1 search.2 := by
  induction stations generalizing before with
  | nil => exact ⟨[], .done before, by simp⟩
  | cons station rest ih =>
      obtain ⟨member, others⟩ := List.cons_subset.mp members
      obtain ⟨made, first⟩ := network.visit_ends catalog network.stations.length [] station member
        before List.countP_le_length
      rcases result : network.resolveStation catalog station before with ⟨between, fault | done⟩
      · rw [resolveStation] at result
        rw [result] at first
        simp only [resolveEach, resolveStation, result]
        exact ⟨_, .failed station rest before between fault made, by simpa using first⟩
      · rw [resolveStation] at result
        rw [result] at first
        obtain ⟨searches, serves, each⟩ := ih others between
        simp only [resolveEach, resolveStation, result]
        exact ⟨_, .next station rest before between _ made searches serves,
          List.forall_mem_cons.mpr ⟨first, each⟩⟩

theorem perform_each (before : Resolution) (call : Call) :
    (network.perform catalog before call).1 =
      (network.resolveEach catalog (network.asked call) before).1 := by
  cases call with
  | resolveAll => rfl
  | resolve hostname =>
      cases found : network.station? hostname with
      | none => simp [perform, resolve, asked, found, resolveEach]
      | some station =>
          simp only [perform, resolve, asked, found, Option.toList_some, resolveEach]
          rcases network.resolveStation catalog station before with ⟨after, fault | done⟩ <;> rfl

theorem asked_members (call : Call) : network.asked call ⊆ network.stations := by
  intro station member
  cases call with
  | resolveAll => exact (network.member_by_role station).mp member
  | resolve hostname => exact (network.station_found hostname station (Option.mem_toList.mp member)).1

theorem live_lives (calls : List (Catalog × Call)) (before : Resolution) :
    ∃ made, network.Lives calls before made (network.live before calls) := by
  induction calls generalizing before with
  | nil => exact ⟨[], .start before⟩
  | cons first rest ih =>
      obtain ⟨catalog, call⟩ := first
      obtain ⟨searches, serves, each⟩ :=
        network.each_serves catalog (network.asked call) (network.asked_members call) before
      rw [← perform_each] at serves
      obtain ⟨made, lives⟩ := ih (network.perform catalog before call).1
      exact ⟨_, .call catalog call rest before _ _ searches made serves each lives⟩

theorem serves_unique (stations : List Station) (before : Resolution)
    (searches others : List (Visit × List Visit)) (after otherwise : Resolution)
    (serves : Serves stations before searches after)
    (each : ∀ search ∈ searches, network.Ends catalog search.1 search.2)
    (again : Serves stations before others otherwise)
    (all : ∀ search ∈ others, network.Ends catalog search.1 search.2) :
    others = searches ∧ otherwise = after := by
  induction serves generalizing others otherwise with
  | done before =>
      cases again
      exact ⟨rfl, rfl⟩
  | failed station rest before after fault made =>
      have own := network.ends_unique catalog _ _ (each _ List.mem_cons_self)
      cases again with
      | failed _ _ _ later reason log =>
          obtain ⟨same, rfl⟩ := own _ _ (all _ List.mem_cons_self) rfl rfl rfl
          cases same
          exact ⟨rfl, rfl⟩
      | next _ _ _ between _ log others serves =>
          obtain ⟨same, _⟩ := own _ _ (all _ List.mem_cons_self) rfl rfl rfl
          cases same
  | next station rest before between after made inner serves ih =>
      obtain ⟨first, later⟩ := List.forall_mem_cons.mp each
      have own := network.ends_unique catalog _ _ first
      cases again with
      | failed _ _ _ stop fault log =>
          obtain ⟨same, _⟩ := own _ _ (all _ List.mem_cons_self) rfl rfl rfl
          cases same
      | next _ _ _ stop _ log others again =>
          obtain ⟨here, behind⟩ := List.forall_mem_cons.mp all
          obtain ⟨same, rfl⟩ := own _ _ here rfl rfl rfl
          cases same
          obtain ⟨rfl, rfl⟩ := ih others otherwise later again behind
          exact ⟨rfl, rfl⟩

theorem lives_unique (calls : List (Catalog × Call)) (before : Resolution) (made others : List Visit)
    (after otherwise : Resolution) (lives : network.Lives calls before made after)
    (again : network.Lives calls before others otherwise) : others = made ∧ otherwise = after := by
  induction lives generalizing others otherwise with
  | start before =>
      cases again
      exact ⟨rfl, rfl⟩
  | call catalog call calls before between after searches made serves each lives ih =>
      cases again with
      | call _ _ _ _ stop _ others log another all again =>
          obtain ⟨rfl, rfl⟩ := network.serves_unique catalog _ _ searches others between stop serves
            each another all
          obtain ⟨rfl, rfl⟩ := ih log otherwise again
          exact ⟨rfl, rfl⟩

theorem serves_starts (stations : List Station) (before after : Resolution)
    (searches : List (Visit × List Visit)) (serves : Serves stations before searches after) :
    ∀ search ∈ searches, search.1.path = [] ∧ search.1.station ∈ stations := by
  induction serves with
  | done => simp
  | failed => simp
  | next station rest before between after made others serves ih =>
      refine List.forall_mem_cons.mpr ⟨⟨rfl, List.mem_cons_self⟩, fun search member => ?_⟩
      exact ⟨(ih search member).1, List.mem_cons_of_mem _ (ih search member).2⟩

theorem serves_order (stations : List Station) (before after : Resolution)
    (searches : List (Visit × List Visit)) (serves : Serves stations before searches after)
    (each : ∀ search ∈ searches, network.Ends catalog search.1 search.2) :
    after.order.Perm (before.order ++ collected (searches.flatMap Prod.snd)) := by
  induction serves with
  | done => simp
  | failed station rest before after fault made =>
      simpa [Visit.after] using network.ends_order catalog _ _ (each _ List.mem_cons_self)
  | next station rest before between after made others serves ih =>
      obtain ⟨first, later⟩ := List.forall_mem_cons.mp each
      rw [List.flatMap_cons, collected_append, ← List.append_assoc]
      exact (ih later).trans ((network.ends_order catalog _ _ first).append_right _)

theorem lives_order (calls : List (Catalog × Call)) (before after : Resolution) (made : List Visit)
    (lives : network.Lives calls before made after) :
    after.order.Perm (before.order ++ collected made) := by
  induction lives with
  | start => simp
  | call catalog call calls before between after searches made serves each lives ih =>
      have first := network.serves_order catalog _ _ _ searches serves each
      rw [collected_append, ← List.append_assoc]
      exact ih.trans (first.append_right _)

theorem frugal_within (path : List String) (made all : List Visit) (visit : Visit)
    (within : made ⊆ all) (frugal : network.Frugal path made visit) :
    network.Frugal path all visit := by
  refine ⟨frugal.distinct, frugal.shallow, frugal.fewer, frugal.idle, frugal.nested.imp id ?_⟩
  rintro ⟨outer, member, deeper⟩
  exact ⟨outer, within member, deeper⟩

theorem lives_frugal (calls : List (Catalog × Call)) (before after : Resolution)
    (made : List Visit) (lives : network.Lives calls before made after) :
    ∀ visit ∈ made, network.Frugal [] made visit := by
  induction lives with
  | start => simp
  | call catalog call calls before between after searches made serves each lives ih =>
      intro visit member
      rcases List.mem_append.mp member with now | later
      · obtain ⟨search, among, here⟩ := List.mem_flatMap.mp now
        obtain ⟨path, asked⟩ := serves_starts _ _ _ searches serves search among
        have known := network.asked_members call asked
        have frugal := (network.ends_frugal catalog _ _ (each search among) known
          (path ▸ network.way_start _) visit here).1
        rw [path] at frugal
        refine network.frugal_within [] search.2 _ visit (fun other within => ?_) frugal
        exact List.mem_append_left _ (List.mem_flatMap.mpr ⟨search, among, within⟩)
      · exact network.frugal_within [] made _ visit (List.subset_append_right _ _) (ih visit later)

structure Listed (resolution : Resolution) : Prop where
  distinct : resolution.order.Nodup
  resolved : ∀ name ∈ resolution.order, resolution.progress name = .resolved

theorem step_listed (before after : Resolution) (step : network.Step catalog before after)
    (listed : Listed before) : Listed after := by
  have onward := network.step_onward catalog before after step
  have still : ∀ name ∈ before.order, after.progress name = .resolved :=
    fun name member => (onward.resolved name (listed.resolved name member)).1
  cases step with
  | enter station member pending => exact ⟨listed.distinct, still⟩
  | complete station targets registers member entered known ready collected =>
      have fresh : station.hostname ∉ before.order := by
        intro member
        simp [listed.resolved _ member] at entered
      refine ⟨?_, fun name member => ?_⟩
      · rw [Resolution.order_complete, ← List.concat_eq_append]
        exact listed.distinct.concat fresh
      · rcases List.mem_append.mp member with earlier | last
        · exact still name earlier
        · simp [List.mem_singleton.mp last]

theorem live_listed (calls : List (Catalog × Call)) (before : Resolution) (listed : Listed before) :
    Listed (network.live before calls) := by
  induction calls generalizing before with
  | nil => exact listed
  | cons first rest ih =>
      exact ih _ (network.steps_preserve first.1 Listed (network.step_listed first.1) _ _
        (network.call_steps first.1 before first.2) listed)

/-- The searches of a graph's whole life come to their end, in one way only. No stack repeats a name or
holds more names than there are devices, each search that goes on leaves fewer devices pending and starts
with fewer than the one above it, and no device is collected twice. -/
theorem searches_end (calls : List (Catalog × Call)) :
    ∃ made, (∀ others after, network.Lives calls {} others after ↔
        others = made ∧ after = network.live {} calls) ∧
      (∀ visit ∈ made, network.Frugal [] made visit) ∧
      (collected made).Nodup ∧ (network.live {} calls).order.Perm (collected made) := by
  obtain ⟨made, lives⟩ := network.live_lives calls {}
  have order := network.lives_order calls {} _ made lives
  have listed : Listed (network.live {} calls) :=
    network.live_listed calls {} ⟨List.nodup_nil, by simp⟩
  refine ⟨made, fun others after => ⟨fun again => ?_, ?_⟩, ?_, ?_, order⟩
  · exact network.lives_unique calls {} made others _ after lives again
  · rintro ⟨rfl, rfl⟩
    exact lives
  · exact network.lives_frugal calls {} _ made lives
  · exact order.nodup_iff.mp listed.distinct

end FieldConfig.Network
