import ServiceProbe.Proofs.Database.Refinement

/-! # Databases that load

Whether a database loads, and what it holds then, by its blocks and exclusions alone. -/

namespace ServiceProbe.Database
set_option autoImplicit false

theorem exists_parse_iff (t : Text) :
    (∃ r, Registry.parse t = .ok r) ↔
      (∀ expression ∈ exclusions (keptLines t), ∃ added, PortSet.parse expression = .ok added) ∧
        (((blocks (keptLines t)).filterMap compiled?).map Probe.name).Nodup := by
  obtain ⟨hProbes, hExclusions⟩ := parts_callsBefore (keptLines t)
  rw [parse_eq_perform, Registry.exists_perform_iff, hProbes, hExclusions]

theorem consistent_of_parse {t : Text} {r : Registry} (h : Registry.parse t = .ok r) :
    r.Consistent := by
  rw [parse_eq_perform] at h
  exact Registry.consistent_of_perform h

theorem probes_of_parse {t : Text} {r : Registry} (h : Registry.parse t = .ok r) :
    r.probes = (blocks (keptLines t)).filterMap compiled? := by
  rw [parse_eq_perform] at h
  exact (Registry.parts_of_perform h).1.trans (parts_callsBefore _).1

theorem filled_exclude_of_parse {t : Text} {r : Registry} (h : Registry.parse t = .ok r) :
    r.exclude.filled = false := by
  rw [parse_eq_perform] at h
  rw [Registry.eq_afterCalls_of_perform h, Registry.filled_exclude_afterCalls]

theorem contains_exclude_of_parse {t : Text} {r : Registry} (h : Registry.parse t = .ok r)
    (port : Port) :
    r.exclude.contains port = (exclusions (keptLines t)).any (Registry.holds port) := by
  rw [parse_eq_perform] at h
  rw [(Registry.parts_of_perform h).2, (parts_callsBefore _).2]

theorem exists_load_of_parse {t : Text} {r : Registry} (h : Registry.parse t = .ok r) :
    ∃ warnings, load t = .ok (r, warnings) := by
  unfold Registry.parse at h
  cases hLoad : load t with
  | error refusal =>
    rw [hLoad] at h
    cases h
  | ok loaded =>
    rw [hLoad] at h
    cases h
    exact ⟨loaded.2, rfl⟩

end ServiceProbe.Database
