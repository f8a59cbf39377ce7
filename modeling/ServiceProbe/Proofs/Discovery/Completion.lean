import ServiceProbe.Proofs.Discovery.Kept
import ServiceProbe.Proofs.Discovery.Order

/-! # Rounds that have come to their end

However the checks of a round and the attempts of each check were interleaved, the hosts that are
kept in the end are those that a check on its own does not take for down, in their order. -/

namespace ServiceProbe.Discovery
set_option autoImplicit false

def saysDown : Except Failure Bool → Bool
  | .ok false => true
  | _ => false

theorem keeps_eq (c : Check) : c.keeps = !saysDown c.outcome := by
  obtain ⟨place, host, outcome⟩ := c
  cases outcome with
  | error f => rfl
  | ok alive => cases alive <;> rfl

theorem saysDown_iff {outcome : Except Failure Bool} :
    saysDown outcome = true ↔ outcome = .ok false := by
  cases outcome with
  | error f => simp [saysDown]
  | ok alive => cases alive <;> simp [saysDown]

/-- Two outcomes that the same ping and the same attempts account for agree on whether the host is
down. -/
theorem Judges.saysDown_eq {pinged : Bool} {attempts : List (Attempt Unit)}
    {x y : Except Failure Bool} (hx : Judges pinged attempts x) (hy : Judges pinged attempts y) :
    saysDown x = saysDown y := by
  rw [Bool.eq_iff_iff, saysDown_iff, saysDown_iff, hx.down_iff, hy.down_iff]

variable {d : Discovery} {around : Setting} {hosts : List Address} {r : Round}

theorem Round.getElem?_of_mem_endedAt {entries : List (Address × Phase)} {host : Address} {place : Nat}
    (h : (host, place) ∈ endedAt entries) : (entries.map Prod.fst)[place]? = some host := by
  obtain ⟨⟨⟨found, phase⟩, i⟩, hMem, hEnded⟩ := List.mem_filterMap.mp h
  cases phase with
  | ended =>
    obtain ⟨rfl, rfl⟩ := Prod.mk.inj (Option.some.inj hEnded)
    rw [List.getElem?_map, List.mem_zipIdx_iff_getElem?.mp hMem]
    rfl
  | waiting | pinging | sweeping => cases hEnded

theorem Round.endedAt_of_finished (h : r.Finished) :
    endedAt r.entries = (r.entries.map Prod.fst).zipIdx := by
  rw [List.zipIdx_map, endedAt, ← List.filterMap_eq_map]
  apply List.filterMap_congr
  rintro ⟨⟨host, phase⟩, place⟩ hEntry
  obtain rfl := h _ (List.mem_of_getElem? (List.mem_zipIdx_iff_getElem?.mp hEntry))
  rfl

theorem Round.Tracks.isRound_of_finished (h : Tracks d around hosts r) (hFinished : r.Finished) :
    IsRound hosts r.checks := by
  have hPlaces := h.places
  rwa [endedAt_of_finished hFinished, h.hosts_eq] at hPlaces

theorem isRound_zipIdx (outcome : Address → Nat → Except Failure Bool) (hosts : List Address) :
    IsRound hosts (hosts.zipIdx.map fun (host, place) => ⟨place, host, outcome host place⟩) := by
  rw [IsRound, List.map_map]
  exact .of_eq (List.map_id _)

theorem filterAlive_eq (d : Discovery) (network : Network) (ping : Address → Bool)
    (hosts : List Address) : d.filterAlive network ping hosts =
      hosts.filter fun host => !saysDown (d.isAlive network ping host) := by
  have hRound := isRound_zipIdx (fun host _ => d.isAlive network ping host) hosts
  have hFilter := List.filter_map (f := Prod.fst) (l := hosts.zipIdx)
    (p := fun host => !saysDown (d.isAlive network ping host))
  rw [List.zipIdx_map_fst] at hFilter
  rw [filterAlive, hFilter]
  refine hRound.kept_eq fun c hc => ?_
  obtain ⟨⟨host, place⟩, _, rfl⟩ := List.mem_map.mp hc
  exact keeps_eq _

/-- What a check comes to and which hosts are kept, for any number of permits and any order in which
the attempts of a check and the checks of a round are completed. -/
theorem kept_in_any_order (d : Discovery) (permits : Nat) (around : Setting) (hosts : List Address)
    (schedule : List (Nat × Nat)) :
    let limited := d.withConcurrency permits
    let alive := fun host place => limited.isAlive (around.network place) (around.ping place) host
    let r := (Round.start hosts).run limited around schedule
    (∀ network ping host, d.Describes network ping host (limited.isAlive network ping host)) ∧
      (∀ network ping, limited.filterAlive network ping hosts =
        hosts.filter fun host => !saysDown (limited.isAlive network ping host)) ∧
      r.underway ≤ max 1 permits ∧
      (∀ c ∈ r.checks, hosts[c.place]? = some c.host ∧
        d.Describes (around.network c.place) (around.ping c.place) c.host c.outcome) ∧
      (r.Finished → kept r.checks =
        (hosts.zipIdx.filter fun (host, place) => !saysDown (alive host place)).map Prod.fst) ∧
      ∃ more, ((Round.start hosts).run limited around (schedule ++ more)).Finished := by
  intro limited alive r
  have hTracks : Round.Tracks limited around hosts r :=
    (Round.tracks_start limited around hosts).run schedule
  refine ⟨fun network ping host => describes_iff.mpr (judges_isAlive limited network ping host),
    fun network ping => filterAlive_eq limited network ping hosts, hTracks.underway_le,
    fun c hc => ⟨?_, describes_iff.mpr (hTracks.judged c hc)⟩, fun hFinished => ?_, ?_⟩
  · have hEnded := hTracks.places.subset (List.mem_map_of_mem hc)
    exact hTracks.hosts_eq ▸ Round.getElem?_of_mem_endedAt hEnded
  · refine (hTracks.isRound_of_finished hFinished).kept_eq fun c hc => ?_
    rw [keeps_eq, (hTracks.judged c hc).saysDown_eq (judges_isAlive ..)]
  · have hPermits : 0 < limited.concurrency :=
      Nat.lt_of_lt_of_le Nat.zero_lt_one (Nat.le_max_left 1 permits)
    obtain ⟨more, hMore⟩ := Round.exists_finished hPermits around r
    refine ⟨more, ?_⟩
    rw [Round.run, List.foldl_append]
    exact hMore

/-- A sweep of two ports, without a ping. -/
def twoPorts : Discovery := { ports := [22, 80], icmp := false }

/-- The first host fails here on one port and accepts the other, the second one fails here as well and
is silent on the other, and the third one refuses what it does not leave unanswered. -/
def mixedNetwork : Network where
  connect call :=
    match call.endpoint.location.address, call.endpoint.port with
    | .v4 1, 80 => .done ⟨.done (), []⟩
    | .v4 1, _ | .v4 2, 22 => .failed Network.notAvailable
    | .v4 3, 22 => .failed ⟨.connectionRefused, "Connection refused (os error 111)"⟩
    | _, _ => .expired
  datagram _ := .expired

def mixedHosts : List Address := [.v4 3, .v4 1, .v4 2, .v4 1]

/-- The failure of the first host comes before its connection in one check and after it in the other,
and the checks end in another order than that of the hosts. -/
def mixedSchedule : List (Nat × Nat) :=
  [(1, 0), (0, 0), (2, 0), (1, 0), (1, 0), (0, 0), (1, 0), (1, 0), (3, 0), (0, 1), (3, 0), (3, 1),
    (3, 0), (2, 0), (2, 0), (2, 1), (2, 0), (2, 0), (0, 0), (0, 0)]

def mixedRound : Round :=
  (Round.start mixedHosts).run (twoPorts.withConcurrency 2) ⟨fun _ => mixedNetwork, fun _ _ => true⟩
    mixedSchedule

theorem kept_in_any_order_of_mixed :
    (twoPorts.withConcurrency 2).isAlive mixedNetwork (fun _ => true) (.v4 1) = .ok true ∧
      (∃ f, (twoPorts.withConcurrency 2).isAlive mixedNetwork (fun _ => true) (.v4 2) = .error f) ∧
      (twoPorts.withConcurrency 2).isAlive mixedNetwork (fun _ => true) (.v4 3) = .ok false ∧
      mixedRound.checks.map Check.host = [.v4 1, .v4 1, .v4 2, .v4 3] ∧
      kept mixedRound.checks = [.v4 1, .v4 2, .v4 1] := by
  obtain ⟨hDescribes, _, _, _, hKept, _⟩ := kept_in_any_order twoPorts 2
    ⟨fun _ => mixedNetwork, fun _ _ => true⟩ mixedHosts mixedSchedule
  have hWork : mixedRound.work twoPorts = 0 := by decide +kernel
  have hSilent (host : Address) (h : host ≠ .v4 1) :
      ¬ twoPorts.Responds mixedNetwork (fun _ => true) host := by
    rintro (⟨hPing, _⟩ | ⟨port, _, c, hAccepted⟩)
    · cases hPing
    · simp only [answer, mixedNetwork] at hAccepted
      split at hAccepted
      · contradiction
      all_goals cases hAccepted
  refine ⟨(hDescribes ..).up_iff.mpr (.inr ⟨80, by decide, _, rfl⟩),
    (hDescribes ..).error_iff.mpr ⟨hSilent _ (by decide), _, ⟨22, by decide, rfl⟩, nofun⟩,
    (hDescribes ..).down_iff.mpr ⟨hSilent _ (by decide), ?_⟩, by decide +kernel, ?_⟩
  · rintro ⟨f, ⟨port, hPort, hFailed⟩, hLocal⟩
    rcases List.mem_pair.mp hPort with rfl | rfl
    · cases hFailed
      exact hLocal .refused
    · cases hFailed
  · refine (hKept (Round.finished_of_work_eq_zero hWork)).trans ?_
    decide +kernel

end ServiceProbe.Discovery
