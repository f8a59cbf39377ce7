import Mathlib.Data.List.Basic
import ServiceProbe.NetworkTransport

/-! # Replies read from a connection

A peer delivers chunks until it closes, fails or keeps still, or until the reply has reached its cap.
Whatever has arrived by then is the reply, up to the cap. Only a peer that has sent nothing makes the
exchange fail, and how reading ended and when says with which error. -/

namespace ServiceProbe.NetworkTransport
set_option autoImplicit false

/-! ## How reading ends -/

inductive Ending where
  | full
  | closed (elapsed : Duration)
  | failed (failure : Failure) (elapsed : Duration)
  | expired

/-- The next read brings no chunk. A peer of which nothing more is known keeps still. -/
inductive Ends : List Arrival → Ending → Prop where
  | still : Ends [] .expired
  | expired (elapsed : Duration) (rest : List Arrival) : Ends (⟨.expired, elapsed⟩ :: rest) .expired
  | closed (elapsed : Duration) (rest : List Arrival) :
      Ends (⟨.closed, elapsed⟩ :: rest) (.closed elapsed)
  | failed (failure : Failure) (elapsed : Duration) (rest : List Arrival) :
      Ends (⟨.failed failure, elapsed⟩ :: rest) (.failed failure elapsed)

/-- The first reads bring the chunks, at whatever time, and `rest` are the reads after them. -/
def Delivers (arrivals : List Arrival) (chunks : List Bytes) (rest : List Arrival) : Prop :=
  ∃ timed : List Arrival, timed.map Arrival.reading = chunks.map Reading.chunk ∧ arrivals = timed ++ rest

/-- Reading takes the chunks and stops: with the one that brings the reply to its cap, or at the
first read that brings none. -/
inductive Stops (limit : Nat) (arrivals : List Arrival) : List Bytes → Ending → Prop where
  | full {chunks : List Bytes} {last : Bytes} {rest : List Arrival}
      (h : Delivers arrivals (chunks ++ [last]) rest) (hRoom : chunks.flatten.length < limit)
      (hFull : limit ≤ (chunks ++ [last]).flatten.length) : Stops limit arrivals (chunks ++ [last]) .full
  | ended {chunks : List Bytes} {rest : List Arrival} {ending : Ending}
      (h : Delivers arrivals chunks rest) (hRoom : chunks.flatten.length < limit)
      (hEnd : Ends rest ending) : Stops limit arrivals chunks ending

/-- The error of an exchange that has brought nothing. -/
inductive FailsWith (address : String) (wrapped : Duration) : Ending → Error → Prop where
  | closedEarly {elapsed : Duration} (h : elapsed.toNanos ≤ wrapped.toNanos) :
      FailsWith address wrapped (.closed elapsed) .tcpWrapped
  | closedLate {elapsed : Duration} (h : wrapped.toNanos < elapsed.toNanos) :
      FailsWith address wrapped (.closed elapsed) (.network (address ++ " closed without data"))
  | resetEarly {failure : Failure} {elapsed : Duration} (hReset : failure.kind = .connectionReset)
      (h : elapsed.toNanos ≤ wrapped.toNanos) :
      FailsWith address wrapped (.failed failure elapsed) .tcpWrapped
  | resetLate {failure : Failure} {elapsed : Duration} (hReset : failure.kind = .connectionReset)
      (h : wrapped.toNanos < elapsed.toNanos) :
      FailsWith address wrapped (.failed failure elapsed) (.io failure.text)
  | otherFailure {failure : Failure} {elapsed : Duration} (h : failure.kind ≠ .connectionReset) :
      FailsWith address wrapped (.failed failure elapsed) (.io failure.text)
  | expired : FailsWith address wrapped .expired (.timeout ("no response from " ++ address))

variable {limit : Nat} {arrivals rest : List Arrival} {chunks : List Bytes} {ending : Ending}
  {wrapped : Duration} {address : String} {received : Bytes}

/-! ## Chunks -/

theorem Delivers.nil (arrivals : List Arrival) : Delivers arrivals [] arrivals := ⟨[], rfl, rfl⟩

theorem Delivers.concat {bytes : Bytes} {elapsed : Duration}
    (h : Delivers arrivals chunks (⟨.chunk bytes, elapsed⟩ :: rest)) :
    Delivers arrivals (chunks ++ [bytes]) rest := by
  obtain ⟨timed, hReadings, rfl⟩ := h
  exact ⟨timed ++ [⟨.chunk bytes, elapsed⟩], by simp [hReadings], by simp⟩

theorem Delivers.of_concat {last : Bytes} (h : Delivers arrivals (chunks ++ [last]) rest) :
    ∃ elapsed, Delivers arrivals chunks (⟨.chunk last, elapsed⟩ :: rest) := by
  obtain ⟨timed, hReadings, rfl⟩ := h
  rw [List.map_append] at hReadings
  obtain ⟨before, final, rfl, hBefore, hFinal⟩ := List.map_eq_append_iff.mp hReadings
  obtain ⟨⟨reading, elapsed⟩, rfl, hLast⟩ := List.map_eq_singleton_iff.mp hFinal
  cases hLast
  exact ⟨elapsed, before, hBefore, by simp⟩

theorem Delivers.mem (h : Delivers arrivals chunks rest) {bytes : Bytes} (hMem : bytes ∈ chunks) :
    ∃ arrival ∈ arrivals, arrival.reading = .chunk bytes := by
  obtain ⟨timed, hReadings, rfl⟩ := h
  have hReading : Reading.chunk bytes ∈ timed.map Arrival.reading :=
    hReadings ▸ List.mem_map_of_mem hMem
  obtain ⟨arrival, hArrival, hSame⟩ := List.mem_map.mp hReading
  exact ⟨arrival, List.mem_append_left _ hArrival, hSame⟩

theorem collect_of_delivers (h : Delivers arrivals chunks rest)
    (hRoom : received.length + chunks.flatten.length < limit) :
    collect limit wrapped address received arrivals =
      collect limit wrapped address (received ++ chunks.flatten) rest := by
  obtain ⟨timed, hReadings, rfl⟩ := h
  induction chunks generalizing timed received with
  | nil =>
    rw [List.map_eq_nil_iff.mp hReadings]
    simp
  | cons bytes chunks ih =>
    obtain ⟨arrival, timed, rfl, hReading, hRest⟩ := List.map_eq_cons_iff.mp hReadings
    rw [List.flatten_cons, List.length_append] at hRoom
    have hSmall : ¬ limit ≤ (received ++ bytes).length := by
      rw [List.length_append]
      omega
    have hLater : (received ++ bytes).length + chunks.flatten.length < limit := by
      rw [List.length_append]
      omega
    rw [List.cons_append, collect, hReading]
    dsimp only
    rw [if_neg hSmall, ih hLater timed hRest, List.append_assoc, List.flatten_cons]

theorem exists_stops (limit : Nat) (arrivals : List Arrival) (hLimit : 0 < limit) :
    ∃ chunks ending, Stops limit arrivals chunks ending := by
  -- the chunks that are delivered so far leave room
  suffices h : ∀ rest chunks, Delivers arrivals chunks rest → chunks.flatten.length < limit →
      ∃ chunks ending, Stops limit arrivals chunks ending from
    h arrivals [] (.nil arrivals) hLimit
  intro rest
  induction rest with
  | nil => exact fun chunks h hRoom => ⟨chunks, _, .ended h hRoom .still⟩
  | cons arrival rest ih =>
    intro chunks h hRoom
    obtain ⟨reading, elapsed⟩ := arrival
    cases reading with
    | closed => exact ⟨chunks, _, .ended h hRoom (.closed elapsed rest)⟩
    | failed failure => exact ⟨chunks, _, .ended h hRoom (.failed failure elapsed rest)⟩
    | expired => exact ⟨chunks, _, .ended h hRoom (.expired elapsed rest)⟩
    | chunk bytes =>
      by_cases hFull : limit ≤ (chunks ++ [bytes]).flatten.length
      · exact ⟨_, _, .full h.concat hRoom hFull⟩
      · exact ih _ h.concat (Nat.lt_of_not_le hFull)

/-! ## Replies -/

theorem collect_of_ends (h : Ends rest ending) :
    ∃ e, collect limit wrapped address received rest = settle received e ∧
      FailsWith address wrapped ending e := by
  cases h with
  | still => exact ⟨_, rfl, .expired⟩
  | expired => exact ⟨_, rfl, .expired⟩
  | closed elapsed rest =>
    refine ⟨closedError address wrapped elapsed, rfl, ?_⟩
    unfold closedError
    split
    · rename_i hEarly
      exact .closedEarly hEarly
    · rename_i hLate
      exact .closedLate (Nat.lt_of_not_le hLate)
  | failed failure elapsed rest =>
    refine ⟨failedError failure wrapped elapsed, rfl, ?_⟩
    unfold failedError
    split
    · rename_i hWrapped
      obtain ⟨hReset, hEarly⟩ := Bool.and_eq_true_iff.mp hWrapped
      exact .resetEarly (of_decide_eq_true hReset) (of_decide_eq_true hEarly)
    · rename_i hPlain
      by_cases hReset : failure.kind = .connectionReset
      · refine .resetLate hReset (Nat.lt_of_not_le fun hEarly => hPlain ?_)
        rw [decide_eq_true hReset, decide_eq_true hEarly]
        rfl
      · exact .otherFailure hReset

theorem Stops.delivers (h : Stops limit arrivals chunks ending) :
    ∃ rest, Delivers arrivals chunks rest := by
  cases h with
  | full h => exact ⟨_, h⟩
  | ended h => exact ⟨_, h⟩

theorem flatten_ne_nil (hChunks : ∀ a ∈ arrivals, a.reading ≠ .chunk [])
    (h : Delivers arrivals chunks rest) (hSome : chunks ≠ []) : chunks.flatten ≠ [] := by
  obtain ⟨bytes, chunks, rfl⟩ := List.exists_cons_of_ne_nil hSome
  obtain ⟨arrival, hArrival, hReading⟩ := h.mem List.mem_cons_self
  intro hEmpty
  rw [List.flatten_cons, List.append_eq_nil_iff] at hEmpty
  exact hChunks arrival hArrival (hEmpty.1 ▸ hReading)

theorem collect_of_stops (hChunks : ∀ a ∈ arrivals, a.reading ≠ .chunk [])
    (h : Stops limit arrivals chunks ending) :
    (chunks ≠ [] → collect limit wrapped address [] arrivals = .ok (chunks.flatten.take limit)) ∧
      (chunks = [] → ∃ e, collect limit wrapped address [] arrivals = .error e ∧
        FailsWith address wrapped ending e) := by
  cases h with
  | @full chunks last rest h hRoom hFull =>
    refine ⟨fun _ => ?_, fun hNone => absurd hNone (by simp)⟩
    obtain ⟨elapsed, hBefore⟩ := h.of_concat
    rw [List.flatten_concat] at hFull ⊢
    rw [collect_of_delivers hBefore (by simpa using hRoom), List.nil_append, collect]
    dsimp only
    rw [if_pos hFull]
  | ended h hRoom hEnd =>
    have hLast : ∃ e, collect limit wrapped address chunks.flatten _ = settle chunks.flatten e ∧
      FailsWith address wrapped ending e := collect_of_ends hEnd
    obtain ⟨e, hSettle, hFails⟩ := hLast
    rw [collect_of_delivers h (by simpa using hRoom), List.nil_append, hSettle, settle]
    constructor
    · intro hSome
      have hReceived : ¬ chunks.flatten.isEmpty = true :=
        mt List.isEmpty_iff.mp (flatten_ne_nil hChunks h hSome)
      rw [if_neg hReceived, List.take_of_length_le (Nat.le_of_lt hRoom)]
    · rintro rfl
      exact ⟨e, rfl, hFails⟩

/-- Whatever a peer does, its reply is what it has sent until reading stops, up to the cap, and a
peer that has sent nothing makes the exchange fail with the error of its ending. -/
theorem tcp_reply_of_readings (t : NetworkTransport) (network : Network) (endpoints : List Endpoint)
    (r : Request) (c : Connection) (hLimit : 1 ≤ t.maxResponse)
    (hConnected : connectAny network (t.callTo r) endpoints = .done c)
    (hWritten : r.payload = [] ∨ c.written = .done ())
    (hChunks : ∀ a ∈ c.arrivals, a.reading ≠ .chunk []) :
    let reply := t.tcpExchange network endpoints r
    (∃ chunks ending, Stops t.maxResponse c.arrivals chunks ending) ∧
      (∀ chunks ending, Stops t.maxResponse c.arrivals chunks ending →
        let total := chunks.flatten.length
        (chunks ≠ [] → reply = .ok (chunks.flatten.take (min total t.maxResponse))) ∧
          (chunks = [] → ∃ e, reply = .error e ∧
            FailsWith r.address (t.tcpWrappedFor r) ending e)) ∧
      ∀ bytes, reply = .ok bytes → 1 ≤ bytes.length ∧ bytes.length ≤ t.maxResponse := by
  intro reply
  have hReply : reply =
      collect t.maxResponse (t.tcpWrappedFor r) r.address [] c.arrivals := by
    simp only [reply, tcpExchange, hConnected]
    rcases hWritten with hNothing | hDone
    · rw [hNothing]
      rfl
    · rw [hDone]
      split <;> rfl
  have hTake (sent : Bytes) :
      sent.take (min sent.length t.maxResponse) = sent.take t.maxResponse := by
    rw [Nat.min_comm, ← List.take_eq_take_min]
  obtain ⟨chunks, ending, hStops⟩ := exists_stops t.maxResponse c.arrivals hLimit
  refine ⟨⟨chunks, ending, hStops⟩, fun others otherEnding hOther => ?_, fun bytes hBytes => ?_⟩
  · dsimp only
    rw [hReply, hTake]
    exact collect_of_stops hChunks hOther
  · rw [hReply] at hBytes
    by_cases hEmpty : chunks = []
    · obtain ⟨e, hError, _⟩ := (collect_of_stops hChunks hStops).2 hEmpty
      rw [hError] at hBytes
      cases hBytes
    · obtain ⟨rest, hDelivers⟩ := hStops.delivers
      have hLength := List.length_pos_iff.mpr (flatten_ne_nil hChunks hDelivers hEmpty)
      rw [(collect_of_stops hChunks hStops).1 hEmpty] at hBytes
      cases hBytes
      rw [List.length_take]
      omega

/-- A peer whose second chunk crosses a cap of four bytes, and that resets the connection then. -/
def chatty : Connection where
  written := .done ()
  arrivals := [⟨.chunk [1, 2, 3], .ofMillis 5⟩, ⟨.chunk [4, 5, 6], .ofMillis 7⟩,
    ⟨.failed ⟨.connectionReset, "Connection reset by peer (os error 104)"⟩, .ofMillis 9⟩]

theorem tcp_reply_of_chatty :
    let t : NetworkTransport := { maxResponse := 4 }
    let network : Network := ⟨fun _ => .done chatty, fun _ => .expired⟩
    let endpoints : List Endpoint := [⟨⟨.v4 0x7F000001, 0⟩, 80⟩]
    let r : Request := ⟨.tcp, "127.0.0.1:80", [0x41], none, none⟩
    1 ≤ t.maxResponse ∧ connectAny network (t.callTo r) endpoints = .done chatty ∧
      chatty.written = .done () ∧ (∀ a ∈ chatty.arrivals, a.reading ≠ .chunk []) ∧
        Stops 4 chatty.arrivals [[1, 2, 3], [4, 5, 6]] .full ∧
          t.tcpExchange network endpoints r = .ok [1, 2, 3, 4] := by
  intro t network endpoints r
  have hChunks : ∀ a ∈ chatty.arrivals, a.reading ≠ .chunk [] := by simp [chatty]
  have hDelivers : Delivers chatty.arrivals ([[1, 2, 3]] ++ [[4, 5, 6]]) (chatty.arrivals.drop 2) :=
    ⟨chatty.arrivals.take 2, rfl, rfl⟩
  have hStops : Stops 4 chatty.arrivals [[1, 2, 3], [4, 5, 6]] .full :=
    .full hDelivers (by decide) (by decide)
  refine ⟨by decide, rfl, rfl, hChunks, hStops, ?_⟩
  exact ((tcp_reply_of_readings t network endpoints r chatty (by decide) rfl (.inr rfl) hChunks).2.1
    _ _ hStops).1 (List.cons_ne_nil _ _)

end ServiceProbe.NetworkTransport
