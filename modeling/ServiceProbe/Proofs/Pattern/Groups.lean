import ServiceProbe.Pattern

/-! # Groups of a match

Only the groups of an expression leave marks in the trail of a match. A group with another number
has matched nothing. -/

namespace ServiceProbe.Pattern
set_option autoImplicit false

def Expr.groups : Expr → List Nat
  | seq a b | alt a b => a.groups ++ b.groups
  | group index e => index :: e.groups
  | many e _ _ _ => e.groups
  | _ => []

variable {allowed : Nat → Prop} {program : Program} {place : Place}

/-! ## Marks of a program -/

def State.IsAllowed (allowed : Nat → Prop) : State → Prop
  | .mark slot _ => allowed slot
  | _ => True

def IsMarked (allowed : Nat → Prop) (states : Array State) : Prop :=
  ∀ s ∈ states, s.IsAllowed allowed

namespace Assembly

def Keeps {α : Type} (allowed : Nat → Prop) (build : Assembly α) : Prop :=
  ∀ states, IsMarked allowed states → IsMarked allowed (build states).2

theorem keeps_pure {α : Type} (a : α) : Keeps allowed (pure a) := fun _ h => h

theorem Keeps.bind {α β : Type} {build : Assembly α} {next : α → Assembly β}
    (h : Keeps allowed build) (hNext : ∀ a, Keeps allowed (next a)) :
    Keeps allowed (build >>= next) := fun states hStates =>
  hNext (build states).1 (build states).2 (h states hStates)

theorem keeps_add {s : State} (h : s.IsAllowed allowed) : Keeps allowed (add s) := by
  intro states hStates s' hIn
  rcases Array.mem_push.mp hIn with hIn | rfl
  · exact hStates s' hIn
  · exact h

theorem keeps_put (address : Nat) {s : State} (h : s.IsAllowed allowed) :
    Keeps allowed (put address s) := by
  intro states hStates s' hIn
  obtain hIn | rfl := Array.mem_or_eq_of_mem_setIfInBounds hIn
  · exact hStates s' hIn
  · exact h

theorem isAllowed_fork (greedy : Bool) (body exit : Nat) :
    (fork greedy body exit).IsAllowed allowed := by
  cases greedy <;> trivial

variable {part : Nat → Assembly Nat}

theorem keeps_copies (h : ∀ next, Keeps allowed (part next)) (n next : Nat) :
    Keeps allowed (copies part n next) := by
  induction n generalizing next with
  | zero => exact keeps_pure next
  | succ n ih => exact (h next).bind ih

theorem keeps_options (h : ∀ next, Keeps allowed (part next)) (greedy : Bool) (exit n next : Nat) :
    Keeps allowed (options part greedy exit n next) := by
  induction n generalizing next with
  | zero => exact keeps_pure next
  | succ n ih =>
    exact (h next).bind fun body => (keeps_add (isAllowed_fork greedy body exit)).bind ih

theorem keeps_loop (h : ∀ next, Keeps allowed (part next)) (greedy : Bool) (exit : Nat) :
    Keeps allowed (loop part greedy exit) :=
  Keeps.bind (keeps_add trivial) fun again => Keeps.bind (h again) fun body =>
    Keeps.bind (keeps_put again (isAllowed_fork greedy body exit)) fun _ => keeps_pure body

theorem keeps_literal (bytes : Bytes) (next : Nat) :
    Keeps allowed (bytes.foldlM (fun next b => add (.byte (.single b) next)) next) := by
  induction bytes generalizing next with
  | nil => exact keeps_pure next
  | cons b bytes ih =>
    rw [List.foldlM_cons]
    exact Keeps.bind (keeps_add trivial) ih

theorem keeps_emit {e : Expr} (h : ∀ n ∈ e.groups, allowed (2 * n) ∧ allowed (2 * n + 1))
    (next : Nat) : Keeps allowed (emit e next) := by
  induction e generalizing next with
  | empty => exact keeps_pure next
  | literal bytes => exact keeps_literal bytes.reverse next
  | byte set | char set | look assertion => exact keeps_add trivial
  | seq a b ihA ihB =>
    have hA := ihA fun n hn => h n (List.mem_append_left _ hn)
    have hB := ihB fun n hn => h n (List.mem_append_right _ hn)
    exact Keeps.bind (hB next) hA
  | alt a b ihA ihB =>
    have hA := ihA fun n hn => h n (List.mem_append_left _ hn)
    have hB := ihB fun n hn => h n (List.mem_append_right _ hn)
    exact Keeps.bind (hA next) fun _ => Keeps.bind (hB next) fun _ => keeps_add trivial
  | group index body ih =>
    obtain ⟨⟨hFirst, hLast⟩, hBody⟩ := List.forall_mem_cons.mp h
    exact Keeps.bind (keeps_add hLast) fun last =>
      Keeps.bind (ih hBody last) fun _ => keeps_add hFirst
  | many body least most greedy ih =>
    have hBody := ih h
    cases most with
    | some most =>
      rw [emit]
      exact Keeps.bind (keeps_options hBody greedy next _ next) (keeps_copies hBody least)
    | none =>
      cases least with
      | succ least =>
        exact Keeps.bind (keeps_loop hBody greedy next) (keeps_copies hBody least)
      | zero =>
        rw [emit]
        split
        · exact Keeps.bind (keeps_add trivial) fun round => Keeps.bind (hBody round) fun body =>
            Keeps.bind (keeps_put round (isAllowed_fork greedy body next)) fun _ =>
              keeps_pure round
        · exact Keeps.bind (keeps_loop hBody greedy next) fun body =>
            keeps_add (isAllowed_fork greedy body next)

end Assembly

/-- The slots of a group of the expression, or of the whole match. -/
def Expr.IsSlot (e : Expr) (slot : Nat) : Prop :=
  ∃ n, (n = 0 ∨ n ∈ e.groups) ∧ (slot = 2 * n ∨ slot = 2 * n + 1)

theorem isMarked_ofExpr (e : Expr) : IsMarked e.IsSlot (Program.ofExpr e).states := by
  have hGroups : ∀ n ∈ (Expr.group 0 e).groups, e.IsSlot (2 * n) ∧ e.IsSlot (2 * n + 1) := by
    intro n hn
    exact ⟨⟨n, List.mem_cons.mp hn, .inl rfl⟩, ⟨n, List.mem_cons.mp hn, .inr rfl⟩⟩
  have hBuild : Assembly.Keeps e.IsSlot (do
      Assembly.emit (.group 0 e) (← Assembly.add .accept)) :=
    Assembly.Keeps.bind (Assembly.keeps_add trivial) (Assembly.keeps_emit hGroups)
  exact hBuild #[] fun _ hIn => absurd hIn (by simp)

/-! ## Trails -/

def Trail.IsAllowed (allowed : Nat → Prop) (trail : Trail) : Prop :=
  ∀ entry ∈ trail, allowed entry.1

def AllAllowed (allowed : Nat → Prop) (threads : List Thread) : Prop :=
  ∀ thread ∈ threads, thread.trail.IsAllowed allowed

theorem AllAllowed.nil : AllAllowed allowed [] := fun _ h => by cases h

theorem AllAllowed.cons {thread : Thread} {threads : List Thread}
    (hThread : thread.trail.IsAllowed allowed) (h : AllAllowed allowed threads) :
    AllAllowed allowed (thread :: threads) :=
  List.forall_mem_cons.mpr ⟨hThread, h⟩

theorem AllAllowed.head {thread : Thread} {threads : List Thread}
    (h : AllAllowed allowed (thread :: threads)) : thread.trail.IsAllowed allowed :=
  h thread List.mem_cons_self

theorem AllAllowed.tail {thread : Thread} {threads : List Thread}
    (h : AllAllowed allowed (thread :: threads)) : AllAllowed allowed threads :=
  (List.forall_mem_cons.mp h).2

theorem allAllowed_follow (hProgram : IsMarked allowed program.states) (fuel : Nat)
    {pending : List Thread} {frontier : Frontier} (hPending : AllAllowed allowed pending)
    (hFrontier : AllAllowed allowed frontier.threads) :
    AllAllowed allowed (Frontier.follow program place fuel pending frontier).threads := by
  fun_induction Frontier.follow program place fuel pending frontier with
  | case1 | case2 => exact hFrontier
  | case3 | case4 | case5 | case12 =>
    rename_i ih
    exact ih hPending.tail hFrontier
  | case6 | case7 | case8 =>
    rename_i ih
    exact ih hPending.tail (AllAllowed.cons hPending.head hFrontier)
  | case9 =>
    rename_i ih
    refine ih ?_ hFrontier
    exact AllAllowed.cons hPending.head (AllAllowed.cons hPending.head hPending.tail)
  | case10 _ thread _ _ _ _ slot next hState _ ih =>
    have hSlot : allowed slot := hProgram _ (Array.mem_of_getElem? hState)
    refine ih (AllAllowed.cons ?_ hPending.tail) hFrontier
    exact List.forall_mem_cons.mpr ⟨hSlot, hPending.head⟩
  | case11 =>
    rename_i ih
    exact ih (AllAllowed.cons hPending.head hPending.tail) hFrontier

variable {frontier : Frontier} {best : Option Trail}

theorem allAllowed_arrive (hProgram : IsMarked allowed program.states) {thread : Thread}
    (hThread : thread.trail.IsAllowed allowed) (hFrontier : AllAllowed allowed frontier.threads) :
    AllAllowed allowed (frontier.arrive program place thread).threads := by
  unfold Frontier.arrive
  split
  · exact allAllowed_follow hProgram _ (AllAllowed.cons hThread AllAllowed.nil) hFrontier
  · exact AllAllowed.cons hThread hFrontier

theorem allAllowed_advance (hProgram : IsMarked allowed program.states) (b : UInt8)
    {threads : List Thread} (hThreads : AllAllowed allowed threads)
    (hFrontier : AllAllowed allowed frontier.threads)
    (hBest : ∀ trail ∈ best, trail.IsAllowed allowed) :
    AllAllowed allowed (advance program place b threads frontier best).1.threads ∧
      ∀ trail ∈ (advance program place b threads frontier best).2, trail.IsAllowed allowed := by
  fun_induction advance program place b threads frontier best with
  | case1 => exact ⟨hFrontier, hBest⟩
  | case2 | case4 | case7 =>
    rename_i ih
    exact ih hThreads.tail (allAllowed_arrive hProgram hThreads.head hFrontier) hBest
  | case3 =>
    refine ⟨hFrontier, fun trail hTrail => ?_⟩
    obtain rfl := Option.some.inj hTrail
    exact hThreads.head
  | case5 | case6 | case8 | case9 =>
    rename_i ih
    exact ih hThreads.tail hFrontier hBest

theorem isAllowed_acceptedTrail? {threads : List Thread} {trail : Trail}
    (hThreads : AllAllowed allowed threads) (h : acceptedTrail? program threads = some trail) :
    trail.IsAllowed allowed := by
  obtain ⟨thread, hFound, rfl⟩ := Option.map_eq_some_iff.mp h
  exact hThreads thread (List.mem_of_find?_eq_some hFound)

theorem allAllowed_started (hProgram : IsMarked allowed program.states)
    (hFrontier : AllAllowed allowed frontier.threads) :
    AllAllowed allowed (if best.isSome then frontier
      else frontier.add program place ⟨program.start, [], 0⟩).threads := by
  split
  · exact hFrontier
  · exact allAllowed_follow hProgram _ (AllAllowed.cons (fun _ h => by cases h) .nil) hFrontier

theorem isAllowed_searchFrom (hProgram : IsMarked allowed program.states) {input : ByteArray}
    {index : Nat} {remaining : Bytes} (hFrontier : AllAllowed allowed frontier.threads)
    (hBest : ∀ trail ∈ best, trail.IsAllowed allowed) {trail : Trail}
    (h : searchFrom program input index remaining frontier best = some trail) :
    trail.IsAllowed allowed := by
  fun_induction searchFrom program input index remaining frontier best with
  | case1 => exact hBest trail h
  | case2 index frontier best started hGo =>
    have hStarted : AllAllowed allowed started.threads := allAllowed_started hProgram hFrontier
    rcases Option.or_eq_some_iff.mp h with hAccepted | ⟨_, hFound⟩
    · refine isAllowed_acceptedTrail? (fun thread hIn => ?_) hAccepted
      exact hStarted thread (List.mem_reverse.mp hIn)
    · exact hBest trail hFound
  | case3 index frontier best started hGo threads b rest next found hAdvance ih =>
    have hStarted : AllAllowed allowed started.threads := allAllowed_started hProgram hFrontier
    have hThreads : AllAllowed allowed threads := fun thread hIn =>
      hStarted thread (List.mem_reverse.mp hIn)
    obtain ⟨hNext, hFound⟩ := @allAllowed_advance allowed program ⟨input, index + 1⟩
      ⟨[], started.reached⟩ best hProgram b threads hThreads .nil hBest
    rw [hAdvance] at hNext hFound
    exact ih hNext hFound h

theorem isAllowed_search (hProgram : IsMarked allowed program.states) {bytes : Bytes}
    {trail : Trail} (h : search program bytes = some trail) : trail.IsAllowed allowed :=
  isAllowed_searchFrom hProgram .nil (fun _ hNone => by cases hNone) h

/-- A group of a match that is not in the expression has matched nothing. -/
theorem group?_eq_none {p : Pattern} {t : Text} {flags : PatternFlags} {e : Expr} {reply : Bytes}
    {captures : Captures} {n : Nat} (hExpr : expr? t flags = some e)
    (hPattern : compile? t flags = some p) (hMatch : p.captures? reply = some captures)
    (hn : n ≠ 0) (hNone : n ∉ e.groups) : captures.group? n = none := by
  obtain ⟨trail, hTrail, rfl⟩ := Option.map_eq_some_iff.mp hMatch
  rw [compile?, hExpr] at hPattern
  cases hPattern
  have hSlots := isAllowed_search (isMarked_ofExpr e) hTrail
  have hLookup : trail.lookup (2 * n) = none := by
    refine List.lookup_eq_none_iff.mpr fun entry hIn => ?_
    obtain ⟨m, hm, hSlot⟩ := hSlots entry hIn
    rw [bne_iff_ne]
    intro hSame
    obtain rfl : m = n := by omega
    exact hm.elim hn hNone
  simp only [Captures.group?, hLookup]

end ServiceProbe.Pattern
