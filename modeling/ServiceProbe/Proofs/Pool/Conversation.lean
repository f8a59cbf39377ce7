import ServiceProbe.Exchange

/-! # Conversations

A dialogue is brought on by the replies to its own requests alone. Several dialogues may share one
log of requests, each with the place it was made for; the exchanges of one place are picked out of
it, and the replies are those of the transport to the whole log. -/

namespace ServiceProbe
set_option autoImplicit false

namespace Dialogue

/-- What is left of a dialogue after some exchanges, each of which is its next request with a reply. -/
inductive Leads : Dialogue → List (Request × Reply) → Dialogue → Prop where
  | here (d : Dialogue) : Leads d [] d
  | send {request : Request} {next : Reply → Dialogue} {reply : Reply}
      {exchanges : List (Request × Reply)} {d : Dialogue} (h : Leads (next reply) exchanges d) :
      Leads (.send request next) ((request, reply) :: exchanges) d

theorem Leads.concat {d : Dialogue} {exchanges : List (Request × Reply)} {request : Request}
    {next : Reply → Dialogue} (h : d.Leads exchanges (.send request next)) (reply : Reply) :
    d.Leads (exchanges ++ [(request, reply)]) (next reply) := by
  generalize hEnd : Dialogue.send request next = last at h
  induction h with
  | here d =>
    subst hEnd
    exact .send (.here _)
  | send h ih => exact .send (ih hEnd)

end Dialogue

/-- The requests of a log with the replies of the transport, after the requests of `history`. -/
def answered (transport : Transport) : List Request → List (Nat × Request) →
    List (Nat × Request × Reply)
  | _, [] => []
  | history, (place, request) :: rest =>
    (place, request, transport history request) :: answered transport (history ++ [request]) rest

/-- The exchanges of a log that were made for a place. -/
def exchangesAt (transport : Transport) (log : List (Nat × Request)) (place : Nat) :
    List (Request × Reply) :=
  ((answered transport [] log).filter fun entry => entry.1 == place).map Prod.snd

theorem answered_concat (transport : Transport) (history : List Request)
    (log : List (Nat × Request)) (place : Nat) (request : Request) :
    answered transport history (log ++ [(place, request)]) = answered transport history log ++
      [(place, request, transport (history ++ log.map Prod.snd) request)] := by
  induction log generalizing history with
  | nil => simp [answered]
  | cons entry log ih =>
    obtain ⟨other, earlier⟩ := entry
    simp only [List.cons_append, answered, ih, List.map_cons, List.append_assoc, List.nil_append]

section

variable (transport : Transport) (log : List (Nat × Request)) (place : Nat) (request : Request)

theorem exchangesAt_concat : exchangesAt transport (log ++ [(place, request)]) place =
    exchangesAt transport log place ++ [(request, transport (log.map Prod.snd) request)] := by
  simp [exchangesAt, answered_concat]

theorem exchangesAt_concat_of_ne {other : Nat} (h : other ≠ place) :
    exchangesAt transport (log ++ [(other, request)]) place = exchangesAt transport log place := by
  simp [exchangesAt, answered_concat, h]

end

end ServiceProbe
