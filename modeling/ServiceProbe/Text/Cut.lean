import ServiceProbe.Text.Blank

/-! # Cutting texts

A text is cut at the first character of a kind, after a known beginning, at a mark, or into lines.
A line ends at a line feed; a carriage return before that line feed belongs to the ending. -/

namespace ServiceProbe.Text
set_option autoImplicit false

/-- What stands before the first character with `p`, and what follows that character. -/
def cutAt? (p : Char → Bool) (t : Text) : Option (Text × Text) :=
  match t.dropWhile (fun c => !p c) with
  | [] => none
  | _ :: after => some (t.takeWhile (fun c => !p c), after)

def cutOn? (d : Char) (t : Text) : Option (Text × Text) := cutAt? (· == d) t

/-- The rest of a text that begins with `lead`. -/
def after? : Text → Text → Option Text
  | [], t => some t
  | _ :: _, [] => none
  | a :: lead, c :: t => if a = c then after? lead t else none

theorem after?_eq_some_iff {lead t tail : Text} : after? lead t = some tail ↔ t = lead ++ tail := by
  induction lead generalizing t with
  | nil => simp [after?]
  | cons a lead ih =>
    cases t with
    | nil => simp [after?]
    | cons c t =>
      by_cases h : a = c
      · subst h
        simp [after?, ih]
      · simp [after?, h, Ne.symm h]

/-- What stands before the first occurrence of `mark`, and what follows it. -/
def cutMark? (mark : Text) : Text → Option (Text × Text)
  | [] => if mark.isEmpty then some ([], []) else none
  | c :: rest =>
    match after? mark (c :: rest) with
    | some tail => some ([], tail)
    | none => (cutMark? mark rest).map fun (head, tail) => (c :: head, tail)

/-- The text between two equal characters of which the first opens the text. -/
def delimited? : Text → Option (Text × Text)
  | [] => none
  | d :: body => cutOn? d body

theorem length_cutAt? {p : Char → Bool} {t head tail : Text}
    (h : cutAt? p t = some (head, tail)) : tail.length < t.length := by
  unfold cutAt? at h
  have hLe := (List.dropWhile_sublist (fun c => !p c) (l := t)).length_le
  split at h
  · cases h
  · rename_i d after hDrop
    obtain ⟨_, rfl⟩ := Prod.mk.inj (Option.some.inj h)
    rw [hDrop] at hLe
    simp only [List.length_cons] at hLe
    omega

theorem length_after? {lead t tail : Text} (h : after? lead t = some tail) :
    tail.length ≤ t.length := by
  rw [after?_eq_some_iff.mp h, List.length_append]
  omega

theorem length_cutMark? {mark : Text} :
    ∀ {t head tail : Text}, cutMark? mark t = some (head, tail) → tail.length ≤ t.length
  | [], head, tail, h => by
    unfold cutMark? at h
    split at h
    · obtain ⟨_, rfl⟩ := Prod.mk.inj (Option.some.inj h)
      exact Nat.le_refl _
    · cases h
  | c :: rest, head, tail, h => by
    unfold cutMark? at h
    split at h
    · rename_i found hFound
      obtain ⟨_, rfl⟩ := Prod.mk.inj (Option.some.inj h)
      exact length_after? hFound
    · obtain ⟨⟨inner, found⟩, hFound, hEq⟩ := Option.map_eq_some_iff.mp h
      obtain ⟨_, rfl⟩ := Prod.mk.inj hEq
      have := length_cutMark? hFound
      simp only [List.length_cons]
      omega

/-- Replaces the occurrences of `old` from left to right, with `skip` characters of the last one
still to pass over. -/
def replaceFrom (old new : Text) : Nat → Text → Text
  | _, [] => []
  | skip + 1, _ :: rest => replaceFrom old new skip rest
  | 0, c :: rest =>
    if (after? old (c :: rest)).isSome then new ++ replaceFrom old new (old.length - 1) rest
    else c :: replaceFrom old new 0 rest

/-- Every leftmost occurrence of `old` gives way to `new`; the empty text occurs around every
character. -/
def replace (old new t : Text) : Text :=
  if old.isEmpty then new ++ t.flatMap (fun c => c :: new) else replaceFrom old new 0 t

def dropReturn (line : Text) : Text :=
  if line.getLast? = some '\r' then line.dropLast else line

/-- The lines of a text. What follows the last line feed is a line unless it is empty, and keeps
a carriage return at its end. -/
def lines (t : Text) : List Text :=
  let parts := t.splitOn '\n'
  let last := parts.getLast?.getD []
  parts.dropLast.map dropReturn ++ (if last.isEmpty then [] else [last])

def commaParts (t : Text) : List Text := t.splitOn ','

/-- Puts a separator between the parts. -/
def join (separator : Char) : List Text → Text
  | [] => []
  | [part] => part
  | part :: rest => part ++ separator :: join separator rest

def utf8Length (t : Text) : Nat := t.foldl (fun n c => n + c.utf8Size) 0

end ServiceProbe.Text
