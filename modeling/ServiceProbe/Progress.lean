import ServiceProbe.Decimal.Rounding

/-! # Progress

Counts of the targets of a job: all of them, those that are done and those that got a finger. Each
count is changed and read on its own, so that what watches a job sees them between two changes. -/

namespace ServiceProbe
set_option autoImplicit false

structure Progress where
  total : Nat
  completed : Nat
  identified : Nat
  deriving DecidableEq, Repr

namespace Progress

def zero : Progress := ⟨0, 0, 0⟩

/-- The counts are machine words, and their difference wraps around where more targets have been seen
identified than done. -/
def unidentified (p : Progress) : Nat :=
  (UInt64.ofNat p.completed - UInt64.ofNat p.identified).toNat

/-- A change of one count. -/
inductive Change where
  | setTotal (n : Nat)
  | clearCompleted
  | clearIdentified
  | countIdentified
  | countCompleted
  deriving DecidableEq, Repr

def change (p : Progress) : Change → Progress
  | .setTotal n => { p with total := n }
  | .clearCompleted => { p with completed := 0 }
  | .clearIdentified => { p with identified := 0 }
  | .countIdentified => { p with identified := p.identified + 1 }
  | .countCompleted => { p with completed := p.completed + 1 }

def changeAll (p : Progress) (changes : List Change) : Progress := changes.foldl change p

/-- The changes that begin a job. -/
def resetChanges (total : Nat) : List Change := [.setTotal total, .clearCompleted, .clearIdentified]

/-- The changes that a target makes when it is done. -/
def recordChanges (identified : Bool) : List Change :=
  if identified then [.countIdentified, .countCompleted] else [.countCompleted]

def reset (p : Progress) (total : Nat) : Progress := p.changeAll (resetChanges total)

def record (p : Progress) (identified : Bool) : Progress := p.changeAll (recordChanges identified)

theorem record_eq (p : Progress) (identified : Bool) :
    p.record identified = ⟨p.total, p.completed + 1, p.identified + identified.toNat⟩ := by
  cases identified <;> rfl

theorem unidentified_of_le {p : Progress} (hDone : p.completed < UInt64.size)
    (h : p.identified ≤ p.completed) : p.unidentified = p.completed - p.identified := by
  simp only [UInt64.size] at hDone
  rw [unidentified, UInt64.toNat_sub, UInt64.toNat_ofNat', UInt64.toNat_ofNat']
  omega

theorem unidentified_of_lt {p : Progress} (hSeen : p.identified < UInt64.size)
    (h : p.completed < p.identified) :
    p.unidentified = UInt64.size - (p.identified - p.completed) := by
  simp only [UInt64.size] at hSeen ⊢
  rw [unidentified, UInt64.toNat_sub, UInt64.toNat_ofNat', UInt64.toNat_ofNat']
  omega

/-- How many in a hundred were identified, with one place after the point. -/
def rate (p : Progress) : String :=
  let share := (Decimal.Binary.ofNat p.identified).div (Decimal.Binary.ofNat p.total)
  (share.mul (Decimal.Binary.ofNat 100)).oneDecimal

/-- What a summary says, line by line. The rate is left out where there was nothing to do. -/
def summary (p : Progress) : List String :=
  "scan summary" ::
    if p.total = 0 then [] else ["identification rate: " ++ p.rate ++ "%"]

end Progress
end ServiceProbe
