/-! # Sets of bytes

A set of bytes is a word of 256 bits. -/

namespace ServiceProbe
set_option autoImplicit false

abbrev Bytes := List UInt8

structure ByteSet where
  bits : BitVec 256
  deriving DecidableEq

namespace ByteSet

def empty : ByteSet := ⟨0⟩

def full : ByteSet := ⟨~~~0⟩

def contains (s : ByteSet) (b : UInt8) : Bool := s.bits.getLsbD b.toNat

/-- The bytes from `low` to `high`. -/
def range (low high : Nat) : ByteSet :=
  ⟨BitVec.ofNat 256 ((1 <<< (high + 1 - low) - 1) <<< low)⟩

def single (b : UInt8) : ByteSet := range b.toNat b.toNat

def ofChar (c : Char) : ByteSet := range c.toNat c.toNat

def union (s t : ByteSet) : ByteSet := ⟨s.bits ||| t.bits⟩

def inter (s t : ByteSet) : ByteSet := ⟨s.bits &&& t.bits⟩

def compl (s : ByteSet) : ByteSet := ⟨~~~s.bits⟩

def diff (s t : ByteSet) : ByteSet := s.inter t.compl

def symmDiff (s t : ByteSet) : ByteSet := ⟨s.bits ^^^ t.bits⟩

def ofRanges (rs : List (Nat × Nat)) : ByteSet :=
  rs.foldl (fun s r => s.union (range r.1 r.2)) empty

def lowerLetters : ByteSet := range 0x61 0x7A

def upperLetters : ByteSet := range 0x41 0x5A

/-- The set with the other case of each of its ASCII letters. -/
def foldCase (s : ByteSet) : ByteSet :=
  ⟨s.bits ||| ((s.inter lowerLetters).bits >>> 32) ||| ((s.inter upperLetters).bits <<< 32)⟩

/-- The bytes of the set in ascending order. -/
def members (s : ByteSet) : List Nat := (List.range 256).filter fun i => s.bits.getLsbD i

/-- The number of maximal runs of neighbouring bytes. -/
def runCount (s : ByteSet) : Nat :=
  (List.range 256).countP fun i => s.bits.getLsbD i && (i == 0 || !s.bits.getLsbD (i - 1))

def isAscii (s : ByteSet) : Bool := s.inter (range 0 0x7F) = s

theorem contains_union (s t : ByteSet) (b : UInt8) :
    (s.union t).contains b = (s.contains b || t.contains b) := by
  simp [contains, union]

theorem contains_inter (s t : ByteSet) (b : UInt8) :
    (s.inter t).contains b = (s.contains b && t.contains b) := by
  simp [contains, inter]

theorem contains_compl (s : ByteSet) (b : UInt8) : s.compl.contains b = !s.contains b := by
  have h : b.toNat < 256 := b.toNat_lt
  simp [contains, compl, h]

end ByteSet
end ServiceProbe
