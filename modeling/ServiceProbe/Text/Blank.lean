/-! # Texts and the blanks in them

A text is read character by character. The characters that separate its words are those of the
Unicode property White_Space, which is wider than the blanks of ASCII. -/

namespace ServiceProbe
set_option autoImplicit false

abbrev Text := List Char

namespace Text

def isBlank (c : Char) : Bool :=
  let n := c.toNat
  (0x9 ≤ n && n ≤ 0xD) || n == 0x20 || n == 0x85 || n == 0xA0 || n == 0x1680 ||
    (0x2000 ≤ n && n ≤ 0x200A) || n == 0x2028 || n == 0x2029 || n == 0x202F || n == 0x205F ||
    n == 0x3000

def trimStart (t : Text) : Text := t.dropWhile isBlank

def trimEnd (t : Text) : Text := (t.reverse.dropWhile isBlank).reverse

def trim (t : Text) : Text := trimEnd (trimStart t)

/-- The text up to its first blank, and the rest from that blank on. -/
def word (t : Text) : Text × Text :=
  (t.takeWhile (fun c => !isBlank c), t.dropWhile (fun c => !isBlank c))

theorem word_append (t : Text) : (word t).1 ++ (word t).2 = t :=
  List.takeWhile_append_dropWhile

/-- The first word after any leading blanks, and what follows it. -/
def nextWord? (t : Text) : Option (Text × Text) :=
  match trimStart t with
  | [] => none
  | c :: rest => some (word (c :: rest))

end Text
end ServiceProbe
