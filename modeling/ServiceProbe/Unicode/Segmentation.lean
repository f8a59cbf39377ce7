import ServiceProbe.Unicode.Property
import ServiceProbe.Unicode.Script

/-! # Text segmentation

What a character does where a text is cut into grapheme clusters, words and sentences. -/

namespace ServiceProbe.Unicode
set_option autoImplicit false

def carriageReturn : Formula := .runs ["13 1"]

def lineFeed : Formula := .runs ["10 1"]

def zeroWidthJoiner : Formula := .runs ["8205 1"]

/-- The characters that never begin a word or a sentence. -/
def follower : Formula := graphemeExtend ∪ spacingMark

namespace GraphemeCluster

def extend : Formula := graphemeExtend ∪ emojiModifier

def control : Formula :=
  (Unicode.control ∪ format ∪ lineSeparator ∪ paragraphSeparator ∪
    (defaultIgnorable \ assigned)) \
  (prependedConcatenationMark ∪ carriageReturn ∪ lineFeed ∪ extend ∪ zeroWidthJoiner)

def prepend : Formula :=
  prependedConcatenationMark ∪ .runs
    ["3406 1 66675 2 525 1 1389 1 1 1 248 1 73 6 700 1 443 1"]

def spacing : Formula :=
  ((spacingMark \ graphemeExtend) \ .runs
    ["4139 2 11 1 41 3 2 7 21 1 3 6 2 1 10 3 2500 1 1 2 36886 1 1 1 27810 2"]) ∪ .runs
    ["3635 1 127 1"]

def leadingJamo : Formula := .runs ["4352 96 38912 29"]

def vowelJamo : Formula := .runs ["4448 72 50696 23 38300 1 3 4"]

def trailingJamo : Formula := .runs ["4520 88 50635 49"]

def syllables : Formula := .runs ["44032 11172"]

/-- The syllables without a trailing consonant: one in 28. -/
def openSyllables : Formula := .steps 44032 28 399

def values : List (List String × Formula) := [
  (["cr"], carriageReturn),
  (["lf"], lineFeed),
  (["cn", "control"], control),
  (["ex", "extend"], extend),
  (["zwj"], zeroWidthJoiner),
  (["regionalindicator", "ri"], regionalIndicator),
  (["pp", "prepend"], prepend),
  (["sm", "spacingmark"], spacing),
  (["l"], leadingJamo),
  (["v"], vowelJamo),
  (["t"], trailingJamo),
  (["lv"], openSyllables),
  (["lvt"], syllables \ openSyllables)]

end GraphemeCluster

namespace Word

def doubleQuote : Formula := .runs ["34 1"]

def singleQuote : Formula := .runs ["39 1"]

def newline : Formula := .runs ["11 2 120 1 8098 2"]

def extend : Formula := follower ∪ emojiModifier

def format : Formula :=
  (Unicode.format \ zeroWidthJoiner) \ .runs
    ["1536 6 215 1 49 1 384 2 80 1 5928 2 61616 1 15 1 847698 96"]

def hebrewLetter : Formula := .runs ["1488 27 4 4 62762 1 1 10 1 13 1 5 1 1 1 2 1 2 1 10"]

def katakana : Formula := .runs
  ["12337 5 101 2 3 91 1 4 240 16 208 47 1 88 52238 56 45138 4 1 7 1 2 1 1 287 3 50 1 14 4"]

def hiragana : Formula := .runs ["12353 86 6 3 98145 287 18 1 29 3 16557 1"]

def letter : Formula :=
  ((alphabetic \ (ideographic ∪ hiragana ∪ katakana ∪ extend ∪ hebrewLetter)) \ .runs
    ["3585 48 1 2 12 7 58 2 1 1 1 5 1 24 1 1 1 10 1 2 9 1 2 5 1 1 21 4 288 43 20 1 16 6 4 4 3 1",
     "3 2 7 3 4 13 12 1 1777 52 35 1 4 1 371 30 2 5 11 44 4 26 86 53 82 1 36664 5 1 10 10 5 97",
     "23 3 1 3 50 1 1 3 2 2 5 2 1 1 1 24 3 27682 27 37 7"]) ∪ .runs
    ["706 4 12 6 6 2 5 7 1 1 1 17 602 3 1 1 43 1 104 1 283 1 40952 15 9 2 103 2 976 1"]

def midLetter : Formula := .runs ["58 1 124 1 719 1 471 1 148 1 6706 1 56811 1 65 1 196 1"]

def midNumber : Formula :=
  .runs ["44 1 14 1 834 1 522 1 130 2 94 1 395 1 6219 1 56843 1 3 1 183 1 14 1"]

def midBoth : Formula := .runs ["46 1 8169 2 10 1 56877 1 180 1 6 1"]

def numeric : Formula :=
  decimalNumber ∪ .runs
    ["1536 6 101 1 113 1 434 2 80 1 4343 1 63202 1 15 1"]

def joiner : Formula := connectorPunctuation ∪ .runs ["8239 1"]

def space : Formula := .runs ["32 1 5727 1 2431 7 1 3 84 1 4000 1"]

def values : List (List String × Formula) := [
  (["cr"], carriageReturn),
  (["lf"], lineFeed),
  (["newline", "nl"], newline),
  (["extend"], extend),
  (["zwj"], zeroWidthJoiner),
  (["regionalindicator", "ri"], regionalIndicator),
  (["fo", "format"], format),
  (["ka", "katakana"], katakana),
  (["hebrewletter", "hl"], hebrewLetter),
  (["aletter", "le"], letter),
  (["singlequote", "sq"], singleQuote),
  (["doublequote", "dq"], doubleQuote),
  (["mb", "midnumlet"], midBoth),
  (["midletter", "ml"], midLetter),
  (["midnum", "mn"], midNumber),
  (["nu", "numeric"], numeric),
  (["ex", "extendnumlet"], joiner),
  (["wsegspace"], space)]

end Word

namespace Sentence

def extend : Formula := follower ∪ zeroWidthJoiner

def separator : Formula := .runs ["133 1 8098 2"]

def format : Formula :=
  (Unicode.format \ extend) \ .runs
    ["1536 6 215 1 434 2 80 1 67546 1 15 1"]

def space : Formula := (whiteSpace \ (separator ∪ carriageReturn ∪ lineFeed))

def lower : Formula := (lowercase \ graphemeExtend) \ .runs ["4304 43 2 3"]

def upper : Formula := (uppercase ∪ titlecaseLetter) \ .runs ["7312 43 2 3"]

def letter : Formula := (alphabetic \ (lower ∪ upper ∪ extend)) ∪ .runs ["1523 1"]

def numeric : Formula := Word.numeric ∪ .runs ["1644 1"]

def fullStop : Formula := .runs ["46 1 8181 1 56877 1 187 1"]

def terminal : Formula := sentenceTerminal \ fullStop

def continuation : Formula := .runs
  ["44 2 12 2 834 1 478 1 174 2 490 1 4105 1 5 1 2058 2 4076 1 52750 2 1 2 28 2 29 2 2 2 2 1 10",
   "1 168 2 12 2 72 1"]

def closing : Formula :=
  ((openPunctuation ∪ closePunctuation ∪ initialPunctuation ∪ finalPunctuation ∪
    quotationMark) \ .runs
    ["65282 1 4 1"]) ∪ .runs
    ["10075 6 1695 2 4 3 2 1 116842 3"]

def values : List (List String × Formula) := [
  (["cr"], carriageReturn),
  (["lf"], lineFeed),
  (["ex", "extend"], extend),
  (["se", "sep"], separator),
  (["fo", "format"], format),
  (["sp"], space),
  (["lo", "lower"], lower),
  (["up", "upper"], upper),
  (["le", "oletter"], letter),
  (["nu", "numeric"], numeric),
  (["at", "aterm"], fullStop),
  (["st", "sterm"], terminal),
  (["sc", "scontinue"], continuation),
  (["cl", "close"], closing)]

end Sentence

/-- The set of a value by its name in lower case without separators. -/
def valueBy? (values : List (List String × Formula)) (name : String) : Option CodeSet :=
  (values.find? fun entry => name ∈ entry.1).map fun entry => entry.2.toSet

end ServiceProbe.Unicode
