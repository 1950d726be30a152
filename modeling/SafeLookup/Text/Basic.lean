/-!
# Parts, white space and letter case of a text

A text with `n` separators has `n + 1` parts, some of which may be empty. Lines are the parts
between line ends, of which Unicode knows more than one.

White space is what surrounds a setting in the environment: the characters with the Unicode property
White_Space, and the four separators U+001C to U+001F. Zero-width characters are not blank. A run of
octets has a white space of its own, that of ASCII.

Settings are compared with ASCII words in one case. A few characters outside ASCII have an ASCII
letter as their other case: the dotless i and the long s become `I` and `S`, the sharp s and the
ligatures become pairs and triples, and the Kelvin sign becomes `k`. Every other character outside
ASCII has a form with a character outside ASCII, so it may stand for itself: no ASCII word contains
it either way.
-/

namespace SafeLookup.Text

/-! ### Parts -/

/-- The parts of a text between the characters that separate. -/
def splitBy (separates : Char → Bool) : List Char → List (List Char)
  | [] => [[]]
  | c :: rest =>
    if separates c then [] :: splitBy separates rest
    else
      match splitBy separates rest with
      | [] => [[c]]
      | first :: others => (c :: first) :: others

/-- Whether a character ends a line: the line feed, the separators U+001C to U+001E, the next-line
control and the separators of lines and paragraphs. -/
def isLineEnd (c : Char) : Bool := [0x0A, 0x1C, 0x1D, 0x1E, 0x85, 0x2028, 0x2029].contains c.toNat

/-- The lines of a text. -/
def lines (cs : List Char) : List (List Char) := splitBy isLineEnd cs

/-! ### White space -/

/-- Whether a character is white space. -/
def isBlank (c : Char) : Bool :=
  let n := c.toNat
  (9 ≤ n && n ≤ 13) || (28 ≤ n && n ≤ 32) || n == 0x85 || n == 0xA0 || n == 0x1680 ||
    (0x2000 ≤ n && n ≤ 0x200A) || n == 0x2028 || n == 0x2029 || n == 0x202F || n == 0x205F ||
    n == 0x3000

/-- Whether an octet is ASCII white space. -/
def isBlankOctet (b : UInt8) : Bool := (9 ≤ b && b ≤ 13) || b == 32

/-- Removes the items that satisfy `p` from both ends. -/
def trimBy {α : Type} (p : α → Bool) (xs : List α) : List α :=
  ((xs.dropWhile p).reverse.dropWhile p).reverse

/-- Removes white space from both ends of a text. -/
def trim (cs : List Char) : List Char := trimBy isBlank cs

/-! ### Letter case -/

/-- The upper-case form of a character, exact where it is made of ASCII letters. -/
def upperChar : Char → List Char
  | 'ı' => ['I']
  | 'ſ' => ['S']
  | 'ß' => ['S', 'S']
  | 'ﬀ' => ['F', 'F']
  | 'ﬁ' => ['F', 'I']
  | 'ﬂ' => ['F', 'L']
  | 'ﬃ' => ['F', 'F', 'I']
  | 'ﬄ' => ['F', 'F', 'L']
  | 'ﬅ' => ['S', 'T']
  | 'ﬆ' => ['S', 'T']
  | c => [c.toUpper]

/-- The lower-case form of a character, exact where it is an ASCII letter. -/
def lowerChar : Char → Char
  | '\u212A' => 'k'
  | c => c.toLower

/-- A text in upper case. -/
def upper (cs : List Char) : List Char := cs.flatMap upperChar

/-- A text in lower case. -/
def lower (cs : List Char) : List Char := cs.map lowerChar

end SafeLookup.Text
