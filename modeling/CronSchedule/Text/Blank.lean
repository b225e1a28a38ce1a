/-!
# Blank characters, words and lists in a text

A text is a list of characters here, so that positions count characters and every function is a
recursion on the list.

* `isBlank` — the characters that separate words: the blanks of Unicode and the four information
  separators.
* `trim` — a text without the blanks at its two ends.
* `words` — the maximal runs without a blank, each with the position of its first character.
* `splitOn` — the pieces between the separators; there is always at least one piece, which is why
  the first one is given apart.
-/

namespace CronSchedule.Text

def isBlank (c : Char) : Bool :=
  let code := c.toNat
  (0x09 ≤ code && code ≤ 0x0D) || (0x1C ≤ code && code ≤ 0x20) || code == 0x85 || code == 0xA0
    || code == 0x1680 || (0x2000 ≤ code && code ≤ 0x200A) || code == 0x2028 || code == 0x2029
    || code == 0x202F || code == 0x205F || code == 0x3000

/-- A text without the blanks before its first and after its last other character. -/
def trim (text : List Char) : List Char :=
  ((text.dropWhile isBlank).reverse.dropWhile isBlank).reverse

/-- The words of a text whose first character stands at the given position.  A character that is
not blank joins the word that begins right after it, if there is one. -/
def wordsFrom (position : Nat) : List Char → List (Nat × List Char)
  | [] => []
  | c :: rest =>
    let later := wordsFrom (position + 1) rest
    if isBlank c then later
    else match later with
      | [] => [(position, [c])]
      | (start, word) :: more =>
        if start = position + 1 then (position, c :: word) :: more
        else (position, [c]) :: later

/-- The maximal runs of characters that are not blank, each after its position. -/
def words (text : List Char) : List (Nat × List Char) :=
  wordsFrom 0 text

/-- The pieces of a text between the occurrences of `separator`: the first piece, then the
others. -/
def splitOn (separator : Char) : List Char → List Char × List (List Char)
  | [] => ([], [])
  | c :: rest =>
    let (piece, more) := splitOn separator rest
    if c = separator then ([], piece :: more) else (c :: piece, more)

/-- All pieces of `splitOn` in one list. -/
def pieces (separator : Char) (text : List Char) : List (List Char) :=
  let (first, more) := splitOn separator text
  first :: more

/-- Texts joined with `separator` between neighbours. -/
def joinWith (separator : List Char) : List (List Char) → List Char
  | [] => []
  | [piece] => piece
  | piece :: more => piece ++ separator ++ joinWith separator more

/-- Strings with a comma and a blank between neighbours. -/
def listed (parts : List String) : String :=
  String.intercalate ", " parts

/-- A text filled up on the left to at least `width` characters. -/
def padLeft (width : Nat) (fill : Char) (text : List Char) : List Char :=
  List.replicate (width - text.length) fill ++ text

/-- A text filled up on the right to at least `width` characters. -/
def padRight (width : Nat) (fill : Char) (text : List Char) : List Char :=
  text ++ List.replicate (width - text.length) fill

end CronSchedule.Text
