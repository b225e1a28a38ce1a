import CronSchedule.Text.Blank

/-!
# Framed text

Tables and panels drawn with box characters.  Every character counts as one column.

* `wrap` — words on lines that are not wider than asked for.
* `Table`, `Table.lines` — a table as wide as its cells need, with its title centred above it.
* `panel` — a message in a box with a title in its upper edge.
-/

namespace CronSchedule.Text

/-! ## Lines -/

/-- A line followed by words, which start a new line where they do not fit on the current one. -/
def wrapAfter (width : Nat) (line : List Char) : List (List Char) → List (List Char)
  | [] => [line]
  | word :: rest =>
    if line.length + 1 + word.length ≤ width then wrapAfter width (line ++ ' ' :: word) rest
    else line :: wrapAfter width word rest

/-- Words on lines of at most `width` characters; a longer word has a line of its own. -/
def wrap (width : Nat) : List (List Char) → List (List Char)
  | [] => []
  | word :: rest => wrapAfter width word rest

/-- A line in the middle of `width` columns; of an odd number of columns that are left, one more
stays to its right. -/
def centred (width : Nat) (line : List Char) : List Char :=
  List.replicate ((width - line.length) / 2) ' ' ++ line

/-- A line of `cells` between a left and a right end, with a divider between neighbours. -/
def ruled (left divider right : Char) (cells : List (List Char)) : List Char :=
  left :: joinWith [divider] cells ++ [right]

/-! ## Tables -/

/-- A table: a title, the header of every column, and rows of cells. -/
structure Table where
  title : List Char
  header : List (List Char)
  rows : List (List (List Char))
  deriving DecidableEq, Repr

namespace Table

/-- The width of every column, which is that of its widest cell. -/
def columnWidths (t : Table) : List Nat :=
  t.rows.foldl (fun widths row => List.zipWith max widths (row.map List.length))
    (t.header.map List.length)

/-- The width of the whole table, with its edges and a blank on either side of a cell. -/
def width (t : Table) : Nat :=
  (t.columnWidths.map (· + 3)).foldr (· + ·) 0 + 1

def titleLines (t : Table) : List (List Char) :=
  (wrap t.width ((words t.title).map (·.2))).map (centred t.width)

def edge (t : Table) (left fill divider right : Char) : List Char :=
  ruled left divider right (t.columnWidths.map fun width => List.replicate (width + 2) fill)

def row (t : Table) (bar : Char) (cells : List (List Char)) : List Char :=
  ruled bar bar bar
    (List.zipWith (fun width cell => ' ' :: padRight width ' ' cell ++ [' ']) t.columnWidths cells)

/-- The table line by line: the title, the header between heavy edges, and the rows. -/
def lines (t : Table) : List (List Char) :=
  t.titleLines
    ++ [t.edge '┏' '━' '┳' '┓', t.row '┃' t.header, t.edge '┡' '━' '╇' '┩']
    ++ t.rows.map (t.row '│')
    ++ [t.edge '└' '─' '┴' '┘']

end Table

/-! ## Panels -/

/-- A message in a box of `width` columns, or more if it needs them, with a title in the upper
edge. -/
def panel (width : Nat) (title message : List Char) : List (List Char) :=
  let room := max (width - 4) (max message.length (title.length + 2))
  [ '╭' :: '─' :: ' ' :: title ++ ' ' :: List.replicate (room - title.length - 1) '─' ++ ['╮'],
    '│' :: ' ' :: padRight room ' ' message ++ [' ', '│'],
    '╰' :: List.replicate (room + 2) '─' ++ ['╯'] ]

end CronSchedule.Text
