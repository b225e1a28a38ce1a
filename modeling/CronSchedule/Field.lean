/-!
# The seven fields of an expression

An expression has a field for each of second, minute, hour, day of month, month, day of week and
year, in this order.  A field has a range of values, perhaps names for them, and a set of characters
that may be written in it.

* `Field` — the fields; `Field.all` — in order.
* `Field.low`, `Field.high` — the range of values; days of the week count from Sunday as 1.
* `Field.names` — names for values, in upper case.
* `Field.permits` — the characters of a field: digits, `*`, `,`, `-` and `/`, its markers, and the
  letters of its names.
-/

namespace CronSchedule

/-- A field of an expression. -/
inductive Field
  | second | minute | hour | dayOfMonth | month | dayOfWeek | year
  deriving DecidableEq, Repr

namespace Field

/-- The fields in the order in which an expression gives them. -/
def all : List Field :=
  [.second, .minute, .hour, .dayOfMonth, .month, .dayOfWeek, .year]

/-- The place of a field in an expression, counted from zero. -/
def index : Field → Nat
  | .second => 0
  | .minute => 1
  | .hour => 2
  | .dayOfMonth => 3
  | .month => 4
  | .dayOfWeek => 5
  | .year => 6

def label : Field → String
  | .second => "second"
  | .minute => "minute"
  | .hour => "hour"
  | .dayOfMonth => "day-of-month"
  | .month => "month"
  | .dayOfWeek => "day-of-week"
  | .year => "year"

def constant : Field → String
  | .second => "SECOND"
  | .minute => "MINUTE"
  | .hour => "HOUR"
  | .dayOfMonth => "DAY_OF_MONTH"
  | .month => "MONTH"
  | .dayOfWeek => "DAY_OF_WEEK"
  | .year => "YEAR"

def ofLabel? (label : String) : Option Field :=
  all.find? (·.label == label)

/-! ## Values -/

def low : Field → Int
  | .second | .minute | .hour => 0
  | .dayOfMonth | .month | .dayOfWeek => 1
  | .year => 1970

def high : Field → Int
  | .second | .minute => 59
  | .hour => 23
  | .dayOfMonth => 31
  | .month => 12
  | .dayOfWeek => 7
  | .year => 2099

/-- Whether a value lies in the range of a field. -/
def contains (field : Field) (value : Int) : Bool :=
  field.low ≤ value && value ≤ field.high

def monthNames : List (List Char × Int) :=
  [(['J', 'A', 'N'], 1), (['F', 'E', 'B'], 2), (['M', 'A', 'R'], 3), (['A', 'P', 'R'], 4),
   (['M', 'A', 'Y'], 5), (['J', 'U', 'N'], 6), (['J', 'U', 'L'], 7), (['A', 'U', 'G'], 8),
   (['S', 'E', 'P'], 9), (['O', 'C', 'T'], 10), (['N', 'O', 'V'], 11), (['D', 'E', 'C'], 12)]

def weekdayNames : List (List Char × Int) :=
  [(['S', 'U', 'N'], 1), (['M', 'O', 'N'], 2), (['T', 'U', 'E'], 3), (['W', 'E', 'D'], 4),
   (['T', 'H', 'U'], 5), (['F', 'R', 'I'], 6), (['S', 'A', 'T'], 7)]

/-- The names that may stand for values of a field. -/
def names : Field → List (List Char × Int)
  | .month => monthNames
  | .dayOfWeek => weekdayNames
  | _ => []

def weekdayName? (weekday : Int) : Option (List Char) :=
  (weekdayNames.find? (·.2 == weekday)).map (·.1)

/-! ## Characters -/

/-- Whether a field is one of the two that select days. -/
def isDay : Field → Bool
  | .dayOfMonth | .dayOfWeek => true
  | _ => false

/-- Whether a field may hold the marker `?`. -/
def admitsUnspecified : Field → Bool
  | .dayOfMonth | .dayOfWeek => true
  | _ => false

/-- Whether a field may hold the marker `L`. -/
def admitsLast : Field → Bool
  | .dayOfMonth | .dayOfWeek => true
  | _ => false

/-- Whether a field may hold the marker `W`. -/
def admitsNearest : Field → Bool
  | .dayOfMonth => true
  | _ => false

/-- Whether a field may hold the marker `#`. -/
def admitsNth : Field → Bool
  | .dayOfWeek => true
  | _ => false

/-- Whether a character may be written in a field. -/
def permits (field : Field) (c : Char) : Bool :=
  ('0' ≤ c && c ≤ '9') || c == '*' || c == ',' || c == '-' || c == '/'
    || (field.admitsUnspecified && c == '?') || (field.admitsNth && c == '#')
    || (field.admitsLast && c == 'L') || (field.admitsNearest && c == 'W')
    || field.names.any fun (name, _) => name.contains c

end Field

end CronSchedule
