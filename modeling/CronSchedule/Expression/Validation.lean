import CronSchedule.Expression.Compile

/-!
# Validating expressions

A validation compiles an expression and drops what it compiles to.  That an expression is malformed
is an answer to the question whether it is valid; any other failure leaves the question open.

* `validate` — a validation; `validateLogged` — with what compiling reports.
* `messagesOf`, `verdictOf` — a validation as a list of messages and as a yes or no.
* `messages`, `isValid` — the same for an expression.
-/

namespace CronSchedule.Expression

/-- Whether an expression compiles, or why it does not. -/
def validate (strict : Bool) (expression : List Char) : Except Failure Unit :=
  (compile strict expression).map fun _ => ()

def validateLogged (strict : Bool) (expression : List Char) : Log.Logged (Except Failure Unit) :=
  ⟨validate strict expression, compileRecords strict expression⟩

/-- The messages of a validation: that of the error if the expression is malformed, else none. -/
def messagesOf : Except Failure Unit → Except Failure (List String)
  | .ok () => .ok []
  | .error (.malformed e) => .ok [e.message]
  | .error failure => .error failure

/-- Whether a validation says that the expression is valid. -/
def verdictOf : Except Failure Unit → Except Failure Bool
  | .ok () => .ok true
  | .error (.malformed _) => .ok false
  | .error failure => .error failure

/-- The messages about an expression. -/
def messages (strict : Bool) (expression : List Char) : Except Failure (List String) :=
  messagesOf (validate strict expression)

/-- Whether an expression is valid. -/
def isValid (strict : Bool) (expression : List Char) : Except Failure Bool :=
  verdictOf (validate strict expression)

end CronSchedule.Expression
