import CronSchedule.Json.Reader
import CronSchedule.Settings.Load
import CronSchedule.Yaml.Reader

/-!
# Reading documents

* `Reader.standard` — the readers of the two formats.
-/

namespace CronSchedule

def Json.ReadError.failure : Json.ReadError → ReadFailure
  | .malformed => .malformed
  | .overlong o => .foreign .wrongValue o.message

/-- A scalar for which there is no value is not an error of the reader itself. -/
def Yaml.ReadError.failure : Yaml.ReadError → ReadFailure
  | .malformed => .malformed
  | e => .foreign .wrongValue e.message

/-- Reads documents by the rules of the formats. -/
def Reader.standard : Reader
  | .yaml, text => (Yaml.read text).mapError (·.failure)
  | .json, text => (Json.read text).mapError (·.failure)

end CronSchedule
