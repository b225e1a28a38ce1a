import CronSchedule.Cache.Request
import CronSchedule.Main
import CronSchedule.Proofs.Expression.Language
import CronSchedule.Proofs.Schedule.RoundTrip
import CronSchedule.Proofs.Schedule.Search
import CronSchedule.Schedule.Preset
import CronSchedule.Expression.Validation
import CronSchedule.Proofs.Schedule.Nearest
import CronSchedule.Proofs.Schedule.Run
import CronSchedule.Proofs.Cache.Sound
import CronSchedule.Proofs.Schedule.Listing
import CronSchedule.Proofs.Expression.Validation
import CronSchedule.Proofs.Schedule.Total
import CronSchedule.Proofs.Schedule.Strict
import CronSchedule.Proofs.Search.Rounds
import CronSchedule.Proofs.Cache.History
import CronSchedule.Proofs.Expression.Places
import CronSchedule.Proofs.Expression.Letters
import CronSchedule.Proofs.DayRule
import CronSchedule.Proofs.Schedule.EitherDay
import CronSchedule.Proofs.Schedule.Respelling
import CronSchedule.Proofs.Settings.NoMapping
import CronSchedule.Proofs.Settings.Failures
import CronSchedule.Proofs.Calendar.Landing
import CronSchedule.Proofs.Constraint.Shape
import CronSchedule.Proofs.Log.Dispatch
import CronSchedule.Proofs.CommandLine.Agreement
import CronSchedule.Proofs.Search.Membership
