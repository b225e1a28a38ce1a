import CronSchedule.Proofs.Settings.Document
import CronSchedule.Settings.Documents

/-!
# The keys of documents

The readers put the entries of a mapping in one after the other, so no key stands twice in what they
give.

* `Json.read_keysOnce`, `Yaml.read_keysOnce` — what the two readers give.
* **`Reader.standard_keysOnce`** — no key of a document stands twice.
-/

namespace CronSchedule

open Text

/-! ## JSON -/

section Json

open Json

lemma Json.readNumber_keysOnce (negative : Bool) (text : List Char) :
    Outcome (fun _ => True) (fun r => r.1.KeysOnce) (readNumber negative text) := by
  unfold readNumber
  dsimp only
  -- whether the number starts with a zero does not matter
  split
  all_goals
    split
    case isTrue => exact trivial
    case isFalse =>
      split
      case isTrue => exact Outcome.bind (Outcome.anything _) fun _ _ => trivial
      case isFalse => exact trivial

lemma Json.readScalar_keysOnce (text : List Char) :
    Outcome (fun _ => True) (fun r => r.1.KeysOnce) (readScalar text) := by
  unfold readScalar
  dsimp only
  split
  case h_1 words found hfound =>
    obtain ⟨⟨word, value⟩, hword, hafter⟩ := List.exists_of_findSome?_eq_some hfound
    obtain ⟨after, -, rfl⟩ := Option.map_eq_some_iff.1 hafter
    change value.KeysOnce
    simp only [List.mem_cons, Prod.mk.injEq, List.not_mem_nil, or_false] at hword
    rcases hword with h | h | h | h | h | h <;> rw [h.2] <;> trivial
  case h_2 => split <;> exact Json.readNumber_keysOnce _ _

lemma Json.readEntries_distinct (fuel : Nat) {before : List (Datum × Datum)} (text : List Char)
    (h : DistinctKeys before) :
    Outcome (fun _ => True) (fun r => DistinctKeys r.1) (readEntries fuel before text) := by
  induction fuel generalizing before text with
  | zero => exact trivial
  | succ fuel ih =>
      unfold readEntries
      split
      case h_2 => exact trivial
      case h_1 rest =>
        split
        case h_1 => exact trivial
        case h_2 key rest hkey =>
          split
          case h_2 => exact trivial
          case h_1 =>
            refine Outcome.bind (Outcome.anything _) fun (value, rest) _ => ?_
            dsimp only
            split
            case h_1 => exact ih _ h.put
            case h_2 => exact h.put
            case h_3 => exact trivial

lemma Text.RawText.datum_keysOnce (text : RawText) : text.datum.KeysOnce := by
  cases text <;> trivial

lemma Json.readValue_keysOnce (fuel : Nat) (text : List Char) :
    Outcome (fun _ => True) (fun r => r.1.KeysOnce) (readValue fuel text) := by
  cases fuel with
  | zero => exact trivial
  | succ fuel =>
      unfold readValue
      split
      case h_1 =>
        split
        · exact Text.RawText.datum_keysOnce _
        · trivial
      case h_2 =>
        split
        case h_1 => exact trivial
        case h_2 => exact Outcome.bind (Outcome.anything _) fun _ _ => trivial
      case h_3 =>
        split
        case h_1 => exact List.Pairwise.nil
        case h_2 =>
          exact Outcome.bind (Json.readEntries_distinct fuel _ List.Pairwise.nil) fun _ h => h
      case h_4 => exact Json.readScalar_keysOnce text

lemma Json.read_keysOnce (text : List Char) :
    Outcome (fun _ => True) Data.KeysOnce (Json.read text) := by
  refine Outcome.bind (Json.readValue_keysOnce _ _) fun (value, rest) hvalue => ?_
  dsimp only
  split
  · exact hvalue
  · exact trivial

end Json

/-! ## YAML -/

section Yaml

open Yaml

lemma Yaml.Kind.read_keysOnce (kind : Kind) (text : List Char) :
    Outcome (fun _ => True) Data.KeysOnce (kind.read text) := by
  cases kind with
  | null => exact trivial
  | bool =>
      simp only [Kind.read]
      split <;> trivial
  | integer =>
      simp only [Kind.read]
      cases Yaml.readInteger text <;> trivial
  | real =>
      simp only [Kind.read]
      split <;> trivial
  | timestamp =>
      simp only [Kind.read]
      split
      case h_1 t =>
        unfold Timestamp.read
        split
        case h_1 => split <;> trivial
        case h_2 =>
          dsimp only
          split
          case h_1 =>
            split
            case isTrue => exact trivial
            case isFalse => split <;> trivial
          case h_2 => split <;> trivial
      case h_2 => exact trivial
  | text => exact trivial
  | binary =>
      simp only [Kind.read]
      split <;> trivial
  | merge => exact trivial
  | default => exact trivial

lemma Yaml.Kind.readRaw_keysOnce (kind : Kind) (text : RawText) :
    Outcome (fun _ => True) Data.KeysOnce (kind.readRaw text) := by
  unfold Kind.readRaw
  split
  case h_1 s => exact Yaml.Kind.read_keysOnce kind s.toList
  case h_2 => exact trivial
  case h_3 => exact trivial

lemma Yaml.Node.value_keysOnce (fuel : Nat) (n : Node) :
    Outcome (fun _ => True) Data.KeysOnce (Node.value fuel n) := by
  cases fuel with
  | zero => exact trivial
  | succ fuel =>
      cases n with
      | scalar tag text implicit =>
          exact Outcome.bind (Outcome.anything _) fun kind _ => Yaml.Kind.readRaw_keysOnce kind text
      | sequence tag items =>
          refine Outcome.bind (Outcome.anything _) fun _ _ => ?_
          -- a list has no keys, whether its items are values or pairs
          split <;> exact Outcome.bind (Outcome.anything _) fun _ _ => trivial
      | mapping tag entries =>
          refine Outcome.bind (Outcome.anything _) fun _ _ => ?_
          refine Outcome.bind (Outcome.anything _) fun all _ => ?_
          refine Outcome.bind (Outcome.foldlM
            (fun before entry (hbefore : DistinctKeys before) => ?step) List.Pairwise.nil)
            fun values (h : DistinctKeys values) => ?finish
          case finish =>
            split
            case isTrue => exact h
            case isFalse => exact trivial
          refine Outcome.bind (Outcome.anything _) fun key _ => ?_
          dsimp only
          split
          case isTrue => exact trivial
          case isFalse =>
            exact Outcome.bind (Outcome.anything _) fun _ _ => DistinctKeys.put hbefore

lemma Yaml.read_keysOnce (text : List Char) :
    Outcome (fun _ => True) Data.KeysOnce (Yaml.read text) := by
  unfold Yaml.read
  dsimp only
  split
  case isTrue => exact trivial
  case isFalse =>
    refine Outcome.bind (Outcome.anything _) fun _ _ => ?_
    exact Outcome.bind (Outcome.anything _) fun _ _ => Yaml.Node.value_keysOnce _ _

end Yaml

/-- **No key of a document stands twice.** -/
theorem Reader.standard_keysOnce : Reader.standard.KeysOnce
  | .yaml, text => Outcome.mapError (Yaml.read_keysOnce text)
  | .json, text => Outcome.mapError (Json.read_keysOnce text)

end CronSchedule
