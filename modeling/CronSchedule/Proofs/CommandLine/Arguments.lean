import CronSchedule.CommandLine.Standard
import CronSchedule.Proofs.Outcome

/-!
# Arguments and what they set

The standard front end understands every call of a command, if it is spelled out.

* `spell` — switches and their values as arguments; **`read_spell`** — they are read as what they
  spell, whatever the values look like.
* **`readArguments_spelled`** — the options and the call of a command that arguments spell.
-/

namespace CronSchedule.CommandLine

open Text

variable {switches : List Switch} {s : Switch} {spelling argument : String}
  {arguments : List String} {mixed : Bool}

/-! ## Spelling switches -/

/-- The first way in which a switch may be spelled. -/
def Switch.longSpelling (s : Switch) : String :=
  s.spellings.headD ""

/-- A switch and its value, as arguments. -/
def spell (setting : Switch × String) : List String :=
  if setting.1.takesValue then [setting.1.longSpelling, setting.2] else [setting.1.longSpelling]

lemma Switch.find?_longSpelling (h : s ∈ switches) : find? switches s.longSpelling = some s := by
  have hself : s.spellings.contains s.longSpelling = true := by cases s <;> decide
  have honly : ∀ other : Switch, other.spellings.contains s.longSpelling = true → other = s := by
    intro other
    cases s <;> cases other <;> decide
  induction switches with
  | nil => cases h
  | cons first rest ih =>
      rw [find?, List.find?_cons]
      cases hfirst : first.spellings.contains s.longSpelling with
      | true => rw [honly first hfirst]
      | false =>
          rcases List.mem_cons.1 h with rfl | hrest
          · rw [hself] at hfirst
            cases hfirst
          · exact ih hrest

/-- A switch that is spelled without an equals sign waits for its value, if it takes one. -/
lemma readWhole_none (s : Switch) (spelling : String) :
    readWhole s spelling none =
      .ok (if s.takesValue then ⟨[], some (s, spelling)⟩ else ⟨[(s, "")], none⟩) := by
  cases h : s.takesValue <;> simp [readWhole, h]

lemma readNaming_longSpelling (h : s ∈ switches) :
    readNaming switches s.longSpelling = readWhole s s.longSpelling none := by
  have hcut : cutAtEquals s.longSpelling.toList = (s.longSpelling.toList, none) := by
    cases s <;> decide
  have hlength : s.longSpelling.toList.length ≠ 2 := by cases s <;> decide
  rw [readNaming, hcut]
  dsimp only
  rw [if_neg hlength, String.ofList_toList, Switch.find?_longSpelling h]

lemma map_afterSettings_nil (x : Except Refusal Arguments) : x.map (·.afterSettings []) = x := by
  cases x <;> rfl

lemma map_afterSettings (a b : List (Switch × String)) (x : Except Refusal Arguments) :
    (x.map (·.afterSettings b)).map (·.afterSettings a) = x.map (·.afterSettings (a ++ b)) := by
  cases x with
  | error e => rfl
  | ok arguments => simp [Except.map, Arguments.afterSettings]

/-- A switch is read as what it spells, whatever its value looks like. -/
lemma read_spell_append {value : String} (rest : List String) (hs : s ∈ switches)
    (hvalue : s.takesValue = false → value = "") :
    Arguments.read switches mixed (spell (s, value) ++ rest)
      = (Arguments.read switches mixed rest).map (·.afterSettings [(s, value)]) := by
  have hnames : namesSwitches s.longSpelling = true := by cases s <;> decide +kernel
  have hend : s.longSpelling ≠ "--" := by cases s <;> decide
  have hnaming := readNaming_longSpelling hs
  rw [readWhole_none] at hnaming
  rw [spell]
  cases htakes : s.takesValue with
  | true =>
      rw [htakes, if_pos rfl] at hnaming
      rw [if_pos rfl, List.cons_append, List.cons_append, List.nil_append]
      rw [Arguments.read, if_neg hend, if_pos hnames, hnaming]
      rfl
  | false =>
      obtain rfl := hvalue htakes
      rw [htakes, if_neg Bool.false_ne_true] at hnaming
      rw [if_neg Bool.false_ne_true, List.cons_append, List.nil_append]
      rw [Arguments.read, if_neg hend, if_pos hnames, hnaming]

/-- **Switches are read as what they spell**, whatever their values look like and whatever
follows. -/
theorem read_spell {settings : List (Switch × String)} (rest : List String)
    (hknown : ∀ setting ∈ settings, setting.1 ∈ switches)
    (hvalues : ∀ setting ∈ settings, setting.1.takesValue = false → setting.2 = "") :
    Arguments.read switches mixed (settings.flatMap spell ++ rest)
      = (Arguments.read switches mixed rest).map (·.afterSettings settings) := by
  induction settings with
  | nil => exact (map_afterSettings_nil _).symm
  | cons setting settings ih =>
      obtain ⟨s, value⟩ := setting
      obtain ⟨hs, hknown⟩ := List.forall_mem_cons.1 hknown
      obtain ⟨hvalue, hvalues⟩ := List.forall_mem_cons.1 hvalues
      rw [List.flatMap_cons, List.append_assoc, read_spell_append _ hs hvalue, ih hknown hvalues,
        map_afterSettings]
      rfl

/-! ## Spelling calls -/

/-- A switch that is not set has no value. -/
lemma Arguments.value?_eq_none {a : Arguments} (h : ∀ setting ∈ a.settings, setting.1 ≠ s) :
    a.value? s = none := by
  rw [value?, List.lookup_eq_none_iff]
  intro setting hsetting
  exact bne_iff_ne.2 (h setting (List.mem_reverse.1 hsetting)).symm

/-- **A command can be called and asked about every expression**: its switches and operands can be
spelled so that they are understood, whatever the values and the operands look like. -/
theorem readArguments_spelled (width : Nat) (lookup : RawText → FileEntry) (command : Command)
    (common settings : List (Switch × String)) (operands : List String)
    (hcommon : ∀ setting ∈ common, setting.1 = .config ∨ setting.1 = .logLevel)
    (hpath : pathRefusal? lookup (Arguments.value? ⟨common, []⟩ .config) = none)
    (hsettings : ∀ setting ∈ settings, setting.1 ∈ command.switches)
    (hvalues : ∀ setting ∈ settings, setting.1.takesValue = false → setting.2 = "") :
    readArguments width lookup
        (common.flatMap spell ++ command.name :: (settings.flatMap spell ++ "--" :: operands))
      = .ok (⟨(Arguments.value? ⟨common, []⟩ .config).map .whole,
            Arguments.value? ⟨common, []⟩ .logLevel⟩,
          command.bind width ⟨settings, operands⟩) := by
  have hrest : Arguments.read command.switches true (settings.flatMap spell ++ "--" :: operands)
      = .ok ⟨settings, operands⟩ := by
    rw [read_spell _ hsettings hvalues, Arguments.read, if_pos rfl]
    simp [Except.map, Arguments.afterSettings]
  generalize settings.flatMap spell ++ "--" :: operands = rest at hrest
  have hname : Arguments.read commonSwitches false (command.name :: rest)
      = .ok ⟨[], command.name :: rest⟩ := by
    have hend : command.name ≠ "--" := by cases command <;> decide
    have hoperand : ¬namesSwitches command.name = true := by cases command <;> decide +kernel
    rw [Arguments.read, if_neg hend, if_neg hoperand, if_neg Bool.false_ne_true]
  have hread : Arguments.read commonSwitches false (common.flatMap spell ++ command.name :: rest)
      = .ok ⟨common, command.name :: rest⟩ := by
    rw [read_spell, hname]
    · simp [Except.map, Arguments.afterSettings]
    · intro setting hsetting
      rcases hcommon setting hsetting with h | h <;> rw [h] <;> decide
    · intro setting hsetting hvalue
      rcases hcommon setting hsetting with h | h <;> rw [h] at hvalue <;> cases hvalue
  have hhelp : Arguments.sets ⟨common, command.name :: rest⟩ .help = false := by
    rw [Arguments.sets, Arguments.value?_eq_none]
    · rfl
    · intro setting hsetting
      rcases hcommon setting hsetting with h | h <;> rw [h] <;> decide
  have hcommand : chooseCommand (command.name :: rest) = .ok (command, rest) := by
    have hfound : Command.ofName? command.name = some command := by cases command <;> decide
    rw [chooseCommand, hfound]
  have hsome : (common.flatMap spell ++ command.name :: rest).isEmpty = false := by simp
  change pathRefusal? lookup (Arguments.value? ⟨common, command.name :: rest⟩ .config) = none
    at hpath
  rw [readArguments, hsome]
  dsimp only
  rw [if_neg Bool.false_ne_true, hread, mapError_ok, ok_bind, hhelp, if_neg Bool.false_ne_true,
    hpath]
  dsimp only
  rw [hcommand, mapError_ok, ok_bind, hrest, mapError_ok, ok_bind]
  rfl

end CronSchedule.CommandLine
