import SafeLookup.Proofs.Session.Configure
import SafeLookup.Proofs.Settings.Reading

/-!
# Runs of Actions

A session carries out one action after another, and one that is refused does not keep it from going
on (`Session.run`). What holds of every session along a run is shown for one action and follows by
induction (`run_induction`).

The first runs to look at are those of assignments. An assignment that is refused changes nothing,
and one that is accepted changes the setting of its name only (`assign_fst`). So after any number of
assignments a flag is what was assigned to it last, and the level is the one that was read last
(`run_assign`). In particular the level is always one of the six, whatever was assigned, and
configuring the logger with the settings is never refused (`settings_along_assignments`).
-/

namespace SafeLookup

/-! ### Assignments to the settings -/

namespace Settings

/-- The settings after an assignment, accepted or refused. -/
def assigned (s : Settings) (name : String) (v : Value) : Settings where
  traceFailures := if name = traceName then v else s.traceFailures
  attributeAccess := if name = attributeName then v else s.attributeAccess
  logLevel :=
    if name = levelName then (readLevel levelName v .warning).toOption.getD s.logLevel
    else s.logLevel

/-- A flag after assignments: the value that was assigned to it last, if there is one. -/
def flagAfter (name : String) (start : Value) (assignments : List (String × Value)) : Value :=
  ((assignments.filter fun a => a.1 = name).map Prod.snd).getLastD start

/-- The level after assignments: the one that was read last, if there is one. -/
def levelAfter (start : Level) (assignments : List (String × Value)) : Level :=
  (assignments.filterMap fun a =>
    if a.1 = levelName then (readLevel levelName a.2 .warning).toOption else none).getLastD start

/-- The first assignment to a flag is the start for the others. -/
theorem flagAfter_cons (name : String) (start : Value) (a : String × Value)
    (rest : List (String × Value)) :
    flagAfter name start (a :: rest) =
      flagAfter name (if a.1 = name then a.2 else start) rest := by
  rw [flagAfter, flagAfter]
  by_cases h : a.1 = name
  · rw [if_pos h, List.filter_cons_of_pos (by simpa using h), List.map_cons,
      List.getLastD_cons]
  · rw [if_neg h, List.filter_cons_of_neg (by simpa using h)]

/-- The first assignment to the level is the start for the others, unless it is refused. -/
theorem levelAfter_cons (start : Level) (a : String × Value) (rest : List (String × Value)) :
    levelAfter start (a :: rest) =
      levelAfter (if a.1 = levelName then
        (readLevel levelName a.2 .warning).toOption.getD start else start) rest := by
  rw [levelAfter, levelAfter, List.filterMap_cons]
  by_cases h : a.1 = levelName
  · rw [if_pos h, if_pos h]
    cases readLevel levelName a.2 .warning with
    | error e => rfl
    | ok level => exact List.getLastD_cons
  · rw [if_neg h, if_neg h]

/-- The level after assignments is the one at the start, or it is read from what was assigned. -/
theorem levelAfter_cases (start : Level) (assignments : List (String × Value)) :
    levelAfter start assignments = start ∨
      ∃ a ∈ assignments, a.1 = levelName ∧
        ReadsAs a.2 .warning (levelAfter start assignments) := by
  induction assignments generalizing start with
  | nil => exact Or.inl rfl
  | cons a rest ih =>
      rw [levelAfter_cons]
      -- If no later assignment was read, the level is what the first one left.
      rcases ih (if a.1 = levelName then
        (readLevel levelName a.2 .warning).toOption.getD start else start) with h | ⟨b, hb, h⟩
      · rw [h]
        split
        next hname =>
          cases hread : readLevel levelName a.2 .warning with
          | error e => exact Or.inl rfl
          | ok level =>
              exact Or.inr ⟨a, List.mem_cons_self, hname, readLevel_eq_ok_iff.mp hread⟩
        next => exact Or.inl rfl
      · exact Or.inr ⟨b, List.mem_cons_of_mem a hb, h⟩

end Settings

namespace Session

variable {s : Session}

/-! ### Runs -/

/-- The session after actions, one after another. One that is refused does not end the run. -/
def run (s : Session) : List Action → Session
  | [] => s
  | action :: rest => run (s.perform action).1 rest

/-- **What every action keeps, a run keeps.** -/
theorem run_induction {P : Session → Prop} {actions : List Action} (hstart : P s)
    (hstep : ∀ (t : Session) (action : Action), action ∈ actions → P t → P (t.perform action).1) :
    P (s.run actions) := by
  induction actions generalizing s with
  | nil => exact hstart
  | cons action rest ih =>
      refine ih (hstep s action List.mem_cons_self hstart) fun t action' hmem => ?_
      exact hstep t action' (List.mem_cons_of_mem action hmem)

/-! ### Runs of assignments -/

/-- An assignment that is refused changes nothing. -/
theorem assign_of_refused {name : String} {v : Value} {e : SettingError}
    (h : (s.assign name v).2 = some e) : (s.assign name v).1 = s := by
  rw [assign] at h ⊢
  cases hassign : s.settings.assign name v with
  | ok settings =>
      rw [hassign] at h
      cases h
  | error refused => rfl

/-- **What an assignment does**: it changes the setting of its name, if it is accepted, and nothing
else. -/
theorem assign_fst (s : Session) (name : String) (v : Value) :
    (s.assign name v).1 = { s with settings := s.settings.assigned name v } := by
  by_cases htrace : name = Settings.traceName
  · subst htrace
    rfl
  by_cases hattributes : name = Settings.attributeName
  · subst hattributes
    rfl
  by_cases hlevel : name = Settings.levelName
  · subst hlevel
    have hassigned : s.settings.assigned Settings.levelName v =
        { s.settings with
          logLevel := (Settings.readLevel Settings.levelName v .warning).toOption.getD
            s.settings.logLevel } := rfl
    rw [hassigned, assign, Settings.assign_level]
    cases Settings.readLevel Settings.levelName v .warning with
    | ok level => rfl
    | error e => rfl
  · have hsame : s.settings.assigned name v = s.settings := by
      simp [Settings.assigned, htrace, hattributes, hlevel]
    rw [hsame, assign]
    simp only [Settings.assign, beq_iff_eq, htrace, hattributes, hlevel, if_false]
    split
    next settings hsettings =>
      split at hsettings
      · cases hsettings
      · obtain rfl := Except.ok.inj hsettings
        rfl
    next => rfl

/-- The session that the action of an assignment leaves. -/
theorem perform_assign_fst (s : Session) (name : String) (v : Value) :
    (s.perform (.assign name v)).1 = { s with settings := s.settings.assigned name v } :=
  assign_fst s name v

/-- The level of an accepted assignment is read from its value. -/
theorem readsAs_of_assign {v : Value} (h : (s.assign Settings.levelName v).2 = none) :
    Settings.ReadsAs v .warning (s.assign Settings.levelName v).1.settings.logLevel := by
  rw [assign, Settings.assign_level] at h ⊢
  cases hread : Settings.readLevel Settings.levelName v .warning with
  | ok level => exact Settings.readLevel_eq_ok_iff.mp hread
  | error e =>
      rw [hread] at h
      cases h

/-- **The settings after assignments**: each flag is what was assigned to it last, and the level is
the one that was read last. Nothing else has changed. -/
theorem run_assign (s : Session) (assignments : List (String × Value)) :
    s.run (assignments.map fun a => .assign a.1 a.2) =
      { s with
        settings :=
          ⟨Settings.flagAfter Settings.traceName s.settings.traceFailures assignments,
            Settings.flagAfter Settings.attributeName s.settings.attributeAccess assignments,
            Settings.levelAfter s.settings.logLevel assignments⟩ } := by
  induction assignments generalizing s with
  | nil => rfl
  | cons a rest ih =>
      rw [List.map_cons, run, perform_assign_fst, ih, Settings.flagAfter_cons,
        Settings.flagAfter_cons, Settings.levelAfter_cons]
      rfl

/-- **Settings over assignments.** Let the settings be made from fields or from an environment, and
let any values be assigned to any names after that, some of which are refused. Then

* the level is one of the six, by its name and its number, and it was read from a value: from the
  one that stood for it when the settings were made, or from one that was assigned to it;
* an assignment that is refused changes nothing;
* an assignment that is accepted sets a flag to its value, or the level to the one that is read from
  its value, and leaves the other settings alone;
* configuring the logger with the settings is not refused and sets the threshold to the number of
  the level. -/
theorem settings_along_assignments {given : Value} (hmade : s.settings.MadeFrom given)
    (assignments : List (String × Value)) :
    let t := s.run (assignments.map fun a => .assign a.1 a.2)
    (t.settings.logLevel.name ∈ ["CRITICAL", "ERROR", "WARNING", "INFO", "DEBUG", "NOTSET"] ∧
      Threshold.ofName? t.settings.logLevel.name = some (.number t.settings.levelNumber) ∧
      (Settings.ReadsAs given .warning t.settings.logLevel ∨
        ∃ a ∈ assignments, a.1 = Settings.levelName ∧
          Settings.ReadsAs a.2 .warning t.settings.logLevel)) ∧
    (∀ name v e, (t.assign name v).2 = some e → (t.assign name v).1 = t) ∧
    (∀ name v, (t.assign name v).2 = none →
      (t.assign name v).1.settings.traceFailures =
          (if name = Settings.traceName then v else t.settings.traceFailures) ∧
        (t.assign name v).1.settings.attributeAccess =
          (if name = Settings.attributeName then v else t.settings.attributeAccess) ∧
        (name = Settings.levelName →
          Settings.ReadsAs v .warning (t.assign name v).1.settings.logLevel) ∧
        (name ≠ Settings.levelName →
          (t.assign name v).1.settings.logLevel = t.settings.logLevel)) ∧
    t.configure .null =
      ({ t with logger :=
          { t.logger.obtain.attachConsole with threshold := .number t.settings.levelNumber } },
        none) := by
  intro t
  have hlevel : t.settings.logLevel = Settings.levelAfter s.settings.logLevel assignments :=
    congrArg (fun t => t.settings.logLevel) (run_assign s assignments)
  refine ⟨⟨?_, Threshold.ofName?_name _, ?_⟩, fun name v e => assign_of_refused,
    fun name v haccepted => ⟨?_, ?_, ?_, fun hname => ?_⟩, rfl⟩
  · cases t.settings.logLevel <;> decide
  · rw [hlevel]
    rcases Settings.levelAfter_cases s.settings.logLevel assignments with h | h
    · rw [h]
      exact Or.inl hmade.readsAs
    · exact Or.inr h
  · rw [assign_fst]
    rfl
  · rw [assign_fst]
    rfl
  · rintro rfl
    exact readsAs_of_assign haccepted
  · rw [assign_fst]
    exact if_neg hname

/-- Settings from an environment, a level with white space around it, one that is refused, and a
flag that is a number. -/
theorem settings_along_assignments_mixed :
    let s : Session := { settings := ⟨.bool true, .bool true, .debug⟩ }
    let assignments : List (String × Value) :=
      [("log_level", .text " info "), ("log_level", .text "chatty"), ("attribute_access", .int 5)]
    let t := s.run (assignments.map fun a => .assign a.1 a.2)
    s.settings.MadeFrom (.text "debug") ∧ t.settings = ⟨.bool true, .int 5, .info⟩ ∧
      (t.configure .null).2 = none ∧ (t.configure .null).1.logger.threshold = .number 20 := by
  intro s assignments t
  have henvironment : Settings.ofEnvironment
      [("FALLBACK_VALUE_TRACE", .text "Yes"), ("FALLBACK_VALUE_LOG_LEVEL", .text "debug")] =
        .ok s.settings := rfl
  have hmade : s.settings.MadeFrom (.text "debug") :=
    Settings.MadeFrom.environment rfl henvironment
  obtain ⟨-, -, -, hconfigure⟩ := settings_along_assignments hmade assignments
  have hsettings : t.settings = ⟨.bool true, .int 5, .info⟩ := rfl
  refine ⟨hmade, hsettings, ?_, ?_⟩
  · rw [hconfigure]
  · rw [hconfigure, hsettings]
    rfl

end Session

end SafeLookup
