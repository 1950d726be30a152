import SafeLookup.Session

/-!
# Entering a Scope

A scope starts with the default settings and some overrides, and it puts the settings back when it
is left. Entering one goes step by step: the settings are reset, the flags are overridden, and the
level comes last. What was in force before is kept for the end of the scope, but only if the scope
is entered.

So there are three ways in which an attempt to enter a scope can end (`enter_cases`). The overrides
may have an unknown name, and then nothing has happened. The level may be refused, and then the
settings have been reset and overridden, and nothing will put them back (`enter_refused`). Such an
attempt forgets what the settings were: it leaves the same session behind whatever they have been
(`enter_refused_forgets`). Or the scope is entered.
-/

namespace SafeLookup

/-- Settings are those that a scope starts with, its level aside, if their flags are the overridden
defaults and their level is the default. -/
theorem Settings.eq_withFlags_iff {settings : Settings} {o : Overrides} :
    settings = withFlags o ↔
      settings.traceFailures = overriding o.traceFailures (.bool false) ∧
        settings.attributeAccess = overriding o.attributeAccess (.bool true) ∧
        settings.logLevel = .warning := by
  constructor
  · rintro rfl
    exact ⟨rfl, rfl, rfl⟩
  · rintro ⟨htrace, hattributes, hlevel⟩
    obtain ⟨trace, attributes, level⟩ := settings
    subst htrace hattributes hlevel
    rfl

namespace Session

variable {s s' : Session} {overrides : List (String × Value)} {e : SettingError}

/-- **What an attempt to enter a scope does**: nothing if an override has an unknown name; a reset
with the flags overridden if the level is refused; and otherwise the scope is entered, and the
settings so far are kept for its end. -/
theorem enter_cases (s : Session) (overrides : List (String × Value)) :
    (∃ name, Settings.unknownField? overrides = some name ∧
      s.enter overrides = (s, some (.unknown "fallback_test_env" name))) ∨
    (∃ o e, Overrides.ofFields overrides = .ok o ∧
      Settings.readLevel Settings.levelName o.logLevel .warning = .error e ∧
      s.enter overrides = ({ s with settings := Settings.withFlags o }, some e)) ∨
    ∃ o level, Overrides.ofFields overrides = .ok o ∧
      Settings.readLevel Settings.levelName o.logLevel .warning = .ok level ∧
      s.enter overrides =
        ({ s with
            settings := { Settings.withFlags o with logLevel := level }
            scopes := s.settings :: s.scopes }, none) := by
  cases hfields : Overrides.ofFields overrides with
  | error refused =>
      have hunknown := hfields
      rw [Overrides.ofFields] at hunknown
      split at hunknown
      next name hname =>
        obtain rfl := Except.error.inj hunknown
        exact Or.inl ⟨name, hname, by rw [enter, hfields]⟩
      next => cases hunknown
  | ok o =>
      cases hlevel : Settings.readLevel Settings.levelName o.logLevel .warning with
      | error e =>
          exact Or.inr (Or.inl ⟨o, e, rfl, hlevel,
            by simp only [enter, hfields, Settings.enter, hlevel]⟩)
      | ok level =>
          exact Or.inr (Or.inr ⟨o, level, rfl, hlevel,
            by simp only [enter, hfields, Settings.enter, hlevel]⟩)

/-- The session that the action of entering a scope leaves. -/
theorem perform_enter_fst (s : Session) (overrides : List (String × Value)) :
    (s.perform (.enter overrides)).1 = (s.enter overrides).1 := rfl

/-- **What a refused attempt to enter a scope leaves behind.** If an override has an unknown name,
the session is as it was. Otherwise the level was refused, and the settings are the defaults with
the flags overridden; the rest of the session is as it was, so no scope has been opened. The
settings are what they were only if they have been just these before. -/
theorem enter_refused (h : (s.enter overrides).2 = some e) :
    (∃ name, Settings.unknownField? overrides = some name ∧
      e = .unknown "fallback_test_env" name ∧ (s.enter overrides).1 = s) ∨
    ∃ o, Overrides.ofFields overrides = .ok o ∧
      Settings.readLevel Settings.levelName o.logLevel .warning = .error e ∧
      (s.enter overrides).1 = { s with settings := Settings.withFlags o } ∧
      ((s.enter overrides).1.settings = s.settings ↔
        s.settings.traceFailures = Settings.overriding o.traceFailures (.bool false) ∧
          s.settings.attributeAccess = Settings.overriding o.attributeAccess (.bool true) ∧
          s.settings.logLevel = .warning) := by
  rcases enter_cases s overrides with
    ⟨name, hname, henter⟩ | ⟨o, refused, hfields, hlevel, henter⟩ | ⟨o, level, -, -, henter⟩
  · rw [henter] at h ⊢
    exact Or.inl ⟨name, hname, (Option.some.inj h).symm, rfl⟩
  · rw [henter] at h ⊢
    obtain rfl : refused = e := Option.some.inj h
    refine Or.inr ⟨o, hfields, hlevel, rfl, ?_⟩
    exact eq_comm.trans Settings.eq_withFlags_iff
  · rw [henter] at h
    cases h

/-- A level that is none of the six, beside an override for attributes: tracing is off afterwards,
though it was on before and not overridden. -/
theorem enter_refused_loud :
    let s : Session := { settings := { traceFailures := .bool true, logLevel := .debug } }
    let overrides : List (String × Value) :=
      [("log_level", .text "LOUD"), ("attribute_access", .bool false)]
    let e : SettingError := .rejected "log_level" (.text "LOUD") Settings.expectedLevel
    (s.enter overrides).2 = some e ∧
      (s.enter overrides).1.settings = ⟨.bool false, .bool false, .warning⟩ ∧
      (s.enter overrides).1.scopes = [] := by
  intro s overrides e
  have hrefused : (s.enter overrides).2 = some e := rfl
  refine ⟨hrefused, ?_⟩
  rcases enter_refused hrefused with ⟨name, hname, -⟩ | ⟨o, hfields, -, henter, -⟩
  · cases hname
  · obtain rfl := Except.ok.inj hfields
    rw [henter]
    exact ⟨rfl, rfl⟩

/-- A refused attempt to enter a scope does not always leave the settings as they were: it is
refused after the reset, and only the end of a scope puts them back. -/
theorem not_forall_enter_unchanged :
    ¬∀ (s : Session) (overrides : List (String × Value)) (e : SettingError),
      (s.enter overrides).2 = some e → (s.enter overrides).1.settings = s.settings := by
  intro h
  have hsettings := h { settings := { traceFailures := .bool true } }
    [("log_level", .text "LOUD")]
    (.rejected "log_level" (.text "LOUD") Settings.expectedLevel) rfl
  have htrace : Value.bool false = .bool true := congrArg Settings.traceFailures hsettings
  cases htrace

/-- **A refused level makes a session forget its settings.** Sessions that differ in nothing but
their settings cannot be told apart after the same attempt. -/
theorem enter_refused_forgets (hknown : Settings.unknownField? overrides = none)
    (hrefused : (s.enter overrides).2 = some e) (hlogger : s'.logger = s.logger)
    (hscopes : s'.scopes = s.scopes) : s'.enter overrides = s.enter overrides := by
  obtain ⟨settings, logger, scopes⟩ := s
  obtain ⟨settings', logger', scopes'⟩ := s'
  obtain rfl : logger' = logger := hlogger
  obtain rfl : scopes' = scopes := hscopes
  rcases enter_refused hrefused with ⟨name, hname, -⟩ | ⟨o, hfields, hlevel, -⟩
  · rw [hknown] at hname
    cases hname
  · simp only [enter, hfields, Settings.enter, hlevel]

end Session

end SafeLookup
