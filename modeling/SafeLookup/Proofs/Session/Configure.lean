import SafeLookup.Session

/-!
# Configuring the Logger

Configuring does two things to the logger: it attaches the console handler unless it is attached,
and it sets the threshold. The threshold that is asked for is that of the given value or, if no
value is given, that of the setting (`Threshold.requested`).

A value that stands for no threshold is refused, but only after the handler has been attached. So
there are two ways in which configuring can end (`configure_cases`), and a refused attempt is not
without effect: it keeps the threshold and attaches the handler all the same
(`configure_refused`). It leaves the logger alone only if the console handler has been attached
before.
-/

namespace SafeLookup

/-! ### The threshold that is asked for -/

namespace Threshold

/-- The threshold that a value asks for, where no value asks for that of the setting. -/
def requested (setting : Level) : Value → Except ThresholdError Threshold
  | .null => .ok (.number setting.number)
  | v => ofValue v

/-- Only a value that stands for no threshold is refused. -/
theorem ofValue_of_requested {setting : Level} {v : Value} {e : ThresholdError}
    (h : requested setting v = .error e) : ofValue v = .error e := by
  cases v with
  | null => cases h
  | _ => exact h

/-- **The values that stand for no threshold**: the texts that are none of the names, and whatever
is neither a text nor a number nor a truth value. -/
def StandsForNone (v : Value) : Prop :=
  (∀ n, v.core ≠ .int n) ∧ (∀ b, v.core ≠ .bool b) ∧
    ∀ name, v.core = .text name → ofName? name = none

/-- Just the values that stand for no threshold are refused. -/
theorem exists_ofValue_eq_error_iff {v : Value} :
    (∃ e, ofValue v = .error e) ↔ StandsForNone v := by
  rw [ofValue, StandsForNone]
  cases v.core with
  | int n => simp
  | bool b => simp
  | text name => cases hname : ofName? name <;> simp [hname]
  | _ => simp

end Threshold

/-! ### Handlers that are attached -/

namespace Logger

variable {l : Logger}

/-- Handing a logger out keeps its threshold. -/
@[simp] theorem threshold_obtain (l : Logger) : l.obtain.threshold = l.threshold := by
  rw [obtain]
  split <;> rfl

/-- Attaching the console handler keeps the threshold. -/
@[simp] theorem threshold_attachConsole (l : Logger) :
    l.attachConsole.threshold = l.threshold := by
  rw [attachConsole]
  split <;> rfl

/-- A logger that has handlers is handed out as it is. -/
theorem obtain_of_handlers_ne_nil (h : l.handlers ≠ []) : l.obtain = l := by
  have hsome : ¬l.handlers.isEmpty = true := by rwa [List.isEmpty_iff]
  rw [obtain, if_neg hsome]

/-- The console handler is attached only once. -/
theorem attachConsole_of_mem (h : .console ∈ l.handlers) : l.attachConsole = l := by
  rw [attachConsole, if_pos (List.contains_iff_mem.mpr h)]

/-- The console handler is attached behind the others. -/
theorem handlers_attachConsole_of_notMem (h : .console ∉ l.handlers) :
    l.attachConsole.handlers = l.handlers ++ [.console] := by
  rw [attachConsole, if_neg (mt List.contains_iff_mem.mp h)]

/-- Attaching the console handler loses no other one. -/
theorem handlers_prefix_attachConsole (l : Logger) :
    l.handlers <+: l.attachConsole.handlers := by
  by_cases h : .console ∈ l.handlers
  · simp only [attachConsole_of_mem h, List.prefix_refl]
  · simp only [handlers_attachConsole_of_notMem h, List.prefix_append]

/-- Afterwards the console handler is attached. -/
theorem console_mem_attachConsole (l : Logger) : .console ∈ l.attachConsole.handlers := by
  by_cases h : .console ∈ l.handlers
  · rwa [attachConsole_of_mem h]
  · rw [handlers_attachConsole_of_notMem h]
    exact List.mem_append_right _ (List.mem_singleton_self _)

/-- Handing a logger out and attaching the console handler changes nothing exactly if that one is
attached. -/
theorem obtain_attachConsole_eq_self_iff :
    l.obtain.attachConsole = l ↔ .console ∈ l.handlers := by
  constructor
  · intro h
    rw [← h]
    exact console_mem_attachConsole l.obtain
  · intro h
    rw [obtain_of_handlers_ne_nil (List.ne_nil_of_mem h), attachConsole_of_mem h]

/-- A threshold that is asked for is set, once the console handler is attached. -/
theorem configure_of_requested {setting : Level} {v : Value} {t : Threshold}
    (h : Threshold.requested setting v = .ok t) :
    l.configure setting v = ({ l.obtain.attachConsole with threshold := t }, none) := by
  cases v with
  | null =>
      obtain rfl := Except.ok.inj h
      rfl
  | _ =>
      simp only [Threshold.requested] at h
      simp only [configure, h]

/-- A value that stands for no threshold is refused, once the console handler is attached. -/
theorem configure_of_requested_error {setting : Level} {v : Value} {e : ThresholdError}
    (h : Threshold.requested setting v = .error e) :
    l.configure setting v = (l.obtain.attachConsole, some e) := by
  cases v with
  | null => cases h
  | _ =>
      simp only [Threshold.requested] at h
      simp only [configure, h]

end Logger

/-! ### Accepted and refused attempts -/

namespace Session

/-- **What configuring does**: it attaches the console handler, and then it sets the threshold that
is asked for or refuses. -/
theorem configure_cases (s : Session) (v : Value) :
    (∃ t, Threshold.requested s.settings.logLevel v = .ok t ∧
      s.configure v =
        ({ s with logger := { s.logger.obtain.attachConsole with threshold := t } }, none)) ∨
    ∃ e, Threshold.requested s.settings.logLevel v = .error e ∧
      s.configure v = ({ s with logger := s.logger.obtain.attachConsole }, some e) := by
  cases hrequested : Threshold.requested s.settings.logLevel v with
  | ok t => exact Or.inl ⟨t, rfl, by rw [configure, Logger.configure_of_requested hrequested]⟩
  | error e =>
      exact Or.inr ⟨e, rfl, by rw [configure, Logger.configure_of_requested_error hrequested]⟩

/-- The session that the action of configuring leaves. -/
theorem perform_configure_fst (s : Session) (v : Value) :
    (s.perform (.configure v)).1 = (s.configure v).1 := rfl

/-- **What a refused attempt to configure the logger leaves behind.** The value stands for no
threshold. The threshold of the logger is what it was, and so is everything else in the session;
but the console handler is attached, behind the others if it was not there. So the logger is as it
was only if the console handler had been attached before. -/
theorem configure_refused {s : Session} {v : Value} {e : ThresholdError}
    (h : (s.configure v).2 = some e) :
    Threshold.ofValue v = .error e ∧ Threshold.StandsForNone v ∧
    s.configure v = ({ s with logger := s.logger.obtain.attachConsole }, some e) ∧
    (s.configure v).1.logger.threshold = s.logger.threshold ∧
    (s.logger.handlers ≠ [] → (s.configure v).1.logger.handlers =
      if .console ∈ s.logger.handlers then s.logger.handlers
      else s.logger.handlers ++ [.console]) ∧
    ((s.configure v).1.logger = s.logger ↔ .console ∈ s.logger.handlers) := by
  rcases configure_cases s v with ⟨t, -, hconfigure⟩ | ⟨refused, hrequested, hconfigure⟩
  · rw [hconfigure] at h
    cases h
  · rw [hconfigure] at h ⊢
    obtain rfl : refused = e := Option.some.inj h
    have hvalue := Threshold.ofValue_of_requested hrequested
    refine ⟨hvalue, Threshold.exists_ofValue_eq_error_iff.mp ⟨_, hvalue⟩, rfl, ?_, fun hne => ?_,
      Logger.obtain_attachConsole_eq_self_iff⟩
    · dsimp only
      rw [Logger.threshold_attachConsole, Logger.threshold_obtain]
    · dsimp only
      rw [Logger.obtain_of_handlers_ne_nil hne]
      split
      next hmem => rw [Logger.attachConsole_of_mem hmem]
      next hmem => exact Logger.handlers_attachConsole_of_notMem hmem

/-- A name of no level, given to a logger that has only the silent handler: the attempt is refused,
and the console handler is attached. -/
theorem configure_refused_loud :
    let s : Session := {}
    let e : ThresholdError := .unknownName "LOUD"
    (s.configure (.text "LOUD")).2 = some e ∧ s.logger.handlers = [.silent] ∧
      (s.configure (.text "LOUD")).1.logger =
        { threshold := .number 0, handlers := [.silent, .console] } := by
  intro s e
  have hrefused : (s.configure (.text "LOUD")).2 = some e := rfl
  obtain ⟨-, -, hconfigure, -⟩ := configure_refused hrefused
  refine ⟨hrefused, rfl, ?_⟩
  rw [hconfigure]
  rfl

/-- A refused attempt to configure the logger does not always leave it as it was, though it has
handlers: the value is refused after the console handler has been attached. -/
theorem not_forall_configure_unchanged :
    ¬∀ (s : Session) (v : Value) (e : ThresholdError), s.logger.handlers ≠ [] →
      (s.configure v).2 = some e → (s.configure v).1.logger = s.logger := by
  intro h
  have hlogger := h {} (.text "LOUD") (.unknownName "LOUD") (List.cons_ne_nil _ _) rfl
  have hhandlers : [Handler.silent, .console] = [.silent] := congrArg Logger.handlers hlogger
  cases hhandlers

end Session

end SafeLookup
