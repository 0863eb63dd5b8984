import PathKeeper.Daemon.Service
import PathKeeper.Proofs.Daemon.Tandem
import PathKeeper.Proofs.Text.Decimal

/-!
# What the variables have to meet

The daemon takes its variables exactly if each meets its requirements. Then every option has the
value that its variable stands for, and nothing that comes later can find fault with the options.
Otherwise the first requirement that is not met is the one that is reported.
-/

namespace PathKeeper

set_option autoImplicit false

/-- The names of a policy in small letters. -/
def Policy.spellings : Policy → List String
  | .skip => ["skip", "skip_entry"]
  | .reject => ["reject", "reject_update"]

/-- The name of a level in small letters. -/
def Log.Level.spelling : Log.Level → String
  | .trace => "trace"
  | .debug => "debug"
  | .info => "info"
  | .warn => "warn"
  | .error => "error"

theorem Log.Level.ofName?_eq_some_iff {name : String} {level : Log.Level} :
    ofName? name = some level ↔ name = level.spelling := by
  unfold ofName?
  split <;> cases level <;> simp_all [spelling]

namespace Daemon

/-! ## What texts mean -/

def MeansPolicy (text : String) (policy : Policy) : Prop :=
  Text.lower (Text.trimmed text) ∈ policy.spellings

/-- No text means a number that needs more than 64 bits. -/
def MeansNumber (text : String) (n : Nat) : Prop :=
  Text.Decimal.Denotes (Text.trim text.toList) n ∧ n < 2 ^ 64

def MeansNotify (text : String) (mode : NotifyMode) : Prop :=
  Text.lower (Text.trimmed text) = mode.name

/-- Blanks around the name of a level are not taken away. -/
def MeansLevel (text : String) (level : Log.Level) : Prop := Text.lower text = level.spelling

/-- What a variable stands for: what its text means, or the default if it is not set. -/
def Stands {α : Type} (default : α) (means : String → α → Prop) : Option String → α → Prop
  | none, x => x = default
  | some text, x => means text x

/-- The options have the values that the variables stand for, the level for the log among them. -/
structure Options.IsMeant (vars : Variables) (options : Options) (level : Log.Level) : Prop where
  policy : Stands .skip MeansPolicy (vars .malformedEntries) options.policy
  capacity : Stands 1000 MeansNumber (vars .eventCapacity) options.eventCapacity
  timeout : Stands 10 MeansNumber (vars .shutdownTimeout) options.shutdownTimeout
  notify : Stands .bridge MeansNotify (vars .notify) options.notify
  level : Stands .info MeansLevel (vars .logLevel) level
  capacity_range : 1 ≤ options.eventCapacity ∧ options.eventCapacity ≤ 100000
  timeout_range : 1 ≤ options.shutdownTimeout ∧ options.shutdownTimeout ≤ 300

/-! ## Requirements -/

/-- What the variables have to meet, in the order in which it is checked. -/
inductive Requirement where
  | policy | capacityNumber | timeoutNumber | notifyMode | capacityRange | timeoutRange | level
  deriving DecidableEq, Repr

namespace Requirement

def all : List Requirement :=
  [.policy, .capacityNumber, .timeoutNumber, .notifyMode, .capacityRange, .timeoutRange, .level]

/-- The requirements that are checked before. -/
def earlier (requirement : Requirement) : List Requirement := all.takeWhile (· ≠ requirement)

/-- The variable that has to meet it. -/
def subject : Requirement → Variable
  | .policy => .malformedEntries
  | .capacityNumber => .eventCapacity
  | .timeoutNumber => .shutdownTimeout
  | .notifyMode => .notify
  | .capacityRange => .eventCapacity
  | .timeoutRange => .shutdownTimeout
  | .level => .logLevel

/-- What the text of the variable has to be. -/
def Accepts : Requirement → String → Prop
  | .policy, text => ∃ policy, MeansPolicy text policy
  | .capacityNumber, text => ∃ n, MeansNumber text n
  | .timeoutNumber, text => ∃ n, MeansNumber text n
  | .notifyMode, text => ∃ mode, MeansNotify text mode
  | .capacityRange, text => ∃ n, MeansNumber text n ∧ 1 ≤ n ∧ n ≤ 100000
  | .timeoutRange, text => ∃ n, MeansNumber text n ∧ 1 ≤ n ∧ n ≤ 300
  | .level, text => ∃ level, MeansLevel text level

/-- A variable that is not set meets all requirements. -/
def IsMet (vars : Variables) (requirement : Requirement) : Prop :=
  ∀ text, vars requirement.subject = some text → requirement.Accepts text

/-- How a text that is not accepted is reported. -/
inductive Reports (text : String) : Requirement → Refusal → Prop where
  | policy : Reports text .policy (.unreadable (.policy (.settings
      s!"Unknown malformed DNS policy '{Text.lower (Text.trimmed text)}'. Valid: skip, reject")))
  | capacityNumber (fault : Text.Decimal.Fault) :
      Reports text .capacityNumber (.unreadable (.capacityNumber text fault))
  | timeoutNumber (fault : Text.Decimal.Fault) :
      Reports text .timeoutNumber (.unreadable (.timeoutNumber text fault))
  | notifyMode :
      Reports text .notifyMode (.unreadable (.notifyMode (Text.lower (Text.trimmed text))))
  | capacityRange {n : Nat} (h : MeansNumber text n) :
      Reports text .capacityRange (.invalid (.capacityOutOfRange n))
  | timeoutRange {n : Nat} (h : MeansNumber text n) :
      Reports text .timeoutRange (.invalid (.timeoutOutOfRange n))
  | level : Reports text .level (.invalid (.level text))

/-- The first requirement that is not met is reported, with the text that does not meet it. -/
structure IsFirstFault (vars : Variables) (refusal : Refusal) (requirement : Requirement)
    (text : String) : Prop where
  is_set : vars requirement.subject = some text
  not_accepted : ¬ requirement.Accepts text
  earlier_met : ∀ other ∈ requirement.earlier, other.IsMet vars
  reports : Reports text requirement refusal

theorem IsFirstFault.not_isMet {vars : Variables} {refusal : Refusal} {requirement : Requirement}
    {text : String} (h : IsFirstFault vars refusal requirement text) : ¬ requirement.IsMet vars :=
  fun hmet => h.not_accepted (hmet text h.is_set)

/-- A report has the name of the variable. -/
theorem Reports.names_subject {text : String} {requirement : Requirement} {refusal : Refusal}
    (h : Reports text requirement refusal) :
    ∃ front back, refusal.message = front ++ requirement.subject.name ++ back := by
  have htext : ∀ text : String, toString text = text := fun _ => rfl
  cases h <;>
    delta Refusal.message Fault.message <;>
    simp only [subject, htext, String.append_assoc] <;>
    exact ⟨_, _, rfl⟩

/-- What is checked next has one more requirement in front of it. -/
theorem met_next {vars : Variables} {requirement : Requirement} (next : Requirement)
    (hnext : next.earlier = requirement.earlier ++ [requirement])
    (hearlier : ∀ other ∈ requirement.earlier, other.IsMet vars)
    (hmet : requirement.IsMet vars) : ∀ other ∈ next.earlier, other.IsMet vars := by
  rw [hnext]
  exact List.forall_mem_append.mpr ⟨hearlier, List.forall_mem_singleton.mpr hmet⟩

/-- The level is what is checked last. -/
theorem met_all {vars : Variables}
    (hearlier : ∀ other ∈ Requirement.level.earlier, other.IsMet vars)
    (hlevel : Requirement.level.IsMet vars) (requirement : Requirement) :
    requirement.IsMet vars := by
  by_cases h : requirement = .level
  · exact h ▸ hlevel
  · refine hearlier requirement ?_
    revert h
    cases requirement <;> decide

end Requirement

open Requirement (IsFirstFault Reports)

/-! ## Reading -/

/-- A reader that takes what a requirement accepts, for what it means, and reports anything else. -/
structure Requirement.IsReadBy {α : Type} (requirement : Requirement) (default : α)
    (means : String → α → Prop) (reader : Option String → Except Fault α) : Prop where
  eq_ok_iff : ∀ text? x, reader text? = .ok x ↔ Stands default means text? x
  accepts_iff : ∀ text, requirement.Accepts text ↔ ∃ x, means text x
  reports : ∀ {text? fault}, reader text? = .error fault →
    ∃ text, text? = some text ∧ Reports text requirement (.unreadable fault)

theorem Requirement.IsReadBy.cases {α : Type} {requirement : Requirement} {default : α}
    {means : String → α → Prop} {reader : Option String → Except Fault α}
    (h : requirement.IsReadBy default means reader) {vars : Variables} (subject : Variable)
    (hsubject : requirement.subject = subject)
    (hearlier : ∀ other ∈ requirement.earlier, other.IsMet vars) :
    (∃ x, reader (vars subject) = .ok x ∧ Stands default means (vars subject) x ∧
        requirement.IsMet vars) ∨
      ∃ fault text, reader (vars subject) = .error fault ∧
        IsFirstFault vars (.unreadable fault) requirement text := by
  subst hsubject
  cases hread : reader (vars requirement.subject) with
  | ok x =>
    have hstands := (h.eq_ok_iff _ _).mp hread
    refine .inl ⟨x, rfl, hstands, ?_⟩
    intro text htext
    rw [htext] at hstands
    exact (h.accepts_iff text).mpr ⟨x, hstands⟩
  | error fault =>
    obtain ⟨text, htext, hreport⟩ := h.reports hread
    refine .inr ⟨fault, text, rfl, htext, ?_, hearlier, hreport⟩
    intro haccepts
    obtain ⟨x, hmeans⟩ := (h.accepts_iff text).mp haccepts
    rw [htext, (h.eq_ok_iff (some text) x).mpr hmeans] at hread
    cases hread

namespace Options

theorem isReadBy_readPolicy : Requirement.policy.IsReadBy .skip MeansPolicy readPolicy where
  eq_ok_iff text? policy := by
    cases text? with
    | none => simp [readPolicy, Stands, defaults, eq_comm]
    | some text =>
      rw [readPolicy, Stands, MeansPolicy, Policy.ofText]
      split <;> cases policy <;> simp_all [Policy.spellings, Except.mapError]
  accepts_iff _ := Iff.rfl
  reports {text? fault} h := by
    cases text? with
    | none => cases h
    | some text =>
      rw [readPolicy, Policy.ofText] at h
      split at h
      all_goals cases h
      exact ⟨text, rfl, .policy⟩

theorem meansNumber_iff {text : String} {n : Nat} :
    MeansNumber text n ↔ Text.Decimal.read (Text.trim text.toList) = .ok n :=
  Text.Decimal.read_eq_ok_iff.symm

theorem isReadBy_readNumber {requirement : Requirement}
    {wrong : String → Text.Decimal.Fault → Fault}
    (haccepts : ∀ text, requirement.Accepts text ↔ ∃ n, MeansNumber text n)
    (hreports : ∀ text why, Reports text requirement (.unreadable (wrong text why)))
    (default : Nat) : requirement.IsReadBy default MeansNumber (readNumber wrong default) where
  eq_ok_iff text? n := by
    cases text? with
    | none => simp [readNumber, Stands, eq_comm]
    | some text =>
      rw [readNumber, Stands, meansNumber_iff]
      cases Text.Decimal.read (Text.trim text.toList) <;> simp [Except.mapError]
  accepts_iff := haccepts
  reports {text? fault} h := by
    cases text? with
    | none => cases h
    | some text =>
      rw [readNumber] at h
      cases hread : Text.Decimal.read (Text.trim text.toList) with
      | ok n => simp [hread, Except.mapError] at h
      | error why =>
        rw [hread] at h
        cases h
        exact ⟨text, rfl, hreports text why⟩

theorem isReadBy_readNotify : Requirement.notifyMode.IsReadBy .bridge MeansNotify readNotify where
  eq_ok_iff text? mode := by
    cases text? with
    | none => simp [readNotify, Stands, defaults, eq_comm]
    | some text =>
      rw [readNotify, Stands, MeansNotify]
      split <;> cases mode <;> simp_all [NotifyMode.name]
  accepts_iff _ := Iff.rfl
  reports {text? fault} h := by
    cases text? with
    | none => cases h
    | some text =>
      rw [readNotify] at h
      split at h
      all_goals cases h
      exact ⟨text, rfl, .notifyMode⟩

/-- What is known of options that have been read and not yet been checked. -/
structure WasRead (vars : Variables) (options : Options) : Prop where
  policy : Stands .skip MeansPolicy (vars .malformedEntries) options.policy
  capacity : Stands 1000 MeansNumber (vars .eventCapacity) options.eventCapacity
  timeout : Stands 10 MeansNumber (vars .shutdownTimeout) options.shutdownTimeout
  notify : Stands .bridge MeansNotify (vars .notify) options.notify
  logLevel : options.logLevel = (vars .logLevel).getD "info"
  met : ∀ other ∈ Requirement.capacityRange.earlier, other.IsMet vars

/-- Variables are read, or the first requirement that keeps them from it is reported. -/
theorem read_cases (vars : Variables) :
    (∃ options, read vars = .ok options ∧ WasRead vars options) ∨
      ∃ fault requirement text, read vars = .error fault ∧
        IsFirstFault vars (.unreadable fault) requirement text := by
  have hcapacityReader : Requirement.capacityNumber.IsReadBy 1000 MeansNumber
      (readNumber .capacityNumber defaults.eventCapacity) :=
    isReadBy_readNumber (fun _ => Iff.rfl) (fun _ => .capacityNumber) _
  have htimeoutReader : Requirement.timeoutNumber.IsReadBy 10 MeansNumber
      (readNumber .timeoutNumber defaults.shutdownTimeout) :=
    isReadBy_readNumber (fun _ => Iff.rfl) (fun _ => .timeoutNumber) _
  have hnone : ∀ other ∈ Requirement.policy.earlier, other.IsMet vars := List.forall_mem_nil _
  obtain ⟨policy, hpolicy, policyStands, hmet⟩ | ⟨fault, text, hpolicy, hfault⟩ :=
    isReadBy_readPolicy.cases .malformedEntries rfl hnone
  swap
  · exact .inr ⟨fault, _, text, by simp only [read, hpolicy, bind, Except.bind], hfault⟩
  have hone := Requirement.met_next .capacityNumber rfl hnone hmet
  obtain ⟨capacity, hcapacity, capacityStands, hmet⟩ | ⟨fault, text, hcapacity, hfault⟩ :=
    hcapacityReader.cases .eventCapacity rfl hone
  swap
  · exact .inr ⟨fault, _, text, by simp only [read, hpolicy, hcapacity, bind, Except.bind], hfault⟩
  have htwo := Requirement.met_next .timeoutNumber rfl hone hmet
  obtain ⟨timeout, htimeout, timeoutStands, hmet⟩ | ⟨fault, text, htimeout, hfault⟩ :=
    htimeoutReader.cases .shutdownTimeout rfl htwo
  swap
  · exact .inr ⟨fault, _, text,
      by simp only [read, hpolicy, hcapacity, htimeout, bind, Except.bind], hfault⟩
  have hthree := Requirement.met_next .notifyMode rfl htwo hmet
  obtain ⟨notify, hnotify, notifyStands, hmet⟩ | ⟨fault, text, hnotify, hfault⟩ :=
    isReadBy_readNotify.cases .notify rfl hthree
  swap
  · exact .inr ⟨fault, _, text,
      by simp only [read, hpolicy, hcapacity, htimeout, hnotify, bind, Except.bind], hfault⟩
  refine .inl ⟨⟨(vars .logLevel).getD "info", policy, capacity, timeout, notify⟩, ?_, ?_⟩
  · simp only [read, hpolicy, hcapacity, htimeout, hnotify, bind, Except.bind]
    rfl
  · exact ⟨policyStands, capacityStands, timeoutStands, notifyStands, rfl,
      Requirement.met_next _ rfl hthree hmet⟩

/-! ## Checking -/

/-- A number in a range is accepted; any other one was given, as the only meaning of a text. -/
theorem range_cases {vars : Variables} (requirement : Requirement) (range : Nat × Nat)
    {default n : Nat} (hstands : Stands default MeansNumber (vars requirement.subject) n)
    (haccepts : ∀ text, requirement.Accepts text ↔
      ∃ m, MeansNumber text m ∧ range.1 ≤ m ∧ m ≤ range.2)
    (hdefault : isWithin range default = true) :
    (isWithin range n = true ∧ requirement.IsMet vars) ∨
      (isWithin range n = false ∧ ∃ text, vars requirement.subject = some text ∧
        MeansNumber text n ∧ ¬ requirement.Accepts text) := by
  have hwithin (m : Nat) : isWithin range m = true ↔ range.1 ≤ m ∧ m ≤ range.2 := by
    rw [isWithin, Bool.and_eq_true, decide_eq_true_eq, decide_eq_true_eq]
  cases hset : vars requirement.subject with
  | none =>
    rw [hset] at hstands
    obtain rfl : n = default := hstands
    exact .inl ⟨hdefault, fun text htext => by simp [hset] at htext⟩
  | some text =>
    rw [hset] at hstands
    have hmeans : MeansNumber text n := hstands
    cases hn : isWithin range n with
    | true =>
      refine .inl ⟨rfl, fun other hother => ?_⟩
      obtain rfl := Option.some.inj (hset.symm.trans hother)
      exact (haccepts text).mpr ⟨n, hmeans, (hwithin n).mp hn⟩
    | false =>
      refine .inr ⟨rfl, text, rfl, hmeans, fun haccepted => ?_⟩
      obtain ⟨m, hother, hrange⟩ := (haccepts text).mp haccepted
      obtain rfl : m = n := by
        rw [meansNumber_iff] at hmeans hother
        exact Except.ok.inj (hother.symm.trans hmeans)
      rw [(hwithin m).mpr hrange] at hn
      cases hn

theorem level_eq_ok_iff {options : Options} {level : Log.Level} :
    options.level = .ok level ↔ Text.lower options.logLevel = level.spelling := by
  rw [← Log.Level.ofName?_eq_some_iff, Options.level]
  cases Log.Level.ofName? (Text.lower options.logLevel) <;> simp

theorem level_cases {vars : Variables} {options : Options}
    (h : options.logLevel = (vars .logLevel).getD "info") :
    (∃ level, options.level = .ok level ∧ Stands .info MeansLevel (vars .logLevel) level ∧
        Requirement.level.IsMet vars) ∨
      ∃ text, options.level = .error (.level text) ∧ vars .logLevel = some text ∧
        ¬ Requirement.level.Accepts text := by
  cases hset : vars .logLevel with
  | none =>
    have hlower : Text.lower "info" = "info" := rfl
    rw [hset, Option.getD_none] at h
    refine .inl ⟨.info, level_eq_ok_iff.mpr (h ▸ hlower), rfl, fun text htext => ?_⟩
    rw [Requirement.subject, hset] at htext
    cases htext
  | some text =>
    rw [hset, Option.getD_some] at h
    cases hlevel : Log.Level.ofName? (Text.lower text) with
    | some level =>
      have hmeans : MeansLevel text level := Log.Level.ofName?_eq_some_iff.mp hlevel
      refine .inl ⟨level, level_eq_ok_iff.mpr (h ▸ hmeans), hmeans, fun other hother => ?_⟩
      obtain rfl := Option.some.inj (hset.symm.trans hother)
      exact ⟨level, hmeans⟩
    | none =>
      refine .inr ⟨text, ?_, rfl, ?_⟩
      · simp only [Options.level, h, hlevel]
      · rintro ⟨level, hmeans⟩
        rw [Log.Level.ofName?_eq_some_iff.mpr hmeans] at hlevel
        cases hlevel

theorem validate_of_isWithin {options : Options} {level : Log.Level}
    (hcapacity : isWithin capacityRange options.eventCapacity = true)
    (htimeout : isWithin timeoutRange options.shutdownTimeout = true)
    (hlevel : options.level = .ok level) : options.validate = .ok () := by
  have hleast : 1 ≤ options.eventCapacity := of_decide_eq_true (Bool.and_eq_true_iff.mp hcapacity).1
  have hsettings : options.settings.validate = .ok () :=
    if_neg (Nat.one_le_iff_ne_zero.mp hleast)
  rw [validate, if_pos hcapacity, if_pos htimeout, hlevel]
  simp only [hsettings]
  rfl

/-- Options that have been read pass, or the first requirement that keeps them from it is
reported. -/
theorem validate_cases {vars : Variables} {options : Options} (h : WasRead vars options) :
    (options.validate = .ok () ∧ (∃ level, options.IsMeant vars level ∧ options.level = .ok level) ∧
        ∀ requirement : Requirement, requirement.IsMet vars) ∨
      ∃ fault requirement text, options.validate = .error fault ∧
        IsFirstFault vars (.invalid fault) requirement text := by
  obtain ⟨hcapacity, hmet⟩ | ⟨hcapacity, text, hset, hmeans, hnot⟩ :=
    range_cases .capacityRange capacityRange h.capacity (fun _ => Iff.rfl) rfl
  swap
  · exact .inr ⟨_, .capacityRange, text, by rw [validate, hcapacity]; rfl,
      hset, hnot, h.met, .capacityRange hmeans⟩
  have hfive := Requirement.met_next .timeoutRange rfl h.met hmet
  obtain ⟨htimeout, hmet⟩ | ⟨htimeout, text, hset, hmeans, hnot⟩ :=
    range_cases .timeoutRange timeoutRange h.timeout (fun _ => Iff.rfl) rfl
  swap
  · exact .inr ⟨_, .timeoutRange, text, by rw [validate, if_pos hcapacity, htimeout]; rfl,
      hset, hnot, hfive, .timeoutRange hmeans⟩
  have hsix := Requirement.met_next .level rfl hfive hmet
  obtain ⟨level, hlevel, hstands, hmet⟩ | ⟨text, hlevel, hset, hnot⟩ := level_cases h.logLevel
  swap
  · exact .inr ⟨_, .level, text, by rw [validate, if_pos hcapacity, if_pos htimeout, hlevel],
      hset, hnot, hsix, .level⟩
  refine .inl ⟨validate_of_isWithin hcapacity htimeout hlevel, ⟨level, ?_, hlevel⟩,
    Requirement.met_all hsix hmet⟩
  have hwithin {range : Nat × Nat} {n : Nat} (hn : isWithin range n = true) :
      range.1 ≤ n ∧ n ≤ range.2 := by
    simpa [isWithin] using hn
  exact ⟨h.policy, h.capacity, h.timeout, h.notify, hstands, hwithin hcapacity, hwithin htimeout⟩

end Options

/-! ## Passing -/

theorem configure_of_validate {vars : Variables} {options : Options} {level : Log.Level}
    (hread : Options.read vars = .ok options) (hvalid : options.validate = .ok ())
    (hlevel : options.level = .ok level) : configure vars = .ok (options, level) := by
  simp only [configure, hread, hvalid, hlevel]
  rfl

/-- The variables pass, or the first requirement that keeps them from it is reported. -/
theorem configure_cases (vars : Variables) :
    (∃ options level, Options.read vars = .ok options ∧ options.validate = .ok () ∧
        options.IsMeant vars level ∧ options.level = .ok level ∧
        ∀ requirement : Requirement, requirement.IsMet vars) ∨
      ∃ refusal requirement text, configure vars = .error refusal ∧
        IsFirstFault vars refusal requirement text := by
  obtain ⟨options, hread, hwas⟩ | ⟨fault, requirement, text, hread, hfault⟩ :=
    Options.read_cases vars
  swap
  · exact .inr ⟨_, requirement, text, by simp only [configure, hread], hfault⟩
  obtain ⟨hvalid, ⟨level, hmeant, hlevel⟩, hall⟩ | ⟨fault, requirement, text, hvalid, hfault⟩ :=
    Options.validate_cases hwas
  · exact .inl ⟨options, level, hread, hvalid, hmeant, hlevel, hall⟩
  · exact .inr ⟨_, requirement, text, by simp only [configure, hread, hvalid], hfault⟩

/-- A pipeline that has a coordinator does not fail for want of one. -/
theorem Pipeline.result_ne_coordinator {options : Options} {start : Coordinator Engine}
    (h : Coordinator.new options.settings = .ok start) (request : Monitor.Request)
    (source : Monitor.PathSource) (sink : Bridge.Sink) (fault : Coordinator.StartFault) :
    (Pipeline.run options request source sink).result ≠ .error (.coordinator fault) := by
  rw [(Tandem.pipeline_run_eq h request source sink).1]
  generalize (Bridge.write sink _).2 = ending
  cases ending <;> cases source.current <;> simp [result, conclusion, Except.map]

/-- The variables pass exactly if every requirement is met. Then the options and the level have the
values that the variables stand for, a coordinator can be made, and a pipeline has one. Otherwise
the first requirement that is not met is reported, under the name of its variable. -/
theorem variables_pass_iff_every_requirement_is_met (vars : Variables) :
    ((∃ options, Options.read vars = .ok options ∧ options.validate = .ok ()) ↔
      ∀ requirement : Requirement, requirement.IsMet vars) ∧
    (∀ options, Options.read vars = .ok options → options.validate = .ok () →
      ∃ level, options.IsMeant vars level ∧ options.level = .ok level ∧
        configure vars = .ok (options, level) ∧
        (∃ start : Coordinator Engine, Coordinator.new options.settings = .ok start) ∧
        ∀ request source sink fault,
          (Pipeline.run options request source sink).result ≠ .error (.coordinator fault)) ∧
    ∀ refusal, configure vars = .error refusal →
      ∃ requirement text, IsFirstFault vars refusal requirement text ∧
        ∃ front back, refusal.message = front ++ requirement.subject.name ++ back := by
  obtain ⟨options, level, hread, hvalid, hmeant, hlevel, hall⟩ |
    ⟨refusal, requirement, text, hrefused, hfault⟩ := configure_cases vars
  · have hconfigured := configure_of_validate hread hvalid hlevel
    refine ⟨⟨fun _ => hall, fun _ => ⟨options, hread, hvalid⟩⟩, ?_, ?_⟩
    · intro other hother _
      obtain rfl := Except.ok.inj (hread.symm.trans hother)
      obtain ⟨start, hnew⟩ := new_of_isWithin (Tandem.isWithin_of_validate hvalid)
      exact ⟨level, hmeant, hlevel, hconfigured, ⟨start, hnew⟩,
        Pipeline.result_ne_coordinator hnew⟩
    · intro refusal hrefused
      rw [hconfigured] at hrefused
      cases hrefused
  · have hfails : ¬ ∃ options, Options.read vars = .ok options ∧ options.validate = .ok () := by
      rintro ⟨options, hread, hvalid⟩
      simp only [configure, hread, hvalid] at hrefused
      cases hrefused
    refine ⟨iff_of_false hfails fun hall => hfault.not_isMet (hall requirement), ?_, ?_⟩
    · intro options hread hvalid
      exact absurd ⟨options, hread, hvalid⟩ hfails
    · intro other hother
      obtain rfl := Except.error.inj (hrefused.symm.trans hother)
      exact ⟨requirement, text, hfault, hfault.reports.names_subject⟩

/-- One kind of blank and one of capital is not ASCII, and the number has a sign and zeros in front.
Of the variables with three faults the capacity is reported. -/
theorem odd_spellings_pass :
    let vars : Variables := fun
      | .malformedEntries => some "\u00a0S\u212aIP_Entry "
      | .eventCapacity => some "\t+00064 "
      | .shutdownTimeout => none
      | .notify => some "LOG"
      | .logLevel => some "Warn"
    let faulty : Variables := fun
      | .eventCapacity => some "0100001"
      | .shutdownTimeout => some "0"
      | .logLevel => some " info"
      | _ => none
    let options : Options := ⟨"Warn", .skip, 64, 10, .log⟩
    let refusal := Refusal.invalid (.capacityOutOfRange 100001)
    Options.read vars = .ok options ∧ options.validate = .ok () ∧
      (∃ level, options.IsMeant vars level ∧ configure vars = .ok (options, level)) ∧
      configure faulty = .error refusal ∧
      ∃ requirement text, IsFirstFault faulty refusal requirement text := by
  intro vars faulty options refusal
  have hread : Options.read vars = .ok options := rfl
  have hvalid : Options.validate ⟨"Warn", .skip, 64, 10, .log⟩ = .ok () := rfl
  have hrefused : configure faulty = .error refusal := rfl
  obtain ⟨level, hmeant, -, hconfigured, -⟩ :=
    (variables_pass_iff_every_requirement_is_met vars).2.1 options hread hvalid
  obtain ⟨requirement, text, hfault, -⟩ :=
    (variables_pass_iff_every_requirement_is_met faulty).2.2 refusal hrefused
  exact ⟨hread, hvalid, ⟨level, hmeant, hconfigured⟩, hrefused, requirement, text, hfault⟩

end Daemon

end PathKeeper
