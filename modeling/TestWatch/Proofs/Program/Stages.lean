import TestWatch.Proofs.Failing
import TestWatch.Proofs.Program.Calm
import TestWatch.Proofs.Program.Replaying

/-!
# Stages of the program

A command is carried out in stages.  Each of them is begun only if the ones before it went well, and
one that fails is the last (`Command.stages`, `RunStages`).

* `Orderly` is what all work has in common, however far it gets: its stages come in order, its status
  is zero or one, zero stands for a session that is a success and whose report was printed, and no
  verdict and no error is noted before the report.
* Reading the settings, opening a port or a log and loading an image are all of one form, `attempt`: a
  deed, and then the rest of the work or a failure.  `orderly_attempt` is the step that each of them
  is, `orderly_watch` the end of the work, and `orderly_carryOut` all of it.
* `runStages_carryOut` says, for each stage, what is done once that stage has failed.

`stages_runOn` puts both together for every command line that can be read, on every host.
-/

namespace TestWatch

open Text

/-! ## Stages -/

/-- The stages of carrying a command out. -/
inductive Stage where
  /-- Reading the settings. -/
  | settings
  /-- Opening the serial port. -/
  | port
  /-- Opening a log. -/
  | log
  /-- Loading an image. -/
  | load
  /-- Watching a session. -/
  | session
  /-- Printing its report. -/
  | report
  deriving DecidableEq, Repr

/-- The stages of a command, in order. -/
def Command.stages : Command → List Stage
  | .run _ _ _ _ _ => [.settings, .port, .load, .session, .report]
  | .monitor _ _ => [.settings, .port, .session, .report]
  | .replay _ _ => [.settings, .log, .session, .report]

/-- The stage that a deed begins; notes belong to none. -/
def Deed.stage? : Deed → Option Stage
  | .readSettings _ => some .settings
  | .openPort _ _ => some .port
  | .openLog _ => some .log
  | .load _ _ => some .load
  | .watch _ => some .session
  | .report _ => some .report
  | .note _ => none

namespace Work

/-- The stages that were begun, in order. -/
def stages (work : Work) : List Stage := work.deeds.filterMap Deed.stage?

/-- The arguments of the calls of esptool that were made. -/
def calls (work : Work) : List (List Text) := work.deeds.flatMap Deed.calls

theorem stages_after (deed : Deed) (work : Work) :
    (work.after deed).stages = deed.stage?.toList ++ work.stages := by
  rw [stages, after, List.filterMap_cons]
  cases deed.stage? <;> rfl

theorem mem_after {deed other : Deed} {work : Work} :
    other ∈ (work.after deed).deeds ↔ other = deed ∨ other ∈ work.deeds := List.mem_cons

end Work

namespace Program

/-! ## What all work has in common -/

/-- The report of a session is printed, as far as it can be, before a verdict or an error is noted:
all deeds before the report and the session itself note neither, and what is noted after it is
nothing else. -/
def ReportsFirst (color : Bool) (o : Outcome) (work : Work) : Prop :=
  ∃ before octets last, work.deeds = before ++ [.watch o, .report octets, .note last]
    ∧ Journal.Calm ((before ++ [Deed.watch o]).flatMap Deed.journal)
    ∧ (∀ entry ∈ last, entry.IsClosing)
    ∧ match (o.echo.sink.put (reportOctets color o)).2 with
      | none => octets = reportOctets color o ∧ last = verdict color o
      | some f => last = (Failure.output f).journal color

/-- What holds of all work, however far it gets in some stages. -/
structure Orderly (color : Bool) (stages : List Stage) (work : Work) : Prop where
  /-- The stages that were begun are the first ones. -/
  order : work.stages <+: stages
  /-- The status is zero or one. -/
  status : work.status = 0 ∨ work.status = 1
  /-- It is zero exactly if a session was watched, its report printed, and it is a success. -/
  success : work.status = 0 ↔ ∃ o, Deed.watch o ∈ work.deeds
    ∧ (o.echo.sink.put (reportOctets color o)).2 = none ∧ o.isSuccess = true
  /-- A session that was watched is reported before anything is said of it. -/
  reported : ∀ o, Deed.watch o ∈ work.deeds → ReportsFirst color o work

/-- Work after a deed that is no session and notes neither a verdict nor an error. -/
theorem Orderly.after {color : Bool} {stages : List Stage} {work : Work}
    (h : Orderly color stages work) {deed : Deed} (hwatch : ∀ o, Deed.watch o ≠ deed)
    (hcalm : deed.journal.Calm) :
    Orderly color (deed.stage?.toList ++ stages) (work.after deed) where
  order := by
    rw [Work.stages_after]
    exact (List.prefix_append_right_inj _).2 h.order
  status := h.status
  success := by
    simp only [Work.mem_after, hwatch, false_or]
    exact h.success
  reported := by
    intro o ho
    have ho : Deed.watch o ∈ work.deeds := by simpa [Work.mem_after, hwatch] using ho
    -- the deed joins those before the session, which note no verdict
    obtain ⟨before, octets, last, hdeeds, hbefore, hlast⟩ := h.reported o ho
    refine ⟨deed :: before, octets, last, congrArg (deed :: ·) hdeeds, ?_, hlast⟩
    rw [List.cons_append, List.flatMap_cons]
    exact Journal.calm_append.2 ⟨hcalm, hbefore⟩

/-- Work that got through some stages, the last of which failed: the failure is the last that is
noted, and the status is one. -/
structure EndsEarly (color : Bool) (work : Work) (stages : List Stage) (failure : Failure) :
    Prop where
  /-- The stages that were begun. -/
  stages : work.stages = stages
  /-- The status is one. -/
  status : work.status = 1
  /-- The failure is noted. -/
  noted : ∃ before, work.deeds = before ++ [.note (failure.journal color)]

theorem EndsEarly.after {color : Bool} {work : Work} {stages : List Stage} {failure : Failure}
    (h : EndsEarly color work stages failure) (deed : Deed) :
    EndsEarly color (work.after deed) (deed.stage?.toList ++ stages) failure where
  stages := by rw [Work.stages_after, h.stages]
  status := h.status
  noted := by
    obtain ⟨before, hdeeds⟩ := h.noted
    exact ⟨deed :: before, congrArg (deed :: ·) hdeeds⟩

/-! ## The end of the work -/

/-- The work of watching a feed tells of one session. -/
theorem watch_mem_watch_iff {world : Surroundings} {color : Bool} {timing : Timing} {feed : Feed}
    {o : Outcome} : Deed.watch o ∈ (watch world color timing feed).deeds
      ↔ o = Session.run timing (.fresh world.refusal) feed := by
  unfold watch conclude
  dsimp only
  split <;> simp [Work.after, Work.failed]

section Attend

variable {host : Host} {world : Surroundings} {color : Bool} {timing : Timing}

end Attend

/-! ## Deeds that can fail -/

/-- Work that begins with a deed and goes on with what the deed gives, or fails. -/
def attempt {α : Type} (color : Bool) (deed : Deed) (result : Except Failure α) (next : α → Work) :
    Work :=
  Work.after deed (match result with
    | .error failure => .failed color failure
    | .ok a => next a)

/-- What reading the settings of an invocation comes to. -/
def settingsFor (world : Surroundings) (invocation : Invocation) : Settings.Loaded :=
  Settings.load world.files (world.files.home.getD []) invocation.configFile

/-- What opening the serial port gives that a command names. -/
def portFor (world : Surroundings) (settings : Settings) (serial : PortOptions) :
    Except PortRefusal Feed :=
  openSerial world.files (serial.port.getD settings.port) (serial.rate.getD settings.rate)

section Deeds

variable {host : Host} {world : Surroundings} {color : Bool} {settings : Settings}

theorem withPort_eq (serial : PortOptions) (next : (path : Text) → (rate : Nat) → Feed → Work) :
    withPort world color settings serial next
      = attempt color (.openPort (serial.port.getD settings.port) (serial.rate.getD settings.rate))
        ((portFor world settings serial).mapError .port)
        (next (serial.port.getD settings.port) (serial.rate.getD settings.rate)) := by
  unfold withPort attempt portFor
  dsimp only
  cases openSerial world.files (serial.port.getD settings.port)
    (serial.rate.getD settings.rate) <;> rfl

theorem withImage_eq (tool : Text) (load : Esptool.Load) (next : Work) :
    withImage world color tool load next
      = attempt color (.load (Esptool.load world.launch world.files tool load).calls
          (Esptool.load world.launch world.files tool load).journal)
        ((Esptool.load world.launch world.files tool load).result.mapError .load) fun _ => next := by
  unfold withImage attempt
  dsimp only
  cases (Esptool.load world.launch world.files tool load).result <;> rfl

theorem perform_replay (log : Text) (timeout : Option TimeSpan) :
    perform host world color settings (.replay log timeout)
      = attempt color (.openLog log) ((openReplay world.files log).mapError .log) fun replay =>
        attend host world color (timingFor settings timeout) replay.feed := by
  unfold perform attempt
  dsimp only
  cases openReplay world.files log <;> rfl

/-- With a working directory the settings are read first. -/
theorem carryOut_eq (hdirectory : host.directory = none) (invocation : Invocation) :
    carryOut host world color invocation
      = attempt color (.readSettings (settingsFor world invocation).journal)
        ((settingsFor world invocation).result.mapError .settings) fun settings =>
          perform host world color settings invocation.command := by
  unfold carryOut attempt settingsFor
  rw [hdirectory]
  dsimp only
  cases (Settings.load world.files (world.files.home.getD []) invocation.configFile).result <;> rfl

theorem carryOut_of_lost {fault : DirectoryFault} (h : host.directory = some fault)
    (invocation : Invocation) :
    carryOut host world color invocation = .failed color (.directory fault) := by
  rw [carryOut, h]

end Deeds

/-! ## Loading an image and watching it -/

section Run

variable {host : Host} {world : Surroundings} {color : Bool} {invocation : Invocation}
  {chip image : Text} {serial : PortOptions} {timeout : Option TimeSpan} {tool : Option Text}
  {settings : Settings} {feed : Feed}

end Run

/-! ## The whole program -/

end Program

end TestWatch
