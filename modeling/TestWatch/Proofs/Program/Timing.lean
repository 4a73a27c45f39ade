import TestWatch.Proofs.CommandLine.Timeout
import TestWatch.Proofs.Program.Stages
import TestWatch.Proofs.Settings.Layers

/-!
# The times of a session

A session is watched with a timeout and an interval to wait that are more than nothing, whatever the
file with settings and the command line say (`KeepsTo`): the timeout is the one that the command line
gives, if it gives one, everything else comes from the settings, and both have been checked where they
were read.  `watch_mem_carryOut` follows the times from there to the session, and the feed to the
session from where it was opened (`Opens`).

Settings with a time of nothing are refused, the timeout before the interval (`load_of_zeroSpan`), and
the refusal comes after the warning about keys that mean nothing (`deeds_of_refused`).
-/

namespace TestWatch

open Text

namespace Program

/-! ## Which times are kept to -/

/-- The times of a session, by settings and the text that is given as the timeout, if there is one. -/
structure KeepsTo (settings : Settings) (given : Option Text) (timing : Timing) : Prop where
  /-- The timeout is more than nothing. -/
  timeout_pos : 0 < timing.timeout.nanos
  /-- So is the interval. -/
  pollInterval_pos : 0 < timing.pollInterval.nanos
  /-- A timeout that is given is the one that counts. -/
  timeout : match given with
    | some text => readTimeout text = .ok timing.timeout
    | none => timing.timeout = settings.timing.timeout
  /-- The interval is that of the settings. -/
  pollInterval : timing.pollInterval = settings.timing.pollInterval
  /-- So is the grace period. -/
  gracePeriod : timing.gracePeriod = settings.timing.gracePeriod

theorem nanos_pos {span : TimeSpan} (h : span.isZero = false) : 0 < span.nanos :=
  Nat.pos_of_ne_zero (by simpa [TimeSpan.isZero] using h)

/-- Settings that were loaded and a timeout that was read make times to keep to. -/
theorem keepsTo_timingFor {files : Files} {dir : Text} {asked : Option Text} {settings : Settings}
    (hload : (Settings.load files dir asked).result = .ok settings) {given : Option Text}
    {timeout : Option TimeSpan} (hgiven : given.map readTimeout = timeout.map .ok) :
    KeepsTo settings given (timingFor settings timeout) := by
  obtain ⟨htimeout, hpoll⟩ := Settings.timing_of_load hload
  cases given with
  | none =>
    cases timeout with
    | none => exact ⟨nanos_pos htimeout, nanos_pos hpoll, rfl, rfl, rfl⟩
    | some d => cases hgiven
  | some text =>
    cases timeout with
    | none => cases hgiven
    | some d =>
      have hread : readTimeout text = .ok d := Option.some.inj hgiven
      exact ⟨nanos_pos (readTimeout_pos hread), nanos_pos hpoll, hread, rfl, rfl⟩

/-! ## From the settings to the session -/

/-- Settings and a command decide what is watched: the serial port, as the command names it or else
the settings do, or the log. -/
inductive Opens (world : Surroundings) (settings : Settings) : Command → Feed → Prop
  /-- After an image was loaded through it, the port is watched. -/
  | run {chip image : Text} {serial : PortOptions} {timeout : Option TimeSpan} {tool : Option Text}
    {feed : Feed} (h : portFor world settings serial = .ok feed) :
    Opens world settings (.run chip image serial timeout tool) feed
  /-- The port is watched as it is. -/
  | monitor {serial : PortOptions} {timeout : Option TimeSpan} {feed : Feed}
    (h : portFor world settings serial = .ok feed) :
    Opens world settings (.monitor serial timeout) feed
  /-- A log is read again. -/
  | replay {log : Text} {timeout : Option TimeSpan} {replay : Replay}
    (h : openReplay world.files log = .ok replay) :
    Opens world settings (.replay log timeout) replay.feed

section Sessions

variable {host : Host} {world : Surroundings} {color : Bool} {settings : Settings} {timing : Timing}
  {feed : Feed} {o : Outcome}

theorem watch_mem_attempt {α : Type} {deed : Deed} {result : Except Failure α} {next : α → Work}
    (hdeed : ∀ o, Deed.watch o ≠ deed) (h : Deed.watch o ∈ (attempt color deed result next).deeds) :
    ∃ a, result = .ok a ∧ Deed.watch o ∈ (next a).deeds := by
  rcases Work.mem_after.1 h with h | h
  · exact absurd h (hdeed o)
  · cases result with
    | error failure =>
      rcases List.mem_cons.1 h with h | h <;> cases h
    | ok a => exact ⟨a, rfl, h⟩

theorem watch_mem_attend (h : Deed.watch o ∈ (attend host world color timing feed).deeds) :
    o = Session.run timing (.fresh world.refusal) feed := by
  unfold attend at h
  split at h
  · simp [Work.failed] at h
  · simp [Work.failed, Work.after] at h
  · exact watch_mem_watch_iff.1 h

/-- A command watches what it opened, with the times of the settings and its own timeout. -/
theorem watch_mem_perform {command : Command}
    (h : Deed.watch o ∈ (perform host world color settings command).deeds) : ∃ feed,
      Opens world settings command feed
        ∧ o = Session.run (timingFor settings command.timeout?) (.fresh world.refusal) feed := by
  cases command with
  | run chip image serial timeout tool =>
    rw [perform, withPort_eq] at h
    obtain ⟨feed, hfeed, h⟩ := watch_mem_attempt (by simp) h
    rw [withImage_eq] at h
    obtain ⟨-, -, h⟩ := watch_mem_attempt (by simp) h
    exact ⟨feed, .run (mapError_eq_ok.1 hfeed), watch_mem_attend h⟩
  | monitor serial timeout =>
    rw [perform, withPort_eq] at h
    obtain ⟨feed, hfeed, h⟩ := watch_mem_attempt (by simp) h
    exact ⟨feed, .monitor (mapError_eq_ok.1 hfeed), watch_mem_attend h⟩
  | replay log timeout =>
    rw [perform_replay] at h
    obtain ⟨replay, hreplay, h⟩ := watch_mem_attempt (by simp) h
    exact ⟨replay.feed, .replay (mapError_eq_ok.1 hreplay), watch_mem_attend h⟩

theorem watch_mem_carryOut {invocation : Invocation}
    (h : Deed.watch o ∈ (carryOut host world color invocation).deeds) : ∃ settings feed,
      (settingsFor world invocation).result = .ok settings
        ∧ Opens world settings invocation.command feed
        ∧ o = Session.run (timingFor settings invocation.command.timeout?) (.fresh world.refusal)
          feed := by
  cases hdirectory : host.directory with
  | some fault =>
    rw [carryOut_of_lost hdirectory] at h
    simp [Work.failed] at h
  | none =>
    rw [carryOut_eq hdirectory] at h
    obtain ⟨settings, hsettings, h⟩ := watch_mem_attempt (by simp) h
    obtain ⟨feed, hopens, hrun⟩ := watch_mem_perform h
    exact ⟨settings, feed, mapError_eq_ok.1 hsettings, hopens, hrun⟩

end Sessions

/-! ## Times of nothing -/

/-- The key of the first time of settings that may not be nothing and is. -/
inductive ZeroSpan (settings : Settings) : Text → Prop
  /-- The timeout, whatever the interval is. -/
  | timeout (h : settings.timing.timeout.nanos = 0) : ZeroSpan settings "monitor.timeout".toList
  /-- The interval, if the timeout is more than nothing. -/
  | pollInterval (htimeout : 0 < settings.timing.timeout.nanos)
    (h : settings.timing.pollInterval.nanos = 0) : ZeroSpan settings "monitor.poll-interval".toList

theorem validate_of_zeroSpan {settings : Settings} {key : Text} (h : ZeroSpan settings key) :
    settings.validate = .error (.zeroSpan key) := by
  unfold Settings.validate
  cases h with
  | timeout h => rw [if_pos (by simp [TimeSpan.isZero, h])]
  | pollInterval htimeout h =>
    rw [if_neg (by simpa [TimeSpan.isZero] using Nat.pos_iff_ne_zero.1 htimeout),
      if_pos (by simp [TimeSpan.isZero, h])]

/-- Settings with a time of nothing are refused with its key. -/
theorem load_of_zeroSpan {files : Files} {dir : Text} {asked : Option Text} {tree : Tree}
    {settings : Settings} {key : Text}
    (htree : Settings.assemble files (Settings.fileFor dir asked) asked.isSome = .ok tree)
    (hread : Settings.read tree = .ok settings) (hzero : ZeroSpan settings key) :
    (Settings.load files dir asked).result
      = .error ⟨Settings.fileFor dir asked, .zeroSpan key⟩ := by
  have haccept : Settings.accept tree = .error (.zeroSpan key) := by
    rw [Settings.accept, hread]
    exact validate_of_zeroSpan hzero
  rw [Settings.result_load, htree]
  simp only [Except.bind, haccept, Except.mapError]

/-- Settings that are refused end the work, after what was noted while they were read. -/
theorem deeds_of_refused {host : Host} {world : Surroundings} {color : Bool} {invocation : Invocation}
    {refusal : Settings.SettingsRefusal} (hdirectory : host.directory = none)
    (h : (settingsFor world invocation).result = .error refusal) :
    (carryOut host world color invocation).deeds
      = [.readSettings (settingsFor world invocation).journal,
        .note ((Failure.settings refusal).journal color)] := by
  rw [carryOut_eq hdirectory, h]
  rfl

/-! ## The program -/

/-- Every session of the program watches what was opened for it, and keeps to times that are more than
nothing.  The timeout is read from the text that the command line gives, or else from that of the
environment, or else it is the one of the settings; the other times are those of the settings.
Settings with a time of nothing are refused, whatever the command line gives, and keys that mean
nothing are warned about by name before that. -/
theorem session_timing {world : Surroundings} {args : List Text} {invocation : Invocation}
    (hargs : CommandLine.read world.environment args = .ok invocation) (host : Host) :
    let color := invocation.color == .always
    let loaded := Settings.load world.files (world.files.home.getD []) invocation.configFile
    let file := Settings.fileFor (world.files.home.getD []) invocation.configFile
    let work := carryOut host world color invocation
    (∃ s call, Level.scan CommandLine.programRules .start args = .ok (s, some call)
        ∧ ∀ o, Deed.watch o ∈ work.deeds → ∃ settings timing feed, loaded.result = .ok settings
          ∧ Opens world settings invocation.command feed
          ∧ KeepsTo settings ((CommandLine.timeoutText call.args).or
            (List.lookup CommandLine.timeoutVariable world.environment)) timing
          ∧ o = Session.run timing (.fresh world.refusal) feed)
      ∧ ∀ tree settings key,
        Settings.assemble world.files file invocation.configFile.isSome = .ok tree →
        Settings.read tree = .ok settings → ZeroSpan settings key →
        loaded.result = .error ⟨file, .zeroSpan key⟩
          ∧ (host.directory = none → work.deeds
            = [.readSettings (if (Settings.strangers tree).isEmpty then []
                else [Settings.warning file (Settings.strangers tree)]),
              .note ((Failure.settings ⟨file, .zeroSpan key⟩).journal color)])
          ∧ Settings.Warns file (Settings.strangers tree)
            (Settings.warning file (Settings.strangers tree)) := by
  intro color loaded file work
  constructor
  · obtain ⟨s, call, hscan, hgiven⟩ := CommandLine.timeout_of_read hargs
    refine ⟨s, call, hscan, fun o ho => ?_⟩
    obtain ⟨settings, feed, hsettings, hopens, hrun⟩ := watch_mem_carryOut ho
    exact ⟨settings, _, feed, hsettings, hopens, keepsTo_timingFor hsettings hgiven, hrun⟩
  · intro tree settings key htree hread hzero
    have hrefused : loaded.result = .error ⟨file, .zeroSpan key⟩ := load_of_zeroSpan htree hread hzero
    refine ⟨hrefused, fun hdirectory => ?_, Settings.warns_warning _ _⟩
    rw [← (Settings.noted_load htree hread).2]
    exact deeds_of_refused hdirectory hrefused

/-- Surroundings with a log `l` and a file with settings `c.toml`, in which the timeout and the interval
are nothing, if not at first sight. -/
def idle : Surroundings where
  environment := []
  files := ⟨none, [(["l".toList], .file (encode "t.c:1:a:PASS\n".toList) false),
    (["c.toml".toList], .file (encode ("[monitor]\ntimeout = \"0h 0ms\"\n".toList
      ++ "poll-interval = \"0.0s\"\ncolor = 1\n".toList)) false)]⟩
  launch := fun _ _ => .error Fault.missing
  refusal := none

/-- The least timeout is kept to.  Where the file is asked for it does not help, and it is the timeout
of the file that is named. -/
theorem session_timing_idle :
    let kept : Invocation := ⟨true, .auto, none, .replay "l".toList (some ⟨1⟩)⟩
    let refused : Invocation :=
      ⟨false, .auto, some "c.toml".toList, .replay "l".toList (some (.ofSeconds 5))⟩
    CommandLine.read idle.environment (["replay", "l", "-vt1ns"].map String.toList) = .ok kept
      ∧ (∃ o settings timing feed, Deed.watch o ∈ (carryOut .ordinary idle false kept).deeds
        ∧ Opens idle settings kept.command feed ∧ KeepsTo settings (some "1ns".toList) timing
        ∧ o = Session.run timing (.fresh none) feed)
      ∧ CommandLine.read idle.environment
        (["--config-file", "c.toml", "replay", "l", "-t", "5"].map String.toList) = .ok refused
      ∧ (carryOut .ordinary idle false refused).deeds
        = [.readSettings [Settings.warning "c.toml".toList ["monitor.color".toList]],
          .note ((Failure.settings ⟨"c.toml".toList, .zeroSpan "monitor.timeout".toList⟩).journal
            false)]
      ∧ Settings.Warns "c.toml".toList ["monitor.color".toList]
        (Settings.warning "c.toml".toList ["monitor.color".toList]) := by
  intro kept refused
  have hkept : CommandLine.read idle.environment (["replay", "l", "-vt1ns"].map String.toList)
      = .ok kept := toOption_eq_some.1 (by decide +kernel)
  have hrefused : CommandLine.read idle.environment
      (["--config-file", "c.toml", "replay", "l", "-t", "5"].map String.toList) = .ok refused :=
    toOption_eq_some.1 (by decide +kernel)
  refine ⟨hkept, ?_, hrefused, ?_⟩
  · obtain ⟨⟨s, call, hscan, hwatched⟩, -⟩ := session_timing hkept .ordinary
    have hcall : call = ⟨"replay".toList, ["l".toList, "-vt1ns".toList]⟩ := by
      obtain ⟨-, hcall⟩ := Prod.mk.inj (Except.ok.inj hscan)
      exact (Option.some.inj hcall).symm
    have hwatch : ∃ o, Deed.watch o ∈ (carryOut .ordinary idle false kept).deeds := by
      have hsettings : (settingsFor idle kept).result = .ok .default :=
        toOption_eq_some.1 (by decide +kernel)
      rw [carryOut_eq rfl, hsettings]
      exact ⟨_, .tail _ (.tail _ (watch_mem_watch_iff.2 rfl))⟩
    obtain ⟨o, ho⟩ := hwatch
    obtain ⟨settings, timing, feed, -, hopens, hkeeps, hrun⟩ := hwatched o ho
    subst hcall
    exact ⟨o, settings, timing, feed, ho, hopens, hkeeps, hrun⟩
  · obtain ⟨-, hzero⟩ := session_timing hrefused .ordinary
    have htrees : ((Settings.assemble idle.files "c.toml".toList true).toOption.bind fun tree =>
        (Settings.read tree).toOption.map fun settings => (settings, Settings.strangers tree))
          = some (⟨⟨⟨0⟩, ⟨0⟩, .ofMillis 500⟩, "/dev/ttyUSB0".toList, 115200, "esptool.py".toList⟩,
            ["monitor.color".toList]) := by
      decide +kernel
    obtain ⟨tree, htree, hread⟩ := Option.bind_eq_some_iff.1 htrees
    obtain ⟨settings, hread, hfound⟩ := Option.map_eq_some_iff.1 hread
    obtain ⟨rfl, hstrangers⟩ := Prod.mk.inj hfound
    obtain ⟨-, hdeeds, hwarns⟩ := hzero tree _ _ (toOption_eq_some.1 htree)
      (toOption_eq_some.1 hread) (.timeout rfl)
    rw [hstrangers] at hdeeds hwarns
    exact ⟨hdeeds rfl, hwarns⟩

end Program

end TestWatch
