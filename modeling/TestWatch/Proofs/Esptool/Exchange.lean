import TestWatch.Proofs.Release.Naming

/-!
# Loading an image, call by call

Loading an image is an exchange with esptool.  It is asked for its release, and if the answer names
one, it is asked to load the image in the words of that release.

* What is asked for is not always what is made.  Every call is announced in the journal before its
  program is started, and counts as made only if that succeeds (`Run.Asks`).
* `Asking` and `Loading` list what either call can come to, and `Course` puts them together.
  `course_load` says that the load of an image that exists takes one of these ways; which one is
  settled by what esptool does (`Asking.unique`, `Loading.unique`).
* What esptool does in any other call is without consequence (`load_congr`).

`exchange_load` says with these what is asked for, when, in which words, and how each failure is
named.
-/

namespace TestWatch

open Text

namespace Esptool

/-! ## Calls asked for and calls made -/

/-- What is noted of a call before its program is started. -/
def announcement (tool : Text) (args : List Text) : Entry :=
  entry .trace ("executing command: ".toList ++ shellCommand (tool :: args))

/-- Whether a program can be started with some arguments. -/
def starts (launch : Launcher) (tool : Text) (args : List Text) : Bool := (launch tool args).isOk

/-- The calls that are asked for in a run: each of them is announced, in order, and those whose
program can be started are made. -/
structure Run.Asks {ε α : Type} (run : Run ε α) (launch : Launcher) (tool : Text)
    (asked : List (List Text)) : Prop where
  /-- The most detailed entries of the journal announce the calls, and nothing else. -/
  announced : run.journal.filter (·.level = .trace) = asked.map (announcement tool)
  /-- A call is made if its program can be started. -/
  made : run.calls = asked.filter (starts launch tool)

/-- A call is asked for alone, and whatever its program does, it is a result. -/
theorem call_spec (launch : Launcher) (tool : Text) (args : List Text) :
    (call launch tool args).result
        = (launch tool args).mapError (.exec (shellCommand (tool :: args)))
      ∧ (call launch tool args).Asks launch tool [args] := by
  unfold call
  cases h : launch tool args with
  | error fault => exact ⟨rfl, rfl, by simp [starts, h, Except.isOk, Except.toBool]⟩
  | ok finished => exact ⟨rfl, rfl, by simp [starts, h, Except.isOk, Except.toBool]⟩

/-- Asking for the release is one call. -/
theorem asks_release (launch : Launcher) (tool : Text) :
    (Esptool.release launch tool).Asks launch tool [releaseArgs] :=
  let asks := (call_spec launch tool releaseArgs).2
  ⟨asks.announced, asks.made⟩

/-- Loading with a known release is one call, whatever else is noted about it. -/
theorem asks_loadWith (launch : Launcher) (tool : Text) (l : Load) (release : Release) :
    (loadWith launch tool l release).Asks launch tool [l.args release] := by
  have asks := (call_spec launch tool (l.args release)).2
  have hannounced := asks.announced
  unfold loadWith
  dsimp only
  split
  · exact ⟨by simpa [entry] using hannounced, asks.made⟩
  · split
    · exact ⟨by simpa [entry] using hannounced, asks.made⟩
    · exact ⟨by simpa [entry] using hannounced, asks.made⟩

/-! ## The two steps -/

theorem isGood_iff {ending : Ending} : ending.isGood = true ↔ ending = .status 0 := by
  simp [Ending.isGood]

/-- The output of a call that ended well names a release. -/
def Names (launch : Launcher) (tool : Text) (release : Release) : Prop :=
  ∃ finished, launch tool releaseArgs = .ok finished ∧ finished.ending = .status 0
    ∧ Release.last? (decodeMarking finished.output) = some release

/-- What the question for the release can come to. -/
inductive Asking (launch : Launcher) (tool : Text) : Except ReleaseError Release → Prop
  /-- esptool cannot be started. -/
  | unstarted {fault : Fault} (h : launch tool releaseArgs = .error fault) :
    Asking launch tool (.error (.call (.exec (shellCommand (tool :: releaseArgs)) fault)))
  /-- esptool does not end well. -/
  | failed {finished : Finished} (h : launch tool releaseArgs = .ok finished)
    (hending : finished.ending ≠ .status 0) :
    Asking launch tool (.error (.call (failure tool releaseArgs finished)))
  /-- Its output names no release. -/
  | nameless {finished : Finished} (h : launch tool releaseArgs = .ok finished)
    (hending : finished.ending = .status 0)
    (hnone : Release.last? (decodeMarking finished.output) = none) :
    Asking launch tool (.error (.noRelease (shellCommand (tool :: releaseArgs))
      (decodeMarking finished.output)))
  /-- Its output names a release. -/
  | named {release : Release} (h : Names launch tool release) : Asking launch tool (.ok release)

/-- What the load itself can come to. -/
inductive Loading (launch : Launcher) (tool : Text) (args : List Text) : Except LoadError Unit → Prop
  /-- esptool cannot be started. -/
  | unstarted {fault : Fault} (h : launch tool args = .error fault) :
    Loading launch tool args (.error (.call (.exec (shellCommand (tool :: args)) fault)))
  /-- esptool does not end well. -/
  | failed {finished : Finished} (h : launch tool args = .ok finished)
    (hending : finished.ending ≠ .status 0) :
    Loading launch tool args (.error (.call (failure tool args finished)))
  /-- esptool ends well. -/
  | loaded {finished : Finished} (h : launch tool args = .ok finished)
    (hending : finished.ending = .status 0) : Loading launch tool args (.ok ())

theorem asking_release (launch : Launcher) (tool : Text) :
    Asking launch tool (Esptool.release launch tool).result := by
  unfold Esptool.release
  dsimp only
  rw [(call_spec launch tool releaseArgs).1]
  cases hcall : launch tool releaseArgs with
  | error fault => exact .unstarted hcall
  | ok finished =>
    simp only [Except.mapError, releaseIn]
    by_cases hending : finished.ending = .status 0
    · rw [if_pos (isGood_iff.2 hending)]
      cases hname : Release.last? (decodeMarking finished.output) with
      | none => exact .nameless hcall hending hname
      | some release => exact .named ⟨finished, hcall, hending, hname⟩
    · rw [if_neg (mt isGood_iff.1 hending)]
      exact .failed hcall hending

theorem loading_loadWith (launch : Launcher) (tool : Text) (l : Load) (release : Release) :
    Loading launch tool (l.args release) (loadWith launch tool l release).result := by
  unfold loadWith
  dsimp only
  rw [(call_spec launch tool (l.args release)).1]
  cases hcall : launch tool (l.args release) with
  | error fault => exact .unstarted hcall
  | ok finished =>
    simp only [Except.mapError]
    by_cases hending : finished.ending = .status 0
    · rw [if_pos (isGood_iff.2 hending)]
      exact .loaded hcall hending
    · rw [if_neg (mt isGood_iff.1 hending)]
      exact .failed hcall hending

/-- What the question comes to is settled by what esptool does. -/
theorem Asking.unique {launch : Launcher} {tool : Text} {answer answer' : Except ReleaseError Release}
    (h : Asking launch tool answer) (h' : Asking launch tool answer') : answer = answer' := by
  -- either both are about the same call, or it was started for the one and not for the other
  cases h with
  | unstarted hcall =>
    cases h' with
    | unstarted hcall' => simp_all
    | failed hcall' | nameless hcall' => simp [hcall] at hcall'
    | named hname => simp [Names, hcall] at hname
  | failed hcall hbad =>
    cases h' with
    | unstarted hcall' => simp [hcall] at hcall'
    | failed hcall' => simp_all
    | nameless hcall' hgood => simp_all
    | named hname => simp [Names, hcall, hbad] at hname
  | nameless hcall hgood hnone =>
    cases h' with
    | unstarted hcall' => simp [hcall] at hcall'
    | failed hcall' hbad => simp_all
    | nameless hcall' => simp_all
    | named hname => simp [Names, hcall, hnone] at hname
  | named hname =>
    obtain ⟨finished, hcall, hgood, hlast⟩ := hname
    cases h' with
    | unstarted hcall' => simp [hcall] at hcall'
    | failed hcall' hbad => simp_all
    | nameless hcall' _ hnone => simp_all
    | named hname' => simp_all [Names]

/-- What the load comes to is settled by what esptool does. -/
theorem Loading.unique {launch : Launcher} {tool : Text} {args : List Text}
    {result result' : Except LoadError Unit} (h : Loading launch tool args result)
    (h' : Loading launch tool args result') : result = result' := by
  cases h <;> cases h' <;> simp_all

/-! ## The exchange -/

/-- The ways in which the exchange about an image that exists can go, with the calls that are asked
for and with what it comes to. -/
inductive Course (launch : Launcher) (tool : Text) (l : Load) :
    List (List Text) → Except LoadError Unit → Prop
  /-- The release is not known, and nothing is loaded. -/
  | unknown {e : ReleaseError} (h : Asking launch tool (.error e)) :
    Course launch tool l [releaseArgs] (.error (.release e))
  /-- The release is known, and the load is tried. -/
  | known {release : Release} {result : Except LoadError Unit} (h : Names launch tool release)
    (hload : Loading launch tool (l.args release) result) :
    Course launch tool l [releaseArgs, l.args release] result

theorem Run.Asks.append {ε ε' α α' : Type} {run : Run ε α} {run' : Run ε' α'} {launch : Launcher}
    {tool : Text} {asked asked' : List (List Text)} (h : run.Asks launch tool asked)
    (h' : run'.Asks launch tool asked') (result : Except ε' α') :
    Run.Asks ⟨result, run.calls ++ run'.calls, run.journal ++ run'.journal⟩ launch tool
      (asked ++ asked') where
  announced := by
    rw [List.filter_append, h.announced, h'.announced, List.map_append]
  made := by
    rw [h.made, h'.made, List.filter_append]

theorem load_of_missing {files : Files} {l : Load} (h : files.existsAt l.image = false)
    (launch : Launcher) (tool : Text) :
    load launch files tool l = ⟨.error (.imageMissing l.image), [], []⟩ := by
  rw [load, if_neg (by simp [h])]

/-- Every load of an image that exists takes one of these ways. -/
theorem course_load {files : Files} {l : Load} (hexists : files.existsAt l.image = true)
    (launch : Launcher) (tool : Text) :
    ∃ asked, Course launch tool l asked (load launch files tool l).result
      ∧ (load launch files tool l).Asks launch tool asked := by
  have hasking := asking_release launch tool
  have hasks := asks_release launch tool
  rw [load, if_pos hexists]
  dsimp only
  cases hrelease : (Esptool.release launch tool).result with
  | error e =>
    rw [hrelease] at hasking
    exact ⟨_, .unknown hasking, hasks.announced, hasks.made⟩
  | ok release =>
    rw [hrelease] at hasking
    cases hasking with
    | named hname =>
      exact ⟨_, .known hname (loading_loadWith launch tool l release),
        hasks.append (asks_loadWith launch tool l release) _⟩

/-- A load depends on nothing but what esptool does when it is asked for its release, and when it is
asked to load the image in the words of the release that it names. -/
theorem load_congr {launch launch' : Launcher} {tool : Text} {l : Load}
    (hrelease : launch' tool releaseArgs = launch tool releaseArgs)
    (hload : ∀ release, Names launch tool release →
      launch' tool (l.args release) = launch tool (l.args release)) (files : Files) :
    load launch' files tool l = load launch files tool l := by
  have hsame : Esptool.release launch' tool = Esptool.release launch tool := by
    simp only [Esptool.release, call, hrelease]
  have hasking := asking_release launch tool
  simp only [load, hsame]
  cases hresult : (Esptool.release launch tool).result with
  | error e => rfl
  | ok release =>
    rw [hresult] at hasking
    cases hasking with
    | named hname => simp only [loadWith, call, hload release hname]

/-! ## What is asked for, and when -/

/-- A text names a release if one of its words does. -/
theorem last?_eq_none_iff {s : Text} :
    Release.last? s = none ↔ ∀ word ∈ words s, Release.ofToken? word = none := by
  simp [Release.last?]

/-- A release is named by a call that ended well and whose output has a word that names one. -/
theorem exists_names_iff {launch : Launcher} {tool : Text} :
    (∃ release, Names launch tool release) ↔ ∃ finished, launch tool releaseArgs = .ok finished
      ∧ finished.ending = .status 0
      ∧ ∃ word ∈ words (decodeMarking finished.output), (Release.ofToken? word).isSome := by
  have hword : ∀ s : Text, (∃ release, Release.last? s = some release)
      ↔ ∃ word ∈ words s, (Release.ofToken? word).isSome := by
    intro s
    rw [← Option.isSome_iff_exists, ← Option.ne_none_iff_isSome, ne_eq, last?_eq_none_iff]
    simp [Option.isSome_iff_ne_none]
  constructor
  · rintro ⟨release, finished, hcall, hending, hlast⟩
    exact ⟨finished, hcall, hending, (hword _).1 ⟨release, hlast⟩⟩
  · rintro ⟨finished, hcall, hending, h⟩
    obtain ⟨release, hlast⟩ := (hword _).2 h
    exact ⟨release, finished, hcall, hending, hlast⟩

namespace Course

variable {launch : Launcher} {tool : Text} {l : Load} {asked : List (List Text)}
  {result : Except LoadError Unit}

theorem first (h : Course launch tool l asked result) : asked[0]? = some releaseArgs := by
  cases h <;> rfl

theorem length_le (h : Course launch tool l asked result) : asked.length ≤ 2 := by
  cases h
  · exact Nat.le_succ 1
  · exact Nat.le_refl 2

/-- There is a second call exactly if a release is named. -/
theorem second_iff (h : Course launch tool l asked result) :
    (∃ args, asked[1]? = some args) ↔ ∃ release, Names launch tool release := by
  cases h with
  | unknown hasking =>
    simp only [List.getElem?_cons_succ, List.getElem?_nil, reduceCtorEq, exists_false, false_iff]
    rintro ⟨release, hname⟩
    cases hasking.unique (.named hname)
  | known hname hload => exact iff_of_true ⟨_, rfl⟩ ⟨_, hname⟩

/-- The second call is the load, with the release that was named. -/
theorem second (h : Course launch tool l asked result) {args : List Text}
    (hargs : asked[1]? = some args) :
    Loading launch tool args result ∧ ∃ release, Names launch tool release ∧ args = l.args release := by
  cases h with
  | unknown hasking => simp at hargs
  | known hname hload =>
    obtain rfl : l.args _ = args := by simpa using hargs
    exact ⟨hload, _, hname, rfl⟩

/-- A load succeeds exactly if there are two calls and both end well. -/
theorem ok_iff (h : Course launch tool l asked result) :
    result = .ok () ↔ asked.length = 2
      ∧ ∀ args ∈ asked, ∃ finished, launch tool args = .ok finished ∧ finished.ending = .status 0 := by
  cases h with
  | unknown hasking => simp
  | @known release _ hname hload =>
    obtain ⟨first, hfirst, hgood, -⟩ := hname
    simp only [List.length_cons, List.length_nil, Nat.zero_add, true_and, List.mem_cons,
      List.not_mem_nil, or_false, forall_eq_or_imp, forall_eq]
    cases hload with
    | unstarted hcall => simp [hcall]
    | failed hcall hbad => simp [hcall, hbad]
    | loaded hcall hgood' => exact iff_of_true rfl ⟨⟨first, hfirst, hgood⟩, _, hcall, hgood'⟩

/-- What the question comes to if it gives no release is what the load comes to. -/
theorem of_asking (h : Course launch tool l asked result) {e : ReleaseError}
    (hasking : Asking launch tool (.error e)) : result = .error (.release e) := by
  cases h with
  | unknown hasking' => rw [Except.error.inj (hasking'.unique hasking)]
  | known hname hload => cases hasking.unique (.named hname)

/-- Nothing is loaded after the release could not be found out. -/
theorem asked_of_error {e : ReleaseError} (h : Course launch tool l asked result)
    (hresult : result = .error (.release e)) : asked = [releaseArgs] := by
  cases h with
  | unknown hasking => rfl
  | known hname hload => cases hload <;> cases hresult

end Course

/-! ## All together -/

/-- How a load is conducted in which some calls are asked for. -/
structure Conduct (launch : Launcher) (files : Files) (tool : Text) (l : Load)
    (asked : List (List Text)) : Prop where
  /-- These calls are announced, and made if esptool can be started. -/
  asks : (load launch files tool l).Asks launch tool asked
  /-- What esptool does in any other call is without consequence. -/
  alone : ∀ launch' : Launcher, (∀ args ∈ asked, launch' tool args = launch tool args) →
    load launch' files tool l = load launch files tool l
  /-- For an image that does not exist nothing is asked for. -/
  missing : files.existsAt l.image = false →
    asked = [] ∧ (load launch files tool l).result = .error (.imageMissing l.image)
  /-- Otherwise esptool is asked for its release first. -/
  first : files.existsAt l.image = true → asked[0]? = some ["version".toList]
  /-- There is a second call exactly if the first one could be started and ended well, and its output
  has a word that names a release. -/
  second_iff : (∃ args, asked[1]? = some args) ↔ files.existsAt l.image = true
    ∧ ∃ finished, launch tool ["version".toList] = .ok finished ∧ finished.ending = .status 0
      ∧ ∃ word ∈ words (decodeMarking finished.output), (Release.ofToken? word).isSome
  /-- It asks for the load, in the words of the release that is named last. -/
  second : ∀ args, asked[1]? = some args → ∃ finished release,
    launch tool ["version".toList] = .ok finished
      ∧ Release.last? (decodeMarking finished.output) = some release
      ∧ args = ["--chip".toList, l.chip, "--port".toList, l.port, "--baud".toList, decimal l.rate,
        if 5 ≤ release.major then "load-ram".toList else "load_ram".toList, l.image]
  /-- There is no third call. -/
  length_le : asked.length ≤ 2
  /-- The image is loaded exactly if both calls were asked for and ended well. -/
  ok_iff : (load launch files tool l).result = .ok () ↔ asked.length = 2
    ∧ ∀ args ∈ asked, ∃ finished, launch tool args = .ok finished ∧ finished.ending = .status 0
  /-- An esptool that cannot be started for the first call is named as that. -/
  unstarted : files.existsAt l.image = true → ∀ fault, launch tool ["version".toList] = .error fault →
    (load launch files tool l).result
      = .error (.release (.call (.exec (shellCommand [tool, "version".toList]) fault)))
  /-- A first call that does not end well is named as that, with its error output. -/
  unanswered : files.existsAt l.image = true → ∀ finished,
    launch tool ["version".toList] = .ok finished → finished.ending ≠ .status 0 →
    (load launch files tool l).result
      = .error (.release (.call (.failed (shellCommand [tool, "version".toList]) finished.ending
        (decodeMarking finished.errors))))
  /-- An output without a release is named as that. -/
  nameless : files.existsAt l.image = true → ∀ finished,
    launch tool ["version".toList] = .ok finished → finished.ending = .status 0 →
    (∀ word ∈ words (decodeMarking finished.output), Release.ofToken? word = none) →
    (load launch files tool l).result
      = .error (.release (.noRelease (shellCommand [tool, "version".toList])
        (decodeMarking finished.output)))
  /-- An esptool that cannot be started for the load is named as that. -/
  load_unstarted : ∀ args, asked[1]? = some args → ∀ fault, launch tool args = .error fault →
    (load launch files tool l).result
      = .error (.call (.exec (shellCommand (tool :: args)) fault))
  /-- A load that does not end well is named as that, with its error output. -/
  load_failed : ∀ args, asked[1]? = some args → ∀ finished, launch tool args = .ok finished →
    finished.ending ≠ .status 0 → (load launch files tool l).result
      = .error (.call (.failed (shellCommand (tool :: args)) finished.ending
        (decodeMarking finished.errors)))
  /-- After a release that could not be found out the load is not asked for. -/
  unknown : ∀ e, (load launch files tool l).result = .error (.release e) →
    asked = [["version".toList]]

section Conduct

variable {launch : Launcher} {files : Files} {tool : Text} {l : Load} {asked : List (List Text)}

theorem conduct_of_missing (h : files.existsAt l.image = false) (launch : Launcher) (tool : Text) :
    Conduct launch files tool l [] where
  asks := by
    rw [load_of_missing h]
    exact ⟨rfl, rfl⟩
  alone _ _ := by rw [load_of_missing h, load_of_missing h]
  missing _ := by
    rw [load_of_missing h]
    exact ⟨rfl, rfl⟩
  first hexists := by simp [h] at hexists
  second_iff := by simp [h]
  second _ hargs := by simp at hargs
  length_le := Nat.zero_le 2
  ok_iff := by simp [load_of_missing h]
  unstarted hexists := by simp [h] at hexists
  unanswered hexists := by simp [h] at hexists
  nameless hexists := by simp [h] at hexists
  load_unstarted _ hargs := by simp at hargs
  load_failed _ hargs := by simp at hargs
  unknown e he := by simp [load_of_missing h] at he

/-- A load of an image that exists is conducted in one of the ways of its exchange. -/
theorem conduct_of_course (hexists : files.existsAt l.image = true)
    (hcourse : Course launch tool l asked (load launch files tool l).result)
    (hasks : (load launch files tool l).Asks launch tool asked) :
    Conduct launch files tool l asked where
  asks := hasks
  alone launch' hsame := by
    have hfirst : releaseArgs ∈ asked := List.mem_of_getElem? hcourse.first
    refine load_congr (hsame _ hfirst) (fun release hname => hsame _ ?_) files
    obtain ⟨args, hargs⟩ := hcourse.second_iff.2 ⟨release, hname⟩
    obtain ⟨-, release', hname', rfl⟩ := hcourse.second hargs
    obtain rfl : release = release' := by
      have := (Asking.named hname).unique (.named hname')
      simpa using this
    exact List.mem_of_getElem? hargs
  missing h := by simp [hexists] at h
  first _ := hcourse.first
  second_iff := by
    rw [hcourse.second_iff, exists_names_iff, and_iff_right hexists]
    rfl
  second args hargs := by
    obtain ⟨-, release, ⟨finished, hcall, -, hlast⟩, rfl⟩ := hcourse.second hargs
    refine ⟨finished, release, hcall, hlast, ?_⟩
    rw [← Release.loadCommand_eq]
    rfl
  length_le := hcourse.length_le
  ok_iff := hcourse.ok_iff
  unstarted _ fault hcall := hcourse.of_asking (.unstarted hcall)
  unanswered _ finished hcall hending := hcourse.of_asking (.failed hcall hending)
  nameless _ finished hcall hending hwords :=
    hcourse.of_asking (.nameless hcall hending (last?_eq_none_iff.2 hwords))
  load_unstarted args hargs fault hcall :=
    (hcourse.second hargs).1.unique (.unstarted hcall)
  load_failed args hargs finished hcall hending :=
    (hcourse.second hargs).1.unique (.failed hcall hending)
  unknown _ he := hcourse.asked_of_error he

/-- **A load is at most two calls.**  For an image that does not exist nothing is asked for.  Otherwise
esptool is asked for its release, and if it can be started, ends well and names a release, it is asked
once more, to load the image in the words of that release.  The load succeeds exactly if both calls
were asked for and ended well, and every failure is named after the call that failed and how. -/
theorem exchange_load (launch : Launcher) (files : Files) (tool : Text) (l : Load) :
    ∃ asked, Conduct launch files tool l asked := by
  cases hexists : files.existsAt l.image with
  | false => exact ⟨[], conduct_of_missing hexists launch tool⟩
  | true =>
    obtain ⟨asked, hcourse, hasks⟩ := course_load hexists launch tool
    exact ⟨asked, conduct_of_course hexists hcourse hasks⟩

end Conduct

/-- An esptool that names its release between octets that are no text, and is gone when it is asked to
load the image. -/
def vanishing : Launcher := fun _ args =>
  if args = ["version".toList] then .ok ⟨.status 0, 0xFF :: encode " v4.8 \n".toList, []⟩
  else .error .missing

/-- Both calls are asked for, only the first one is made, and the second one is named. -/
theorem exchange_load_vanishing :
    let files : Files := ⟨none, [(["a b".toList], .file [] false)]⟩
    let l : Load := ⟨"esp32".toList, "/dev/tty 0".toList, 115200, "a b".toList⟩
    let second := ["--chip", "esp32", "--port", "/dev/tty 0", "--baud", "115200", "load_ram", "a b"]
    ∃ asked, Conduct vanishing files "esptool".toList l asked
      ∧ asked = [["version".toList], second.map String.toList]
      ∧ (load vanishing files "esptool".toList l).calls = [["version".toList]]
      ∧ (load vanishing files "esptool".toList l).result = .error (.call (.exec
        "esptool --chip esp32 --port '/dev/tty 0' --baud 115200 load_ram 'a b'".toList .missing)) := by
  intro files l second
  obtain ⟨asked, h⟩ := exchange_load vanishing files "esptool".toList l
  have hexists : files.existsAt l.image = true := by decide +kernel
  have hcall : vanishing "esptool".toList ["version".toList]
      = .ok ⟨.status 0, 0xFF :: encode " v4.8 \n".toList, []⟩ := rfl
  have hlast : Release.last? (decodeMarking (0xFF :: encode " v4.8 \n".toList))
      = some (.plain 4 8 0) := by decide +kernel
  have hsecond : asked[1]? = some (second.map String.toList) := by
    obtain ⟨args, hargs⟩ := h.second_iff.2 ⟨hexists, _, hcall, rfl, by decide +kernel⟩
    obtain ⟨finished, release, hcall', hlast', rfl⟩ := h.second args hargs
    obtain rfl := Except.ok.inj (hcall.symm.trans hcall')
    obtain rfl := Option.some.inj (hlast.symm.trans hlast')
    exact hargs.trans (by decide +kernel)
  have hasked : asked = [["version".toList], second.map String.toList] :=
    List.ext_getElem? fun i => by
      match i with
      | 0 => exact h.first hexists
      | 1 => exact hsecond
      | i + 2 => exact List.getElem?_eq_none (h.length_le.trans (Nat.le_add_left 2 i))
  refine ⟨asked, h, hasked, ?_, ?_⟩
  · rw [h.asks.made, hasked]
    decide +kernel
  · exact h.load_unstarted _ hsecond .missing rfl

end Esptool

end TestWatch
