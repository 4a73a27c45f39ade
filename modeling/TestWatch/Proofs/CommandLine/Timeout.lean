import TestWatch.CommandLine
import TestWatch.Proofs.Failing

/-!
# The timeout of a command line

Which text is given as the timeout can be told from the arguments alone, without reading any value
(`timeoutText`).  A scan that succeeds has read that text and no other: every argument that it takes in
adds to what it knows of the timeout just what the argument says (`Took`), and what it knows at the end
is what it knew at the beginning together with what the arguments say (`known_scan`).

`timeout_of_read` adds the environment, which counts if the arguments say nothing.
-/

namespace TestWatch

open Text

namespace CommandLine

/-! ## Where the timeout stands -/

/-- What letters after one hyphen say of the timeout: nothing, or that it is given, with its value if
there is one among them. -/
def lettersTimeout : Text → Option (Option Text)
  | [] => none
  | c :: rest =>
    if c = 'v' then lettersTimeout rest
    else if c = 't' then some (if rest.isEmpty then none else some ((dropFront? ['='] rest).getD rest))
    else none

/-- What an argument says of the timeout. -/
def wordTimeout : Text → Option (Option Text)
  | '-' :: '-' :: body =>
    if ((cutAt '=' body).map Prod.fst).getD body = "timeout".toList then
      some ((cutAt '=' body).map Prod.snd)
    else none
  | '-' :: letters => lettersTimeout letters
  | _ => none

/-- The text that arguments give as the timeout.  What comes after two hyphens is no option. -/
def timeoutText : List Text → Option Text
  | [] => none
  | arg :: rest =>
    if arg = ['-', '-'] then none
    else match wordTimeout arg with
      | some value => value.or rest.head?
      | none => timeoutText rest

/-- The variable that stands in for the timeout. -/
def timeoutVariable : Text := "ESP_RAM_TEST_TIMEOUT".toList

end CommandLine

open CommandLine

namespace Level

variable {s s' s'' : Scan} {opt : Opt} {value : Text}

/-! ## What a scan knows -/

/-- The argument that gives the timeout. -/
def timeoutIn (args : List Argument) : Option Argument := args.find? fun arg => arg.opt == .timeout

/-- What is held back of the timeout. -/
def Pending.timeout? (p : Pending) : Option Text := if p.opt = .timeout then p.value else none

/-- What a scan knows of the timeout: what it has read, and what it holds back. -/
def Scan.known (s : Scan) : Option (Except UsageError Argument) :=
  ((timeoutIn s.given).map .ok).or ((s.pending.bind Pending.timeout?).map Opt.timeout.read)

theorem known_of_settled (h : s.pending = none) : s.known = (timeoutIn s.given).map .ok := by
  rw [Scan.known, h, Option.bind_none, Option.map_none, Option.or_none]

theorem timeoutIn_append (a b : List Argument) :
    timeoutIn (a ++ b) = (timeoutIn a).or (timeoutIn b) := List.find?_append

/-- Reading an option yields the timeout if it is the timeout that is read. -/
theorem timeoutIn_read {arg : Argument} (h : opt.read value = .ok arg) :
    (timeoutIn [arg]).map Except.ok = if opt = .timeout then some (Opt.timeout.read value) else none := by
  have hopt : arg.opt = opt := opt_of_read h
  by_cases htimeout : opt = .timeout
  · subst htimeout
    rw [if_pos rfl, h, timeoutIn, List.find?_cons_of_pos (by simp [hopt])]
    rfl
  · rw [if_neg htimeout, timeoutIn, List.find?_cons_of_neg (by simp [hopt, htimeout])]
    rfl

theorem known_accept (hpending : s.pending = none) (h : s.accept opt value = .ok s') :
    s'.known = s.known.or (if opt = .timeout then some (Opt.timeout.read value) else none)
      ∧ s'.pending = none ∧ s'.operandsOnly = s.operandsOnly := by
  unfold Scan.accept at h
  split at h
  · cases h
  · cases hread : opt.read value with
    | error e => rw [hread] at h; cases h
    | ok arg =>
      rw [hread] at h
      obtain rfl := Except.ok.inj h
      have hgiven : ({ s with given := s.given ++ [arg] } : Scan).known
          = (timeoutIn (s.given ++ [arg])).map .ok := known_of_settled hpending
      refine ⟨hgiven.trans ?_, hpending, rfl⟩
      rw [known_of_settled hpending, timeoutIn_append, ← timeoutIn_read hread]
      cases timeoutIn s.given <;> rfl

/-- Taking in what is held back changes nothing in what is known. -/
theorem known_settle (h : s.settle = .ok s') :
    s'.known = s.known ∧ s'.pending = none ∧ s'.operandsOnly = s.operandsOnly ∧ s.awaits = false := by
  unfold Scan.settle at h
  split at h
  · rename_i hpending
    obtain rfl := Except.ok.inj h
    exact ⟨rfl, hpending, rfl, by simp [Scan.awaits, hpending]⟩
  · cases h
  · rename_i opt value hpending
    obtain ⟨hknown, hnone, honly⟩ := known_accept rfl h
    refine ⟨?_, hnone, honly, by simp [Scan.awaits, hpending]⟩
    rw [hknown, known_of_settled rfl, Scan.known, hpending]
    by_cases hopt : opt = .timeout <;> simp [Pending.timeout?, hopt]

/-! ## Taking an argument in -/

/-- A scan has taken in an argument that says something of the timeout. -/
structure Took (s s' : Scan) (said : Option (Option Text)) : Prop where
  /-- The value that the argument holds is known, if nothing was known before. -/
  known : s'.known = s.known.or (said.join.map Opt.timeout.read)
  /-- Options can still come if they could before. -/
  operandsOnly : s'.operandsOnly = s.operandsOnly
  /-- What waits for its value is the option that the argument names. -/
  waiting : ∀ opt, s'.pending = some ⟨opt, none⟩ → said = if opt = .timeout then some none else none
  /-- If nothing waits, the value has come with the name. -/
  ready : s'.awaits = false → said ≠ some none

theorem took_hold {v : Option Text} (h : s.hold opt v = .ok s') :
    Took s s' (if opt = .timeout then some v else none) ∧ (∀ v', v = some v' → s'.awaits = false) := by
  unfold Scan.hold at h
  cases hsettle : s.settle with
  | error e => rw [hsettle] at h; cases h
  | ok s₀ =>
    rw [hsettle] at h
    obtain rfl := Except.ok.inj h
    obtain ⟨hknown, hpending, honly, -⟩ := known_settle hsettle
    refine ⟨⟨?_, honly, ?_, ?_⟩, ?_⟩
    · rw [← hknown, known_of_settled hpending, Scan.known]
      by_cases hopt : opt = .timeout <;> simp [Pending.timeout?, hopt]
    · rintro other heq
      obtain ⟨rfl, rfl⟩ := Pending.mk.inj (Option.some.inj heq)
      rfl
    · intro hawaits
      cases v with
      | none => simp [Scan.awaits] at hawaits
      | some v => split <;> simp
    · rintro v' rfl
      simp [Scan.awaits]

theorem took_attach (h : s.attach opt value = .ok s') :
    Took s s' (if opt = .timeout then some (some value) else none) := by
  unfold Scan.attach at h
  cases hsettle : s.settle with
  | error e => rw [hsettle] at h; cases h
  | ok s₀ =>
    rw [hsettle] at h
    obtain ⟨hknown, hpending, honly, -⟩ := known_settle hsettle
    obtain ⟨hknown', hpending', honly'⟩ := known_accept hpending h
    refine ⟨?_, honly'.trans honly, ?_, ?_⟩
    · rw [hknown', hknown]
      split <;> rfl
    · intro other heq
      rw [hpending'] at heq
      cases heq
    · intro _
      split <;> simp

theorem took_flag (hvalue : opt.takesValue = false) (h : s.flag opt = .ok s') :
    Took s s' none ∧ s'.pending = none ∧ opt = .verbose := by
  unfold Scan.flag at h
  cases hsettle : s.settle with
  | error e => rw [hsettle] at h; cases h
  | ok s₀ =>
    rw [hsettle] at h
    obtain ⟨hknown, hpending, honly, -⟩ := known_settle hsettle
    cases opt <;> simp only [Opt.takesValue, reduceCtorEq] at hvalue
    case verbose =>
      obtain ⟨hknown', hpending', honly'⟩ := known_accept hpending h
      refine ⟨⟨?_, honly'.trans honly, ?_, by simp⟩, hpending', rfl⟩
      · rw [hknown', hknown]
        rfl
      · intro other heq
        rw [hpending'] at heq
        cases heq
    all_goals cases h

theorem Took.trans {said : Option (Option Text)} (h : Took s s' none) (h' : Took s' s'' said) :
    Took s s'' said where
  known := by rw [h'.known, h.known, Option.join_none, Option.map_none, Option.or_none]
  operandsOnly := h'.operandsOnly.trans h.operandsOnly
  waiting := h'.waiting
  ready := h'.ready

/-! ## Options by their names -/

theorem long_eq_timeout_iff : opt.long = some "timeout".toList ↔ opt = .timeout := by
  cases opt <;> decide

theorem short_eq_timeout_iff : opt.short = some 't' ↔ opt = .timeout := by
  cases opt <;> decide

theorem short_eq_verbose_iff : opt.short = some 'v' ↔ opt = .verbose := by
  cases opt <;> decide

variable {rules : Rules}

theorem took_long {body : Text} (h : takeLong rules s body = .ok s') :
    Took s s' (wordTimeout ('-' :: '-' :: body)) := by
  unfold takeLong at h
  dsimp only at h
  split at h
  · cases h
  · rename_i opt hfind
    have hlong : opt.long = some (((cutAt '=' body).map Prod.fst).getD body) := by
      simpa using List.find?_some hfind
    have hword : wordTimeout ('-' :: '-' :: body)
        = if opt = .timeout then some ((cutAt '=' body).map Prod.snd) else none := by
      rw [wordTimeout]
      simp only [← long_eq_timeout_iff, hlong, Option.some.injEq]
    rw [hword]
    split at h
    · rename_i value _ hvalue
      rw [hvalue]
      exact took_attach h
    · rename_i _ hvalue
      rw [hvalue]
      exact (took_hold h).1
    · cases h
    · rename_i htakes hvalue
      obtain ⟨htook, -, rfl⟩ := took_flag htakes h
      exact htook

theorem took_short {letters : Text} (hawaits : s.awaits = false)
    (h : takeShort rules s letters = .ok s') : Took s s' (lettersTimeout letters) := by
  induction letters generalizing s with
  | nil =>
    obtain rfl := Except.ok.inj h
    refine ⟨by simp [lettersTimeout], rfl, ?_, by simp [lettersTimeout]⟩
    intro opt heq
    simp [Scan.awaits, heq] at hawaits
  | cons c rest ih =>
    unfold takeShort at h
    split at h
    · cases h
    · rename_i opt hfind
      have hshort : opt.short = some c := by simpa using List.find?_some hfind
      split at h
      · rename_i htakes
        have hv : c ≠ 'v' := by
          rintro rfl
          rw [short_eq_verbose_iff.1 hshort] at htakes
          cases htakes
        have hletters : lettersTimeout (c :: rest) = if opt = .timeout
            then some (if rest.isEmpty then none else some ((dropFront? ['='] rest).getD rest))
            else none := by
          rw [lettersTimeout, if_neg hv]
          simp only [← short_eq_timeout_iff, hshort, Option.some.injEq]
        rw [hletters]
        split at h
        · rename_i hrest
          rw [if_pos hrest]
          exact (took_hold h).1
        · rename_i hrest
          rw [if_neg hrest]
          exact took_attach h
      · rename_i htakes
        cases hflag : s.flag opt with
        | error e => rw [hflag] at h; cases h
        | ok s₀ =>
          rw [hflag] at h
          obtain ⟨htook, hpending, rfl⟩ := took_flag (by simpa using htakes) hflag
          obtain rfl := Option.some.inj hshort
          exact htook.trans (ih (by simp [Scan.awaits, hpending]) h)

theorem took_operand {arg : Text} (hoperand : rules.operand ≠ some .timeout)
    (h : takeOperand rules s arg = .ok s') : Took s s' none ∧ s'.awaits = false := by
  unfold takeOperand at h
  split at h
  · rename_i opt hopt
    have hne : opt ≠ .timeout := fun heq => hoperand (heq ▸ hopt)
    split at h
    · cases h
    · cases hhold : s.hold opt (some arg) with
      | error e => rw [hhold] at h; cases h
      | ok s₀ =>
        rw [hhold] at h
        obtain rfl := Except.ok.inj h
        obtain ⟨htook, hawaits⟩ := took_hold hhold
        rw [if_neg hne] at htook
        exact ⟨⟨htook.known, htook.operandsOnly, htook.waiting, htook.ready⟩, hawaits arg rfl⟩
  · cases h

/-- An argument that does not look like an option says nothing. -/
theorem wordTimeout_plain {arg : Text} (hlong : ∀ body, arg = '-' :: '-' :: body → False)
    (hshort : ∀ c rest, arg = '-' :: c :: rest → False) : wordTimeout arg = none := by
  unfold wordTimeout
  split
  · rename_i body
    exact absurd rfl (hlong body)
  · rename_i letters _
    cases letters with
    | nil => rfl
    | cons c rest => exact absurd rfl (hshort c rest)
  · rfl

theorem took_argument {arg : Text} (hoperand : rules.operand ≠ some .timeout)
    (hawaits : s.awaits = false) (honly : s.operandsOnly = false) (hne : arg ≠ ['-', '-'])
    (h : takeArgument rules s arg = .ok s') : Took s s' (wordTimeout arg) := by
  unfold takeArgument at h
  rw [if_neg (by simp [honly])] at h
  split at h
  · exact absurd rfl hne
  · exact took_long h
  · rename_i c rest _ hdash
    rw [wordTimeout]
    · exact took_short hawaits h
    · exact fun body hbody => hdash (List.cons.inj hbody).1
  · rename_i _ hlong hshort
    rw [wordTimeout_plain hlong hshort]
    split at h
    · rename_i opt hpending
      simp [Scan.awaits, hpending] at hawaits
    · exact (took_operand hoperand h).1

theorem takeArgument_of_only (honly : s.operandsOnly = true) (arg : Text) :
    takeArgument rules s arg = takeOperand rules s arg := by
  unfold takeArgument
  rw [if_pos honly]

theorem takeArgument_hyphens (honly : s.operandsOnly = false) :
    takeArgument rules s ['-', '-'] = .ok { s with operandsOnly := true } := by
  unfold takeArgument
  rw [if_neg (by simp [honly])]
  rfl

/-- One argument after the other is taken in where no command can come. -/
theorem scan_cons (hcommands : rules.commands = []) (arg : Text) (rest : List Text) :
    scan rules s (arg :: rest) = (takeArgument rules s arg).bind fun s' => scan rules s' rest := by
  rw [scan, if_neg (by simp [hcommands])]
  rfl

/-! ## An option that waits for its value -/

section Waiting

variable (hpending : s.pending = some ⟨opt, none⟩)
include hpending

theorem settle_of_waiting : s.settle = .error .invalidValue := by
  rw [Scan.settle, hpending]

/-- With its value there is known what was known before, and the value if it is that of the timeout. -/
theorem known_of_value (value : Text) : ({ s with pending := some ⟨opt, some value⟩ } : Scan).known
    = s.known.or (if opt = .timeout then some (Opt.timeout.read value) else none) := by
  rw [Scan.known, Scan.known, hpending]
  by_cases hopt : opt = .timeout <;> simp [Pending.timeout?, hopt]

theorem hold_of_waiting (other : Opt) (v : Option Text) : s.hold other v = .error .invalidValue := by
  rw [Scan.hold, settle_of_waiting hpending]
  rfl

theorem attach_of_waiting (other : Opt) (v : Text) : s.attach other v = .error .invalidValue := by
  rw [Scan.attach, settle_of_waiting hpending]
  rfl

theorem flag_of_waiting (other : Opt) : s.flag other = .error .invalidValue := by
  rw [Scan.flag, settle_of_waiting hpending]
  rfl

theorem takeOperand_of_waiting (arg : Text) : takeOperand rules s arg ≠ .ok s' := by
  intro h
  unfold takeOperand at h
  split at h
  · split at h
    · cases h
    · rw [hold_of_waiting hpending] at h
      cases h
  · cases h

theorem takeLong_of_waiting (body : Text) : takeLong rules s body ≠ .ok s' := by
  intro h
  unfold takeLong at h
  dsimp only at h
  split at h
  · cases h
  · split at h
    · rw [attach_of_waiting hpending] at h
      cases h
    · rw [hold_of_waiting hpending] at h
      cases h
    · cases h
    · rw [flag_of_waiting hpending] at h
      cases h

theorem takeShort_of_waiting (c : Char) (rest : Text) : takeShort rules s (c :: rest) ≠ .ok s' := by
  intro h
  unfold takeShort at h
  split at h
  · cases h
  · split at h
    · split at h
      · rw [hold_of_waiting hpending] at h
        cases h
      · rw [attach_of_waiting hpending] at h
        cases h
    · rw [flag_of_waiting hpending] at h
      cases h

/-- While an option waits, nothing is taken in but its value, which looks like no option. -/
theorem takeArgument_of_waiting {arg : Text} (h : takeArgument rules s arg = .ok s') :
    s.operandsOnly = false
      ∧ (s' = { s with operandsOnly := true }
        ∨ arg ≠ ['-', '-'] ∧ wordTimeout arg = none
          ∧ s' = { s with pending := some ⟨opt, some arg⟩ }) := by
  unfold takeArgument at h
  split at h
  · exact absurd h (takeOperand_of_waiting hpending arg)
  · rename_i honly
    refine ⟨by simpa using honly, ?_⟩
    split at h
    · exact .inl (Except.ok.inj h).symm
    · exact absurd h (takeLong_of_waiting hpending _)
    · exact absurd h (takeShort_of_waiting hpending _ _)
    · rename_i hlone hlong hshort
      rw [hpending] at h
      exact .inr ⟨fun heq => hlone heq, wordTimeout_plain hlong hshort, (Except.ok.inj h).symm⟩

/-- A scan that succeeds goes on with the value of an option that waits for one. -/
theorem scan_of_waiting (hcommands : rules.commands = []) {args : List Text} {call : Option Call}
    (h : scan rules s args = .ok (s', call)) (hsettle : s'.settle = .ok s'') :
    ∃ value rest, args = value :: rest ∧ value ≠ ['-', '-'] ∧ wordTimeout value = none
      ∧ s.operandsOnly = false
      ∧ scan rules { s with pending := some ⟨opt, some value⟩ } rest = .ok (s', call) := by
  have hstuck : ∀ {t : Scan}, t.pending = some ⟨opt, none⟩ → scan rules t [] ≠ .ok (s', call) := by
    intro t ht h
    obtain ⟨rfl, -⟩ := Prod.mk.inj (Except.ok.inj h)
    rw [settle_of_waiting ht] at hsettle
    cases hsettle
  cases args with
  | nil => exact absurd h (hstuck hpending)
  | cons value rest =>
    rw [scan_cons hcommands] at h
    obtain ⟨s₁, htake, h⟩ := bind_eq_ok_iff.1 h
    obtain ⟨honly, rfl | ⟨hne, hword, rfl⟩⟩ := takeArgument_of_waiting hpending htake
    · -- after two hyphens nothing can be the value
      have hwaiting : ({ s with operandsOnly := true } : Scan).pending = some ⟨opt, none⟩ := hpending
      cases rest with
      | nil => exact absurd h (hstuck hwaiting)
      | cons arg rest =>
        rw [scan_cons hcommands] at h
        obtain ⟨s₂, htake, -⟩ := bind_eq_ok_iff.1 h
        cases (takeArgument_of_waiting hwaiting htake).1
    · exact ⟨value, rest, rfl, hne, hword, honly, h⟩

end Waiting

/-! ## The whole scan -/

theorem exists_waiting (h : s.awaits = true) : ∃ opt, s.pending = some ⟨opt, none⟩ := by
  unfold Scan.awaits at h
  cases hpending : s.pending with
  | none => simp [hpending] at h
  | some p =>
    obtain ⟨opt, value⟩ := p
    cases value with
    | none => exact ⟨opt, rfl⟩
    | some value => simp [hpending] at h

theorem timeoutText_cons {arg : Text} (h : arg ≠ ['-', '-']) (rest : List Text) :
    timeoutText (arg :: rest) = match wordTimeout arg with
      | some value => value.or rest.head?
      | none => timeoutText rest := by
  rw [timeoutText, if_neg h]

/-- At the end of a scan the timeout is known that was known before, or else the one that the arguments
give. -/
theorem known_scan {s : Scan} (hcommands : rules.commands = [])
    (hoperand : rules.operand ≠ some .timeout) {args : List Text} {call : Option Call}
    (hawaits : s.awaits = false) (h : scan rules s args = .ok (s', call))
    (hsettle : s'.settle = .ok s'') :
    (timeoutIn s''.given).map .ok
      = s.known.or (if s.operandsOnly then none else (timeoutText args).map Opt.timeout.read) := by
  match args with
  | [] =>
    obtain ⟨rfl, -⟩ := Prod.mk.inj (Except.ok.inj h)
    obtain ⟨hknown, hpending, -, -⟩ := known_settle hsettle
    rw [← known_of_settled hpending, hknown, timeoutText, Option.map_none, ite_self, Option.or_none]
  | arg :: rest =>
    rw [scan_cons hcommands] at h
    obtain ⟨s₁, htake, hrest⟩ := bind_eq_ok_iff.1 h
    cases honly : s.operandsOnly with
    | true =>
      have hoperandTook : Took s s₁ none ∧ s₁.awaits = false := by
        rw [takeArgument_of_only honly] at htake
        exact took_operand hoperand htake
      obtain ⟨htook, hready⟩ := hoperandTook
      rw [known_scan hcommands hoperand hready hrest hsettle, htook.known, htook.operandsOnly, honly]
      simp
    | false =>
      by_cases hne : arg = ['-', '-']
      · subst hne
        have hnext : s₁ = { s with operandsOnly := true } := by
          rw [takeArgument_hyphens honly] at htake
          exact (Except.ok.inj htake).symm
        have hready : s₁.awaits = false := hnext ▸ hawaits
        rw [known_scan hcommands hoperand hready hrest hsettle, hnext, timeoutText]
        simp [Scan.known]
      · have htook := took_argument hoperand hawaits honly hne htake
        have honly₁ : s₁.operandsOnly = false := htook.operandsOnly.trans honly
        rw [timeoutText_cons hne]
        cases hready : s₁.awaits with
        | false =>
          rw [known_scan hcommands hoperand hready hrest hsettle, htook.known, honly₁]
          have hsaid := htook.ready hready
          cases hword : wordTimeout arg with
          | none => simp
          | some value =>
            cases value with
            | none => exact absurd hword hsaid
            | some value => simp
        | true =>
          obtain ⟨opt, hpending⟩ := exists_waiting hready
          obtain ⟨value, rest, rfl, hvalue, hplain, -, hrest⟩ :=
            scan_of_waiting hpending hcommands hrest hsettle
          have hbefore : s₁.known = s.known := by
            rw [htook.known, htook.waiting opt hpending]
            split <;> simp
          have hready : ({ s₁ with pending := some ⟨opt, some value⟩ } : Scan).awaits = false := rfl
          rw [known_scan hcommands hoperand hready hrest hsettle, known_of_value hpending, hbefore,
            honly₁, htook.waiting opt hpending]
          by_cases hopt : opt = .timeout
          · simp [hopt]
          · simp [hopt, timeoutText_cons hvalue, hplain]
termination_by args.length

/-! ## The environment -/

theorem timeoutIn_eq_none_iff {typed : List Argument} :
    timeoutIn typed = none ↔ typed.any (fun arg => arg.opt == .timeout) = false := by
  rw [timeoutIn, List.find?_eq_none, List.any_eq_false]

/-- The environment gives the timeout if it was not typed. -/
theorem timeoutIn_inherit {env : Environment} {typed : List Argument} {found : Option Argument}
    (h : inherit env typed opt = .ok found) :
    (timeoutIn found.toList).map Except.ok = if opt = .timeout ∧ timeoutIn typed = none
      then (List.lookup timeoutVariable env).map Opt.timeout.read else none := by
  unfold inherit at h
  split at h
  · rename_i hany
    obtain rfl := Except.ok.inj h
    rw [if_neg]
    · rfl
    · rintro ⟨rfl, hnone⟩
      rw [timeoutIn_eq_none_iff.1 hnone] at hany
      cases hany
  · rename_i hany
    by_cases hopt : opt = .timeout
    · subst hopt
      rw [if_pos ⟨rfl, timeoutIn_eq_none_iff.2 (by simpa using hany)⟩]
      have hname : Opt.timeout.variableName = some timeoutVariable := rfl
      rw [hname, Option.bind_some] at h
      cases hlookup : List.lookup timeoutVariable env with
      | none =>
        rw [hlookup] at h
        obtain rfl := Except.ok.inj h
        rfl
      | some value =>
        rw [hlookup] at h
        cases hread : Opt.timeout.read value with
        | error e => simp only [hread] at h; cases h
        | ok arg =>
          simp only [hread] at h
          obtain rfl := Except.ok.inj h
          have hsaid := timeoutIn_read hread
          rw [if_pos rfl, hread] at hsaid
          rw [Option.map_some, hread]
          exact hsaid
    · rw [if_neg fun hboth => hopt hboth.1]
      split at h
      · obtain rfl := Except.ok.inj h
        rfl
      · rename_i value _
        cases hread : opt.read value with
        | error e => rw [hread] at h; cases h
        | ok arg =>
          rw [hread] at h
          obtain rfl := Except.ok.inj h
          have hsaid := timeoutIn_read hread
          rwa [if_neg hopt] at hsaid

theorem timeoutIn_inherited {env : Environment} {typed : List Argument} {options : List Opt}
    {found : List (Option Argument)} (h : options.mapM (inherit env typed) = .ok found) :
    (timeoutIn (found.filterMap id)).map Except.ok = if .timeout ∈ options ∧ timeoutIn typed = none
      then (List.lookup timeoutVariable env).map Opt.timeout.read else none := by
  induction options generalizing found with
  | nil =>
    obtain rfl := Except.ok.inj h
    rfl
  | cons opt options ih =>
    rw [List.mapM_cons] at h
    obtain ⟨first, hfirst, h⟩ := bind_eq_ok_iff.1 h
    obtain ⟨more, hmore, h⟩ := bind_eq_ok_iff.1 h
    obtain rfl := Except.ok.inj h
    have hfound : (first :: more).filterMap id = first.toList ++ more.filterMap id := by
      cases first <;> rfl
    rw [hfound, timeoutIn_append, Option.map_or, timeoutIn_inherit hfirst, ih hmore]
    simp only [List.mem_cons]
    by_cases hopt : opt = .timeout <;> by_cases hmem : Opt.timeout ∈ options <;>
      by_cases hnone : timeoutIn typed = none <;> simp [hopt, hmem, hnone, eq_comm]

/-! ## A level as a whole -/

/-- The timeout that is given at a level is read from the text that its arguments give, or else from the
one that the environment holds. -/
theorem timeoutIn_allGiven {env : Environment} {args : List Text} {given : Given}
    (hcommands : rules.commands = []) (hoperand : rules.operand ≠ some .timeout)
    (htimeout : .timeout ∈ rules.options) (h : Level.read rules env args = .ok given) :
    (timeoutIn (allGiven given)).map Except.ok
      = ((timeoutText args).or (List.lookup timeoutVariable env)).map Opt.timeout.read := by
  obtain ⟨⟨s, call⟩, hscan, h⟩ := bind_eq_ok_iff.1 h
  obtain ⟨given', hsettled, h⟩ := bind_eq_ok_iff.1 h
  obtain ⟨s', hsettle, hsettled⟩ := bind_eq_ok_iff.1 hsettled
  obtain ⟨found, hfound, hsettled⟩ := bind_eq_ok_iff.1 hsettled
  obtain rfl := Except.ok.inj hsettled
  split at h
  · obtain rfl := Except.ok.inj h
    have htyped := known_scan hcommands hoperand rfl hscan hsettle
    have hknown : Scan.start.known = none := rfl
    have honly : Scan.start.operandsOnly = false := rfl
    rw [hknown, honly, Option.none_or, if_neg Bool.false_ne_true] at htyped
    rw [allGiven, timeoutIn_append, Option.map_or, timeoutIn_inherited hfound, htyped]
    cases hgiven : timeoutIn s'.given with
    | none =>
      rw [if_pos ⟨htimeout, rfl⟩, Option.map_or]
    | some arg =>
      rw [hgiven] at htyped
      cases htext : timeoutText args with
      | none => rw [htext] at htyped; cases htyped
      | some text => simp
  · cases h

end Level

namespace CommandLine

/-! ## The command -/

/-- An argument that is read as the timeout is the timeout that is looked up. -/
theorem timeoutOf_of_timeoutIn {args : List Argument} {text : Option Text}
    (h : (Level.timeoutIn args).map Except.ok = text.map Opt.timeout.read) :
    text.map readTimeout = (timeoutOf args).map .ok := by
  have hother : ∀ {others : List Argument}, (∀ arg ∈ others, arg.opt ≠ .timeout) →
      timeoutOf others = none := by
    intro others hopts
    refine List.findSome?_eq_none_iff.2 fun arg harg => ?_
    cases arg with
    | timeout d => exact absurd rfl (hopts _ harg)
    | _ => rfl
  cases hfound : Level.timeoutIn args with
  | none =>
    have htext : text = none := by
      cases text with
      | none => rfl
      | some text => rw [hfound] at h; cases h
    rw [htext, hother fun arg harg heq => by simpa [heq] using List.find?_eq_none.1 hfound arg harg]
    rfl
  | some arg =>
    obtain ⟨-, before, after, rfl, hbefore⟩ := List.find?_eq_some_iff_append.1 hfound
    have hnone : timeoutOf before = none :=
      hother fun other hmem heq => by simpa [heq] using hbefore other hmem
    cases text with
    | none => rw [hfound] at h; cases h
    | some text =>
      rw [hfound] at h
      have hread : (readTimeout text).map Argument.timeout = .ok arg := (Option.some.inj h).symm
      cases htext : readTimeout text with
      | error e => rw [htext] at hread; cases hread
      | ok d =>
        rw [htext] at hread
        obtain rfl := Except.ok.inj hread
        have happend : timeoutOf (before ++ .timeout d :: after)
            = (timeoutOf before).or (timeoutOf (.timeout d :: after)) := List.findSome?_append
        rw [happend, hnone, Option.map_some, htext]
        rfl

end CommandLine

/-- The timeout that a command comes with. -/
def Command.timeout? : Command → Option TimeSpan
  | .run _ _ _ timeout _ => timeout
  | .monitor _ timeout => timeout
  | .replay _ timeout => timeout

namespace CommandLine

theorem timeout?_command {name : CommandName} {args : List Argument} {command : Command}
    (h : name.command args = some command) : command.timeout? = timeoutOf args := by
  cases name with
  | run =>
    obtain ⟨chip, -, h⟩ := Option.bind_eq_some_iff.1 h
    obtain ⟨image, -, h⟩ := Option.bind_eq_some_iff.1 h
    obtain rfl := Option.some.inj h
    rfl
  | monitor =>
    obtain rfl := Option.some.inj h
    rfl
  | replay =>
    obtain ⟨log, -, h⟩ := Option.bind_eq_some_iff.1 h
    obtain rfl := Option.some.inj h
    rfl

/-- The timeout of a command line is read from the text that the arguments after the name of the command
give, or else from the one that the environment holds; without such a text it has none. -/
theorem timeout_of_read {env : Environment} {args : List Text} {invocation : Invocation}
    (h : read env args = .ok invocation) : ∃ s call,
      Level.scan programRules .start args = .ok (s, some call)
        ∧ ((timeoutText call.args).or (List.lookup timeoutVariable env)).map readTimeout
          = invocation.command.timeout?.map .ok := by
  obtain ⟨⟨s, call⟩, hscan, h⟩ := bind_eq_ok_iff.1 h
  cases call with
  | none =>
    obtain ⟨given, -, h⟩ := bind_eq_ok_iff.1 h
    cases h
  | some call =>
    refine ⟨s, call, hscan, ?_⟩
    dsimp only at h
    split at h
    · cases h
    · rename_i name _
      obtain ⟨inner, hinner, h⟩ := bind_eq_ok_iff.1 h
      obtain ⟨outer, -, h⟩ := bind_eq_ok_iff.1 h
      unfold combine at h
      dsimp only at h
      split at h
      · cases h
      · rename_i command hcommand
        obtain rfl := Except.ok.inj h
        have hrules : name.rules.commands = [] ∧ name.rules.operand ≠ some .timeout
            ∧ .timeout ∈ name.rules.options := by
          cases name <;> decide
        rw [timeout?_command hcommand]
        exact timeoutOf_of_timeoutIn
          (Level.timeoutIn_allGiven hrules.1 hrules.2.1 hrules.2.2 hinner)

end CommandLine

end TestWatch
