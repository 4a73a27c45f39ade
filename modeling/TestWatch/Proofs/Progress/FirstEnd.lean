import TestWatch.Progress

/-!
# The first end of a run is its only one

A run under observation is shown events and the clock, in any order, and the clock may even go back.
A sight fires if it would end a run that nothing has ended yet: a trigger does, and so does a clock that
has reached the timeout (`Sight.Fires`).

One sight leaves a run as it is, unless it fires and the run has not ended (`see_of_not_fires`,
`see_of_terminal`).  So only the first sight that fires is told of, and the run stays as that one left
it: `first_end`.
-/

namespace TestWatch

/-- What a run under observation is shown. -/
inductive Sight where
  /-- What a line said. -/
  | event (event : Event)
  /-- The time since the start of the run. -/
  | clock (elapsed : TimeSpan)
  deriving DecidableEq, Repr

/-- What is told of a sight. -/
inductive Answer where
  /-- Of an event: the trigger by which it completed the run, if it did. -/
  | trigger (trigger : Option Trigger)
  /-- Of the clock: whether the run has just timed out. -/
  | expired (expired : Bool)
  deriving DecidableEq, Repr

/-- Whether an answer tells that the run has ended. -/
def Answer.tellsEnd : Answer → Bool
  | .trigger t => t.isSome
  | .expired b => b

namespace Sight

/-- A sight that ends a run with this timeout, if nothing has ended it before. -/
def Fires (timeout : TimeSpan) : Sight → Prop
  | .event e => e.trigger?.isSome = true
  | .clock elapsed => timeout.nanos ≤ elapsed.nanos

instance (timeout : TimeSpan) (sight : Sight) : Decidable (sight.Fires timeout) :=
  match sight with
  | .event e => inferInstanceAs (Decidable (e.trigger?.isSome = true))
  | .clock elapsed => inferInstanceAs (Decidable (timeout.nanos ≤ elapsed.nanos))

/-- The answer to a sight that changes nothing. -/
def denial : Sight → Answer
  | .event _ => .trigger none
  | .clock _ => .expired false

/-- The answer to a sight that ends the run. -/
def success : Sight → Answer
  | .event e => .trigger e.trigger?
  | .clock _ => .expired true

/-- The run that a sight has ended. -/
def ended (timeout : TimeSpan) : Sight → Progress
  | .event e => ⟨timeout, .completed, e.trigger?⟩
  | .clock _ => ⟨timeout, .timedOut, none⟩

theorem isTerminal_ended (timeout : TimeSpan) (sight : Sight) :
    (sight.ended timeout).phase.isTerminal = true := by
  cases sight <;> rfl

theorem tellsEnd_denial (sight : Sight) : sight.denial.tellsEnd = false := by
  cases sight <;> rfl

/-- Either no sight fires, or one of them is the first that does. -/
theorem exists_first (timeout : TimeSpan) (sights : List Sight) :
    (∀ sight ∈ sights, ¬ sight.Fires timeout)
      ∨ ∃ before first after, sights = before ++ first :: after
        ∧ (∀ sight ∈ before, ¬ sight.Fires timeout) ∧ first.Fires timeout := by
  induction sights with
  | nil => exact .inl (List.forall_mem_nil _)
  | cons sight sights ih =>
    by_cases hsight : sight.Fires timeout
    · exact .inr ⟨[], sight, sights, rfl, List.forall_mem_nil _, hsight⟩
    · rcases ih with hnone | ⟨before, first, after, rfl, hbefore, hfirst⟩
      · exact .inl (List.forall_mem_cons.2 ⟨hsight, hnone⟩)
      · exact .inr ⟨sight :: before, first, after, rfl, List.forall_mem_cons.2 ⟨hsight, hbefore⟩,
          hfirst⟩

end Sight

namespace Progress

/-! ## One sight -/

/-- The answer of a run to a sight. -/
def answer (p : Progress) : Sight → Answer
  | .event event => .trigger (p.fires? event)
  | .clock elapsed => .expired (p.expires elapsed)

/-- The run after a sight. -/
def see (p : Progress) : Sight → Progress
  | .event event => p.observe event
  | .clock elapsed => p.checkClock elapsed

/-- A run that has ended takes no notice. -/
theorem see_of_terminal {p : Progress} (h : p.phase.isTerminal = true) (sight : Sight) :
    p.see sight = p ∧ p.answer sight = sight.denial := by
  cases sight with
  | event event => exact ⟨observe_of_terminal h event, congrArg _ (fires?_of_terminal h event)⟩
  | clock elapsed =>
    have hexpires := expires_of_terminal h elapsed
    exact ⟨checkClock_of_expires_eq_false hexpires, congrArg _ hexpires⟩

/-- A sight that does not fire is not noticed by any run. -/
theorem see_of_not_fires {p : Progress} {sight : Sight} (h : ¬ sight.Fires p.timeout) :
    p.see sight = p ∧ p.answer sight = sight.denial := by
  cases sight with
  | event event =>
    have hfires : p.fires? event = none :=
      fires?_of_trigger?_eq_none (Option.not_isSome_iff_eq_none.1 h) p
    exact ⟨observe_of_fires?_eq_none hfires, congrArg _ hfires⟩
  | clock elapsed =>
    have hearly : ¬ p.timeout.nanos ≤ elapsed.nanos := h
    have hexpires : p.expires elapsed = false := by
      rw [expires, decide_eq_false hearly, Bool.and_false]
    exact ⟨checkClock_of_expires_eq_false hexpires, congrArg _ hexpires⟩

/-- A sight that fires ends a run that nothing has ended, and is told of. -/
theorem see_start_of_fires {timeout : TimeSpan} {sight : Sight} (h : sight.Fires timeout) :
    (start timeout).see sight = sight.ended timeout
      ∧ (start timeout).answer sight = sight.success := by
  cases sight with
  | event event =>
    obtain ⟨trigger, htrigger⟩ := Option.isSome_iff_exists.1 h
    have hfires : (start timeout).fires? event = some trigger := htrigger
    constructor
    · rw [see, observe, hfires, Sight.ended, htrigger]
      rfl
    · rw [answer, hfires, Sight.success, htrigger]
  | clock elapsed =>
    have hexpires : (start timeout).expires elapsed = true := decide_eq_true h
    constructor
    · rw [see, checkClock, if_pos hexpires]
      rfl
    · rw [answer, hexpires, Sight.success]

/-! ## Many sights -/

/-- The run after some sights, in order. -/
def seeAll (p : Progress) (sights : List Sight) : Progress := sights.foldl see p

/-- The answers of a run to some sights, in order. -/
def answers (p : Progress) : List Sight → List Answer
  | [] => []
  | sight :: sights => p.answer sight :: (p.see sight).answers sights

theorem seeAll_append (p : Progress) (a b : List Sight) :
    p.seeAll (a ++ b) = (p.seeAll a).seeAll b := List.foldl_append

theorem answers_append (p : Progress) (a b : List Sight) :
    p.answers (a ++ b) = p.answers a ++ (p.seeAll a).answers b := by
  induction a generalizing p with
  | nil => rfl
  | cons sight a ih =>
    rw [List.cons_append, answers, ih (p.see sight)]
    rfl

/-- Sights none of which is noticed leave no trace. -/
theorem seeAll_of_unnoticed {p : Progress} {sights : List Sight}
    (h : ∀ sight ∈ sights, p.see sight = p ∧ p.answer sight = sight.denial) :
    p.seeAll sights = p ∧ p.answers sights = sights.map Sight.denial := by
  induction sights with
  | nil => exact ⟨rfl, rfl⟩
  | cons sight sights ih =>
    obtain ⟨⟨hsee, hanswer⟩, hrest⟩ := List.forall_mem_cons.1 h
    obtain ⟨hseeAll, hanswers⟩ := ih hrest
    constructor
    · rw [seeAll, List.foldl_cons, hsee]
      exact hseeAll
    · rw [answers, hsee, hanswer, hanswers]
      rfl

/-- As long as no sight fires, nothing happens. -/
theorem seeAll_of_none_fires {timeout : TimeSpan} {sights : List Sight}
    (h : ∀ sight ∈ sights, ¬ sight.Fires timeout) :
    (start timeout).seeAll sights = start timeout
      ∧ (start timeout).answers sights = sights.map Sight.denial :=
  seeAll_of_unnoticed fun sight hsight => see_of_not_fires (h sight hsight)

/-- Once the run has ended, nothing happens any more. -/
theorem seeAll_ended (timeout : TimeSpan) (sight : Sight) (sights : List Sight) :
    (sight.ended timeout).seeAll sights = sight.ended timeout
      ∧ (sight.ended timeout).answers sights = sights.map Sight.denial :=
  seeAll_of_unnoticed fun later _ => see_of_terminal (sight.isTerminal_ended timeout) later

/-- The first sight that fires decides what becomes of the run, and it alone is told of. -/
theorem seeAll_of_first {timeout : TimeSpan} {before : List Sight} {first : Sight}
    (hbefore : ∀ sight ∈ before, ¬ sight.Fires timeout) (hfirst : first.Fires timeout)
    (after : List Sight) :
    (start timeout).seeAll (before ++ first :: after) = first.ended timeout
      ∧ (start timeout).answers (before ++ first :: after)
        = before.map Sight.denial ++ first.success :: after.map Sight.denial := by
  obtain ⟨hquiet, hdenials⟩ := seeAll_of_none_fires hbefore
  obtain ⟨hsee, hanswer⟩ := see_start_of_fires hfirst
  obtain ⟨hstays, hlater⟩ := seeAll_ended timeout first after
  constructor
  · rw [seeAll_append, hquiet, seeAll, List.foldl_cons, hsee]
    exact hstays
  · rw [answers_append, hdenials, hquiet, answers, hsee, hanswer, hlater]

/-- Some of the sights up to the first that fires leave no trace. -/
theorem seeAll_take_of_le {timeout : TimeSpan} {before : List Sight} {n : Nat}
    (hbefore : ∀ sight ∈ before, ¬ sight.Fires timeout) (hn : n ≤ before.length)
    (rest : List Sight) :
    (start timeout).seeAll ((before ++ rest).take n) = start timeout := by
  rw [List.take_append_of_le_length hn]
  exact (seeAll_of_none_fires fun sight h => hbefore sight (List.mem_of_mem_take h)).1

/-- From the first sight that fires on, the run stays as that one left it. -/
theorem seeAll_take_of_lt {timeout : TimeSpan} {before : List Sight} {first : Sight} {n : Nat}
    (hbefore : ∀ sight ∈ before, ¬ sight.Fires timeout) (hfirst : first.Fires timeout)
    (hn : before.length < n) (after : List Sight) :
    (start timeout).seeAll ((before ++ first :: after).take n) = first.ended timeout := by
  obtain ⟨k, rfl⟩ := Nat.exists_eq_add_of_lt hn
  rw [Nat.add_assoc, List.take_length_add_append, List.take_succ_cons]
  exact (seeAll_of_first hbefore hfirst (after.take k)).1

theorem countP_tellsEnd_denials (sights : List Sight) :
    (sights.map Sight.denial).countP Answer.tellsEnd = 0 := by
  rw [List.countP_eq_zero]
  intro answer hanswer
  obtain ⟨sight, -, rfl⟩ := List.mem_map.1 hanswer
  rw [Sight.tellsEnd_denial]
  exact Bool.false_ne_true

/-- At most one answer tells that the run has ended. -/
theorem countP_tellsEnd_le_one (timeout : TimeSpan) (sights : List Sight) :
    ((start timeout).answers sights).countP Answer.tellsEnd ≤ 1 := by
  rcases Sight.exists_first timeout sights with hnone | ⟨before, first, after, rfl, hbefore, hfirst⟩
  · rw [(seeAll_of_none_fires hnone).2, countP_tellsEnd_denials]
    exact Nat.zero_le 1
  · rw [(seeAll_of_first hbefore hfirst after).2, List.countP_append, List.countP_cons,
      countP_tellsEnd_denials, countP_tellsEnd_denials]
    split <;> omega

/-- Whatever ends a run at one moment has ended it at every moment at which it has ended. -/
theorem seeAll_take_unique {timeout : TimeSpan} {sights : List Sight} {m n : Nat}
    (hm : ((start timeout).seeAll (sights.take m)).phase.isTerminal = true)
    (hn : ((start timeout).seeAll (sights.take n)).phase.isTerminal = true) :
    (start timeout).seeAll (sights.take m) = (start timeout).seeAll (sights.take n) := by
  have hstart : (start timeout).phase.isTerminal ≠ true := Bool.false_ne_true
  rcases Sight.exists_first timeout sights with hnone | ⟨before, first, after, rfl, hbefore, hfirst⟩
  · have hquiet : (start timeout).seeAll (sights.take m) = start timeout :=
      (seeAll_of_none_fires fun sight h => hnone sight (List.mem_of_mem_take h)).1
    exact absurd (hquiet ▸ hm) hstart
  · -- a run that has ended has seen the first sight that fires
    have hended : ∀ {k : Nat},
        ((start timeout).seeAll ((before ++ first :: after).take k)).phase.isTerminal = true →
          (start timeout).seeAll ((before ++ first :: after).take k) = first.ended timeout := by
      intro k hk
      rcases Nat.lt_or_ge before.length k with hlt | hle
      · exact seeAll_take_of_lt hbefore hfirst hlt after
      · exact absurd (seeAll_take_of_le hbefore hle _ ▸ hk) hstart
    rw [hended hm, hended hn]

/-- The first end of a run is its only one.  If no sight fires, none is noticed.  Otherwise the first
that does is told of and no other is, the run is as at its start before it, and after it the run
stays as that sight left it.  So at most one answer tells of an end, and a run that has completed at
one moment has not timed out at another. -/
theorem first_end (timeout : TimeSpan) (sights : List Sight) :
    ((∀ sight ∈ sights, ¬ sight.Fires timeout) →
        (start timeout).answers sights = sights.map Sight.denial
          ∧ ∀ n, (start timeout).seeAll (sights.take n) = ⟨timeout, .running, none⟩)
      ∧ (∀ before first after, sights = before ++ first :: after →
          (∀ sight ∈ before, ¬ sight.Fires timeout) → first.Fires timeout →
            (start timeout).answers sights
                = before.map Sight.denial ++ first.success :: after.map Sight.denial
              ∧ (∀ n ≤ before.length,
                  (start timeout).seeAll (sights.take n) = ⟨timeout, .running, none⟩)
              ∧ ∀ n, before.length < n →
                  (start timeout).seeAll (sights.take n) = first.ended timeout)
      ∧ ((start timeout).answers sights).countP Answer.tellsEnd ≤ 1
      ∧ ∀ m n, ((start timeout).seeAll (sights.take m)).phase = .completed →
          ((start timeout).seeAll (sights.take n)).phase ≠ .timedOut := by
  refine ⟨?_, ?_, countP_tellsEnd_le_one timeout sights, ?_⟩
  · intro hnone
    exact ⟨(seeAll_of_none_fires hnone).2, fun n =>
      (seeAll_of_none_fires fun sight h => hnone sight (List.mem_of_mem_take h)).1⟩
  · rintro before first after rfl hbefore hfirst
    exact ⟨(seeAll_of_first hbefore hfirst after).2,
      fun n hn => seeAll_take_of_le hbefore hn (first :: after),
      fun n hn => seeAll_take_of_lt hbefore hfirst hn after⟩
  · intro m n hcompleted htimedOut
    have hsame : (start timeout).seeAll (sights.take m) = (start timeout).seeAll (sights.take n) :=
      seeAll_take_unique (by rw [hcompleted]; rfl) (by rw [htimedOut]; rfl)
    rw [hsame, htimedOut] at hcompleted
    exact Phase.noConfusion hcompleted

/-- A run of five seconds that is shown the clock at the very end of its time has timed out: neither a
verdict nor a summary that comes later, nor a clock that goes back, changes that. -/
theorem first_end_of_deadline :
    let sights : List Sight := [.clock (.ofMillis 4999), .event .malformedSummary,
      .clock (.ofSeconds 5), .event (.verdict .ok), .clock (.ofSeconds 1), .event (.summary 1 0),
      .clock (.ofSeconds 9)]
    let run := start (.ofSeconds 5)
    run.answers (sights.take 2) = [.expired false, .trigger none]
      ∧ run.answers sights = [.expired false, .trigger none, .expired true, .trigger none,
          .expired false, .trigger none, .expired false]
      ∧ run.seeAll (sights.take 2) = ⟨.ofSeconds 5, .running, none⟩
      ∧ run.seeAll sights = ⟨.ofSeconds 5, .timedOut, none⟩ := by
  intro sights run
  have hquiet := (first_end (.ofSeconds 5) (sights.take 2)).1 (by decide)
  obtain ⟨hanswers, hbefore, hafter⟩ := (first_end (.ofSeconds 5) sights).2.1
    [.clock (.ofMillis 4999), .event .malformedSummary] (.clock (.ofSeconds 5))
    [.event (.verdict .ok), .clock (.ofSeconds 1), .event (.summary 1 0), .clock (.ofSeconds 9)]
    rfl (by decide) (by decide)
  exact ⟨hquiet.1, hanswers, hbefore 2 (by decide), hafter 7 (by decide)⟩

end Progress

end TestWatch
