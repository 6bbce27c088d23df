import Mathlib.Data.List.Forall2
import SqlTemplate.Expansion.Command
import SqlTemplate.Proofs.Expansion.Termination

/-!
# The cursor and the skip flag over a run of commands

Commands share one supply, and each of them finds it as the one before has left it,
even if that one failed with blocks half expanded.  This file states what they can rely
on (`Command.runAll_disciplined`).

* The cursor never goes back, and it never passes the last parameter.
* The parameters are handed out one after the other, each of them once.
* If a parameter is missing, the cursor stands behind the last one and stays there.
* A block leaves the skip flag as it was, and nobody but the holder of the supply ever
  lowers it.

Which parameters a command hands out is told from what it comes to (`HandsOut`).  One that
is asked for is the answer.  A template, a placeholder or a block hands out the parameters
that its text is made of: on a supply of just these it has a run that takes all of them and
comes to the same.

## Strategy

`Keeps` says what a single run of a step keeps, and every expansion keeps it because the
single steps do and sequencing hands it on (`compositional_keeps`).  An expansion depends on
nothing but the parameters it takes, so it has the same run without the others
(`exists_runs`).  The run of several commands is then an induction that carries `AtCursor`
along: the pending parameters are those from the cursor on.
-/

namespace SqlTemplate

/-! ## What a step keeps -/

/-- What a run of a step leaves of a supply: no parameter is lost or added, a missing
parameter means that none is pending, and a raised skip flag stays raised. -/
structure Keeps {α : Type} (before : Supply) (run : Except Failure α × Supply) : Prop where
  size : run.2.size = before.size
  underflow : ∀ position supplied, run.1 = .error (.underflow position supplied) →
    run.2.pending = [] ∧ position = run.2.taken + 1 ∧ supplied = run.2.taken
  raised : before.skipRaised = true → run.2.skipRaised = true

namespace Keeps

variable {α β : Type} {supply : Supply}

/-- A run that does not touch the supply and does not miss a parameter. -/
theorem of_eq {run : Except Failure α × Supply} (hsupply : run.2 = supply)
    (hfailure : ∀ position supplied, run.1 ≠ .error (.underflow position supplied)) :
    Keeps supply run where
  size := by rw [hsupply]
  underflow position supplied h := absurd h (hfailure position supplied)
  raised := by rw [hsupply]; exact id

theorem bind {step : Expansion α} {next : α → Expansion β} (hstep : Keeps supply (step supply))
    (hnext : ∀ value after, Keeps after (next value after)) :
    Keeps supply ((step >>= next) supply) := by
  rcases hrun : step supply with ⟨failure | value, after⟩
  · rw [hrun] at hstep
    rw [Expansion.bind_of_error hrun]
    refine ⟨hstep.size, ?_, hstep.raised⟩
    intro position supplied hfailure
    apply hstep.underflow
    rw [Except.error.inj hfailure]
  · rw [hrun] at hstep
    rw [Expansion.bind_of_ok hrun]
    have hafter := hnext value after
    refine ⟨hafter.size.trans hstep.size, hafter.underflow, ?_⟩
    intro hraised
    exact hafter.raised (hstep.raised hraised)

/-- Whatever is made of the value, the supply is the same. -/
theorem map {run : Except Failure α × Supply} (h : Keeps supply run) (f : α → β) :
    Keeps supply (run.1.map f, run.2) := by
  obtain ⟨failure | value, after⟩ := run
  · refine ⟨h.size, ?_, h.raised⟩
    intro position supplied hfailure
    exact h.underflow position supplied (congrArg Except.error (Except.error.inj hfailure))
  · refine ⟨h.size, ?_, h.raised⟩
    intro position supplied hfailure
    cases hfailure

theorem take (supply : Supply) : Keeps supply (Expansion.take supply) := by
  have hsize := Expansion.size_take supply
  cases hpending : supply.pending with
  | nil =>
      rw [Expansion.take_of_pending_nil hpending] at hsize ⊢
      refine ⟨hsize, ?_, id⟩
      intro position supplied hfailure
      cases hfailure
      exact ⟨hpending, rfl, rfl⟩
  | cons value rest =>
      rw [Expansion.take_of_pending_cons hpending] at hsize ⊢
      refine ⟨hsize, ?_, id⟩
      intro position supplied hfailure
      cases hfailure

end Keeps

theorem compositional_keeps :
    Compositional fun _ step => ∀ supply, Keeps supply (step supply) where
  pure _ _ := .of_eq rfl (fun _ _ h => nomatch h)
  bind hstep hnext supply := (hstep supply).bind hnext
  malformed _ _ := .of_eq rfl (fun _ _ h => nomatch h)
  take := Keeps.take
  raiseSkip _ := by
    refine ⟨rfl, ?_, fun _ => rfl⟩
    intro position supplied hfailure
    cases hfailure
  ofRule tag outcome supply := by
    refine Keeps.of_eq rfl ?_
    intro position supplied hfailure
    rcases outcome with refusal | value
    · cases refusal <;> cases hfailure
    · cases hfailure
  isolateSkip {_ step} hstep supply := by
    have hinside := hstep { supply with skipRaised := false }
    rcases hrun : step { supply with skipRaised := false } with ⟨failure | value, after⟩
    · rw [hrun] at hinside
      rw [Expansion.isolateSkip, hrun]
      refine ⟨hinside.size, ?_, id⟩
      intro position supplied hfailure
      apply hinside.underflow
      exact congrArg Except.error (Except.error.inj hfailure)
    · rw [hrun] at hinside
      rw [Expansion.isolateSkip, hrun]
      refine ⟨hinside.size, ?_, id⟩
      intro position supplied hfailure
      cases hfailure

/-! ### Blocks -/

theorem skipRaised_passGate (gated : Bool) (supply : Supply) :
    (passGate gated supply).2.skipRaised = supply.skipRaised := by
  cases gated with
  | false => rfl
  | true =>
      cases hpending : supply.pending with
      | nil => rw [passGate_of_pending_nil hpending]
      | cons value rest => rw [passGate_of_pending_cons hpending]

/-- A block gives the skip flag back as it was, whatever becomes of its alternatives. -/
theorem skipRaised_expandBlock (gated : Bool) (alternatives : Expansion (List (List Char)))
    (supply : Supply) :
    (expandBlock gated alternatives supply).2.skipRaised = supply.skipRaised := by
  have hgate := skipRaised_passGate gated supply
  rcases hrun : passGate gated supply with ⟨failure | dropped, mid⟩
  · rw [hrun] at hgate
    rw [expandBlock, Expansion.bind_of_error hrun, hgate]
  · rw [hrun] at hgate
    rw [expandBlock, Expansion.bind_of_ok hrun, ← hgate]
    have hinside := Expansion.skipRaised_isolateSkip alternatives mid
    rcases hblock : Expansion.isolateSkip alternatives mid with ⟨failure | result, after⟩
    · rw [hblock] at hinside
      rw [Expansion.bind_of_error hblock, hinside]
    · rw [hblock] at hinside
      rw [Expansion.bind_of_ok hblock]
      exact hinside

/-! ## Cursors -/

/-- The cursor moves on by what is handed out. -/
theorem AtCursor.advance {parameters handed : List Value} {supply after : Supply}
    (h : AtCursor parameters supply) (hpending : supply.pending = handed ++ after.pending)
    (hsize : after.size = supply.size) :
    AtCursor parameters after ∧
      parameters.take after.taken = parameters.take supply.taken ++ handed := by
  have hlength : after.taken = supply.taken + handed.length := by
    rw [Supply.size, Supply.size, hpending, List.length_append] at hsize
    omega
  have hle : after.taken ≤ parameters.length := by
    have hcount := congrArg List.length (h.pending.symm.trans hpending)
    rw [List.length_drop, List.length_append] at hcount
    have hbefore := h.le
    omega
  have hsplit : parameters.take supply.taken ++ handed ++ after.pending = parameters :=
    calc parameters.take supply.taken ++ handed ++ after.pending
        = parameters.take supply.taken ++ supply.pending := by
          rw [hpending, List.append_assoc]
      _ = parameters := by rw [h.pending, List.take_append_drop]
  have hfront : (parameters.take supply.taken ++ handed).length = after.taken := by
    rw [List.length_append, List.length_take_of_le h.le, hlength]
  refine ⟨⟨hle, ?_⟩, ?_⟩
  · calc after.pending
        = (parameters.take supply.taken ++ handed ++ after.pending).drop after.taken := by
          rw [← hfront, List.drop_left]
      _ = parameters.drop after.taken := by rw [hsplit]
  · calc parameters.take after.taken
        = (parameters.take supply.taken ++ handed ++ after.pending).take after.taken := by
          rw [hsplit]
      _ = parameters.take supply.taken ++ handed := by rw [← hfront, List.take_left]

/-! ## Activities -/

section

variable (quoter : Quoter)

theorem keeps_expansion (activity : Activity) (supply : Supply) :
    Keeps supply (activity.expansion quoter supply) := by
  refine compositional_keeps.expansion ?_ activity supply
  exact fun text supply => compositional_keeps.expandWithin supply.pending.length text supply

/-- An activity has the same run on a supply of just the parameters that it takes, and takes
all of them. -/
theorem exists_runs (activity : Activity) (supply : Supply) :
    ∃ handed, supply.pending = handed ++ (activity.expansion quoter supply).2.pending ∧
      Runs quoter activity { supply with pending := handed }
        ((activity.expansion quoter supply).1,
          { (activity.expansion quoter supply).2 with pending := [] }) := by
  have hkeeps := keeps_expansion quoter activity supply
  obtain ⟨handed, outcome, after, h⟩ :=
    compositional_determined.expansion (determined_expandText quoter) activity supply
  rw [h.run] at hkeeps ⊢
  refine ⟨handed, h.pending, runs_iff.2 ?_⟩
  by_cases hmissing : ∃ position supplied, outcome = .error (.underflow position supplied)
  · -- where a parameter is missing, all that were there have been taken
    obtain ⟨position, supplied, rfl⟩ := hmissing
    obtain ⟨hnil, -, -⟩ := hkeeps.underflow position supplied rfl
    have hpending : supply.pending = handed := by rw [h.pending, hnil, List.append_nil]
    rw [← hpending, ← hnil]
    exact h.run
  · have hagain := h.again (fun position supplied houtcome => hmissing ⟨_, _, houtcome⟩) []
    rwa [List.append_nil] at hagain

theorem skipRaised_resolve (content : List Char) (supply : Supply) :
    ((Activity.resolve content).expansion quoter supply).2.skipRaised = supply.skipRaised :=
  skipRaised_expandBlock _ _ supply

end

/-! ## Single commands -/

/-- What a command sets the expander to do, if something is to be expanded. -/
def Command.activity? : Command → Option Activity
  | scan template => some (.scan template 0)
  | dispatch tag => some (.dispatch tag)
  | resolve content => some (.resolve content)
  | take | setSkip _ => none

/-- The answer of such a command is the text of its activity. -/
theorem Command.run_of_activity? {command : Command} {activity : Activity}
    (h : command.activity? = some activity) (quoter : Quoter) (supply : Supply) :
    command.run quoter supply =
      ((activity.expansion quoter supply).1.map fun text => .text (String.ofList text),
        (activity.expansion quoter supply).2) := by
  cases command with
  | scan template =>
      obtain rfl := Option.some.inj h
      rw [run, expandText_eq]
      exact Expansion.map_apply ..
  | dispatch tag =>
      obtain rfl := Option.some.inj h
      rw [run, expandTag_eq]
      exact Expansion.map_apply ..
  | resolve content =>
      obtain rfl := Option.some.inj h
      rw [run, expandContent_eq]
      exact Expansion.map_apply ..
  | take => cases h
  | setSkip raised => cases h

/-- A command that was carried out, with the supply that it found, what it came to, and
the supply that it left. -/
structure Transition where
  command : Command
  before : Supply
  outcome : Except Failure Value
  after : Supply

/-- The parameters that a command hands out, as what it came to shows. -/
inductive HandsOut (quoter : Quoter) : Transition → List Value → Prop
  /-- A parameter that is asked for is the answer. -/
  | answered {before after : Supply} {value : Value} :
      HandsOut quoter ⟨.take, before, .ok value, after⟩ [value]
  /-- Asking fails only if none is left. -/
  | missing {before after : Supply} {position supplied : Nat} :
      HandsOut quoter ⟨.take, before, .error (.underflow position supplied), after⟩ []
  /-- Setting the flag does nothing else. -/
  | set {before : Supply} {raised : Bool} :
      HandsOut quoter ⟨.setSkip raised, before, .ok .null, { before with skipRaised := raised }⟩ []
  /-- What is expanded is expanded in the same way out of these parameters alone, and all of
  them are taken for it. -/
  | expanded {command : Command} {activity : Activity} {before after : Supply}
      {outcome : Except Failure (List Char)} {handed : List Value}
      (hactivity : command.activity? = some activity)
      (hruns : Runs quoter activity { before with pending := handed }
        (outcome, { after with pending := [] })) :
      HandsOut quoter
        ⟨command, before, outcome.map fun text => .text (String.ofList text), after⟩ handed

/-- What may happen to the cursor and to the skip flag when a command is carried out on a
supply of the given parameters and hands some of them out. -/
structure Disciplined (quoter : Quoter) (parameters : List Value) (transition : Transition)
    (handed : List Value) : Prop where
  /-- The cursor does not go back. -/
  le_taken : transition.before.taken ≤ transition.after.taken
  /-- The cursor does not pass the last parameter. -/
  taken_le : transition.after.taken ≤ parameters.length
  /-- The parameters that the cursor passes are those that the command hands out. -/
  passed : parameters.take transition.after.taken =
    parameters.take transition.before.taken ++ handed
  handsOut : HandsOut quoter transition handed
  /-- A parameter is missing only when all of them have been taken, and the command ends
  there. -/
  underflow : ∀ position supplied,
    transition.outcome = .error (.underflow position supplied) →
      transition.after.taken = parameters.length ∧ position = parameters.length + 1 ∧
        supplied = parameters.length
  /-- A block gives the skip flag back as it was, and asking for a parameter does not touch
  it. -/
  flag : (∃ content, transition.command = .resolve content) ∨ transition.command = .take →
    transition.after.skipRaised = transition.before.skipRaised
  /-- Templates and placeholders do not lower the skip flag. -/
  raised : (∃ template, transition.command = .scan template) ∨
      (∃ tag, transition.command = .dispatch tag) →
    transition.before.skipRaised = true → transition.after.skipRaised = true

section

variable {quoter : Quoter} {parameters : List Value} {supply : Supply}

/-- A command that keeps what expansions keep. -/
theorem disciplined_of_keeps {command : Command} {outcome : Except Failure Value}
    {after : Supply} {handed : List Value} (h : AtCursor parameters supply)
    (hkeeps : Keeps supply (outcome, after)) (hpending : supply.pending = handed ++ after.pending)
    (hhands : HandsOut quoter ⟨command, supply, outcome, after⟩ handed)
    (hflag : (∃ content, command = .resolve content) ∨ command = .take →
      after.skipRaised = supply.skipRaised) :
    Disciplined quoter parameters ⟨command, supply, outcome, after⟩ handed ∧
      AtCursor parameters after := by
  obtain ⟨hafter, hpassed⟩ := h.advance hpending hkeeps.size
  refine ⟨⟨?_, hafter.le, hpassed, hhands, ?_, hflag, fun _ => hkeeps.raised⟩, hafter⟩
  · have hlength := congrArg List.length hpassed
    rw [List.length_append, List.length_take_of_le hafter.le, List.length_take_of_le h.le]
      at hlength
    exact hlength ▸ Nat.le_add_right _ _
  · intro position supplied hfailure
    obtain ⟨hnil, hposition, hsupplied⟩ := hkeeps.underflow position supplied hfailure
    have hend : after.taken = parameters.length := hafter.taken_eq_length hnil
    rw [hend] at hposition hsupplied
    exact ⟨hend, hposition, hsupplied⟩

theorem disciplined_take (h : AtCursor parameters supply) :
    let run := Expansion.take supply
    ∃ handed, Disciplined quoter parameters ⟨.take, supply, run.1, run.2⟩ handed ∧
      AtCursor parameters run.2 := by
  intro run
  have hkeeps : Keeps supply run := Keeps.take supply
  cases hpending : supply.pending with
  | nil =>
      have hrun : run = _ := Expansion.take_of_pending_nil hpending
      rw [hrun] at hkeeps ⊢
      exact ⟨[], disciplined_of_keeps h hkeeps rfl .missing fun _ => rfl⟩
  | cons value rest =>
      have hrun : run = _ := Expansion.take_of_pending_cons hpending
      rw [hrun] at hkeeps ⊢
      exact ⟨[value], disciplined_of_keeps h hkeeps hpending .answered fun _ => rfl⟩

theorem disciplined_setSkip (h : AtCursor parameters supply) (raised : Bool) :
    let after := { supply with skipRaised := raised }
    Disciplined quoter parameters ⟨.setSkip raised, supply, .ok .null, after⟩ [] ∧
      AtCursor parameters after := by
  refine ⟨⟨Nat.le_refl _, h.le, (List.append_nil _).symm, .set, ?_, ?_, ?_⟩, ⟨h.le, h.pending⟩⟩
  · intro position supplied hfailure
    cases hfailure
  · rintro (⟨content, hcommand⟩ | hcommand)
    · cases hcommand
    · cases hcommand
  · rintro (⟨template, hcommand⟩ | ⟨tag, hcommand⟩)
    · cases hcommand
    · cases hcommand

theorem disciplined_expanded (h : AtCursor parameters supply) {command : Command}
    {activity : Activity} (hactivity : command.activity? = some activity) :
    let run := command.run quoter supply
    ∃ handed, Disciplined quoter parameters ⟨command, supply, run.1, run.2⟩ handed ∧
      AtCursor parameters run.2 := by
  intro run
  have hrun : run = _ := Command.run_of_activity? hactivity quoter supply
  obtain ⟨handed, hpending, hruns⟩ := exists_runs quoter activity supply
  rw [hrun]
  refine ⟨handed, disciplined_of_keeps h ((keeps_expansion quoter activity supply).map _) hpending
    (.expanded hactivity hruns) ?_⟩
  rintro (⟨content, rfl⟩ | rfl)
  · obtain rfl := Option.some.inj hactivity
    exact skipRaised_resolve quoter content supply
  · cases hactivity

/-- One command keeps the discipline, and leaves the cursor in its place. -/
theorem disciplined_run (h : AtCursor parameters supply) (command : Command) :
    let run := command.run quoter supply
    ∃ handed, Disciplined quoter parameters ⟨command, supply, run.1, run.2⟩ handed ∧
      AtCursor parameters run.2 := by
  cases hactivity : command.activity? with
  | some activity => exact disciplined_expanded h hactivity
  | none =>
      cases command with
      | take => exact disciplined_take h
      | setSkip raised => exact ⟨[], disciplined_setSkip h raised⟩
      | _ => cases hactivity

end

/-! ## Runs of commands -/

namespace Command

/-- The transitions of commands that are carried out one after the other. -/
def transitions (quoter : Quoter) : List Command → Supply → List Transition
  | [], _ => []
  | command :: rest, supply =>
      let run := command.run quoter supply
      ⟨command, supply, run.1, run.2⟩ :: transitions quoter rest run.2

/-- The supply that commands leave when they are carried out one after the other. -/
def leftBy (quoter : Quoter) (commands : List Command) (supply : Supply) : Supply :=
  commands.foldl (fun current command => (command.run quoter current).2) supply

/-- The observations of a run are the right-hand sides of its transitions. -/
theorem runAll_eq_map (quoter : Quoter) (commands : List Command) (supply : Supply) :
    runAll quoter commands supply =
      (transitions quoter commands supply).map
        fun transition => ⟨transition.outcome, transition.after⟩ := by
  induction commands generalizing supply with
  | nil => rfl
  | cons command rest ih =>
      rw [transitions, List.map_cons, ← ih]
      rfl

end Command

/-- From a supply in the middle of a run, every command keeps the discipline, and together
they hand out what stands between the two cursors. -/
theorem disciplined_transitions (quoter : Quoter) (commands : List Command)
    {parameters : List Value} {supply : Supply} (h : AtCursor parameters supply) :
    ∃ handed : List (List Value),
      List.Forall₂ (Disciplined quoter parameters) (Command.transitions quoter commands supply)
        handed ∧
      parameters.take (Command.leftBy quoter commands supply).taken =
        parameters.take supply.taken ++ handed.flatten := by
  induction commands generalizing supply with
  | nil => exact ⟨[], .nil, (List.append_nil _).symm⟩
  | cons command rest ih =>
      obtain ⟨handed, hcommand, hafter⟩ := disciplined_run h command
      obtain ⟨others, hrest, hleft⟩ := ih hafter
      refine ⟨handed :: others, .cons hcommand hrest, ?_⟩
      rw [List.flatten_cons, ← List.append_assoc, ← hcommand.passed]
      exact hleft

/-- **The discipline of a run.**  Commands are carried out on a supply of which nothing
has been taken, and some of them may fail.  Every one of them keeps the discipline, and
all of them together hand out the parameters in front of the cursor, each of them once
and in their order. -/
theorem Command.runAll_disciplined (quoter : Quoter) (parameters : List Value) (raised : Bool)
    (commands : List Command) :
    let start : Supply := ⟨parameters, 0, raised⟩
    let transitions := Command.transitions quoter commands start
    Command.runAll quoter commands start =
        transitions.map (fun transition => ⟨transition.outcome, transition.after⟩) ∧
      ∃ handed : List (List Value),
        List.Forall₂ (Disciplined quoter parameters) transitions handed ∧
        handed.flatten = parameters.take (Command.leftBy quoter commands start).taken := by
  intro start transitions
  have hstart : AtCursor parameters start := ⟨Nat.zero_le _, rfl⟩
  obtain ⟨handed, hall, htaken⟩ := disciplined_transitions quoter commands hstart
  exact ⟨Command.runAll_eq_map quoter commands start, handed, hall, htaken.symm⟩

/-- A parameter is asked for, a nested template drops its block, a block writes both of its
parameters, a placeholder refuses one, the flag is lowered, a template misses a parameter
behind a block, and a parameter is asked for when none is left. -/
theorem Command.runAll_disciplined_failing :
    let parameters : List Value :=
      [.text "p", .text "x {? ?}", .skip, .text "t", .int 2, .null, .text "u", .skip]
    let commands : List Command :=
      [.take, .scan "a ?s".toList, .resolve "b ?d|?".toList, .dispatch .integer, .setSkip false,
        .scan "{?}?".toList, .take]
    let start : Supply := ⟨parameters, 0, true⟩
    let transitions := Command.transitions .mysql commands start
    transitions.map (fun transition => transition.outcome.toOption.isSome) =
        [true, true, true, false, true, false, false] ∧
      transitions.filterMap (fun transition => transition.outcome.toOption.bind Value.text?) =
        ["p", "a x ", " b 2 "] ∧
      transitions.map (fun transition => (transition.after.taken, transition.after.skipRaised)) =
        [(1, true), (4, true), (6, true), (7, true), (7, false), (8, false), (8, false)] ∧
      ∃ handed : List (List Value),
        List.Forall₂ (Disciplined .mysql parameters) transitions handed ∧
        handed.flatten = parameters.take 8 := by
  intro parameters commands start transitions
  obtain ⟨-, hhanded⟩ := Command.runAll_disciplined .mysql parameters true commands
  have hleft : (Command.leftBy .mysql commands start).taken = 8 := by decide +kernel
  rw [hleft] at hhanded
  exact ⟨by decide +kernel, by decide +kernel, by decide +kernel, hhanded⟩

end SqlTemplate
