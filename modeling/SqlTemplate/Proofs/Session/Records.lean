import SqlTemplate.Proofs.Session.Steps

/-!
# The record of a session

What a step of a session does depends on the replies to come, and not on the events and
log records that stand on record already (`Session.closed_oblivious`).  A step may
therefore be followed on a channel of its own: elsewhere its record stands behind the one
that is there (`Oblivious.run`).
-/

namespace SqlTemplate

open Exchange

namespace Channel

/-- A channel on which nothing has been recorded. -/
def fresh (replies : List Reply) : Channel :=
  ⟨replies, [], []⟩

/-- A channel with what was recorded on another one behind its own record. -/
def extend (before after : Channel) : Channel :=
  ⟨after.replies, before.events ++ after.events, before.records ++ after.records⟩

theorem extend_fresh (channel : Channel) : channel.extend (fresh channel.replies) = channel := by
  simp only [extend, fresh, List.append_nil]

theorem extend_assoc (first second third : Channel) :
    (first.extend second).extend third = first.extend (second.extend third) := by
  simp only [extend, List.append_assoc]

end Channel

/-- A step that does not look at what was recorded before. -/
def Oblivious {α : Type} (step : Exchange α) : Prop :=
  ∀ channel : Channel, step channel =
    ((step (.fresh channel.replies)).1, channel.extend (step (.fresh channel.replies)).2)

namespace Oblivious

variable {α β : Type} {step : Exchange α}

/-- A run behind any record is the run behind none, with its record behind the other one. -/
theorem run (h : Oblivious step) {replies : List Reply} {outcome : Except SessionFailure α}
    {after : Channel} (hrun : step (.fresh replies) = (outcome, after)) {channel : Channel}
    (hreplies : channel.replies = replies) : step channel = (outcome, channel.extend after) := by
  subst hreplies
  rw [h channel, hrun]

theorem of_calculates (h : Calculates step) : Oblivious step := by
  obtain ⟨outcome, hrun⟩ := h
  intro channel
  rw [hrun, hrun, Channel.extend_fresh]

theorem bind {next : α → Exchange β} (hstep : Oblivious step)
    (hnext : ∀ value, Oblivious (next value)) : Oblivious (step >>= next) := by
  intro channel
  rcases hrun : step (.fresh channel.replies) with ⟨failure | value, after⟩
  · rw [bind_of_error (hstep.run hrun rfl), bind_of_error hrun]
  · rcases hlast : next value (.fresh after.replies) with ⟨outcome, final⟩
    have halone : next value after = (outcome, after.extend final) := (hnext value).run hlast rfl
    have hbehind : next value (channel.extend after) =
        (outcome, (channel.extend after).extend final) := (hnext value).run hlast rfl
    rw [bind_of_ok (hstep.run hrun rfl), bind_of_ok hrun, halone, hbehind, Channel.extend_assoc]

theorem onFailure {repair : Exchange Unit} (hstep : Oblivious step) (hrepair : Oblivious repair) :
    Oblivious (onFailure step repair) := by
  intro channel
  rcases hrun : step (.fresh channel.replies) with ⟨failure | value, after⟩
  · rcases hlast : repair (.fresh after.replies) with ⟨other | answer, final⟩
    · rw [onFailure_of_unrepaired (hstep.run hrun rfl) (hrepair.run hlast rfl),
        onFailure_of_unrepaired hrun (hrepair.run hlast rfl), Channel.extend_assoc]
    · rw [onFailure_of_repaired (hstep.run hrun rfl) (hrepair.run hlast rfl),
        onFailure_of_repaired hrun (hrepair.run hlast rfl), Channel.extend_assoc]
  · rw [onFailure_of_ok (hstep.run hrun rfl), onFailure_of_ok hrun]

theorem followedBy {last : Exchange Unit} (hstep : Oblivious step) (hlast : Oblivious last) :
    Oblivious (followedBy step last) := by
  intro channel
  rcases hrun : step (.fresh channel.replies) with ⟨outcome, after⟩
  rcases hfinal : last (.fresh after.replies) with ⟨answer, final⟩
  have halone : last after = (answer, after.extend final) := hlast.run hfinal rfl
  have hbehind : last (channel.extend after) = (answer, (channel.extend after).extend final) :=
    hlast.run hfinal rfl
  simp only [Exchange.followedBy, hstep.run hrun rfl, hrun, halone, hbehind, Channel.extend_assoc]
  cases answer <;> rfl

theorem log (records : List LogRecord) : Oblivious (log records) := by
  intro channel
  rw [log_apply, log_apply]
  simp only [Channel.extend, Channel.fresh, List.nil_append, List.append_nil]

theorem call (connection : Connection) (operation : Operation) :
    Oblivious (call connection operation) := by
  intro channel
  rw [call_apply, call_apply]
  simp only [Channel.extend, Channel.fresh, List.nil_append, List.append_nil]

theorem execute (connection : Connection) (sql : String) :
    Oblivious (execute connection sql) := by
  intro channel
  rw [execute_apply, execute_apply]
  simp only [Channel.extend, Channel.fresh, List.nil_append, List.append_nil]

theorem map (h : Oblivious step) (f : α → β) : Oblivious (f <$> step) := by
  rw [map_eq_pure_bind]
  exact h.bind fun value => of_calculates (.pure (f value))

theorem of_reads {session : Session} (h : session.Reads step) : Oblivious step := by
  cases h with
  | unfetched h => exact of_calculates h
  | fetched hfetch h => exact (call _ _).bind fun answer => of_calculates (h answer)

end Oblivious

namespace Session

theorem oblivious_begin (session : Session) : Oblivious session.begin := by
  rw [begin]
  split
  · exact .call _ _
  · exact (Oblivious.call _ _).bind fun _ =>
      ((Oblivious.execute _ _).map fun _ => ()).followedBy (.call _ _)

theorem oblivious_expand (session : Session) (template : String) (parameters : List Value) :
    Oblivious (session.expand template parameters) := by
  intro channel
  cases hexpand : session.expander.expand template parameters with
  | error failure => rw [expand_of_error hexpand, expand_of_error hexpand, Channel.extend_fresh]
  | ok expanded =>
      rw [expand_of_ok hexpand, expand_of_ok hexpand]
      simp only [Channel.extend, Channel.fresh, List.nil_append, List.append_nil]

theorem closed_oblivious (session : Session) :
    session.Closed fun _ step => Oblivious step where
  calculation h := .of_calculates h
  bind hstep hnext := hstep.bind hnext
  onFailure hstep hrepair := hstep.onFailure hrepair
  begin := session.oblivious_begin
  commit := .call _ _
  rollback := .call _ _
  expand := session.oblivious_expand
  statement template parameters _ hread :=
    (session.oblivious_expand template parameters).bind fun _ => (Oblivious.log _).bind fun _ =>
      (Oblivious.call _ _).bind fun _ =>
        ((Oblivious.execute _ _).onFailure (.call _ _)).bind fun result =>
          (Oblivious.of_reads (hread result)).followedBy (.call _ _)

end Session

end SqlTemplate
