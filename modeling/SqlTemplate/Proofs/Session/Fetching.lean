import SqlTemplate.Proofs.Session.Cells
import SqlTemplate.Proofs.Session.Steps

/-!
# Fetching in different shapes

A statement can be fetched from in several ways: all rows, the first row, the first column, the
first cell, or pairs of cells.  They ask the cursor for different things and shape the answers
differently, and still they agree (`Step.fetches_agree`): whatever is fetched is part of the
rows that are fetched as a whole, and the pairs stand as the rows do that are keyed by the first
column.

This needs a result that fits its columns.  If two columns have one name, or if a row is shorter
than the columns, then a row does not show what its cells do.

## Strategy

Nothing that the connection is asked for fails (`Answered`), so each step comes to what it makes
of the result (`Answered.fst_withResult`), and what is left is to compare rows with cells.
-/

namespace SqlTemplate

open Exchange

namespace Exchange

variable {α β : Type} {step : Exchange α} {channel : Channel}

theorem fst_bind_of_ok {next : α → Exchange β} {value : α} {outcome : Except SessionFailure β}
    (hstep : (step channel).1 = .ok value) (hnext : ∀ mid, (next value mid).1 = outcome) :
    ((step >>= next) channel).1 = outcome := by
  rw [bind_of_ok (Prod.ext hstep rfl), hnext]

/-- A last step that succeeds leaves the outcome as it is. -/
theorem fst_followedBy {last : Exchange Unit} (hlast : ∀ after, (last after).1 = .ok ()) :
    (followedBy step last channel).1 = (step channel).1 := by
  rcases hrun : step channel with ⟨outcome, mid⟩
  have hdone := hlast mid
  rcases hfinal : last mid with ⟨answer, final⟩
  rw [hfinal] at hdone
  obtain rfl : answer = .ok () := hdone
  simp only [followedBy, hrun, hfinal]

end Exchange

/-! ## Statements that are answered -/

/-- A statement that can be expanded and is answered by a result, on a connection that fails in
nothing that it takes to fetch it. -/
structure Answered (session : Session) (template : String) (parameters : List Value)
    (channel : Channel) (result : Result) : Prop where
  expands : ∃ expanded, session.expander.expand template parameters = .ok expanded
  answers : ∃ rest, channel.replies = .result result :: rest
  willing : ∀ operation ∈ [.cursor, .execute, .fetchAll, .fetchOne, .close],
    operation ∉ session.connection.failing

namespace Answered

variable {session : Session} {template : String} {parameters : List Value} {channel : Channel}
  {result : Result} (hanswered : Answered session template parameters channel result)
include hanswered

section

variable {α : Type} {outcome : Except SessionFailure α}

/-- A statement comes to what is read from its result. -/
theorem fst_withResult {read : Result → Exchange α}
    (hread : ∀ mid, (read result mid).1 = outcome) :
    (session.withResult template parameters read channel).1 = outcome := by
  obtain ⟨expanded, hexpanded⟩ := hanswered.expands
  obtain ⟨rest, hreplies⟩ := hanswered.answers
  have hcursor := hanswered.willing .cursor (by decide)
  have hexecute := hanswered.willing .execute (by decide)
  have hclose := hanswered.willing .close (by decide)
  have hexecuted (events : List Event) (records : List LogRecord) :
      execute session.connection expanded.sql ⟨channel.replies, events, records⟩ =
        (.ok result, ⟨rest, events ++ [⟨.execute, some expanded.sql⟩], records⟩) := by
    rw [execute_apply, if_neg hexecute, hreplies]
    rfl
  rw [Session.withResult_of_expand_ok read hexpanded, bind_of_ok (call_of_not_failing hcursor _),
    Session.serve, bind_of_ok (onFailure_of_ok (hexecuted _ _) _), fst_followedBy, hread]
  intro after
  rw [call_of_not_failing hclose]

theorem fst_fetchAll {next : List (List Value) → Exchange α}
    (hnext : ∀ mid, (next result.rows mid).1 = outcome) (mid : Channel) :
    ((session.fetchAll result >>= next) mid).1 = outcome := by
  have hfetch := call_of_not_failing (hanswered.willing .fetchAll (by decide)) mid
  rw [Session.fetchAll, bind_assoc, bind_of_ok hfetch]
  exact hnext _

theorem fst_fetchOne {next : Option (List Value) → Exchange α}
    (hnext : ∀ mid, (next result.rows.head? mid).1 = outcome) (mid : Channel) :
    ((session.fetchOne result >>= next) mid).1 = outcome := by
  have hfetch := call_of_not_failing (hanswered.willing .fetchOne (by decide)) mid
  rw [Session.fetchOne, bind_assoc, bind_of_ok hfetch]
  exact hnext _

end

/-! ## What each step makes of the result -/

variable {names : List String} {table : List (Cells names)}
  (hcolumns : result.columns = some names) (htable : table.map Cells.values = result.rows)

include hcolumns htable in
theorem fst_select (transformer : Option Transformer) :
    (session.select template parameters transformer channel).1 =
      match transformer with
      | none => .ok (.list ((table.map Cells.row).map .map))
      | some transformer => (transformer.transform (table.map Cells.row)).mapError .rows := by
  have hrows : (session.selectRows template parameters channel).1 =
      .ok (table.map Cells.row) := by
    refine hanswered.fst_withResult fun mid => ?_
    rw [hcolumns]
    refine hanswered.fst_fetchAll (fun _ => ?_) mid
    rw [← htable, List.map_map]
    rfl
  refine fst_bind_of_ok hrows fun mid => ?_
  cases transformer with
  | none => rfl
  | some transformer =>
      cases htransform : transformer.transform (table.map Cells.row) with
      | error failure => simp only [htransform]; rfl
      | ok value => simp only [htransform]; rfl

include hcolumns htable in
theorem fst_selectRow :
    (session.selectRow template parameters channel).1 =
      .ok (.map ((table.map Cells.row).headD [])) := by
  refine hanswered.fst_withResult (hanswered.fst_fetchOne fun mid => ?_)
  rw [← htable]
  cases table with
  | nil => rfl
  | cons cells rest =>
      rw [hcolumns]
      rfl

include htable in
theorem fst_selectCells {first : String} (hfirst : names[0]? = some first) :
    (session.selectCells template parameters channel).1 = .ok (table.map (Cells.cell 0)) := by
  refine hanswered.fst_withResult (hanswered.fst_fetchAll fun mid => ?_)
  rw [← htable, Cells.mapM_cellAt hfirst]
  rfl

include hcolumns htable in
theorem fst_selectPairs (hwidth : 2 ≤ names.length) :
    (session.selectPairs template parameters channel).1 =
      (pairCells (table.map Cells.values) channel).1 := by
  obtain ⟨outcome, hpairs⟩ := calculates_pairCells (table.map Cells.values)
  refine hanswered.fst_withResult (hanswered.fst_fetchAll fun mid => ?_)
  have henough : ¬ (result.columns.getD []).length < 2 := by
    rw [hcolumns]
    exact Nat.not_lt.2 hwidth
  rw [if_neg henough, ← htable, hpairs, hpairs]

end Answered

/-! ## Agreement -/

namespace Step

/-- How the steps that fetch from one statement agree on the rows that it is answered with. -/
structure FetchesAgree (answer : Step → Except SessionFailure Value) (template : String)
    (parameters : List Value) (first : String) (others : List String) (rows : List Row) :
    Prop where
  all : answer (.select template parameters .rows) = .ok (.list (rows.map .map))
  keyed : answer (.select template parameters (.keyed first)) =
    ((Transformer.keyed first).transform rows).mapError .rows
  /-- The one row is the first of all rows, or empty. -/
  row : answer (.selectRow template parameters) = .ok (.map (rows.headD []))
  /-- The cells are those of the first column, and the one cell is the first of them. -/
  cells : ∃ cells, rows.map (·.column? first) = cells.map some ∧
    answer (.selectColumn template parameters) = .ok (.list cells) ∧
    answer (.selectCell template parameters) = .ok (cells.headD .null)
  /-- The pairs have the keys of the rows by the first column, and for each row its cell in the
  second column. -/
  pairs : ∀ second, others.head? = some second →
    (∃ entries : List (Value × Row × Value),
      (∀ entry ∈ entries, entry.2.1.column? second = some entry.2.2) ∧
      answer (.select template parameters (.keyed first)) =
        .ok (.map (entries.map fun entry => (entry.1, .map entry.2.1))) ∧
      answer (.selectPairs template parameters) =
        .ok (.map (entries.map fun entry => (entry.1, entry.2.2)))) ∨
    ∃ reason,
      answer (.select template parameters (.keyed first)) =
        .error (.rows (.unhashable reason)) ∧
      answer (.selectPairs template parameters) = .error (.rows (.unhashable reason))

/-- **The steps that fetch agree** on every result that fits its columns.  The rows have the
names of the columns beside the cells. -/
theorem fetches_agree {session : Session} {template : String} {parameters : List Value}
    {channel : Channel} {result : Result} {first : String} {others : List String}
    (hanswered : Answered session template parameters channel result)
    (hcolumns : result.columns = some (first :: others)) (hdistinct : (first :: others).Nodup)
    (hwide : ∀ cells ∈ result.rows, cells.length = (first :: others).length) :
    FetchesAgree (fun step => (step.run session channel).1) template parameters first others
      (result.rows.map fun cells => ((first :: others).map Value.text).zip cells) := by
  obtain ⟨table, htable⟩ := Cells.exists_map_values hwide
  rw [← htable, ← Cells.map_row hdistinct]
  have hcells := hanswered.fst_selectCells htable rfl
  have hkeyed := hanswered.fst_select hcolumns htable (some (.keyed first))
  refine ⟨?all, hkeyed, ?row, ?cells, ?pairs⟩
  case all => exact hanswered.fst_select hcolumns htable none
  case row => exact hanswered.fst_selectRow hcolumns htable
  case cells =>
    refine ⟨table.map (Cells.cell 0), ?_, ?_, fst_bind_of_ok hcells fun _ => rfl⟩
    · rw [List.map_map, List.map_map]
      exact List.map_congr_left fun cells _ => Cells.column?_row rfl cells hdistinct
    · rw [run, map_apply, hcells]
      rfl
  case pairs =>
    intro second hsecond
    have hplace : (first :: others)[1]? = some second := by
      rw [List.getElem?_cons_succ, ← List.head?_eq_getElem?, hsecond]
    have hwidth : 2 ≤ (first :: others).length := (List.getElem?_eq_some_iff.1 hplace).1
    have hpairs := hanswered.fst_selectPairs hcolumns htable hwidth
    rcases transform_keyed_pairCells hdistinct rfl hplace table with
      ⟨entries, hentries, hrows, hcells⟩ | ⟨reason, hrows, hcells⟩
    · rw [hcells] at hpairs
      simp only [hrows] at hkeyed
      exact .inl ⟨entries, hentries, hkeyed, hpairs⟩
    · rw [hcells] at hpairs
      simp only [hrows] at hkeyed
      exact .inr ⟨reason, hkeyed, hpairs⟩

/-- Three rows of two columns; the truth value overwrites what stands under the number one. -/
theorem fetches_agree_overwritten :
    let session : Session := ⟨⟨false, [.begin, .rollback]⟩, .ofProfile {}⟩
    let result : Result := ⟨some ["size", "name"],
      [[.int 1, .text "a"], [.null, .text "b"], [.scalar (.bool true), .text "c"]], .null, .int 3⟩
    let channel : Channel := ⟨[.result result, .refusal "over"], [], []⟩
    Answered session "select ?d" [.int 3] channel result ∧
      (["size", "name"] : List String).Nodup ∧ (∀ cells ∈ result.rows, cells.length = 2) ∧
      FetchesAgree (fun step => (step.run session channel).1) "select ?d" [.int 3] "size" ["name"]
        (result.rows.map fun cells => (["size", "name"].map Value.text).zip cells) := by
  intro session result channel
  have hanswered : Answered session "select ?d" [.int 3] channel result :=
    ⟨⟨⟨"select 3", 1, 1, "mysql"⟩, by decide +kernel⟩, ⟨_, rfl⟩, by decide⟩
  have hwide : ∀ cells ∈ result.rows, cells.length = 2 := by decide
  exact ⟨hanswered, by decide, hwide, fetches_agree hanswered rfl (by decide) hwide⟩

end Step

end SqlTemplate
