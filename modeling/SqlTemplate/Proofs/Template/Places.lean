import SqlTemplate.Proofs.Expansion.Malformed
import SqlTemplate.Proofs.Template.Blocks

/-!
# Lexemes and their places

The structural characters of a text and its literal regions are the two kinds of lexemes,
told with their places.  What is shown here of lexemes with their places is therefore true
of both (`seen`): a part of a text that starts somewhere else has the same lexemes at
shifted places (`placedFrom_eq_map`), and at the place of a lexeme the text is read as that
lexeme (`nextLexeme?_of_mem_placed`).
-/

namespace SqlTemplate

/-- Lexemes with their places, when the first one stands at the given place. -/
def placedFrom (offset : Nat) : List Lexeme → List (Nat × Lexeme)
  | [] => []
  | lexeme :: rest => (offset, lexeme) :: placedFrom (offset + lexeme.text.length) rest

/-- The lexemes of the text from the given place on, with their places. -/
def placed (text : List Char) (start : Nat) : List (Nat × Lexeme) :=
  placedFrom start (lexemes (text.drop start))

/-- Something at a place of a part, seen in the whole where the part starts at the given place. -/
def shift {α : Type} (start : Nat) : Nat × α → Nat × α :=
  Prod.map (start + ·) id

theorem mem_map_shift_iff {α : Type} {start place : Nat} {value : α} {parts : List (Nat × α)} :
    (place, value) ∈ parts.map (shift start) ↔
      ∃ inner, place = start + inner ∧ (inner, value) ∈ parts := by
  rw [List.mem_map]
  constructor
  · rintro ⟨⟨inner, found⟩, hmem, hshift⟩
    obtain ⟨rfl, rfl⟩ := Prod.mk.inj hshift
    exact ⟨inner, rfl, hmem⟩
  · rintro ⟨inner, rfl, hmem⟩
    exact ⟨(inner, value), hmem, rfl⟩

/-- The structural character that a lexeme is. -/
def Lexeme.char? : Lexeme → Option Char
  | .char c => some c
  | .region _ => none

/-- The literal region that a lexeme is. -/
def Lexeme.region? : Lexeme → Option Region
  | .region found => some found
  | .char _ => none

/-- What a view tells of lexemes, at their places. -/
def seen {α : Type} (view : Lexeme → Option α) (parts : List (Nat × Lexeme)) : List (Nat × α) :=
  parts.filterMap fun entry => (view entry.2).map (entry.1, ·)

/-- The literal regions of the text from the given place on, with their places. -/
def literalRegions (text : List Char) (start : Nat) : List (Nat × Region) :=
  seen Lexeme.region? (placed text start)

theorem structuralFrom_eq_seen (offset : Nat) (parts : List Lexeme) :
    structuralFrom offset parts = seen Lexeme.char? (placedFrom offset parts) := by
  induction parts generalizing offset with
  | nil => rfl
  | cons lexeme rest ih =>
      cases lexeme with
      | region region => exact ih _
      | char c => exact congrArg ((offset, c) :: ·) (ih _)

theorem structural_eq_seen (text : List Char) (start : Nat) :
    structural text start = seen Lexeme.char? (placed text start) :=
  structuralFrom_eq_seen start _

/-! ### Views -/

section

variable {α : Type} (view : Lexeme → Option α)

theorem seen_cons (place : Nat) (lexeme : Lexeme) (rest : List (Nat × Lexeme)) :
    seen view ((place, lexeme) :: rest) =
      ((view lexeme).map (place, ·)).toList ++ seen view rest := by
  rw [seen, List.filterMap_cons]
  cases view lexeme <;> rfl

theorem mem_seen_iff {parts : List (Nat × Lexeme)} {place : Nat} {value : α} :
    (place, value) ∈ seen view parts ↔
      ∃ lexeme, (place, lexeme) ∈ parts ∧ view lexeme = some value := by
  rw [seen, List.mem_filterMap]
  constructor
  · rintro ⟨⟨place, lexeme⟩, hmem, hview⟩
    obtain ⟨found, hfound, heq⟩ := Option.map_eq_some_iff.1 hview
    obtain ⟨rfl, rfl⟩ := Prod.mk.inj heq
    exact ⟨lexeme, hmem, hfound⟩
  · rintro ⟨lexeme, hmem, hview⟩
    exact ⟨(place, lexeme), hmem, by rw [hview, Option.map_some]⟩

theorem seen_map_shift (start : Nat) (parts : List (Nat × Lexeme)) :
    seen view (parts.map (shift start)) = (seen view parts).map (shift start) := by
  rw [seen, seen, List.filterMap_map, List.map_filterMap]
  refine congrArg (List.filterMap · parts) (funext fun entry => ?_)
  rw [Option.map_map]
  rfl

theorem filter_seen (wanted : Nat → Bool) (parts : List (Nat × Lexeme)) :
    (seen view parts).filter (fun entry => wanted entry.1) =
      seen view (parts.filter fun entry => wanted entry.1) := by
  induction parts with
  | nil => rfl
  | cons entry rest ih =>
      obtain ⟨place, lexeme⟩ := entry
      rw [seen_cons, List.filter_append, ih, List.filter_cons]
      cases hwanted : wanted place <;> cases hview : view lexeme <;>
        simp [seen_cons, hwanted, hview]

end

theorem mem_structural_iff {text : List Char} {start place : Nat} {c : Char} :
    (place, c) ∈ structural text start ↔ (place, .char c) ∈ placed text start := by
  rw [structural_eq_seen, mem_seen_iff]
  constructor
  · rintro ⟨region | found, hmem, hview⟩
    · cases hview
    · cases hview
      exact hmem
  · exact fun hmem => ⟨_, hmem, rfl⟩

theorem mem_literalRegions_iff {text : List Char} {start place : Nat} {region : Region} :
    (place, region) ∈ literalRegions text start ↔ (place, .region region) ∈ placed text start := by
  rw [literalRegions, mem_seen_iff]
  constructor
  · rintro ⟨found | c, hmem, hview⟩
    · cases hview
      exact hmem
    · cases hview
  · exact fun hmem => ⟨_, hmem, rfl⟩

/-! ### Places -/

theorem placed_zero (text : List Char) : placed text 0 = placedFrom 0 (lexemes text) := by
  rw [placed, List.drop_zero]

theorem placed_cons {c : Char} (h : c ∉ openingMarks) (rest : List Char) :
    placed (c :: rest) 0 = (0, .char c) :: placedFrom 1 (lexemes rest) := by
  rw [placed_zero, lexemes_of_not_mem h, placedFrom]
  rfl

theorem placedFrom_append (offset : Nat) (front back : List Lexeme) :
    placedFrom offset (front ++ back) =
      placedFrom offset front ++ placedFrom (offset + (front.flatMap Lexeme.text).length) back := by
  induction front generalizing offset with
  | nil => rfl
  | cons lexeme rest ih =>
      rw [List.cons_append, placedFrom, placedFrom, ih, List.flatMap_cons, List.length_append,
        Nat.add_assoc, List.cons_append]

theorem placedFrom_add (start offset : Nat) (parts : List Lexeme) :
    placedFrom (start + offset) parts = (placedFrom offset parts).map (shift start) := by
  induction parts generalizing offset with
  | nil => rfl
  | cons lexeme rest ih =>
      rw [placedFrom, placedFrom, List.map_cons, Nat.add_assoc, ih]
      rfl

/-- The lexemes of a part, seen in the whole. -/
theorem placedFrom_eq_map (start : Nat) (parts : List Lexeme) :
    placedFrom start parts = (placedFrom 0 parts).map (shift start) :=
  placedFrom_add start 0 parts

theorem exists_append_of_mem_placedFrom {offset place : Nat} {lexeme : Lexeme}
    {parts : List Lexeme} (h : (place, lexeme) ∈ placedFrom offset parts) :
    ∃ front back, parts = front ++ lexeme :: back ∧
      place = offset + (front.flatMap Lexeme.text).length := by
  induction parts generalizing offset with
  | nil => cases h
  | cons first rest ih =>
      rcases List.mem_cons.1 h with hfirst | hrest
      · cases hfirst
        exact ⟨[], rest, rfl, rfl⟩
      · obtain ⟨front, back, rfl, rfl⟩ := ih hrest
        refine ⟨first :: front, back, rfl, ?_⟩
        rw [List.flatMap_cons, List.length_append, Nat.add_assoc]

theorem le_of_mem_placedFrom {offset : Nat} {parts : List Lexeme} {entry : Nat × Lexeme}
    (h : entry ∈ placedFrom offset parts) : offset ≤ entry.1 := by
  obtain ⟨front, back, -, hplace⟩ := exists_append_of_mem_placedFrom h
  rw [hplace]
  exact Nat.le_add_right ..

theorem le_of_mem_structuralFrom {offset : Nat} {parts : List Lexeme} {entry : Nat × Char}
    (h : entry ∈ structuralFrom offset parts) : offset ≤ entry.1 := by
  rw [structuralFrom_eq_seen] at h
  obtain ⟨lexeme, hmem, -⟩ := (mem_seen_iff _).1 h
  exact le_of_mem_placedFrom hmem

/-- Structural characters are told from left to right. -/
theorem pairwise_structuralFrom (offset : Nat) (parts : List Lexeme) :
    (structuralFrom offset parts).Pairwise (·.1 < ·.1) := by
  induction parts generalizing offset with
  | nil => exact .nil
  | cons lexeme rest ih =>
      cases lexeme with
      | region region => exact ih _
      | char c => exact .cons (fun _ hmem => le_of_mem_structuralFrom hmem) (ih _)

/-- At the place of a lexeme the text is read as that lexeme. -/
theorem nextLexeme?_of_mem_placed {text : List Char} {start place : Nat} {lexeme : Lexeme}
    (h : (place, lexeme) ∈ placed text start) :
    nextLexeme? (text.drop place) = some (lexeme, text.drop (place + lexeme.text.length)) := by
  obtain ⟨front, back, hparts, rfl⟩ := exists_append_of_mem_placedFrom h
  have hplace : text.drop (start + (front.flatMap Lexeme.text).length) =
      lexeme.text ++ back.flatMap Lexeme.text := by
    rw [← List.drop_drop, drop_length_front hparts, List.flatMap_cons]
  have hbehind : text.drop (start + (front.flatMap Lexeme.text).length + lexeme.text.length) =
      back.flatMap Lexeme.text := by
    rw [← List.drop_drop, hplace, List.drop_left]
  rw [hplace, hbehind]
  exact (Lexed.cons_iff.1 (lexed_of_lexemes hparts).of_suffix).1

theorem length_le_of_mem_placed {text : List Char} {place : Nat} {lexeme : Lexeme}
    (h : (place, lexeme) ∈ placed text 0) : place + lexeme.text.length ≤ text.length := by
  rw [placed_zero] at h
  obtain ⟨front, back, hparts, rfl⟩ := exists_append_of_mem_placedFrom h
  have hlength := congrArg List.length (eq_append_of_lexemes hparts)
  rw [List.flatMap_cons, List.length_append, List.length_append] at hlength
  omega

theorem length_pos_of_mem_placed {text : List Char} {start place : Nat} {lexeme : Lexeme}
    (h : (place, lexeme) ∈ placed text start) : 0 < lexeme.text.length :=
  List.length_pos_iff.2 (text_ne_nil_of_nextLexeme? (nextLexeme?_of_mem_placed h))

end SqlTemplate
