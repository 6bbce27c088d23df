import SqlTemplate.Proofs.Template.FaultFree

/-!
# The lines of a template

No region ends with the end of a line: a line comment stops in front of it, and the other
regions end with marks of their own (`getLast?_ne_newline`).  So where something begins a
line outside of all regions, the line in front of it ends outside of all regions too
(`exists_pass?_of_slotPlaces`).
-/

namespace SqlTemplate

/-! ## The ends of regions -/

theorem getLast?_cons_of_some {c last : Char} {text : List Char} (h : text.getLast? = some last) :
    (c :: text).getLast? = some last := by
  rw [List.getLast?_cons, h, Option.getD_some]

theorem getLast?_of_closeComment? {text body rest : List Char}
    (h : closeComment? text = some (body, rest)) : body.getLast? = some '/' := by
  fun_induction closeComment? text generalizing body with
  | case1 => cases h
  | case2 tail =>
      cases h
      rfl
  | case3 c tail hopen ih =>
      obtain ⟨⟨inner, after⟩, hinner, hsplit⟩ := Option.map_eq_some_iff.1 h
      cases hsplit
      exact getLast?_cons_of_some (ih hinner)

theorem getLast?_of_closeString? {mark : Char} {text body rest : List Char}
    (h : closeString? mark text = some (body, rest)) : body.getLast? = some mark := by
  fun_induction closeString? mark text generalizing body with
  | case1 | case2 => cases h
  | case3 c tail ih =>
      obtain ⟨⟨inner, after⟩, hinner, hsplit⟩ := Option.map_eq_some_iff.1 h
      cases hsplit
      exact getLast?_cons_of_some (getLast?_cons_of_some (ih hinner))
  | case4 tail =>
      cases h
      rfl
  | case5 c tail _ _ hmark ih =>
      obtain ⟨⟨inner, after⟩, hinner, hsplit⟩ := Option.map_eq_some_iff.1 h
      cases hsplit
      exact getLast?_cons_of_some (ih hinner)

theorem getLast?_of_closeIdentifier? {text body rest : List Char}
    (h : closeIdentifier? text = some (body, rest)) : body.getLast? = some '\x60' := by
  fun_induction closeIdentifier? text generalizing body with
  | case1 => cases h
  | case2 tail split hsplit ih =>
      cases h
      exact getLast?_cons_of_some (getLast?_cons_of_some (ih hsplit))
  | case3 | case4 =>
      cases h
      rfl
  | case5 c tail hdouble hmark ih =>
      obtain ⟨⟨inner, after⟩, hinner, hsplit⟩ := Option.map_eq_some_iff.1 h
      cases hsplit
      exact getLast?_cons_of_some (ih hinner)

/-- No region ends with the end of a line. -/
theorem getLast?_ne_newline {text rest : List Char} {region : Region}
    (h : regionAt? text = some (region, rest)) : region.text.getLast? ≠ some '\n' := by
  obtain ⟨body, after, -, hclosed, htext⟩ := regionAt?_eq_some_iff.1 h
  obtain ⟨kind, text⟩ := region
  rw [htext, List.getLast?_append]
  cases kind with
  | lineComment =>
      obtain ⟨rfl, -⟩ := Prod.mk.inj (Option.some.inj hclosed)
      cases hlast : (after.takeWhile (!endsLine ·)).getLast? with
      | none => simp [RegionKind.opening]
      | some c =>
          have hline := List.mem_takeWhile_imp (List.mem_of_getLast? hlast)
          rintro ⟨⟩
          cases hline
  | blockComment => simp [getLast?_of_closeComment? hclosed]
  | doubleQuoted | singleQuoted => simp [getLast?_of_closeString? hclosed]
  | identifier => simp [getLast?_of_closeIdentifier? hclosed]

/-! ## Slots at the beginning of a line -/

/-- The places of the question marks of a text outside of its literal regions. -/
def slotPlaces (text : List Char) : List Nat :=
  ((structural text 0).filter (·.2 == '?')).map (·.1)

/-- A question mark that is not in a region has lexemes in front of it and behind it. -/
theorem exists_of_getElem?_structuralFrom {offset count place : Nat} {parts : List Lexeme}
    (h : (((structuralFrom offset parts).filter (·.2 == '?')).map (·.1))[count]? = some place) :
    ∃ front back, parts = front ++ .char '?' :: back ∧ front.count (.char '?') = count ∧
      offset + (front.flatMap Lexeme.text).length = place := by
  induction parts generalizing offset count with
  | nil => cases h
  | cons lexeme rest ih =>
      -- what stands further back has this lexeme in front of it
      have hbehind : ∀ {number}, (((structuralFrom (offset + lexeme.text.length) rest).filter
            (·.2 == '?')).map (·.1))[number]? = some place →
          ∃ front back, lexeme :: rest = (lexeme :: front) ++ .char '?' :: back ∧
            front.count (.char '?') = number ∧
              offset + ((lexeme :: front).flatMap Lexeme.text).length = place := by
        intro number hrest
        obtain ⟨front, back, rfl, hcount, hplace⟩ := ih hrest
        refine ⟨front, back, rfl, hcount, ?_⟩
        rw [List.flatMap_cons, List.length_append, ← Nat.add_assoc]
        exact hplace
      cases lexeme with
      | region region =>
          obtain ⟨front, back, hsplit, hcount, hplace⟩ := hbehind h
          refine ⟨.region region :: front, back, hsplit, ?_, hplace⟩
          rw [List.count_cons_of_ne (by simp), hcount]
      | char c =>
          by_cases hmark : c = '?'
          · subst hmark
            cases count with
            | zero => exact ⟨[], rest, rfl, rfl, Option.some.inj h⟩
            | succ count =>
                obtain ⟨front, back, hsplit, hcount, hplace⟩ := hbehind h
                refine ⟨.char '?' :: front, back, hsplit, ?_, hplace⟩
                rw [List.count_cons_self, hcount]
          · rw [structuralFrom, List.filter_cons_of_neg (by simpa using hmark)] at h
            obtain ⟨front, back, hsplit, hcount, hplace⟩ := hbehind h
            refine ⟨.char c :: front, back, hsplit, ?_, hplace⟩
            rw [List.count_cons_of_ne (by simpa using hmark), hcount]

/-- A line that ends in front of a slot ends outside of all regions. -/
theorem exists_pass?_of_slotPlaces {front back : List Char} {count : Nat}
    (hformed : wellFormed (front ++ '\n' :: '?' :: back))
    (hslot : (slotPlaces (front ++ '\n' :: '?' :: back))[count]? = some (front.length + 1)) :
    ∃ parts, pass? front = some parts ∧ parts.count (.char '?') = count := by
  obtain ⟨before, after, hparts, hcount, hplace⟩ := exists_of_getElem?_structuralFrom hslot
  rw [List.drop_zero] at hparts
  rw [wellFormed_eq, Bool.and_eq_true, hparts] at hformed
  have hlexed := lexed_lexemes (front ++ '\n' :: '?' :: back)
  have htext := flatMap_text_lexemes (front ++ '\n' :: '?' :: back)
  rw [hparts] at hlexed htext
  have hbefore : before.flatMap Lexeme.text = front ++ ['\n'] := by
    have hsplit : before.flatMap Lexeme.text ++ '?' :: after.flatMap Lexeme.text =
        (front ++ ['\n']) ++ '?' :: back := by
      simpa [Lexeme.text] using htext
    refine (List.append_inj hsplit ?_).1
    rw [List.length_append, List.length_singleton, ← hplace, Nat.zero_add]
  -- the last lexeme in front of the slot is the end of the line and nothing more
  rcases List.eq_nil_or_concat before with rfl | ⟨parts, last, hconcat⟩
  · simp at hbefore
  rw [List.concat_eq_append] at hconcat
  subst hconcat
  rw [List.append_assoc] at hlexed hformed
  rw [List.flatMap_append, List.flatMap_singleton] at hbefore
  have hlast : last = .char '\n' := by
    have hend := congrArg List.getLast? hbefore
    rw [List.getLast?_append, List.getLast?_concat] at hend
    cases last with
    | region region =>
        have hregion := regionAt?_of_nextLexeme? (Lexed.cons_iff.1 hlexed.of_suffix).1
        obtain ⟨c, hc⟩ := Option.isSome_iff_exists.1
          (List.getLast?_isSome.2 (text_ne_nil_of_regionAt? hregion))
        rw [Lexeme.text, hc, Option.some_or] at hend
        exact absurd (hc.trans hend) (getLast?_ne_newline hregion)
    | char c => exact congrArg Lexeme.char (Option.some.inj hend)
  subst hlast
  refine ⟨parts, ?_, ?_⟩
  · have hfront : parts.flatMap Lexeme.text = front := (List.append_inj' hbefore rfl).1
    have hsettled := hformed.1
    rw [List.singleton_append, settled_append _ _ (by simp) (by simp), Bool.and_eq_true] at hsettled
    rw [pass?, ← hfront, passFrom?_flatMap hlexed.of_append, if_pos hsettled.1]
  · rwa [List.count_append, List.count_singleton, if_neg (by simp), Nat.add_zero] at hcount

end SqlTemplate
