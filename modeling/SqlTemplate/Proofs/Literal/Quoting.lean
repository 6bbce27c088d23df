import SqlTemplate.Proofs.Template.Passive

/-!
# Quoted strings and names are closed

A template does not know which dialect wrote a string: it reads every string as if a
backslash protected the character behind it.  The strings of MySQL are written that
way and are each a single region (`passive_mysql_quote`).  Other dialects double the
quotation mark instead; such a string is read as several regions with nothing between
them, and that only if it holds no backslash (`passive_doubling_quote`).

A name between backticks is a region, whatever the name (`passive_quoteIdentifier`).
-/

namespace SqlTemplate

/-! ## Strings with escapes -/

/-- A character is escaped, or it is of no importance in a string. -/
theorem mysqlChar_cases (c : Char) :
    (∃ letter, Quoter.mysqlChar c = ['\\', letter]) ∨
      (Quoter.mysqlChar c = [c] ∧ c ≠ '\\' ∧ c ≠ '\'') := by
  unfold Quoter.mysqlChar
  split
  case h_8 hzero hnewline hreturn hbackslash hquote hdouble hsubstitute =>
    exact Or.inr ⟨rfl, hbackslash, hquote⟩
  all_goals exact Or.inl ⟨_, rfl⟩

theorem closeString?_cons {mark c : Char} (hescape : c ≠ '\\') (hmark : c ≠ mark)
    (rest : List Char) :
    closeString? mark (c :: rest) = (closeString? mark rest).map (prepend c) := by
  rw [closeString?, if_neg hmark]
  · exact fun hc _ => hescape hc
  · exact fun _ _ hc _ => hescape hc

theorem closeString?_mysql (text : List Char) :
    closeString? '\'' (text.flatMap Quoter.mysqlChar ++ ['\'']) =
      some (text.flatMap Quoter.mysqlChar ++ ['\''], []) := by
  induction text with
  | nil => rfl
  | cons c rest ih =>
      rw [List.flatMap_cons, List.append_assoc]
      rcases mysqlChar_cases c with ⟨letter, hchar⟩ | ⟨hchar, hescape, hmark⟩
      · rw [hchar, List.cons_append, List.singleton_append, closeString?, ih]
        rfl
      · rw [hchar, List.singleton_append, closeString?_cons hescape hmark, ih]
        rfl

theorem passive_mysql_quote (text : List Char) : Passive (Quoter.mysql.quote text) := by
  have hclosed : RegionKind.singleQuoted.close? (text.flatMap Quoter.mysqlChar ++ ['\'']) =
      some (text.flatMap Quoter.mysqlChar ++ ['\''], []) := closeString?_mysql text
  exact passive_of_close? .singleQuoted rfl hclosed

/-! ## Strings with doubled quotation marks -/

/-- A string without escapes and quotation marks. -/
theorem passive_simpleString {text : List Char} (h : ∀ c ∈ text, c ≠ '\\' ∧ c ≠ '\'') :
    Passive ('\'' :: (text ++ ['\''])) := by
  have hclosed : closeString? '\'' (text ++ ['\'']) = some (text ++ ['\''], []) := by
    induction text with
    | nil => rfl
    | cons c rest ih =>
        obtain ⟨hescape, hmark⟩ := h c (List.mem_cons_self ..)
        have hrest := ih fun d hmem => h d (List.mem_cons_of_mem _ hmem)
        rw [List.cons_append, closeString?_cons hescape hmark, hrest]
        rfl
  exact passive_of_close? .singleQuoted rfl hclosed

/-- A doubled quotation mark ends one string and begins the next.  `front` is what has
been read of the string since the last one. -/
theorem passive_doubled {doubled text : List Char} (hmark : '\'' ∈ doubled) (front : List Char)
    (hfront : ∀ c ∈ front, c ≠ '\\' ∧ c ≠ '\'') (htext : '\\' ∉ text) :
    Passive ('\'' :: (front ++
      (text.flatMap (fun c => if c ∈ doubled then [c, c] else [c]) ++ ['\'']))) := by
  induction text generalizing front with
  | nil => exact passive_simpleString hfront
  | cons c rest ih =>
      rw [List.mem_cons, not_or] at htext
      obtain ⟨hescape, hrest⟩ := htext
      rw [List.flatMap_cons]
      by_cases hquote : c = '\''
      · subst hquote
        have hnext := (passive_simpleString hfront).append
          (ih [] (fun _ hmem => absurd hmem List.not_mem_nil) hrest)
        rw [if_pos hmark]
        simpa using hnext
      · have hplain : ∀ d ∈ (if c ∈ doubled then [c, c] else [c]), d ≠ '\\' ∧ d ≠ '\'' := by
          intro d hmem
          have hd : d = c := by
            split at hmem <;> simpa using hmem
          rw [hd]
          exact ⟨Ne.symm hescape, hquote⟩
        have hnext := ih (front ++ (if c ∈ doubled then [c, c] else [c]))
          (fun d hmem => (List.mem_append.1 hmem).elim (hfront d) (hplain d)) hrest
        rwa [List.append_assoc, ← List.append_assoc _ _ ['\'']] at hnext

theorem passive_doubling_quote (dialect : String) {doubled text : List Char}
    (hmark : '\'' ∈ doubled) (h : '\\' ∉ text) :
    Passive ((Quoter.doubling dialect doubled).quote text) :=
  passive_doubled hmark [] (fun _ hmem => absurd hmem List.not_mem_nil) h

/-! ## Names -/

theorem closeIdentifier?_quoted (name : List Char) :
    closeIdentifier? (name.flatMap (fun c => if c = identifierMark then [c, c] else [c]) ++
        [identifierMark]) =
      some (name.flatMap (fun c => if c = identifierMark then [c, c] else [c]) ++
        [identifierMark], []) := by
  induction name with
  | nil => rfl
  | cons c rest ih =>
      rw [List.flatMap_cons, List.append_assoc]
      by_cases hmark : c = identifierMark
      · subst hmark
        rw [if_pos rfl, List.cons_append, List.singleton_append, identifierMark, closeIdentifier?]
        rw [identifierMark] at ih
        rw [ih]
        rfl
      · rw [if_neg hmark, List.singleton_append, closeIdentifier?, ih]
        · rfl
        · exact fun _ hc _ => hmark hc
        · exact hmark

theorem passive_quoteIdentifier (name : List Char) : Passive (quoteIdentifier name) :=
  passive_of_close? .identifier rfl (closeIdentifier?_quoted name)

end SqlTemplate
