import SqlTemplate.Proofs.Number.Token
import SqlTemplate.Proofs.Template.Passive

/-!
# The texts of numbers, dates and identifiers

Numbers stand in a statement as they are, and dates, times and unique identifiers
between quotation marks.  Whatever the value, its text has only plain characters and
single minuses (`isTame_of_text?`), so it can neither open a region nor end one.

A minus is only tame in front of something.  Every text that gets a sign, and every
group of digits behind a hyphen, is therefore shown to be a *phrase*: a tame text that
begins with a plain character.
-/

namespace SqlTemplate

open SqlTemplate.Number SqlTemplate.Text

/-- A tame text that a minus may stand in front of. -/
structure IsPhrase (text : List Char) : Prop where
  tame : isTame text
  head : text.head?.any isPlain

namespace IsPhrase

variable {text back : List Char}

theorem minus (h : IsPhrase text) : isTame ('-' :: text) :=
  isTame_minus h.head h.tame

theorem append (h : IsPhrase text) (hback : isTame back) : IsPhrase (text ++ back) := by
  refine ⟨isTame_append h.tame hback, ?_⟩
  cases text with
  | nil => cases h.head
  | cons c rest => exact h.head

theorem of_forall (hne : text ≠ []) (h : ∀ c ∈ text, isPlain c) : IsPhrase text := by
  refine ⟨isTame_of_forall h, ?_⟩
  obtain ⟨c, rest, rfl⟩ := List.exists_cons_of_ne_nil hne
  exact h c (List.mem_cons_self ..)

theorem cons {c : Char} (hc : isPlain c) (h : isTame text) : IsPhrase (c :: text) := by
  refine ⟨?_, hc⟩
  rw [isTame, hc, h]
  rfl

end IsPhrase

/-! ## Digits -/

theorem isPlain_digitChar (n : Nat) : isPlain n.digitChar := by
  have hne : ∀ c ∈ openingMarks ++ templateMarks ++ ['\\'], n.digitChar ≠ c := by
    intro c hc
    apply Nat.digitChar_ne c
    simp only [openingMarks, templateMarks, List.cons_append, List.nil_append, List.mem_cons,
      List.not_mem_nil, or_false] at hc
    rcases hc with rfl | rfl | rfl | rfl | rfl | rfl | rfl | rfl | rfl <;> rfl
  simp only [isPlain, decide_eq_true_eq]
  refine ⟨fun hmem => ?_, fun hmem => ?_, fun hescape => ?_⟩
  · exact hne _ (List.mem_append_left _ (List.mem_append_left _ hmem)) rfl
  · exact hne _ (List.mem_append_left _ (List.mem_append_right _ hmem)) rfl
  · exact hne _ (List.mem_append_right _ (by rw [hescape]; exact List.mem_cons_self ..)) rfl

theorem isPlain_of_mem_toDigits {base n : Nat} {c : Char} (hbase : 1 < base)
    (h : c ∈ Nat.toDigits base n) : isPlain c := by
  induction n using Nat.strongRecOn with
  | ind n ih =>
      rw [Nat.toDigits_eq_if hbase] at h
      split at h
      · obtain rfl := List.mem_singleton.1 h
        exact isPlain_digitChar n
      · next hlarge =>
          have hsmaller : n / base < n := Nat.div_lt_self (by omega) hbase
          rcases List.mem_append.1 h with hmem | hmem
          · exact ih _ hsmaller hmem
          · obtain rfl := List.mem_singleton.1 hmem
            exact isPlain_digitChar _

theorem isPlain_of_mem_replicate {n : Nat} {c : Char} (h : c ∈ List.replicate n '0') :
    isPlain c := by
  obtain rfl := List.eq_of_mem_replicate h
  rfl

theorem isPlain_of_mem_padded {base width n : Nat} {c : Char} (hbase : 1 < base)
    (h : c ∈ padded base width n) : isPlain c := by
  unfold padded at h
  rcases List.mem_append.1 h with hzero | hdigit
  · exact isPlain_of_mem_replicate hzero
  · exact isPlain_of_mem_toDigits hbase hdigit

theorem le_length_padded (base width n : Nat) : width ≤ (padded base width n).length := by
  simp only [padded, List.length_append, List.length_replicate]
  omega

theorem isPlain_of_isDigit {c : Char} (h : c.isDigit) : isPlain c := by
  have hmarks : ∀ mark ∈ openingMarks ++ templateMarks ++ ['\\'], mark.isDigit = false := by
    simp [openingMarks, templateMarks]
  have hne : c ∉ openingMarks ++ templateMarks ++ ['\\'] := fun hmem => by
    rw [hmarks c hmem] at h
    cases h
  simpa [isPlain, not_or, and_assoc] using hne

theorem Number.AreDigits.isPhrase {text : List Char} (h : AreDigits text) : IsPhrase text :=
  .of_forall h.nonempty fun c hmem => isPlain_of_isDigit (h.digit c hmem)

theorem isPhrase_padded (width n : Nat) : IsPhrase (padded 10 width n) :=
  (areDigits_padded width n).isPhrase

/-! ## Numbers -/

theorem Number.IsUnsigned.isPhrase {text : List Char} (h : IsUnsigned text) : IsPhrase text := by
  obtain ⟨hwhole, hfraction, hpower⟩ := h
  refine (hwhole.isPhrase.append ?_).append ?_
  · cases hfraction with
    | none => rfl
    | point hdigits => exact (IsPhrase.cons rfl hdigits.isPhrase.tame).tame
  · cases hpower with
    | none => rfl
    | @signed mark sign digits hmark hsign hdigits =>
        have hsigned : isTame (sign :: digits) := by
          rcases hsign with rfl | rfl
          · exact hdigits.isPhrase.minus
          · exact (IsPhrase.cons rfl hdigits.isPhrase.tame).tame
        rcases hmark with rfl | rfl <;> exact (IsPhrase.cons rfl hsigned).tame

/-- A numeric token is tame. -/
theorem Number.IsNumeral.isTame {text : List Char} (h : IsNumeral text) : isTame text := by
  cases h with
  | unsigned h => exact h.isPhrase.tame
  | minus h => exact h.isPhrase.minus

theorem isTame_integerText (i : Int) : isTame (integerText i) :=
  (isNumeral_integerText i).isTame

theorem isTame_binary64Text (x : Binary64) : isTame x.text := by
  cases x with
  | finite negative significand exponent => exact (isNumeral_binary64Text rfl).isTame
  | infinite negative => cases negative <;> rfl
  | nan => rfl

theorem isTame_decimalText (d : Decimal) : isTame d.text := by
  have hsigned : ∀ (negative : Bool) {text : List Char}, IsPhrase text →
      isTame ((if negative then ['-'] else []) ++ text) := by
    intro negative text h
    cases negative with
    | false => exact h.tame
    | true => exact h.minus
  cases d with
  | finite negative coefficient exponent => exact (isNumeral_decimalText rfl).isTame
  | infinite negative => exact hsigned negative ⟨rfl, rfl⟩
  | nan negative signaling payload =>
      have hword : IsPhrase (if signaling then "sNaN".toList else "NaN".toList) := by
        cases signaling <;> exact ⟨rfl, rfl⟩
      have hpayload : isTame (if payload = 0 then [] else Nat.toDigits 10 payload) := by
        split
        · rfl
        · exact (areDigits_toDigits payload).isPhrase.tame
      have hnan := hsigned negative (hword.append hpayload)
      rwa [← List.append_assoc] at hnan

/-! ## Dates, times and unique identifiers -/

/-- A group of digits behind a mark. -/
theorem isTame_group {mark : Char} (hmark : isPlain mark ∨ mark = '-') (width n : Nat) :
    isTame (mark :: padded 10 width n) := by
  rcases hmark with hplain | rfl
  · exact (IsPhrase.cons hplain (isPhrase_padded width n).tame).tame
  · exact (isPhrase_padded width n).minus

theorem isTame_dateText (date : Date) : isTame date.text :=
  isTame_append (isTame_append (isPhrase_padded 4 _).tame (isTame_group (.inr rfl) 2 _))
    (isTame_group (.inr rfl) 2 _)

theorem isTame_offsetText (offset : Int) : isTame (offsetText offset) := by
  unfold offsetText
  refine isTame_append (isTame_append (isTame_group ?_ 2 _) (isTame_group (.inl rfl) 2 _)) ?_
  · split
    · exact .inr rfl
    · exact .inl rfl
  · split
    · rfl
    · exact isTame_group (.inl rfl) 2 _

theorem isTame_timeText (time : TimeOfDay) : isTame time.text := by
  have hseconds : isTame (padded 10 2 time.hour ++ ':' :: padded 10 2 time.minute ++
      ':' :: padded 10 2 time.second) :=
    isTame_append (isTame_append (isPhrase_padded 2 _).tame (isTame_group (.inl rfl) 2 _))
      (isTame_group (.inl rfl) 2 _)
  unfold TimeOfDay.text
  refine isTame_append (isTame_append hseconds ?_) ?_
  · split
    · rfl
    · exact isTame_group (.inl rfl) 6 _
  · cases time.offset with
    | none => rfl
    | some offset => exact isTame_offsetText offset

theorem isTame_dateTimeText (dateTime : DateTime) : isTame dateTime.text :=
  isTame_append (isTame_dateText _) (IsPhrase.cons rfl (isTame_timeText _)).tame

theorem isTame_uuidText (value : Nat) : isTame (uuidText value) := by
  have hgroup : ∀ {start length : Nat}, start < 32 → 0 < length →
      IsPhrase (((padded 16 32 value).drop start).take length) := by
    intro start length hstart hlength
    have hdigits := le_length_padded 16 32 value
    refine .of_forall ?_ fun c hmem =>
      isPlain_of_mem_padded (by omega) (List.mem_of_mem_drop (List.mem_of_mem_take hmem))
    intro hnil
    have hcount := congrArg List.length hnil
    simp only [List.length_take, List.length_drop, List.length_nil] at hcount
    omega
  unfold uuidText
  refine isTame_append (isTame_append (isTame_append (isTame_append ?_ ?_) ?_) ?_) ?_
  · exact (hgroup (by omega) (by omega)).tame
  all_goals exact (hgroup (by omega) (by omega)).minus

/-! ## Scalars -/

theorem isTame_of_integerLiteral {i : Int} {text : List Char} (h : integerLiteral i = .ok text) :
    isTame text := by
  unfold integerLiteral at h
  split at h
  · cases h
  · obtain rfl := Except.ok.inj h
    exact isTame_integerText i

/-- **The text of every scalar is tame**, unless it is a text itself. -/
theorem isTame_of_text? {s : Scalar} {text : List Char} (h : s.text? = .ok text) :
    isTame text ∨ s = .text (String.ofList text) := by
  cases s with
  | bool b =>
      obtain rfl := Except.ok.inj h
      exact .inl (isNumeral_boolText b).isTame
  | int i => exact .inl (isTame_of_integerLiteral h)
  | float x =>
      obtain rfl := Except.ok.inj h
      exact .inl (isTame_binary64Text x)
  | decimal d =>
      obtain rfl := Except.ok.inj h
      exact .inl (isTame_decimalText d)
  | text t =>
      obtain rfl := Except.ok.inj h
      exact .inr (by rw [String.ofList_toList])
  | date d =>
      obtain rfl := Except.ok.inj h
      exact .inl (isTame_dateText d)
  | time t =>
      obtain rfl := Except.ok.inj h
      exact .inl (isTame_timeText t)
  | dateTime t =>
      obtain rfl := Except.ok.inj h
      exact .inl (isTame_dateTimeText t)
  | uuid u =>
      obtain rfl := Except.ok.inj h
      exact .inl (isTame_uuidText u)

end SqlTemplate
