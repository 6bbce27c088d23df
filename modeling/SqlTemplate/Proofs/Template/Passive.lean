import SqlTemplate.Proofs.Template.FaultFree

/-!
# Text that may stand in front of any other text

Where two texts meet, something may be found that neither of them holds: two
minuses make a comment, and a backtick behind an identifier reopens it.  A text is
*passive* if nothing of the kind happens in front of any text, and if it holds no
comment and no mark of a template itself: what is found in the two together is then
just what is found in the second one (`Passive`).

## Strategy

Passive texts may be put one after the other (`Passive.append`), so it is enough to
find the smallest ones.  There are two kinds.

* A region that is closed and is no comment (`passive_of_close?`).  An identifier may
  well run on into the text behind it, but then that text goes on inside of an
  identifier either way (`activesFrom?_identifier_mark`).
* A text without marks, in which a minus is only found in front of another character
  without a meaning, as in numbers and dates (`passive_of_isTame`).
-/

namespace SqlTemplate

/-! ## What is found in a text -/

def RegionKind.isComment : RegionKind → Bool
  | lineComment | blockComment => true
  | doubleQuoted | singleQuoted | identifier => false

def Lexeme.isComment : Lexeme → Bool
  | .region r => r.kind.isComment
  | .char _ => false

/-- The characters that mean something to a template. -/
def templateMarks : List Char := ['{', '}', '?']

/-- Whether a lexeme is a comment or a mark of a template. -/
def Lexeme.isActive : Lexeme → Bool
  | .region r => r.kind.isComment
  | .char c => decide (c ∈ templateMarks)

/-- The comments and the marks of a template that the pass finds from a place on. -/
def activesFrom? (place : Place) (text : List Char) : Option (List Lexeme) :=
  (passFrom? place text).map (List.filter Lexeme.isActive)

theorem activesFrom?_cons {c : Char} {rest : List Char}
    (hopening : RegionKind.ofOpening? (c :: rest) = none) (hmark : c ∉ templateMarks) :
    activesFrom? .outside (c :: rest) = activesFrom? .outside rest := by
  have hfilter : ∀ parts : List Lexeme,
      (Lexeme.char c :: parts).filter Lexeme.isActive = parts.filter Lexeme.isActive := by
    intro parts
    apply List.filter_cons_of_neg
    simp [Lexeme.isActive, hmark]
  unfold activesFrom?
  rw [passFrom?_outside_cons hopening, Option.map_map]
  congr 1
  funext parts
  exact hfilter parts

/-- A region that is no comment leaves what is found behind it. -/
theorem activesFrom?_opening {kind : RegionKind} (hkind : kind.isComment = false)
    (after : List Char) :
    activesFrom? .outside (kind.opening ++ after) =
      (kind.close? after).bind fun split => activesFrom? .outside split.2 := by
  unfold activesFrom?
  rw [passFrom?_opening, Option.map_bind]
  congr 1
  funext split
  simp [Function.comp_def, Lexeme.isActive, hkind]

/-- What is found from inside of an identifier does not depend on what was seen of it. -/
theorem activesFrom?_identifier (seen text : List Char) :
    activesFrom? (.identifier seen) text =
      (closeIdentifier? text).bind fun split => activesFrom? .outside split.2 := by
  unfold activesFrom?
  rw [passFrom?_identifier, Option.map_bind]
  congr 1
  funext split
  simp [Function.comp_def, Lexeme.isActive, RegionKind.isComment]

/-- At a backtick an identifier may be left, whatever follows: a second backtick, which
would keep it open, would open it again. -/
theorem activesFrom?_identifier_mark (seen rest : List Char) :
    activesFrom? (.identifier seen) (identifierMark :: rest) = activesFrom? .outside rest := by
  by_cases hdouble : ∃ more, rest = identifierMark :: more
  · obtain ⟨more, rfl⟩ := hdouble
    have hinside : activesFrom? (.identifier seen) (identifierMark :: identifierMark :: more) =
        activesFrom? (.identifier (identifierMark :: identifierMark :: seen)) more := by
      unfold activesFrom?
      rw [identifierMark, passFrom?]
    have houtside : activesFrom? .outside (identifierMark :: more) =
        activesFrom? (.identifier [identifierMark]) more := by
      unfold activesFrom?
      rw [identifierMark, passFrom?]
    rw [hinside, houtside, activesFrom?_identifier, activesFrom?_identifier]
  · have hclosed : closeIdentifier? (identifierMark :: rest) = some ([identifierMark], rest) := by
      rw [identifierMark, closeIdentifier?]
      intro more hmore
      exact hdouble ⟨more, hmore⟩
    rw [activesFrom?_identifier, hclosed, Option.bind_some]

/-- An identifier that is closed is left at its last backtick, whatever follows. -/
theorem activesFrom?_of_closeIdentifier? {text body rest : List Char}
    (h : closeIdentifier? text = some (body, rest)) (seen other : List Char) :
    activesFrom? (.identifier seen) (body ++ other) = activesFrom? .outside other := by
  fun_induction closeIdentifier? text generalizing body seen with
  | case1 => cases h
  | case2 tail split hsplit ih =>
      obtain ⟨inner, after⟩ := split
      simp only [prepend, Option.some.injEq, Prod.mk.injEq] at h
      obtain ⟨rfl, rfl⟩ := h
      rw [← ih hsplit ('\x60' :: '\x60' :: seen)]
      unfold activesFrom?
      rw [List.cons_append, List.cons_append, passFrom?]
  | case3 tail hopen ih =>
      simp only [Option.some.injEq, Prod.mk.injEq] at h
      obtain ⟨rfl, -⟩ := h
      exact activesFrom?_identifier_mark seen other
  | case4 tail hdouble =>
      simp only [Option.some.injEq, Prod.mk.injEq] at h
      obtain ⟨rfl, -⟩ := h
      exact activesFrom?_identifier_mark seen other
  | case5 c tail hdouble hmark ih =>
      obtain ⟨⟨inner, after⟩, hinner, hsplit⟩ := Option.map_eq_some_iff.1 h
      simp only [prepend, Prod.mk.injEq] at hsplit
      obtain ⟨rfl, rfl⟩ := hsplit
      rw [← ih hinner (c :: seen)]
      unfold activesFrom?
      rw [List.cons_append, passFrom?]
      · exact fun more hc _ => hmark hc
      · exact hmark

/-! ## Passive texts -/

/-- A text is passive if whatever is found in it together with another text behind it
is found in the other text alone. -/
def Passive (text : List Char) : Prop :=
  ∀ rest, activesFrom? .outside (text ++ rest) = activesFrom? .outside rest

theorem Passive.nil : Passive [] := fun _ => rfl

theorem Passive.append {front back : List Char} (hfront : Passive front) (hback : Passive back) :
    Passive (front ++ back) := by
  intro rest
  calc activesFrom? .outside (front ++ back ++ rest)
      = activesFrom? .outside (front ++ (back ++ rest)) := by rw [List.append_assoc]
    _ = activesFrom? .outside (back ++ rest) := hfront _
    _ = activesFrom? .outside rest := hback _

theorem Passive.intercalate {separator : List Char} {pieces : List (List Char)}
    (hseparator : Passive separator) (hpieces : ∀ piece ∈ pieces, Passive piece) :
    Passive (separator.intercalate pieces) := by
  induction pieces with
  | nil => exact Passive.nil
  | cons first others ih =>
      have hfirst := hpieces first (List.mem_cons_self ..)
      have hothers := ih fun piece hmem => hpieces piece (List.mem_cons_of_mem _ hmem)
      cases others with
      | nil => simpa using hfirst
      | cons second more =>
          rw [List.intercalate_cons_cons]
          exact (hfirst.append hseparator).append hothers

/-! ### Closed regions -/

/-- **A closed region is passive** unless it is a comment. -/
theorem passive_of_close? (kind : RegionKind) {text body rest : List Char}
    (hkind : kind.isComment = false) (h : kind.close? text = some (body, rest)) :
    Passive (kind.opening ++ body) := by
  intro other
  rw [List.append_assoc]
  cases kind with
  | lineComment => cases hkind
  | blockComment => cases hkind
  | doubleQuoted =>
      have hclosed := closeString?_append h other
      rw [activesFrom?_opening hkind, RegionKind.close?, hclosed, Option.bind_some]
  | singleQuoted =>
      have hclosed := closeString?_append h other
      rw [activesFrom?_opening hkind, RegionKind.close?, hclosed, Option.bind_some]
  | identifier =>
      have hinside := activesFrom?_of_closeIdentifier? h [identifierMark] other
      rw [← hinside]
      unfold activesFrom?
      rw [RegionKind.opening, List.singleton_append, passFrom?]
      rfl

/-! ### Tame texts -/

/-- Whether a character neither belongs to the mark of a region nor means anything to
a template or to a string. -/
def isPlain (c : Char) : Bool :=
  decide (c ∉ openingMarks ∧ c ∉ templateMarks ∧ c ≠ '\\')

/-- Whether a text has only plain characters, and minuses in front of them. -/
def isTame : List Char → Bool
  | [] => true
  | c :: rest => (isPlain c || (c == '-' && rest.head?.any isPlain)) && isTame rest

theorem isTame_cons (c : Char) (rest : List Char) :
    isTame (c :: rest) = ((isPlain c || (c == '-' && rest.head?.any isPlain)) && isTame rest) := rfl

theorem isTame_of_forall {text : List Char} (h : ∀ c ∈ text, isPlain c) : isTame text := by
  induction text with
  | nil => rfl
  | cons c rest ih =>
      have hrest := ih fun d hmem => h d (List.mem_cons_of_mem _ hmem)
      rw [isTame_cons, h c (List.mem_cons_self ..), hrest]
      rfl

theorem isTame_append {front back : List Char} (hfront : isTame front) (hback : isTame back) :
    isTame (front ++ back) := by
  induction front with
  | nil => exact hback
  | cons c rest ih =>
      rw [isTame_cons, Bool.and_eq_true] at hfront
      obtain ⟨hc, hrest⟩ := hfront
      rw [List.cons_append, isTame_cons, ih hrest, Bool.and_true]
      cases rest with
      | nil =>
          -- a minus at the end would have nothing behind it
          have hplain : isPlain c := by simpa using hc
          rw [hplain, Bool.true_or]
      | cons d more => exact hc

theorem isTame_minus {text : List Char} (hhead : text.head?.any isPlain) (h : isTame text) :
    isTame ('-' :: text) := by
  rw [isTame_cons, h, hhead]
  rfl

theorem not_mem_of_isTame {text : List Char} (h : isTame text) : '\\' ∉ text := by
  induction text with
  | nil => exact List.not_mem_nil
  | cons c rest ih =>
      rw [isTame_cons, Bool.and_eq_true] at h
      obtain ⟨hc, hrest⟩ := h
      rw [List.mem_cons, not_or]
      refine ⟨?_, ih hrest⟩
      rintro rfl
      simp [isPlain] at hc

theorem passive_of_isTame {text : List Char} (h : isTame text) : Passive text := by
  intro other
  induction text with
  | nil => rfl
  | cons c rest ih =>
      rw [isTame_cons, Bool.and_eq_true, Bool.or_eq_true] at h
      obtain ⟨hc, hrest⟩ := h
      rw [List.cons_append, ← ih hrest]
      rcases hc with hplain | hminus
      · simp only [isPlain, decide_eq_true_eq] at hplain
        exact activesFrom?_cons (ofOpening?_eq_none hplain.1 _) hplain.2.1
      · rw [Bool.and_eq_true, beq_iff_eq] at hminus
        obtain ⟨rfl, hhead⟩ := hminus
        cases rest with
        | nil => cases hhead
        | cons d more =>
            have hd : isPlain d := hhead
            have hdash : d ≠ '-' := by
              rintro rfl
              simp [isPlain, openingMarks] at hd
            refine activesFrom?_cons ?_ (by simp [templateMarks])
            unfold RegionKind.ofOpening?
            split <;> simp_all

/-! ## Passive texts as templates -/

theorem Passive.lexemes {text : List Char} (h : Passive text) :
    settled (lexemes text) ∧ ∀ lexeme ∈ lexemes text, lexeme.isActive = false := by
  have hactives := h []
  have hpass : passFrom? .outside text = _ := pass?_eq text
  rw [List.append_nil, activesFrom?, hpass] at hactives
  cases hsettled : settled (SqlTemplate.lexemes text) with
  | false =>
      rw [hsettled] at hactives
      cases hactives
  | true =>
      rw [hsettled] at hactives
      refine ⟨rfl, ?_⟩
      have hfilter : (SqlTemplate.lexemes text).filter Lexeme.isActive = [] :=
        Option.some.inj hactives
      intro lexeme hmem
      simpa using List.filter_eq_nil_iff.1 hfilter lexeme hmem

/-- Without comments and marks of a template everything is copied. -/
theorem nodes_of_reading {offset : Nat} {parts : List Lexeme} {nodes : Template}
    (h : Reading offset parts nodes) (hsettled : settled parts)
    (hactive : ∀ lexeme ∈ parts, lexeme.isActive = false) :
    nodes = parts.map fun lexeme => .verbatim lexeme.text := by
  have hmark : ∀ {c : Char}, .char c ∈ parts → c ∉ templateMarks := by
    intro c hmem
    simpa [Lexeme.isActive] using hactive _ hmem
  cases h with
  | done => rfl
  | @region _ region parts nodes hrest =>
      have htail := nodes_of_reading hrest hsettled fun lexeme hmem =>
        hactive lexeme (List.mem_cons_of_mem _ hmem)
      rw [htail]
      rfl
  | @plain _ c parts nodes hplain hopening hrest =>
      have htail := nodes_of_reading hrest (settled_of_cons hsettled) fun lexeme hmem =>
        hactive lexeme (List.mem_cons_of_mem _ hmem)
      rw [htail]
      rfl
  | emptyBlock => exact absurd (hmark (List.mem_cons_self ..)) (by simp [templateMarks])
  | untagged => exact absurd (hmark (List.mem_cons_self ..)) (by simp [templateMarks])
  | tagged => exact absurd (hmark (List.mem_cons_self ..)) (by simp [templateMarks])
  | block => exact absurd (hmark (List.mem_cons_self ..)) (by simp [templateMarks])
  | unclosedBlock => exact absurd (hmark (List.mem_cons_self ..)) (by simp [templateMarks])
  | strayClosingBrace => exact absurd (hmark (List.mem_cons_self ..)) (by simp [templateMarks])
  | unclosedRegion hopening =>
      rw [settled, hopening] at hsettled
      cases hsettled

/-- A passive text, read as a template, is copied as it stands. -/
theorem Passive.read {text : List Char} (h : Passive text) :
    Template.read text = (SqlTemplate.lexemes text).map fun lexeme => .verbatim lexeme.text :=
  nodes_of_reading (reading_read text) h.lexemes.1 h.lexemes.2

end SqlTemplate
