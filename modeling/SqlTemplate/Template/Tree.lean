import SqlTemplate.Template.Block
import SqlTemplate.Template.Tag

/-!
# The tree of a template

A template is read as a sequence of nodes: text that is copied, placeholders, and blocks with their
alternatives, each of which is a template of its own.  Reading stops at the first fault, which becomes
the last node; so every text has a tree, and whatever stands in front of a fault is still expanded
before the fault is met.

A block is cut out of its template at the matching brace, its content is divided at the bars, and the
alternatives are read separately.  The content `{}` of nothing is copied as it stands.
-/

namespace SqlTemplate

inductive Node where
  /-- Characters that are copied to the statement. -/
  | verbatim (text : List Char)
  | placeholder (tag : Tag)
  /-- An optional block; a gated one takes a parameter of its own before its content. -/
  | block (gated : Bool) (alternatives : List (List Node))
  | fault (fault : Fault)
deriving Repr

/-- A template that has been read. -/
abbrev Template := List Node

/-- Whether the content of a block opens with the mark of a gate, and the content without that mark,
in whose place a space is left. -/
def splitGate : List Char → Bool × List Char
  | '?' :: rest => (true, ' ' :: rest)
  | content => (false, content)

theorem length_splitGate (content : List Char) : (splitGate content).2.length = content.length := by
  unfold splitGate
  split <;> simp

/-! ## Tokens -/

/-- What a scan of a template meets next. -/
inductive Token where
  | copied (text : List Char)
  | placeholder (tag : Tag)
  | block (content : List Char)
  | fault (problem : Problem)
deriving DecidableEq, Repr

/-- The number of characters of a token; a fault is where reading stops. -/
def Token.length : Token → Nat
  | copied text => text.length
  | placeholder tag => 1 + tag.name.length
  | block content => content.length + 2
  | fault _ => 0

/-- The token that a structural character starts, and the text after the token. -/
def tokenAt (c : Char) (rest : List Char) : Token × List Char :=
  match c with
  | '{' =>
      match closingBrace? 1 (lexemes rest) with
      | none => (.fault .unclosedBlock, rest)
      | some length =>
          let content := rest.take length
          (if content.isEmpty then .copied ['{', '}'] else .block content, rest.drop (length + 1))
  | '}' => (.fault .strayClosingBrace, rest)
  | '?' =>
      let (tag, after) := Tag.split rest
      (.placeholder tag, after)
  | _ =>
      match RegionKind.ofOpening? (c :: rest) with
      | some kind => (.fault (.unclosedRegion kind), rest)
      | none => (.copied [c], rest)

/-- The first token of a text, and the text after it. -/
def nextToken? (text : List Char) : Option (Token × List Char) :=
  match nextLexeme? text with
  | none => none
  | some (.region region, rest) => some (.copied region.text, rest)
  | some (.char c, rest) => some (tokenAt c rest)

theorem length_tokenAt_le (c : Char) (rest : List Char) :
    (tokenAt c rest).2.length ≤ rest.length := by
  unfold tokenAt
  split
  · split
    · simp
    · simp
  · simp
  · exact Tag.length_split_le rest
  · split <;> simp

/-- Reading a token always makes the text shorter. -/
theorem length_lt_of_nextToken? {text rest : List Char} {token : Token}
    (h : nextToken? text = some (token, rest)) : rest.length < text.length := by
  unfold nextToken? at h
  split at h
  · simp at h
  · next found =>
    simp only [Option.some.injEq, Prod.mk.injEq] at h
    exact h.2 ▸ length_lt_of_nextLexeme? found
  · next c after found =>
    simp only [Option.some.injEq] at h
    have shorter := length_lt_of_nextLexeme? found
    have bound := length_tokenAt_le c after
    rw [h] at bound
    exact Nat.lt_of_le_of_lt bound shorter

/-- The content of a block is shorter than the text that the block stands in. -/
theorem length_content_lt_of_nextToken? {text rest content : List Char}
    (h : nextToken? text = some (.block content, rest)) : content.length < text.length := by
  unfold nextToken? at h
  split at h
  · simp at h
  · simp at h
  · next c after found =>
    have shorter := length_lt_of_nextLexeme? found
    simp only [Option.some.injEq] at h
    unfold tokenAt at h
    split at h
    · split at h
      · simp at h
      · simp only [Prod.mk.injEq] at h
        have same := h.1
        split at same
        · simp at same
        · simp only [Token.block.injEq] at same
          rw [← same, List.length_take]
          omega
    · simp at h
    · simp at h
    · split at h <;> simp at h

/-! ## Reading a template -/

/-- Reads a text whose first character stands at the given offset. -/
def Template.readFrom (offset : Nat) (text : List Char) : Template :=
  match _found : nextToken? text with
  | none => []
  | some (.fault problem, _) => [.fault ⟨problem, offset⟩]
  | some (.copied copied, rest) =>
      .verbatim copied :: readFrom (offset + copied.length) rest
  | some (.placeholder tag, rest) =>
      .placeholder tag :: readFrom (offset + (Token.placeholder tag).length) rest
  | some (.block content, rest) =>
      .block (splitGate content).1
          ((alternatives (splitGate content).2).attach.map fun ⟨piece, _⟩ => readFrom 0 piece) ::
        readFrom (offset + (Token.block content).length) rest
termination_by text.length
decreasing_by
  · exact length_lt_of_nextToken? _found
  · exact length_lt_of_nextToken? _found
  · next member =>
    have shorter := length_le_of_mem_alternatives member
    rw [length_splitGate] at shorter
    exact Nat.lt_of_le_of_lt shorter (length_content_lt_of_nextToken? _found)
  · exact length_lt_of_nextToken? _found

def Template.read (text : List Char) : Template :=
  readFrom 0 text

/-- The block with the given content. -/
def Node.ofContent (content : List Char) : Node :=
  let (gated, body) := splitGate content
  .block gated ((alternatives body).map Template.read)

end SqlTemplate
