import SqlTemplate.Quoter
import SqlTemplate.Text.Quoted

/-!
# The registry of quoters

A registry binds the names of database targets to quoters.  Binding a name again replaces its quoter.
A name that is not bound is reported together with all names that are.
-/

namespace SqlTemplate

/-- Quoters under the names of their targets; every name is bound at most once. -/
structure Registry where
  bindings : List (String × Quoter)

/-- A target without a quoter, and the targets that have one. -/
structure UnknownTarget where
  name : String
  known : List String
deriving DecidableEq, Repr

/-- The text about an unknown target.  Known targets are listed in the order of their characters, and
an empty list is spelled out. -/
def UnknownTarget.message (unknown : UnknownTarget) : String :=
  let listed := ", ".intercalate (unknown.known.mergeSort fun a b => decide (a ≤ b))
  let shown := if listed.isEmpty then "none" else listed
  "No string quoter for target " ++ Text.quoted unknown.name ++ " (known targets: " ++ shown ++ ")."

namespace Registry

/-- The targets that need no registration. -/
def builtIn : Registry :=
  ⟨[("mysql", Quoter.mysql), ("sqlite", Quoter.sqlite)]⟩

/-- Unbinds a name. -/
def erase (registry : Registry) (name : String) : Registry :=
  ⟨registry.bindings.filter (·.1 != name)⟩

/-- Binds a name to a quoter. -/
def insert (registry : Registry) (name : String) (quoter : Quoter) : Registry :=
  ⟨(registry.erase name).bindings ++ [(name, quoter)]⟩

/-- Whether a name is bound. -/
def contains (registry : Registry) (name : String) : Bool :=
  registry.bindings.any (·.1 == name)

/-- The quoter of a target. -/
def find (registry : Registry) (name : String) : Except UnknownTarget Quoter :=
  match registry.bindings.lookup name with
  | some quoter => .ok quoter
  | none => .error ⟨name, registry.bindings.map (·.1)⟩

/-- A name that was bound last has the quoter that it was bound to. -/
theorem find_insert (registry : Registry) (name : String) (quoter : Quoter) :
    (registry.insert name quoter).find name = .ok quoter := by
  have absent : (registry.erase name).bindings.lookup name = none := by
    rw [List.lookup_eq_none_iff]
    intro binding member
    have kept := (List.mem_filter.1 member).2
    simp only [bne_iff_ne, ne_eq] at kept
    simpa using fun same => kept same.symm
  simp [find, insert, List.lookup_append, absent]

end Registry

end SqlTemplate
