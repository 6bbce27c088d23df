import SqlTemplate.Quoter

/-!
# Standard string literals

A quoter may be made for an engine of SQLAlchemy.  That third-party package then writes the string
literals, in the way of the engine's dialect.  What stands here restates its rule, with the drivers that
the dialects have by default.  It serves to run expansions with such a quoter; what is known of
expansions does not rest on it.
-/

namespace SqlTemplate.Quoter

/-- The dialects whose drivers take a percent sign for a format mark. -/
def percentDialects : List String := ["mysql", "postgresql"]

/-- Standard string literals of a dialect: the quotation mark is doubled, and so is the percent sign
where the driver would take it for a format mark. -/
def standard (dialect : String) : Quoter :=
  doubling dialect (if dialect ∈ percentDialects then ['\'', '%'] else ['\''])

end SqlTemplate.Quoter
