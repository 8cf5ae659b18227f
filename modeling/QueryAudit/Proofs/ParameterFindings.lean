import QueryAudit.Proofs.Analysis

/-!
# The findings about parameters

What is reported about the parameters of a query and in which order, stated on the lists that the
call site and the database give. Letter case does not count: a key is the lower case of a name, and
the first parameter and the first usage of a key stand for it. Missing keys come first, then one
finding about names that nothing expects, then keys whose writer does not fit.
-/

namespace QueryAudit.Analysis

/-! ## Keys -/

variable (operation : Operation) (description : Description)

/-! ## The dictionaries -/

end QueryAudit.Analysis
