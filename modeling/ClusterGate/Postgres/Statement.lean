import ClusterGate.Text.Blank
import ClusterGate.Text.Case

/-!
# Statements that return rows
-/

namespace ClusterGate.Postgres

def rowKeywords : List String := ["SELECT", "WITH", "SHOW", "EXPLAIN"]

/-- The upper case of the text begins with one of the words for statements that return rows. What
follows the word does not matter. -/
def returnsRows (sql : String) : Bool :=
  let raised := (Text.skipBlank sql.toList).flatMap Text.upper
  rowKeywords.any fun keyword => keyword.toList.isPrefixOf raised

end ClusterGate.Postgres
