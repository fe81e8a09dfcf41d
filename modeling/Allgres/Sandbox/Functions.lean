import Allgres.Sandbox.Relations

namespace Allgres

/-- The functions a statement calls. -/
def Node.calls (tree : Node) : List FuncRef :=
  tree.funcnames.filterMap FuncRef.ofParts

end Allgres
