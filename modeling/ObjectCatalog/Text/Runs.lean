/-!
# Runs of code points

A property of characters is tabulated as runs: closed intervals of the code points that have it.
-/

namespace ObjectCatalog.Text

def inRuns (runs : List (Nat × Nat)) (n : Nat) : Bool :=
  runs.any fun (first, last) => first ≤ n && n ≤ last

end ObjectCatalog.Text
