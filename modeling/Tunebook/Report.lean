/-!
# Reports

The outcome of a check is the list of its complaints; what is checked is valid when there are none.
-/

namespace Tunebook

structure Report where
  errors : List String
  deriving DecidableEq, Repr, Inhabited

def Report.isValid (r : Report) : Bool := r.errors.isEmpty

end Tunebook
