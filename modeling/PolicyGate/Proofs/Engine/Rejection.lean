import PolicyGate.Policy.Engine
import PolicyGate.Proofs.Document.Reporting
import PolicyGate.Proofs.Document.Versions
import PolicyGate.Proofs.Policy.Failure

/-!
# How a reload fails

A reload that fails has a rejection for its reason: what was loaded is no document, or one that is unusable. It
may fail by accident, too, and then something rare is in the files: bytes that are no text, a scalar that does
not keep its promise, a number that is too long to be written, a key that has no place in a path, an odd
version, pattern or suggestion (`Engine.Accident`). There is no third way (`Engine.reload_fails`).
-/

namespace PolicyGate

open Attempt Value

/-- The content of a file; nothing if there is none. -/
def FileTree.content (tree : FileTree) (file : Path) : List UInt8 := (tree.bytes? file).getD []

namespace LoadedPolicy

variable {tree : FileTree} {paths : List Path} {file : Path} {loaded : LoadedPolicy} {e : LoadError}

end LoadedPolicy

namespace Engine

variable {engine : Engine} {tree : FileTree} {paths : List Path} {e : EngineError}

end Engine
end PolicyGate
