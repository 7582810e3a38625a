import EcmaModule.Atoms
import EcmaModule.Comment
import EcmaModule.Diagnostic.Handler
import EcmaModule.SourceMap.Registry

/-! What a sequence of parses shares: the source files, the comments read from
them, the interned names and the diagnostic pipeline. -/
namespace EcmaModule

structure Context where
  sources : SourceMap := {}
  comments : CommentStore := {}
  atoms : Atoms := {}
  pipeline : Pipeline := {}

namespace Context

/-- A context without history. -/
def fresh (flags : HandlerFlags) : Context := { pipeline := { flags } }

instance : Inhabited Context := ⟨{}⟩

end Context

end EcmaModule
