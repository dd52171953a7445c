/-!
# Errors and their causes

An error is told by its own text and the texts of what caused it, the nearest cause first
(`CauseChain`). `CauseChain.joined` is the whole story in one line.
-/

set_option autoImplicit false
set_option relaxedAutoImplicit false

namespace ResourceLookup

/-- The text of an error and the texts of its causes, the nearest first. -/
structure CauseChain where
  text : String
  causes : List String
  deriving DecidableEq

namespace CauseChain

/-- The text of an error followed by the texts of all its causes. -/
def joined (chain : CauseChain) : String :=
  String.intercalate ": " (chain.text :: chain.causes)

/-- The texts of the chain, outermost first. -/
def toList (chain : CauseChain) : List String :=
  chain.text :: chain.causes

/-- The chain of the given texts; without any, an error with the text `fallback`. -/
def ofList (fallback : String) : List String → CauseChain
  | [] => ⟨fallback, []⟩
  | text :: causes => ⟨text, causes⟩

end CauseChain

end ResourceLookup
