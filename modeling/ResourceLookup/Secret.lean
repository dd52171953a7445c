import ResourceLookup.Text.Blank

/-!
# Secrets

A text that is never shown: `Secret.shown` is what stands in its place wherever it would be printed.
-/

set_option autoImplicit false
set_option relaxedAutoImplicit false

namespace ResourceLookup

/-- A text that must not be shown. -/
structure Secret where
  exposed : String
  deriving DecidableEq

namespace Secret

/-- What is shown instead of any secret. -/
def shown (_ : Secret) : String := "[REDACTED]"

/-- Whether the secret is empty or holds white space only. -/
def isBlank (secret : Secret) : Bool :=
  Text.isBlank secret.exposed

/-- A provider that always gives the same token, in diagnostic texts. -/
def providerDiagnostic (token : Secret) : String :=
  "StaticTokenProvider \x7b token: " ++ token.shown ++ " \x7d"

end Secret

end ResourceLookup
