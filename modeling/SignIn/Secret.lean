import SignIn.Json.Reader

/-!
# Secrets

Texts that must not appear in diagnostics.
-/

namespace SignIn

/-- A text that diagnostics hide. -/
structure Secret where
  /-- The text itself. -/
  exposed : String
deriving DecidableEq

namespace Secret

/-- What is shown instead of any secret. -/
def text (_ : Secret) : String := "<redacted>"

/-- What a diagnostic shows of any secret. -/
def describe (secret : Secret) : String := "Secret(" ++ Text.quote secret.text ++ ")"

/-- A secret as a value, which does not hide it. -/
def value (secret : Secret) : Json.Value := .string secret.exposed

/-- Read a secret. -/
def reader : Json.Reader Secret := Json.text.map Secret.mk

end Secret

end SignIn
