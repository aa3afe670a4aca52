/-
  PyBoard.Core.RequestLogging — the query parameters of a logged request.

  The items of a query are logged as a dict; a repeated key collects its values in a list.
-/
import PyBoard.Python.Formats

namespace PyBoard.RequestLogging

variable (rt : Runtime)

def SENSITIVE_KEYS : List String :=
  ["authorization", "csrf", "csrf_token", "email_code", "key", "password", "secret", "sign",
    "token"]

/-- `_is_sensitive_key`. -/
def isSensitiveKey (key : String) : Bool :=
  let lowered := rt.lower key
  lowered ∈ SENSITIVE_KEYS || ["token", "password", "secret"].any fun part => isIn part lowered

/-- What is stored of an item. -/
def storedValue (item : String × String) : String :=
  if isSensitiveKey rt item.1 then "***" else item.2

/-- Store a value under a key, next to those that are there. -/
def collect (redacted : JsonDict) (key stored : String) : JsonDict :=
  match Json.lookup redacted key with
  | some (.arr existing) => dictSet redacted key (.arr (existing ++ [.str stored]))
  | some existing => dictSet redacted key (.arr [existing, .str stored])
  | none => dictSet redacted key (.str stored)

/-- `_redact_query`, of the items `params.multi_items()`. -/
def redactQuery (items : List (String × String)) : JsonDict :=
  items.foldl (fun redacted item => collect redacted item.1 (storedValue rt item)) []

end PyBoard.RequestLogging
