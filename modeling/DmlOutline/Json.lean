/-!
# JSON values

The values that outlines, records and configurations are stored and shown as.

* `Json` — a value. The library writes natural numbers only; what else a text may hold is
  `foreign`, which every reader of data refuses and which may be passed over.
-/

namespace DmlOutline

/-- A JSON value. -/
inductive Json where
  | null
  | bool (value : Bool)
  | nat (value : Nat)
  | string (text : String)
  | array (items : List Json)
  | object (fields : List (String × Json))
  /-- A well-formed value that carries no data here: a number with a sign, a fraction or an
  exponent, or a text with an unpaired surrogate in it. -/
  | foreign
  deriving Repr, Inhabited

end DmlOutline
