import DmlOutline.Json

/-!
# Reading structures

A structure is written as an object with a field for each of its members, or as an array of them in
order. Fields that the structure does not know are passed over; a known one may not come twice.

* `Json.members?` — the members of a structure by their names.
* `Json.Member.required`, `Json.Member.nullable`, `Json.Member.withDefault` — the three ways to
  read one.
* `Json.text?`, `Json.flag?`, `Json.line?`, `Json.list?`, `Json.option?` — values of simple types.
* `Json.tag?` — one of a fixed set of words.
-/

namespace DmlOutline.Json

/-! ## Simple values -/

/-- A text. -/
def text? : Json → Option String
  | string text => some text
  | _ => none

/-- A truth value. -/
def flag? : Json → Option Bool
  | bool value => some value
  | _ => none

/-- A line number, which fits thirty-two bits. -/
def line? : Json → Option Nat
  | nat value => if value < UInt32.size then some value else none
  | _ => none

/-- A list of values of one type. -/
def list? {α : Type} (read : Json → Option α) : Json → Option (List α)
  | array items => items.mapM read
  | _ => none

/-- A value or null. -/
def option? {α : Type} (read : Json → Option α) : Json → Option (Option α)
  | null => some none
  | value => (read value).map some

/-- A word: the text itself, or an object whose only field has it as its name and null as its
value, where objects are allowed. -/
def tag? (objects : Bool) : Json → Option String
  | string text => some text
  | object [(name, null)] => if objects then some name else none
  | _ => none

/-! ## Members -/

/-- What a structure holds for one of its members. -/
inductive Member where
  /-- The member has this value. -/
  | given (value : Json)
  /-- An object has no field of this name. -/
  | omitted
  /-- An array ends before the place of this member. -/
  | cutOff
  deriving Inhabited

/-- The member of an object; its name may not come twice. -/
def Member.ofFields? (fields : List (String × Json)) (name : String) : Option Member :=
  match fields.filter (·.1 = name) with
  | [] => some .omitted
  | [field] => some (.given field.2)
  | _ => none

/-- The members of a structure, in the order of their names. -/
def members? (names : List String) : Json → Option (List Member)
  | object fields => names.mapM (Member.ofFields? fields)
  | array items =>
    if items.length ≤ names.length then
      some (items.map .given ++ List.replicate (names.length - items.length) .cutOff)
    else none
  | _ => none

namespace Member

variable {α : Type}

/-- A member that must be there. -/
def required (read : Json → Option α) : Member → Option α
  | given value => read value
  | _ => none

/-- A member that may be null, and that an object may leave out. -/
def nullable (read : Json → Option α) : Member → Option (Option α)
  | given value => option? read value
  | omitted => some none
  | cutOff => none

/-- A member that may be left out, and then has a default. -/
def withDefault (read : Json → Option α) (default : α) : Member → Option α
  | given value => read value
  | _ => some default

end Member

end DmlOutline.Json
