import Mathlib

/-! The JSON values the configuration is read from, with the conversions of jsoncpp
that the program relies on. A lookup inserts a null member where none is found; no
later lookup can tell it from a missing one, so the value is not threaded through. -/

namespace VehicleRunner.App

/-- What ends a configuration early. All but a thrown code are `std::exception`s. -/
inductive Exception where
  | logicError
  | badLexicalCast
  | zmqError
  | thrown (code : Int)
  /-- The bound put on the member loop ran out: `memberLoop_finishes`. -/
  | unfinished
  deriving DecidableEq

/-- A computation succeeds exactly when both its halves do. -/
theorem bind_ok {Value Other : Type} {first : Except Exception Value}
    {rest : Value → Except Exception Other} {outcome : Other} :
    (first >>= rest) = .ok outcome ↔ ∃ value, first = .ok value ∧ rest value = .ok outcome := by
  cases first with
  | error raised => simp [bind, Except.bind]
  | ok value => simp [bind, Except.bind]

namespace Json

/-- A floating-point number, as far as the program looks at one: its text, its
value as an `int` where that is in range, and whether it counts as true. -/
structure Real where
  text : String
  int : Option Int
  truth : Bool
  deriving DecidableEq

inductive Value where
  | null
  | bool (value : Bool)
  | integer (value : Int)
  | real (value : Real)
  | string (value : String)
  | array (elements : List Value)
  | object (members : List (String × Value))

namespace Value

/-- `operator[]` with a string key. -/
def get (json : Value) (key : String) : Except Exception Value :=
  match json with
  | .null => .ok .null
  | .object members => .ok ((members.lookup key).getD .null)
  | _ => .error .logicError

def asBool : Value → Except Exception Bool
  | .null => .ok false
  | .bool value => .ok value
  | .integer value => .ok (value != 0)
  | .real value => .ok value.truth
  | _ => .error .logicError

def asString : Value → Except Exception String
  | .null => .ok ""
  | .bool value => .ok (if value then "true" else "false")
  | .integer value => .ok (toString value)
  | .real value => .ok value.text
  | .string value => .ok value
  | _ => .error .logicError

def asInt : Value → Except Exception Int
  | .null => .ok 0
  | .bool value => .ok (if value then 1 else 0)
  | .integer value => if -2 ^ 31 ≤ value ∧ value < 2 ^ 31 then .ok value else .error .logicError
  | .real value =>
    match value.int with
    | some truncated => .ok truncated
    | none => .error .logicError
  | _ => .error .logicError

/-- True of null and of containers without elements; an empty string is not empty. -/
def empty : Value → Bool
  | .null => true
  | .array elements => elements.isEmpty
  | .object members => members.isEmpty
  | _ => false

def readBool (json : Value) (key : String) : Except Exception Bool := json.get key >>= asBool

def readString (json : Value) (key : String) : Except Exception String := json.get key >>= asString

def readInt (json : Value) (key : String) : Except Exception Int := json.get key >>= asInt

/-- The keys present in the value. -/
def keys : Value → List String
  | .object members => members.map Prod.fst
  | _ => []

theorem get_error {json : Value} {key : String} {raised : Exception}
    (failed : json.get key = .error raised) : raised = .logicError := by
  cases json with
  | null => cases failed
  | object members => cases failed
  | _ => exact (Except.error.inj failed).symm

theorem asString_error {value : Value} {raised : Exception}
    (failed : value.asString = .error raised) : raised = .logicError := by
  cases value with
  | array elements => exact (Except.error.inj failed).symm
  | object members => exact (Except.error.inj failed).symm
  | _ => cases failed

/-- A value that is not empty was found under a key of the object. -/
theorem mem_keys {json value : Value} {key : String} (found : json.get key = .ok value)
    (filled : value.empty = false) : key ∈ json.keys := by
  cases json with
  | null =>
    cases found
    cases filled
  | object members =>
    cases looked : members.lookup key with
    | none =>
      simp only [get, looked, Option.getD_none, Except.ok.injEq] at found
      subst found
      cases filled
    | some value =>
      obtain ⟨before, after, same, _⟩ := List.lookup_eq_some_iff.mp looked
      simp [keys, same]
  | _ => cases found

end Value

end Json

end VehicleRunner.App
