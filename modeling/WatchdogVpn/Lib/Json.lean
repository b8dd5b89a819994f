import WatchdogVpn.Lib.PyDict

/-!
# Values of JSON documents

What `json.loads` gives. A floating-point number is kept as the text that `repr` has for it; an
object is a dictionary, so its keys differ.
-/

inductive Json
  | null
  | bool (b : Bool)
  | int (n : Int)
  | float (text : String)
  | str (text : String)
  | arr (items : List Json)
  | obj (fields : List (String × Json))

namespace Json

/-- Python's truth value. A float is false if it is zero. -/
def truthy : Json → Bool
  | null => false
  | bool b => b
  | int n => n != 0
  | float text => text != "0.0" && text != "-0.0"
  | str text => text != ""
  | arr items => !items.isEmpty
  | obj fields => !fields.isEmpty

mutual
/-- `repr(value)`, for texts without quotes or control characters. -/
def repr : Json → String
  | null => "None"
  | bool true => "True"
  | bool false => "False"
  | int n => toString n
  | float text => text
  | str text => "'" ++ text ++ "'"
  | arr items => "[" ++ ", ".intercalate (reprItems items) ++ "]"
  | obj fields => "\x7b" ++ ", ".intercalate (reprFields fields) ++ "\x7d"
def reprItems : List Json → List String
  | [] => []
  | v :: vs => repr v :: reprItems vs
def reprFields : List (String × Json) → List String
  | [] => []
  | (k, v) :: fs => ("'" ++ k ++ "': " ++ repr v) :: reprFields fs
end

/-- `str(value)`. -/
def toStr : Json → String
  | str text => text
  | v => v.repr

end Json
