import WatchdogVpn.Lib.PyText

/-!
# The values journals, intents and observations are made of

`Value` is what `json.dumps` writes and `json.loads` gives back. A dictionary is a list
of fields kept in key order, as the journal files are written with `sort_keys=True`, so
equality of field lists is Python's equality of dictionaries.

* `Value.truthy` is Python's truth test, which the engine applies to inspection answers.
* `redactForJournal` is what every value goes through on its way to disk.
-/

namespace WatchdogVpn.Provisioning

inductive Value
  | null
  | bool (b : Bool)
  | int (n : Int)
  | str (s : String)
  | list (items : List Value)
  | dict (fields : List (String × Value))

/-- A Python dictionary with string keys, in key order. -/
abbrev Dict := List (String × Value)

namespace Value

mutual
def decEq : (a b : Value) → Decidable (a = b)
  | null, null => isTrue rfl
  | bool a, bool b => if h : a = b then isTrue (h ▸ rfl) else isFalse fun e => h (by injection e)
  | int a, int b => if h : a = b then isTrue (h ▸ rfl) else isFalse fun e => h (by injection e)
  | str a, str b => if h : a = b then isTrue (h ▸ rfl) else isFalse fun e => h (by injection e)
  | list a, list b =>
    match decEqItems a b with
    | isTrue h => isTrue (h ▸ rfl)
    | isFalse h => isFalse fun e => h (by injection e)
  | dict a, dict b =>
    match decEqFields a b with
    | isTrue h => isTrue (h ▸ rfl)
    | isFalse h => isFalse fun e => h (by injection e)
  | null, bool _ | null, int _ | null, str _ | null, list _ | null, dict _ => isFalse nofun
  | bool _, null | bool _, int _ | bool _, str _ | bool _, list _ | bool _, dict _ => isFalse nofun
  | int _, null | int _, bool _ | int _, str _ | int _, list _ | int _, dict _ => isFalse nofun
  | str _, null | str _, bool _ | str _, int _ | str _, list _ | str _, dict _ => isFalse nofun
  | list _, null | list _, bool _ | list _, int _ | list _, str _ | list _, dict _ => isFalse nofun
  | dict _, null | dict _, bool _ | dict _, int _ | dict _, str _ | dict _, list _ => isFalse nofun
def decEqItems : (a b : List Value) → Decidable (a = b)
  | [], [] => isTrue rfl
  | [], _ :: _ => isFalse nofun
  | _ :: _, [] => isFalse nofun
  | a :: as, b :: bs =>
    match decEq a b with
    | isFalse h => isFalse fun e => h (by injection e)
    | isTrue h =>
      match decEqItems as bs with
      | isTrue h' => isTrue (h ▸ h' ▸ rfl)
      | isFalse h' => isFalse fun e => h' (by injection e)
def decEqFields : (a b : List (String × Value)) → Decidable (a = b)
  | [], [] => isTrue rfl
  | [], _ :: _ => isFalse nofun
  | _ :: _, [] => isFalse nofun
  | (k, a) :: as, (k', b) :: bs =>
    if hk : k = k' then
      match decEq a b with
      | isFalse h => isFalse fun e => h (by injection e with e; injection e)
      | isTrue h =>
        match decEqFields as bs with
        | isTrue h' => isTrue (hk ▸ h ▸ h' ▸ rfl)
        | isFalse h' => isFalse fun e => h' (by injection e)
    else isFalse fun e => hk (by injection e with e; injection e)
end

instance : DecidableEq Value := decEq

def truthy : Value → Bool
  | null => false
  | bool b => b
  | int n => n != 0
  | str s => s != ""
  | list items => !items.isEmpty
  | dict fields => !fields.isEmpty

mutual
/-- `repr(value)`, for texts without quotes or control characters. -/
def repr : Value → String
  | null => "None"
  | bool true => "True"
  | bool false => "False"
  | int n => toString n
  | str s => "'" ++ s ++ "'"
  | list items => "[" ++ ", ".intercalate (reprItems items) ++ "]"
  | dict fields => "\x7b" ++ ", ".intercalate (reprFields fields) ++ "\x7d"
def reprItems : List Value → List String
  | [] => []
  | v :: vs => repr v :: reprItems vs
def reprFields : List (String × Value) → List String
  | [] => []
  | (k, v) :: fs => ("'" ++ k ++ "': " ++ repr v) :: reprFields fs
end

/-- `str(value)`. -/
def toStr : Value → String
  | str s => s
  | v => v.repr

/-- An optional string as it stands in a dictionary. -/
def ofOption : Option String → Value
  | none => null
  | some s => str s

/-- An optional number as it stands in a dictionary. -/
def ofNat? : Option Nat → Value
  | none => null
  | some n => int n

end Value

namespace Dict

/-- `d[k]` if the key is there. -/
def get? (d : Dict) (k : String) : Option Value := d.lookup k

/-- `d.get(k)`: `None` when the key is missing. -/
def get (d : Dict) (k : String) : Value := (d.get? k).getD .null

/-- `{**d, k: v}`, in key order. -/
def set : Dict → String → Value → Dict
  | [], k, v => [(k, v)]
  | (k', v') :: d, k, v =>
    if k = k' then (k, v) :: d else if k < k' then (k, v) :: (k', v') :: d else (k', v') :: set d k v

end Dict

/-! ## Redaction -/

def sensitiveKeyMarkers : List String := ["password", "secret", "token", "credential", "api_key", "apikey"]

/-- `str.lower`, as far as the markers go: the Kelvin sign is the one character outside of ASCII
that becomes a letter of theirs. (A capital I with a dot becomes two characters, which stand in no
marker.) -/
def lowerChar (c : Char) : Char := if c.toNat = 0x212a then 'k' else c.toLower

def isSensitiveKey (key : String) : Bool :=
  sensitiveKeyMarkers.any fun m => PyText.isIn m.toList (key.toList.map lowerChar)

def isSchemeChar (c : Char) : Bool := c.isAlphanum || c == '+' || c == '.' || c == '-'

/-- The text of a URL with a user and a password, split at the match of
`^([a-zA-Z][a-zA-Z0-9+.-]*://)[^/@\s]+:[^/@\s]+@` into group 1 and what follows the match. -/
def credentialedUrl? (text : List Char) : Option (List Char × List Char) :=
  let scheme := text.takeWhile isSchemeChar
  match text.drop scheme.length with
  | ':' :: '/' :: '/' :: rest =>
    let userinfo := rest.takeWhile fun c => !(c == '/' || c == '@' || PyText.isSpace c)
    match rest.drop userinfo.length with
    | '@' :: after =>
      -- some ':' has at least one character on each side
      if (scheme.head?.any Char.isAlpha) && (userinfo.drop 1).dropLast.contains ':' then
        some (scheme ++ [':', '/', '/'], after)
      else none
    | _ => none
  | _ => none

def redactStr (s : String) : String :=
  match credentialedUrl? s.toList with
  | some (scheme, after) => String.ofList (scheme ++ "***redacted***@".toList ++ after)
  | none => s

mutual
def redactForJournal : Value → Value
  | .dict fields => .dict (redactFields fields)
  | .list items => .list (redactItems items)
  | .str s => .str (redactStr s)
  | .null => .null
  | .bool b => .bool b
  | .int n => .int n
def redactItems : List Value → List Value
  | [] => []
  | v :: vs => redactForJournal v :: redactItems vs
def redactFields : List (String × Value) → List (String × Value)
  | [] => []
  | (k, v) :: fs =>
    (k, if isSensitiveKey k then .str "***redacted***" else redactForJournal v) :: redactFields fs
end

def redactDict (d : Dict) : Dict := redactFields d

/-- A text that starts with `/`, as every absolute path does, is written as it is. -/
theorem redactStr_of_head {s : String} (h : s.toList.head? = some '/') : redactStr s = s := by
  have hs : s.toList.takeWhile isSchemeChar = [] := by
    cases hl : s.toList with
    | nil => rfl
    | cons c cs =>
      rw [hl] at h
      cases h
      rfl
  have hn : credentialedUrl? s.toList = none := by
    unfold credentialedUrl?
    rw [hs]
    simp only [List.length_nil, List.drop_zero]
    split
    · rename_i heq
      rw [heq] at h
      cases h
    · rfl
  unfold redactStr
  rw [hn]

theorem redactFields_lookup (d : Dict) (k : String) : Dict.get? (redactDict d) k =
      (Dict.get? d k).map fun v => if isSensitiveKey k then .str "***redacted***" else redactForJournal v := by
  unfold redactDict
  induction d with
  | nil => simp [redactFields, Dict.get?]
  | cons f d ih =>
    obtain ⟨k', v⟩ := f
    unfold Dict.get? at ih ⊢
    simp only [redactFields, List.lookup_cons]
    by_cases hk : k == k'
    · have : k = k' := by simpa using hk
      subst this
      simp
    · simp [hk, ih]

end WatchdogVpn.Provisioning
