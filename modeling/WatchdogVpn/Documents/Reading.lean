import WatchdogVpn.Rules.Importer
import WatchdogVpn.Lib.Prog

/-!
# Reading persisted documents

What the `from_dict` functions of the stores share: how a field is looked up, what it may be, and
how a text is normalised. A value that has been read carries what reading has established, so that
what is written from it reads back as the same value.

The order of a dictionary's keys is not part of its value: Python compares dictionaries without it,
and `dump_json` sorts them.
-/

namespace WatchdogVpn.Documents

open Rules (Error refuse refuseValue ErrorKind strictBool strictInt rejectUnknownKeys required
  stripped stripped_stripped)
open PyText (Text strip lstrip isSpace)
open List

abbrev Object : Type := PyDict String Json

def defaultHealthTargets : List String :=
  ["https://www.facebook.com/", "https://www.instagram.com/", "https://www.youtube.com/"]

/-- What is used of an address or of a network of `ipaddress`. -/
structure IpInfo where
  version : Nat := 4
  prefixlen : Nat := 32
  isUnspecified : Bool := false
  isLoopback : Bool := false
  isMulticast : Bool := false

/-- What is used of the result of `urlsplit`, with the scheme in lower case. -/
structure SplitResult where
  scheme : String
  /-- There is a user name or a password. -/
  credentials : Bool := false
  hostname : String
  /-- Nothing where reading the port raises. -/
  port : Option (Option Nat) := some none
  path : String := ""
  query : String := ""
  fragment : String := ""

/-- What is used of the standard library. `D` is `datetime`. -/
structure Library (D : Type) where
  /-- `datetime.fromisoformat(text)`, and nothing for a `ValueError`. -/
  fromIso : String → Option D
  isoformat : D → String
  fromIso_isoformat : ∀ t, fromIso (isoformat t) = some t
  fromIso_empty : fromIso "" = none
  isoformat_trimmed : ∀ t, stripped (isoformat t) = isoformat t
  /-- `datetime.utcnow()`. -/
  utcnow : D
  /-- `datetime.now(timezone.utc)`. -/
  now : D
  /-- `repr(float(n))`. -/
  floatOfInt : Int → String
  /-- `text.lower()`. -/
  lower : Text → Text
  /-- `re.compile(pattern)` does not raise. -/
  compiles : String → Bool
  /-- The character matches `\d`. -/
  isDecimal : Char → Bool
  /-- `float(text) > 0`. -/
  floatPositive : Text → Bool
  /-- `urlsplit(text)`. -/
  urlsplit : String → Except Error SplitResult
  /-- `ip_address(text)`, and nothing for a `ValueError`. -/
  ipAddress : String → Option IpInfo
  /-- `ip_network(text, strict=strict)`, and nothing for a `ValueError`. -/
  ipNetwork : (strict : Bool) → String → Option IpInfo
  /-- `urlsplit(text)` is an HTTPS address without credentials and without a fragment. -/
  healthTarget : String → Bool
  healthTarget_default : ∀ t ∈ defaultHealthTargets, healthTarget t = true
  /-- `os.environ.get("WATCHDOGVPN_TEST_ALLOW_WILDCARD_LAN_BIND") == "1"`. -/
  allowWildcardLanBind : Bool
  /-- What is read by `DNSPolicy()`. -/
  resolver_default : ∀ host ∈ ["1.1.1.1", "9.9.9.9"], urlsplit ("udp://" ++ host) =
    .ok { scheme := "udp", hostname := host } ∧
    lower host.toList = host.toList ∧ (ipAddress host).isSome = true
  ttl_default : "12h".toList.map isDecimal = [true, true, false] ∧ floatPositive "12".toList = true
  ipNetwork_default : (ipNetwork true "198.18.0.0/15").map (·.version) = some 4 ∧
    (ipNetwork true "fc00::/18").map (·.version) = some 6

/-- `data.get(key, default)`. -/
def Object.getD (data : Object) (key : String) (default : Json) : Json := (PyDict.get key data).getD default

/-! ## Texts -/

/-- A text that `strip` leaves and that is not empty. -/
abbrev Trimmed : Type := { text : String // text ≠ "" ∧ stripped text = text }

/-- A text without the white space around it, if something is left. -/
def trimmed? (text : String) : Option Trimmed :=
  if h : stripped text ≠ "" then some ⟨stripped text, h, stripped_stripped text⟩ else none

@[simp] theorem trimmed?_val (text : Trimmed) : trimmed? text.1 = some text := by
  have h : stripped text.1 ≠ "" := by
    rw [text.2.2]
    exact text.2.1
  rw [trimmed?, dif_pos h]
  exact congrArg some (Subtype.ext text.2.2)

theorem stripped_of_no_space {text : String} (h : ∀ c ∈ text.toList, isSpace c = false) :
    stripped text = text := by
  have hdrop : ∀ t : Text, (∀ c ∈ t, isSpace c = false) → lstrip t = t := by
    intro t ht
    cases t with
    | nil => rfl
    | cons c t => exact dropWhile_cons_of_neg (by simp [ht c mem_cons_self])
  rw [stripped, strip, hdrop _ h, hdrop _ fun c hc => h c (mem_reverse.mp hc), reverse_reverse,
    String.ofList_toList]

theorem isSpace_of_slugChar {c : Char} (h : Rules.isSlugChar c = true) : isSpace c = false := by
  have hrange : 45 ≤ c.toNat ∧ c.toNat ≤ 122 := by
    simp only [Rules.isSlugChar, Rules.isSlugStart, Char.isLower, Char.isDigit, Bool.or_eq_true,
      Bool.and_eq_true, decide_eq_true_eq, beq_iff_eq, ge_iff_le, UInt32.le_iff_toNat_le] at h
    change ((97 ≤ c.toNat ∧ c.toNat ≤ 122 ∨ 48 ≤ c.toNat ∧ c.toNat ≤ 57) ∨ c = '_') ∨ c = '-' at h
    rcases h with (h | rfl) | rfl
    · omega
    · decide
    · decide
  have hlist : [0x85, 0xa0, 0x1680, 0x2028, 0x2029, 0x202f, 0x205f, 0x3000].contains c.toNat = false := by
    rw [contains_eq_mem, decide_eq_false_iff_not]
    simp only [mem_cons, not_mem_nil, or_false]
    omega
  have h1 : ¬ (9 ≤ c.toNat ∧ c.toNat ≤ 13) := by omega
  have h2 : ¬ (28 ≤ c.toNat ∧ c.toNat ≤ 32) := by omega
  have h3 : ¬ (0x2000 ≤ c.toNat ∧ c.toNat ≤ 0x200a) := by omega
  simp only [isSpace, hlist]
  simp only [← Bool.decide_and, h1, h2, h3, decide_false, Bool.or_false]

theorem stripped_of_slug {name : String} (h : Rules.isSlug name = true) : stripped name = name := by
  refine stripped_of_no_space fun c hc => isSpace_of_slugChar ?_
  unfold Rules.isSlug at h
  split at h
  · cases h
  rename_i c0 cs hname
  rw [hname] at hc
  simp only [Bool.and_eq_true] at h
  rcases mem_cons.mp hc with rfl | hc
  · simp [Rules.isSlugChar, h.1.1]
  · exact all_eq_true.mp h.2 c hc

theorem slug_ne_empty {name : String} (h : Rules.isSlug name = true) : name ≠ "" := by
  rintro rfl
  cases h

/-- A slug is a text without white space around it. -/
def slugText (name : Rules.GroupName) : Trimmed := ⟨name.1, slug_ne_empty name.2, stripped_of_slug name.2⟩

/-! ## Fields -/

theorem rejectUnknownKeys_ok {data : Object} {allowed : List String} {name : String}
    (h : ∀ key ∈ data.map Prod.fst, key ∈ allowed) : rejectUnknownKeys data allowed name = .ok () := by
  have hnone : (data.map Prod.fst).filter (!allowed.contains ·) = [] := by
    refine filter_eq_nil_iff.mpr fun key hkey => ?_
    simp [h key hkey]
  rw [rejectUnknownKeys, if_pos hnone]

def ensure (c : Prop) [Decidable c] (e : Error) : Except Error Unit := if c then .ok () else .error e

@[simp] theorem ensure_eq_ok {c : Prop} [Decidable c] {e : Error} {u : Unit} : ensure c e = .ok u ↔ c := by
  unfold ensure
  split <;> simp_all

theorem ensure_of {c : Prop} [Decidable c] {e : Error} (h : c) : ensure c e = .ok () := if_pos h

/-- A result with the fact that it is the one of the computation. -/
def attested {α : Type} (result : Except Error α) : Except Error { a : α // result = .ok a } :=
  match result with
  | .ok a => .ok ⟨a, rfl⟩
  | .error e => .error e

theorem attested_of {α : Type} {result : Except Error α} {a : α} (h : result = .ok a) :
    attested result = .ok ⟨a, h⟩ := by
  subst h
  rfl

/-- A field that has to be there, where the store says so itself. -/
def missingIn (object : String) (data : Object) (key : String) : Except Error Json :=
  match data.get key with
  | some value => .ok value
  | none => refuse (object ++ " missing required field: " ++ key)

/-- `strict_float`: a whole number becomes a float. -/
def strictFloat {D : Type} (lib : Library D) (value : Json) (field : String) : Except Error String :=
  match value with
  | .int n => .ok (lib.floatOfInt n)
  | .float text => .ok text
  | _ => refuse (field ++ " must be a number")

def dtFromIso {D : Type} (lib : Library D) (value : Json) : Except Error (Option D) :=
  if value.truthy then
    match value with
    | .str text =>
      match lib.fromIso text with
      | some t => .ok (some t)
      | none => refuseValue ("Invalid isoformat string: " ++ Rules.quoted text)
    | _ => .error ⟨.typeError, "fromisoformat: argument must be str"⟩
  else .ok none

def dtToIso {D : Type} (lib : Library D) : Option D → Json
  | none => .null
  | some t => .str (lib.isoformat t)

theorem isoformat_ne_empty {D : Type} (lib : Library D) (t : D) : lib.isoformat t ≠ "" := by
  intro h
  have hread := lib.fromIso_isoformat t
  rw [h, lib.fromIso_empty] at hread
  cases hread

@[simp] theorem dtFromIso_dtToIso {D : Type} (lib : Library D) (t : Option D) :
    dtFromIso lib (dtToIso lib t) = .ok t := by
  cases t with
  | none => rfl
  | some t =>
    have hne : lib.isoformat t ≠ "" := isoformat_ne_empty lib t
    simp [dtFromIso, dtToIso, Json.truthy, hne, lib.fromIso_isoformat]

/-- The member of an enumeration with a value, or the `ValueError` of its constructor. -/
def enumMember {E : Type} (members : List E) (value : E → String) (enumName : String)
    (data : Json) : Except Error E :=
  match data with
  | .str text =>
    match members.find? fun e => value e == text with
    | some e => .ok e
    | none => refuseValue (Rules.quoted text ++ " is not a valid " ++ enumName)
  | data => refuseValue (data.repr ++ " is not a valid " ++ enumName)

def texts (items : List String) : Json := .arr (items.map .str)

variable {α β ε : Type} {f : α → Except ε β}

theorem mapM_ok_of_forall {g : β → α} {items : List β}
    (h : ∀ b ∈ items, f (g b) = .ok b) : (items.map g).mapM f = .ok items := by
  induction items with
  | nil => rfl
  | cons b items ih =>
    rw [map_cons, mapM_cons, h b mem_cons_self, ih fun b' h' => h b' (mem_cons_of_mem _ h')]
    rfl

theorem mapM_cons_ok_iff {a : α} {as : List α} {bs : List β} :
    (a :: as).mapM f = .ok bs ↔ ∃ b rest, f a = .ok b ∧ as.mapM f = .ok rest ∧ bs = b :: rest := by
  rw [mapM_cons]
  constructor
  · intro h
    obtain ⟨b, hb, h⟩ := Effect.except_bind_ok h
    obtain ⟨rest, hrest, h⟩ := Effect.except_bind_ok h
    cases h
    exact ⟨b, rest, hb, hrest, rfl⟩
  · rintro ⟨b, rest, hb, hrest, rfl⟩
    rw [hb, hrest]
    rfl

theorem mapM_accepted_iff {as : List α} : (∃ bs, as.mapM f = .ok bs) ↔ ∀ a ∈ as, ∃ b, f a = .ok b := by
  induction as with
  | nil => exact iff_of_true ⟨[], rfl⟩ nofun
  | cons a as ih =>
    simp only [mapM_cons_ok_iff, forall_mem_cons, ← ih]
    constructor
    · rintro ⟨_, b, rest, hb, hrest, -⟩
      exact ⟨⟨b, hb⟩, rest, hrest⟩
    · rintro ⟨⟨b, hb⟩, rest, hrest⟩
      exact ⟨_, b, rest, hb, hrest, rfl⟩

/-- A library with one point in time. -/
def sampleLibrary : Library Unit where
  fromIso text := if text = "2026-01-01" then some () else none
  isoformat _ := "2026-01-01"
  fromIso_isoformat _ := if_pos rfl
  fromIso_empty := by decide
  isoformat_trimmed _ := by decide
  utcnow := ()
  now := ()
  floatOfInt n := toString n
  lower text := text.map Char.toLower
  compiles _ := true
  isDecimal := Char.isDigit
  floatPositive text := text.any (· ∉ ['0', '.'])
  urlsplit text := .ok { scheme := "udp", hostname := String.ofList (text.toList.drop 6) }
  ipAddress _ := some {}
  ipNetwork _ text := some { version := if text = "fc00::/18" then 6 else 4 }
  healthTarget _ := true
  healthTarget_default _ _ := rfl
  allowWildcardLanBind := false
  resolver_default := by simp +decide
  ttl_default := by decide
  ipNetwork_default := by decide

end WatchdogVpn.Documents
