import FormLogic.Formula.Evaluator
import FormLogic.Json.Codec
import FormLogic.Json.Writer
import FormLogic.Toml.Reader
import FormLogic.Toml.Writer

/-!
# FormLogic.Settings

How a session is set up.

* `ResetPolicy`, `Settings`: the settings and their defaults;
* `Settings.ofToml`: settings from a TOML document;
* `Settings.toToml`: the document of settings;
* `cachePolicy`: the policy of the formula memo as JSON.
-/

namespace FormLogic

open Formula

/-- What a reset does with the flags of fields. -/
inductive ResetPolicy where
  | keepFlags
  | restoreFlags
deriving DecidableEq, Repr

structure Settings where
  transaction : String := "ISSU"
  step : String := "NBQUOTE"
  reset : ResetPolicy := .keepFlags
  cache : CachePolicy := .unbounded
deriving DecidableEq, Repr

/-- Why a document holds no settings. -/
inductive SettingsFault where
  | unreadable
  | noCapacity
deriving DecidableEq, Repr

/-- What is wrong with settings; texts that are no document are not described. -/
def SettingsFault.message? : SettingsFault → Option String
  | .unreadable => none
  | .noCapacity => some "config error: parse_cache capacity must be positive"

def ResetPolicy.name : ResetPolicy → String
  | .keepFlags => "keep_ui_state"
  | .restoreFlags => "restore_ui_state"

def ResetPolicy.ofName? (name : String) : Option ResetPolicy :=
  if name = "keep_ui_state" then some .keepFlags
  else if name = "restore_ui_state" then some .restoreFlags
  else none

/-- A name, or a table with the name as its only key and nothing in it. -/
def ResetPolicy.ofToml? : Toml → Option ResetPolicy
  | .text name => ofName? name
  | .table [(name, .table [])] => ofName? name
  | .table [(name, .list [])] => ofName? name
  | _ => none

def capacityOf? : Toml → Option Nat
  | .int i => if 0 ≤ i then some i.toNat else none
  | _ => none

/-- A policy by its kind, with its capacity by name or by position. -/
def cachePolicyOfToml? : Toml → Option CachePolicy
  | .table entries =>
    match entries.lookup "kind" with
    | some (.text "unbounded") => some .unbounded
    | some (.text "bounded") => do return .bounded (← capacityOf? (← entries.lookup "capacity"))
    | _ => none
  | .list (.text "unbounded" :: _) => some .unbounded
  | .list [.text "bounded", n] => (capacityOf? n).map .bounded
  | _ => none

def textOf? : Toml → Option String
  | .text s => some s
  | _ => none

/-- The value of a key, or a default without it. -/
def keyOr {α : Type} (document : Toml) (name : String) (default : α) (read : Toml → Option α) :
    Option α :=
  match document.find? name with
  | some v => read v
  | none => some default

/-- The settings of a document; keys that no setting has do not matter. -/
def Settings.ofDocument? (document : Toml) : Option Settings := do
  let start : Settings := {}
  let transaction ← keyOr document "transaction_code" start.transaction textOf?
  let step ← keyOr document "calc_step" start.step textOf?
  let reset ← keyOr document "reset_policy" start.reset ResetPolicy.ofToml?
  let cache ← keyOr document "parse_cache" start.cache cachePolicyOfToml?
  return ⟨transaction, step, reset, cache⟩

def Settings.ofToml (text : String) : Except SettingsFault Settings :=
  match (Toml.read? text).bind Settings.ofDocument? with
  | none => .error .unreadable
  | some s => if s.cache = .bounded 0 then .error .noCapacity else .ok s

def writeCachePolicy : CachePolicy → List Char
  | .unbounded => "kind = \"unbounded\"\n".toList
  | .bounded n => "kind = \"bounded\"\ncapacity = ".toList ++ Nat.toDigits 10 n ++ ['\n']

/-- The document of settings, all of them written out. -/
def Settings.toToml (s : Settings) : String :=
  String.ofList
    ("transaction_code = ".toList ++ Toml.writeText s.transaction ++
      "\ncalc_step = ".toList ++ Toml.writeText s.step ++
      "\nreset_policy = \"".toList ++ s.reset.name.toList ++
      "\"\n\n[parse_cache]\n".toList ++ writeCachePolicy s.cache)

open Json Json.Codec in
/-- The kind of a policy as JSON: its name. -/
def cacheKind (j : Json) : Except Misfit Bool :=
  match j with
  | .text "unbounded" => .ok false
  | .text "bounded" => .ok true
  | .text name => .error (.unknownTag name ["unbounded", "bounded"])
  | j => j.unfit "variant identifier"

open Json Json.Codec in
/-- A policy as JSON: an object with its kind, or a list that the kind heads. -/
def cachePolicy : Codec CachePolicy where
  encode
    | .unbounded => .object [("kind", .text "unbounded")]
    | .bounded n => .object [("kind", .text "bounded"), ("capacity", .int n)]
  decode
    | .object ms =>
      match ms.lookup "kind" with
      | none => .error (.missing "kind")
      | some j => do
        if ← cacheKind j then
          match ms.lookup "capacity" with
          | none => throw (.missing "capacity")
          | some j => return .bounded (← capacity.decode j)
        else return .unbounded
    | .list [] => .error (.missing "kind")
    | .list (j :: js) => do
      if ← cacheKind j then
        match js with
        | [] => throw (.wrongLength 0 "struct variant CachePolicy::Bounded with 1 element")
        | n :: rest => do
          let n ← capacity.decode n
          if rest.isEmpty then return .bounded n
          else throw (.wrongLength js.length "1 element in sequence")
      else return .unbounded
    | j => j.unfit "internally tagged enum CachePolicy"

end FormLogic
