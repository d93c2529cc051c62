import Portcullis.Boundary.Config
import Portcullis.Text.Ascii

/-! The options of the command line and of the environment. -/
namespace Portcullis.Boundary

structure Options where
  configPath : Option String := none
  overrides : Overrides := {}
  verbose : Bool := false
  deriving DecidableEq, Repr

inductive OptionDefect where
  | unknown (word : String)
  | noValue (name : String)
  | badNumber (name value : String)
  deriving DecidableEq, Repr

def OptionDefect.message : OptionDefect → String
  | .unknown word => "unexpected argument '" ++ word ++ "'"
  | .noValue name => "a value is required for '" ++ name ++ "'"
  | .badNumber name value => "invalid value '" ++ value ++ "' for '" ++ name ++ "'"

namespace Options

def defaultConfigPath : String := "httpwall.yaml"

def number (name value : String) (bound : Nat) : Except OptionDefect Nat :=
  match (Ascii.decimal? value.toList).filter (· ≤ bound) with
  | some n => .ok n
  | none => .error (.badNumber name value)

/-- The long form of an option of one letter. -/
def longName (name : String) : String :=
  match name with
  | "-c" => "--config"
  | "-b" => "--backend"
  | "-p" => "--policy"
  | "-l" => "--listen"
  | "-P" => "--port"
  | "-v" => "--verbose"
  | name => name

/-- Options without a value. -/
def switch? (o : Options) (name : String) : Option Options :=
  match name with
  | "--lenient" => some { o with overrides := { o.overrides with loadMode := some .lenient } }
  | "--verbose" => some { o with verbose := true }
  | _ => none

/-- Options with a value. -/
def set (o : Options) (name value : String) : Except OptionDefect Options :=
  let override := fun (v : Overrides) => { o with overrides := v }
  match name with
  | "--config" => .ok { o with configPath := some value }
  | "--backend" => .ok (override { o.overrides with backendUrl := some value })
  | "--policy" => .ok (override { o.overrides with policyPath := some value })
  | "--listen" => .ok (override { o.overrides with listen := some value })
  | "--port" => do
    let n ← number name value Net.SocketAddress.maxPort
    return override { o.overrides with port := some n }
  | "--max-body-bytes" => do
    let n ← number name value 18446744073709551615
    return override { o.overrides with maxBodyBytes := some n }
  | _ => .error (.unknown name)

def takesValue (name : String) : Bool :=
  ["--config", "--backend", "--policy", "--listen", "--port", "--max-body-bytes"].contains name

/-- A name, and a value behind an equals sign. -/
def cutWord (word : String) : String × Option String :=
  let cs := word.toList
  match cs.dropWhile (· != '=') with
  | _ :: value => (longName (String.ofList (cs.takeWhile (· != '='))), some (String.ofList value))
  | [] => (longName word, none)

/-- Reads the words of a command line. -/
def ofWords (o : Options) : List String → Except OptionDefect Options
  | [] => .ok o
  | word :: rest =>
    let (name, value) := cutWord word
    match value with
    | some v => if takesValue name then (o.set name v).bind (ofWords · rest) else .error (.unknown word)
    | none =>
      match o.switch? name with
      | some o => ofWords o rest
      | none =>
        if takesValue name then
          match rest with
          | [] => .error (.noValue name)
          | v :: rest => (o.set name v).bind (ofWords · rest)
        else .error (.unknown word)

/-- The variables of the environment, and the options that they stand for. -/
def environment : List (String × String) :=
  [("HTTPWALL_CONFIG", "--config"), ("HTTPWALL_BACKEND_URL", "--backend"), ("HTTPWALL_POLICY", "--policy"),
    ("HTTPWALL_LISTEN", "--listen"), ("HTTPWALL_PORT", "--port"),
    ("HTTPWALL_MAX_BODY_BYTES", "--max-body-bytes"), ("HTTPWALL_LENIENT", "--lenient")]

/-- Words that say no. -/
def isFalse (value : String) : Bool :=
  ["", "n", "no", "f", "false", "off", "0"].contains (String.ofList (value.toList.map Char.toLower))

/-- Reads the variables that are set, with the options that they stand for. -/
def ofVariables (o : Options) : List (String × String) → Except OptionDefect Options
  | [] => .ok o
  | (name, value) :: rest =>
    match o.switch? name with
    | some switched => ofVariables (if isFalse value then o else switched) rest
    | none => (o.set name value).bind (ofVariables · rest)

end Options

end Portcullis.Boundary
