import Graft.Text.Numeral

/-!
# Graft.Settings

Settings from the environment. Each has a name, a section and a default; the name with its section
in front is looked up first, and a variable set to the empty text counts as set.

* `Settings`: the values.
* `Settings.load`: the settings of an environment.
* `Settings.check`: limits no program can run with.
-/

namespace Graft

/-- The settings of a run. -/
structure Settings where
  port : Bytes
  host : Bytes
  logLevel : Bytes
  logDevelopment : Bool
  requestsPerSecond : Int
  burst : Int
  rateLimited : Bool
  maxDepth : Int
  padLines : Bool
  /-- Confines reads; empty means unconfined. -/
  root : Bytes
  workers : Int
  cacheSize : Int
deriving DecidableEq, Repr

abbrev Environment := List (Bytes × Bytes)

/-- Why there are no settings. -/
inductive SettingsError where
  /-- A value that cannot be read: the full variable name, the field, the text, its type and what
  is wrong with it. -/
  | unreadable (name field text type report : Bytes)
  | depthNotPositive (n : Int)
  | cacheNotPositive (n : Int)
  | workersNegative (n : Int)
deriving DecidableEq, Repr

namespace SettingsError

def message : SettingsError → Bytes
  | unreadable name field text type report =>
    "failed to load config: envconfig.Process: assigning " ++ name ++ " to " ++ field ++
      ": converting '" ++ text ++ "' to type " ++ type ++ ". details: " ++ report
  | depthNotPositive n => "SFCX_MAX_DEPTH must be positive, got " ++ Bytes.ofInt n
  | cacheNotPositive n => "SFCX_CACHE_SIZE must be positive, got " ++ Bytes.ofInt n
  | workersNegative n => "SFCX_WORKERS must not be negative, got " ++ Bytes.ofInt n

end SettingsError

namespace Settings

def default : Settings where
  port := "8000"
  host := "127.0.0.1"
  logLevel := "info"
  logDevelopment := false
  requestsPerSecond := 100
  burst := 200
  rateLimited := true
  maxDepth := 32
  padLines := false
  root := []
  workers := 0
  cacheSize := 512

/-- A setting: its section, its variable name and the field it is kept in. -/
structure Item where
  group : Bytes
  name : Bytes
  field : Bytes

def Item.fullName (i : Item) : Bytes := i.group ++ "_" ++ i.name

def Item.text? (env : Environment) (i : Item) : Option Bytes :=
  match env.lookup i.fullName with
  | some text => some text
  | none => env.lookup i.name

def Item.string (env : Environment) (i : Item) (fallback : Bytes) : Bytes :=
  (i.text? env).getD fallback

def Item.int (env : Environment) (i : Item) (fallback : Int) : Except SettingsError Int :=
  match i.text? env with
  | none => .ok fallback
  | some text =>
    match Numeral.readInt text with
    | .ok n => .ok n
    | .error e => .error (.unreadable i.fullName i.field text "int" (Numeral.intReport text e))

def Item.bool (env : Environment) (i : Item) (fallback : Bool) : Except SettingsError Bool :=
  match i.text? env with
  | none => .ok fallback
  | some text =>
    match Numeral.readBool text with
    | .ok b => .ok b
    | .error e => .error (.unreadable i.fullName i.field text "bool" (Numeral.boolReport text e))

def portItem : Item := ⟨"SERVER", "PORT", "Port"⟩
def hostItem : Item := ⟨"SERVER", "HOST", "Host"⟩
def levelItem : Item := ⟨"LOGGING", "LOG_LEVEL", "Level"⟩
def developmentItem : Item := ⟨"LOGGING", "LOG_DEV", "Development"⟩
def rateItem : Item := ⟨"RATELIMIT", "RATE_LIMIT_RPS", "RequestsPerSecond"⟩
def burstItem : Item := ⟨"RATELIMIT", "RATE_LIMIT_BURST", "Burst"⟩
def limitedItem : Item := ⟨"RATELIMIT", "RATE_LIMIT_ENABLED", "Enabled"⟩
def depthItem : Item := ⟨"TRANSFORM", "SFCX_MAX_DEPTH", "MaxDepth"⟩
def padItem : Item := ⟨"TRANSFORM", "SFCX_PAD_LINES", "PadLines"⟩
def rootItem : Item := ⟨"TRANSFORM", "SFCX_ROOT", "Root"⟩
def workersItem : Item := ⟨"BUILD", "SFCX_WORKERS", "Workers"⟩
def cacheItem : Item := ⟨"BUILD", "SFCX_CACHE_SIZE", "CacheSize"⟩

def items : List Item :=
  [portItem, hostItem, levelItem, developmentItem, rateItem, burstItem, limitedItem, depthItem,
    padItem, rootItem, workersItem, cacheItem]

/-- The settings as written, in the order of their items; the first that cannot be read is
reported. -/
def read (env : Environment) : Except SettingsError Settings := do
  let logDevelopment ← developmentItem.bool env default.logDevelopment
  let requestsPerSecond ← rateItem.int env default.requestsPerSecond
  let burst ← burstItem.int env default.burst
  let rateLimited ← limitedItem.bool env default.rateLimited
  let maxDepth ← depthItem.int env default.maxDepth
  let padLines ← padItem.bool env default.padLines
  let workers ← workersItem.int env default.workers
  let cacheSize ← cacheItem.int env default.cacheSize
  pure
    { port := portItem.string env default.port
      host := hostItem.string env default.host
      logLevel := levelItem.string env default.logLevel
      logDevelopment, requestsPerSecond, burst, rateLimited, maxDepth, padLines
      root := rootItem.string env default.root
      workers, cacheSize }

def check (s : Settings) : Except SettingsError Settings :=
  if s.maxDepth ≤ 0 then .error (.depthNotPositive s.maxDepth)
  else if s.cacheSize ≤ 0 then .error (.cacheNotPositive s.cacheSize)
  else if s.workers < 0 then .error (.workersNegative s.workers)
  else .ok s

def load (env : Environment) : Except SettingsError Settings :=
  match read env with
  | .ok s => s.check
  | .error e => .error e

/-- The settings of an environment, or the defaults where it has none. -/
def loadOrDefault (env : Environment) : Settings := (load env).toOption.getD default

end Settings

end Graft
