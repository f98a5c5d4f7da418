import BlockVault.Failure.Text
import BlockVault.Format
import BlockVault.Journal
import BlockVault.Text.LowerCase

/-!
# The registry

Codecs are known by name. Codecs of the caller's own come first, then the standard formats, then
plugins; of two registrations of a name the one of higher priority stays, and of equal ones the
earlier. Loading brings in formats and plugins and freezes the registry.
-/

namespace BlockVault

/-- The method that stores a block as it is. No codec has its name. -/
def plainMethod : String := "none"

/-- Where a registration comes from. -/
inductive Origin where
  | standard
  | plugin
  | custom
  deriving DecidableEq

namespace Origin

def all : List Origin := [standard, plugin, custom]

def label : Origin → String
  | standard => "builtin"
  | plugin => "plugin"
  | custom => "custom"

end Origin

/-- A codec under a name. -/
structure Registration (κ : Type) where
  name : String
  codec : κ
  priority : Int
  origin : Origin
  description : String

/-- What somebody gives as a codec. -/
inductive Candidate (κ : Type) where
  | codec (c : κ)
  /-- Something else, with the name of its kind. -/
  | other (kind : String)

/-- What becomes of a plugin when it is loaded. -/
inductive Plugin.Result (κ : Type) where
  /-- A codec, with its own priority and description if it has them. -/
  | codec (c : κ) (priority : Option Int) (description : Option String)
  | other
  | failed (f : Failure)

structure Plugin (κ : Type) where
  name : String
  result : Plugin.Result κ

/-- What is installed where a registry is loaded. -/
structure Site (κ : Type) where
  codec : Format → κ
  missing : List Format := []
  plugins : List (Plugin κ) := []

/-- Registrations in the order of their names' first ones. -/
structure Registry (κ : Type) where
  entries : List (Registration κ) := []
  loaded : Bool := false

namespace Registry

variable {κ : Type}

/-- Why the registry refuses something. -/
inductive Refusal where
  | frozen (name : String)
  | badName (name : String)
  | reserved
  | noCodec (kind : String)
  /-- The one format that may not be missing is. -/
  | noGzip
  /-- The view of the registrations cannot be changed. -/
  | readOnly
  deriving DecidableEq

namespace Refusal

def message : Refusal → String
  | frozen name => s!"Cannot register compressor {name}: registry already loaded"
  | badName name =>
    "Compressor names must be non-empty lowercase strings, got " ++ Text.quoted name
  | reserved => s!"'{plainMethod}' is reserved for the identity transform"
  | noCodec kind => s!"{kind} is not a Compressor"
  | noGzip => "import of compressors.gzip_compressor halted; None in sys.modules"
  | readOnly => "'mappingproxy' object does not support item assignment"

def kind : Refusal → Fault.Kind
  | frozen _ => .registryFrozen
  | badName _ => .value
  | reserved => .value
  | noCodec _ => .type
  | noGzip => .moduleNotFound
  | readOnly => .type

def failure (r : Refusal) : Failure := .saying r.kind r.message

end Refusal

def report (level : Journal.Level) (message : String) : Logged Unit :=
  .write level .registry message

/-- The registration of a name. -/
def find? (r : Registry κ) (name : String) : Option (Registration κ) :=
  r.entries.find? (·.name == name)

/-- The codec of a name. -/
def codec? (r : Registry κ) (name : String) : Option κ := (r.find? name).map (·.codec)

/-- Registered names. -/
def names (r : Registry κ) : List String := r.entries.map (·.name)

def sortedNames (r : Registry κ) : List String := r.names.mergeSort (fun a b => decide (a ≤ b))

/-- Every method that a block can be stored by. -/
def methods (r : Registry κ) : List String := plainMethod :: r.sortedNames

/-- How many registrations each origin has, without those that have none. -/
def countByOrigin (r : Registry κ) : List (Origin × Nat) :=
  (Origin.all.map fun o => (o, r.entries.countP (·.origin == o))).filter (·.2 ≠ 0)

/-- A registration under a new name goes behind the others; one under a known name takes the place
of the old one if its priority is higher. -/
def enter (r : Registry κ) (new : Registration κ) : Logged (Registry κ) :=
  match r.find? new.name with
  | none => pure { r with entries := r.entries ++ [new] }
  | some old =>
    if new.priority ≤ old.priority then do
      report .warning s!"Compressor {new.name} already registered with higher priority"
      return r
    else do
      report .info
        s!"Replacing compressor {new.name} (priority {old.priority} -> {new.priority})"
      return { r with entries := r.entries.map fun e => if e.name = new.name then new else e }

/-- The priority of codecs of the caller's own. -/
def customPriority : Int := 20

/-- The priority of plugins without one of their own. -/
def pluginPriority : Int := 10

/-- Refuses what may not be registered. -/
def accept (r : Registry κ) (name : String) (candidate : Candidate κ) : Except Refusal κ :=
  if r.loaded then .error (.frozen name)
  else if name = "" ∨ name ≠ Text.lower name then .error (.badName name)
  else if name = plainMethod then .error .reserved
  else
    match candidate with
    | .codec c => .ok c
    | .other kind => .error (.noCodec kind)

/-- Registers a codec of the caller's own. -/
def register (r : Registry κ) (name : String) (candidate : Candidate κ)
    (priority : Int := customPriority) (description : String := "") :
    Logged (Except Refusal (Registry κ)) :=
  match r.accept name candidate with
  | .error e => pure (.error e)
  | .ok codec => do
    let description := if description = "" then s!"Custom {name} compressor" else description
    let r ← r.enter ⟨name, codec, priority, .custom, description⟩
    report .info s!"Registered custom compressor: {name}"
    return .ok r

/-- The registrations of the standard formats that are installed. -/
def standardEntries (site : Site κ) : List (Registration κ) :=
  (Format.all.filter (!site.missing.contains ·)).map fun f =>
    ⟨f.name, site.codec f, 0, .standard, f.description⟩

/-- Reports the formats that are missing. -/
def reportMissing (site : Site κ) : Logged Unit :=
  (Format.all.filter site.missing.contains).forM fun f =>
    report .info s!"{f.title} compressor not available"

/-- Brings in a plugin. One that is no codec or fails is reported and left out. -/
def plug (r : Registry κ) (p : Plugin κ) : Logged (Registry κ) :=
  match p.result with
  | .codec c priority description => do
    let r ← r.enter
      ⟨p.name, c, priority.getD pluginPriority, .plugin,
        description.getD s!"Plugin compressor {p.name}"⟩
    report .info s!"Loaded plugin compressor: {p.name}"
    return r
  | .other => do
    report .error s!"Plugin compressor {p.name} is not a Compressor"
    return r
  | .failed f => do
    report .error s!"Failed to load plugin compressor {p.name}: {f.message}"
    return r

/-- Brings in formats and plugins and freezes the registry. A loaded registry stays as it is. -/
def load (site : Site κ) (r : Registry κ) : Logged (Except Refusal (Registry κ)) :=
  if r.loaded then pure (.ok r)
  else do
    report .info "Loading compressors..."
    if site.missing.contains .gzip then return .error .noGzip
    reportMissing site
    let r ← (standardEntries site).foldlM enter r
    let r ← site.plugins.foldlM plug r
    let listing := ", ".intercalate r.sortedNames
    report .info s!"Loaded {r.entries.length} compressors: {listing}"
    return .ok { r with loaded := true }

/-- Looks at the registry, which is loaded first. -/
def consult {α : Type} (site : Site κ) (r : Registry κ) (view : Registry κ → α) :
    Logged (Except Refusal α × Registry κ) := do
  match ← r.load site with
  | .error e => return (.error e, r)
  | .ok r => return (.ok (view r), r)

/-- What is told of a registration. -/
structure Summary where
  name : String
  priority : Int
  origin : Origin
  description : String
  deriving DecidableEq

structure Statistics where
  total : Nat
  byOrigin : List (Origin × Nat)
  summaries : List Summary
  deriving DecidableEq

def statistics (r : Registry κ) : Statistics where
  total := r.entries.length
  byOrigin := r.countByOrigin
  summaries := r.entries.map fun e => ⟨e.name, e.priority, e.origin, e.description⟩

/-- What a registry can be asked to do. -/
inductive Call (κ : Type) where
  | register (name : String) (candidate : Candidate κ) (priority : Int) (description : String)
  | load
  | lookup (name : String)
  | list
  | methods
  | statistics

/-- What it answers. -/
inductive Answer (κ : Type) where
  | done
  | codec (found : Option κ)
  | registrations (entries : List (Registration κ))
  | methods (names : List String)
  | statistics (s : Statistics)

/-- Makes a call, where these codecs and plugins are installed. Only registering does without loading
first. A call that is refused leaves the registry as it is. -/
def call (site : Site κ) (r : Registry κ) : Call κ → Logged (Except Refusal (Answer κ) × Registry κ)
  | .register name candidate priority description => do
    match ← r.register name candidate priority description with
    | .error e => return (.error e, r)
    | .ok r => return (.ok .done, r)
  | .load => r.consult site fun _ => .done
  | .lookup name => r.consult site fun r => .codec (r.codec? name)
  | .list => r.consult site fun r => .registrations r.entries
  | .methods => r.consult site fun r => .methods r.methods
  | .statistics => r.consult site fun r => .statistics r.statistics

end Registry

end BlockVault
