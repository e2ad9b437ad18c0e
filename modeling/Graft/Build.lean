import Graft.Cache
import Graft.Loader
import Graft.Report
import Graft.Sha256
import Graft.Transformer
import Graft.Ulid

/-!
# Graft.Build

Transforming every component of a tree. Files are independent: one that fails does not stop the
others. Results are written below an output directory under the path they have below the root, and
an output that is there already is left alone.

* `Target`: a tree and where its results go.
* `Build.Shop`: what a run of builds keeps: the disk, the cache and the metrics.
* `Build.Stage`, `Build.advance`: how far a file is, and one step further.
* `Build.file`: one file.
* `Build.run`: one tree.
-/

namespace Graft

/-- One tree of components. -/
structure Target where
  root : Bytes
  pattern : Bytes
  /-- Where results go; nothing is written if it is empty. -/
  out : Bytes
  exclude : List Bytes
deriving DecidableEq, Repr

def Target.defaultPattern : Bytes := "**/*.vue"

namespace Build

/-- How components are transformed. -/
structure Config where
  loader : Loader
  options : Extend.Options

/-- What a run of builds keeps. -/
structure Shop where
  disk : Disk
  cache : Option Cache
  metrics : Metrics

/-- The loader behind the cache, if there is one. -/
def reader (loader : Loader) : Extend.Files (Option Cache × Disk) ReadError where
  read path state :=
    match state.1 with
    | none =>
      let (data, disk) := (loader.files false).read path state.2
      (data, none, disk)
    | some cache =>
      let (data, cache, disk) := (Cache.before (loader.files false)).read path (cache, state.2)
      (data, some cache, disk)

/-- Why an output was not written. -/
inductive OutputError where
  | directory (e : Disk.Failure)
  | write (e : Disk.Failure)

def OutputError.message : OutputError → Bytes
  | directory e => "create output directory: " ++ e.message
  | write e => "write output: " ++ e.message

/-- Writes an output and makes the directories above it. Directories stay also if the output cannot
be written. -/
def deliver (d : Disk) (path content : Bytes) : Except OutputError Unit × Disk :=
  match d.makeDirs (Path.dir path) with
  | (.error e, d) => (.error (.directory e), d)
  | (.ok (), d) =>
    match d.store path content with
    | .error e => (.error (.write e), d)
    | .ok d => (.ok (), d)

def failure (result : FileResult) (kind : Extend.Kind) (message : Bytes) : FileResult :=
  { result with output := [], error := message, kind := kind.label }

def isCurrent (d : Disk) (path hash : Bytes) : Bool :=
  match d.contents path with
  | .ok old => Sha256.hex old == hash
  | .error _ => false

/-- How far one file of a tree is. -/
inductive Stage where
  | waiting
  | loaded (source : Bytes)
  /-- The code is there; what is known of the result so far comes with it. -/
  | coded (result : FileResult) (code : Bytes)
  | finished (result : FileResult)

def loadStep (config : Config) (path : Bytes) (shop : Shop) : Stage × Shop :=
  let (source, cache, disk) := (reader config.loader).read path (shop.cache, shop.disk)
  let shop := { shop with cache := cache, disk := disk }
  match source with
  | .error e =>
    (.finished (failure { path := path } .internal ("read component: " ++ e.message)), shop)
  | .ok source => (.loaded source, shop)

def codeStep (config : Config) (path source : Bytes) (shop : Shop) : Stage × Shop :=
  let t := Extend.transform (reader config.loader) config.options path source
    (shop.cache, shop.disk)
  let shop : Shop := { disk := t.state.2, cache := t.state.1, metrics := t.recorded shop.metrics }
  match t.code with
  | .error e => (.finished (failure { path := path } e.kind (e.message ReadError.message)), shop)
  | .ok code =>
    let result : FileResult :=
      { path := path, chain := t.chain, dependencies := t.dependencies, hash := Sha256.hex code }
    (.coded result code, shop)

def outputPath (root out path : Bytes) : Bytes :=
  Path.join out ((Path.relative? root path).getD path)

/-- Writes the code of a file, unless its output has it already. -/
def writeStep (root out : Bytes) (result : FileResult) (code : Bytes) (shop : Shop) :
    FileResult × Shop :=
  if out.isEmpty then (result, shop)
  else
    let result := { result with output := outputPath root out result.path }
    if isCurrent shop.disk result.output result.hash then ({ result with unchanged := true }, shop)
    else
      match deliver shop.disk result.output code with
      | (.error e, disk) => (failure result .internal e.message, { shop with disk := disk })
      | (.ok (), disk) => (result, { shop with disk := disk })

def advance (config : Config) (root out path : Bytes) (stage : Stage) (shop : Shop) :
    Stage × Shop :=
  match stage with
  | .waiting => loadStep config path shop
  | .loaded source => codeStep config path source shop
  | .coded result code =>
    let (result, shop) := writeStep root out result code shop
    (.finished result, shop)
  | .finished result => (.finished result, shop)

/-- Takes a file as far as it goes; there are three stages before the last. -/
def complete (config : Config) (root out path : Bytes) :
    (steps : Nat) → Stage → Shop → FileResult × Shop
  | _, .finished result, shop => (result, shop)
  -- three steps are enough, so a file does not end here
  | 0, _, shop => ({ path := path }, shop)
  | steps + 1, stage, shop =>
    let (stage, shop) := advance config root out path stage shop
    complete config root out path steps stage shop

def file (config : Config) (root out path : Bytes) (shop : Shop) : FileResult × Shop :=
  complete config root out path 3 .waiting shop

def fileByFile (config : Config) (root out : Bytes) : List Bytes → Shop → List FileResult × Shop
  | [], shop => ([], shop)
  | path :: rest, shop =>
    let (result, shop) := file config root out path shop
    let (results, shop) := fileByFile config root out rest shop
    (result :: results, shop)

/-- The output directory as a pattern, if it lies strictly below the root: results of an earlier
build must not be read back. -/
def outputPattern? (d : Disk) (root out : Bytes) : Option Bytes :=
  if out.isEmpty then none
  else
    match Path.relative? root (d.absolute out) with
    | none => none
    | some relative =>
      if relative = Path.current ∨ relative = Path.parent ∨
          (Path.parent ++ [Byte.slash]).isPrefixOf relative then none
      else some (Glob.escape relative)

def countFiles (p : FileResult → Bool) (results : List FileResult) : Int := results.countP p

def report (id root pattern : Bytes) (results : List FileResult) : Report :=
  { buildId := id
    root := root
    pattern := pattern
    files := some results
    succeeded := countFiles (fun f => f.error.isEmpty) results
    failed := countFiles (fun f => !f.error.isEmpty) results
    unchanged := countFiles FileResult.unchanged results }

def run (config : Config) (id : Bytes) (canceled : Bool) (target : Target) (shop : Shop) :
    Except DiscoveryError Report × Shop :=
  let pattern := if target.pattern.isEmpty then Target.defaultPattern else target.pattern
  let root := shop.disk.absolute target.root
  let exclude := target.exclude ++ (outputPattern? shop.disk root target.out).toList
  match discover shop.disk canceled root pattern exclude with
  | .error e => (.error e, shop)
  | .ok files =>
    let (results, shop) := fileByFile config root target.out files shop
    (.ok (report id root pattern results), shop)

end Build

end Graft
