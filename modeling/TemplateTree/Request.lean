import TemplateTree.Host

/-!
# Requests

Everything that can be asked of a host, as values, and the answers. `Host.answer` carries a request
out on a workspace.
-/

namespace TemplateTree

/-- What can be asked of a host. Templates are compiled from their sources or from the storage, or
generated from their directives as they stand; directive files are looked up in the cache of the
resolver in use. -/
inductive Request where
  | stamp (path : Path)
  | hasFile (path : Path)
  | read (path : Path)
  | compile (path : Option Path) (source : Option Stream)
  | compileFile (path : Path)
  | compileBatch (paths : List Path) (schedule : List Nat := [])
  | resolve (path : Path)
  | chain (path : Path)
  | directivePaths (path : Path)
  | levels (path : Path)
  | normalize (path : Path)
  | lookUp (path : Path)
  | evict (path : Path)
  | clearCache
  | resolver
  | resetResolver
  | replaceResolver (root : Path) (directiveFilename : String)
  | restoreResolver
  | root
  | defaults
  | generate (source : List Char) (className : String)
  deriving DecidableEq, Repr

/-- What a host or a storage answers. -/
inductive Answer where
  | done
  | flag (value : Bool)
  | stamp (stamp : Option Stamp)
  | content (bytes : List UInt8)
  | storageFailure (error : IoError)
  | failure (error : CompileError)
  | syntaxError (error : Directive.SyntaxError)
  | code (code : Code)
  | codes (results : List (Path × Except CompileError Code))
  | configuration (configuration : Configuration)
  | path (path : Path)
  | paths (paths : List Path)
  | levels (levels : List (Path × Bool))
  | file (file : Option DirectiveFile)
  | files (files : List DirectiveFile)
  | resolver (resolver : Option Resolver)
  | nothingAside
  | defaults (defaults : Defaults)

def Answer.ofResult {Value : Type} (answer : Value → Answer) : Except CompileError Value → Answer
  | .ok value => answer value
  | .error error => .failure error

namespace Host

variable {Store Agenda : Type} [Storage Store]

/-- Carries a request out. -/
def answer (host : Host) (interrupt : Interrupt Store Agenda) (request : Request)
    (workspace : Workspace Store Agenda) : Answer × Workspace Store Agenda :=
  match request with
  | .stamp path =>
    match Storage.stamp workspace.storage path with
    | .ok stamp => (.stamp stamp, workspace)
    | .error error => (.storageFailure error, workspace)
  | .hasFile path => (.flag (Storage.hasFile workspace.storage path), workspace)
  | .read path =>
    match Workspace.readFile interrupt path workspace with
    | (.ok bytes, after) => (.content bytes, after)
    | (.error error, after) => (.storageFailure error, after)
  | .compile path source =>
    let (result, after) := host.compile interrupt path source workspace
    (.ofResult .code result, after)
  | .compileFile path =>
    let (result, after) := host.compileFile interrupt path workspace
    (.ofResult .code result, after)
  | .compileBatch paths schedule =>
    let (results, after) := host.compileBatch interrupt schedule paths workspace
    (.codes results, after)
  | .resolve path =>
    let (result, after) := host.resolve interrupt path workspace
    (.ofResult .configuration result, after)
  | .chain path =>
    let (resolver, workspace) := host.resolver workspace
    let (result, after) := resolver.chain interrupt path workspace
    (.ofResult .files result, after)
  | .directivePaths path =>
    let (resolver, workspace) := host.resolver workspace
    (.ofResult .paths (resolver.directivePaths path), workspace)
  | .levels path =>
    let (result, after) := host.levels path workspace
    (.ofResult .levels result, after)
  | .normalize path =>
    let (resolver, workspace) := host.resolver workspace
    (.ofResult .path (resolver.normalize path), workspace)
  | .lookUp path =>
    let (resolver, workspace) := host.resolver workspace
    let (result, after) := Workspace.lookUp interrupt resolver.cache path workspace
    (.ofResult .file result, after)
  | .evict path =>
    let (resolver, workspace) := host.resolver workspace
    (.flag ((workspace.cache resolver.cache).find? path).isSome,
      workspace.updateCache resolver.cache (·.evict path))
  | .clearCache =>
    let (resolver, workspace) := host.resolver workspace
    (.done, workspace.updateCache resolver.cache Cache.clear)
  | .resolver =>
    let (resolver, workspace) := host.resolver workspace
    (.resolver (some resolver), workspace)
  | .resetResolver =>
    (.flag workspace.installed.isSome, { workspace with installed := none })
  | .replaceResolver root directiveFilename =>
    let (resolver, after) := workspace.addResolver root directiveFilename
    (.resolver workspace.installed,
      { after with installed := some resolver, aside := workspace.installed })
  | .restoreResolver =>
    match workspace.aside with
    | some resolver =>
      (.resolver workspace.installed,
        { workspace with installed := some resolver, aside := none })
    | none => (.nothingAside, workspace)
  | .root => (.path host.root, workspace)
  | .defaults => (.defaults host.defaults, workspace)
  | .generate source className =>
    match Template.parse source with
    | .error error => (.syntaxError error, workspace)
    | .ok template =>
      (.code (Code.generate (.ofDefaults host.defaults) host.defaults.methods className template),
        workspace)

end Host

end TemplateTree
