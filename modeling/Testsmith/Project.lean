/-
# Projects

A directory with sources, and the configuration it is worked on with.

Key definitions: `Config.load`, `Project`, `Project.open`, `Project.sources`, `Project.index`.
-/
import Testsmith.Config.Toml
import Testsmith.Discovery
import Testsmith.Java.Declaration

namespace Testsmith

/-- The configuration of a project: that of its file, or the usual one if there is none. -/
def Config.load (t : FileTree) (root : Path) : Except Error Config := do
  let path := pathFor root
  let c ←
    if t.has path then
      match t.readText path with
      | .error e => .error (.io e)
      | .ok text => (ofToml text).mapError .config
    else .ok {}
  match c.validate with
  | .ok () => .ok c
  | .error e => .error (.config e)

/-- A project that can be worked on. -/
structure Project where
  root : Path
  config : Config

namespace Project

def sourceRoot (p : Project) : Path := p.config.sourceRoot p.root

def testRoot (p : Project) : Path := p.config.testRoot p.root

/-- The project with the given root. Both the root and the source root have to be directories. -/
def «open» (t : FileTree) (root : Path) (config : Config) : Except ConfigError Project :=
  let p : Project := ⟨root, config⟩
  if !t.hasDirectory root then .error (.notFound ("project root " ++ root.text))
  else if !t.hasDirectory p.sourceRoot then .error (.notFound ("source root " ++ p.sourceRoot.text))
  else .ok p

/-- The source files of a project. -/
def allSources (p : Project) (t : FileTree) : List Path :=
  discover t p.sourceRoot p.config.project.includePatterns p.config.project.excludePatterns

/-- The place of a source file in reports. -/
def display (p : Project) (file : Path) : String := file.displayRelative p.sourceRoot

/-- The source files of a project whose place a pattern matches, or all if there is none. -/
def sources (p : Project) (t : FileTree) (only : Option Glob.Pattern) : List Path :=
  match only with
  | none => p.allSources t
  | some pattern => (p.allSources t).filter fun file => pattern.isMatch (p.display file)

/-- The class under test has the name of its file. -/
def className (file : Path) : String := (file.fileName?.map Path.stem).getD ""

def testClass (p : Project) (file : Path) : String := className file ++ p.config.project.testSuffix

/-- Where the test of a file with the given facts goes. -/
def testPath (p : Project) (file : Path) (facts : SourceFacts) : Path :=
  destination p.testRoot facts.package (p.testClass file)

end Project

/-- The declaration in a file, if it can be read and has one. -/
def declarationIn? (t : FileTree) (file : Path) : Option (Path × TypeDeclaration) :=
  ((t.readText file).toOption.bind Java.scanDeclaration).map fun d => (file, d)

theorem declarationIn?_eq_some_iff {t : FileTree} {file : Path} {x : Path × TypeDeclaration} :
    declarationIn? t file = some x ↔
      ∃ text, t.readText file = .ok text ∧ Java.scanDeclaration text = some x.2 ∧ file = x.1 := by
  obtain ⟨file', d⟩ := x
  rw [declarationIn?, Option.map_eq_some_iff]
  cases t.readText file with
  | error e => simp [Except.toOption]
  | ok text =>
    simp only [Except.toOption, Option.bind_some, Except.ok.injEq, Prod.mk.injEq]
    constructor
    · rintro ⟨_, hscan, rfl, rfl⟩
      exact ⟨text, rfl, hscan, rfl⟩
    · rintro ⟨_, rfl, hscan, rfl⟩
      exact ⟨d, hscan, rfl, rfl⟩

/-- The index of the types that some files declare. -/
def SymbolIndex.ofFiles (policy : CollisionPolicy) (t : FileTree) (files : List Path) :
    Except ConfigError SymbolIndex :=
  ofDeclarations policy (files.filterMap (declarationIn? t))

/-- The index of the types of a project. -/
def Project.index (p : Project) (t : FileTree) : Except ConfigError SymbolIndex :=
  SymbolIndex.ofFiles p.config.symbols.collision t (p.allSources t)

end Testsmith
