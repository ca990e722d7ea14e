/-
# Plans

What a run would do with each file, without doing it.

Key definitions: `PlanEntry`, `PlanReport`, `Project.plan`.
-/
import Testsmith.Project

namespace Testsmith

/-- What is planned for a file. -/
structure PlanEntry where
  file : String
  className : String
  stereotype : Stereotype
  strategy : Strategy
  /-- Where the test goes, if there is to be one. -/
  testPath : Option Path
  /-- How many methods may be tested. -/
  methods : Nat
  warnings : List String
  deriving DecidableEq, Repr

structure PlanReport where
  /-- How many types the index knows. -/
  symbols : Nat
  collisions : List Collision
  files : List PlanEntry
  deriving DecidableEq, Repr

namespace Project

/-- The facts about a file. One that cannot be read has none but a warning. -/
def factsIn (t : FileTree) (file : Path) : SourceFacts :=
  match t.readText file with
  | .ok text => Java.analyze text
  | .error e => { warnings := [(Error.io e).message] }

def planEntry (p : Project) (t : FileTree) (file : Path) : PlanEntry :=
  let facts := factsIn t file
  let strategy := classify facts
  { file := p.display file
    className := className file
    stereotype := facts.stereotype
    strategy
    testPath := if strategy.isSkip then none else some (p.testPath file facts)
    methods := facts.methods.length
    warnings := facts.warnings }

/-- The plan for a project, or for those of its files that a pattern matches. -/
def plan (p : Project) (t : FileTree) (only : Option Glob.Pattern) : Except ConfigError PlanReport :=
  (p.index t).map fun index =>
    ⟨index.size, index.collisions, (p.sources t only).map (p.planEntry t)⟩

end Project

end Testsmith
