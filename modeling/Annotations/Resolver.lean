import Annotations.Directive
import Annotations.SymbolTable

/-!
Contract: applying the directives of one source unit to a symbol table.

Each argument of a directive is taken on its own: one that names a declared
symbol makes it private, any other is an error of the call. Within its own unit
a symbol counts as declared only from its declaration's line on.

Owns:

- `Resolver.processDirective` for one call, `Resolver.processUnit` for all calls
  of a unit in line order.
-/

namespace Annotations

/-- The unit whose directives are applied, and the names recognised as directives. -/
structure Resolver where
  unitId : UnitId
  catalog : Catalog
deriving DecidableEq, Repr

namespace Resolver

/-- Whether what is found under a path is a symbol declared no later than the line, where it belongs
to the unit itself. -/
def accepts (resolver : Resolver) (line : Line) : Option Symbol → Bool
  | some symbol => !(symbol.unitId == resolver.unitId && decide (line < symbol.line))
  | none => false

def isDeclared (resolver : Resolver) (table : SymbolTable) (path : Path) (line : Line) : Bool :=
  resolver.accepts line (table.get? path)

/-- Apply one argument of a directive: the error if it is not applied, and the table after it. -/
def processArgument (resolver : Resolver) (shape : Shape) (scope : Namespace) (line : Line)
    (table : SymbolTable) (argument : Argument) :
    Except UnregisteredPath (Option DirectiveError × SymbolTable) :=
  match shape.target? scope argument with
  | none => .ok (some (shape.untargeted scope argument), table)
  | some path =>
      if resolver.isDeclared table path line then do
        let (_, table) ← table.setVisibility path .isPrivate resolver.unitId line
        .ok (none, table)
      else .ok (some (.unresolvedSymbol shape.name path), table)

def processArguments (resolver : Resolver) (shape : Shape) (scope : Namespace) (line : Line) :
    SymbolTable → List Argument → Except UnregisteredPath (List DirectiveError × SymbolTable)
  | table, [] => .ok ([], table)
  | table, argument :: rest => do
      let (error?, table) ← resolver.processArgument shape scope line table argument
      let (errors, table) ← resolver.processArguments shape scope line table rest
      .ok (error?.toList ++ errors, table)

/-- Apply one call in a namespace: its failure, if some argument was not applied, and the table
after it. A call that is no directive does nothing. -/
def processDirective (resolver : Resolver) (scope : Namespace) (table : SymbolTable) (call : Call) :
    Except UnregisteredPath (Option Failure × SymbolTable) :=
  match resolver.catalog.classify? call.callee with
  | none => .ok (none, table)
  | some shape => do
      let (errors, table) ← resolver.processArguments shape scope call.line table call.arguments
      let failure? :=
        if errors.isEmpty then none
        else some ⟨shape.name, scope, resolver.unitId, call.line, errors⟩
      .ok (failure?, table)

def processCalls (resolver : Resolver) :
    SymbolTable → List Call → Except UnregisteredPath (List Failure × SymbolTable)
  | table, [] => .ok ([], table)
  | table, call :: rest => do
      let (failure?, table) ← resolver.processDirective call.scope table call
      let (failures, table) ← resolver.processCalls table rest
      .ok (failure?.toList ++ failures, table)

/-- Apply all calls of a unit, in line order. -/
def processUnit (resolver : Resolver) (table : SymbolTable) (unit : SourceUnit) :
    Except UnregisteredPath (List Failure × SymbolTable) :=
  resolver.processCalls table (sortByLine Call.line unit.calls)

end Resolver

end Annotations
