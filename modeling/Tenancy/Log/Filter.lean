import Tenancy.Log.Directive
import Tenancy.Settings.Basic

/-!
# Log filters

A filter is a list of directives between commas. Those that depend on no span or value are looked
up apart from the others, and both kinds from the most specific to the least; of two that apply to
the same lines the later one counts.
-/

namespace Tenancy.Log

/-- A filter. Each list is in descending order of what the directives apply to. -/
structure Filter where
  fixed : List Directive
  dynamic : List Directive
  deriving DecidableEq, Repr

namespace Filter

/-- Puts a directive into a list in descending order, in place of one that applies to the same
lines. -/
def put (d : Directive) : List Directive → List Directive
  | [] => [d]
  | e :: rest =>
    match d.compareScope e with
    | .gt => d :: e :: rest
    | .eq => d :: rest
    | .lt => e :: put d rest

/-- The directives in descending order. -/
def arrange (directives : List Directive) : List Directive :=
  directives.foldl (fun arranged d => put d arranged) []

/-- What a filter without directives lets through: nothing. -/
def nothing : Directive := ⟨none, none, none, .off⟩

/-- The filter with these directives. -/
def ofDirectives (directives : List Directive) : Filter :=
  if directives = [] then ⟨[nothing], []⟩
  else
    let (dynamic, fixed) := directives.partition Directive.isDynamic
    ⟨arrange (fixed ++ dynamic.filterMap Directive.toStatic?), arrange dynamic⟩

/-- The pieces of a text between commas, without the empty ones. -/
def pieces (cs : List Char) : List (List Char) :=
  (cs.splitOnP (· = ',')).filter (· ≠ [])

/-- Reads a filter. -/
def parse? (s : String) : Option Filter :=
  ((pieces s.toList).mapM Directive.parse?).map ofDirectives

/-- The text of a filter. -/
def text (f : Filter) : String :=
  String.ofList ([','].intercalate ((f.fixed ++ f.dynamic).map Directive.text))

/-! ### Choosing -/

/-- The variable of the environment that holds a filter. -/
def variableName : String := "RUST_LOG"

/-- The filter unless settings or environment give one. -/
def default : String := "info,tenantgrid=debug"

/-- The text of settings that is no filter. -/
structure Malformed where
  directive : String
  deriving DecidableEq, Repr

/-- The filter that the environment gives, if it is well formed, and otherwise that of the
settings. -/
def choose (s : LoggingSettings) (env : Environment) : Except Malformed Filter :=
  match (env variableName).bind parse? with
  | some filter => .ok filter
  | none =>
    let directive := s.filter.getD default
    (parse? directive).elim (.error ⟨directive⟩) .ok

end Filter

end Tenancy.Log
