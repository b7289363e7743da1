import IncidentBoard.Plan.Predicate
import IncidentBoard.Schema.Incidents

/-! From definitions to plans. Every name goes through the registered tables, every value into a
parameter. -/
namespace IncidentBoard.Plan

open Sql Widget Schema

/-- A plan under construction. `axis` is the bucketed time column, kept apart from the other
outputs; `grouped` are the columns that are grouped by as they are. -/
structure Draft where
  timeColumn : Column
  bucket : Option Bucket
  axis : Option Select := none
  selects : List Select := []
  grouped : List Column := []
  aliases : List String := []
  joins : List JoinStep := []
  predicates : List Expr := []
  params : Params := {}

/-- Adds the steps to tables that are not joined yet. -/
def addJoins (joins steps : List JoinStep) : List JoinStep :=
  steps.foldl (fun js step => if js.any (·.table == step.table) then js else js ++ [step]) joins

/-- A letter or underscore, and letters, digits and underscores, all of ASCII. -/
def isAlias (s : String) : Bool :=
  match s.toList with
  | [] => false
  | c :: cs => (c.isAlpha || c == '_') && cs.all fun c => c.isAlphanum || c == '_'

namespace Draft

def requireTable (d : Draft) (table : String) : Draft :=
  { d with joins := addJoins d.joins (joinPath table) }

def claimAlias (d : Draft) (label : String) : Except DefinitionError Draft :=
  if !isAlias label then .error (.invalidAlias label)
  else if d.aliases.contains label then .error (.duplicateAlias label)
  else .ok { d with aliases := d.aliases ++ [label] }

/-- The condition of a filter; its table joins the plan. -/
def filter (d : Draft) (f : Filter) : Except DefinitionError (Expr × Draft) := do
  let c ← resolve f.table f.column
  match Operator.ofName? f.operator with
  | none => .error (.unsupportedOperator f.operator)
  | some op =>
    match predicate c op f.value d.params with
    | .ok (e, params) => .ok (e, { d.requireTable c.table with params })
    | .error fault => .error (.invalidFilterValue c.path op fault)

def setAxis (d : Draft) (b : Bucket) (label : String) : Except DefinitionError Draft := do
  let d ← (d.requireTable d.timeColumn.table).claimAlias label
  return { d with axis := some ⟨.bucket d.timeColumn.expr b, label, .group, some .timestamp⟩ }

/-- Groups by a column. The time column of a bucketed plan becomes its axis; a column that is
grouped by already changes nothing. -/
def addGroup (d : Draft) (c : Column) (label : String) : Except DefinitionError Draft :=
  match d.bucket with
  | some b =>
    if c = d.timeColumn then
      if d.axis.isNone then d.setAxis b label else .ok d
    else addPlain
  | none => addPlain
where
  addPlain : Except DefinitionError Draft :=
    if d.grouped.contains c then .ok d
    else do
      let d ← d.claimAlias label
      return { d with
        grouped := d.grouped ++ [c]
        selects := d.selects ++ [⟨c.expr, label, .group, some c.kind⟩] }

def addAggregate (d : Draft) (c : Column) (label : String) (a : Aggregation) (f : Option Filter) :
    Except DefinitionError Draft := do
  if (a = .sum ∨ a = .avg) ∧ !c.kind.isNumeric then
    throw (.nonNumericColumn a c.path)
  let (condition, d) ← match f with
    | none => .ok (none, d)
    | some f => (d.filter f).map fun (e, d) => (some e, d)
  match aggregate? a c.expr condition with
  | none => .error (.ratioRequiresFilter label)
  | some e =>
    let d ← d.claimAlias label
    return { d with selects := d.selects ++ [⟨e, label, .value, none⟩] }

def addField (d : Draft) (f : Field) : Except DefinitionError Draft := do
  let c ← resolve f.table f.column
  let d := d.requireTable c.table
  let label := f.label.getD c.defaultAlias
  match f.aggregation with
  | none => if f.filter.isSome then .error (.filterWithoutAggregation label) else d.addGroup c label
  | some name =>
    match Aggregation.ofName? name with
    | none => .error (.unsupportedAggregation name)
    | some a => d.addAggregate c label a f.filter

def addReference (d : Draft) (reference : String) : Except DefinitionError Draft := do
  let c ← resolveReference reference
  (d.requireTable c.table).addGroup c c.defaultAlias

def addFilter (d : Draft) (f : Filter) : Except DefinitionError Draft := do
  let (e, d) ← d.filter f
  return { d with predicates := d.predicates ++ [e] }

def addWindow (d : Draft) (w : Timeframe) : Draft :=
  if w.start.isNone && w.stop.isNone then d
  else
    let d := d.requireTable d.timeColumn.table
    let (es, params) := windowPredicates d.timeColumn w d.params
    { d with predicates := d.predicates ++ es, params }

/-- A bucketed plan has an axis, also if nothing groups by its time column. -/
def ensureAxis (d : Draft) : Except DefinitionError Draft :=
  match d.bucket with
  | some b => if d.axis.isNone then d.setAxis b d.timeColumn.defaultAlias else .ok d
  | none => .ok d

end Draft

def Direction.ofSort : SortOrder → Direction
  | .asc => .asc
  | .desc => .desc

/-- Without an axis a requested order is that of the first value, or of the first output. -/
def requestedKey (selects : List Select) (sort : SortOrder) : List (String × Direction) :=
  let target := (selects.find? (·.role == .value)).or selects.head?
  (target.map fun s => (s.label, Direction.ofSort sort)).toList

/-- Every group orders the rows, ascending, unless it does so already. -/
def orderKeys (selects : List Select) (hasAxis : Bool) (sort : Option SortOrder) :
    List (String × Direction) :=
  let requested := if hasAxis then [] else (sort.map (requestedKey selects)).getD []
  (labels .group selects).foldl
    (fun keys a => if (keys.map Prod.fst).contains a then keys else keys ++ [(a, .asc)]) requested

def sortKeyOf (key : String × Direction) : SortKey Expr := ⟨.col key.1, some key.2⟩

def Draft.finish (d : Draft) (chartType : ChartType) (sort : Option SortOrder)
    (limit : Option Nat) : QueryPlan :=
  let selects := d.axis.toList ++ d.selects
  { selects
    groupBy := (selects.filter (·.role == .group)).map (·.expr)
    joins := d.joins
    predicates := d.predicates
    params := d.params
    orderBy := (orderKeys selects d.axis.isSome sort).map sortKeyOf
    limit
    chartType
    timeBucket := d.bucket
    timeLabel := d.axis.map (·.label) }

def timeColumnOf (o : Options) : Except DefinitionError Column := do
  let c ← match o.timeColumn with
    | some reference => resolveReference reference
    | none => .ok defaultTimeColumn
  if c.kind = .timestamp then return c else .error (.notTimestampColumn c.path)

def limitOf (o : Options) (maxLimit : Nat) : Except DefinitionError (Option Nat) :=
  match o.limit with
  | none => .ok none
  | some n =>
    if 1 ≤ n.toInt ∧ n.toInt ≤ maxLimit then .ok (some n.toInt.toNat)
    else .error (.invalidLimit n.toInt maxLimit)

/-- The most rows that a definition may ask for. -/
def defaultMaxLimit : Nat := 10000

/-- The parts of a definition in the order in which they enter the plan: fields, groups, filters,
window, and the axis if none is there by then. -/
def build (definition : Definition) (w : Timeframe) (time : Column) :
    Except DefinitionError Draft := do
  let d : Draft := { timeColumn := time, bucket := definition.timeBucket }
  let d ← definition.fields.foldlM Draft.addField d
  let d ← definition.groupBy.foldlM Draft.addReference d
  let d ← definition.filters.foldlM Draft.addFilter d
  (d.addWindow w).ensureAxis

def compile (definition : Definition) (w : Timeframe) (maxLimit : Nat) :
    Except DefinitionError QueryPlan :=
  match definition.chartType with
  | none => .error .missingChartType
  | some chartType => do
    if definition.fields.isEmpty then throw .noFields
    w.validate
    let time ← timeColumnOf definition.options
    let limit ← limitOf definition.options maxLimit
    let d ← build definition w time
    if d.selects.isEmpty then throw .noAggregationOrGrouping
    return d.finish chartType definition.options.sort limit

def QueryPlan.toSql (p : QueryPlan) (d : Dialect) : String := (p.toQuery baseTable).toSql d

end IncidentBoard.Plan
