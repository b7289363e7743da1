import IncidentBoard.Calendar.Text
import IncidentBoard.Text.Quoted
import IncidentBoard.Widget.Basic

/-! Why a definition cannot be compiled. -/
namespace IncidentBoard

/-- How a column's values are stored. -/
inductive ColumnKind
  | integer | text | timestamp
  deriving DecidableEq, Repr

namespace ColumnKind

def isNumeric (k : ColumnKind) : Bool := k == .integer

def name : ColumnKind → String
  | .integer => "integer"
  | .text => "text"
  | .timestamp => "timestamp"

def title : ColumnKind → String
  | .integer => "Integer"
  | .text => "Text"
  | .timestamp => "Timestamp"

end ColumnKind

namespace Widget

/-- What is wrong with the value of a filter. -/
inductive ValueFault
  | null
  | notScalar
  | notIntegerNumber (json : String)
  | notIntegerText (s : String)
  | notTimestamp (s : String)
  | wrongKind (json : String) (kind : ColumnKind)
  | notList
  | notPair
  | notTextColumn
  | notText
  deriving DecidableEq, Repr

def ValueFault.message : ValueFault → String
  | .null => "null is only valid with eq/neq"
  | .notScalar => "expected a scalar value"
  | .notIntegerNumber json => "expected an integer, got " ++ json
  | .notIntegerText s => "expected an integer, got " ++ Text.quoted s
  | .notTimestamp s => "expected a timestamp, got " ++ Text.quoted s
  | .wrongKind json kind => json ++ " is not valid for a " ++ kind.title ++ " column"
  | .notList => "expected an array of values"
  | .notPair => "expected exactly two values"
  | .notTextColumn => "contains applies to text columns only"
  | .notText => "expected a string"

/-- Columns are given as `table.column`. -/
inductive DefinitionError
  | missingChartType
  | noFields
  | unknownTable (table : String)
  | unknownColumn (table column : String)
  | invalidReference (reference : String)
  | notTimestampColumn (column : String)
  | unsupportedOperator (name : String)
  | unsupportedAggregation (name : String)
  | nonNumericColumn (aggregation : Aggregation) (column : String)
  | invalidFilterValue (column : String) (operator : Operator) (fault : ValueFault)
  | filterWithoutAggregation (label : String)
  | ratioRequiresFilter (label : String)
  | duplicateAlias (label : String)
  | invalidAlias (label : String)
  | invalidLimit (value : Int) (max : Nat)
  | invalidTimeframe (start stop : Timestamp)
  | noAggregationOrGrouping
  deriving DecidableEq

def DefinitionError.message : DefinitionError → String
  | .missingChartType => "Widget definition has no chart_type"
  | .noFields => "Widget definition has no fields"
  | .unknownTable table => "Unknown table: " ++ table
  | .unknownColumn table column => "Unknown column: " ++ table ++ "." ++ column
  | .invalidReference reference =>
    "Invalid column reference '" ++ reference ++ "', expected 'table.column'"
  | .notTimestampColumn column => "Column " ++ column ++ " is not a timestamp column"
  | .unsupportedOperator name => "Unsupported filter operator: " ++ name
  | .unsupportedAggregation name => "Unsupported aggregation: " ++ name
  | .nonNumericColumn aggregation column =>
    "Unsupported aggregation: " ++ aggregation.name ++ " on non-numeric column " ++ column
  | .invalidFilterValue column operator fault =>
    "Invalid value for '" ++ operator.name ++ "' filter on " ++ column ++ ": " ++ fault.message
  | .filterWithoutAggregation label => "Field '" ++ label ++ "' has a filter but no aggregation"
  | .ratioRequiresFilter label => "Field '" ++ label ++ "' uses ratio aggregation without a filter"
  | .duplicateAlias label => "Duplicate alias: " ++ label
  | .invalidAlias label => "Invalid alias '" ++ label ++ "': use letters, digits and underscores"
  | .invalidLimit value max =>
    "Invalid limit " ++ toString value ++ ": must be between 1 and " ++ toString max
  | .invalidTimeframe start stop =>
    "Invalid timeframe: start " ++ start.sortKey ++ " is after end " ++ stop.sortKey
  | .noAggregationOrGrouping => "Widget needs at least one aggregated field or grouping column"

end Widget

def Timeframe.validate (w : Timeframe) : Except Widget.DefinitionError Unit :=
  match w.bounds? with
  | some (start, stop) => if stop < start then .error (.invalidTimeframe start stop) else .ok ()
  | none => .ok ()

end IncidentBoard
