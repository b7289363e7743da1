import IncidentBoard.Proofs.Access.Narrowing
import IncidentBoard.Proofs.Calendar.Moments
import IncidentBoard.Proofs.Decimal.Numerals
import IncidentBoard.Proofs.Plan.Alike

/-! What the conditions of filters and windows say about a row, in the words of the definition. -/
namespace IncidentBoard

namespace Plan

open Sql Widget Schema Access

section Reading

variable {p q : Params}

/-- What is bound for a condition is what it reads, whatever is bound later. -/
theorem Params.map_read_of_isPrefix {vs : List SqlValue} (h : p.values ++ vs <+: q.values) :
    (List.range' (p.length + 1) vs.length).map q.read = vs.map .value := by
  obtain ⟨more, hmore⟩ := h
  have hbound : (List.range' (p.length + 1) vs.length).map (read ⟨p.values ++ vs⟩) =
      vs.map .value :=
    map_read_range' rfl
  rw [← hbound]
  refine List.map_congr_left fun i hi => read_of_le hmore.symm ?_
  have hi := (List.mem_range'_1.1 hi).2
  simp only [length, List.length_append] at hi ⊢
  omega

theorem Params.read_of_isPrefix {v : SqlValue} (h : p.values ++ [v] <+: q.values) :
    q.read (p.length + 1) = .value v := by
  have hmap := map_read_of_isPrefix h
  simpa using hmap

end Reading

/-- A JSON value as one of a column's kind. Integers are numbers or texts of 64 bits, texts may be
written as numbers, and timestamps are texts of a moment. -/
inductive Denotes : ColumnKind → Json → SqlValue → Prop
  | int {n : Int} (hn : -9223372036854775808 ≤ n ∧ n ≤ 9223372036854775807) :
      Denotes .integer (.int n) (.int n)
  | double {x : Float} {b : Decimal.Binary} {n : Int} (hx : Decimal.Binary.ofFloat? x = some b)
      (hvalue : b.value = n) (hn : n.natAbs < 9000000000000000) :
    Denotes .integer (.float x) (.int n)
  | numeral {s : String} {n : Int} (h : Decimal.IntegerText n (Text.trim s.toList))
      (hn : -9223372036854775808 ≤ n ∧ n ≤ 9223372036854775807) : Denotes .integer (.str s) (.int n)
  | text (s : String) : Denotes .text (.str s) (.text s)
  | intText (n : Int) : Denotes .text (.int n) (.text (toString n))
  | doubleText (x : Float) : Denotes .text (.float x) (.text (Json.floatText x))
  | moment {s : String} {t : Timestamp} (h : t.MomentText (Text.trim s.toList)) :
      Denotes .timestamp (.str s) (.timestamp t)

section Items

variable {kind : ColumnKind} {j : Json} {v v' : SqlValue}

theorem isSigned_eq_true {n : Int} :
    Word.isSigned n = true ↔ -9223372036854775808 ≤ n ∧ n ≤ 9223372036854775807 := by
  simp only [Word.isSigned, Bool.and_eq_true, decide_eq_true_eq]

theorem exactInteger?_eq_some {x : Float} {n : Int} : exactInteger? x = some n ↔
    ∃ b, Decimal.Binary.ofFloat? x = some b ∧ b.value = n ∧ n.natAbs < 9000000000000000 := by
  simp only [exactInteger?, Option.bind_eq_bind, Option.bind_eq_some_iff,
    Decimal.Binary.toInt?_eq_some, Option.ite_none_right_eq_some, Option.some.injEq]
  grind

theorem denotes_of_coerce (h : coerce kind j = .ok v) : Denotes kind j v := by
  unfold coerce at h
  split at h
  · cases h
  · cases h
  · cases h
  · split at h
    · next hn =>
      cases h
      exact .int (isSigned_eq_true.1 hn)
    · cases h
  · split at h
    · next hx =>
      cases h
      obtain ⟨b, hb, hvalue, hn⟩ := exactInteger?_eq_some.1 hx
      exact .double hb hvalue hn
    · cases h
  · split at h
    · next hs =>
      cases h
      obtain ⟨hread, hn⟩ := Option.filter_eq_some_iff.1 hs
      exact .numeral (Decimal.readInt?_eq_some.1 hread) (isSigned_eq_true.1 hn)
    · cases h
  · cases h
    exact .text _
  · cases h
    exact .intText _
  · cases h
    exact .doubleText _
  · split at h
    · next hs =>
      cases h
      exact .moment (Timestamp.parse?_eq_some.1 hs)
    · cases h
  · cases h

theorem Denotes.coerce (h : Denotes kind j v) : coerce kind j = .ok v := by
  cases h with
  | int hn => exact if_pos (isSigned_eq_true.2 hn)
  | double hx hvalue hn =>
    rw [Plan.coerce, exactInteger?_eq_some.2 ⟨_, hx, hvalue, hn⟩]
  | numeral h hn =>
    have hread : Decimal.readInt64? _ = _ :=
      Option.filter_eq_some_iff.2 ⟨Decimal.readInt?_eq_some.2 h, isSigned_eq_true.2 hn⟩
    rw [Plan.coerce, hread]
  | text | intText | doubleText => rfl
  | moment h => rw [Plan.coerce, Timestamp.parse?_eq_some.2 h]

theorem coerce_eq_ok : coerce kind j = .ok v ↔ Denotes kind j v :=
  ⟨denotes_of_coerce, Denotes.coerce⟩

theorem Denotes.unique (h : Denotes kind j v) (h' : Denotes kind j v') : v = v' :=
  Except.ok.inj (h.coerce.symm.trans h'.coerce)

end Items

/-- A cell stands in a relation to a value, taken as one of the column's kind. -/
def Stands (D : Database) (kind : ColumnKind) (relation : BinOp) (value : Json) (cell : Datum) :
    Prop :=
  ∃ v, Denotes kind value v ∧ cell ≠ .null ∧ D.Relates relation cell (.value v)

/-- The names that definitions have for operators. -/
def operators : List (String × Operator) :=
  [("eq", .eq), ("neq", .neq), ("gt", .gt), ("gte", .gte), ("lt", .lt), ("lte", .lte),
    ("in", .isIn), ("nin", .notIn), ("between", .between), ("contains", .contains)]

theorem mem_operators {s : String} {op : Operator} (h : Operator.ofName? s = some op) :
    (s, op) ∈ operators := by
  rw [← Operator.name_of_ofName? h]
  cases op <;> simp [operators, Operator.name]

/-- The comparison that an operator stands for, if it compares with one value. -/
def comparison? : Operator → Option BinOp
  | .eq => some .eq
  | .neq => some .ne
  | .gt => some .gt
  | .gte => some .ge
  | .lt => some .lt
  | .lte => some .le
  | _ => none

/-- What a filter says of a cell of its column, apart from `contains`. Its values are taken as
values of the column's kind, and compared in the order of the store. -/
def Says (D : Database) (kind : ColumnKind) (op : Operator) (value : Json) (cell : Datum) : Prop :=
  match op, value with
  | .eq, .null => cell = .null
  | .neq, .null => cell ≠ .null
  | .isIn, .arr items => cell ≠ .null ∧ ∃ j ∈ items, ∃ v, Denotes kind j v ∧ cell = .value v
  | .notIn, .arr items =>
    items = [] ∨ cell ≠ .null ∧ ∀ j ∈ items, ∀ v, Denotes kind j v → cell ≠ .value v
  | .between, .arr [low, high] => cell ≠ .null ∧ ∃ l h, Denotes kind low l ∧ Denotes kind high h ∧
    D.AtMost (.value l) cell ∧ D.AtMost cell (.value h)
  | op, value => ∃ relation ∈ comparison? op, Stands D kind relation value cell

theorem says_of_comparison {D : Database} {kind : ColumnKind} {op : Operator} {value : Json}
    {cell : Datum} {relation : BinOp} (h : comparison? op = some relation)
    (hnull : op = .eq ∨ op = .neq → value ≠ .null) :
    Says D kind op value cell ↔ Stands D kind relation value cell := by
  unfold Says
  split
  · exact absurd rfl (hnull (.inl rfl))
  · exact absurd rfl (hnull (.inr rfl))
  · cases h
  · cases h
  · cases h
  · simp [h]

section Truth

variable {D : Database} {c : Column} {p p' q : Params} {e : Expr} {row : Row}

/-- The cell of a column in a row. -/
def cellOf (c : Column) (row : Row) : Datum := row (some c.table) c.name

theorem eval_comparable {read : Nat → Datum} (htime : ∀ x, D.time x = x) :
    c.comparable.eval D read row = cellOf c row := by
  unfold Column.comparable
  split
  · rw [Expr.eval_timestamp, htime]
    rfl
  · rfl

theorem truth_isNull {read : Nat → Datum} (negated : Bool) :
    D.truth ((Expr.isNull c.expr negated).eval D read row) = some true ↔
      if negated then cellOf c row ≠ .null else cellOf c row = .null := by
  have hcell : c.expr.eval D read row = cellOf c row := rfl
  rw [Expr.eval_isNull, hcell]
  cases negated <;> simp [Database.truth]

/-- A comparison with a bound value is one with the cell of the column. -/
theorem truth_of_bound {relation : BinOp} (hrelation : relation.compares) {v : SqlValue}
    (hq : (p.bind v).2.values <+: q.values) (htime : ∀ x, D.time x = x) :
    D.truth ((Expr.binary relation c.comparable (p.bind v).1).eval D q.read row) = some true ↔
      cellOf c row ≠ .null ∧ D.Relates relation (cellOf c row) (.value v) := by
  have hread : (p.bind v).1.eval D q.read row = .value v := Params.read_of_isPrefix hq
  rw [Expr.truth_compare (beq_iff_eq.1 hrelation), eval_comparable htime, hread,
    Database.compare_value]

theorem truth_of_compareWith {relation : BinOp} {value : Json} (hrelation : relation.compares)
    (h : predicate.compareWith c p relation value = .ok (e, p')) (hq : p'.values <+: q.values)
    (htime : ∀ x, D.time x = x) :
    D.truth (e.eval D q.read row) = some true ↔ Stands D c.kind relation value (cellOf c row) := by
  obtain ⟨v, hv, h⟩ := ok_of_bind h
  cases h
  rw [coerce_eq_ok] at hv
  refine (truth_of_bound hrelation hq htime).trans ⟨fun hcell => ⟨v, hv, hcell⟩, ?_⟩
  rintro ⟨v', hv', hcell⟩
  rwa [hv.unique hv']

theorem eval_inList {vs : List SqlValue} (negated : Bool)
    (hq : (p.bindAll vs).2.values <+: q.values) (htime : ∀ x, D.time x = x) :
    D.truth ((Expr.inList c.comparable (p.bindAll vs).1 negated).eval D q.read row) =
      (D.member (cellOf c row) (vs.map .value)).negateIf negated := by
  rw [Params.bindAll_eq] at hq ⊢
  have hvalues : ((List.range' (p.length + 1) vs.length).map Expr.param).map (·.eval D q.read row) =
      vs.map .value := by
    rw [List.map_map, ← Params.map_read_of_isPrefix hq]
    rfl
  rw [Expr.truth_inList, eval_comparable htime, hvalues]

/-- What is bound for a list are its items as values of the column's kind. -/
theorem mem_of_coerceAll {kind : ColumnKind} {items : List Json} {vs : List SqlValue}
    (h : coerceAll kind items = .ok vs) {v : SqlValue} :
    v ∈ vs ↔ ∃ j ∈ items, Denotes kind j v := by
  induction items generalizing vs with
  | nil =>
    cases h
    simp
  | cons j items ih =>
    obtain ⟨w, hw, h⟩ := ok_of_bind h
    obtain ⟨ws, hws, h⟩ := ok_of_bind h
    cases h
    rw [coerce_eq_ok] at hw
    rw [List.mem_cons, ih hws, List.exists_mem_cons_iff]
    refine or_congr_left ⟨?_, fun hv => hv.unique hw⟩
    rintro rfl
    exact hw

theorem truth_of_isIn {items : List Json} {vs : List SqlValue}
    (hvs : coerceAll c.kind items = .ok vs) (hq : (p.bindAll vs).2.values <+: q.values)
    (htime : ∀ x, D.time x = x) :
    D.truth ((Expr.inList c.comparable (p.bindAll vs).1 false).eval D q.read row) = some true ↔
      Says D c.kind .isIn (.arr items) (cellOf c row) := by
  rw [eval_inList false hq htime, Truth.negateIf_false, Database.member_values]
  refine and_congr_right fun _ => ?_
  simp only [mem_of_coerceAll hvs]
  constructor
  · rintro ⟨v, ⟨j, hj, hv⟩, hcell⟩
    exact ⟨j, hj, v, hv, hcell⟩
  · rintro ⟨j, hj, v, hv, hcell⟩
    exact ⟨v, ⟨j, hj, hv⟩, hcell⟩

theorem truth_of_notIn {items : List Json} {vs : List SqlValue}
    (hvs : coerceAll c.kind items = .ok vs) (hq : (p.bindAll vs).2.values <+: q.values)
    (htime : ∀ x, D.time x = x) :
    D.truth ((Expr.inList c.comparable (p.bindAll vs).1 true).eval D q.read row) = some true ↔
      Says D c.kind .notIn (.arr items) (cellOf c row) := by
  have hempty : vs = [] ↔ items = [] := by
    rw [← List.length_eq_zero_iff, length_of_coerceAll hvs, List.length_eq_zero_iff]
  rw [eval_inList true hq htime, Truth.negateIf, if_pos rfl, Database.not_member_values, hempty]
  refine or_congr_right (and_congr_right fun _ => ?_)
  simp only [mem_of_coerceAll hvs]
  constructor
  · exact fun h j hj v hv => h v ⟨j, hj, hv⟩
  · rintro h v ⟨j, hj, hv⟩
    exact h j hj v hv

theorem truth_of_between {low high : Json} {l h : SqlValue} (hlow : Denotes c.kind low l)
    (hhigh : Denotes c.kind high h) (hq : ((p.bind l).2.bind h).2.values <+: q.values)
    (htime : ∀ x, D.time x = x) :
    D.truth ((Expr.between c.comparable (p.bind l).1 ((p.bind l).2.bind h).1 false).eval D
      q.read row) =
      some true ↔ Says D c.kind .between (.arr [low, high]) (cellOf c row) := by
  have hl : (p.bind l).1.eval D q.read row = .value l :=
    Params.read_of_isPrefix ((List.prefix_append _ _).trans hq)
  have hh : ((p.bind l).2.bind h).1.eval D q.read row = .value h := Params.read_of_isPrefix hq
  rw [Expr.truth_between, Truth.negateIf_false, eval_comparable htime, hl, hh,
    Database.range_values]
  refine and_congr_right fun _ => ⟨fun hcell => ⟨l, h, hlow, hhigh, hcell⟩, ?_⟩
  rintro ⟨l', h', hl', hh', hcell⟩
  rwa [hlow.unique hl', hhigh.unique hh']

/-- The condition of a filter is true of the rows of whose cell the filter holds, whatever is bound
after it. -/
theorem truth_of_predicate {op : Operator} {value : Json} (hop : op ≠ .contains)
    (h : predicate c op value p = .ok (e, p')) (hq : p'.values <+: q.values)
    (htime : ∀ x, D.time x = x) (row : Row) :
    D.truth (e.eval D q.read row) = some true ↔ Says D c.kind op value (cellOf c row) := by
  unfold predicate at h
  split at h
  · cases h; exact truth_isNull false
  · cases h; exact truth_isNull true
  · obtain ⟨vs, hvs, h⟩ := ok_of_bind h
    cases h
    exact truth_of_isIn hvs hq htime
  · obtain ⟨vs, hvs, h⟩ := ok_of_bind h
    cases h
    exact truth_of_notIn hvs hq htime
  · cases h
  · cases h
  · obtain ⟨l, hlow, h⟩ := ok_of_bind h
    obtain ⟨u, hhigh, h⟩ := ok_of_bind h
    cases h
    exact truth_of_between (coerce_eq_ok.1 hlow) (coerce_eq_ok.1 hhigh) hq htime
  · cases h
  · exact absurd rfl hop
  all_goals
    rw [says_of_comparison rfl (by simp_all)]
    exact truth_of_compareWith rfl h hq htime

end Truth

end Plan

end IncidentBoard
