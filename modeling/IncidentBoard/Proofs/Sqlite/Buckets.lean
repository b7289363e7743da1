import IncidentBoard.Proofs.Calendar.Clock
import IncidentBoard.Proofs.Sqlite.Values
import IncidentBoard.Proofs.Text.Digits

/-! Buckets that SQLite calculates are the ones that timestamps are rounded down to. -/
namespace IncidentBoard

open Calendar Text

namespace Sql.Sqlite

variable {t f m : Timestamp}

/-- Reading gives back what a text of a moment names, whatever fraction it ends with. -/
theorem readMoment?_text (hyear : 0 ≤ t.date.year ∧ t.date.year ≤ 9999)
    (hleap : t.nano < 1000000000) {separator : Char}
    (hseparator : separator = 'T' ∨ separator = ' ') {fraction : List Char}
    (hfraction : isFraction fraction) :
    readMoment? (t.date.text ++ separator :: (t.clockText ++ fraction)) = some t.wholeSecond := by
  have hvalid := t.date.fields_valid
  have hlength := (monthLength_bounds t.date.year ⟨hvalid.1, hvalid.2.1⟩).2
  have hsecond : t.second % 60 < 60 := Nat.mod_lt _ (by decide)
  have hy := digits?_padded (show 0 < 4 by decide) (show t.date.year.toNat < 10 ^ 4 by omega)
  have hm := digits?_two (show t.date.month < 100 by omega)
  have hd := digits?_two (show t.date.day < 100 by omega)
  have hh := digits?_two (Nat.lt_trans t.hour_lt (by decide))
  have hmin := digits?_two (Nat.lt_trans t.minute_lt (by decide))
  have hs := digits?_two (Nat.lt_trans hsecond (by decide))
  have hsep (rest : List Char) :
      (mark? 'T' (separator :: rest)).or (mark? ' ' (separator :: rest)) = some rest := by
    rcases hseparator with rfl | rfl <;> rfl
  have hmoment : Timestamp.ofParts? t.date (t.hour * 3600 + t.minute * 60 + t.second % 60) 0 =
      some t.wholeSecond := by
    rw [t.second_eq_clock, Timestamp.ofParts?_eq_some]
    exact ⟨rfl, rfl, rfl⟩
  rw [Date.text, Date.monthText, yearText_of_digits hyear, Timestamp.clockText,
    Timestamp.minuteText, Timestamp.clockSecond_eq hleap]
  simp only [List.append_assoc, List.cons_append, readMoment?, hy, hm, hd, hh, hmin, hs,
    mark?_self, hsep, Option.bind_eq_bind, Option.bind_some]
  rw [if_pos ⟨hfraction, t.hour_lt, t.minute_lt, hsecond⟩]
  rw [Int.toNat_of_nonneg hyear.1, Date.ofYMD?_fields]
  exact hmoment

/-- How a column may hold a moment: as a text, with any fraction, or as seconds since 1 January
1970. -/
inductive Holds (t : Timestamp) : Value → Prop
  | text (separator : Char) (fraction : List Char) (hseparator : separator = 'T' ∨ separator = ' ')
      (hfraction : isFraction fraction) :
      Holds t (.text (String.ofList (t.date.text ++ separator :: (t.clockText ++ fraction))))
  | seconds : Holds t (.int t.epochSeconds)

theorem number?_int (n : Int) : (Value.int n).number? = some n := rfl

theorem number?_padded {width n : Nat} :
    (Value.text (String.ofList (padded width n))).number? = some (n : Int) := by
  have hdigits : (padded width n).all Char.isDigit :=
    List.all_eq_true.2 fun _ => isDigit_of_mem_padded
  have hne : padded width n ≠ [] := by simp [padded]
  rw [Value.number?, String.toList_ofList, if_pos ⟨hne, hdigits⟩, numeral_padded.value]

section Terms

variable {row : Row} {time : Term}

theorem value?_strftime {v : Value} (htime : time.value? row = some v) (format : String)
    (modifiers : List String) :
    (strftimeTerm format time modifiers).value? row = strftime? format v (modifiers.map .text) := by
  have hmodifiers : Term.values? row (modifiers.map .text) = some (modifiers.map .text) := by
    induction modifiers with
    | nil => rfl
    | cons s modifiers ih => simp [Term.values?, Term.value?, ih]
  simp [strftimeTerm, Term.value?, Term.values?, htime, hmodifiers, call?]

theorem value?_printf {e : Term} {n : Nat} (he : e.value? row = some (.int n)) :
    (Term.call "PRINTF" [.text "%02d", e]).value? row =
      some (.text (String.ofList (padded 2 n))) := by
  simp [Term.value?, Term.values?, he, call?, number?_int, printf?]

theorem value?_binary {op : BinOp} {left right : Term} {v w : Value}
    (hleft : left.value? row = some v) (hright : right.value? row = some w) :
    (Term.binary op left right).value? row = operate? op v w := by
  rw [Term.value?, hleft, hright]
  rfl

/-- `TYPEOF` tells both ways of storing a moment apart. -/
theorem value?_timestampTerm {e : Term} {v : Value} (he : e.value? row = some v) :
    (timestampTerm e).value? row =
      strftime? canonical v (match v with
        | .int _ => [.text "unixepoch"]
        | .text _ => []) := by
  have hstrftime := fun modifiers => value?_strftime he canonical modifiers
  cases v <;> simp [timestampTerm, Term.value?, Term.values?, he, call?, Value.typeName, operate?,
    number?_int, hstrftime]

end Terms

section Buckets

variable {row : Row} {time : Term} (hyear : 0 ≤ t.date.year ∧ t.date.year ≤ 9999)

include hyear

/-- Six days back and on to the next Monday is the start of the week. -/
theorem moves_week (hfloor : Bucket.week.floor? t = some f) :
    ∃ m, [Modifier.days (-6), .weekday 1].foldlM Modifier.move? t.wholeSecond = some m ∧
      m.date = f.date := by
  obtain ⟨hf, -⟩ := (Bucket.floor?_of_length rfl).1 hfloor
  have hnumber := Date.number_bounds hyear
  have hseconds : t.wholeSecond.seconds = t.seconds := rfl
  have ht := t.number_eq
  have hfirst : firstDay = -95746130 := rfl
  have hlast : lastDay = 95745398 := rfl
  obtain ⟨back, hback, hbacknano⟩ :=
    Timestamp.exists_seconds (n := t.seconds + 86400 * (-6)) (by omega) (by omega)
  have hbackday := back.number_eq
  -- The seven days that end with the day hold one Monday, the one that starts its week.
  obtain ⟨m, hm, hmnano⟩ := Timestamp.exists_seconds
    (n := back.seconds + 86400 * ((1 - (back.date.number + 1)) % 7)) (by omega) (by omega)
  refine ⟨m, ?_, Date.ext ?_⟩
  · have hdays : (Modifier.days (-6)).move? t.wholeSecond = some back :=
      Timestamp.addSeconds?_eq_some.2 ⟨hback, hbacknano⟩
    have hweekday : (Modifier.weekday 1).move? back = some m :=
      Timestamp.addSeconds?_eq_some.2 ⟨hm, hmnano.trans hbacknano.symm⟩
    simp only [List.foldlM_cons, List.foldlM_nil, hdays, hweekday, Option.bind_eq_bind,
      Option.bind_some]
    rfl
  · rw [m.number_eq, f.number_eq]
    omega

variable (hleap : t.nano < 1000000000)

include hleap

/-- Both ways of storing a moment come to its sort key. -/
theorem value?_timestamp {table : Option String} {name : String}
    (hcell : Holds t (row table name)) :
    (timestampTerm (.column table name)).value? row = some (.text t.sortKey) := by
  have hprint : print? t.wholeSecond canonical.toList = some t.sortKey.toList := by
    simp [t.sortKey_eq hyear hleap, canonical, print?, directive?, hyear, Timestamp.layout]
  generalize hv : row table name = v at hcell
  have hcolumn : (Term.column table name).value? row = some v := by rw [Term.value?, hv]
  rw [value?_timestampTerm hcolumn]
  cases hcell with
  | text separator fraction hseparator hfraction =>
    have hread := readMoment?_text hyear hleap hseparator hfraction
    simp [strftime?, timeValue?, hread, hprint]
  | seconds =>
    have hread := t.ofEpochSeconds?_epochSeconds
    have hmodifier : Value.modifier? (.text "unixepoch") = some .unixepoch := rfl
    simp [strftime?, timeValue?, hread, hprint, hmodifier]

/-- Reading a sort key, moving on from its moment and printing it again. -/
theorem strftime?_sortKey (format : String) {texts : List Value} {modifiers : List Modifier}
    (htexts : texts.mapM Value.modifier? = some modifiers)
    (hmoves : modifiers.foldlM Modifier.move? t.wholeSecond = some m) :
    strftime? format (.text t.sortKey) texts =
      (print? m format.toList).map fun cs => .text (String.ofList cs) := by
  have hread : readMoment? t.sortKey.toList = some t.wholeSecond := by
    have hwritten := readMoment?_text hyear hleap (.inl rfl) (show isFraction [] from rfl)
    rwa [Timestamp.sortKey, String.toList_ofList, ← t.clockText.append_nil]
  simp only [strftime?, htexts, timeValue?, hread, hmoves, Option.bind_eq_bind, Option.bind_some,
    Option.map_some]
  cases print? m format.toList <;> rfl

variable (htime : time.value? row = some (.text t.sortKey))

include htime

/-- Without modifiers the fields of the moment are printed. -/
theorem value?_plain (format : String) : (strftimeTerm format time []).value? row =
    (print? t.wholeSecond format.toList).map fun cs => .text (String.ofList cs) := by
  rw [value?_strftime htime, List.map_nil, strftime?_sortKey hyear hleap format rfl rfl]

/-- Arithmetic on the text of a minute. -/
theorem value?_flooredMinute {step : Nat} (hstep : 0 < step) :
    (flooredMinute time step).value? row = some (.int (t.minute / step * step : Nat)) := by
  have hne : (step : Int) ≠ 0 := by omega
  have hint : (Term.int step).value? row = some (.int step) := rfl
  have hminute : (strftimeTerm "%M" time []).value? row =
      some (.text (String.ofList (padded 2 t.minute))) := by
    rw [value?_plain hyear hleap htime]
    simp [print?, directive?]
  have hquotient : (Term.binary .divide (strftimeTerm "%M" time []) (.int step)).value? row =
      some (.int (t.minute / step : Nat)) := by
    rw [value?_binary hminute hint]
    simp only [operate?, number?_padded, number?_int, Option.bind_eq_bind, Option.bind_some,
      if_neg hne]
    rfl
  rw [flooredMinute, value?_binary hquotient hint]
  rfl

theorem value?_minuteMultiple {step : Nat} (hstep : 0 < step) :
    (minuteMultipleTerm time step).value? row = some (.text (String.ofList
      (Timestamp.layout t.date.year.toNat t.date.month t.date.day t.hour
      (t.minute / step * step) 0))) := by
  have hhour : (strftimeTerm "%Y-%m-%dT%H:" time []).value? row = some (.text (String.ofList
      (padded 4 t.date.year.toNat ++ '-' ::
        (padded 2 t.date.month ++ '-' :: (padded 2 t.date.day ++ 'T' ::
        (padded 2 t.hour ++ [':'])))))) := by
    rw [value?_plain hyear hleap htime]
    simp [print?, directive?, hyear]
  have hminute := value?_printf (value?_flooredMinute hyear hleap htime hstep)
  rw [minuteMultipleTerm, value?_binary (value?_binary hhour hminute) rfl]
  simp [operate?, Value.string, Timestamp.layout, padded_two_zero, String.append_assoc]

theorem value?_bucket {b : Bucket} (hfloor : b.floor? t = some f)
    (hf : 0 ≤ f.date.year ∧ f.date.year ≤ 9999) :
    (bucketTerm time b).value? row = some (.text f.sortKey) := by
  have hplain := value?_plain hyear hleap htime
  have hmultiple {step : Nat} (hstep : 0 < step) := value?_minuteMultiple hyear hleap htime hstep
  cases b with
  | minute =>
    cases hfloor
    rw [bucketTerm, hplain, Timestamp.sortKey_floorMinutes (k := 1) hyear (by decide)]
    simp [print?, directive?, hyear, Timestamp.layout, padded_two_zero]
  | fiveMinutes =>
    cases hfloor
    rw [bucketTerm, Timestamp.sortKey_floorMinutes (k := 5) hyear (by decide)]
    exact hmultiple (by decide)
  | fifteenMinutes =>
    cases hfloor
    rw [bucketTerm, Timestamp.sortKey_floorMinutes (k := 15) hyear (by decide)]
    exact hmultiple (by decide)
  | hour =>
    cases hfloor
    have hminute : t.minute / 60 = 0 := Nat.div_eq_of_lt t.minute_lt
    rw [bucketTerm, hplain, Timestamp.sortKey_floorMinutes (k := 60) hyear (by decide)]
    simp [print?, directive?, hyear, Timestamp.layout, padded_two_zero, hminute]
  | day =>
    cases hfloor
    rw [bucketTerm, hplain, Timestamp.sortKey_midnight _ hyear]
    simp [print?, directive?, hyear, Timestamp.layout, padded_two_zero]
  | week =>
    obtain ⟨m, hmoves, hdate⟩ := moves_week hyear hfloor
    have hmodifiers : [Value.text "-6 days", .text "weekday 1"].mapM Value.modifier? =
        some [.days (-6), .weekday 1] := rfl
    obtain ⟨d, -, rfl⟩ := Option.map_eq_some_iff.1 hfloor
    rw [bucketTerm, value?_strftime htime, List.map_cons, List.map_cons, List.map_nil,
      strftime?_sortKey hyear hleap _ hmodifiers hmoves, Timestamp.sortKey_midnight d hf]
    rw [Date.date_midnight] at hdate hf
    simp [print?, directive?, hdate, hf, Timestamp.layout, padded_two_zero]
  | month | year =>
    obtain ⟨d, hd, rfl⟩ := Option.map_eq_some_iff.1 hfloor
    rw [bucketTerm, hplain, Timestamp.sortKey_of_ofYMD? hd hf]
    simp [print?, directive?, hyear, Timestamp.layout, padded_two_zero, padded_two_one]

end Buckets

/-- The value of a text of tokens on a row. -/
def evaluate? (row : Row) (ts : List Token) : Option Value := (Term.read? ts).bind (Term.value? row)

/-- A bucketed column is the sort key of the bucket's start, however the moment is stored. -/
theorem bucket_agrees_with_floor (b : Bucket) (t : Timestamp) (row : Row) (table : Option String)
    (name : String) (hleap : t.nano < 1000000000) (hyear : 0 ≤ t.date.year ∧ t.date.year ≤ 9999)
    (hcell : Holds t (row table name)) :
    ∃ f, b.floor? t = some f ∧ (0 ≤ f.date.year ∧ f.date.year ≤ 9999 →
      evaluate? row ((Expr.bucket (.column table name) b).tokens .sqlite) =
        some (.text f.sortKey)) := by
  obtain ⟨f, hfloor⟩ := Bucket.exists_floor? hyear b
  refine ⟨f, hfloor, fun hf => ?_⟩
  rw [evaluate?, read?_bucket, Option.bind_some]
  exact value?_bucket hyear hleap (value?_timestamp hyear hleap hcell) hfloor hf

/-- Thursday 25 April 2024, 13:45. -/
def thursday : Timestamp := ⟨⟨739000, by decide, by decide⟩, 49500, 0, by decide, by decide⟩

theorem bucket_agrees_with_floor_week : ∃ f, Bucket.week.floor? thursday = some f ∧
    evaluate? (fun _ _ => .text "2024-04-25 13:45:00.25")
      ((Expr.bucket (.column (some "alerts") "created") .week).tokens .sqlite) =
    some (.text f.sortKey) := by
  obtain ⟨f, hfloor, hvalue⟩ :=
    bucket_agrees_with_floor .week thursday (fun _ _ => .text "2024-04-25 13:45:00.25")
      (some "alerts") "created" (by decide) (by decide) (.text ' ' ".25".toList (.inr rfl) rfl)
  refine ⟨f, hfloor, hvalue ?_⟩
  cases hfloor
  decide

end Sql.Sqlite

end IncidentBoard
