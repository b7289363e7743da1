import IncidentBoard.Proofs.Calendar.Clock
import IncidentBoard.Proofs.Text.Digits

/-! Timestamps in ISO form: what is written has it, and what has it is read. -/
namespace IncidentBoard

namespace Text

variable {cs : List Char}

theorem isBlank_of_isDigit {c : Char} (h : c.isDigit) : isBlank c = false := by
  simp only [Char.isDigit, Bool.and_eq_true, decide_eq_true_eq, ge_iff_le, UInt32.le_iff_toNat_le]
    at h
  have hlow : 48 ≤ c.toNat := h.1
  have hhigh : c.toNat ≤ 57 := h.2
  simp only [isBlank, Bool.or_eq_false_iff, Bool.and_eq_false_imp, decide_eq_true_eq,
    decide_eq_false_iff_not, beq_eq_false_iff_ne]
  omega

theorem trimLeft_eq_self (h : ∀ c ∈ cs.head?, isBlank c = false) : trimLeft cs = cs := by
  cases cs with
  | nil => rfl
  | cons c cs => rw [trimLeft, List.dropWhile_cons, h c rfl]; rfl

theorem trim_eq_self (h : ∀ c ∈ cs, isBlank c = false) : trim cs = cs := by
  have hfirst : trimLeft cs = cs := trimLeft_eq_self fun c hc => h c (List.mem_of_mem_head? hc)
  have hlast : trimLeft cs.reverse = cs.reverse :=
    trimLeft_eq_self fun c hc => h c (List.mem_reverse.1 (List.mem_of_mem_head? hc))
  rw [trim, hfirst, hlast, List.reverse_reverse]

theorem Numeral.trimLeft_append {n : Nat} {ds : List Char} (h : Numeral n ds) (hpos : 0 < ds.length)
    (rest : List Char) : trimLeft (ds ++ rest) = ds ++ rest := by
  obtain ⟨d, ds', rfl, hd⟩ := h.exists_cons hpos
  refine trimLeft_eq_self fun c hc => ?_
  cases hc
  exact isBlank_of_isDigit hd

end Text

open Calendar Text

namespace Calendar

/-- Four digits, or a sign and at least four where the year lies outside of 0 to 9999. -/
inductive IsoYear (year : Int) : List Char → Prop
  | plain {ds : List Char} (hyear : 0 ≤ year ∧ year ≤ 9999) (hwidth : ds.length = 4)
      (h : Numeral year.toNat ds) : IsoYear year ds
  | before {ds : List Char} (hyear : year < 0) (hwidth : 4 ≤ ds.length)
      (h : Numeral year.natAbs ds) :
      IsoYear year ('-' :: ds)
  | after {ds : List Char} (hyear : 9999 < year) (hwidth : 4 ≤ ds.length)
      (h : Numeral year.natAbs ds) :
      IsoYear year ('+' :: ds)

structure TwoDigits (n : Nat) (ds : List Char) : Prop where
  width : ds.length = 2
  numeral : Numeral n ds

/-- Nothing for zero; otherwise three, six or nine digits behind a point. -/
inductive IsoFraction (nano : Nat) : List Char → Prop
  | zero (h : nano = 0) : IsoFraction nano []
  | digits {ds : List Char} {n : Nat} (hnano : n * 10 ^ (9 - ds.length) = nano) (hne : nano ≠ 0)
      (hwidth : ds.length ∈ [3, 6, 9]) (h : Numeral n ds) : IsoFraction nano ('.' :: ds)

end Calendar

/-- `2024-03-07T13:45:00.250` -/
inductive IsoText (t : Timestamp) : List Char → Prop
  | mk {year month day hour minute second fraction : List Char} (hyear : IsoYear t.date.year year)
      (hmonth : TwoDigits t.date.month month) (hday : TwoDigits t.date.day day)
      (hhour : TwoDigits t.hour hour) (hminute : TwoDigits t.minute minute)
      (hsecond : TwoDigits t.clockSecond second)
      (hfraction : IsoFraction t.fraction fraction) :
      IsoText t (year ++ '-' :: (month ++ '-' :: (day ++ 'T' ::
        (hour ++ ':' :: (minute ++ ':' :: (second ++ fraction))))))

section Writing

namespace Calendar

theorem isoYear_yearText (year : Int) : IsoYear year (yearText year) := by
  unfold yearText
  by_cases hyear : 0 ≤ year ∧ year ≤ 9999
  · rw [if_pos hyear]
    exact .plain hyear (length_padded (by decide) (by omega)) numeral_padded
  · rw [if_neg hyear]
    by_cases hneg : year < 0
    · rw [if_pos hneg]
      exact .before hneg le_length_padded numeral_padded
    · rw [if_neg hneg]
      exact .after (by omega) le_length_padded numeral_padded

theorem twoDigits_padded {n : Nat} (h : n < 100) : TwoDigits n (padded 2 n) :=
  ⟨length_padded (by decide) h, numeral_padded⟩

theorem isoFraction_padded {nano n width : Nat} (hwidth : width ∈ [3, 6, 9]) (hne : nano ≠ 0)
    (hnano : n * 10 ^ (9 - width) = nano) (hlt : n < 10 ^ width) :
    IsoFraction nano ('.' :: padded width n) := by
  have hpos : 0 < width := Nat.pos_of_ne_zero fun h => by simp [h] at hwidth
  have hlength := length_padded hpos hlt
  rw [← hlength] at hwidth hnano
  exact .digits hnano hne hwidth numeral_padded

end Calendar

theorem Timestamp.clockSecond_lt (t : Timestamp) : t.clockSecond < 100 := by
  have hnano := t.nano_lt_max
  unfold clockSecond
  omega

theorem Timestamp.isoFraction_fractionText (t : Timestamp) :
    IsoFraction t.fraction t.fractionText := by
  have hlt := t.fraction_lt
  unfold fractionText
  dsimp only
  split
  · next hzero => exact .zero hzero
  · next hne =>
    split
    · next hmilli => exact isoFraction_padded (by decide) hne (by omega) (by omega)
    · split
      · next hmicro => exact isoFraction_padded (by decide) hne (by omega) (by omega)
      · exact isoFraction_padded (by decide) hne (by omega) (by omega)

theorem Timestamp.isoText_exactChars (t : Timestamp) : IsoText t t.exactChars := by
  have hdate := t.date.fields_valid
  have hlength := monthLength_bounds t.date.year ⟨hdate.1, hdate.2.1⟩
  have hiso := IsoText.mk (isoYear_yearText t.date.year)
    (twoDigits_padded (by omega : t.date.month < 100))
    (twoDigits_padded (by omega : t.date.day < 100))
    (twoDigits_padded (Nat.lt_trans t.hour_lt (by decide)))
    (twoDigits_padded (Nat.lt_trans t.minute_lt (by decide))) (twoDigits_padded t.clockSecond_lt)
    t.isoFraction_fractionText
  simpa [exactChars, Date.text, Date.monthText, clockText, minuteText] using hiso

end Writing

section Reading

namespace Calendar

variable {n nano : Nat} {year : Int} {ds cs : List Char}

theorem number?_twoDigits (h : TwoDigits n ds) (rest : List Char) :
    number? 2 (trimLeft (ds ++ rest)) = some (n, rest) := by
  have hwidth := h.width
  have hpos : 0 < ds.length := by omega
  rw [h.numeral.trimLeft_append hpos]
  exact number?_numeral h.numeral hpos (Nat.le_of_eq hwidth) fun hlt => by omega

theorem digits?_twoDigits (h : TwoDigits n ds) (rest : List Char) :
    digits? 2 (ds ++ rest) = some (n, rest) := by
  have hread := digits?_numeral h.numeral rest
  rwa [h.width] at hread

theorem IsoYear.yearText (h : IsoYear year ds) : YearText year ds := by
  cases h with
  | plain hyear hwidth h => exact .plain hyear.1 ⟨by omega, by omega, h⟩
  | before hyear hwidth h => exact .before (by omega) (by omega) h
  | after hyear hwidth h => exact .after (by omega) (by omega) h

/-- A year begins with a digit or a sign. -/
theorem YearText.trimLeft_append (h : YearText year ds) (rest : List Char) :
    trimLeft (ds ++ rest) = ds ++ rest := by
  cases h with
  | plain _ h => exact h.numeral.trimLeft_append h.pos rest
  | before _ _ _ | after _ _ _ => exact trimLeft_eq_self (by simp; decide)

theorem year?_isoYear (h : IsoYear year ds) (rest : List Char) :
    year? (trimLeft (ds ++ '-' :: rest)) = some (year, '-' :: rest) := by
  have hdash : ∀ c ∈ ('-' :: rest).head?, digitValue? c = none := by
    intro c hc
    cases hc
    rfl
  rw [h.yearText.trimLeft_append]
  exact (year?_eq_some hdash).2 ⟨ds, rfl, h.yearText⟩

theorem separator?_T (rest : List Char) : separator? ('T' :: rest) = some rest := rfl

theorem fraction?_digits (h : Numeral n ds) (hwidth : ds.length ∈ [3, 6, 9])
    (hnano : n * 10 ^ (9 - ds.length) = nano) : fraction? ds = some (nano, []) := by
  have hbounds : ∀ width ∈ [3, 6, 9], 0 < width ∧ width ≤ 9 := by decide
  obtain ⟨hpos, hmax⟩ := hbounds _ hwidth
  rw [fraction?_numeral h hpos hmax, hnano]

end Calendar

variable {t : Timestamp} {cs : List Char}

namespace IsoText

theorem readLayout (h : IsoText t cs) :
    Calendar.readLayout cs {} (dateLayout ++ .mark 'T' :: secondLayout) =
      some ⟨t.date.year, t.date.month, t.date.day, t.hour, t.minute,
        t.clockSecond, t.fraction⟩ := by
  cases h with
  | mk hyear hmonth hday hhour hminute hsecond hfraction =>
    simp only [dateLayout, secondLayout, minuteLayout, List.cons_append, List.nil_append,
      Calendar.readLayout, Part.read, year?_isoYear hyear, number?_twoDigits hmonth,
      number?_twoDigits hday, number?_twoDigits hhour, number?_twoDigits hminute,
      number?_twoDigits hsecond, mark?_self, Option.map_some, Option.bind_eq_bind,
      Option.bind_some]
    cases hfraction with
    | zero hzero => simp [hzero]
    | digits hnano _ hwidth h => simp [fraction?_digits h hwidth hnano]

theorem readDate_eq_none (h : IsoText t cs) : readDate cs = none := by
  cases h with
  | mk hyear hmonth hday hhour hminute hsecond hfraction =>
    simp [readDate, dateLayout, Calendar.readLayout, Part.read, year?_isoYear hyear,
      number?_twoDigits hmonth, number?_twoDigits hday, mark?_self]

theorem readWithOffset_eq_none (h : IsoText t cs) : readWithOffset cs = none := by
  cases h with
  | mk hyear hmonth hday hhour hminute hsecond hfraction =>
    cases hyear with
    | plain hyear hwidth h =>
      have hread := digits?_numeral h
      rw [hwidth] at hread
      dsimp only [readWithOffset, Option.bind_eq_bind]
      rw [hread, Option.bind_some, mark?_self, Option.bind_some, digits?_twoDigits hmonth,
        Option.bind_some, mark?_self, Option.bind_some, digits?_twoDigits hday, Option.bind_some,
        separator?_T, Option.bind_some, digits?_twoDigits hhour, Option.bind_some,
        mark?_self, Option.bind_some, digits?_twoDigits hminute, Option.bind_some,
        mark?_self, Option.bind_some, digits?_twoDigits hsecond, Option.bind_some]
      dsimp only
      cases hfraction with
      | zero _ => simp [offset?]
      | digits hnano hne hwidth h => simp [fraction?_digits h hwidth hnano, offset?]
    | before hyear hwidth h => rfl
    | after hyear hwidth h => rfl

theorem isBlank_eq_false (h : IsoText t cs) : ∀ c ∈ cs, isBlank c = false := by
  have numeral {n : Nat} {ds : List Char} (h : Numeral n ds) : ∀ c ∈ ds, isBlank c = false :=
    fun c hc => isBlank_of_isDigit (h.digits c hc)
  cases h with
  | @mk year month day hour minute second fraction hyear hmonth hday hhour hminute hsecond
    hfraction =>
    have hyear : ∀ c ∈ year, isBlank c = false := by
      cases hyear with
      | plain _ _ h => exact numeral h
      | before _ _ h | after _ _ h => exact List.forall_mem_cons.2 ⟨rfl, numeral h⟩
    have hfraction : ∀ c ∈ fraction, isBlank c = false := by
      cases hfraction with
      | zero _ => exact List.forall_mem_nil _
      | digits _ _ _ h => exact List.forall_mem_cons.2 ⟨rfl, numeral h⟩
    simp only [List.forall_mem_append, List.forall_mem_cons]
    exact ⟨hyear, rfl, numeral hmonth.numeral, rfl, numeral hday.numeral, rfl,
      numeral hhour.numeral, rfl, numeral hminute.numeral, rfl, numeral hsecond.numeral, hfraction⟩

theorem ofTrimmed? (h : IsoText t cs) : Timestamp.ofTrimmed? cs = some t := by
  have hfields : Fields.timestamp? ⟨t.date.year, t.date.month, t.date.day, t.hour, t.minute,
      t.clockSecond, t.fraction⟩ = some t := by
    rw [Fields.timestamp?, Fields.date?, t.date.ofYMD?_fields]
    exact t.ofClock?_fields
  rw [Timestamp.ofTrimmed?, h.readWithOffset_eq_none, timestampLayouts, List.findSome?_cons,
    h.readLayout, Option.bind_some, hfields]
  rfl

/-- A text in ISO form is read as its timestamp. -/
theorem parse? (h : IsoText t cs) : Timestamp.parse? (String.ofList cs) = some t := by
  rw [Timestamp.parse?, String.toList_ofList, trim_eq_self h.isBlank_eq_false, h.ofTrimmed?]

/-- Its time of day keeps it from lasting to the end of the day. -/
theorem parseEnd? (h : IsoText t cs) : Timestamp.parseEnd? (String.ofList cs) = some t := by
  rw [Timestamp.parseEnd?, String.toList_ofList, trim_eq_self h.isBlank_eq_false,
    h.readDate_eq_none, h.parse?]

end IsoText

end Reading

end IncidentBoard
