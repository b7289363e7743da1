import IncidentBoard.Proofs.Calendar.Offsets
import Mathlib.Data.List.Basic

/-! Texts that are a date and nothing else. No layout with a time of day fits them, for all of these
have a colon. -/
namespace IncidentBoard

open Calendar Text

namespace Calendar

/-- A date as `2024-03-07`, of which each number may have white space before it. -/
inductive BareDate (d : Date) : List Char → Prop
  | mk {b₁ b₂ b₃ year month day : List Char} (hb₁ : ∀ c ∈ b₁, isBlank c)
      (hyear : YearText d.year year) (hb₂ : ∀ c ∈ b₂, isBlank c)
      (hmonth : NumberText 2 d.month month) (hb₃ : ∀ c ∈ b₃, isBlank c)
      (hday : NumberText 2 d.day day) :
      BareDate d (b₁ ++ (year ++ '-' :: (b₂ ++ (month ++ '-' :: (b₃ ++ day)))))

/-- A number of two digits at the end, so that no digit that follows belongs to it. -/
def EndsInTwoDigits (cs : List Char) : Prop :=
  ∃ front c d, cs = front ++ [c, d] ∧ c.isDigit ∧ d.isDigit

section Reading

variable {d : Date} {cs rest : List Char} {year : Int} {f g : Fields}

theorem exists_of_year?_trimLeft (h : year? (trimLeft cs) = some (year, rest)) :
    ∃ bs ds, (∀ c ∈ bs, isBlank c) ∧ YearText year ds ∧ cs = bs ++ (ds ++ rest) := by
  obtain ⟨bs, hbs, hcs⟩ := exists_blanks cs
  obtain ⟨ds, hds, htext⟩ := exists_of_year? h
  exact ⟨bs, ds, hbs, htext, by rw [← hds, ← hcs]⟩

theorem digitValue?_dash (rest : List Char) : ∀ c ∈ ('-' :: rest).head?, digitValue? c = none := by
  intro c hc
  cases hc
  rfl

/-- The parts of a layout that is not the end of one, and what they leave. -/
def readParts (cs : List Char) (f : Fields) : List Part → Option (Fields × List Char)
  | [] => some (f, cs)
  | part :: layout => do
    let (f, rest) ← part.read f cs
    readParts rest f layout

theorem readLayout_append (front back : List Part) : readLayout cs f (front ++ back) =
    (readParts cs f front).bind fun x => readLayout x.2 x.1 back := by
  induction front generalizing cs f with
  | nil => rfl
  | cons part front ih =>
    rw [List.cons_append, readLayout, readParts]
    cases part.read f cs with
    | none => rfl
    | some x => exact ih

theorem readLayout_eq_some {layout : List Part} :
    readLayout cs f layout = some g ↔ readParts cs f layout = some (g, []) := by
  induction layout generalizing cs f with
  | nil => simp [readLayout, readParts, and_comm]
  | cons part layout ih =>
    rw [readLayout, readParts]
    cases part.read f cs with
    | none => simp
    | some x => exact ih

theorem NumberText.endsInTwoDigits {n : Nat} {ds : List Char} (h : NumberText 2 n ds)
    (hlength : ¬ ds.length < 2) (front : List Char) : EndsInTwoDigits (front ++ ds) := by
  obtain ⟨c, d, rfl⟩ := List.length_eq_two.1 (Nat.le_antisymm h.le (Nat.le_of_not_lt hlength))
  exact ⟨front, c, d, rfl, h.numeral.digits c (by simp), h.numeral.digits d (by simp)⟩

/-- The text of a date that stands in front, and its fields. -/
theorem exists_of_readParts_date (h : readParts cs {} dateLayout = some (f, rest)) : ∃ date,
    cs = date ++ rest ∧ ((∀ c ∈ rest.head?, digitValue? c = none) ∨ EndsInTwoDigits date) ∧
      f = { year := f.year, month := f.month, day := f.day } ∧
      ∀ d : Date, d.year = f.year → d.month = f.month → d.day = f.day → BareDate d date := by
  simp only [dateLayout, readParts, Part.read, Option.bind_eq_bind, Option.bind_eq_some_iff,
    Option.map_eq_some_iff, Prod.exists, Prod.mk.injEq, mark?_eq_some, Option.some.injEq] at h
  obtain ⟨f, _, ⟨year, _, hyear, rfl, rfl⟩, _, _, ⟨_, rfl, rfl, rfl⟩, _, _,
    ⟨month, _, hmonth, rfl, rfl⟩, _, _, ⟨_, rfl, rfl, rfl⟩, _, _, ⟨day, _, hday, rfl, rfl⟩,
    rfl, rfl⟩ := h
  obtain ⟨b₃, dayText, hb₃, hdayText, hend, rfl⟩ := number?_trimLeft_eq_some.1 hday
  obtain ⟨b₂, monthText, hb₂, hmonthText, -, rfl⟩ := number?_trimLeft_eq_some.1 hmonth
  obtain ⟨b₁, yearText, hb₁, hyearText, rfl⟩ := exists_of_year?_trimLeft hyear
  refine ⟨b₁ ++ (yearText ++ '-' :: (b₂ ++ (monthText ++ '-' :: (b₃ ++ dayText)))),
    by simp, ?_, rfl, ?_⟩
  · by_cases hlength : dayText.length < 2
    · exact .inl (hend hlength)
    · have htwo := hdayText.endsInTwoDigits hlength
        (b₁ ++ (yearText ++ '-' :: (b₂ ++ (monthText ++ '-' :: b₃))))
      exact .inr (by simpa using htwo)
  · rintro d rfl rfl rfl
    exact .mk hb₁ hyearText hb₂ hmonthText hb₃ hdayText

theorem readParts_date {d : Date} {date : List Char} (h : BareDate d date)
    (hend : (∀ c ∈ rest.head?, digitValue? c = none) ∨ EndsInTwoDigits date) :
    readParts (date ++ rest) {} dateLayout =
      some ({ year := d.year, month := d.month, day := d.day }, rest) := by
  cases h with
  | @mk b₁ b₂ b₃ year month day hb₁ hyear hb₂ hmonth hb₃ hday =>
    have hlast : day.length < 2 → ∀ c ∈ rest.head?, digitValue? c = none := by
      intro hlength
      refine hend.resolve_right ?_
      rintro ⟨front, c, e, heq, hc, -⟩
      obtain ⟨x, rfl⟩ :=
        List.length_eq_one_iff.1 (Nat.le_antisymm (Nat.lt_succ_iff.1 hlength) hday.pos)
      -- What stands before one digit of a day is white space or a dash.
      have hfront : (b₁ ++ (year ++ '-' :: (b₂ ++ month))) ++ '-' :: b₃ = front ++ [c] := by
        have hall : ((b₁ ++ (year ++ '-' :: (b₂ ++ month))) ++ '-' :: b₃) ++ [x] =
            (front ++ [c]) ++ [e] := by
          simpa using heq
        exact (List.append_inj' hall rfl).1
      have hsuffix : [c] <:+ '-' :: b₃ :=
        List.suffix_of_suffix_length_le (List.suffix_append front [c]) ⟨_, hfront⟩ (by simp)
      have hc' : c ∈ '-' :: b₃ := hsuffix.subset List.mem_cons_self
      rcases List.mem_cons.1 hc' with rfl | hc'
      · cases hc
      · have hblank := hb₃ c hc'
        rw [isBlank_of_isDigit hc] at hblank
        cases hblank
    have hreadYear :=
      (year?_eq_some (digitValue?_dash (b₂ ++ (month ++ '-' :: (b₃ ++ (day ++ rest)))))).2
        ⟨_, rfl, hyear⟩
    have hreadMonth := number?_trimLeft_eq_some.2 ⟨b₂, month, hb₂, hmonth,
      fun _ => digitValue?_dash (b₃ ++ (day ++ rest)), rfl⟩
    have hreadDay := number?_trimLeft_eq_some.2 ⟨b₃, day, hb₃, hday, hlast, rfl⟩
    simp only [List.append_assoc, List.cons_append, dateLayout, readParts, Part.read,
      trimLeft_blanks_append hb₁, hyear.trimLeft_append, hreadYear, hreadMonth, hreadDay,
      mark?_self, Option.map_some, Option.bind_eq_bind, Option.bind_some]

/-- A date is read from exactly the texts that are one. -/
theorem readDate_eq_some : readDate cs = some d ↔ BareDate d cs := by
  simp only [readDate, Option.bind_eq_some_iff, readLayout_eq_some, Fields.date?,
    Date.ofYMD?_eq_some]
  constructor
  · rintro ⟨f, hparts, hyear, hmonth, hday⟩
    obtain ⟨date, rfl, -, -, hdate⟩ := exists_of_readParts_date hparts
    rw [List.append_nil]
    exact hdate d hyear hmonth hday
  · intro h
    have hparts : readParts (cs ++ []) {} dateLayout = _ := readParts_date h (.inl (by simp))
    rw [List.append_nil] at hparts
    exact ⟨_, hparts, rfl, rfl, rfl⟩

end Reading

section Marks

variable {c : Char} {cs rest : List Char} {f g : Fields} {layout : List Part} {n width nano : Nat}

theorem number?_suffix (h : number? width cs = some (n, rest)) : rest <:+ cs := by
  obtain ⟨ds, rfl, -⟩ := exists_of_number? h
  exact List.suffix_append _ _

theorem year?_suffix {year : Int} (h : year? cs = some (year, rest)) : rest <:+ cs := by
  obtain ⟨ds, rfl, -⟩ := exists_of_year? h
  exact List.suffix_append _ _

theorem mark?_suffix {c : Char} (h : mark? c cs = some rest) : rest <:+ cs := by
  rw [mark?_eq_some.1 h]
  exact List.suffix_cons _ _

theorem fraction?_suffix (h : fraction? cs = some (n, rest)) : rest <:+ cs := by
  obtain ⟨ds, rfl, -⟩ := fraction?_eq_some.1 h
  exact List.suffix_append _ _

/-- Reading goes from left to right. -/
theorem Part.read_suffix {part : Part} (h : part.read f cs = some (g, rest)) : rest <:+ cs := by
  cases part with
  | year =>
    obtain ⟨⟨n, _⟩, hn, h⟩ := Option.map_eq_some_iff.1 h
    cases h
    exact (year?_suffix hn).trans (trimLeft_suffix cs)
  | month | day | hour | minute | second =>
    obtain ⟨⟨n, _⟩, hn, h⟩ := Option.map_eq_some_iff.1 h
    cases h
    exact (number?_suffix hn).trans (trimLeft_suffix cs)
  | fraction =>
    simp only [Part.read] at h
    split at h
    · obtain ⟨⟨n, _⟩, hn, h⟩ := Option.map_eq_some_iff.1 h
      cases h
      exact (fraction?_suffix hn).trans (List.suffix_cons _ _)
    · cases h
      exact List.suffix_refl _
  | mark c =>
    obtain ⟨_, hc, h⟩ := Option.map_eq_some_iff.1 h
    cases h
    exact mark?_suffix hc
  | gap =>
    cases h
    exact trimLeft_suffix cs

def Part.char? : Part → Option Char
  | .mark c => some c
  | _ => none

/-- A text has the marks of a layout that fits it, in their order. -/
theorem marks_sublist (h : readLayout cs f layout = some g) :
    (layout.filterMap Part.char?).Sublist cs := by
  induction layout generalizing cs f with
  | nil => exact List.nil_sublist _
  | cons part layout ih =>
    obtain ⟨⟨f', rest⟩, hread, h⟩ := Option.bind_eq_some_iff.1 h
    have hrest := ih h
    cases part with
    | mark c =>
      obtain ⟨rest', hmark, heq⟩ := Option.map_eq_some_iff.1 hread
      cases heq
      rw [mark?_eq_some.1 hmark]
      exact hrest.cons_cons c
    | _ => exact hrest.trans (Part.read_suffix hread).sublist

/-- A character of none of the numbers, white space and marks that dates and times of day have,
apart from colons. -/
structure IsForeign (c : Char) : Prop where
  notDigit : c.isDigit = false
  notBlank : isBlank c = false
  notMark : c ≠ '-' ∧ c ≠ '+' ∧ c ≠ '.'

theorem foreign_colon : IsForeign ':' := ⟨by decide, by decide, by decide⟩

namespace IsForeign

variable (hc : IsForeign c)

include hc

theorem notMem_digits (h : ∀ d ∈ cs, d.isDigit) : c ∉ cs := fun hmem => by
  have hdigit := h c hmem
  rw [hc.notDigit] at hdigit
  cases hdigit

theorem notMem_blanks (h : ∀ d ∈ cs, isBlank d) : c ∉ cs := fun hmem => by
  have hblank := h c hmem
  rw [hc.notBlank] at hblank
  cases hblank

theorem notMem_year {year : Int} (h : YearText year cs) : c ∉ cs := by
  cases h with
  | plain _ h => exact hc.notMem_digits h.numeral.digits
  | before _ _ h => simp [hc.notMark, hc.notMem_digits h.digits]
  | after _ _ h => simp [hc.notMark, hc.notMem_digits h.digits]

theorem notMem_bareDate {d : Date} (h : BareDate d cs) : c ∉ cs := by
  cases h with
  | mk hb₁ hyear hb₂ hmonth hb₃ hday =>
    simp [hc.notMem_blanks hb₁, hc.notMem_year hyear, hc.notMem_blanks hb₂, hc.notMark,
      hc.notMem_digits hmonth.numeral.digits, hc.notMem_blanks hb₃,
      hc.notMem_digits hday.numeral.digits]

end IsForeign

end Marks

end Calendar

/-- Second 59 of minute 59 of hour 23. -/
def Date.lastSecond (d : Date) : Timestamp := ⟨d, 86399, 0, Timestamp.last.second_lt, by decide⟩

namespace Timestamp

variable {d : Date} {t : Timestamp} {cs : List Char} {s : String}

theorem colon_mem_of_readWithOffset (h : readWithOffset cs = some t) : ':' ∈ cs := by
  obtain ⟨text, offset, there, minutes, rfl, htext, -⟩ := exists_of_readWithOffset h
  cases htext
  simp

/-- A layout fits no text without its marks. -/
theorem readLayout_eq_none {layout : List Part}
    (h : ¬ (layout.filterMap Part.char?).Sublist cs) :
    (readLayout cs {} layout).bind Fields.timestamp? = none := by
  have hnone : readLayout cs {} layout = none :=
    Option.eq_none_iff_forall_ne_some.2 fun g hg => h (marks_sublist hg)
  rw [hnone, Option.bind_none]

theorem colon_mem_timestampLayouts :
    ∀ layout ∈ timestampLayouts, ':' ∈ layout.filterMap Part.char? := by decide

theorem ofTrimmed?_of_bareDate (h : BareDate d cs) : ofTrimmed? cs = some d.midnight := by
  have hcolon : ':' ∉ cs := foreign_colon.notMem_bareDate h
  have hoffset : readWithOffset cs = none :=
    Option.eq_none_iff_forall_ne_some.2 fun t ht => hcolon (colon_mem_of_readWithOffset ht)
  have hlayouts : timestampLayouts.findSome?
      (fun layout => (readLayout cs {} layout).bind Fields.timestamp?) = none :=
    List.findSome?_eq_none_iff.2 fun layout hlayout => readLayout_eq_none fun hsub =>
      hcolon (hsub.subset (colon_mem_timestampLayouts layout hlayout))
  rw [ofTrimmed?, hoffset, hlayouts, readDate_eq_some.2 h]
  rfl

/-- A bare date begins with its midnight. -/
theorem parse?_of_bareDate (h : BareDate d (trim s.toList)) : parse? s = some d.midnight :=
  ofTrimmed?_of_bareDate h

/-- As the end of a window it lasts to its last second. -/
theorem parseEnd?_of_bareDate (h : BareDate d (trim s.toList)) :
    parseEnd? s = some d.lastSecond := by
  rw [parseEnd?, readDate_eq_some.2 h]
  rfl

theorem parseEnd?_of_not_bareDate (h : ¬∃ d, BareDate d (trim s.toList)) :
    parseEnd? s = parse? s := by
  have hdate : readDate (trim s.toList) = none :=
    Option.eq_none_iff_forall_ne_some.2 fun d hd => h ⟨d, readDate_eq_some.1 hd⟩
  rw [parseEnd?, hdate]

end Timestamp

end IncidentBoard
