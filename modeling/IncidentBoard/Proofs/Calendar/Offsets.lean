import IncidentBoard.Proofs.Calendar.Iso
import Mathlib.Data.List.TakeWhile

/-! Timestamps with an offset: what they are written as, and that no other text is read as one. -/
namespace IncidentBoard

open Calendar Text

namespace Text

variable {bs cs : List Char}

/-- The white space in front. -/
theorem exists_blanks (cs : List Char) : ∃ bs, (∀ c ∈ bs, isBlank c) ∧ cs = bs ++ trimLeft cs :=
  ⟨cs.takeWhile isBlank, fun _ => List.mem_takeWhile_imp, List.takeWhile_append_dropWhile.symm⟩

theorem trimLeft_blanks_append (h : ∀ c ∈ bs, isBlank c) (cs : List Char) :
    trimLeft (bs ++ cs) = trimLeft cs :=
  List.dropWhile_append_of_pos h

theorem trimLeft_suffix (cs : List Char) : trimLeft cs <:+ cs := List.dropWhile_suffix _

end Text

namespace Calendar

/-- A fraction of a second: nothing, or digits behind a point, of which nine count. -/
inductive FractionText (nano : Nat) : List Char → Prop
  | zero (h : nano = 0) : FractionText nano []
  | digits {ds : List Char} (hdigits : ∀ c ∈ ds, c.isDigit) (hpos : 0 < ds.length)
      (h : Nat.ofDigitChars 10 (ds.take 9) 0 * 10 ^ (9 - ds.length) = nano) :
      FractionText nano ('.' :: ds)

/-- Minutes east of the time zone of timestamps. -/
inductive OffsetText : Int → List Char → Prop
  | zero {c : Char} (hc : c = 'Z' ∨ c = 'z') : OffsetText 0 [c]
  | east {hours minutes : Nat} {hs ms : List Char} (hhours : TwoDigits hours hs)
      (hminutes : TwoDigits minutes ms) (hlt : hours < 24 ∧ minutes < 60) :
      OffsetText (hours * 60 + minutes) ('+' :: (hs ++ ':' :: ms))
  | west {hours minutes : Nat} {c : Char} {hs ms : List Char} (hc : c = '-' ∨ c = '\u2212')
      (hhours : TwoDigits hours hs) (hminutes : TwoDigits minutes ms)
      (hlt : hours < 24 ∧ minutes < 60) :
      OffsetText (-(hours * 60 + minutes)) (c :: (hs ++ ':' :: ms))

end Calendar

namespace Timestamp

/-- A date and a time with all of their digits. -/
inductive FullText (t : Timestamp) : List Char → Prop
  | mk {year month day hour minute second fraction : List Char} {n : Nat} {mark : Char}
      (hwidth : year.length = 4) (hnumeral : Numeral n year) (hyear : t.date.year = n)
      (hmonth : TwoDigits t.date.month month) (hday : TwoDigits t.date.day day)
      (hmark : mark = 'T' ∨ mark = 't' ∨ mark = ' ') (hhour : TwoDigits t.hour hour)
      (hminute : TwoDigits t.minute minute) (hsecond : TwoDigits t.clockSecond second)
      (hfraction : FractionText t.fraction fraction) :
      FullText t (year ++ '-' :: (month ++ '-' :: (day ++ mark ::
        (hour ++ ':' :: (minute ++ ':' :: (second ++ fraction))))))

/-- Its fields as they are written. -/
def fields (t : Timestamp) : Fields :=
  ⟨t.date.year, t.date.month, t.date.day, t.hour, t.minute, t.clockSecond, t.fraction⟩

end Timestamp

namespace Calendar

theorem NumberText.trimLeft_append {n max : Nat} {ds : List Char} (h : NumberText max n ds)
    (rest : List Char) :
    trimLeft (ds ++ rest) = ds ++ rest :=
  h.numeral.trimLeft_append h.pos rest

section Numbers

variable {max width n nano : Nat} {cs rest : List Char} {year : Int}

/-- A number ends where it has all digits that it may have, or where no digit follows. -/
theorem number?_eq_some_iff : number? max cs = some (n, rest) ↔ ∃ ds, cs = ds ++ rest ∧
    NumberText max n ds ∧ (ds.length < max → ∀ c ∈ rest.head?, digitValue? c = none) := by
  constructor
  · intro h
    obtain ⟨ds, rest', rfl, hds, hmax, hrest⟩ := exists_digits max cs
    have hnumeral : Numeral (Nat.ofDigitChars 10 ds 0) ds := ⟨hds, rfl⟩
    rw [number?, hnumeral.scanDigits_append hmax hrest] at h
    dsimp only at h
    split at h
    · cases h
    · cases h
      exact ⟨ds, rfl, ⟨by omega, hmax, hnumeral⟩, hrest⟩
  · rintro ⟨ds, rfl, hds, hrest⟩
    exact number?_numeral hds.numeral hds.pos hds.le hrest

theorem digits?_eq_some : digits? width cs = some (n, rest) ↔
    ∃ ds, cs = ds ++ rest ∧ ds.length = width ∧ Numeral n ds := by
  constructor
  · intro h
    obtain ⟨ds, rest', rfl, hds, hmax, hrest⟩ := exists_digits width cs
    have hnumeral : Numeral (Nat.ofDigitChars 10 ds 0) ds := ⟨hds, rfl⟩
    rw [digits?, hnumeral.scanDigits_append hmax hrest] at h
    dsimp only at h
    split at h
    · next hwidth =>
      cases h
      exact ⟨ds, rfl, hwidth, hnumeral⟩
    · cases h
  · rintro ⟨ds, rfl, rfl, h⟩
    exact digits?_numeral h rest

theorem digits?_two_eq_some :
    digits? 2 cs = some (n, rest) ↔ ∃ ds, TwoDigits n ds ∧ cs = ds ++ rest := by
  rw [digits?_eq_some]
  constructor
  · rintro ⟨ds, rfl, hwidth, h⟩
    exact ⟨ds, ⟨hwidth, h⟩, rfl⟩
  · rintro ⟨ds, h, rfl⟩
    exact ⟨ds, rfl, h.width, h.numeral⟩

/-- A mark and a number of two digits behind it. -/
theorem bind_mark_digits_eq_some {α : Type} {c : Char} {f : Nat × List Char → Option α} {x : α} :
    ((mark? c cs).bind fun rest => (digits? 2 rest).bind f) = some x ↔
      ∃ n ds rest, cs = c :: (ds ++ rest) ∧ TwoDigits n ds ∧ f (n, rest) = some x := by
  simp only [Option.bind_eq_some_iff, Prod.exists, mark?_eq_some, digits?_two_eq_some]
  constructor
  · rintro ⟨_, rfl, n, rest, ⟨ds, hds, rfl⟩, h⟩
    exact ⟨n, ds, rest, rfl, hds, h⟩
  · rintro ⟨n, ds, rest, rfl, hds, h⟩
    exact ⟨_, rfl, n, rest, ⟨ds, hds, rfl⟩, h⟩

theorem number?_trimLeft_eq_some : number? max (trimLeft cs) = some (n, rest) ↔ ∃ bs ds,
    (∀ c ∈ bs, isBlank c) ∧ NumberText max n ds ∧
      (ds.length < max → ∀ c ∈ rest.head?, digitValue? c = none) ∧ cs = bs ++ (ds ++ rest) := by
  rw [number?_eq_some_iff]
  constructor
  · rintro ⟨ds, hcs, hds, hrest⟩
    obtain ⟨bs, hbs, hsplit⟩ := exists_blanks cs
    exact ⟨bs, ds, hbs, hds, hrest, by rw [← hcs, ← hsplit]⟩
  · rintro ⟨bs, ds, hbs, hds, hrest, rfl⟩
    exact ⟨ds, by rw [trimLeft_blanks_append hbs, hds.trimLeft_append], hds, hrest⟩

theorem dropWhile_digits_append {ds : List Char} (hds : ∀ c ∈ ds, c.isDigit)
    (hrest : ∀ c ∈ rest.head?, digitValue? c = none) :
    (ds ++ rest).dropWhile (fun c => (digitValue? c).isSome) = rest := by
  rw [List.dropWhile_append_of_pos fun c hc => by rw [digitValue?_of_isDigit (hds c hc)]; rfl]
  cases rest with
  | nil => rfl
  | cons c rest => rw [List.dropWhile_cons, hrest c rfl]; rfl

/-- A fraction is read to the end of its digits. -/
theorem fraction?_eq_some : fraction? cs = some (nano, rest) ↔ ∃ ds, cs = ds ++ rest ∧
    FractionText nano ('.' :: ds) ∧ ∀ c ∈ rest.head?, digitValue? c = none := by
  constructor
  · intro h
    obtain ⟨ds, rest', rfl, hds, hmax, hnine⟩ := exists_digits 9 cs
    obtain ⟨more, last, hsplit, hmore, -, hlast⟩ := exists_digits (rest'.length + 1) rest'
    replace hlast := hlast (by rw [hsplit, List.length_append]; omega)
    subst hsplit
    rw [fraction?, scanDigits_append hds hmax hnine, Nat.zero_add] at h
    dsimp only at h
    rw [dropWhile_digits_append hmore hlast] at h
    split at h
    · cases h
    · next hpos =>
      cases h
      -- Digits behind these are there only if these are nine.
      have hfront : (ds ++ more).take 9 = ds ∧ 9 - (ds ++ more).length = 9 - ds.length := by
        rcases Nat.lt_or_eq_of_le hmax with hlt | heq
        · have hnone : more = [] := by
            cases more with
            | nil => rfl
            | cons c more =>
              have hc := hnine hlt c rfl
              rw [digitValue?_of_isDigit (hmore c List.mem_cons_self)] at hc
              cases hc
          rw [hnone, List.append_nil, List.take_of_length_le hmax]
          exact ⟨rfl, rfl⟩
        · exact ⟨by rw [← heq, List.take_left], by rw [List.length_append]; omega⟩
      refine ⟨ds ++ more, (List.append_assoc ..).symm, .digits ?_ ?_ ?_, hlast⟩
      · exact List.forall_mem_append.2 ⟨hds, hmore⟩
      · rw [List.length_append]
        omega
      · rw [hfront.1, hfront.2]
        rfl
  · rintro ⟨ds, rfl, htext, hrest⟩
    cases htext with
    | digits hdigits hpos h =>
      obtain ⟨hfront, hback⟩ :=
        List.forall_mem_append.1 ((List.take_append_drop 9 ds).symm ▸ hdigits)
      have hend : (ds.take 9).length < 9 →
          ∀ c ∈ (ds.drop 9 ++ rest).head?, digitValue? c = none := by
        intro hlt
        rw [List.length_take] at hlt
        rw [List.drop_eq_nil_of_le (by omega)]
        exact hrest
      have hscan := scanDigits_append hfront (List.length_take_le 9 ds) hend 0 0
      rw [← List.append_assoc, List.take_append_drop] at hscan
      rw [fraction?, hscan]
      dsimp only
      rw [dropWhile_digits_append hback hrest, Nat.zero_add, List.length_take,
        if_neg (by omega), ← h]
      have hwidth : 9 - min 9 ds.length = 9 - ds.length := by omega
      rw [hwidth]
      rfl

end Numbers

section Offsets

variable {cs rest : List Char} {minutes : Int}

theorem offset?_eq_some :
    offset? cs = some (minutes, rest) ↔ ∃ text, cs = text ++ rest ∧ OffsetText minutes text := by
  constructor
  · intro h
    unfold offset? at h
    split at h
    · cases h
    · next c cs =>
      split at h
      · next hc =>
        cases h
        exact ⟨[c], rfl, .zero hc⟩
      split at h
      · next hc =>
        simp only [Option.bind_eq_bind, Option.bind_eq_some_iff, Prod.exists, mark?_eq_some,
          digits?_two_eq_some] at h
        obtain ⟨hours, _, ⟨hs, hhours, rfl⟩, _, rfl, minutes, _, ⟨ms, hminutes, rfl⟩, h⟩ := h
        split at h
        · next hlt =>
          cases h
          refine ⟨c :: (hs ++ ':' :: ms), by simp, ?_⟩
          split
          · next hplus =>
            obtain rfl := hplus
            exact .east hhours hminutes hlt
          · next hplus => exact .west (hc.resolve_left hplus) hhours hminutes hlt
        · cases h
      · cases h
  · rintro ⟨text, rfl, htext⟩
    cases htext with
    | zero hc => exact if_pos hc
    | @east hours minutes hs ms hhours hminutes hlt =>
      have hreadHours := digits?_twoDigits hhours (':' :: (ms ++ rest))
      have hreadMinutes := digits?_twoDigits hminutes rest
      simp only [List.cons_append, List.append_assoc, offset?]
      rw [if_neg (by decide), if_pos (by decide), hreadHours]
      simp only [Option.bind_eq_bind, Option.bind_some, mark?_self, hreadMinutes, if_pos hlt]
      rfl
    | @west hours minutes c hs ms hc hhours hminutes hlt =>
      have hreadHours := digits?_twoDigits hhours (':' :: (ms ++ rest))
      have hreadMinutes := digits?_twoDigits hminutes rest
      have hmark : ¬ (c = 'Z' ∨ c = 'z') ∧ c ≠ '+' := by rcases hc with rfl | rfl <;> decide
      simp only [List.cons_append, List.append_assoc, offset?]
      rw [if_neg hmark.1, if_pos (.inr hc), hreadHours]
      simp only [Option.bind_eq_bind, Option.bind_some, mark?_self, hreadMinutes, if_pos hlt,
        if_neg hmark.2]

theorem separator?_eq_some : separator? cs = some rest ↔
    ∃ mark, (mark = 'T' ∨ mark = 't' ∨ mark = ' ') ∧ cs = mark :: rest := by
  constructor
  · intro h
    unfold separator? at h
    split at h
    · next c cs =>
      split at h
      · next hc =>
        cases h
        exact ⟨c, hc, rfl⟩
      · cases h
    · cases h
  · rintro ⟨mark, hmark, rfl⟩
    exact if_pos hmark

/-- An offset begins with neither a digit nor a point. -/
theorem OffsetText.head (h : OffsetText minutes cs) :
    ∀ c ∈ cs.head?, digitValue? c = none ∧ c ≠ '.' := by
  rintro c hc
  cases h with
  | zero hmark =>
    cases hc
    rcases hmark with rfl | rfl <;> decide
  | east =>
    cases hc
    decide
  | west hmark =>
    cases hc
    rcases hmark with rfl | rfl <;> decide

end Offsets

end Calendar

namespace Timestamp

variable {t : Timestamp} {cs : List Char}

theorem timestamp?_eq_some {f : Fields} : f.timestamp? = some t ↔ f = t.fields := by
  obtain ⟨year, month, day, hour, minute, second, nano⟩ := f
  simp only [Fields.timestamp?, Fields.date?, Option.bind_eq_bind, Option.bind_eq_some_iff, fields,
    Fields.mk.injEq, Date.ofYMD?_eq_some, ofClock?_eq_some]
  constructor
  · rintro ⟨d, ⟨rfl, rfl, rfl⟩, rfl, rfl, rfl, rfl, rfl⟩
    exact ⟨rfl, rfl, rfl, rfl, rfl, rfl, rfl⟩
  · rintro ⟨rfl, rfl, rfl, rfl, rfl, rfl, rfl⟩
    exact ⟨t.date, ⟨rfl, rfl, rfl⟩, rfl, rfl, rfl, rfl, rfl⟩

theorem exists_of_readWithOffset (h : readWithOffset cs = some t) :
    ∃ text offset there minutes, cs = text ++ offset ∧ FullText there text ∧
      OffsetText minutes offset ∧ t.seconds = there.seconds - 60 * minutes ∧
        t.nano = there.nano := by
  obtain ⟨⟨year, _⟩, hyear, atMonth⟩ := Option.bind_eq_some_iff.1 h
  obtain ⟨month, monthText, _, rfl, hmonth, atDay⟩ := bind_mark_digits_eq_some.1 atMonth
  obtain ⟨day, dayText, _, rfl, hday, atMark⟩ := bind_mark_digits_eq_some.1 atDay
  obtain ⟨_, hseparator, atHour⟩ := Option.bind_eq_some_iff.1 atMark
  obtain ⟨mark, hmark, rfl⟩ := separator?_eq_some.1 hseparator
  obtain ⟨⟨hour, _⟩, hreadHour, atMinute⟩ := Option.bind_eq_some_iff.1 atHour
  obtain ⟨hourText, hhour, rfl⟩ := digits?_two_eq_some.1 hreadHour
  obtain ⟨minute, minuteText, _, rfl, hminute, atSecond⟩ := bind_mark_digits_eq_some.1 atMinute
  obtain ⟨second, secondText, tail, rfl, hsecond, atFraction⟩ :=
    bind_mark_digits_eq_some.1 atSecond
  obtain ⟨yearText, rfl, hwidth, hnumeral⟩ := digits?_eq_some.1 hyear
  -- With a fraction or without, the same follows.
  obtain ⟨nano, rest, fraction, rfl, hfraction, atOffset⟩ : ∃ nano rest fraction,
      tail = fraction ++ rest ∧ FractionText nano fraction ∧ ((offset? rest).bind fun x =>
        if x.2.isEmpty then (Fields.timestamp? ⟨year, month, day, hour, minute, second, nano⟩).bind
          fun there => there.addSeconds? (-(60 * x.1)) else none) = some t := by
    dsimp only at atFraction
    split at atFraction
    · obtain ⟨⟨nano, rest⟩, hread, hend⟩ := Option.bind_eq_some_iff.1 atFraction
      obtain ⟨ds, hsplit, htext, -⟩ := fraction?_eq_some.1 hread
      exact ⟨nano, rest, '.' :: ds, by rw [hsplit]; rfl, htext, hend⟩
    · exact ⟨0, tail, [], rfl, .zero rfl, atFraction⟩
  obtain ⟨⟨minutes, last⟩, hoffset, hend⟩ := Option.bind_eq_some_iff.1 atOffset
  dsimp only at hend
  split at hend
  · next hlast =>
    obtain ⟨there, hthere, hmove⟩ := Option.bind_eq_some_iff.1 hend
    obtain ⟨offset, hsplit, hoffset⟩ := offset?_eq_some.1 hoffset
    rw [List.isEmpty_iff.1 hlast, List.append_nil] at hsplit
    have hfields := timestamp?_eq_some.1 hthere
    simp only [fields, Fields.mk.injEq] at hfields
    obtain ⟨hy, rfl, rfl, rfl, rfl, rfl, rfl⟩ := hfields
    obtain ⟨hseconds, hnano⟩ := addSeconds?_eq_some.1 hmove
    exact ⟨_, offset, there, minutes, by simp [hsplit],
      .mk hwidth hnumeral hy.symm hmonth hday hmark hhour hminute hsecond hfraction,
      hoffset, by omega, hnano⟩
  · cases hend

theorem FullText.readWithOffset {there : Timestamp} {text offset : List Char} {minutes : Int}
    (h : there.FullText text) (hoffset : OffsetText minutes offset)
    (hseconds : t.seconds = there.seconds - 60 * minutes) (hnano : t.nano = there.nano) :
    readWithOffset (text ++ offset) = some t := by
  have hreadOffset : offset? offset = some (minutes, []) :=
    offset?_eq_some.2 ⟨offset, (List.append_nil _).symm, hoffset⟩
  have hmove : there.addSeconds? (-(60 * minutes)) = some t :=
    addSeconds?_eq_some.2 ⟨by omega, hnano⟩
  cases h with
  | @mk year month day hour minute second fraction n mark hwidth hnumeral hyear hmonth hday
      hmark hhour hminute hsecond hfraction =>
    have hfields : Fields.timestamp? ⟨n, there.date.month, there.date.day, there.hour, there.minute,
        there.clockSecond, there.fraction⟩ = some there :=
      timestamp?_eq_some.2 (by rw [← hyear]; rfl)
    have hend : ((offset? offset).bind fun x => if x.2.isEmpty then
        (Fields.timestamp? ⟨n, there.date.month, there.date.day, there.hour, there.minute,
          there.clockSecond, there.fraction⟩).bind fun there => there.addSeconds? (-(60 * x.1))
        else none) = some t := by
      rw [hreadOffset, hfields]
      exact hmove
    simp only [List.append_assoc, List.cons_append]
    refine Option.bind_eq_some_iff.2 ⟨_, digits?_eq_some.2 ⟨year, rfl, hwidth, hnumeral⟩, ?_⟩
    refine bind_mark_digits_eq_some.2 ⟨_, month, _, rfl, hmonth, ?_⟩
    refine bind_mark_digits_eq_some.2 ⟨_, day, _, rfl, hday, ?_⟩
    refine Option.bind_eq_some_iff.2 ⟨_, separator?_eq_some.2 ⟨mark, hmark, rfl⟩, ?_⟩
    refine Option.bind_eq_some_iff.2 ⟨_, digits?_two_eq_some.2 ⟨hour, hhour, rfl⟩, ?_⟩
    refine bind_mark_digits_eq_some.2 ⟨_, minute, _, rfl, hminute, ?_⟩
    refine bind_mark_digits_eq_some.2 ⟨_, second, _, rfl, hsecond, ?_⟩
    cases hfraction with
    | zero hzero =>
      rw [hzero] at hend
      dsimp only [List.nil_append]
      split
      · exact absurd rfl (hoffset.head '.' rfl).2
      · exact hend
    | @digits ds hdigits hpos hnine =>
      have hread : fraction? (ds ++ offset) = some (there.fraction, offset) :=
        fraction?_eq_some.2 ⟨ds, rfl, .digits hdigits hpos hnine, fun c hc => (hoffset.head c hc).1⟩
      exact Option.bind_eq_some_iff.2 ⟨_, hread, hend⟩

/-- It has a letter at its end, or one colon more than a time of day. -/
theorem letter_or_colons_of_readWithOffset (h : readWithOffset cs = some t) :
    ('Z' ∈ cs ∨ 'z' ∈ cs) ∨ 3 ≤ cs.count ':' := by
  obtain ⟨text, offset, there, minutes, rfl, htext, hoffset, -⟩ := exists_of_readWithOffset h
  have htwo : 2 ≤ text.count ':' := by
    cases htext
    simp only [List.count_append, List.count_cons, beq_self_eq_true, if_true]
    omega
  cases hoffset with
  | zero hc =>
    refine .inl (hc.imp ?_ ?_) <;> rintro rfl <;> simp
  | east | west =>
    refine .inr ?_
    simp only [List.count_append, List.count_cons, beq_self_eq_true, if_true]
    omega

end Timestamp

end IncidentBoard
