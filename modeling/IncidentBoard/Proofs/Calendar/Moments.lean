import IncidentBoard.Proofs.Calendar.BareDate
import Mathlib.Data.List.DropRight

/-! The texts that timestamps are read from: with an offset, with a time of day, or a bare date. -/
namespace IncidentBoard

open Calendar Text

namespace Calendar

/-- A time of day as `13:45`, of which each number may have white space before it. -/
inductive MinuteText (hour minute : Nat) : List Char → Prop
  | mk {b₁ b₂ hs ms : List Char} (hb₁ : ∀ c ∈ b₁, isBlank c) (hhour : NumberText 2 hour hs)
      (hb₂ : ∀ c ∈ b₂, isBlank c) (hminute : NumberText 2 minute ms) :
      MinuteText hour minute (b₁ ++ (hs ++ ':' :: (b₂ ++ ms)))

/-- A time of day as `13:45:00.25`. -/
inductive SecondText (hour minute second nano : Nat) : List Char → Prop
  | mk {minutes bs ss fraction : List Char} (hminutes : MinuteText hour minute minutes)
      (hbs : ∀ c ∈ bs, isBlank c) (hsecond : NumberText 2 second ss)
      (hfraction : FractionText nano fraction) :
      SecondText hour minute second nano (minutes ++ ':' :: (bs ++ (ss ++ fraction)))

end Calendar

namespace Timestamp

/-- The moment on its own clock. -/
def Shows (t : Timestamp) (clock : List Char) : Prop :=
  MinuteText t.hour t.minute clock ∧ t.clockSecond = 0 ∧ t.fraction = 0 ∨
    SecondText t.hour t.minute t.clockSecond t.fraction clock

/-- The texts of a moment: a bare date is its midnight; a time of day follows on a `T`, or on white
space, which may be missing behind two digits; an offset is taken from a full date and time. -/
inductive MomentText (t : Timestamp) : List Char → Prop
  | bare {cs : List Char} (hdate : BareDate t.date cs) (ht : t = t.date.midnight) : MomentText t cs
  | marked {date clock : List Char} (hdate : BareDate t.date date) (hclock : t.Shows clock) :
      MomentText t (date ++ 'T' :: clock)
  | spaced {date clock : List Char} (hdate : BareDate t.date date) (hclock : t.Shows clock)
      (hapart : (∀ c ∈ clock.head?, digitValue? c = none) ∨ EndsInTwoDigits date) :
      MomentText t (date ++ clock)
  | zoned {cs offset : List Char} {there : Timestamp} {minutes : Int} (hthere : there.FullText cs)
      (hoffset : OffsetText minutes offset) (hnano : t.nano = there.nano)
      (hseconds : t.seconds = there.seconds - 60 * minutes) :
      MomentText t (cs ++ offset)

end Timestamp

namespace Calendar

section Layouts

variable {cs rest : List Char} {f g : Fields}

theorem exists_of_readParts_minutes (h : readParts cs f minuteLayout = some (g, rest)) : ∃ text,
    cs = text ++ rest ∧ MinuteText g.hour g.minute text ∧
      g = { f with hour := g.hour, minute := g.minute } := by
  simp only [minuteLayout, readParts, Part.read, Option.bind_eq_bind, Option.bind_eq_some_iff,
    Option.map_eq_some_iff, Prod.exists, Prod.mk.injEq, mark?_eq_some, Option.some.injEq] at h
  obtain ⟨g, _, ⟨hour, _, hhour, rfl, rfl⟩, _, _, ⟨_, rfl, rfl, rfl⟩, _, _,
    ⟨minute, _, hminute, rfl, rfl⟩, rfl, rfl⟩ := h
  obtain ⟨b₂, ms, hb₂, hms, -, rfl⟩ := number?_trimLeft_eq_some.1 hminute
  obtain ⟨b₁, hs, hb₁, hhs, -, rfl⟩ := number?_trimLeft_eq_some.1 hhour
  exact ⟨b₁ ++ (hs ++ ':' :: (b₂ ++ ms)), by simp, .mk hb₁ hhs hb₂ hms, rfl⟩

theorem digitValue?_colon (rest : List Char) : ∀ c ∈ (':' :: rest).head?, digitValue? c = none := by
  intro c hc
  cases hc
  rfl

theorem readParts_minutes {hour minute : Nat} {text : List Char} (h : MinuteText hour minute text)
    (hrest : ∀ c ∈ rest.head?, digitValue? c = none) :
    readParts (text ++ rest) f minuteLayout = some ({ f with hour, minute }, rest) := by
  cases h with
  | @mk b₁ b₂ hs ms hb₁ hhour hb₂ hminute =>
    have hreadHour := number?_trimLeft_eq_some.2 ⟨b₁, hs, hb₁, hhour,
      fun _ => digitValue?_colon (b₂ ++ (ms ++ rest)), rfl⟩
    have hreadMinute := number?_trimLeft_eq_some.2 ⟨b₂, ms, hb₂, hminute, fun _ => hrest, rfl⟩
    simp only [List.append_assoc, List.cons_append, minuteLayout, readParts, Part.read, hreadHour,
      hreadMinute, mark?_self, Option.map_some, Option.bind_eq_bind, Option.bind_some]

theorem readLayout_minutes : readLayout cs f minuteLayout = some g ↔
    MinuteText g.hour g.minute cs ∧ g = { f with hour := g.hour, minute := g.minute } := by
  rw [readLayout_eq_some]
  constructor
  · intro hparts
    obtain ⟨text, rfl, htext, hg⟩ := exists_of_readParts_minutes hparts
    rw [List.append_nil]
    exact ⟨htext, hg⟩
  · rintro ⟨htext, hg⟩
    have hparts : readParts (cs ++ []) f minuteLayout = _ := readParts_minutes htext (by simp)
    rw [List.append_nil] at hparts
    rw [hparts, ← hg]

/-- A fraction at the end of a text. -/
theorem read_fraction (hf : f.nano = 0) : Part.read f cs .fraction = some (g, []) ↔
    FractionText g.nano cs ∧ g = { f with nano := g.nano } := by
  simp only [Part.read]
  split
  · next rest =>
    rw [Option.map_eq_some_iff]
    constructor
    · rintro ⟨⟨nano, rest⟩, hread, h⟩
      cases h
      obtain ⟨ds, rfl, htext, -⟩ := fraction?_eq_some.1 hread
      rw [List.append_nil]
      exact ⟨htext, rfl⟩
    · rintro ⟨htext, hg⟩
      exact ⟨(g.nano, []), fraction?_eq_some.2 ⟨rest, (List.append_nil _).symm, htext, by simp⟩,
        by rw [← hg]⟩
  · next hpoint =>
    rw [Option.some.injEq, Prod.mk.injEq]
    constructor
    · rintro ⟨rfl, rfl⟩
      exact ⟨.zero hf, rfl⟩
    · rintro ⟨htext, hg⟩
      cases htext with
      | zero hzero =>
        rw [hg, hzero, ← hf]
        exact ⟨rfl, rfl⟩
      | digits => exact absurd rfl (hpoint _)

/-- What may follow on a number of seconds is no digit. -/
theorem FractionText.head {nano : Nat} (h : FractionText nano cs) :
    ∀ c ∈ cs.head?, digitValue? c = none := by
  cases h with
  | zero => simp
  | digits =>
    rintro c hc
    cases hc
    rfl

theorem readLayout_seconds (hf : f.nano = 0) : readLayout cs f secondLayout = some g ↔
    SecondText g.hour g.minute g.second g.nano cs ∧
      g = { f with hour := g.hour, minute := g.minute, second := g.second, nano := g.nano } := by
  rw [secondLayout, readLayout_append, Option.bind_eq_some_iff]
  simp only [readLayout, Option.bind_eq_bind, Option.bind_eq_some_iff, Prod.exists]
  constructor
  · rintro ⟨g', rest, hparts, _, _, hmark, f', tail, hsecond, g'', last, hfraction, hend⟩
    obtain ⟨text, rfl, htext, hg⟩ := exists_of_readParts_minutes hparts
    obtain ⟨_, hmark, h⟩ := Option.map_eq_some_iff.1 hmark
    cases h
    obtain rfl := mark?_eq_some.1 hmark
    obtain ⟨⟨second, _⟩, hread, h⟩ := Option.map_eq_some_iff.1 hsecond
    cases h
    obtain ⟨bs, ss, hbs, hss, -, rfl⟩ := number?_trimLeft_eq_some.1 hread
    split at hend
    · next hlast =>
      cases hend
      obtain rfl := List.isEmpty_iff.1 hlast
      have hnano : g'.nano = 0 := by rw [hg, hf]
      obtain ⟨hfractionText, hg'⟩ := (read_fraction (f := { g' with second }) hnano).1 hfraction
      rw [hg'] at hfractionText ⊢
      refine ⟨.mk htext hbs hss hfractionText, ?_⟩
      rw [hg]
    · cases hend
  · rintro ⟨htext, hg⟩
    cases htext with
    | @mk minutes bs ss fraction hminutes hbs hsecond hfraction =>
      have hread := number?_trimLeft_eq_some.2 ⟨bs, ss, hbs, hsecond, fun _ => hfraction.head, rfl⟩
      refine ⟨_, _, readParts_minutes hminutes (digitValue?_colon _), _, _,
        congrArg (Option.map _) (mark?_self ':' (bs ++ (ss ++ fraction))), _, fraction,
        congrArg (Option.map _) hread, g, [], ?_, rfl⟩
      exact (read_fraction (f := { f with hour := g.hour, minute := g.minute, second := g.second })
        hf).2 ⟨hfraction, hg⟩

/-- A time of day may have white space before it. -/
theorem readLayout_trimLeft {layout : List Part} (cs : List Char) :
    readLayout (trimLeft cs) f (.hour :: layout) = readLayout cs f (.hour :: layout) := by
  have htwice : trimLeft (trimLeft cs) = trimLeft cs := List.dropWhile_idempotent _ cs
  simp only [readLayout, Part.read, htwice]

end Layouts

section Marks

variable {c : Char} {cs : List Char} {nano : Nat}

theorem foreign_T : IsForeign 'T' := ⟨by decide, by decide, by decide⟩

theorem foreign_Z : IsForeign 'Z' := ⟨by decide, by decide, by decide⟩

theorem foreign_z : IsForeign 'z' := ⟨by decide, by decide, by decide⟩

namespace IsForeign

variable (hc : IsForeign c)

include hc

theorem notMem_fraction (h : FractionText nano cs) : c ∉ cs := by
  cases h with
  | zero => exact List.not_mem_nil
  | digits hdigits => simp [hc.notMark, hc.notMem_digits hdigits]

/-- A time of day in minutes has one colon, and no other foreign character. -/
theorem count_minutes {hour minute : Nat} (h : MinuteText hour minute cs) :
    cs.count c = if ':' = c then 1 else 0 := by
  cases h with
  | mk hb₁ hhour hb₂ hminute =>
    simp [List.count_append, List.count_cons, List.count_eq_zero_of_not_mem (hc.notMem_blanks hb₁),
      List.count_eq_zero_of_not_mem (hc.notMem_blanks hb₂),
      List.count_eq_zero_of_not_mem (hc.notMem_digits hhour.numeral.digits),
      List.count_eq_zero_of_not_mem (hc.notMem_digits hminute.numeral.digits)]

theorem count_seconds {hour minute second : Nat} (h : SecondText hour minute second nano cs) :
    cs.count c = if ':' = c then 2 else 0 := by
  cases h with
  | mk hminutes hbs hsecond hfraction =>
    simp [List.count_append, List.count_cons, hc.count_minutes hminutes,
      List.count_eq_zero_of_not_mem (hc.notMem_blanks hbs),
      List.count_eq_zero_of_not_mem (hc.notMem_digits hsecond.numeral.digits),
      List.count_eq_zero_of_not_mem (hc.notMem_fraction hfraction)]
    split <;> rfl

end IsForeign

end Marks

end Calendar

namespace Timestamp

variable {t : Timestamp} {cs : List Char}

/-- The fields of its day alone. -/
def dayFields (t : Timestamp) : Fields :=
  { year := t.date.year, month := t.date.month, day := t.date.day }

/-- Times of day leave the day as it is. -/
def KeepsDay (clock : List Part) : Prop := ∀ cs f g, f.nano = 0 → readLayout cs f clock = some g →
  g.year = f.year ∧ g.month = f.month ∧ g.day = f.day

theorem keepsDay_minutes : KeepsDay minuteLayout := by
  intro cs f g _ h
  rw [(readLayout_minutes.1 h).2]
  exact ⟨rfl, rfl, rfl⟩

theorem keepsDay_seconds : KeepsDay secondLayout := by
  intro cs f g hf h
  rw [((readLayout_seconds hf).1 h).2]
  exact ⟨rfl, rfl, rfl⟩

theorem KeepsDay.mark {clock : List Part} (h : KeepsDay clock) (c : Char) :
    KeepsDay (.mark c :: clock) := by
  intro cs f g hf hread
  obtain ⟨⟨f', rest⟩, hmark, hrest⟩ := Option.bind_eq_some_iff.1 hread
  obtain ⟨_, -, heq⟩ := Option.map_eq_some_iff.1 hmark
  cases heq
  exact h _ _ _ hf hrest

theorem KeepsDay.gap {clock : List Part} (h : KeepsDay clock) : KeepsDay (.gap :: clock) :=
  fun _ _ _ hf hread => h _ _ _ hf hread

section Reading

variable {clock : List Part}

/-- A layout that begins with a date. -/
theorem readLayout_date {back : List Part} (hkeeps : KeepsDay back) :
    (readLayout cs {} (dateLayout ++ back)).bind Fields.timestamp? = some t ↔ ∃ date rest,
      cs = date ++ rest ∧ BareDate t.date date ∧
        ((∀ c ∈ rest.head?, digitValue? c = none) ∨ EndsInTwoDigits date) ∧
          readLayout rest t.dayFields back = some t.fields := by
  rw [readLayout_append]
  simp only [Option.bind_eq_some_iff, timestamp?_eq_some, exists_eq_right, Prod.exists]
  constructor
  · rintro ⟨f, rest, hparts, hback⟩
    obtain ⟨date, rfl, hend, hf, hdate⟩ := exists_of_readParts_date hparts
    obtain ⟨hyear, hmonth, hday⟩ := hkeeps _ _ _ (by rw [hf]) hback
    have hfields : f = t.dayFields := by
      rw [hf, dayFields, ← hyear, ← hmonth, ← hday]
      rfl
    exact ⟨date, rest, rfl, hdate _ hyear hmonth hday, hend, hfields ▸ hback⟩
  · rintro ⟨date, rest, rfl, hdate, hend, hback⟩
    exact ⟨_, _, readParts_date hdate hend, hback⟩

theorem readLayout_marked (hkeeps : KeepsDay clock) :
    (readLayout cs {} (dateLayout ++ .mark 'T' :: clock)).bind Fields.timestamp? = some t ↔
      ∃ date rest, cs = date ++ 'T' :: rest ∧ BareDate t.date date ∧
        readLayout rest t.dayFields clock = some t.fields := by
  rw [readLayout_date (hkeeps.mark 'T')]
  constructor
  · rintro ⟨date, rest, rfl, hdate, -, hread⟩
    obtain ⟨⟨f, rest'⟩, hmark, hread⟩ := Option.bind_eq_some_iff.1 hread
    obtain ⟨_, hmark, heq⟩ := Option.map_eq_some_iff.1 hmark
    cases heq
    exact ⟨date, rest', by rw [mark?_eq_some.1 hmark], hdate, hread⟩
  · rintro ⟨date, rest, rfl, hdate, hread⟩
    refine ⟨date, _, rfl, hdate, .inl ?_, ?_⟩
    · rintro c hc
      cases hc
      rfl
    · rw [readLayout, Part.read, mark?_self]
      exact hread

theorem readLayout_spaced (hkeeps : KeepsDay (.hour :: clock)) :
    (readLayout cs {} (dateLayout ++ .gap :: .hour :: clock)).bind Fields.timestamp? = some t ↔
      ∃ date rest, cs = date ++ rest ∧ BareDate t.date date ∧
        ((∀ c ∈ rest.head?, digitValue? c = none) ∨ EndsInTwoDigits date) ∧
          readLayout rest t.dayFields (.hour :: clock) = some t.fields := by
  have hgap (rest : List Char) : readLayout rest t.dayFields (.gap :: .hour :: clock) =
      readLayout rest t.dayFields (.hour :: clock) := readLayout_trimLeft rest
  rw [readLayout_date hkeeps.gap]
  simp only [hgap]

theorem readLayout_minutes_fields : readLayout cs t.dayFields minuteLayout = some t.fields ↔
    MinuteText t.hour t.minute cs ∧ t.clockSecond = 0 ∧ t.fraction = 0 := by
  rw [readLayout_minutes]
  refine and_congr_right fun _ => ?_
  simp [fields, dayFields]

theorem readLayout_seconds_fields : readLayout cs t.dayFields secondLayout = some t.fields ↔
    SecondText t.hour t.minute t.clockSecond t.fraction cs := by
  rw [readLayout_seconds (f := t.dayFields) rfl]
  exact and_iff_left rfl

end Reading

/-- A text without the marks of an offset and of the layouts before it has the layout that fits
it. -/
theorem ofTrimmed?_of_layout {back : List (List Part)} {layout : List Part}
    (front : List (List Part))
    (hlayouts : timestampLayouts = front ++ layout :: back)
    (hletters : 'Z' ∉ cs ∧ 'z' ∉ cs) (hcolons : cs.count ':' ≤ 2)
    (hfront : ∀ l ∈ front, ¬ (l.filterMap Part.char?).Sublist cs)
    (h : (readLayout cs {} layout).bind Fields.timestamp? = some t) : ofTrimmed? cs = some t := by
  have hoffset : readWithOffset cs = none := by
    refine Option.eq_none_iff_forall_ne_some.2 fun _ ht => ?_
    rcases letter_or_colons_of_readWithOffset ht with hletter | hthree
    · exact hletter.elim hletters.1 hletters.2
    · omega
  have hnone : front.findSome? (fun layout => (readLayout cs {} layout).bind Fields.timestamp?) =
      none := List.findSome?_eq_none_iff.2 fun l hl => readLayout_eq_none (hfront l hl)
  rw [ofTrimmed?, hoffset, hlayouts, List.findSome?_append, hnone, List.findSome?_cons, h]
  rfl

theorem Shows.notMem {clock : List Char} (h : t.Shows clock) {c : Char} (hc : IsForeign c)
    (hne : ':' ≠ c) : c ∉ clock := by
  rw [← List.count_eq_zero]
  rcases h with ⟨h, -⟩ | h
  · rw [hc.count_minutes h, if_neg hne]
  · rw [hc.count_seconds h, if_neg hne]

theorem Shows.count_colon {clock : List Char} (h : t.Shows clock) : clock.count ':' ≤ 2 := by
  rcases h with ⟨h, -⟩ | h
  · rw [foreign_colon.count_minutes h]
    decide
  · rw [foreign_colon.count_seconds h]
    decide

/-- The texts of a moment are those that it is read from. -/
theorem ofTrimmed?_eq_some : ofTrimmed? cs = some t ↔ MomentText t cs := by
  constructor
  · intro h
    simp only [ofTrimmed?, Option.orElse_eq_orElse, Option.orElse_eq_or, Option.or_eq_some_iff] at h
    rcases h with h | ⟨-, h | ⟨-, h⟩⟩
    · obtain ⟨text, offset, there, minutes, rfl, htext, hoffset, hseconds, hnano⟩ :=
        exists_of_readWithOffset h
      exact .zoned htext hoffset hnano hseconds
    · obtain ⟨layout, hlayout, h⟩ := List.exists_of_findSome?_eq_some h
      simp only [timestampLayouts, List.mem_cons, List.not_mem_nil, or_false] at hlayout
      rcases hlayout with rfl | rfl | rfl | rfl
      · obtain ⟨date, rest, rfl, hdate, hread⟩ := (readLayout_marked keepsDay_seconds).1 h
        exact .marked hdate (.inr (readLayout_seconds_fields.1 hread))
      · obtain ⟨date, rest, rfl, hdate, hend, hread⟩ := (readLayout_spaced keepsDay_seconds).1 h
        exact .spaced hdate (.inr (readLayout_seconds_fields.1 hread)) hend
      · obtain ⟨date, rest, rfl, hdate, hread⟩ := (readLayout_marked keepsDay_minutes).1 h
        exact .marked hdate (.inl (readLayout_minutes_fields.1 hread))
      · obtain ⟨date, rest, rfl, hdate, hend, hread⟩ := (readLayout_spaced keepsDay_minutes).1 h
        exact .spaced hdate (.inl (readLayout_minutes_fields.1 hread)) hend
    · obtain ⟨d, hd, rfl⟩ := Option.map_eq_some_iff.1 h
      exact .bare (readDate_eq_some.1 hd) rfl
  · intro h
    cases h with
    | bare hdate ht =>
      rw [ofTrimmed?_of_bareDate hdate, ← ht]
    | @marked date clock hdate hclock =>
      have hletters : 'Z' ∉ date ++ 'T' :: clock ∧ 'z' ∉ date ++ 'T' :: clock := by
        simp [foreign_Z.notMem_bareDate hdate, foreign_z.notMem_bareDate hdate,
          hclock.notMem foreign_Z (by decide), hclock.notMem foreign_z (by decide)]
      have hcolons : (date ++ 'T' :: clock).count ':' = clock.count ':' := by
        simp [List.count_append,
          List.count_eq_zero_of_not_mem (foreign_colon.notMem_bareDate hdate)]
      have htwo : (date ++ 'T' :: clock).count ':' ≤ 2 := hcolons ▸ hclock.count_colon
      rcases hclock with hminutes | hseconds
      · refine ofTrimmed?_of_layout (timestampLayouts.take 2) rfl hletters htwo ?_
          ((readLayout_marked keepsDay_minutes).2
            ⟨date, clock, rfl, hdate, readLayout_minutes_fields.2 hminutes⟩)
        intro l hl hsub
        have hle := hsub.count_le ':'
        rw [hcolons, foreign_colon.count_minutes hminutes.1] at hle
        rcases List.mem_pair.1 hl with rfl | rfl <;> exact absurd hle (by decide)
      · exact ofTrimmed?_of_layout [] rfl hletters htwo (by simp)
          ((readLayout_marked keepsDay_seconds).2
            ⟨date, clock, rfl, hdate, readLayout_seconds_fields.2 hseconds⟩)
    | @spaced date clock hdate hclock hapart =>
      have hletters : 'Z' ∉ date ++ clock ∧ 'z' ∉ date ++ clock := by
        simp [foreign_Z.notMem_bareDate hdate, foreign_z.notMem_bareDate hdate,
          hclock.notMem foreign_Z (by decide), hclock.notMem foreign_z (by decide)]
      have hmark : 'T' ∉ date ++ clock := by
        simp [foreign_T.notMem_bareDate hdate, hclock.notMem foreign_T (by decide)]
      have hcolons : (date ++ clock).count ':' = clock.count ':' := by
        simp [List.count_append,
          List.count_eq_zero_of_not_mem (foreign_colon.notMem_bareDate hdate)]
      have htwo : (date ++ clock).count ':' ≤ 2 := hcolons ▸ hclock.count_colon
      rcases hclock with hminutes | hseconds
      · refine ofTrimmed?_of_layout (timestampLayouts.take 3) rfl hletters htwo ?_
          ((readLayout_spaced keepsDay_minutes).2
            ⟨date, clock, rfl, hdate, hapart, readLayout_minutes_fields.2 hminutes⟩)
        intro l hl hsub
        have hle := hsub.count_le ':'
        rw [hcolons, foreign_colon.count_minutes hminutes.1] at hle
        simp only [timestampLayouts, List.take_succ_cons, List.take_zero, List.mem_cons,
          List.not_mem_nil, or_false] at hl
        rcases hl with rfl | rfl | rfl
        · exact absurd hle (by decide)
        · exact absurd hle (by decide)
        · exact hmark (hsub.subset (by decide))
      · refine ofTrimmed?_of_layout (timestampLayouts.take 1) rfl hletters htwo ?_
          ((readLayout_spaced keepsDay_seconds).2
            ⟨date, clock, rfl, hdate, hapart, readLayout_seconds_fields.2 hseconds⟩)
        intro l hl hsub
        obtain rfl := List.mem_singleton.1 hl
        exact hmark (hsub.subset (by decide))
    | zoned hthere hoffset hnano hseconds =>
      rw [ofTrimmed?, hthere.readWithOffset hoffset hseconds hnano]
      rfl

theorem parse?_eq_some {s : String} : parse? s = some t ↔ MomentText t (trim s.toList) :=
  ofTrimmed?_eq_some

theorem parse?_eq_none {s : String} : parse? s = none ↔ ∀ t, ¬ MomentText t (trim s.toList) := by
  simp only [Option.eq_none_iff_forall_ne_some, ne_eq, parse?_eq_some]

/-- 2 March 2024 at eleven. -/
def marchMorning : Timestamp := ⟨⟨738946, by decide, by decide⟩, 39600, 0, by decide, by decide⟩

end Timestamp

end IncidentBoard
