import IncidentBoard.Proofs.Sql.Nodes
import Mathlib.Data.List.Basic

/-! Every token of a text is written by an expression in it, or holds expressions apart. -/
namespace IncidentBoard.Sql

def Token.keyword? : Token → Option Keyword
  | .keyword k => some k
  | _ => none

/-- The tokens that any expression may stand between. -/
def layout : List Token := [.space, .symbol .comma, .symbol .lparen, .symbol .rparen]

def caseWords : List Token :=
  [.keyword .case', .keyword .when', .keyword .then', .keyword .else', .keyword .end']

/-- What the dialects write around a time to order it or to cut it to a bucket. -/
def Dialect.timeWords : Dialect → List Token
  | .sqlite =>
    caseWords ++ [.symbol .eq, .symbol .divide, .symbol .times, .symbol .concat,
      .function "TYPEOF", .function "STRFTIME", .function "PRINTF", .int 5, .int 15,
      .string "integer", .string "unixepoch", .string Sqlite.canonical,
      .string "%Y-%m-%dT%H:%M:00", .string "%Y-%m-%dT%H:00:00", .string "%Y-%m-%dT00:00:00",
      .string "%Y-%m-01T00:00:00", .string "%Y-01-01T00:00:00", .string "-6 days",
        .string "weekday 1",
      .string "%Y-%m-%dT%H:", .string "%M", .string "%02d", .string ":00"]
  | .postgres =>
    [.function "DATE_TRUNC", .function "DATE_BIN", .string "minute", .string "hour", .string "day",
      .string "week", .string "month", .string "year", .typed .interval "5 minutes",
      .typed .interval "15 minutes", .typed .timestamp "2000-01-03 00:00:00"]

/-- What starts a clause or an output. -/
def breaks (multiline : Bool) : List Token := if multiline then [.newline, .indent 1] else [.space]

/-- What a query writes around its expressions. -/
def Query.frame (multiline : Bool) (q : Query) : List Token :=
  breaks multiline
    ++ Token.keyword .select :: q.select.flatMap (fun i => aliasTokens i.label)
    ++ q.source.toList.flatMap (fun table => [Token.keyword .from', Token.ident table])
    ++ q.joins.flatMap (fun j => joinHead j.table)
    ++ q.filter.toList.map (fun _ => Token.keyword .where')
    ++ [Token.keyword .groupBy, Token.keyword .orderBy]
    ++ q.orderBy.flatMap (fun k => Direction.tokens k.direction)
    ++ q.limit.toList.flatMap (fun n => [Token.keyword .limit, Token.int (Int.bmod n Word.count)])

/-- What an expression writes around its parts. -/
def Expr.frame (d : Dialect) : Expr → List Token
  | .column table name => columnTokens table name
  | .literal l => [l.token]
  | .param index => [.param index]
  | .binary op _ _ => [op.token]
  | .not _ => [.keyword .not]
  | .call name distinct _ => .function name :: if distinct then [.keyword .distinct] else []
  | .case .. => caseWords
  | .inList _ [] negated => [.int 1, .symbol (if negated then .eq else .ne)]
  | .inList _ (_ :: _) negated => .keyword .in' :: negation negated
  | .inQuery _ query negated => .keyword .in' :: negation negated ++ query.frame false
  | .between _ _ _ negated => .keyword .between :: .keyword .and :: negation negated
  | .isNull _ negated => [.keyword (if negated then .isNotNull else .isNull)]
  | .like _ _ escape anyCase =>
    [if anyCase then .likeAnyCase else .keyword .like, .keyword .escape,
      .string (String.singleton escape)]
  | .paren _ => []
  | .bucket .. | .timestamp _ => d.timeWords

section Layout

variable {V : Token → Prop}

theorem forall_mem_intercalate {separator : List Token} (hs : ∀ t ∈ separator, V t)
    {parts : List (List Token)} (h : ∀ ts ∈ parts, ∀ t ∈ ts, V t) :
    ∀ t ∈ separator.intercalate parts, V t := by
  refine intercalate_induction (P := fun ts => ∀ t ∈ ts, V t) (by simp) (fun a b ha hb => ?_) h
  exact List.forall_mem_append.2 ⟨ha, List.forall_mem_append.2 ⟨hs, hb⟩⟩

variable (hV : ∀ t ∈ layout, V t)

include hV

theorem forall_mem_commaList {parts : List (List Token)} (h : ∀ ts ∈ parts, ∀ t ∈ ts, V t) :
    ∀ t ∈ commaList parts, V t :=
  forall_mem_intercalate (by simpa using ⟨hV _ (by simp [layout]), hV _ (by simp [layout])⟩) h

theorem forall_mem_parens {ts : List Token} (h : ∀ t ∈ ts, V t) : ∀ t ∈ parens ts, V t := by
  have hl : V (.symbol .lparen) := hV _ (by simp [layout])
  have hr : V (.symbol .rparen) := hV _ (by simp [layout])
  rw [parens, List.forall_mem_cons, List.forall_mem_append, List.forall_mem_singleton]
  exact ⟨hl, h, hr⟩

theorem forall_mem_operand {ts : List Token} (h : ∀ t ∈ ts, V t) (e : Expr) (place : Nat) :
    ∀ t ∈ operand e ts place, V t := by
  unfold operand
  split
  · exact forall_mem_parens hV h
  · exact h

theorem forall_mem_infixed {a b : List Token} {op : Token} (ha : ∀ t ∈ a, V t) (hop : V op)
    (hb : ∀ t ∈ b, V t) : ∀ t ∈ infixed a op b, V t := by
  have hs : V .space := hV _ (by simp [layout])
  rw [infixed, List.forall_mem_append, List.forall_mem_cons, List.forall_mem_cons,
    List.forall_mem_cons]
  exact ⟨ha, hs, hop, hs, hb⟩

theorem forall_mem_call {name : String} {args : List (List Token)} (hn : V (.function name))
    (h : ∀ ts ∈ args, ∀ t ∈ ts, V t) : ∀ t ∈ call name args, V t :=
  List.forall_mem_cons.2 ⟨hn, forall_mem_parens hV (forall_mem_commaList hV h)⟩

theorem forall_mem_caseTokens (hw : ∀ t ∈ caseWords, V t)
    {branches : List (List Token × List Token)} {otherwise : Option (List Token)}
    (hb : ∀ b ∈ branches, (∀ t ∈ b.1, V t) ∧ ∀ t ∈ b.2, V t) (ho : ∀ e ∈ otherwise, ∀ t ∈ e, V t) :
    ∀ t ∈ caseTokens branches otherwise, V t := by
  have hs : V .space := hV _ (by simp [layout])
  simp only [caseWords, List.forall_mem_cons] at hw
  obtain ⟨hcase, hwhen, hthen, helse, hend, -⟩ := hw
  have hbranches : ∀ t ∈ branches.flatMap fun b => whenThen b.1 b.2, V t := by
    rw [List.forall_mem_flatMap]
    intro b hmem
    simp only [whenThen, List.forall_mem_append, List.forall_mem_cons, List.not_mem_nil,
      IsEmpty.forall_iff, implies_true, and_true]
    exact ⟨⟨⟨⟨hs, hwhen, hs⟩, (hb b hmem).1⟩, hs, hthen, hs⟩, (hb b hmem).2⟩
  have hotherwise : ∀ t ∈ elseTokens otherwise, V t := by
    cases otherwise with
    | none => simp [elseTokens]
    | some e =>
      simp only [elseTokens, List.forall_mem_append, List.forall_mem_cons, List.not_mem_nil,
      IsEmpty.forall_iff, implies_true, and_true]
      exact ⟨⟨hs, helse, hs⟩, ho e rfl⟩
  rw [caseTokens_eq, List.forall_mem_cons, List.forall_mem_append, List.forall_mem_append]
  exact ⟨hcase, ⟨hbranches, hotherwise⟩, by simpa using ⟨hs, hend⟩⟩

section Time

variable {ts : List Token}

theorem forall_mem_strftime {format : String} {modifiers : List String}
    (hw : V (.function "STRFTIME")) (hf : V (.string format)) (hm : ∀ m ∈ modifiers, V (.string m))
    (h : ∀ t ∈ ts, V t) : ∀ t ∈ Sqlite.strftime format ts modifiers, V t := by
  refine forall_mem_call hV hw
    (List.forall_mem_cons.2 ⟨by simpa using hf, List.forall_mem_cons.2 ⟨h, ?_⟩⟩)
  rw [List.forall_mem_map]
  intro m hmem
  simpa using hm m hmem

theorem forall_mem_sqliteTimestamp (hw : ∀ t ∈ Dialect.sqlite.timeWords, V t) (h : ∀ t ∈ ts, V t) :
    ∀ t ∈ Sqlite.timestamp ts, V t := by
  simp only [Dialect.timeWords, List.forall_mem_append, List.forall_mem_cons] at hw
  refine forall_mem_caseTokens hV hw.1 (List.forall_mem_singleton.2 ⟨?_, ?_⟩) fun e he => ?_
  · have htype :=
      forall_mem_call hV (show V (.function "TYPEOF") by simp [hw]) (List.forall_mem_singleton.2 h)
    exact forall_mem_infixed hV htype (by simp [hw]) (by simp [hw])
  · exact forall_mem_strftime hV (by simp [hw]) (by simp [hw]) (by simp [hw]) h
  · rw [← Option.mem_some_iff.1 he]
    exact forall_mem_strftime hV (by simp [hw]) (by simp [hw]) (by simp) h

theorem forall_mem_timestampTokens {d : Dialect} (hw : ∀ t ∈ d.timeWords, V t) (h : ∀ t ∈ ts, V t) :
    ∀ t ∈ d.timestampTokens ts, V t := by
  cases d with
  | sqlite => exact forall_mem_sqliteTimestamp hV hw h
  | postgres => exact h

theorem forall_mem_minuteMultiple (hw : ∀ t ∈ Dialect.sqlite.timeWords, V t) {step : Int}
    (hstep : V (.int step)) (h : ∀ t ∈ ts, V t) : ∀ t ∈ Sqlite.minuteMultiple ts step, V t := by
  simp only [Dialect.timeWords, List.forall_mem_append, List.forall_mem_cons] at hw
  have hdivide : V (.symbol .divide) := by simp [hw]
  have htimes : V (.symbol .times) := by simp [hw]
  have part (format : String) (hf : V (.string format)) : ∀ t ∈ Sqlite.strftime format ts [], V t :=
    forall_mem_strftime hV (by simp [hw]) hf (by simp) h
  have hstep : ∀ t ∈ [Token.int step], V t := List.forall_mem_singleton.2 hstep
  have quotient := forall_mem_infixed hV (part "%M" (by simp [hw])) hdivide hstep
  have minute := forall_mem_infixed hV (forall_mem_parens hV quotient) htimes hstep
  refine forall_mem_infixed hV (forall_mem_infixed hV (part _ ?_) ?_ ?_)
    (by simp [hw]) (by simp [hw])
  · simp [hw]
  · simp [hw]
  · exact forall_mem_call hV
      (by simp [hw]) (List.forall_mem_cons.2 ⟨by simp [hw], by simpa using minute⟩)

theorem forall_mem_bucketTokens {d : Dialect} (hw : ∀ t ∈ d.timeWords, V t) (h : ∀ t ∈ ts, V t)
    (b : Bucket) :
    ∀ t ∈ d.bucketTokens ts b, V t := by
  cases d with
  | sqlite =>
    have htime := forall_mem_sqliteTimestamp hV hw h
    have hmultiple {step : Int} (hstep : V (.int step)) :=
      forall_mem_minuteMultiple hV hw hstep htime
    simp only [Dialect.timeWords, List.forall_mem_append, List.forall_mem_cons] at hw
    cases b with
    | fiveMinutes | fifteenMinutes => exact hmultiple (by simp [hw])
    | minute | hour | day | week | month | year =>
      exact forall_mem_strftime hV (by simp [hw]) (by simp [hw]) (by simp [hw]) htime
  | postgres =>
    simp only [Dialect.timeWords, List.forall_mem_cons] at hw
    cases b <;>
    · refine forall_mem_call hV (by simp [hw]) ?_
      simpa [hw] using h

end Time

section Clauses

variable {multiline : Bool}

theorem forall_mem_clause (hb : ∀ t ∈ breaks multiline, V t) {ts : List Token} (h : ∀ t ∈ ts, V t) :
    ∀ t ∈ clause multiline ts, V t := by
  cases multiline with
  | true => exact List.forall_mem_cons.2 ⟨hb _ (by simp [breaks]), h⟩
  | false => exact List.forall_mem_cons.2 ⟨hV _ (by simp [layout]), h⟩

theorem forall_mem_listClause (hb : ∀ t ∈ breaks multiline, V t) {head : Keyword}
    (hh : V (.keyword head)) {parts : List (List Token)} (h : ∀ ts ∈ parts, ∀ t ∈ ts, V t) :
    ∀ t ∈ listClause multiline head parts, V t := by
  cases parts with
  | nil => simp [listClause]
  | cons a rest =>
    refine forall_mem_clause hV hb (List.forall_mem_cons.2 ⟨hh, List.forall_mem_cons.2 ⟨?_, ?_⟩⟩)
    · exact hV _ (by simp [layout])
    · exact forall_mem_commaList hV h

theorem forall_mem_selectTokens (hb : ∀ t ∈ breaks multiline, V t) (hs : V (.keyword .select))
    {items : List (List Token)} (h : ∀ ts ∈ items, ∀ t ∈ ts, V t) :
    ∀ t ∈ selectTokens multiline items, V t := by
  refine List.forall_mem_cons.2 ⟨hs, forall_mem_intercalate ?_ ?_⟩
  · exact List.forall_mem_singleton.2 (hV _ (by simp [layout]))
  · rw [List.forall_mem_map]
    intro ts hts
    exact List.forall_mem_append.2 ⟨by simpa [breaks] using hb, h ts hts⟩

theorem Query.forall_mem_frame {q : Query} (hb : ∀ t ∈ breaks multiline, V t)
    (hkeyword : ∀ k, k ≠ .where' ∨ q.filter.isSome → V (.keyword k))
    (hname : ∀ name, V (.ident name)) (hint : ∀ n, V (.int n)) : ∀ t ∈ q.frame multiline, V t := by
  have hspace : V .space := hV _ (by simp [layout])
  have keyword (k : Keyword) (hk : k ≠ .where' := by decide) : V (.keyword k) :=
    hkeyword k (.inl hk)
  have hlabels : ∀ i ∈ q.select, ∀ t ∈ aliasTokens i.label, V t := by
    intro i _
    cases i.label <;> simp [aliasTokens, hspace, keyword, hname]
  have hjoins : ∀ j ∈ q.joins, ∀ t ∈ joinHead j.table, V t := by
    intro j _
    simp [joinHead, hspace, keyword, hname]
  have hdirections : ∀ k ∈ q.orderBy, ∀ t ∈ Direction.tokens k.direction, V t := by
    intro k _
    rcases k.direction with _ | _ | _ <;> simp [Direction.tokens, hspace, keyword]
  have hwhere : ∀ e ∈ q.filter.toList, V (.keyword .where') := by
    intro e he
    exact hkeyword _ (.inr (Option.isSome_iff_exists.2 ⟨e, Option.mem_toList.1 he⟩))
  simp only [frame, List.forall_mem_append, List.forall_mem_cons, List.forall_mem_flatMap,
    List.forall_mem_map]
  refine ⟨⟨⟨⟨⟨⟨⟨hb, keyword _, hlabels⟩, ?_⟩, hjoins⟩, hwhere⟩, ?_⟩, hdirections⟩, ?_⟩
  all_goals simp [keyword, hname, hint]

theorem Query.forall_mem_tokens {d : Dialect} {q : Query} (hq : ∀ t ∈ q.frame multiline, V t)
    (h : ∀ e ∈ q.exprs, ∀ t ∈ e.tokens d, V t) : ∀ t ∈ q.tokens d multiline, V t := by
  have hspace : V .space := hV _ (by simp [layout])
  simp only [frame, List.forall_mem_append, List.forall_mem_cons, List.forall_mem_flatMap,
    List.forall_mem_map] at hq
  obtain ⟨⟨⟨⟨⟨⟨⟨hb, hselect, hlabels⟩, hsource⟩, hheads⟩, hwhere⟩, hgroup, horder, -⟩, hdirections⟩,
    hlimit⟩ := hq
  simp only [exprs, List.forall_mem_append, List.forall_mem_map] at h
  obtain ⟨⟨⟨⟨hselects, hjoins⟩, hfilter⟩, hgroups⟩, hkeys⟩ := h
  rw [tokens_eq]
  simp only [List.forall_mem_append, itemTokens_eq, joinTokens_eq, keyTokens_eq, Expr.listTokens_eq]
  refine ⟨⟨⟨⟨⟨⟨?_, ?_⟩, ?_⟩, ?_⟩, ?_⟩, ?_⟩, ?_⟩
  · refine forall_mem_selectTokens hV hb hselect ?_
    rw [List.forall_mem_map]
    exact fun i hi => List.forall_mem_append.2 ⟨hselects i hi, hlabels i hi⟩
  · cases hs : q.source with
    | none => simp [sourceClause]
    | some table =>
      obtain ⟨hfrom, htable, -⟩ := hsource table (by simp [hs])
      exact forall_mem_clause hV hb (by simp [hfrom, hspace, htable])
  · rw [List.forall_mem_flatMap, List.forall_mem_map]
    exact fun j hj => forall_mem_clause hV hb (List.forall_mem_append.2 ⟨hheads j hj, hjoins j hj⟩)
  · cases hf : q.filter with
    | none => simp [filterClause]
    | some e =>
      have he : e ∈ q.filter.toList := by simp [hf]
      have hcondition := List.forall_mem_cons.2 ⟨hspace, hfilter e he⟩
      exact forall_mem_clause hV hb (List.forall_mem_cons.2 ⟨hwhere e he, hcondition⟩)
  · exact forall_mem_listClause hV hb hgroup (List.forall_mem_map.2 hgroups)
  · refine forall_mem_listClause hV hb horder (List.forall_mem_map.2 fun k hk => ?_)
    exact List.forall_mem_append.2 ⟨hkeys k hk, hdirections k hk⟩
  · cases hl : q.limit with
    | none => simp [limitClause]
    | some n =>
      obtain ⟨hlimit, hn, -⟩ := hlimit n (by simp [hl])
      exact forall_mem_clause hV hb (by simp [hlimit, hspace, hn])

/-- What holds of the frames of an expression holds of its text. -/
theorem Expr.forall_mem_tokens {d : Dialect} {e : Expr} (h : e.All fun n => ∀ t ∈ n.frame d, V t) :
    ∀ t ∈ e.tokens d, V t := by
  have hs : V .space := hV _ (by simp [layout])
  induction e using Expr.parts_induct with
  | step e ih =>
    have part {x : Expr} (hx : x ∈ e.parts) : ∀ t ∈ x.tokens d, V t := ih x hx (h.part hx)
    have operand {x : Expr} (hx : x ∈ e.parts) (place : Nat) :
        ∀ t ∈ operand x (x.tokens d) place, V t :=
      forall_mem_operand hV (part hx) x place
    have hframe : ∀ t ∈ e.frame d, V t := h.self
    have test {x : Expr} {k : Keyword} {negated : Bool} {rest : List Token} (hx : x ∈ e.parts)
        (hk : ∀ t ∈ .keyword k :: negation negated, V t) (hrest : ∀ t ∈ rest, V t) :
        ∀ t ∈ Sql.operand x (x.tokens d) 5 ++ negation negated
          ++ [Token.space, Token.keyword k, Token.space] ++ rest, V t := by
      obtain ⟨hk, hn⟩ := List.forall_mem_cons.1 hk
      simp only [List.forall_mem_append]
      exact ⟨⟨⟨operand hx 5, hn⟩, by simp [hs, hk]⟩, hrest⟩
    cases e with
    | column | literal | param => exact hframe
    | binary op left right =>
      have hop : V op.token := hframe _ (by simp [frame])
      exact forall_mem_infixed hV (operand (by simp [parts]) _) hop (operand (by simp [parts]) _)
    | not x =>
      refine List.forall_mem_cons.2 ⟨hframe _ (by simp [frame]), List.forall_mem_cons.2 ⟨hs, ?_⟩⟩
      exact operand (by simp [parts]) _
    | call name distinct args =>
      rw [frame, List.forall_mem_cons] at hframe
      refine List.forall_mem_cons.2 ⟨hframe.1,
        forall_mem_parens hV (List.forall_mem_append.2 ⟨?_, ?_⟩)⟩
      · cases distinct with
        | false => simp
        | true => simpa [hs] using hframe.2
      · rw [listTokens_eq]
        exact forall_mem_commaList hV (List.forall_mem_map.2 fun x hx => part hx)
    | case branches otherwise =>
      rw [case_tokens_eq, branchTokens_eq]
      refine forall_mem_caseTokens hV hframe (List.forall_mem_map.2 fun b hb => ⟨?_, ?_⟩)
        fun ts hts => ?_
      · exact part (List.mem_append_left _ (List.mem_flatMap.2 ⟨b, hb, by simp⟩))
      · exact part (List.mem_append_left _ (List.mem_flatMap.2 ⟨b, hb, by simp⟩))
      · obtain ⟨x, hx, rfl⟩ := Option.map_eq_some_iff.1 hts
        exact part (List.mem_append_right _ (by simp [hx]))
    | inList x values negated =>
      cases values with
      | nil =>
        rw [frame, List.forall_mem_cons, List.forall_mem_singleton] at hframe
        obtain ⟨hone, hsign⟩ := hframe
        have hone : ∀ t ∈ [Token.int 1], V t := List.forall_mem_singleton.2 hone
        exact forall_mem_infixed hV hone hsign hone
      | cons v vs =>
        refine test (by simp [parts]) hframe (forall_mem_parens hV ?_)
        rw [listTokens_eq, ← List.map_cons]
        exact forall_mem_commaList hV (List.forall_mem_map.2 fun y hy =>
          part (List.mem_cons_of_mem _ hy))
    | inQuery x query negated =>
      rw [frame, List.forall_mem_append] at hframe
      refine test (by simp [parts]) hframe.1 (forall_mem_parens hV ?_)
      exact Query.forall_mem_tokens hV hframe.2 fun y hy => part (List.mem_cons_of_mem _ hy)
    | between x low high negated =>
      rw [frame, List.forall_mem_cons, List.forall_mem_cons] at hframe
      obtain ⟨hbetween, hand, hn⟩ := hframe
      refine test (by simp [parts]) (List.forall_mem_cons.2 ⟨hbetween, hn⟩) ?_
      exact forall_mem_infixed hV (operand (by simp [parts]) 5) hand (operand (by simp [parts]) 5)
    | isNull x negated =>
      rw [frame, List.forall_mem_singleton] at hframe
      exact List.forall_mem_append.2 ⟨operand (by simp [parts]) 5, by simp [hs, hframe]⟩
    | like x pattern escape anyCase =>
      rw [frame, List.forall_mem_cons, List.forall_mem_cons, List.forall_mem_singleton] at hframe
      obtain ⟨hlike, hescape, hchar⟩ := hframe
      refine List.forall_mem_append.2 ⟨?_, by simp [hs, hescape, hchar]⟩
      exact forall_mem_infixed hV (operand (by simp [parts]) 5) hlike (operand (by simp [parts]) 5)
    | paren x => exact forall_mem_parens hV (part (by simp [parts]))
    | bucket x b => exact forall_mem_bucketTokens hV hframe (part (by simp [parts])) b
    | timestamp x => exact forall_mem_timestampTokens hV hframe (part (by simp [parts]))

end Clauses

end Layout

end IncidentBoard.Sql
