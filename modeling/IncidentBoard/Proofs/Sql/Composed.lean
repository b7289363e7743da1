import IncidentBoard.Proofs.Sql.Nodes

/-! How texts are put together: what opens is closed again, and behind a quoted text there is a
break. -/
namespace IncidentBoard.Sql

namespace Token

/-- Opens or closes a parenthesis or a `CASE`. -/
def isBracket : Token → Bool
  | .symbol .lparen | .symbol .rparen | .keyword .case' | .keyword .end' => true
  | _ => false

/-- Ends with a quote. -/
def isQuoted : Token → Bool
  | .ident _ | .string _ | .typed .. => true
  | _ => false

/-- May stand right behind a quote. -/
def isBreak : Token → Bool
  | .space | .newline | .symbol _ => true
  | _ => false

end Token

/-- Everything that the printer writes is put together in these ways. -/
inductive Composed : List Token → Prop
  | nil : Composed []
  | single {t : Token} (h : t.isBracket = false) : Composed [t]
  | cons {t : Token} {ts : List Token} (hb : t.isBracket = false) (hq : t.isQuoted = false)
      (h : Composed ts) :
    Composed (t :: ts)
  | append {a b : List Token} (ha : Composed a) (hb : Composed b) (h : ∀ t ∈ b.head?, t.isBreak) :
    Composed (a ++ b)
  | parens {ts : List Token} (h : Composed ts) : Composed (parens ts)
  | block {ts : List Token} (h : Composed ts) :
    Composed (.keyword .case' :: (ts ++ [.space, .keyword .end']))

/-- A text that may stand right behind any other: it is empty or starts with a break. -/
structure Trails (ts : List Token) : Prop where
  composed : Composed ts
  breaks : ∀ t ∈ ts.head?, t.isBreak

section Layout

variable {a b ts : List Token} {parts : List (List Token)}

theorem Composed.trail (ha : Composed a) (hb : Trails b) : Composed (a ++ b) :=
  ha.append hb.composed hb.breaks

namespace Trails

theorem nil : Trails [] := ⟨.nil, by simp⟩

theorem cons {t : Token} (ht : t.isBreak) (h : Composed (t :: ts)) : Trails (t :: ts) :=
  ⟨h, by simpa using ht⟩

theorem space (h : Composed ts) : Trails (.space :: ts) := cons rfl (h.cons rfl rfl)

theorem append (ha : Trails a) (hb : Trails b) : Trails (a ++ b) := by
  refine ⟨ha.composed.trail hb, ?_⟩
  cases a with
  | nil => exact hb.breaks
  | cons t a => exact ha.breaks

theorem flatMap {α : Type} {l : List α} {f : α → List Token} (h : ∀ x ∈ l, Trails (f x)) :
    Trails (l.flatMap f) :=
  flatMap_induction nil (fun _ _ ha hb => ha.append hb) h

/-- ` word ts` -/
theorem word {k : Keyword} (hk : (Token.keyword k).isBracket = false) (h : Composed ts) :
    Trails (.space :: .keyword k :: .space :: ts) := space ((h.cons rfl rfl).cons hk rfl)

end Trails

namespace Composed

/-- Tokens that neither are brackets nor end with a quote may stand before anything. -/
theorem words {w : List Token} (hw : ∀ t ∈ w, t.isBracket = false ∧ t.isQuoted = false)
    (h : Composed ts) :
    Composed (w ++ ts) := by
  induction w with
  | nil => exact h
  | cons t w ih =>
    obtain ⟨ht, hw⟩ := List.forall_mem_cons.1 hw
    exact (ih hw).cons ht.1 ht.2

theorem intercalate {separator : List Token} (hs : ∀ ts, Composed ts → Trails (separator ++ ts))
    (h : ∀ ts ∈ parts, Composed ts) : Composed (separator.intercalate parts) :=
  intercalate_induction nil (fun _ b ha hb => ha.trail (hs b hb)) h

theorem commaList (h : ∀ ts ∈ parts, Composed ts) : Composed (commaList parts) :=
  intercalate (fun _ hts => .cons rfl ((hts.cons rfl rfl).cons rfl rfl)) h

theorem infixed {op : Token} (ha : Composed a) (hb : op.isBracket = false)
    (hq : op.isQuoted = false) (h : Composed b) : Composed (infixed a op b) :=
  ha.trail (.space ((h.cons rfl rfl).cons hb hq))

theorem operand (h : Composed ts) (e : Expr) (place : Nat) : Composed (operand e ts place) := by
  unfold Sql.operand
  split
  · exact h.parens
  · exact h

theorem call {name : String} (h : ∀ ts ∈ parts, Composed ts) : Composed (call name parts) :=
  (commaList h).parens.cons rfl rfl

section Case

variable {branches : List (List Token × List Token)} {otherwise : Option (List Token)}

theorem caseBody (hb : ∀ b ∈ branches, Composed b.1 ∧ Composed b.2)
    (ho : ∀ e ∈ otherwise, Composed e) :
    Composed (branches.flatMap (fun b => whenThen b.1 b.2) ++ elseTokens otherwise) := by
  have hbranches : Trails (branches.flatMap fun b => whenThen b.1 b.2) :=
    Trails.flatMap fun b hmem => by
    have hresult := (hb b hmem).1.trail (Trails.word (k := .then') rfl (hb b hmem).2)
    simpa [whenThen] using Trails.word (k := .when') rfl hresult
  have hotherwise : Trails (elseTokens otherwise) := by
    cases otherwise with
    | none => exact Trails.nil
    | some e => exact Trails.word rfl (ho e rfl)
  exact (hbranches.append hotherwise).composed

theorem caseTokens (hb : ∀ b ∈ branches, Composed b.1 ∧ Composed b.2)
    (ho : ∀ e ∈ otherwise, Composed e) :
    Composed (caseTokens branches otherwise) := by
  rw [caseTokens_eq]
  exact (caseBody hb ho).block

end Case

section Time

theorem strftime {format : String} {modifiers : List String} (h : Composed ts) :
    Composed (Sqlite.strftime format ts modifiers) := by
  refine call (List.forall_mem_cons.2 ⟨single rfl, List.forall_mem_cons.2 ⟨h, ?_⟩⟩)
  exact List.forall_mem_map.2 fun m _ => single rfl

/-- `TYPEOF(ts) = 'integer'` -/
theorem timeTest (h : Composed ts) :
    Composed (Sql.infixed (Sql.call "TYPEOF" [ts]) (.symbol .eq) [.string "integer"]) :=
  infixed (call (by simpa using h)) rfl rfl (single rfl)

theorem sqliteTimestamp (h : Composed ts) : Composed (Sqlite.timestamp ts) :=
  caseTokens (List.forall_mem_singleton.2 ⟨h.timeTest, h.strftime⟩) (by simpa using h.strftime)

theorem timestampTokens (d : Dialect) (h : Composed ts) : Composed (d.timestampTokens ts) := by
  cases d with
  | sqlite => exact sqliteTimestamp h
  | postgres => exact h

theorem minuteMultiple {step : Int} (h : Composed ts) :
    Composed (Sqlite.minuteMultiple ts step) := by
  have quotient :
      Composed (Sql.infixed (Sqlite.strftime "%M" ts []) (.symbol .divide) [.int step]) :=
    infixed (strftime h) rfl rfl (single rfl)
  have minute : Composed (Sql.infixed (Sql.parens _) (.symbol .times) [.int step]) :=
    infixed quotient.parens rfl rfl (single rfl)
  refine infixed (infixed (strftime h) rfl rfl (call ?_)) rfl rfl (single rfl)
  exact List.forall_mem_cons.2 ⟨single rfl, List.forall_mem_singleton.2 minute⟩

theorem bucketTokens (d : Dialect) (h : Composed ts) (b : Bucket) :
    Composed (d.bucketTokens ts b) := by
  cases d with
  | sqlite =>
    have htime := sqliteTimestamp h
    cases b with
    | fiveMinutes | fifteenMinutes => exact minuteMultiple htime
    | minute | hour | day | week | month | year => exact strftime htime
  | postgres =>
    cases b with
    | fiveMinutes | fifteenMinutes =>
      refine call (List.forall_mem_cons.2 ⟨single rfl, List.forall_mem_cons.2 ⟨h, ?_⟩⟩)
      exact List.forall_mem_singleton.2 (single rfl)
    | minute | hour | day | week | month | year =>
      exact call (List.forall_mem_cons.2 ⟨single rfl, List.forall_mem_singleton.2 h⟩)

end Time

end Composed

section Clauses

variable {multiline : Bool}

theorem Trails.clause (h : Composed ts) : Trails (clause multiline ts) := by
  cases multiline <;> exact cons rfl (h.cons rfl rfl)

theorem Trails.listClause {head : Keyword} (hh : (Token.keyword head).isBracket = false)
    (h : ∀ ts ∈ parts, Composed ts) : Trails (listClause multiline head parts) := by
  cases parts with
  | nil => exact nil
  | cons a rest => exact clause (((Composed.commaList h).cons rfl rfl).cons hh rfl)

theorem Composed.selectTokens (h : ∀ ts ∈ parts, Composed ts) :
    Composed (selectTokens multiline parts) := by
  refine .cons rfl rfl (intercalate (fun _ hts => .cons rfl (hts.cons rfl rfl)) ?_)
  rw [List.forall_mem_map]
  exact fun ts hts => words (by cases multiline <;> decide) (h ts hts)

theorem Trails.aliasTokens (label : Option String) : Trails (aliasTokens label) := by
  cases label with
  | none => exact nil
  | some a => exact word rfl (.single rfl)

theorem Trails.direction (direction : Option Direction) : Trails (Direction.tokens direction) := by
  rcases direction with _ | _ | _
  · exact nil
  all_goals exact space (.single rfl)

theorem Query.composed_of_exprs {d : Dialect} {q : Query}
    (h : ∀ e ∈ q.exprs, Composed (e.tokens d)) :
    Composed (q.tokens d multiline) := by
  simp only [exprs, List.forall_mem_append, List.forall_mem_map] at h
  obtain ⟨⟨⟨⟨hselects, hjoins⟩, hfilter⟩, hgroups⟩, hkeys⟩ := h
  rw [tokens_eq, itemTokens_eq, joinTokens_eq, keyTokens_eq, Expr.listTokens_eq]
  refine (((((Composed.trail ?_ ?_).trail ?_).trail ?_).trail ?_).trail ?_).trail ?_
  · refine Composed.selectTokens (List.forall_mem_map.2 fun i hi => ?_)
    exact (hselects i hi).trail (Trails.aliasTokens i.label)
  · cases q.source with
    | none => exact Trails.nil
    | some table =>
      exact Trails.clause (.words (w := [.keyword .from', .space]) (by decide) (.single rfl))
  · refine Trails.flatMap (List.forall_mem_map.2 fun j hj => Trails.clause ?_)
    have hon := Trails.word (k := .on) rfl (hjoins j hj)
    have htable : Composed (.ident j.table :: _) := (Composed.single rfl).trail hon
    exact .words (w := [.keyword .left, .space, .keyword .join, .space]) (by decide) htable
  · cases hf : q.filter with
    | none => exact Trails.nil
    | some e => exact Trails.clause (.cons rfl rfl (.cons rfl rfl (hfilter e (by simp [hf]))))
  · exact Trails.listClause rfl (List.forall_mem_map.2 hgroups)
  · refine Trails.listClause rfl (List.forall_mem_map.2 fun k hk => ?_)
    exact (hkeys k hk).trail (Trails.direction k.direction)
  · cases q.limit with
    | none => exact Trails.nil
    | some n =>
      exact Trails.clause (.words (w := [.keyword .limit, .space]) (by decide) (.single rfl))

end Clauses

end Layout

theorem composed_columnTokens (table : Option String) (name : String) :
    Composed (columnTokens table name) := by
  cases table with
  | none => exact .single rfl
  | some t =>
    exact (Composed.single rfl).trail (.cons (t := .symbol .dot) rfl (.cons rfl rfl (.single rfl)))

theorem trails_negation (negated : Bool) : Trails (negation negated) := by
  cases negated with
  | false => exact Trails.nil
  | true => exact Trails.space (.single rfl)

theorem BinOp.plain_token (op : BinOp) :
    op.token.isBracket = false ∧ op.token.isQuoted = false := by
  cases op <;> exact ⟨rfl, rfl⟩

theorem composed_arguments (distinct : Bool) {parts : List (List Token)}
    (h : ∀ ts ∈ parts, Composed ts) :
    Composed ((if distinct then [.keyword .distinct, .space] else []) ++ commaList parts) :=
  .words (by cases distinct <;> decide) (Composed.commaList h)

theorem Expr.composed_tokens (d : Dialect) (e : Expr) : Composed (e.tokens d) := by
  induction e using Expr.parts_induct with
  | step e part =>
    have operand {x : Expr} (hx : x ∈ e.parts) (place : Nat) :
        Composed (operand x (x.tokens d) place) :=
      (part x hx).operand x place
    -- ` [NOT] word ts`, as the tests have it behind their left operand
    have test {x : Expr} {k : Keyword} {ts : List Token} (hx : x ∈ e.parts) (negated : Bool)
        (hk : (Token.keyword k).isBracket = false) (h : Composed ts) :
        Composed (Sql.operand x (x.tokens d) 5 ++ negation negated
          ++ [Token.space, Token.keyword k, Token.space] ++ ts) := by
      rw [List.append_assoc]
      exact ((operand hx 5).trail (trails_negation negated)).trail (Trails.word hk h)
    cases e with
    | column table name => exact composed_columnTokens table name
    | literal l => cases l <;> exact .single rfl
    | param index => exact .single rfl
    | binary op left right =>
      exact (operand (by simp [parts]) _).infixed op.plain_token.1 op.plain_token.2
        (operand (by simp [parts]) _)
    | not x => exact .cons rfl rfl (.cons rfl rfl (operand (by simp [parts]) 3))
    | call name distinct args =>
      refine .cons rfl rfl (.parens (composed_arguments distinct ?_))
      rw [listTokens_eq]
      exact List.forall_mem_map.2 part
    | case branches otherwise =>
      rw [case_tokens_eq, branchTokens_eq]
      refine Composed.caseTokens (List.forall_mem_map.2 fun b hb => ⟨?_, ?_⟩) fun ts hts => ?_
      · exact part _ (List.mem_append_left _ (List.mem_flatMap.2 ⟨b, hb, by simp⟩))
      · exact part _ (List.mem_append_left _ (List.mem_flatMap.2 ⟨b, hb, by simp⟩))
      · obtain ⟨x, hx, rfl⟩ := Option.map_eq_some_iff.1 hts
        exact part _ (List.mem_append_right _ (by simp [hx]))
    | inList x values negated =>
      cases values with
      | nil =>
        exact (Composed.single rfl).infixed (by cases negated <;> rfl) (by cases negated <;> rfl)
          (.single rfl)
      | cons v vs =>
        refine test (by simp [parts]) negated rfl (.parens ?_)
        rw [listTokens_eq, ← List.map_cons]
        exact Composed.commaList (List.forall_mem_map.2 fun y hy =>
          part _ (List.mem_cons_of_mem _ hy))
    | inQuery x query negated =>
      refine test (by simp [parts]) negated rfl (.parens ?_)
      exact Query.composed_of_exprs fun y hy => part _ (List.mem_cons_of_mem _ hy)
    | between x low high negated =>
      exact test (by simp [parts]) negated rfl
        ((operand (by simp [parts]) 5).infixed rfl rfl (operand (by simp [parts]) 5))
    | isNull x negated =>
      exact (operand (by simp [parts]) 5).trail (.space (.single (by cases negated <;> rfl)))
    | like x pattern escape anyCase =>
      have hlike : Composed (infixed (Sql.operand x (x.tokens d) 5)
          (if anyCase then .likeAnyCase else .keyword .like)
          (Sql.operand pattern (pattern.tokens d) 5)) :=
        (operand (by simp [parts]) 5).infixed (by cases anyCase <;> rfl) (by cases anyCase <;> rfl)
          (operand (by simp [parts]) 5)
      exact hlike.trail (Trails.word rfl (.single rfl))
    | paren x => exact (part x (by simp [parts])).parens
    | bucket x b => exact (part x (by simp [parts])).bucketTokens d b
    | timestamp x => exact (part x (by simp [parts])).timestampTokens d

theorem Query.composed_tokens (d : Dialect) (multiline : Bool) (q : Query) :
    Composed (q.tokens d multiline) :=
  composed_of_exprs fun e _ => e.composed_tokens d

end IncidentBoard.Sql
