import IncidentBoard.Proofs.Sql.Composed
import IncidentBoard.Proofs.Sql.Frame
import IncidentBoard.Proofs.Text.Upper

/-! Quoted texts do not break out of their quotes: a scan of the SQL finds the quoted tokens
again. -/
namespace IncidentBoard.Sql

def isQuote (c : Char) : Bool := c = '"' || c = '\''

/-- A character outside of quotes, or what stands between a quote and the one that closes it. -/
inductive Piece
  | plain (c : Char)
  | quoted (q : Char) (text : List Char)
  deriving DecidableEq

def Piece.quoted? : Piece → Option (Char × String)
  | .plain _ => none
  | .quoted q text => some (q, String.ofList text)

/-- Where a scan from left to right is: outside of quotes, inside them, or behind a quote that
closes unless another one follows. -/
inductive Place
  | outside
  | inside (q : Char) (text : List Char)
  | behind (q : Char) (text : List Char)

namespace Place

/-- The pieces that end with a character outside of quotes, and where it leads. -/
def enter (c : Char) : List Piece × Place :=
  if isQuote c then ([], .inside c []) else ([.plain c], .outside)

/-- Inside, the quote stands for itself if it is doubled, and closes if it is not. -/
def step : Place → Char → List Piece × Place
  | .outside, c => enter c
  | .inside q text, c => ([], if c = q then .behind q text else .inside q (text ++ [c]))
  | .behind q text, c =>
    if c = q then ([], .inside q (text ++ [q])) else (.quoted q text :: (enter c).1, (enter c).2)

/-- There is nothing to find if the last quote is not closed. -/
def scan : Place → List Char → Option (List Piece)
  | .outside, [] => some []
  | .inside .., [] => none
  | .behind q text, [] => some [.quoted q text]
  | p, c :: cs => (scan (p.step c).2 cs).map ((p.step c).1 ++ ·)

end Place

def pieces? (s : String) : Option (List Piece) := Place.outside.scan s.toList

/-- A text without quotes. -/
def Unquoted (cs : List Char) : Prop := ∀ c ∈ cs, isQuote c = false

instance (cs : List Char) : Decidable (Unquoted cs) :=
  List.decidableBAll (fun c => isQuote c = false) cs

/-- What `quote` writes between the quotes. -/
def doubled (q : Char) (s : List Char) : List Char :=
  s.flatMap fun c => if c = q then [q, q] else [c]

theorem quote_eq (q : Char) (s : String) : quote q s = q :: (doubled q s.toList ++ [q]) := rfl

section Scan

variable {q : Char} {text cs rest : List Char}

namespace Place

theorem scan_outside_cons {c : Char} (h : isQuote c = false) :
    outside.scan (c :: rest) = (outside.scan rest).map (.plain c :: ·) := by
  simp [scan, step, enter, h]

theorem scan_plain (h : Unquoted cs) :
    outside.scan (cs ++ rest) = (outside.scan rest).map (cs.map .plain ++ ·) := by
  induction cs with
  | nil => simp
  | cons c cs ih =>
    obtain ⟨hc, hcs⟩ := List.forall_mem_cons.1 h
    rw [List.cons_append, scan_outside_cons hc, ih hcs, Option.map_map]
    rfl

theorem scan_outside_quote (hq : isQuote q) :
    outside.scan (q :: rest) = (inside q []).scan rest := by
  simp [scan, step, enter, hq]

theorem scan_inside_quote : (inside q text).scan (q :: rest) = (behind q text).scan rest := by
  simp [scan, step]

theorem scan_inside_of_ne {c : Char} (h : c ≠ q) :
    (inside q text).scan (c :: rest) = (inside q (text ++ [c])).scan rest := by
  simp [scan, step, h]

theorem scan_behind_quote :
    (behind q text).scan (q :: rest) = (inside q (text ++ [q])).scan rest := by
  simp [scan, step]

theorem scan_behind (h : ∀ c ∈ rest.head?, c ≠ q) :
    (behind q text).scan rest = (outside.scan rest).map (.quoted q text :: ·) := by
  cases rest with
  | nil => rfl
  | cons c rest =>
    have hc : c ≠ q := h c rfl
    simp [scan, step, hc, Function.comp_def]

/-- No quote of the content closes, since each is doubled. -/
theorem scan_doubled (s : List Char) :
    (inside q text).scan (doubled q s ++ rest) = (inside q (text ++ s)).scan rest := by
  induction s generalizing text with
  | nil => simp [doubled]
  | cons c s ih =>
    rw [doubled, List.flatMap_cons, List.append_assoc, ← doubled]
    by_cases hc : c = q
    · subst hc
      rw [if_pos rfl, List.cons_append, List.singleton_append, scan_inside_quote,
        scan_behind_quote, ih, List.append_assoc, List.singleton_append]
    · rw [if_neg hc, List.singleton_append, scan_inside_of_ne hc, ih, List.append_assoc,
        List.singleton_append]

theorem scan_quote (hq : isQuote q) (s : String) :
    outside.scan (quote q s ++ rest) = (behind q s.toList).scan rest := by
  rw [quote_eq, List.cons_append, List.append_assoc, List.singleton_append, scan_outside_quote hq,
    scan_doubled, scan_inside_quote, List.nil_append]

end Place

example : pieces? "(a'b''c')" =
    some [.plain '(', .plain 'a', .quoted '\'' ['b', '\'', 'c'], .plain ')'] := by decide

end Scan

section Characters

theorem isQuote_iff {c : Char} : isQuote c ↔ c = '"' ∨ c = '\'' := by simp [isQuote]

variable {xs ys : List Char}

theorem Unquoted.append (hx : Unquoted xs) (hy : Unquoted ys) : Unquoted (xs ++ ys) :=
  List.forall_mem_append.2 ⟨hx, hy⟩

theorem Unquoted.cons {c : Char} (hc : isQuote c = false) (h : Unquoted xs) : Unquoted (c :: xs) :=
  List.forall_mem_cons.2 ⟨hc, h⟩

theorem Unquoted.of_subset (h : Unquoted xs) (hs : ys ⊆ xs) : Unquoted ys := fun c hc => h c (hs hc)

theorem unquoted_replicate {c : Char} (hc : isQuote c = false) (n : Nat) :
    Unquoted (List.replicate n c) := by
  intro a ha
  rwa [List.eq_of_mem_replicate ha]

theorem unquoted_toDigits (n : Nat) : Unquoted (Nat.toDigits 10 n) := by
  intro c hc
  have hdigit : c.isDigit := Nat.isDigit_of_mem_toDigits (by decide) (by decide) hc
  by_contra hquote
  obtain rfl | rfl := isQuote_iff.1 (by simpa using hquote) <;> contradiction

theorem unquoted_int (n : Int) : Unquoted (toString n).toList := by
  cases n with
  | ofNat n =>
    change Unquoted n.repr.toList
    rw [Nat.toList_repr]
    exact unquoted_toDigits n
  | negSucc n =>
    change Unquoted ("-" ++ (n + 1).repr).toList
    rw [String.toList_append, Nat.toList_repr]
    exact .append (by decide) (unquoted_toDigits _)

theorem unquoted_digits (d : Decimal.Digits) : Unquoted (Decimal.Style.sql.digits d) := by
  have hds := unquoted_toDigits d.digits
  have htake (n : Nat) : Unquoted ((Nat.toDigits 10 d.digits).take n) :=
    hds.of_subset (List.take_subset _ _)
  have hdrop (n : Nat) : Unquoted ((Nat.toDigits 10 d.digits).drop n) :=
    hds.of_subset (List.drop_subset _ _)
  have hzeros (n : Nat) : Unquoted (List.replicate n '0') := unquoted_replicate (by decide) n
  have hexponent (n : Int) : Unquoted (Decimal.Style.sql.exponent n) := by
    unfold Decimal.Style.exponent
    split
    · exact .cons (by decide) (unquoted_toDigits _)
    · exact unquoted_toDigits _
  unfold Decimal.Style.digits
  split
  · decide
  · dsimp only
    split_ifs
    · exact (hds.append (hzeros _)).append (by decide)
    · exact (htake _).append (.cons (by decide) (hdrop _))
    · exact .cons (by decide) (.cons (by decide) ((hzeros _).append hds))
    · exact ((htake _).append (by decide)).append (.cons (by decide) (hexponent _))
    · exact ((htake _).append (.cons (by decide) (hdrop _))).append (.cons (by decide)
        (hexponent _))

theorem unquoted_floatText (x : Float) : Unquoted (floatText x).toList := by
  unfold floatText Decimal.Style.render?
  cases Decimal.Binary.ofFloat? x with
  | none => decide
  | some b =>
    have hdigits := unquoted_digits b.shortest
    rw [Option.map_some, Option.getD_some, Decimal.Style.binary, String.toList_ofList]
    unfold Decimal.signed
    split
    · exact .cons (by decide) hdigits
    · exact hdigits

theorem unquoted_upper {s : String} (h : Unquoted s.toList) : Unquoted (Text.upper s).toList := by
  intro c hc
  by_contra hquote
  have hlt : 0 < c.toNat ∧ c.toNat < 0x41 := by
    obtain rfl | rfl := isQuote_iff.1 (by simpa using hquote) <;> decide
  exact hquote (h c (Text.mem_upper_of_lt hc hlt.1 hlt.2))

theorem Keyword.unquoted_text (k : Keyword) : Unquoted k.text.toList := by cases k <;> decide

theorem Symbol.unquoted_text (s : Symbol) : Unquoted s.text.toList := by cases s <;> decide

theorem LiteralType.unquoted_text (type : LiteralType) : Unquoted type.text.toList := by
  cases type <;> decide

end Characters

namespace Token

/-- The pieces that a token is to be found as. -/
def pieces (d : Dialect) : Token → List Piece
  | .ident name => [.quoted '"' name.toList]
  | .string s => [.quoted '\'' s.toList]
  | .typed type s => (type.text.toList ++ [' ']).map .plain ++ [.quoted '\'' s.toList]
  | t => (t.chars d).map .plain

/-- The quote and the content of a quoted token. -/
def quoted? : Token → Option (Char × String)
  | .ident name => some ('"', name)
  | .string s | .typed _ s => some ('\'', s)
  | _ => none

/-- Names of functions are not quoted, so they must not hold quotes. -/
def NamesUnquoted : Token → Prop
  | .function name => Unquoted name.toList
  | _ => True

variable {d : Dialect} {t : Token}

theorem unquoted_chars (h : t.isQuoted = false) (hn : t.NamesUnquoted) : Unquoted (t.chars d) := by
  cases t with
  | keyword k => exact k.unquoted_text
  | symbol s => exact s.unquoted_text
  | space | newline => exact .cons (by decide) (by decide)
  | indent depth => exact unquoted_replicate (by decide) _
  | ident | string | typed => contradiction
  | int n => exact unquoted_int n
  | float x => exact unquoted_floatText x
  | param index => exact .cons (by cases d <;> decide) (unquoted_toDigits index)
  | likeAnyCase => cases d <;> decide
  | function name => exact unquoted_upper hn

theorem head?_chars (ht : t.isBreak) : ∃ c ∈ (t.chars d).head?, isQuote c = false := by
  cases t with
  | space | newline => exact ⟨_, rfl, by decide⟩
  | symbol s => cases s <;> exact ⟨_, rfl, by decide⟩
  | _ => contradiction

theorem filterMap_pieces : (t.pieces d).filterMap Piece.quoted? = t.quoted?.toList := by
  have plain (cs : List Char) : (cs.map Piece.plain).filterMap Piece.quoted? = [] := by
    simp [List.filterMap_map, Function.comp_def, Piece.quoted?]
  cases t with
  | ident name | string s => simp [pieces, quoted?, Piece.quoted?]
  | typed type s =>
    simp only [pieces, List.filterMap_append, plain]
    simp [quoted?, Piece.quoted?]
  | _ => exact plain _

/-- A token is found as its pieces, unless it ends with a quote and another one follows. -/
theorem scan_chars (hn : t.NamesUnquoted) {rest : List Char}
    (h : t.isQuoted → ∀ c ∈ rest.head?, isQuote c = false) :
    Place.outside.scan (t.chars d ++ rest) = (Place.outside.scan rest).map (t.pieces d ++ ·) := by
  have behind {q : Char} (hq : isQuote q) (ht : t.isQuoted) (text : String) :
      Place.outside.scan (quote q text ++ rest) =
        (Place.outside.scan rest).map (.quoted q text.toList :: ·) := by
    rw [Place.scan_quote hq]
    refine Place.scan_behind fun c hc => ?_
    rintro rfl
    simp [h ht c hc] at hq
  cases t with
  | ident name => exact behind (by decide) rfl name
  | string s => exact behind (by decide) rfl s
  | typed type s =>
    have hname : Unquoted (type.text.toList ++ [' ']) := type.unquoted_text.append (by decide)
    have hsplit : (Token.typed type s).chars d ++ rest = (type.text.toList ++ [' ']) ++
        (quote '\'' s ++ rest) := by
      simp [chars]
    rw [hsplit, Place.scan_plain hname, behind (by decide) rfl, Option.map_map]
    simp [pieces, Function.comp_def]
  | _ => exact Place.scan_plain (unquoted_chars rfl hn)

end Token

/-- The text between any quotes and their place in the SQL: a scan finds the pieces of the
tokens. -/
def Scans (d : Dialect) (ts : List Token) : Prop :=
  ∀ rest : List Char, (∀ c ∈ rest.head?, isQuote c = false) →
  Place.outside.scan (ts.flatMap (Token.chars d) ++ rest) =
    (Place.outside.scan rest).map (ts.flatMap (Token.pieces d) ++ ·)

namespace Scans

variable {d : Dialect} {a b ts : List Token} {t : Token}

theorem nil : Scans d [] := by simp [Scans]

theorem single (hn : t.NamesUnquoted) : Scans d [t] := by
  intro rest hrest
  simpa using Token.scan_chars hn fun _ => hrest

theorem cons (hn : t.NamesUnquoted) (hq : t.isQuoted = false) (h : Scans d ts) :
    Scans d (t :: ts) := by
  intro rest hrest
  rw [List.flatMap_cons, List.append_assoc, Token.scan_chars hn (by simp [hq]), h rest hrest,
    Option.map_map]
  simp [Function.comp_def]

/-- A break keeps a quoted token apart from what follows. -/
theorem append (ha : Scans d a) (hb : Scans d b) (h : ∀ t ∈ b.head?, t.isBreak) :
    Scans d (a ++ b) := by
  intro rest hrest
  have hbreak : ∀ c ∈ (b.flatMap (Token.chars d) ++ rest).head?, isQuote c = false := by
    cases b with
    | nil => exact hrest
    | cons t b =>
      obtain ⟨c, hc, hquote⟩ := Token.head?_chars (d := d) (h t rfl)
      rw [List.flatMap_cons, List.append_assoc, List.head?_append, hc]
      simpa using hquote
  rw [List.flatMap_append, List.append_assoc, ha _ hbreak, hb rest hrest, Option.map_map]
  simp [Function.comp_def]

end Scans

theorem Composed.scans {d : Dialect} {ts : List Token} (h : Composed ts)
    (hn : ∀ t ∈ ts, t.NamesUnquoted) :
    Scans d ts := by
  have word (k : Keyword) : (Token.keyword k).NamesUnquoted := trivial
  have symbol (s : Symbol) : (Token.symbol s).NamesUnquoted := trivial
  induction h with
  | nil => exact Scans.nil
  | single => exact Scans.single (hn _ (by simp))
  | cons hb hq h ih =>
    obtain ⟨ht, hts⟩ := List.forall_mem_cons.1 hn
    exact Scans.cons ht hq (ih hts)
  | append ha hb h iha ihb =>
    obtain ⟨hna, hnb⟩ := List.forall_mem_append.1 hn
    exact (iha hna).append (ihb hnb) h
  | parens h ih =>
    have hts := ih fun t ht => hn t (by simp [Sql.parens, ht])
    exact Scans.cons (symbol _) rfl (hts.append (Scans.single (symbol _)) (by simp [Token.isBreak]))
  | block h ih =>
    have hts := ih fun t ht => hn t (by simp [ht])
    have hend := Scans.cons (d := d) (t := .space) trivial rfl (Scans.single (word .end'))
    exact Scans.cons (word _) rfl (hts.append hend (by simp [Token.isBreak]))

/-- A function is called by a name without quotes. -/
def Expr.NamesUnquoted : Expr → Prop
  | .call name _ _ => Unquoted name.toList
  | _ => True

def Query.NamesUnquoted (q : Query) : Prop := ∀ e ∈ q.exprs, e.All Expr.NamesUnquoted

section Names

variable {d : Dialect}

theorem namesUnquoted_layout : ∀ t ∈ layout, t.NamesUnquoted := by
  simp [layout, Token.NamesUnquoted]

theorem Query.namesUnquoted_frame (q : Query) (multiline : Bool) :
    ∀ t ∈ q.frame multiline, t.NamesUnquoted :=
  forall_mem_frame namesUnquoted_layout (by cases multiline <;> simp [breaks, Token.NamesUnquoted])
    (fun _ _ => trivial) (fun _ => trivial) (fun _ => trivial)

theorem Dialect.namesUnquoted_timeWords : ∀ t ∈ d.timeWords, t.NamesUnquoted := by
  have typeOf : Unquoted "TYPEOF".toList := by decide
  have strftime : Unquoted "STRFTIME".toList := by decide
  have printf : Unquoted "PRINTF".toList := by decide
  have dateTrunc : Unquoted "DATE_TRUNC".toList := by decide
  have dateBin : Unquoted "DATE_BIN".toList := by decide
  cases d <;> simp only [timeWords, caseWords, List.forall_mem_append, List.forall_mem_cons,
    Token.NamesUnquoted, typeOf, strftime, printf, dateTrunc, dateBin, List.not_mem_nil,
    IsEmpty.forall_iff, implies_true, and_self]

theorem Expr.NamesUnquoted.frame {e : Expr} (h : e.NamesUnquoted) :
    ∀ t ∈ e.frame d, t.NamesUnquoted := by
  have word {k : Keyword} {negated : Bool} : ∀ t ∈ .keyword k :: negation negated,
      t.NamesUnquoted := by
    cases negated <;> simp [negation, Token.NamesUnquoted]
  cases e with
  | column table name => cases table <;> simp [Expr.frame, columnTokens, Token.NamesUnquoted]
  | literal l => cases l <;> simp [Expr.frame, Literal.token, Token.NamesUnquoted]
  | binary op => cases op <;> simp [Expr.frame, BinOp.token, Token.NamesUnquoted]
  | call name distinct args =>
    refine List.forall_mem_cons.2 ⟨h, ?_⟩
    cases distinct <;> simp [Token.NamesUnquoted]
  | inList x values negated =>
    cases values with
    | nil => simp [Expr.frame, Token.NamesUnquoted]
    | cons v vs => exact word
  | inQuery x query negated =>
    exact List.forall_mem_append.2 ⟨word, query.namesUnquoted_frame false⟩
  | between x low high negated => exact List.forall_mem_cons.2 ⟨trivial, word⟩
  | like x pattern escape anyCase => cases anyCase <;> simp [Expr.frame, Token.NamesUnquoted]
  | bucket | timestamp => exact Dialect.namesUnquoted_timeWords
  | _ => simp [Expr.frame, caseWords, Token.NamesUnquoted]

theorem Expr.namesUnquoted_tokens {e : Expr} (h : e.All Expr.NamesUnquoted) :
    ∀ t ∈ e.tokens d, t.NamesUnquoted :=
  forall_mem_tokens namesUnquoted_layout fun n hn => (h n hn).frame

theorem Query.namesUnquoted_tokens {q : Query} (h : q.NamesUnquoted) (multiline : Bool) :
    ∀ t ∈ q.tokens d multiline, t.NamesUnquoted :=
  forall_mem_tokens namesUnquoted_layout (q.namesUnquoted_frame multiline) fun e he =>
    e.namesUnquoted_tokens (h e he)

end Names

/-- A scan of the text finds the quoted tokens, in order and with their contents, and between them
the other tokens as they are written. -/
structure Scanned (d : Dialect) (ts : List Token) (text : String) : Prop where
  pieces : pieces? text = some (ts.flatMap (Token.pieces d))
  quoted : (pieces? text).map (List.filterMap Piece.quoted?) = some (ts.filterMap Token.quoted?)

theorem Composed.scanned {d : Dialect} {ts : List Token} (h : Composed ts)
    (hn : ∀ t ∈ ts, t.NamesUnquoted) :
    Scanned d ts (serialize d ts) := by
  have hpieces : pieces? (serialize d ts) = some (ts.flatMap (Token.pieces d)) := by
    have hscan := h.scans (d := d) hn [] (by simp)
    simpa [pieces?, serialize, Place.scan] using hscan
  refine ⟨hpieces, ?_⟩
  rw [hpieces, Option.map_some, List.filterMap_flatMap, List.filterMap_eq_flatMap_toList]
  simp only [Token.filterMap_pieces]

/-- No name and no escape character can break out of its quotes, whatever stands in it. -/
theorem scanned_toSql (d : Dialect) :
    (∀ e : Expr, e.All Expr.NamesUnquoted → Scanned d (e.tokens d) (e.toSql d)) ∧
      ∀ q : Query, q.NamesUnquoted →
        Scanned d (q.tokens d true) (q.toSql d) ∧ Scanned d (q.tokens d false) (q.toSqlLine d) := by
  refine ⟨fun e he => (e.composed_tokens d).scanned (e.namesUnquoted_tokens he), fun q hq => ?_⟩
  exact ⟨(q.composed_tokens d true).scanned (q.namesUnquoted_tokens hq true),
    (q.composed_tokens d false).scanned (q.namesUnquoted_tokens hq false)⟩

/-- Quotes alone, at the ends of names and as the escape character. -/
def quoteMarks : Query where
  select :=
    [⟨.like (.qualified "a\"" "''") (.param 1) '\'' true, none⟩,
      ⟨.bucket (.col "b") .fiveMinutes, some "\""⟩]
  source := some "'"
  joins := []
  filter := some (.isNull (.apply "max" [.col ""]) false)
  groupBy := []
  orderBy := []
  limit := none

theorem scanned_toSql_quoteMarks : quoteMarks.NamesUnquoted ∧
    (pieces? (quoteMarks.toSql .postgres)).map (List.filterMap Piece.quoted?) = some
      [('"', "a\""), ('"', "''"), ('\'', "'"), ('\'', "5 minutes"), ('"', "b"),
      ('\'', "2000-01-03 00:00:00"),
        ('"', "\""), ('"', "'"), ('"', "")] := by
  have h : quoteMarks.NamesUnquoted := by
    suffices Unquoted ['m', 'a', 'x'] by
      simpa [Query.NamesUnquoted, Query.exprs, quoteMarks, Expr.NamesUnquoted, Expr.qualified,
        Expr.col, Expr.apply]
    decide
  exact ⟨h, (((scanned_toSql .postgres).2 quoteMarks h).1).quoted⟩

end IncidentBoard.Sql
