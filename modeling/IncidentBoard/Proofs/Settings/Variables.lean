import IncidentBoard.Settings.Variables
import Mathlib.Data.List.Basic
import Mathlib.Data.List.TakeWhile

/-! Which references a text has, and what is left of it when they are replaced. Between braces a
name ends at the first closing one; what is not settled is a brace that nothing closes. -/
namespace IncidentBoard.Settings

/-- What a brace behind a dollar sign is if nothing closes it: a character like any other, or the
start of a name that lasts to the end of the text. -/
inductive Unclosed
  | character | name
  deriving DecidableEq

/-- A text begins with a piece, and `rest` is behind it. -/
inductive Begins (u : Unclosed) : List Char → Piece → List Char → Prop
  | char {c : Char} {rest : List Char} (hc : c ≠ '$') : Begins u (c :: rest) (.char c) rest
  | braced {name rest : List Char} (hname : '\x7d' ∉ name) :
    Begins u ('$' :: '\x7b' :: (name ++ '\x7d' :: rest)) (.reference (String.ofList name)) rest
  | bare {name rest : List Char} (hne : name ≠ []) (hname : ∀ c ∈ name, isNameChar c)
    (hrest : ∀ c ∈ rest.head?, ¬ isNameChar c) :
    Begins u ('$' :: (name ++ rest)) (.reference (String.ofList name)) rest
  | lone {rest : List Char} (hrest : ∀ c ∈ rest.head?, c ≠ '\x7b' ∧ ¬ isNameChar c) :
    Begins u ('$' :: rest) (.char '$') rest
  | stray {rest : List Char} (hu : u = .character) (hrest : '\x7d' ∉ rest) :
    Begins u ('$' :: '\x7b' :: rest) (.char '$') ('\x7b' :: rest)
  | toEnd {name : List Char} (hu : u = .name) (hname : '\x7d' ∉ name) :
    Begins u ('$' :: '\x7b' :: name) (.reference (String.ofList name)) []

/-- A text is read as pieces, from left to right. -/
inductive Reads (u : Unclosed) : List Char → List Piece → Prop
  | nil : Reads u [] []
  | cons {cs rest : List Char} {p : Piece} {ps : List Piece} (first : Begins u cs p rest)
      (later : Reads u rest ps) :
    Reads u cs (p :: ps)

/-- Every brace behind a dollar sign is closed somewhere. -/
def Closes (cs : List Char) : Prop := ∀ name, '$' :: '\x7b' :: name <:+ cs → '\x7d' ∈ name

section Steps

variable {u : Unclosed} {cs rest rest' name : List Char} {p : Piece} {ps : List Piece}

/-- The piece that a text begins with, and what is behind it. -/
def firstPiece (u : Unclosed) : List Char → Option (Piece × List Char)
  | [] => none
  | c :: rest =>
    if c = '$' then
      if rest.head? = some '\x7b' then
        if '\x7d' ∈ rest.tail then
          some (.reference (String.ofList (rest.tail.takeWhile (· ≠ '\x7d'))),
            (rest.tail.dropWhile (· ≠ '\x7d')).drop 1)
        else if u = .character then some (.char c, rest)
        else some (.reference (String.ofList rest.tail), [])
      else if (rest.takeWhile isNameChar).isEmpty then some (.char c, rest)
      else some (.reference (String.ofList (rest.takeWhile isNameChar)), rest.dropWhile isNameChar)
    else some (.char c, rest)

theorem takeWhile_of_head? (h : ∀ c ∈ rest.head?, ¬ isNameChar c) :
    rest.takeWhile isNameChar = [] := by
  cases rest with
  | nil => rfl
  | cons c rest => exact List.takeWhile_cons_of_neg (h c rfl)

theorem dropWhile_of_head? (h : ∀ c ∈ rest.head?, ¬ isNameChar c) :
    rest.dropWhile isNameChar = rest := by
  cases rest with
  | nil => rfl
  | cons c rest => exact List.dropWhile_cons_of_neg (h c rfl)

theorem takeWhile_closing (h : '\x7d' ∉ name) (rest : List Char) :
    (name ++ '\x7d' :: rest).takeWhile (· ≠ '\x7d') = name := by
  rw [List.takeWhile_append_of_pos, List.takeWhile_cons_of_neg (by simp), List.append_nil]
  exact fun c hc => decide_eq_true fun heq => h (heq ▸ hc)

theorem dropWhile_closing (h : '\x7d' ∉ name) (rest : List Char) :
    (name ++ '\x7d' :: rest).dropWhile (· ≠ '\x7d') = '\x7d' :: rest := by
  rw [List.dropWhile_append_of_pos, List.dropWhile_cons_of_neg (by simp)]
  exact fun c hc => decide_eq_true fun heq => h (heq ▸ hc)

theorem not_isNameChar_dollar : ¬ isNameChar '$' := by decide

theorem not_isNameChar_brace : ¬ isNameChar '\x7b' := by decide

theorem Begins.firstPiece_eq (h : Begins u cs p rest) : firstPiece u cs = some (p, rest) := by
  cases h with
  | char hc => rw [firstPiece, if_neg hc]
  | braced hname =>
    rw [firstPiece, if_pos rfl, List.head?_cons, if_pos rfl, List.tail_cons, if_pos (by simp),
      takeWhile_closing hname, dropWhile_closing hname, List.drop_one, List.tail_cons]
  | @bare name rest hne hname hrest =>
    have hhead : (name ++ rest).head? ≠ some '\x7b' := by
      obtain ⟨c, name, rfl⟩ := List.exists_cons_of_ne_nil hne
      intro heq
      obtain rfl : c = '\x7b' := Option.some.inj heq
      exact not_isNameChar_brace (hname _ List.mem_cons_self)
    rw [firstPiece, if_pos rfl, if_neg hhead, List.takeWhile_append_of_pos hname,
      takeWhile_of_head? hrest, List.append_nil, List.dropWhile_append_of_pos hname,
      dropWhile_of_head? hrest]
    simp [hne]
  | lone hrest =>
    have hhead : rest.head? ≠ some '\x7b' := fun heq => (hrest _ heq).1 rfl
    have hname := takeWhile_of_head? fun c hc => (hrest c hc).2
    simp [firstPiece, hhead, hname]
  | stray hu hrest => simp [firstPiece, hu, hrest]
  | toEnd hu hname => simp [firstPiece, hu, hname]

theorem exists_begins (u : Unclosed) (c : Char) (cs : List Char) :
    ∃ p rest, Begins u (c :: cs) p rest := by
  by_cases hc : c = '$'
  · subst hc
    by_cases hhead : cs.head? = some '\x7b'
    · obtain ⟨rest, rfl⟩ := List.head?_eq_some_iff.1 hhead
      by_cases hclosed : '\x7d' ∈ rest
      · obtain ⟨name, rest, rfl, hname⟩ := List.eq_append_cons_of_mem hclosed
        exact ⟨_, _, .braced hname⟩
      · cases u with
        | character => exact ⟨_, _, .stray rfl hclosed⟩
        | name => exact ⟨_, _, .toEnd rfl hclosed⟩
    · have hsplit : cs.takeWhile isNameChar ++ cs.dropWhile isNameChar = cs :=
        List.takeWhile_append_dropWhile
      by_cases hname : cs.takeWhile isNameChar = []
      · refine ⟨_, _, .lone fun c hc => ⟨?_, ?_⟩⟩
        · rintro rfl
          exact hhead hc
        · obtain ⟨rest, rfl⟩ := List.head?_eq_some_iff.1 hc
          intro hn
          rw [List.takeWhile_cons_of_pos hn] at hname
          cases hname
      · have hend : ∀ c ∈ (cs.dropWhile isNameChar).head?, ¬ isNameChar c := by
          intro c hc hn
          have hlast := List.head?_dropWhile_not isNameChar cs
          rw [Option.mem_def.1 hc] at hlast
          exact absurd hn (by simpa using hlast)
        have hbegins : Begins u ('$' :: (cs.takeWhile isNameChar ++ cs.dropWhile isNameChar)) _ _ :=
          .bare hname (fun c hc => by simpa using List.mem_takeWhile_imp hc) hend
        rw [hsplit] at hbegins
        exact ⟨_, _, hbegins⟩
  · exact ⟨_, _, .char hc⟩

theorem Begins.suffix (h : Begins u cs p rest) : rest <:+ cs := by
  cases h with
  | char => exact List.suffix_cons _ _
  | @braced name rest => exact ⟨'$' :: '\x7b' :: (name ++ ['\x7d']), by simp⟩
  | @bare name rest => exact ⟨'$' :: name, rfl⟩
  | lone => exact List.suffix_cons _ _
  | stray => exact List.suffix_cons _ _
  | toEnd => exact List.nil_suffix

theorem Begins.length_lt (h : Begins u cs p rest) : rest.length < cs.length := by
  cases h <;> simp only [List.length_cons, List.length_append, List.length_nil] <;> omega

/-- A text begins with one piece only. -/
theorem Begins.unique {p' : Piece} (h : Begins u cs p rest) (h' : Begins u cs p' rest') :
    p = p' ∧ rest = rest' := by
  have heq := h.firstPiece_eq.symm.trans h'.firstPiece_eq
  rwa [Option.some.injEq, Prod.mk.injEq] at heq

theorem pieces_eq_cons (h : Begins .name cs p rest) : pieces cs = p :: pieces rest := by
  have hfirst := h.firstPiece_eq
  cases cs with
  | nil => cases hfirst
  | cons c cs =>
    rw [firstPiece] at hfirst
    rw [pieces]
    dsimp only
    split_ifs at hfirst ⊢ with hc hbrace hclosed hu hname
    · cases hfirst
      rfl
    · cases hu
    · -- the name is all that is left
      have hne : ∀ x ∈ cs.tail, decide (x ≠ '\x7d') = true :=
        fun x hx => decide_eq_true fun heq => hclosed (heq ▸ hx)
      cases hfirst
      rw [List.takeWhile_eq_self_iff.2 hne, List.dropWhile_eq_nil_iff.2 hne, List.drop_nil]
    all_goals
      cases hfirst
      rfl

end Steps

section Runs

variable {u : Unclosed} {cs : List Char} {ps ps' : List Piece}

theorem Reads.unique (h : Reads u cs ps) (h' : Reads u cs ps') : ps = ps' := by
  induction h generalizing ps' with
  | nil =>
    cases h' with
    | nil => rfl
    | cons first _ => cases first
  | cons first _ ih =>
    cases h' with
    | nil => cases first
    | cons first' later =>
      obtain ⟨rfl, rfl⟩ := first.unique first'
      rw [ih later]

theorem exists_reads (u : Unclosed) (cs : List Char) : ∃ ps, Reads u cs ps := by
  induction h : cs.length using Nat.strongRecOn generalizing cs with
  | ind n ih =>
    subst h
    cases cs with
    | nil => exact ⟨[], .nil⟩
    | cons c cs =>
      obtain ⟨p, rest, first⟩ := exists_begins u c cs
      obtain ⟨ps, later⟩ := ih _ first.length_lt rest rfl
      exact ⟨p :: ps, .cons first later⟩

theorem Reads.pieces_eq (h : Reads .name cs ps) : pieces cs = ps := by
  induction h with
  | nil => rw [pieces]
  | cons first _ ih => rw [pieces_eq_cons first, ih]

theorem reads_pieces (cs : List Char) : Reads .name cs (pieces cs) := by
  obtain ⟨ps, h⟩ := exists_reads .name cs
  exact h.pieces_eq ▸ h

/-! Where every brace is closed, and only there, it does not matter what others are. -/

theorem Begins.character {rest : List Char} {p : Piece} (hcs : Closes cs)
    (h : Begins .name cs p rest) :
    Begins .character cs p rest := by
  cases h with
  | char hc => exact .char hc
  | braced hname => exact .braced hname
  | bare hne hname hrest => exact .bare hne hname hrest
  | lone hrest => exact .lone hrest
  | stray hu => cases hu
  | toEnd _ hname => exact absurd (hcs _ List.suffix_rfl) hname

theorem Reads.character (hcs : Closes cs) (h : Reads .name cs ps) : Reads .character cs ps := by
  induction h with
  | nil => exact .nil
  | cons first _ ih =>
    exact .cons (first.character hcs) (ih fun name hname => hcs name (hname.trans first.suffix))

/-- No brace opens within a bare name. -/
theorem closes_of_bare {name rest : List Char} (hne : name ≠ []) (hname : ∀ c ∈ name, isNameChar c)
    (hrest : Closes rest) : Closes ('$' :: (name ++ rest)) := by
  intro tail htail
  rcases List.suffix_cons_iff.1 htail with heq | htail
  · obtain ⟨c, name, rfl⟩ := List.exists_cons_of_ne_nil hne
    rw [List.cons.injEq, List.cons_append, List.cons.injEq] at heq
    exact absurd (heq.2.1 ▸ hname c List.mem_cons_self) not_isNameChar_brace
  · obtain ⟨before, heq⟩ := htail
    rcases List.append_eq_append_iff.1 heq with ⟨inner, hinner, htail⟩ | ⟨inner, -, hinner⟩
    · cases inner with
      | nil => exact hrest tail (htail ▸ List.suffix_rfl)
      | cons c inner =>
        obtain rfl : '$' = c := (List.cons.inj htail).1
        exact absurd (hname '$' (by simp [hinner])) not_isNameChar_dollar
    · exact hrest tail ⟨inner, hinner.symm⟩

theorem Begins.closes {rest rest' : List Char} {p : Piece} (h : Begins .character cs p rest)
    (h' : Begins .name cs p rest') : rest = rest' ∧ (Closes rest → Closes cs) := by
  cases h with
  | char hc =>
    refine ⟨(Begins.unique (.char hc) h').2, fun hrest name hname => ?_⟩
    rcases List.suffix_cons_iff.1 hname with heq | hname
    · exact absurd (List.cons.inj heq).1.symm hc
    · exact hrest name hname
  | @braced opened rest hopened =>
    refine ⟨(Begins.unique (.braced hopened) h').2, fun hrest name hname => ?_⟩
    have hclosing : '\x7d' :: rest <:+ '$' :: '\x7b' :: (opened ++ '\x7d' :: rest) :=
      ⟨'$' :: '\x7b' :: opened, rfl⟩
    rcases List.suffix_or_suffix_of_suffix hname hclosing with hlater | hearlier
    · rcases List.suffix_cons_iff.1 hlater with heq | hlater
      · cases heq
      · exact hrest name hlater
    · simpa using hearlier.subset List.mem_cons_self
  | bare hne hname hend =>
    exact ⟨(Begins.unique (.bare hne hname hend) h').2, closes_of_bare hne hname⟩
  | lone hend =>
    refine ⟨(Begins.unique (.lone hend) h').2, fun hrest name hname => ?_⟩
    rcases List.suffix_cons_iff.1 hname with heq | hname
    · rw [List.cons.injEq] at heq
      exact absurd rfl (hend '\x7b' (heq.2 ▸ rfl)).1
    · exact hrest name hname
  | stray _ hend => cases (Begins.unique (.toEnd rfl hend) h').1
  | toEnd hu => cases hu

theorem Reads.closes (h : Reads .character cs ps) (h' : Reads .name cs ps) : Closes cs := by
  induction h with
  | nil => exact fun name hname => absurd (List.suffix_nil.1 hname) (List.cons_ne_nil _ _)
  | cons first later ih =>
    cases h' with
    | cons first' later' =>
      obtain ⟨rfl, hcloses⟩ := first.closes first'
      exact hcloses (ih later')

/-- An open brace is taken as it is documented exactly if there is none. -/
theorem reads_character_pieces_iff : Reads .character cs (pieces cs) ↔ Closes cs :=
  ⟨fun h => h.closes (reads_pieces cs), (reads_pieces cs).character⟩

end Runs

/-- What takes the place of a piece. -/
def Piece.value (env : Environment) : Piece → List Char
  | .char c => [c]
  | .reference name => ((env name).getD "").toList

/-- A variable is missing, and all that pieces before it refer to are set. -/
def FirstMissing (env : Environment) (ps : List Piece) (name : String) : Prop :=
  ∃ before after, ps = before ++ .reference name :: after ∧ env name = none ∧
    ∀ earlier, .reference earlier ∈ before → (env earlier).isSome

/-- All pieces are replaced by their values, or the first variable among them that is missing is the
error. -/
structure Outcome (env : Environment) (ps : List Piece) (result : Except String String) : Prop where
  ok : (∀ name, .reference name ∈ ps → (env name).isSome) →
    result = .ok (String.ofList (ps.flatMap (Piece.value env)))
  error : ∀ name, result = .error name ↔ FirstMissing env ps name

section Filling

variable {env : Environment} {p : Piece} {ps : List Piece} {name : String}

theorem not_firstMissing_nil : ¬ FirstMissing env [] name := by
  rintro ⟨before, after, heq, -⟩
  cases before <;> cases heq

theorem firstMissing_cons : FirstMissing env (p :: ps) name ↔
    p = .reference name ∧ env name = none ∨
      (∀ earlier, p = .reference earlier → (env earlier).isSome) ∧ FirstMissing env ps name := by
  constructor
  · rintro ⟨before, after, heq, hmissing, hset⟩
    cases before with
    | nil => exact .inl ⟨(List.cons.inj heq).1, hmissing⟩
    | cons q before =>
      obtain ⟨rfl, rfl⟩ := List.cons.inj heq
      refine .inr ⟨fun earlier hp => hset earlier (hp ▸ List.mem_cons_self), before, after,
        rfl, hmissing, ?_⟩
      exact fun earlier hearlier => hset earlier (List.mem_cons_of_mem _ hearlier)
  · rintro (⟨rfl, hmissing⟩ | ⟨hp, before, after, rfl, hmissing, hset⟩)
    · exact ⟨[], ps, rfl, hmissing, by simp⟩
    · refine ⟨p :: before, after, rfl, hmissing, fun earlier hearlier => ?_⟩
      rcases List.mem_cons.1 hearlier with heq | hearlier
      · exact hp earlier heq.symm
      · exact hset earlier hearlier

theorem fill_eq_ok (h : ∀ name, .reference name ∈ ps → (env name).isSome) :
    fill env ps = .ok (ps.flatMap (Piece.value env)) := by
  induction ps with
  | nil => rfl
  | cons p ps ih =>
    have hps := ih fun name hname => h name (List.mem_cons_of_mem _ hname)
    cases p with
    | char c =>
      rw [fill, hps]
      rfl
    | reference name =>
      obtain ⟨value, hvalue⟩ := Option.isSome_iff_exists.1 (h name List.mem_cons_self)
      rw [fill, hvalue, hps]
      simp [Except.map, Piece.value, hvalue]

theorem map_eq_error {α β : Type} {f : α → β} {r : Except String α} :
    r.map f = .error name ↔ r = .error name := by
  cases r <;> simp [Except.map]

theorem fill_eq_error : fill env ps = .error name ↔ FirstMissing env ps name := by
  induction ps with
  | nil => simp [fill, not_firstMissing_nil]
  | cons p ps ih =>
    rw [firstMissing_cons]
    cases p with
    | char c =>
      rw [fill, map_eq_error, ih]
      simp
    | reference first =>
      rw [fill]
      simp only [Piece.reference.injEq, forall_eq']
      cases hfirst : env first with
      | none =>
        rw [Except.error.injEq]
        refine ⟨?_, ?_⟩
        · rintro rfl
          exact .inl ⟨rfl, hfirst⟩
        · rintro (⟨heq, -⟩ | ⟨hset, -⟩)
          · exact heq
          · cases hset
      | some value =>
        dsimp only
        rw [map_eq_error, ih]
        refine ⟨fun h => .inr ⟨rfl, h⟩, ?_⟩
        rintro (⟨rfl, hmissing⟩ | ⟨-, h⟩)
        · rw [hfirst] at hmissing
          cases hmissing
        · exact h

theorem outcome_fill (env : Environment) (ps : List Piece) :
    Outcome env ps ((fill env ps).map String.ofList) where
  ok h := by
    rw [fill_eq_ok h]
    rfl
  error _ := map_eq_error.trans fill_eq_error

end Filling

/-- References are replaced as documented in every text that closes its braces; in others, the first
brace that nothing closes takes all that is behind it as a name. -/
theorem outcome_of_expand (env : Environment) (s : String) :
    (∃! ps, Reads .character s.toList ps) ∧ ∃ ps, (∀ ps', Reads .name s.toList ps' ↔ ps' = ps) ∧
      Outcome env ps (expand env s) ∧ (Reads .character s.toList ps ↔ Closes s.toList) := by
  obtain ⟨documented, hdocumented⟩ := exists_reads .character s.toList
  refine ⟨⟨documented, hdocumented, fun ps h => h.unique hdocumented⟩, pieces s.toList, fun ps =>
    ⟨?_, ?_⟩, ?_, ?_⟩
  · exact fun h => h.pieces_eq.symm
  · rintro rfl
    exact reads_pieces s.toList
  · exact outcome_fill env (pieces s.toList)
  · exact reads_character_pieces_iff

/-- A brace that nothing closes is a character, but `A` behind it is replaced. -/
theorem exists_replaced_unclosed : ∃ env ps, Reads .character "$\x7bA".toList ps ∧
    (∀ name, .reference name ∉ ps) ∧ expand env "$\x7bA" = .ok "x" ∧
      ¬ Outcome env ps (expand env "$\x7bA") := by
  let env : Environment := fun name => if name = "A" then some "x" else none
  have hreads : Reads .character "$\x7bA".toList [.char '$', .char '\x7b', .char 'A'] :=
    .cons (.stray rfl (by decide)) (.cons (.char (by decide)) (.cons (.char (by decide)) .nil))
  have hexpand : expand env "$\x7bA" = .ok "x" := by
    have hpieces : Reads .name "$\x7bA".toList [.reference "A"] :=
      .cons (.toEnd rfl (by decide)) .nil
    rw [expand, hpieces.pieces_eq]
    rfl
  refine ⟨env, _, hreads, by simp, hexpand, fun h => ?_⟩
  have hdocumented := h.ok (by simp)
  rw [hexpand, Except.ok.injEq] at hdocumented
  exact absurd hdocumented (by decide)

end IncidentBoard.Settings
