import IncidentBoard.Proofs.Text.ByteOrder

/-! UTF-8: the bytes of texts are read back, and all others stop where no character goes on. -/
namespace IncidentBoard.Text.Utf8

section Bytes

variable {lead b : Nat}

theorem isContinuation_iff : isContinuation b ↔ 0x80 ≤ b ∧ b < 0xc0 := by
  simp only [isContinuation, Bool.and_eq_true, decide_eq_true_eq]

/-- A second byte goes on with its sequence; four lead bytes narrow it down. -/
theorem isSecond_iff : isSecond lead b ↔ (0x80 ≤ b ∧ b < 0xc0) ∧ (lead = 0xe0 → 0xa0 ≤ b) ∧
    (lead = 0xed → b < 0xa0) ∧ (lead = 0xf0 → 0x90 ≤ b) ∧ (lead = 0xf4 → b < 0x90) := by
  unfold isSecond isContinuation
  grind

end Bytes

/-- A character and its bytes as numbers: six bits of it in each byte after the first, and what is
left of them in the first, whose upper bits tell how many there are. -/
inductive Sequence : Char → List Nat → Prop
  | one {a : Nat} (ha : a < 0x80) : Sequence (Char.ofNat a) [a]
  | two {a b : Nat} (ha : 0xc2 ≤ a ∧ a < 0xe0) (hb : isContinuation b) :
      Sequence (Char.ofNat (a % 32 * 64 + b % 64)) [a, b]
  | three {a b c : Nat} (ha : 0xe0 ≤ a ∧ a < 0xf0) (hb : isSecond a b) (hc : isContinuation c) :
      Sequence (Char.ofNat ((a % 16 * 64 + b % 64) * 64 + c % 64)) [a, b, c]
  | four {a b c d : Nat} (ha : 0xf0 ≤ a ∧ a < 0xf5) (hb : isSecond a b) (hc : isContinuation c)
      (hd : isContinuation d) :
      Sequence (Char.ofNat (((a % 8 * 64 + b % 64) * 64 + c % 64) * 64 + d % 64)) [a, b, c, d]

/-- The bytes of a character as numbers. -/
def codes (c : Char) : List Nat := (String.utf8EncodeChar c).map UInt8.toNat

section Sequences

variable {c : Char} {seq : List Nat}

theorem sequence_codes (c : Char) : Sequence c (codes c) := by
  have hc : Char.ofNat c.val.toNat = c := Char.ofNat_toNat c
  have hvalid : c.val.toNat < 0xd800 ∨ 0xdfff < c.val.toNat ∧ c.val.toNat < 0x110000 := c.valid
  rw [codes, String.utf8EncodeChar]
  generalize c.val.toNat = v at *
  have hbyte {n : Nat} (hn : n < 256) : n % 256 = n := Nat.mod_eq_of_lt hn
  have hgoesOn (n : Nat) : isContinuation (n % 64 + 128) := isContinuation_iff.2 (by omega)
  -- One case for each length: the bytes have the bits of the code point in groups of six.
  split
  · simp only [List.map_cons, List.map_nil, UInt8.toNat_ofNat', Nat.reducePow]
    rw [hbyte (by omega), ← hc]
    exact .one (by omega)
  split
  · simp only [List.map_cons, List.map_nil, UInt8.toNat_ofNat', Nat.reducePow]
    have hbits : (v / 64 % 32 + 192) % 32 * 64 + (v % 64 + 128) % 64 = v := by omega
    rw [hbyte (by omega), hbyte (by omega), ← hc]
    nth_rewrite 1 [← hbits]
    exact .two (by omega) (hgoesOn v)
  split
  · simp only [List.map_cons, List.map_nil, UInt8.toNat_ofNat', Nat.reducePow]
    have hsecond : isSecond (v / 4096 % 16 + 224) (v / 64 % 64 + 128) :=
      isSecond_iff.2 (by omega)
    have hbits : ((v / 4096 % 16 + 224) % 16 * 64 + (v / 64 % 64 + 128) % 64) * 64 +
        (v % 64 + 128) % 64 = v := by
      omega
    rw [hbyte (by omega), hbyte (by omega), hbyte (by omega), ← hc]
    nth_rewrite 1 [← hbits]
    exact .three (by omega) hsecond (hgoesOn v)
  · simp only [List.map_cons, List.map_nil, UInt8.toNat_ofNat', Nat.reducePow]
    have hsecond : isSecond (v / 262144 % 8 + 240) (v / 4096 % 64 + 128) :=
      isSecond_iff.2 (by omega)
    have hbits : (((v / 262144 % 8 + 240) % 8 * 64 + (v / 4096 % 64 + 128) % 64) * 64 +
        (v / 64 % 64 + 128) % 64) * 64 + (v % 64 + 128) % 64 = v := by
      omega
    rw [hbyte (by omega), hbyte (by omega), hbyte (by omega), hbyte (by omega), ← hc]
    nth_rewrite 1 [← hbits]
    exact .four (by omega) hsecond (hgoesOn (v / 64)) (hgoesOn v)

theorem val_ofNat {v : Nat} (h : v < 0xd800 ∨ 0xdfff < v ∧ v < 0x110000) :
    (Char.ofNat v).val.toNat = v := by
  rw [Char.ofNat, dif_pos h]
  rfl

/-- The bytes of a character are given by it. -/
theorem Sequence.codes_eq (h : Sequence c seq) : codes c = seq := by
  have hbyte {n : Nat} (hn : n < 256) : n % 256 = n := Nat.mod_eq_of_lt hn
  unfold codes String.utf8EncodeChar
  cases h with
  | one ha =>
    rw [val_ofNat (by omega)]
    dsimp only
    rw [if_pos (by omega)]
    simp only [List.map_cons, List.map_nil, UInt8.toNat_ofNat', Nat.reducePow]
    rw [hbyte (by omega)]
  | two ha hb =>
    have hb := isContinuation_iff.1 hb
    rw [val_ofNat (by omega)]
    dsimp only
    rw [if_neg (by omega), if_pos (by omega)]
    simp only [List.map_cons, List.map_nil, UInt8.toNat_ofNat', Nat.reducePow,
      List.cons.injEq, and_true]
    omega
  | three ha hb hc =>
    have hb := isSecond_iff.1 hb
    have hc := isContinuation_iff.1 hc
    rw [val_ofNat (by omega)]
    dsimp only
    rw [if_neg (by omega), if_neg (by omega), if_pos (by omega)]
    simp only [List.map_cons, List.map_nil, UInt8.toNat_ofNat', Nat.reducePow,
      List.cons.injEq, and_true]
    omega
  | four ha hb hc hd =>
    have hb := isSecond_iff.1 hb
    have hc := isContinuation_iff.1 hc
    have hd := isContinuation_iff.1 hd
    rw [val_ofNat (by omega)]
    dsimp only
    rw [if_neg (by omega), if_neg (by omega), if_neg (by omega)]
    simp only [List.map_cons, List.map_nil, UInt8.toNat_ofNat', Nat.reducePow,
      List.cons.injEq, and_true]
    omega

theorem bind_eq_map {ε α β : Type} (x : Except ε α) (f : α → β) :
    (do let a ← x; return f a) = x.map f := by
  cases x <;> rfl

/-- A character is read off its bytes, whatever follows. -/
theorem Sequence.decodeFrom_append (h : Sequence c seq) (index : Nat) (rest : List Nat) :
    decodeFrom index (seq ++ rest) = (decodeFrom (index + seq.length) rest).map (c :: ·) := by
  rw [← bind_eq_map]
  cases h with
  | one ha =>
    rw [List.cons_append, decodeFrom.eq_def]
    dsimp only
    rw [if_pos ha]
    rfl
  | two ha hb =>
    rw [List.cons_append, decodeFrom.eq_def]
    dsimp only [List.cons_append]
    rw [if_neg (by omega), if_pos ha, hb]
    rfl
  | three ha hb hc =>
    rw [List.cons_append, decodeFrom.eq_def]
    dsimp only [List.cons_append]
    rw [if_neg (by omega), if_neg (by omega), if_pos ha, hb, hc]
    rfl
  | four ha hb hc hd =>
    rw [List.cons_append, decodeFrom.eq_def]
    dsimp only [List.cons_append]
    rw [if_neg (by omega), if_neg (by omega), if_neg (by omega), if_pos ha, hb, hc, hd]
    rfl

end Sequences

section Inversion

variable {ch ch' : Char} {a b c d : Nat} {bs seq seq' more : List Nat}

/-- The first byte tells how many there are. -/
theorem Sequence.lead (h : Sequence ch (a :: more)) :
    (a < 0x80 ∨ 0xc2 ≤ a ∧ a < 0xf5) ∧ (0x80 ≤ a → 1 ≤ more.length) ∧
      (0xe0 ≤ a → 2 ≤ more.length) ∧ (0xf0 ≤ a → 3 ≤ more.length) := by
  cases h <;> simp only [List.length_cons, List.length_nil] <;> omega

theorem Sequence.second (h : Sequence ch (a :: b :: more)) : isSecond a b := by
  cases h with
  | two ha hb =>
    have hb := isContinuation_iff.1 hb
    exact isSecond_iff.2 (by omega)
  | three _ hb _ | four _ hb _ _ => exact hb

theorem Sequence.third (h : Sequence ch (a :: b :: c :: more)) : isContinuation c := by
  cases h <;> assumption

theorem Sequence.fourth (h : Sequence ch (a :: b :: c :: d :: more)) : isContinuation d := by
  cases h
  assumption

/-- A character's bytes are not the first ones of another's. -/
theorem Sequence.eq_of_isPrefix (h : Sequence ch seq) (h' : Sequence ch' seq')
    (hbegin : seq <+: seq') : seq = seq' := by
  cases h <;> cases h' <;> simp [List.cons_prefix_cons] at hbegin ⊢ <;> omega

end Inversion

/-- The first bytes of a character, but not all of them. -/
def Starts (bs : List Nat) : Prop := ∃ ch more, more ≠ [] ∧ codes ch = bs ++ more

/-- No character has these bytes in front, and none stands in front of them. -/
def Blocks (bs : List Nat) : Prop := ∀ ch seq, Sequence ch seq → ¬ seq <+: bs ∧ ¬ bs <+: seq

section Faults

variable {a b c d n : Nat} {bs rest : List Nat} {ch : Char} {seq : List Nat}

theorem Sequence.starts {more : List Nat} (bs : List Nat) (h : Sequence ch (bs ++ more))
    (hmore : more ≠ []) : Starts bs :=
  ⟨ch, more, hmore, h.codes_eq⟩

theorem starts_lead (h : 0xc2 ≤ a ∧ a < 0xf5) : Starts [a] := by
  have hgoesOn : isContinuation 0x80 := rfl
  obtain ⟨b, hb⟩ : ∃ b, isSecond a b := by
    by_cases he0 : a = 0xe0
    · exact ⟨0xa0, isSecond_iff.2 (by omega)⟩
    by_cases hf0 : a = 0xf0
    · exact ⟨0x90, isSecond_iff.2 (by omega)⟩
    · exact ⟨0x80, isSecond_iff.2 (by omega)⟩
  by_cases htwo : a < 0xe0
  · exact (Sequence.two ⟨h.1, htwo⟩ hgoesOn).starts [a] (List.cons_ne_nil _ _)
  by_cases hthree : a < 0xf0
  · exact (Sequence.three (by omega) hb hgoesOn).starts [a] (List.cons_ne_nil _ _)
  · exact (Sequence.four (by omega) hb hgoesOn hgoesOn).starts [a] (List.cons_ne_nil _ _)

theorem starts_second (h : 0xe0 ≤ a ∧ a < 0xf5) (hb : isSecond a b) : Starts [a, b] := by
  have hgoesOn : isContinuation 0x80 := rfl
  by_cases hthree : a < 0xf0
  · exact (Sequence.three (by omega) hb hgoesOn).starts [a, b] (List.cons_ne_nil _ _)
  · exact (Sequence.four (by omega) hb hgoesOn hgoesOn).starts [a, b] (List.cons_ne_nil _ _)

theorem starts_third (h : 0xf0 ≤ a ∧ a < 0xf5) (hb : isSecond a b) (hc : isContinuation c) :
    Starts [a, b, c] :=
  (Sequence.four h hb hc (d := 0x80) rfl).starts [a, b, c] (List.cons_ne_nil _ _)

theorem blocks_of_length (hlength : ∀ ch seq, Sequence ch seq → seq <+: bs → bs.length ≤ seq.length)
    (hno : ∀ ch more, ¬ Sequence ch (bs ++ more)) : Blocks bs := by
  refine fun ch seq hseq => ⟨fun hbegin => ?_, ?_⟩
  · obtain rfl := hbegin.eq_of_length_le (hlength ch seq hseq hbegin)
    exact hno ch [] (by rwa [List.append_nil])
  · rintro ⟨more, rfl⟩
    exact hno ch more hseq

/-- A character in front of bytes has as many as their first one tells. -/
theorem Sequence.le_length (h : Sequence ch seq) (hbegin : seq <+: a :: rest) : 1 ≤ seq.length ∧
    (0x80 ≤ a → 2 ≤ seq.length) ∧ (0xe0 ≤ a → 3 ≤ seq.length) ∧ (0xf0 ≤ a → 4 ≤ seq.length) := by
  cases seq with
  | nil => cases h
  | cons x more =>
    obtain ⟨rfl, -⟩ := List.cons_prefix_cons.1 hbegin
    have hlead := h.lead
    simp only [List.length_cons]
    omega

theorem blocks_lead (h : ¬ (a < 0x80 ∨ 0xc2 ≤ a ∧ a < 0xf5)) : Blocks [a] :=
  blocks_of_length (fun _ _ hseq hbegin => (hseq.le_length hbegin).1) fun _ _ hseq =>
    h hseq.lead.1

theorem blocks_second (h : 0x80 ≤ a) (hb : ¬ isSecond a b) : Blocks [a, b] :=
  blocks_of_length (fun _ _ hseq hbegin => (hseq.le_length hbegin).2.1 h) fun _ _ hseq =>
    hb hseq.second

theorem blocks_third (h : 0xe0 ≤ a) (hc : ¬ isContinuation c) : Blocks [a, b, c] :=
  blocks_of_length (fun _ _ hseq hbegin => (hseq.le_length hbegin).2.2.1 h) fun _ _ hseq =>
    hc hseq.third

theorem blocks_fourth (h : 0xf0 ≤ a) (hd : ¬ isContinuation d) : Blocks [a, b, c, d] :=
  blocks_of_length (fun _ _ hseq hbegin => (hseq.le_length hbegin).2.2.2 h) fun _ _ hseq =>
    hd hseq.fourth

/-- Bytes with which no text goes on, and how many of them are at fault: those that begin a
character, but one at least. It is not known how many if the bytes end within a character. -/
inductive Stuck (bs : List Nat) : Option Nat → Prop
  | cut (h : Starts bs) : Stuck bs none
  | wrong {n : Nat} (hpos : 0 < n) (hstarts : n = 1 ∨ Starts (bs.take n))
      (hends : ¬ Starts (bs.take (n + 1))) :
      Stuck bs (some n)

theorem not_isPrefix_of_starts (h : Starts bs) (hseq : Sequence ch seq) : ¬ seq <+: bs := by
  obtain ⟨ch', more, hmore, h⟩ := h
  intro hbegin
  have heq := hseq.eq_of_isPrefix (h ▸ sequence_codes ch') (hbegin.trans (List.prefix_append _ _))
  rw [heq] at hbegin
  have hlength := hbegin.length_le
  rw [List.length_append] at hlength
  exact hmore (List.length_eq_zero_iff.1 (by omega))

theorem Blocks.not_isPrefix (h : Blocks bs) (hseq : Sequence ch seq) : ¬ seq <+: bs ++ rest := by
  intro hbegin
  rcases List.prefix_or_prefix_of_prefix hbegin (List.prefix_append bs rest) with hp | hp
  · exact (h ch seq hseq).1 hp
  · exact (h ch seq hseq).2 hp

theorem Blocks.stuck (h : Blocks bs) (hpos : 0 < n) (hlength : bs.length ≤ n + 1)
    (hstarts : n = 1 ∨ Starts ((bs ++ rest).take n)) : Stuck (bs ++ rest) (some n) := by
  refine .wrong hpos hstarts ?_
  rintro ⟨ch, more, -, hcodes⟩
  have hfront : bs <+: (bs ++ rest).take (n + 1) :=
    List.prefix_take_iff.2 ⟨List.prefix_append _ _, hlength⟩
  exact (h ch _ (hcodes ▸ sequence_codes ch)).2 (hfront.trans (List.prefix_append _ _))

/-- No character goes on here, and that is what is read. -/
structure AtFault (index : Nat) (bs : List Nat) : Prop where
  not_isPrefix : ∀ ch seq, Sequence ch seq → ¬ seq <+: bs
  read : ∃ length, Stuck bs length ∧ decodeFrom index bs = .error ⟨index, length⟩

variable {index : Nat}

theorem atFault_of_starts (h : Starts bs) (hread : decodeFrom index bs = .error ⟨index, none⟩) :
    AtFault index bs :=
  ⟨fun _ _ => not_isPrefix_of_starts h, none, .cut h, hread⟩

theorem Blocks.atFault (h : Blocks bs) (hpos : 0 < n) (hlength : bs.length ≤ n + 1)
    (hstarts : n = 1 ∨ Starts ((bs ++ rest).take n))
    (hread : decodeFrom index (bs ++ rest) = .error ⟨index, some n⟩) : AtFault index (bs ++ rest) :=
  ⟨fun _ _ => h.not_isPrefix, some n, h.stuck hpos hlength hstarts, hread⟩

theorem isSecond_eq_isContinuation (h : 0xc2 ≤ a ∧ a < 0xe0) : isSecond a b = isContinuation b := by
  rw [Bool.eq_iff_iff, isSecond_iff, isContinuation_iff]
  omega

/-- Bytes go on with a character, or are at fault. -/
theorem decodeFrom_cons (index a : Nat) (rest : List Nat) :
    (∃ ch seq tail, Sequence ch seq ∧ a :: rest = seq ++ tail) ∨ AtFault index (a :: rest) := by
  by_cases hone : a < 0x80
  · exact .inl ⟨_, [a], rest, .one hone, rfl⟩
  by_cases hlead : 0xc2 ≤ a ∧ a < 0xf5
  case neg =>
    refine .inr ((blocks_lead (a := a) (by omega)).atFault (n := 1) (by decide)
      (by simp) (.inl rfl) ?_)
    rw [List.cons_append, decodeFrom.eq_def]
    grind
  match rest with
  | [] =>
    refine .inr (atFault_of_starts (starts_lead hlead) ?_)
    rw [decodeFrom.eq_def]
    grind
  | b :: rest =>
    by_cases hb : isSecond a b
    case neg =>
      refine .inr ((blocks_second (by omega) hb).atFault (n := 1) (by decide)
        (by simp) (.inl rfl) ?_)
      rw [List.cons_append, decodeFrom.eq_def]
      grind [isSecond_eq_isContinuation]
    by_cases htwo : a < 0xe0
    · rw [isSecond_eq_isContinuation ⟨hlead.1, htwo⟩] at hb
      exact .inl ⟨_, [a, b], rest, .two ⟨hlead.1, htwo⟩ hb, rfl⟩
    match rest with
    | [] =>
      refine .inr (atFault_of_starts (starts_second (by omega) hb) ?_)
      rw [decodeFrom.eq_def]
      grind
    | c :: rest =>
      by_cases hc : isContinuation c
      case neg =>
        refine .inr ((blocks_third (b := b) (by omega) hc).atFault (n := 2) (by decide) (by simp)
          (.inr (starts_second (by omega) hb)) ?_)
        rw [List.cons_append, decodeFrom.eq_def]
        grind
      by_cases hthree : a < 0xf0
      · exact .inl ⟨_, [a, b, c], rest, .three (by omega) hb hc, rfl⟩
      match rest with
      | [] =>
        refine .inr (atFault_of_starts (starts_third (by omega) hb hc) ?_)
        rw [decodeFrom.eq_def]
        grind
      | d :: rest =>
        by_cases hd : isContinuation d
        · exact .inl ⟨_, [a, b, c, d], rest, .four (by omega) hb hc hd, rfl⟩
        · refine .inr ((blocks_fourth (b := b) (c := c) (by omega) hd).atFault (n := 3) (by decide)
            (by simp) (.inr (starts_third (by omega) hb hc)) ?_)
          rw [List.cons_append, decodeFrom.eq_def]
          grind

/-- Fewer bytes of the beginning of a character begin it as well. -/
theorem Starts.take (h : Starts bs) (n : Nat) : Starts (bs.take n) := by
  obtain ⟨ch, more, hmore, hcodes⟩ := h
  refine ⟨ch, bs.drop n ++ more, by simp [hmore], ?_⟩
  rw [hcodes, ← List.append_assoc, List.take_append_drop]

theorem Stuck.unique {length length' : Option Nat} (h : Stuck bs length) (h' : Stuck bs length') :
    length = length' := by
  have least {n m : Nat} (hlt : n < m) (hstarts : m = 1 ∨ Starts (bs.take m)) (hpos : 0 < n)
      (hends : ¬ Starts (bs.take (n + 1))) : False := by
    have htake := (hstarts.resolve_left (by omega)).take (n + 1)
    rw [List.take_take, Nat.min_eq_left hlt] at htake
    exact hends htake
  cases h with
  | cut h =>
    cases h' with
    | cut _ => rfl
    | wrong _ _ hends => exact absurd (h.take _) hends
  | @wrong n hpos hstarts hends =>
    cases h' with
    | cut h' => exact absurd (h'.take _) hends
    | @wrong m hpos' hstarts' hends' =>
      rcases Nat.lt_trichotomy n m with hlt | rfl | hlt
      · exact (least hlt hstarts' hpos hends).elim
      · rfl
      · exact (least hlt hstarts hpos' hends').elim

end Faults

/-- Bytes are those of a text up to a fault, where no character goes on. -/
def StopsAt (bs : List Nat) (fault : Fault) : Prop :=
  ∃ (cs : List Char) (rest : List Nat), bs = cs.flatMap codes ++ rest ∧ rest ≠ [] ∧
    (∀ ch, ¬ codes ch <+: rest) ∧ fault.index = (cs.flatMap codes).length ∧ Stuck rest fault.length

section Texts

variable {bs rest : List Nat} {bytes : List UInt8} {s : String} {fault : Fault}

theorem decodeFrom_flatMap_append (cs : List Char) (index : Nat) (rest : List Nat) :
    decodeFrom index (cs.flatMap codes ++ rest) =
      (decodeFrom (index + (cs.flatMap codes).length) rest).map (cs ++ ·) := by
  induction cs generalizing index with
  | nil => cases h : decodeFrom index rest <;> simp [h, Except.map]
  | cons c cs ih =>
    rw [List.flatMap_cons, List.append_assoc, (sequence_codes c).decodeFrom_append, ih,
      List.length_append, Nat.add_assoc]
    cases decodeFrom (index + ((codes c).length + (cs.flatMap codes).length)) rest <;> rfl

theorem decodeFrom_flatMap (cs : List Char) : decodeFrom 0 (cs.flatMap codes) = .ok cs := by
  have h := decodeFrom_flatMap_append cs 0 []
  rw [List.append_nil] at h
  rw [h, decodeFrom, Except.map, List.append_nil]

theorem codes_bytes (s : String) : (Text.bytes s).map UInt8.toNat = s.toList.flatMap codes := by
  rw [bytes_eq, List.map_flatMap]
  rfl

theorem StopsAt.cons {ch : Char} (h : StopsAt bs fault) :
    StopsAt (codes ch ++ bs) ⟨(codes ch).length + fault.index, fault.length⟩ := by
  obtain ⟨cs, rest, rfl, hne, hno, hindex, hstuck⟩ := h
  refine ⟨ch :: cs, rest, ?_, hne, hno, ?_, hstuck⟩
  · rw [List.flatMap_cons, List.append_assoc]
  · rw [List.flatMap_cons, List.length_append, hindex]

/-- Bytes are a text, or stop somewhere. -/
theorem exists_text_or_stopsAt (bs : List Nat) :
    (∃ cs : List Char, bs = cs.flatMap codes) ∨ ∃ fault, StopsAt bs fault := by
  induction hn : bs.length using Nat.strongRecOn generalizing bs with
  | _ n ih =>
    cases bs with
    | nil => exact .inl ⟨[], rfl⟩
    | cons a rest =>
      rcases decodeFrom_cons 0 a rest with ⟨ch, seq, tail, hseq, hsplit⟩ | hfault
      · obtain rfl := hseq.codes_eq
        have hshorter : tail.length < n := by
          have hone := (hseq.le_length ⟨tail, hsplit.symm⟩).1
          rw [← hn, hsplit, List.length_append]
          omega
        rw [hsplit]
        rcases ih _ hshorter tail rfl with ⟨cs, rfl⟩ | ⟨fault, hstops⟩
        · exact .inl ⟨ch :: cs, rfl⟩
        · exact .inr ⟨_, hstops.cons⟩
      · obtain ⟨length, hstuck, -⟩ := hfault.read
        exact .inr ⟨⟨0, length⟩, [], a :: rest, rfl, List.cons_ne_nil _ _,
          fun ch => hfault.not_isPrefix ch _ (sequence_codes ch), rfl, hstuck⟩

theorem decodeFrom_of_stopsAt (h : StopsAt bs fault) : decodeFrom 0 bs = .error fault := by
  obtain ⟨cs, rest, rfl, hne, hno, hindex, hstuck⟩ := h
  obtain ⟨a, rest, rfl⟩ := List.exists_cons_of_ne_nil hne
  rw [decodeFrom_flatMap_append, Nat.zero_add, ← hindex]
  rcases decodeFrom_cons fault.index a rest with ⟨ch, seq, tail, hseq, hsplit⟩ | hfault
  · exact absurd ⟨tail, hsplit.symm⟩ (hseq.codes_eq ▸ hno ch)
  · obtain ⟨length, hstuck', hread⟩ := hfault.read
    rw [hread, ← hstuck.unique hstuck']
    rfl

theorem decode_bytes (s : String) : decode (Text.bytes s) = .ok s := by
  rw [decode, codes_bytes, decodeFrom_flatMap]
  exact congrArg Except.ok String.ofList_toList

theorem decode_of_stopsAt (h : StopsAt (bytes.map UInt8.toNat) fault) :
    decode bytes = .error fault := by
  rw [decode, decodeFrom_of_stopsAt h]
  rfl

theorem exists_decode (bytes : List UInt8) :
    (∃ s, Text.bytes s = bytes) ∨ ∃ fault, StopsAt (bytes.map UInt8.toNat) fault := by
  refine (exists_text_or_stopsAt (bytes.map UInt8.toNat)).imp_left ?_
  rintro ⟨cs, hcs⟩
  refine ⟨.ofList cs, List.map_injective_iff.2 (fun _ _ => UInt8.toNat_inj.1) ?_⟩
  rw [codes_bytes, String.toList_ofList, hcs]

/-- Exactly the bytes of texts are read. -/
theorem decode_eq_ok : decode bytes = .ok s ↔ Text.bytes s = bytes := by
  constructor
  · intro h
    rcases exists_decode bytes with ⟨t, rfl⟩ | ⟨fault, hstops⟩
    · rw [decode_bytes] at h
      cases h
      rfl
    · rw [decode_of_stopsAt hstops] at h
      cases h
  · rintro rfl
    exact decode_bytes s

/-- A fault stands where the bytes stop being a text. -/
theorem decode_eq_error : decode bytes = .error fault ↔ StopsAt (bytes.map UInt8.toNat) fault := by
  refine ⟨fun h => ?_, decode_of_stopsAt⟩
  rcases exists_decode bytes with ⟨s, rfl⟩ | ⟨fault', hstops⟩
  · rw [decode_bytes] at h
    cases h
  · rw [decode_of_stopsAt hstops] at h
    cases h
    exact hstops

theorem not_stopsAt_bytes (s : String) : ¬ StopsAt ((Text.bytes s).map UInt8.toNat) fault := by
  rw [← decode_eq_error, decode_bytes]
  nofun

end Texts

end IncidentBoard.Text.Utf8
