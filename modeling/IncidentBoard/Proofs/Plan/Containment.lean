import IncidentBoard.Proofs.Plan.Condition
import Mathlib.Data.List.Forall2
import Mathlib.Data.List.Infix

/-! Filters that look for a text: the pattern they bind stands for the texts that contain it. -/
namespace IncidentBoard

namespace Sql

/-- Whether a text has the form of a pattern: `%` stands for any run of characters, `_` for any
character, and the character after an escape for itself. Characters are compared by `same`. -/
def like (same : Char → Char → Bool) (escape : Char) : List Char → List Char → Bool
  | [], text => text.isEmpty
  | c :: pattern, text =>
    if c = escape then
      match pattern, text with
      | literal :: pattern, d :: text => same literal d && like same escape pattern text
      | _, _ => false
    else if c = '%' then text.tails.any (like same escape pattern)
    else match text with
      | d :: text => (c == '_' || same c d) && like same escape pattern text
      | [] => false

section Like

variable {same : Char → Char → Bool} {escape c : Char} {pattern text : List Char}

theorem like_percent (h : '%' ≠ escape) :
    like same escape ('%' :: pattern) text ↔ ∃ tail, tail <:+ text ∧
      like same escape pattern tail := by
  rw [like.eq_def]
  simp [h]

theorem like_escaped :
    like same escape (escape :: c :: pattern) text ↔
      ∃ d tail, text = d :: tail ∧ same c d ∧ like same escape pattern tail := by
  rw [like.eq_def]
  cases text <;> simp

theorem like_plain (hescape : c ≠ escape) (hpercent : c ≠ '%') (hany : c ≠ '_') :
    like same escape (c :: pattern) text ↔
      ∃ d tail, text = d :: tail ∧ same c d ∧ like same escape pattern tail := by
  rw [like.eq_def]
  cases text <;> simp [hescape, hpercent, hany]

theorem like_anything (h : '%' ≠ escape) : like same escape ['%'] text :=
  (like_percent h).2 ⟨[], List.nil_suffix, rfl⟩

end Like

end Sql

namespace Plan

open Sql Widget

section Needle

variable {same : Char → Char → Bool} {pattern : List Char}

/-- An escaped character stands for itself, whether or not it is a wildcard. -/
theorem like_escapeLike_cons {c : Char} {needle text : List Char} :
    like same '\\' (escapeLike (c :: needle) ++ pattern) text ↔
      ∃ d tail, text = d :: tail ∧ same c d ∧
        like same '\\' (escapeLike needle ++ pattern) tail := by
  by_cases hc : isWildcard c
  · have hcons : escapeLike (c :: needle) = '\\' :: c :: escapeLike needle := by
      simp [escapeLike, hc]
    rw [hcons]
    exact like_escaped
  · have hcons : escapeLike (c :: needle) = c :: escapeLike needle := by simp [escapeLike, hc]
    simp only [isWildcard, Bool.or_eq_true, beq_iff_eq, not_or] at hc
    rw [hcons]
    exact like_plain hc.2 hc.1.1 hc.1.2

/-- An escaped text stands for a run that it is the same as, character by character. -/
theorem like_escapeLike (needle text : List Char) :
    like same '\\' (escapeLike needle ++ pattern) text ↔
      ∃ run tail, run ++ tail = text ∧ List.Forall₂ (same · ·) needle run ∧
        like same '\\' pattern tail := by
  induction needle generalizing text with
  | nil => simp [escapeLike, List.forall₂_nil_left_iff]
  | cons c needle ih =>
    rw [like_escapeLike_cons]
    constructor
    · rintro ⟨d, text, rfl, hcd, hlike⟩
      obtain ⟨run, tail, rfl, hrun, htail⟩ := (ih text).1 hlike
      exact ⟨d :: run, tail, rfl, .cons hcd hrun, htail⟩
    · rintro ⟨run, tail, rfl, hrun, htail⟩
      cases hrun with
      | cons hcd hrun => exact ⟨_, _, rfl, hcd, (ih _).2 ⟨_, tail, rfl, hrun, htail⟩⟩

end Needle

theorem like_containsPattern (same : Char → Char → Bool) (needle : String) (text : List Char) :
    like same '\\' (containsPattern needle).toList text ↔
      ∃ run, run <:+: text ∧ List.Forall₂ (same · ·) needle.toList run := by
  have hescape : '%' ≠ '\\' := by decide
  rw [containsPattern, String.toList_ofList, like_percent hescape]
  constructor
  · rintro ⟨suffix, hsuffix, hlike⟩
    obtain ⟨run, tail, rfl, hrun, -⟩ := (like_escapeLike needle.toList suffix).1 hlike
    exact ⟨run, List.infix_iff_prefix_suffix.2 ⟨_, List.prefix_append run tail, hsuffix⟩, hrun⟩
  · rintro ⟨run, hinfix, hrun⟩
    obtain ⟨_, ⟨tail, rfl⟩, hsuffix⟩ := List.infix_iff_prefix_suffix.1 hinfix
    exact ⟨_, hsuffix, (like_escapeLike needle.toList _).2 ⟨run, tail, rfl, hrun,
      like_anything hescape⟩⟩

/-- Only a text can be looked for, and only in a column of texts. -/
theorem predicate_contains_eq_ok {c : Column} {value : Json} {p p' : Params} {e : Expr} :
    predicate c .contains value p = .ok (e, p') ↔
      c.kind = .text ∧ ∃ needle, value = .str needle ∧
        e = .like c.comparable (.param (p.length + 1)) '\\' true ∧
        p' = ⟨p.values ++ [.text (containsPattern needle)]⟩ := by
  by_cases hkind : c.kind = .text
  · cases value <;> simp [predicate, hkind, Params.bind, Params.length, eq_comm]
  · cases value <;> simp [predicate, hkind]

/-- A filter that looks for a text matches the texts with a run that is the same as it, character by
character; no character of what it looks for is a wildcard. -/
theorem matches_of_contains (same : Char → Char → Bool) :
    (∀ (c : Column) (value : Json) (p p' : Params) (e : Expr),
      predicate c .contains value p = .ok (e, p') ↔
        c.kind = .text ∧ ∃ needle, value = .str needle ∧
          e = .like c.comparable (.param (p.length + 1)) '\\' true ∧
          p' = ⟨p.values ++ [.text (containsPattern needle)]⟩) ∧
      (∀ needle text : String,
        like same '\\' (containsPattern needle).toList text.toList ↔
          ∃ run, run <:+: text.toList ∧ List.Forall₂ (same · ·) needle.toList run) ∧
      ∀ needle text : String,
        like (· == ·) '\\' (containsPattern needle).toList text.toList ↔
          needle.toList <:+: text.toList := by
  refine ⟨fun c value p p' e => predicate_contains_eq_ok, fun needle text =>
    like_containsPattern same needle _, ?_⟩
  intro needle text
  rw [like_containsPattern]
  simp

example : like (· == ·) '\\' ('%' :: (escapeLike ['5', '%'] ++ ['%'])) ['a', '5', '%', 'b'] ∧
    ¬ like (· == ·) '\\' ('%' :: (escapeLike ['5', '%'] ++ ['%'])) ['a', '5', '0', 'b'] := by decide

end Plan

end IncidentBoard
