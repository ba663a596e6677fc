import Mathlib.Data.List.Basic

set_option autoImplicit false

namespace Json

def structural : List Char := ['[', ']', '\x7b', '\x7d', ',', ':']

def Plain (c : Char) : Prop := 0x20 ≤ c.toNat ∧ c ≠ '"' ∧ c ≠ '\\'

instance (c : Char) : Decidable (Plain c) := inferInstanceAs (Decidable (_ ∧ _))

theorem Plain.of_isDigit {c : Char} (digit : c.isDigit = true) : Plain c := by
  refine ⟨?_, ?_, ?_⟩
  · have low : 48 ≤ c.toNat := (Char.isDigit_iff_toNat.mp digit).1
    omega
  · rintro rfl
    exact absurd digit (by decide)
  · rintro rfl
    exact absurd digit (by decide)

def unescape : Char → Option Char
  | '"' => some '"'
  | '\\' => some '\\'
  | '/' => some '/'
  | 'b' => some '\x08'
  | 'f' => some '\x0c'
  | 'n' => some '\n'
  | 'r' => some '\r'
  | 't' => some '\t'
  | _ => none

def hexDigit (c : Char) : Option Nat :=
  if c.isDigit then some (c.toNat - '0'.toNat)
  else if 'a' ≤ c ∧ c ≤ 'f' then some (c.toNat - 'a'.toNat + 10)
  else if 'A' ≤ c ∧ c ≤ 'F' then some (c.toNat - 'A'.toNat + 10)
  else none

def codeUnit (text : List Char) : Option Nat :=
  if text.length < 4 then none
  else (text.take 4).foldlM (fun unit c => (hexDigit c).map fun digit => 16 * unit + digit) 0

-- What follows a backslash. A surrogate stands for a character only together with the one of the other half.
def readEscape : List Char → Option (Char × List Char)
  | [] => none
  | 'u' :: text =>
    (codeUnit text).bind fun unit =>
      if unit < 0xD800 ∨ 0xE000 ≤ unit then some (Char.ofNat unit, text.drop 4)
      else if 0xDC00 ≤ unit then none
      else
        match text.drop 4 with
        | '\\' :: 'u' :: text =>
          (codeUnit text).bind fun low =>
            if low < 0xDC00 ∨ 0xE000 ≤ low then none
            else some (Char.ofNat (0x10000 + (unit - 0xD800) * 0x400 + (low - 0xDC00)), text.drop 4)
        | _ => none
  | c :: text => (unescape c).map fun decoded => (decoded, text)

def readString : Nat → List Char → Option (List Char × List Char)
  | 0, _ => none
  | _, [] => none
  | fuel + 1, c :: text =>
    if c = '"' then some ([], text)
    else if c = '\\' then
      (readEscape text).bind fun read => (readString fuel read.2).map fun tail => (read.1 :: tail.1, tail.2)
    else if Plain c then (readString fuel text).map fun tail => (c :: tail.1, tail.2)
    else none

structure EscapeText (text : List Char) : Prop where
  nonempty : text ≠ []
  quotation : '"' ∈ text → text = ['"']
  unstructured : ∀ c ∈ text, c ∉ structural

-- More texts than there are strings, but enough to tell where a string ends.
inductive Literal : List Char → List Char → Prop where
  | nil : Literal [] []
  | plain {text out : List Char} (c : Char) : Plain c → Literal text out → Literal (c :: text) (c :: out)
  | escape {text out : List Char} (seq : List Char) (c : Char) :
      EscapeText seq → Literal text out → Literal ('\\' :: seq ++ text) (c :: out)

-- The form in which decide goes over the characters of a list.
theorem each_of_all {p : Char → Prop} [DecidablePred p] {chars : List Char}
    (all : chars.all (fun c => decide (p c)) = true) : ∀ c ∈ chars, p c := by
  simpa using all

theorem not_structural {A : Type} (f : Char → Option A) (absent : ∀ c ∈ structural, f c = none) (c : Char) (a : A)
    (found : f c = some a) : c ∉ structural := by
  intro member
  rw [absent c member] at found
  cases found

theorem unescape_text (c decoded : Char) (found : unescape c = some decoded) : EscapeText [c] := by
  refine ⟨by simp, ?_, ?_⟩
  · intro member
    rw [List.mem_singleton.mp member]
  · intro x member
    rw [List.mem_singleton.mp member]
    exact not_structural unescape (each_of_all (by decide)) c decoded found

theorem hexDigit_text (c : Char) (digit : Nat) (found : hexDigit c = some digit) : c ≠ '"' ∧ c ∉ structural := by
  refine ⟨?_, not_structural hexDigit (each_of_all (by decide)) c digit found⟩
  rintro rfl
  have absent : hexDigit '"' = none := by decide
  rw [absent] at found
  cases found

theorem foldlM_hexDigit (text : List Char) (start unit : Nat)
    (found : text.foldlM (fun unit c => (hexDigit c).map fun digit => 16 * unit + digit) start = some unit) :
    ∀ c ∈ text, c ≠ '"' ∧ c ∉ structural := by
  induction text generalizing start with
  | nil => simp
  | cons c rest ih =>
    rw [List.foldlM_cons] at found
    obtain ⟨next, read, others⟩ := Option.bind_eq_some_iff.mp found
    obtain ⟨digit, known, -⟩ := Option.map_eq_some_iff.mp read
    exact List.forall_mem_cons.mpr ⟨hexDigit_text c digit known, ih next others⟩

theorem codeUnit_text (text : List Char) (unit : Nat) (found : codeUnit text = some unit) :
    ∀ c ∈ text.take 4, c ≠ '"' ∧ c ∉ structural := by
  unfold codeUnit at found
  split_ifs at found
  exact foldlM_hexDigit _ _ _ found

theorem escapeText_units (text : List Char) (filled : text ≠ [])
    (units : ∀ c ∈ text, c ≠ '"' ∧ c ∉ structural) : EscapeText text :=
  ⟨filled, fun member => absurd rfl (units '"' member).1, fun c member => (units c member).2⟩

theorem readEscape_text (text rest : List Char) (c : Char) (found : readEscape text = some (c, rest)) :
    ∃ seq, EscapeText seq ∧ text = seq ++ rest := by
  unfold readEscape at found
  split at found
  · cases found
  · rename_i text
    obtain ⟨unit, first, found⟩ := Option.bind_eq_some_iff.mp found
    have high := codeUnit_text text unit first
    have marker : ∀ c ∈ ['u', '\\'], c ≠ '"' ∧ c ∉ structural := each_of_all (by decide)
    split_ifs at found with lone
    · cases found
      refine ⟨'u' :: text.take 4, escapeText_units _ (by simp) ?_, by simp⟩
      exact List.forall_mem_cons.mpr ⟨marker 'u' (by simp), high⟩
    · split at found
      · rename_i second follows
        obtain ⟨low, known, found⟩ := Option.bind_eq_some_iff.mp found
        have lower := codeUnit_text second low known
        split_ifs at found
        obtain ⟨-, rfl⟩ := Prod.mk.inj (Option.some.inj found)
        refine ⟨'u' :: text.take 4 ++ '\\' :: 'u' :: second.take 4, escapeText_units _ (by simp) ?_, ?_⟩
        · intro c member
          simp only [List.cons_append, List.mem_cons, List.mem_append] at member
          rcases member with rfl | member | rfl | rfl | member
          · exact marker _ (by simp)
          · exact high c member
          · exact marker _ (by simp)
          · exact marker _ (by simp)
          · exact lower c member
        · have halves := List.take_append_drop 4 text
          rw [follows] at halves
          calc
            'u' :: text = 'u' :: (text.take 4 ++ '\\' :: 'u' :: (second.take 4 ++ second.drop 4)) := by
              rw [List.take_append_drop, halves]
            _ = _ := by simp only [List.cons_append, List.append_assoc]
      · cases found
  · obtain ⟨decoded, known, same⟩ := Option.map_eq_some_iff.mp found
    cases same
    exact ⟨_, unescape_text _ _ known, rfl⟩

theorem readString_literal (fuel : Nat) (text out rest : List Char) (found : readString fuel text = some (out, rest)) :
    ∃ raw, Literal raw out ∧ text = raw ++ '"' :: rest := by
  induction fuel generalizing text out with
  | zero => cases found
  | succ fuel ih =>
    cases text with
    | nil => cases found
    | cons c text =>
      rw [readString] at found
      split_ifs at found with closing backslash plain
      · obtain ⟨rfl, rfl⟩ := Prod.mk.inj (Option.some.inj found)
        exact ⟨[], .nil, by rw [closing, List.nil_append]⟩
      · obtain ⟨⟨decoded, behind⟩, escape, found⟩ := Option.bind_eq_some_iff.mp found
        obtain ⟨⟨tail, after⟩, others, same⟩ := Option.map_eq_some_iff.mp found
        obtain ⟨rfl, rfl⟩ := Prod.mk.inj same
        obtain ⟨seq, shape, split⟩ := readEscape_text text behind decoded escape
        obtain ⟨raw, literal, split'⟩ := ih behind tail others
        refine ⟨'\\' :: seq ++ raw, .escape seq decoded shape literal, ?_⟩
        rw [backslash, split, split']
        simp only [List.cons_append, List.append_assoc]
      · obtain ⟨⟨tail, after⟩, others, same⟩ := Option.map_eq_some_iff.mp found
        obtain ⟨rfl, rfl⟩ := Prod.mk.inj same
        obtain ⟨raw, literal, split⟩ := ih text tail others
        exact ⟨c :: raw, .plain c plain literal, by rw [split, List.cons_append]⟩

theorem readString_plain (text rest : List Char) (plain : ∀ c ∈ text, Plain c) (fuel : Nat)
    (enough : text.length < fuel) : readString fuel (text ++ '"' :: rest) = some (text, rest) := by
  induction text generalizing fuel with
  | nil =>
    cases fuel with
    | zero => omega
    | succ fuel => rfl
  | cons c text ih =>
    obtain ⟨first, others⟩ := List.forall_mem_cons.mp plain
    cases fuel with
    | zero => omega
    | succ fuel =>
      rw [List.length_cons] at enough
      rw [List.cons_append, readString, if_neg first.2.1, if_neg first.2.2, if_pos first, ih others fuel (by omega)]
      rfl

namespace Literal

variable {text out : List Char}

theorem shrinks (literal : Literal text out) :
    out.length ≤ text.length ∧ (out.length = text.length → ∀ c ∈ text, Plain c) := by
  induction literal with
  | nil => simp
  | plain c stands _ ih =>
    simp only [List.length_cons, List.forall_mem_cons]
    exact ⟨by omega, fun same => ⟨stands, ih.2 (by omega)⟩⟩
  | escape seq c shape _ ih =>
    have filled := List.length_pos_iff.mpr shape.nonempty
    simp only [List.length_cons, List.cons_append, List.length_append]
    exact ⟨by omega, by omega⟩

theorem quotation_escaped (literal : Literal text out) (before after : List Char)
    (split : text = before ++ '"' :: after) : before.getLast? = some '\\' := by
  induction literal generalizing before with
  | nil => simp at split
  | plain c stands _ ih =>
    cases before with
    | nil =>
      obtain ⟨same, -⟩ := List.cons.inj split
      exact absurd same stands.2.1
    | cons x before =>
      obtain ⟨-, split⟩ := List.cons.inj split
      rw [List.getLast?_cons, ih before split, Option.getD_some]
  | @escape behind _ seq c shape _ ih =>
    cases before with
    | nil => simp at split
    | cons x before =>
      obtain ⟨rfl, inner⟩ := List.cons.inj split
      have halves : seq ++ behind = before ++ '"' :: after := inner
      rcases List.append_eq_append_iff.mp halves with ⟨more, rfl, rest⟩ | ⟨more, rfl, rest⟩
      · rw [List.getLast?_cons, List.getLast?_append, ih more rest]
        rfl
      · cases more with
        | nil =>
          have escaped := ih [] rest.symm
          simp at escaped
        | cons y more =>
          obtain ⟨rfl, -⟩ := List.cons.inj rest
          have alone := shape.quotation (by simp)
          cases before with
          | nil => rfl
          | cons z before => simp at alone

theorem structural_last (literal : Literal text out) (c : Char) (between : c ∈ structural)
    (last : text.getLast? = some c) : out.getLast? = some c := by
  induction literal with
  | nil => cases last
  | @plain behind _ x _ literal ih =>
    rw [List.getLast?_cons] at last ⊢
    cases ending : behind.getLast? with
    | none =>
      rw [List.getLast?_eq_none_iff] at ending
      subst ending
      cases literal
      exact last
    | some y =>
      rw [ending, Option.getD_some] at last
      rw [ih (ending.trans last), Option.getD_some]
  | @escape behind _ seq x shape _ ih =>
    rw [List.getLast?_append] at last
    cases ending : behind.getLast? with
    | none =>
      rw [ending, Option.none_or] at last
      rcases List.mem_cons.mp (List.mem_of_getLast? last) with rfl | member
      · exact absurd between (by decide)
      · exact absurd between (shape.unstructured c member)
    | some y =>
      rw [ending, Option.some_or] at last
      rw [List.getLast?_cons, ih (ending.trans last), Option.getD_some]

end Literal

theorem plain_of_read (fuel : Nat) (text rest behind : List Char) (c : Char) (between : c ∈ structural)
    (found : readString fuel (text ++ '"' :: c :: '"' :: rest) = some (text, behind)) : ∀ x ∈ text, Plain x := by
  obtain ⟨raw, literal, split⟩ := readString_literal _ _ _ _ found
  obtain ⟨bounded, plain⟩ := literal.shrinks
  have unescaped : c ≠ '\\' ∧ c ≠ '"' := by
    constructor <;> rintro rfl <;> exact absurd between (by decide)
  rcases List.append_eq_append_iff.mp split with ⟨more, rfl, ending⟩ | ⟨more, rfl, -⟩
  · match more with
    | [] => simpa using plain (by simp)
    | [_] =>
      rw [List.cons_append, List.nil_append, List.cons.injEq, List.cons.injEq] at ending
      exact absurd ending.2.1 unescaped.2
    | [x, y] =>
      simp only [List.cons_append, List.nil_append, List.cons.injEq] at ending
      obtain ⟨rfl, rfl, -⟩ := ending
      have last := literal.structural_last c between (by simp)
      rw [literal.quotation_escaped text [c] rfl, Option.some.injEq] at last
      exact absurd last.symm unescaped.1
    | x :: y :: z :: more =>
      simp only [List.cons_append, List.cons.injEq] at ending
      obtain ⟨rfl, rfl, rfl, -⟩ := ending
      have last := literal.quotation_escaped (text ++ ['"', c]) more (by simp)
      simp only [List.getLast?_append, List.getLast?_cons_cons, List.getLast?_singleton, Option.some_or,
        Option.some.injEq] at last
      exact absurd last unescaped.1
  · rw [List.length_append] at bounded
    have empty : more = [] := List.length_eq_zero_iff.mp (by omega)
    subst empty
    simpa using plain (by simp)

end Json
