import MavRouter.Shared.Json.Numbers
import MavRouter.Shared.Json.Strings

set_option autoImplicit false

namespace Json

inductive Token where
  | openArray
  | closeArray
  | openObject
  | closeObject
  | comma
  | colon
  | null
  | bool (value : Bool)
  | number (value : Number)
  | string (value : String)
  deriving DecidableEq, Repr

def whitespace (c : Char) : Bool := [' ', '\t', '\n', '\r'].contains c

def symbol : Char → Option Token
  | '[' => some .openArray
  | ']' => some .closeArray
  | '\x7b' => some .openObject
  | '\x7d' => some .closeObject
  | ',' => some .comma
  | ':' => some .colon
  | _ => none

def word (letters : List Char) : Option Token :=
  if letters = "null".toList then some .null
  else if letters = "true".toList then some (.bool true)
  else if letters = "false".toList then some (.bool false)
  else none

-- The longest run of letters or of what may stand in a number is one token, or the text is none.
def lexToken (c : Char) (text : List Char) : Option (Token × List Char) :=
  match symbol c with
  | some token => some (token, text)
  | none =>
    if c = '"' then
      (readString (text.length + 1) text).map fun read => (.string (String.ofList read.1), read.2)
    else if c.isDigit || c == '-' then
      (number ((c :: text).takeWhile inNumber)).map fun value => (.number value, text.dropWhile inNumber)
    else (word ((c :: text).takeWhile Char.isAlpha)).map fun token => (token, text.dropWhile Char.isAlpha)

def lexWith : Nat → List Char → Option (List Token)
  | _, [] => some []
  | 0, _ :: _ => none
  | fuel + 1, c :: text =>
    if whitespace c then lexWith fuel text
    else (lexToken c text).bind fun read => (lexWith fuel read.2).map (List.cons read.1)

def lex (text : List Char) : Option (List Token) := lexWith text.length text

theorem symbol_structural (c : Char) (token : Token) (found : symbol c = some token) : c ∈ structural := by
  unfold symbol at found
  split at found <;> first | decide | cases found

theorem lexToken_shrinks (c : Char) (text rest : List Char) (token : Token)
    (found : lexToken c text = some (token, rest)) : rest.length ≤ text.length := by
  unfold lexToken at found
  split at found
  · cases found
    exact Nat.le_refl _
  · split_ifs at found
    · obtain ⟨⟨out, behind⟩, read, same⟩ := Option.map_eq_some_iff.mp found
      obtain ⟨-, rfl⟩ := Prod.mk.inj same
      obtain ⟨raw, -, rfl⟩ := readString_literal _ _ _ _ read
      simp only [List.length_append, List.length_cons]
      omega
    · obtain ⟨_, -, same⟩ := Option.map_eq_some_iff.mp found
      obtain ⟨-, rfl⟩ := Prod.mk.inj same
      exact (List.dropWhile_sublist _).length_le
    · obtain ⟨_, -, same⟩ := Option.map_eq_some_iff.mp found
      obtain ⟨-, rfl⟩ := Prod.mk.inj same
      exact (List.dropWhile_sublist _).length_le

theorem lexWith_enough (fuel fuel' : Nat) (text : List Char) (enough : text.length ≤ fuel)
    (enough' : text.length ≤ fuel') : lexWith fuel text = lexWith fuel' text := by
  induction fuel generalizing fuel' text with
  | zero =>
    rw [List.length_eq_zero_iff.mp (Nat.le_zero.mp enough)]
    cases fuel' <;> rfl
  | succ fuel ih =>
    cases text with
    | nil => cases fuel' <;> rfl
    | cons c text =>
      rw [List.length_cons] at enough enough'
      obtain ⟨fuel', rfl⟩ := Nat.exists_eq_succ_of_ne_zero (Nat.ne_zero_of_lt enough')
      rw [lexWith, lexWith, ih fuel' text (by omega) (by omega)]
      cases read : lexToken c text with
      | none => rfl
      | some taken =>
        have shorter := lexToken_shrinks c text taken.2 taken.1 read
        rw [Option.bind_some, Option.bind_some, ih fuel' taken.2 (by omega) (by omega)]

theorem lex_token (c : Char) (text rest : List Char) (token : Token) (visible : whitespace c = false)
    (read : lexToken c text = some (token, rest)) : lex (c :: text) = (lex rest).map (List.cons token) := by
  have shorter := lexToken_shrinks c text rest token read
  rw [lex, List.length_cons, lexWith, visible, read, Option.bind_some, if_neg Bool.false_ne_true,
    lexWith_enough _ rest.length rest shorter (Nat.le_refl _)]
  rfl

theorem lex_token_iff (c : Char) (text rest : List Char) (token : Token) (tokens : List Token)
    (visible : whitespace c = false) (read : lexToken c text = some (token, rest)) :
    lex (c :: text) = some (token :: tokens) ↔ lex rest = some tokens := by
  rw [lex_token c text rest token visible read]
  cases lex rest <;> simp

theorem lex_symbol (c : Char) (rest : List Char) (token : Token) (tokens : List Token)
    (known : symbol c = some token) : lex (c :: rest) = some (token :: tokens) ↔ lex rest = some tokens := by
  apply lex_token_iff
  · have symbols : ∀ x ∈ structural, whitespace x = false := each_of_all (by decide)
    exact symbols c (symbol_structural c token known)
  · rw [lexToken, known]

theorem lexToken_quotation (text : List Char) :
    lexToken '"' text =
      (readString (text.length + 1) text).map fun read => (Token.string (String.ofList read.1), read.2) := by
  rw [lexToken]
  rfl

theorem lex_plain (text : String) (rest : List Char) (tokens : List Token) (plain : ∀ c ∈ text.toList, Plain c) :
    lex ('"' :: (text.toList ++ '"' :: rest)) = some (.string text :: tokens) ↔ lex rest = some tokens := by
  apply lex_token_iff _ _ _ _ _ rfl
  rw [lexToken_quotation, readString_plain text.toList rest plain _ (by rw [List.length_append]; omega),
    Option.map_some, String.ofList_toList]

theorem plain_of_lex (text : String) (rest : List Char) (c : Char) (tokens : List Token) (between : c ∈ structural)
    (found : lex ('"' :: (text.toList ++ '"' :: c :: '"' :: rest)) = some (.string text :: tokens)) :
    ∀ x ∈ text.toList, Plain x := by
  cases read : lexToken '"' (text.toList ++ '"' :: c :: '"' :: rest) with
  | none =>
    rw [lex, List.length_cons, lexWith, read] at found
    cases found
  | some taken =>
    rw [lex_token _ _ taken.2 taken.1 rfl read] at found
    obtain ⟨_, -, same⟩ := Option.map_eq_some_iff.mp found
    rw [lexToken_quotation] at read
    obtain ⟨⟨out, behind⟩, read, taken⟩ := Option.map_eq_some_iff.mp read
    have decoded : String.ofList out = text := by
      have first := (List.cons.inj same).1
      rw [← taken, Token.string.injEq] at first
      exact first
    rw [← decoded, String.toList_ofList] at read ⊢
    exact plain_of_read _ _ _ _ c between read

theorem lex_natural (n : Nat) (c : Char) (rest : List Char) (tokens : List Token) (stop : inNumber c = false) :
    lex (Nat.toDigits 10 n ++ c :: rest) = some (.number (.ofNat n) :: tokens) ↔ lex (c :: rest) = some tokens := by
  have inside : ∀ x ∈ Nat.toDigits 10 n, inNumber x = true := by
    intro x member
    rw [inNumber, Nat.isDigit_of_mem_toDigits (by decide) (by decide) member, Bool.true_or]
  have read := number_toDigits n
  cases text : Nat.toDigits 10 n with
  | nil => exact absurd text Nat.toDigits_ne_nil
  | cons first others =>
    have digit : first.isDigit = true :=
      Nat.isDigit_of_mem_toDigits (b := 10) (n := n) (by decide) (by decide) (by rw [text]; exact List.mem_cons_self)
    have apart (chars : List Char) (noneOf : ∀ x ∈ chars, x.isDigit = false) : first ∉ chars := by
      intro member
      rw [noneOf first member] at digit
      cases digit
    rw [text] at inside read
    rw [List.cons_append]
    apply lex_token_iff
    · exact Bool.eq_false_iff.mpr fun blank => apart _ (each_of_all (by decide)) (List.contains_iff_mem.mp blank)
    · have unknown : symbol first = none := by
        by_contra known
        obtain ⟨token, known⟩ := Option.ne_none_iff_exists'.mp known
        exact apart structural (each_of_all (by decide)) (symbol_structural first token known)
      have unquoted : first ≠ '"' := fun same => apart ['"'] (each_of_all (by decide)) (List.mem_singleton.mpr same)
      have taken : (first :: (others ++ c :: rest)).takeWhile inNumber = first :: others := by
        rw [← List.cons_append, List.takeWhile_append_of_pos inside, List.takeWhile_cons_of_neg (by simp [stop]),
          List.append_nil]
      have left : (others ++ c :: rest).dropWhile inNumber = c :: rest := by
        rw [List.dropWhile_append_of_pos fun x member => inside x (List.mem_cons_of_mem _ member),
          List.dropWhile_cons_of_neg (by simp [stop])]
      simp only [lexToken, unknown, unquoted, digit, taken, left, read, if_false, Bool.true_or, if_true,
        Option.map_some]

end Json
