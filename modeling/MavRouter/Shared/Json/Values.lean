import MavRouter.Shared.Json.Tokens

set_option autoImplicit false

namespace Json

/-- An object has its fields in the order they are written in, those of the same name as well. -/
inductive Value where
  | null
  | bool (value : Bool)
  | number (value : Number)
  | string (value : String)
  | array (items : List Value)
  | object (fields : List (String × Value))
  deriving Repr

def joined (close : Token) : List (List Token) → List Token
  | [] => [close]
  | [item] => item ++ [close]
  | item :: items => item ++ .comma :: joined close items

mutual

def Value.tokens : Value → List Token
  | .null => [.null]
  | .bool value => [.bool value]
  | .number value => [.number value]
  | .string value => [.string value]
  | .array items => .openArray :: joined .closeArray (itemTokens items)
  | .object fields => .openObject :: joined .closeObject (fieldTokens fields)

def itemTokens : List Value → List (List Token)
  | [] => []
  | item :: items => item.tokens :: itemTokens items

def fieldTokens : List (String × Value) → List (List Token)
  | [] => []
  | (key, value) :: fields => (.string key :: .colon :: value.tokens) :: fieldTokens fields

end

section Bracketed

variable {A : Type} (close : Token) (one : List Token → Option (A × List Token))

def separated : Nat → List Token → Option (List A × List Token)
  | 0, _ => none
  | fuel + 1, tokens =>
    (one tokens).bind fun item =>
      match item.2 with
      | [] => none
      | token :: rest =>
        if token = .comma then (separated fuel rest).map fun read => (item.1 :: read.1, read.2)
        else if token = close then some ([item.1], rest)
        else none

def bracketed : List Token → Option (List A × List Token)
  | [] => none
  | token :: rest =>
    if token = close then some ([], rest) else separated close one (token :: rest).length (token :: rest)

end Bracketed

def parseField (value : List Token → Option (Value × List Token)) :
    List Token → Option ((String × Value) × List Token)
  | .string key :: .colon :: tokens => (value tokens).map fun read => ((key, read.1), read.2)
  | _ => none

def parseValue : Nat → List Token → Option (Value × List Token)
  | 0, _ => none
  | _, [] => none
  | fuel + 1, token :: tokens =>
    match token with
    | .null => some (.null, tokens)
    | .bool value => some (.bool value, tokens)
    | .number value => some (.number value, tokens)
    | .string value => some (.string value, tokens)
    | .openArray => (bracketed .closeArray (parseValue fuel) tokens).map fun read => (.array read.1, read.2)
    | .openObject =>
      (bracketed .closeObject (parseField (parseValue fuel)) tokens).map fun read => (.object read.1, read.2)
    | .closeArray | .closeObject | .comma | .colon => none

def parse (tokens : List Token) : Option Value :=
  match parseValue tokens.length tokens with
  | some (value, []) => some value
  | _ => none

def decode (text : String) : Option Value := (lex text.toList).bind parse

theorem itemTokens_eq (items : List Value) : itemTokens items = items.map Value.tokens := by
  induction items with
  | nil => rfl
  | cons item items ih => rw [itemTokens, ih, List.map_cons]

def fieldToken (field : String × Value) : List Token := .string field.1 :: .colon :: field.2.tokens

theorem fieldTokens_eq (fields : List (String × Value)) : fieldTokens fields = fields.map fieldToken := by
  induction fields with
  | nil => rfl
  | cons field fields ih =>
    rw [fieldTokens, ih, List.map_cons]
    rfl

section Inverse

variable {A : Type} {close : Token} {one : List Token → Option (A × List Token)} {tokensOf : A → List Token}

theorem joined_cons (item : List Token) (items : List (List Token)) (filled : items ≠ []) :
    joined close (item :: items) = item ++ .comma :: joined close items := by
  cases items with
  | nil => exact absurd rfl filled
  | cons second items => rfl

theorem separated_reads (sound : ∀ tokens a rest, one tokens = some (a, rest) → tokens = tokensOf a ++ rest)
    (fuel : Nat) (tokens : List Token) (items : List A) (rest : List Token)
    (read : separated close one fuel tokens = some (items, rest)) :
    items ≠ [] ∧ tokens = joined close (items.map tokensOf) ++ rest := by
  induction fuel generalizing tokens items with
  | zero => cases read
  | succ fuel ih =>
    rw [separated] at read
    obtain ⟨⟨a, behind⟩, first, read⟩ := Option.bind_eq_some_iff.mp read
    rw [sound tokens a behind first]
    cases behind with
    | nil => cases read
    | cons token behind =>
      simp only at read
      split_ifs at read with more last
      · obtain ⟨⟨others, after⟩, later, same⟩ := Option.map_eq_some_iff.mp read
        obtain ⟨rfl, rfl⟩ := Prod.mk.inj same
        obtain ⟨filled, split⟩ := ih behind others later
        rw [more, split, List.map_cons, joined_cons _ _ (by simpa using filled), List.append_assoc, List.cons_append]
        exact ⟨List.cons_ne_nil _ _, rfl⟩
      · obtain ⟨rfl, rfl⟩ := Prod.mk.inj (Option.some.inj read)
        rw [last, List.map_singleton, joined, List.append_assoc, List.singleton_append]
        exact ⟨List.cons_ne_nil _ _, rfl⟩

theorem bracketed_reads (sound : ∀ tokens a rest, one tokens = some (a, rest) → tokens = tokensOf a ++ rest)
    (tokens : List Token) (items : List A) (rest : List Token)
    (read : bracketed close one tokens = some (items, rest)) :
    tokens = joined close (items.map tokensOf) ++ rest := by
  cases tokens with
  | nil => cases read
  | cons token tokens =>
    rw [bracketed] at read
    split_ifs at read with empty
    · obtain ⟨rfl, rfl⟩ := Prod.mk.inj (Option.some.inj read)
      rw [empty]
      rfl
    · exact (separated_reads sound _ _ _ _ read).2

theorem separated_joined (distinct : close ≠ .comma) (fuel : Nat) (items : List A) (rest : List Token)
    (filled : items ≠ []) (enough : items.length ≤ fuel)
    (complete : ∀ a ∈ items, ∀ rest, one (tokensOf a ++ rest) = some (a, rest)) :
    separated close one fuel (joined close (items.map tokensOf) ++ rest) = some (items, rest) := by
  induction items generalizing fuel with
  | nil => exact absurd rfl filled
  | cons a items ih =>
    obtain ⟨first, others⟩ := List.forall_mem_cons.mp complete
    cases fuel with
    | zero => cases enough
    | succ fuel =>
      rw [List.length_cons] at enough
      by_cases single : items = []
      · rw [single, List.map_singleton, joined, List.append_assoc, separated, first, Option.bind_some]
        simp only [List.singleton_append, distinct, if_false, if_true]
      · rw [List.map_cons, joined_cons _ _ (by simpa using single), List.append_assoc, separated, first,
          Option.bind_some]
        simp only [List.cons_append, if_true]
        rw [ih fuel single (by omega) others, Option.map_some]

theorem length_lt_joined (close : Token) (parts : List (List Token)) (part : List Token) (member : part ∈ parts) :
    part.length < (joined close parts).length := by
  induction parts with
  | nil => cases member
  | cons first parts ih =>
    by_cases single : parts = []
    · subst single
      rw [List.mem_singleton.mp member, joined, List.length_append, List.length_singleton]
      omega
    · rw [joined_cons _ _ single, List.length_append, List.length_cons]
      cases List.mem_cons.mp member with
      | inl same =>
        rw [same]
        omega
      | inr behind =>
        have shorter := ih behind
        omega

theorem count_le_joined (close : Token) (parts : List (List Token)) : parts.length ≤ (joined close parts).length := by
  induction parts with
  | nil => exact Nat.zero_le _
  | cons first parts ih =>
    by_cases single : parts = []
    · subst single
      rw [joined, List.length_append, List.length_singleton, List.length_singleton]
      omega
    · rw [joined_cons _ _ single, List.length_append, List.length_cons, List.length_cons]
      omega

theorem bracketed_joined (distinct : close ≠ .comma) (items : List A) (rest : List Token)
    (opens : ∀ a ∈ items, ∃ token tokens, tokensOf a = token :: tokens ∧ token ≠ close)
    (complete : ∀ a ∈ items, ∀ rest, one (tokensOf a ++ rest) = some (a, rest)) :
    bracketed close one (joined close (items.map tokensOf) ++ rest) = some (items, rest) := by
  cases items with
  | nil => rw [List.map_nil, joined, List.singleton_append, bracketed, if_pos rfl]
  | cons a items =>
    obtain ⟨token, tokens, starts, other⟩ := opens a List.mem_cons_self
    have first : ∃ more, joined close ((a :: items).map tokensOf) = token :: more := by
      by_cases single : items = []
      · exact ⟨tokens ++ [close], by rw [single, List.map_singleton, joined, starts, List.cons_append]⟩
      · exact ⟨_, by rw [List.map_cons, joined_cons _ _ (by simpa using single), starts, List.cons_append]⟩
    obtain ⟨more, first⟩ := first
    have enough : (a :: items).length ≤ (joined close ((a :: items).map tokensOf) ++ rest).length := by
      have bound := count_le_joined close ((a :: items).map tokensOf)
      rw [List.length_map] at bound
      rw [List.length_append]
      omega
    rw [first, List.cons_append, bracketed, if_neg other, ← List.cons_append, ← first]
    exact separated_joined distinct _ _ rest (List.cons_ne_nil _ _) enough complete

end Inverse

theorem parseField_reads (value : List Token → Option (Value × List Token))
    (sound : ∀ tokens v rest, value tokens = some (v, rest) → tokens = v.tokens ++ rest) (tokens : List Token)
    (field : String × Value) (rest : List Token) (read : parseField value tokens = some (field, rest)) :
    tokens = fieldToken field ++ rest := by
  unfold parseField at read
  split at read
  · obtain ⟨⟨v, behind⟩, inner, same⟩ := Option.map_eq_some_iff.mp read
    obtain ⟨rfl, rfl⟩ := Prod.mk.inj same
    rw [sound _ v behind inner]
    rfl
  · cases read

theorem parseValue_reads (fuel : Nat) (tokens : List Token) (value : Value) (rest : List Token)
    (read : parseValue fuel tokens = some (value, rest)) : tokens = value.tokens ++ rest := by
  induction fuel generalizing tokens value rest with
  | zero => cases read
  | succ fuel ih =>
    cases tokens with
    | nil => cases read
    | cons token tokens =>
      cases token with
      | null | bool | number | string =>
        obtain ⟨rfl, rfl⟩ := Prod.mk.inj (Option.some.inj read)
        rfl
      | openArray =>
        obtain ⟨⟨items, behind⟩, inner, same⟩ := Option.map_eq_some_iff.mp read
        obtain ⟨rfl, rfl⟩ := Prod.mk.inj same
        rw [bracketed_reads ih _ items behind inner, Value.tokens, itemTokens_eq, List.cons_append]
      | openObject =>
        obtain ⟨⟨fields, behind⟩, inner, same⟩ := Option.map_eq_some_iff.mp read
        obtain ⟨rfl, rfl⟩ := Prod.mk.inj same
        rw [bracketed_reads (parseField_reads _ ih) _ fields behind inner, Value.tokens, fieldTokens_eq,
          List.cons_append]
      | closeArray | closeObject | comma | colon => cases read

theorem tokens_open (value : Value) : ∃ token tokens, value.tokens = token :: tokens ∧ token ≠ .closeArray := by
  cases value with
  | null | bool | number | string | array | object => exact ⟨_, _, by rw [Value.tokens], by simp⟩

theorem parseValue_tokens (fuel : Nat) (value : Value) (rest : List Token) (enough : value.tokens.length ≤ fuel) :
    parseValue fuel (value.tokens ++ rest) = some (value, rest) := by
  induction fuel generalizing value rest with
  | zero =>
    obtain ⟨token, tokens, starts, -⟩ := tokens_open value
    rw [starts] at enough
    cases enough
  | succ fuel ih =>
    cases value with
    | null | bool | number | string => rfl
    | array items =>
      rw [Value.tokens, itemTokens_eq, List.length_cons] at enough
      have complete : ∀ item ∈ items, ∀ rest, parseValue fuel (item.tokens ++ rest) = some (item, rest) := by
        intro item member rest
        have shorter := length_lt_joined .closeArray _ _ (List.mem_map_of_mem (f := Value.tokens) member)
        exact ih item rest (by omega)
      rw [Value.tokens, itemTokens_eq, List.cons_append, parseValue,
        bracketed_joined (by decide) items rest (fun item _ => tokens_open item) complete, Option.map_some]
    | object fields =>
      rw [Value.tokens, fieldTokens_eq, List.length_cons] at enough
      have complete : ∀ field ∈ fields, ∀ rest,
          parseField (parseValue fuel) (fieldToken field ++ rest) = some (field, rest) := by
        intro field member rest
        have shorter := length_lt_joined .closeObject _ _ (List.mem_map_of_mem (f := fieldToken) member)
        rw [fieldToken, List.length_cons, List.length_cons] at shorter
        rw [fieldToken, List.cons_append, List.cons_append, parseField, ih field.2 rest (by omega)]
        rfl
      have opens : ∀ field ∈ fields, ∃ token tokens, fieldToken field = token :: tokens ∧ token ≠ .closeObject :=
        fun field _ => ⟨_, _, rfl, by simp⟩
      rw [Value.tokens, fieldTokens_eq, List.cons_append, parseValue,
        bracketed_joined (by decide) fields rest opens complete, Option.map_some]

theorem decode_eq_some_iff (text : String) (value : Value) :
    decode text = some value ↔ lex text.toList = some value.tokens := by
  rw [decode, Option.bind_eq_some_iff]
  constructor
  · rintro ⟨tokens, lexed, parsed⟩
    unfold parse at parsed
    split at parsed
    · rename_i whole read
      cases parsed
      rw [lexed, parseValue_reads _ _ _ _ read, List.append_nil]
    · cases parsed
  · intro lexed
    have read := parseValue_tokens _ value [] (Nat.le_refl _)
    rw [List.append_nil] at read
    exact ⟨_, lexed, by rw [parse, read]⟩

end Json
