import ImageBatch.Proofs.Json.Text

/-!
A document that was written over several lines is read back.

`Json.IsPlain` holds of values without doubles and without numbers below zero or beyond 64 bits. The scanner
reads such a value back as it was written (`Document.scan?_pretty`): every text with its escapes, every field in
its place, and through any depth, for the fuel of the scanner is never used up.
-/

namespace ImageBatch

mutual

/-- A value of texts, truth values, natural numbers of 64 bits, and of arrays and objects of these. -/
def Json.IsPlain : Json → Prop
  | .null | .bool _ | .text _ => True
  | .integer n => 0 ≤ n ∧ n ≤ Natural.max64
  | .float _ => False
  | .array items => Json.ArePlain items
  | .object fields => Json.HasPlain fields

def Json.ArePlain : List Json → Prop
  | [] => True
  | item :: rest => item.IsPlain ∧ Json.ArePlain rest

def Json.HasPlain : List (String × Json) → Prop
  | [] => True
  | (_, value) :: rest => value.IsPlain ∧ Json.HasPlain rest

end

namespace Document

open Bytes Json

/-! ### Blanks -/

theorem skipBlanks_of_blank {b : UInt8} (blank : isBlankByte b = true) (rest : Bytes) :
    skipBlanks (b :: rest) = skipBlanks rest := by
  simp [skipBlanks, blank]

theorem skipBlanks_newLine (depth : Nat) (rest : Bytes) :
    skipBlanks (ofChars (newLine depth) ++ rest) = skipBlanks rest := by
  have blanks (n : Nat) : skipBlanks (ofChars (List.replicate n ' ') ++ rest) = skipBlanks rest := by
    induction n with
    | zero => rfl
    | succ n ih => rw [List.replicate_succ, ofChars_ascii (by decide), skipBlanks_of_blank (by decide), ih]
  rw [newLine, ofChars_ascii (by decide), skipBlanks_of_blank (by decide), blanks]

theorem skipBlanks_cons {b : UInt8} (visible : isBlankByte b = false) (rest : Bytes) :
    skipBlanks (b :: rest) = b :: rest := by
  simp [skipBlanks, visible]

/-! ### The first byte -/

/-- A byte with which a value may begin. -/
def BeginsValue (b : UInt8) : Prop := isBlankByte b = false ∧ b ≠ byte ']'

instance (b : UInt8) : Decidable (BeginsValue b) := inferInstanceAs (Decidable (_ ∧ _))

theorem toList_toString {n : Int} (natural : 0 ≤ n) : (toString n).toList = Nat.toDigits 10 n.toNat := by
  obtain ⟨m, rfl⟩ := Int.eq_ofNat_of_zero_le natural
  exact Nat.toList_repr

theorem byte_ne_of_isDigit {c : Char} (digit : c.isDigit = true) {b : UInt8} (none_ : digit? b = none) :
    byte c ≠ b := by
  rintro rfl
  rw [(digit?_byte digit).2] at none_
  cases none_

/-- A number is written with a digit in front. -/
theorem exists_toDigits (n : Nat) : ∃ c more, Nat.toDigits 10 n = c :: more ∧ c.isDigit = true := by
  cases chars : Nat.toDigits 10 n with
  | nil => exact absurd chars Nat.toDigits_ne_nil
  | cons c more =>
      exact ⟨c, more, rfl, Nat.isDigit_of_mem_toDigits (by decide) (by decide) (chars ▸ List.mem_cons_self)⟩

/-- A digit begins a value. -/
theorem beginsValue_digit {c : Char} (digit : c.isDigit = true) : BeginsValue (byte c) := by
  have ne {b : UInt8} (none_ : digit? b = none) := byte_ne_of_isDigit digit none_
  have space := ne (b := byte ' ') (by decide)
  have line := ne (b := byte '\n') (by decide)
  have tab := ne (b := byte '\t') (by decide)
  have carriage := ne (b := byte '\r') (by decide)
  exact ⟨by simp [isBlankByte, space, line, tab, carriage], ne (by decide)⟩

/-- A value that is written begins visibly, and not as the end of an array. -/
theorem prettyChars_begins (depth : Nat) (value : Json) (plain : value.IsPlain) :
    ∃ b more, ofChars (prettyChars depth value) = b :: more ∧ BeginsValue b := by
  have fixed {c : Char} (chars : List Char) (one : String.utf8EncodeChar c = [byte c])
      (begins : BeginsValue (byte c)) : ∃ b more, ofChars (c :: chars) = b :: more ∧ BeginsValue b :=
    ⟨byte c, ofChars chars, by rw [ofChars_cons, one]; rfl, begins⟩
  cases value with
  | null => exact fixed ['u', 'l', 'l'] (c := 'n') (by decide) (by decide)
  | bool b =>
      cases b with
      | true => exact fixed ['r', 'u', 'e'] (c := 't') (by decide) (by decide)
      | false => exact fixed ['a', 'l', 's', 'e'] (c := 'f') (by decide) (by decide)
  | integer n =>
      obtain ⟨c, more, chars, digit⟩ := exists_toDigits n.toNat
      rw [show prettyChars depth (.integer n) = c :: more from (toList_toString plain.1).trans chars]
      exact fixed more (digit?_byte digit).1 (beginsValue_digit digit)
  | float x => cases plain
  | text s => exact fixed _ (by decide) (by decide)
  | array items => cases items <;> exact fixed _ (by decide) (by decide)
  | object fields => cases fields <;> exact fixed _ (by decide) (by decide)

/-! ### Values -/

theorem stops_newLine (depth : Nat) (rest : Bytes) : Stops (ofChars (newLine depth) ++ rest) := by
  rw [newLine, ofChars_ascii (by decide)]
  exact ⟨by decide, by decide, by decide, by decide⟩

theorem stops_comma (rest : Bytes) : Stops (byte ',' :: rest) := ⟨by decide, by decide, by decide, by decide⟩

/-- A quoted text in front. -/
theorem ofChars_quote (s : String) (rest : Bytes) :
    ofChars (quote s) ++ rest = byte '"' :: (ofChars (s.toList.flatMap escapeChar) ++ byte '"' :: rest) := by
  rw [quote, List.cons_append, ofChars_ascii (by decide), ofChars_append, List.append_assoc, ofChars_ascii (by decide)]
  rfl

/-- A colon and the blank after it. -/
theorem skipBlanks_colon (bytes : Bytes) :
    skipBlanks (byte ':' :: byte ' ' :: bytes) = byte ':' :: byte ' ' :: bytes :=
  skipBlanks_cons (by decide) _

theorem expect?_colon (bytes : Bytes) : expect? [':'] (byte ':' :: bytes) = some bytes := by
  simp [expect?]

/-- A value stands at the start of what is written after blanks. -/
theorem skipBlanks_pretty (depth : Nat) {value : Json} (plain : value.IsPlain) (rest : Bytes) :
    skipBlanks (ofChars (prettyChars depth value) ++ rest) = ofChars (prettyChars depth value) ++ rest := by
  obtain ⟨b, more, same, visible, -⟩ := prettyChars_begins depth value plain
  rw [same, List.cons_append, skipBlanks_cons visible]

/-- What a field writes before its value. -/
theorem ofChars_field (name : String) (chars : List Char) (rest : Bytes) :
    ofChars (quote name ++ ':' :: ' ' :: chars) ++ rest =
      byte '"' :: (ofChars (name.toList.flatMap escapeChar) ++ byte '"' :: byte ':' :: byte ' ' ::
        (ofChars chars ++ rest)) := by
  rw [ofChars_append, List.append_assoc, ofChars_quote, ofChars_ascii (by decide), ofChars_ascii (by decide)]

/-- Items begin as a value does. -/
theorem prettyItems_begins (depth : Nat) {item : Json} (plain : item.IsPlain) (more : List Json) (rest : Bytes) :
    ∃ c after, skipBlanks (ofChars (prettyItems depth (item :: more)) ++ rest) = c :: after ∧ c ≠ byte ']' := by
  obtain ⟨c, after, same, visible, noEnd⟩ := prettyChars_begins depth item plain
  have first : ∃ chars, prettyItems depth (item :: more) = newLine depth ++ (prettyChars depth item ++ chars) := by
    cases more with
    | nil => exact ⟨[], by simp [prettyItems]⟩
    | cons next more => exact ⟨',' :: prettyItems depth (next :: more), by simp [prettyItems]⟩
  obtain ⟨chars, first⟩ := first
  refine ⟨c, after ++ (ofChars chars ++ rest), ?_, noEnd⟩
  rw [first, ofChars_append, List.append_assoc, skipBlanks_newLine, ofChars_append, same, List.append_assoc,
    List.cons_append, skipBlanks_cons visible]

/-- Fields begin with a quote. -/
theorem prettyFields_begins (depth : Nat) (field : String × Json) (more : List (String × Json)) (rest : Bytes) :
    ∃ after, skipBlanks (ofChars (prettyFields depth (field :: more)) ++ rest) = byte '"' :: after := by
  have first : ∃ chars,
      prettyFields depth (field :: more) = newLine depth ++ (quote field.1 ++ ':' :: ' ' :: chars) := by
    cases more with
    | nil => exact ⟨prettyChars depth field.2, by simp [prettyFields]⟩
    | cons next more =>
        exact ⟨prettyChars depth field.2 ++ ',' :: prettyFields depth (next :: more), by simp [prettyFields]⟩
  obtain ⟨chars, first⟩ := first
  exact ⟨_, by rw [first, ofChars_append, List.append_assoc, skipBlanks_newLine, ofChars_field,
    skipBlanks_cons (by decide)]⟩

theorem length_newLine (depth : Nat) : 0 < (newLine depth).length := by simp [newLine]

/-- A natural number of 64 bits is read back. -/
theorem scanValue_integer {n : Int} (natural : 0 ≤ n) (bounded : n ≤ Natural.max64) {rest : Bytes} (stops : Stops rest)
    (depth fuel : Nat) :
    scanValue (fuel + 1) (ofChars (prettyChars depth (.integer n)) ++ rest) = some (ofJson (.integer n), rest) := by
  have scanned := scanNumber_digits (n := n.toNat) (by omega) stops
  obtain ⟨c, more, chars, digit⟩ := exists_toDigits n.toNat
  obtain ⟨one, value⟩ := digit?_byte digit
  have ne {b : UInt8} (none_ : digit? b = none) := byte_ne_of_isDigit digit none_
  rw [Int.toNat_of_nonneg natural, chars, ofChars_cons, one] at scanned
  rw [show prettyChars depth (.integer n) = c :: more from (toList_toString natural).trans chars, ofChars_cons, one]
  simp only [List.cons_append, List.nil_append] at scanned ⊢
  rw [scanValue, if_neg (ne (by decide)), if_neg (ne (by decide)), if_neg (ne (by decide)),
    if_neg (ne (by decide)), if_pos (by rw [value]; rfl), scanned]
  rfl

section Brackets

variable {depth fuel : Nat} {rest : Bytes} {item : Json} {items : List Json} {field : String × Json}
  {fields : List (String × Json)}

theorem prettyChars_array : prettyChars depth (.array (item :: items)) =
    '[' :: prettyItems (depth + 1) (item :: items) ++ newLine depth ++ [']'] := by
  simp [prettyChars]

theorem prettyChars_object : prettyChars depth (.object (field :: fields)) =
    '\x7b' :: prettyFields (depth + 1) (field :: fields) ++ newLine depth ++ ['\x7d'] := by
  simp [prettyChars]

/-- An array is read back if its items are. -/
theorem scanValue_array {read : List Document} (plain : item.IsPlain)
    (scanned : scanItems fuel (skipBlanks (ofChars (prettyItems (depth + 1) (item :: items)) ++
      (ofChars (newLine depth) ++ byte ']' :: rest))) = some (read, rest)) :
    scanValue (fuel + 1) (ofChars (prettyChars depth (.array (item :: items))) ++ rest) = some (.array read, rest) := by
  have written : ofChars (prettyChars depth (.array (item :: items))) ++ rest =
      byte '[' :: (ofChars (prettyItems (depth + 1) (item :: items)) ++
        (ofChars (newLine depth) ++ byte ']' :: rest)) := by
    rw [prettyChars_array, List.cons_append, List.cons_append, ofChars_ascii (by decide), ofChars_append, ofChars_append,
      List.append_assoc, List.append_assoc, ofChars_ascii (by decide)]
    rfl
  obtain ⟨c, after, begins, noEnd⟩ := prettyItems_begins (depth + 1) plain items
    (ofChars (newLine depth) ++ byte ']' :: rest)
  rw [begins] at scanned
  rw [written, scanValue, if_neg (by decide), if_pos rfl, begins]
  simp only [if_neg noEnd]
  rw [scanned]
  rfl

/-- An object is read back if its fields are. -/
theorem scanValue_object {read : List (Option String × Document)}
    (scanned : scanFields fuel (skipBlanks (ofChars (prettyFields (depth + 1) (field :: fields)) ++
      (ofChars (newLine depth) ++ byte '\x7d' :: rest))) = some (read, rest)) :
    scanValue (fuel + 1) (ofChars (prettyChars depth (.object (field :: fields))) ++ rest) =
      some (.object read, rest) := by
  have written : ofChars (prettyChars depth (.object (field :: fields))) ++ rest =
      byte '\x7b' :: (ofChars (prettyFields (depth + 1) (field :: fields)) ++
        (ofChars (newLine depth) ++ byte '\x7d' :: rest)) := by
    rw [prettyChars_object, List.cons_append, List.cons_append, ofChars_ascii (by decide), ofChars_append, ofChars_append,
      List.append_assoc, List.append_assoc, ofChars_ascii (by decide)]
    rfl
  obtain ⟨after, begins⟩ := prettyFields_begins (depth + 1) field fields (ofChars (newLine depth) ++ byte '\x7d' :: rest)
  rw [begins] at scanned
  rw [written, scanValue, if_neg (by decide), if_neg (by decide), if_pos rfl, begins]
  simp only [show byte '"' ≠ byte '\x7d' by decide, if_false]
  rw [scanned]
  rfl

end Brackets

mutual

theorem scanValue_pretty : ∀ (value : Json), value.IsPlain → ∀ (depth fuel : Nat) (rest : Bytes), Stops rest →
    (prettyChars depth value).length < fuel →
    scanValue fuel (ofChars (prettyChars depth value) ++ rest) = some (ofJson value, rest)
  | .null, _, depth, fuel + 1, rest, _, _ => by
      rw [show ofChars (prettyChars depth .null) = [byte 'n', byte 'u', byte 'l', byte 'l'] from
        show ofChars ['n', 'u', 'l', 'l'] = _ by decide]
      rfl
  | .bool true, _, depth, fuel + 1, rest, _, _ => by
      rw [show ofChars (prettyChars depth (.bool true)) = [byte 't', byte 'r', byte 'u', byte 'e'] from
        show ofChars ['t', 'r', 'u', 'e'] = _ by decide]
      rfl
  | .bool false, _, depth, fuel + 1, rest, _, _ => by
      rw [show ofChars (prettyChars depth (.bool false)) =
        [byte 'f', byte 'a', byte 'l', byte 's', byte 'e'] from
        show ofChars ['f', 'a', 'l', 's', 'e'] = _ by decide]
      rfl
  | .integer n, plain, depth, fuel + 1, rest, stops, _ => scanValue_integer plain.1 plain.2 stops depth fuel
  | .text s, _, depth, fuel + 1, rest, _, _ => by
      rw [show prettyChars depth (.text s) = quote s from rfl, ofChars_quote, scanValue, if_pos rfl,
        scanText_quote]
      rfl
  | .array [], _, depth, fuel + 1, rest, _, _ => by
      rw [show ofChars (prettyChars depth (.array [])) = [byte '[', byte ']'] from
        show ofChars ['[', ']'] = _ by decide]
      rfl
  | .array (item :: more), plain, depth, fuel + 1, rest, _, enough => by
      have short : (prettyItems (depth + 1) (item :: more)).length < fuel := by
        simp only [prettyChars_array, List.length_append, List.length_cons] at enough
        omega
      exact scanValue_array plain.1 (scanItems_pretty (item :: more) (by simp) plain (depth + 1) depth fuel rest short)
  | .object [], _, depth, fuel + 1, rest, _, _ => by
      rw [show ofChars (prettyChars depth (.object [])) = [byte '\x7b', byte '\x7d'] from
        show ofChars ['\x7b', '\x7d'] = _ by decide]
      rfl
  | .object (field :: more), plain, depth, fuel + 1, rest, _, enough => by
      have short : (prettyFields (depth + 1) (field :: more)).length < fuel := by
        simp only [prettyChars_object, List.length_append, List.length_cons] at enough
        omega
      exact scanValue_object (scanFields_pretty (field :: more) (by simp) plain (depth + 1) depth fuel rest short)

theorem scanItems_pretty : ∀ (items : List Json), items ≠ [] → Json.ArePlain items →
    ∀ (depth outer fuel : Nat) (rest : Bytes), (prettyItems depth items).length < fuel →
    scanItems fuel (skipBlanks (ofChars (prettyItems depth items) ++ (ofChars (newLine outer) ++ byte ']' :: rest))) =
      some (ofItems items, rest)
  | [item], _, plain, depth, outer, fuel + 1, rest, enough => by
      have short : (prettyChars depth item).length < fuel := by
        have := length_newLine depth
        simp only [prettyItems, List.length_append] at enough
        omega
      rw [prettyItems, ofChars_append, List.append_assoc, skipBlanks_newLine, skipBlanks_pretty depth plain.1,
        scanItems, scanValue_pretty item plain.1 depth fuel _ (stops_newLine ..) short]
      simp only [skipBlanks_newLine]
      rw [skipBlanks_cons (by decide)]
      rfl
  | item :: next :: more, _, plain, depth, outer, fuel + 1, rest, enough => by
      have short : (prettyChars depth item).length < fuel ∧ (prettyItems depth (next :: more)).length < fuel := by
        have := length_newLine depth
        simp only [prettyItems, List.length_append, List.length_cons] at enough
        omega
      have shape : prettyItems depth (item :: next :: more) =
          newLine depth ++ prettyChars depth item ++ ',' :: prettyItems depth (next :: more) := by simp [prettyItems]
      rw [shape, ofChars_append, ofChars_append, List.append_assoc, List.append_assoc, skipBlanks_newLine,
        ofChars_ascii (by decide), skipBlanks_pretty depth plain.1,
        scanItems, scanValue_pretty item plain.1 depth fuel _ (stops_comma ..) short.1]
      simp only
      rw [skipBlanks_cons (by decide)]
      simp only [if_true]
      rw [scanItems_pretty (next :: more) (by simp) plain.2 depth outer fuel rest short.2]
      rfl

theorem scanFields_pretty : ∀ (fields : List (String × Json)), fields ≠ [] → Json.HasPlain fields →
    ∀ (depth outer fuel : Nat) (rest : Bytes), (prettyFields depth fields).length < fuel →
    scanFields fuel (skipBlanks (ofChars (prettyFields depth fields) ++
      (ofChars (newLine outer) ++ byte '\x7d' :: rest))) = some (ofFields fields, rest)
  | [(name, value)], _, plain, depth, outer, fuel + 1, rest, enough => by
      have short : (prettyChars depth value).length < fuel := by
        have := length_newLine depth
        simp only [prettyFields, List.length_append, List.length_cons] at enough
        omega
      have shape : prettyFields depth [(name, value)] =
          newLine depth ++ (quote name ++ ':' :: ' ' :: prettyChars depth value) := by simp [prettyFields]
      rw [shape, ofChars_append, List.append_assoc, skipBlanks_newLine, ofChars_field,
        skipBlanks_cons (by decide), scanFields, if_pos rfl, scanText_quote]
      simp only [Option.bind_eq_bind, Option.bind_some]
      rw [skipBlanks_colon, expect?_colon, Option.bind_some, skipBlanks_of_blank (by decide),
        skipBlanks_pretty depth plain.1, scanValue_pretty value plain.1 depth fuel _ (stops_newLine ..) short]
      simp only [Option.bind_some, skipBlanks_newLine]
      rw [skipBlanks_cons (by decide)]
      rfl
  | (name, value) :: next :: more, _, plain, depth, outer, fuel + 1, rest, enough => by
      have shape : prettyFields depth ((name, value) :: next :: more) =
          newLine depth ++ (quote name ++ ':' :: ' ' :: (prettyChars depth value ++
            ',' :: prettyFields depth (next :: more))) := by simp [prettyFields]
      have short : (prettyChars depth value).length < fuel ∧
          (prettyFields depth (next :: more)).length < fuel := by
        have := length_newLine depth
        simp only [shape, List.length_append, List.length_cons] at enough
        omega
      rw [shape, ofChars_append, List.append_assoc, skipBlanks_newLine, ofChars_field,
        skipBlanks_cons (by decide), scanFields, if_pos rfl, scanText_quote]
      simp only [Option.bind_eq_bind, Option.bind_some]
      rw [skipBlanks_colon, expect?_colon, Option.bind_some, skipBlanks_of_blank (by decide), ofChars_append,
        List.append_assoc, skipBlanks_pretty depth plain.1, ofChars_ascii (by decide),
        scanValue_pretty value plain.1 depth fuel _ (stops_comma ..) short.1]
      simp only [Option.bind_some]
      rw [skipBlanks_cons (by decide)]
      simp only [if_true]
      rw [scanFields_pretty (next :: more) (by simp) plain.2 depth outer fuel rest short.2]
      rfl

end

/-- A plain value that was written over several lines is read back as it was. -/
theorem scan?_pretty {value : Json} (plain : value.IsPlain) :
    scan? (Text.toBytes value.pretty) = some (ofJson value) := by
  have enough : (prettyChars 0 value).length < 2 * (ofChars (prettyChars 0 value)).length + 2 := by
    have := length_le_ofChars (prettyChars 0 value)
    omega
  have read := scanValue_pretty value plain 0 _ [] trivial enough
  have begins := skipBlanks_pretty 0 plain []
  rw [List.append_nil] at read begins
  rw [scan?, Json.pretty, toBytes_ofList, begins, read]
  rfl

end Document

end ImageBatch
