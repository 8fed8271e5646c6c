import NotebookKernel.Proofs.Json.Numerals
import NotebookKernel.Proofs.Json.Tree

/-!
# Written values are scanned back

A `Json.Layout` says where blanks stand between the tokens of a text. Both ways to write a value follow
one, and `Scanned.value?_chars` is about all of them: scanning what was written gives the tree of the
value and stops at its end. The only thing that depends on the numbers is where their texts end, so that
they have to be legible.
-/

namespace NotebookKernel

namespace Scanned

open Json

/-! ## Strings -/

/-- A backslash and a letter that needs no digits. -/
theorem units?_short {c : Char} {n : Nat} (rest : List Char) (hc : c ≠ 'u') (h : escape? c = some n) :
    units? ('\\' :: c :: rest) = (units? rest).map fun r => (n :: r.1, r.2) := by
  rw [units?]
  · rw [h]
    cases units? rest <;> rfl
  · exact fun a b c' d after hu => absurd hu hc

theorem units?_escapeChar (c : Char) (rest : List Char) :
    units? (escapeChar c ++ rest) = (units? rest).map fun r => (c.toNat :: r.1, r.2) := by
  have hcontrol : ∀ n < 32, hex4? '0' '0' (Hex.digit (n / 16)) (Hex.digit (n % 16)) = some n := by
    decide
  unfold escapeChar
  split
  · next h => rw [h]; exact units?_short rest (by decide) rfl
  split
  · next h => rw [h]; exact units?_short rest (by decide) rfl
  split
  · next h => rw [h]; exact units?_short rest (by decide) rfl
  split
  · next h => rw [h]; exact units?_short rest (by decide) rfl
  split
  · next h => rw [h]; exact units?_short rest (by decide) rfl
  split
  · next h => rw [h]; exact units?_short rest (by decide) rfl
  split
  · next h => rw [h]; exact units?_short rest (by decide) rfl
  split
  · next h =>
    simp only [List.cons_append, List.nil_append, units?, hcontrol c.toNat h]
    cases units? rest <;> rfl
  · next hquote hback _ _ _ _ _ hcontrol =>
    rw [List.singleton_append, units?]
    · simp only [hback, decide_false, Bool.or_false, decide_eq_true_eq, if_neg hcontrol]
      cases units? rest <;> rfl
    · exact hquote
    · exact fun _ _ _ _ _ h => absurd h hback
    · exact fun _ _ h => absurd h hback

theorem units?_chars (cs rest : List Char) :
    units? (cs.flatMap escapeChar ++ '"' :: rest) = some (cs.map Char.toNat, rest) := by
  induction cs with
  | nil => rw [List.flatMap_nil, List.nil_append, units?]; rfl
  | cons c cs ih => rw [List.flatMap_cons, List.append_assoc, units?_escapeChar, ih]; rfl

/-- No character is half a surrogate pair. -/
theorem joinUnits?_chars (cs : List Char) : joinUnits? (cs.map Char.toNat) = some cs := by
  induction cs with
  | nil => rfl
  | cons c cs ih =>
    have hvalid : c.toNat < 0xD800 ∨ 0xDFFF < c.toNat ∧ c.toNat < 0x110000 := c.valid
    have hhigh : ¬(0xD800 ≤ c.toNat ∧ c.toNat < 0xDC00) := by omega
    have hlow : ¬(0xDC00 ≤ c.toNat ∧ c.toNat < 0xE000) := by omega
    rw [List.map_cons, joinUnits?.eq_def]
    simp only [if_neg hhigh, if_neg hlow, ih, Char.ofNat_toNat]
    rfl

theorem string?_chars (s : String) (rest : List Char) :
    string? (s.toList.flatMap escapeChar ++ '"' :: rest) = some (some s, rest) := by
  simp [string?, units?_chars, joinUnits?_chars]

end Scanned

/-! ## Layouts -/

namespace Json

/-- Where blanks stand in the text of a value. -/
structure Layout where
  /-- What stands in front of an item or a field at a level, and in front of the end of its list. -/
  line : Nat → List Char
  /-- What stands between a key and its value, behind the colon. -/
  gap : List Char

namespace Layout

/-- Without any blanks. -/
def compact : Layout := { line := fun _ => [], gap := [] }

/-- With a line for every item and field. -/
def pretty : Layout := { line := newLine, gap := [' '] }

mutual

/-- The text of a value at a level of nesting. -/
def chars (l : Layout) (level : Nat) : Json → List Char
  | .null => ['n', 'u', 'l', 'l']
  | .bool true => ['t', 'r', 'u', 'e']
  | .bool false => ['f', 'a', 'l', 's', 'e']
  | .number n => n.chars
  | .string s => stringChars s
  | .array [] => ['[', ']']
  | .array (item :: items) =>
    '[' :: (l.line (level + 1) ++ (chars l (level + 1) item ++ itemsChars l level items))
  | .object [] => ['{', '}']
  | .object ((key, value) :: fields) =>
    '{' :: (l.line (level + 1) ++ (stringChars key ++ ':' :: (l.gap ++
      (chars l (level + 1) value ++ fieldsChars l level fields))))

/-- The items behind the first and the closing bracket. -/
def itemsChars (l : Layout) (level : Nat) : List Json → List Char
  | [] => l.line level ++ [']']
  | item :: items =>
    ',' :: (l.line (level + 1) ++ (chars l (level + 1) item ++ itemsChars l level items))

/-- The fields behind the first and the closing brace. -/
def fieldsChars (l : Layout) (level : Nat) : List (String × Json) → List Char
  | [] => l.line level ++ ['}']
  | (key, value) :: fields =>
    ',' :: (l.line (level + 1) ++ (stringChars key ++ ':' :: (l.gap ++
      (chars l (level + 1) value ++ fieldsChars l level fields))))

end

mutual

theorem chars_compact (level : Nat) (v : Json) : compact.chars level v = compactChars v := by
  cases v with
  | array items =>
    cases items with
    | nil => rfl
    | cons item items =>
      simp [chars, compactChars, chars_compact _ item, itemsChars_compact _ items]
      rfl
  | object fields =>
    cases fields with
    | nil => rfl
    | cons field fields =>
      simp [chars, compactChars, chars_compact _ field.2, fieldsChars_compact _ fields]
      rfl
  | bool b => cases b <;> rfl
  | _ => rfl

theorem itemsChars_compact (level : Nat) (items : List Json) :
    compact.itemsChars level items = compactItems items := by
  cases items with
  | nil => rfl
  | cons item items =>
    simp [itemsChars, compactItems, chars_compact _ item, itemsChars_compact _ items]
    rfl

theorem fieldsChars_compact (level : Nat) (fields : List (String × Json)) :
    compact.fieldsChars level fields = compactFields fields := by
  cases fields with
  | nil => rfl
  | cons field fields =>
    simp [fieldsChars, compactFields, chars_compact _ field.2, fieldsChars_compact _ fields]
    rfl

end

mutual

theorem chars_pretty (level : Nat) (v : Json) : pretty.chars level v = prettyChars level v := by
  cases v with
  | array items =>
    cases items with
    | nil => rfl
    | cons item items =>
      simp [chars, prettyChars, chars_pretty _ item, itemsChars_pretty _ items]
      rfl
  | object fields =>
    cases fields with
    | nil => rfl
    | cons field fields =>
      simp [chars, prettyChars, chars_pretty _ field.2, fieldsChars_pretty _ fields]
      rfl
  | bool b => cases b <;> rfl
  | _ => rfl

theorem itemsChars_pretty (level : Nat) (items : List Json) :
    pretty.itemsChars level items = prettyItems level items := by
  cases items with
  | nil => rfl
  | cons item items =>
    simp [itemsChars, prettyItems, chars_pretty _ item, itemsChars_pretty _ items]
    rfl

theorem fieldsChars_pretty (level : Nat) (fields : List (String × Json)) :
    pretty.fieldsChars level fields = prettyFields level fields := by
  cases fields with
  | nil => rfl
  | cons field fields =>
    simp [fieldsChars, prettyFields, chars_pretty _ field.2, fieldsChars_pretty _ fields]
    rfl

end

/-- Only blanks are put between tokens. -/
structure Blank (l : Layout) : Prop where
  line : ∀ level, ∀ c ∈ l.line level, c = ' ' ∨ c = '\t' ∨ c = '\n' ∨ c = '\r'
  gap : ∀ c ∈ l.gap, c = ' ' ∨ c = '\t' ∨ c = '\n' ∨ c = '\r'

theorem blank_compact : compact.Blank where
  line _ _ h := nomatch h
  gap _ h := nomatch h

theorem blank_pretty : pretty.Blank where
  line level c h := by
    rcases List.mem_cons.mp h with h | h
    · exact .inr (.inr (.inl h))
    · exact .inl (List.eq_of_mem_replicate h)
  gap c h := .inl (List.mem_singleton.mp h)

end Layout

end Json

/-! ## Values -/

namespace Scanned

open Json

theorem skipBlanks_append {blanks cs : List Char}
    (h : ∀ c ∈ blanks, c = ' ' ∨ c = '\t' ∨ c = '\n' ∨ c = '\r') :
    skipBlanks (blanks ++ cs) = skipBlanks cs := by
  refine List.dropWhile_append_of_pos fun c hc => ?_
  rcases h c hc with rfl | rfl | rfl | rfl <;> rfl

theorem stops_append {blanks cs : List Char}
    (h : ∀ c ∈ blanks, c = ' ' ∨ c = '\t' ∨ c = '\n' ∨ c = '\r') (hcs : Stops cs) :
    Stops (blanks ++ cs) := by
  cases blanks with
  | nil => exact hcs
  | cons c blanks =>
    refine stops_cons ?_
    rcases h c List.mem_cons_self with rfl | rfl | rfl | rfl <;> decide

/-- The blanks in front of a value do not matter. -/
theorem value?_congr {fuel : Nat} {cs cs' : List Char} (h : skipBlanks cs = skipBlanks cs') :
    value? fuel cs = value? fuel cs' := by
  cases fuel with
  | zero => rfl
  | succ fuel => rw [value?, value?, h]

/-- What is read behind an item. -/
def afterItem? (fuel : Nat) (item : Scanned) (cs : List Char) :
    Option (List Scanned × List Char) :=
  match skipBlanks cs with
  | ',' :: rest => do
    let (items, rest) ← items? fuel rest
    pure (item :: items, rest)
  | ']' :: rest => pure ([item], rest)
  | _ => none

/-- What is read behind the value of a field. -/
def afterValue? (fuel : Nat) (key : Option String) (value : Scanned) (cs : List Char) :
    Option (List (Option String × Scanned) × List Char) :=
  match skipBlanks cs with
  | ',' :: rest => do
    let (fields, rest) ← fields? fuel rest
    pure ((key, value) :: fields, rest)
  | '}' :: rest => pure ([(key, value)], rest)
  | _ => none

theorem items?_succ (fuel : Nat) (cs : List Char) :
    items? (fuel + 1) cs = (value? fuel cs).bind fun r => afterItem? fuel r.1 r.2 := by
  rw [items?]
  rfl

/-- A field is read up to its value by what stands in front of it. -/
theorem fields?_succ {l : Layout} (hl : l.Blank) (level fuel : Nat) (key : String)
    (cs : List Char) :
    fields? (fuel + 1) (l.line level ++ (stringChars key ++ ':' :: (l.gap ++ cs))) =
      (value? fuel cs).bind fun r => afterValue? fuel (some key) r.1 r.2 := by
  have hkey : skipBlanks (l.line level ++ (stringChars key ++ ':' :: (l.gap ++ cs))) =
      '"' :: (key.toList.flatMap escapeChar ++ '"' :: ':' :: (l.gap ++ cs)) := by
    rw [skipBlanks_append (hl.line level)]
    simp [stringChars, skipBlanks]
  have hcolon : skipBlanks (':' :: (l.gap ++ cs)) = ':' :: (l.gap ++ cs) := rfl
  have hgap : value? fuel (l.gap ++ cs) = value? fuel cs := value?_congr (skipBlanks_append hl.gap)
  rw [fields?, hkey]
  simp only [string?_chars, Option.bind_eq_bind, Option.bind_some, hcolon, hgap]
  rfl

theorem skipBlanks_cons_of_numeral {c : Char} {rest : List Char} (hc : c = '-' ∨ c.isDigit = true) :
    skipBlanks (c :: rest) = c :: rest := by
  have hblank : (c = ' ' || c = '\t' || c = '\n' || c = '\r') = false := by
    simp only [Bool.or_eq_false_iff, decide_eq_false_iff_not]
    refine ⟨⟨⟨?_, ?_⟩, ?_⟩, ?_⟩ <;> rintro rfl <;> exact absurd hc (by decide)
  simp [skipBlanks, hblank]

/-- How the text of a value begins. -/
theorem exists_head (l : Layout) (level : Nat) {v : Json} (hv : v.AllNumbers Number.Legible) :
    ∃ c cs, l.chars level v = c :: cs ∧ c ≠ ']' ∧ ∀ rest, skipBlanks (c :: rest) = c :: rest := by
  cases v with
  | null => exact ⟨_, _, rfl, by decide, fun _ => rfl⟩
  | bool b => cases b <;> exact ⟨_, _, rfl, by decide, fun _ => rfl⟩
  | string s => exact ⟨_, _, rfl, by decide, fun _ => rfl⟩
  | array items => cases items <;> exact ⟨_, _, rfl, by decide, fun _ => rfl⟩
  | object fields => cases fields <;> exact ⟨_, _, rfl, by decide, fun _ => rfl⟩
  | number n =>
    obtain ⟨numeral, hnumeral, -⟩ := hv [] stops_nil
    rw [List.append_nil] at hnumeral
    obtain ⟨c, cs, hcs, hc⟩ := head_of_numeral? hnumeral
    refine ⟨c, cs, hcs, ?_, fun rest => ?_⟩
    · rintro rfl
      exact absurd hc (by decide)
    · exact skipBlanks_cons_of_numeral hc

theorem value?_number {n : Number} (hn : n.Legible) (fuel : Nat) {rest : List Char}
    (hrest : Stops rest) : value? (fuel + 1) (n.chars ++ rest) = some (.number (some n), rest) := by
  obtain ⟨numeral, hnumeral, hvalue⟩ := hn rest hrest
  obtain ⟨c, cs, hcs, hc⟩ := head_of_numeral? hnumeral
  rw [hcs] at hnumeral ⊢
  rw [value?, skipBlanks_cons_of_numeral hc]
  split
  case h_7 => simp [hnumeral, hvalue]
  all_goals
    next heq =>
      cases heq
      exact absurd hc (by decide)

theorem stops_itemsChars {l : Layout} (hl : l.Blank) (level : Nat) (items : List Json)
    (rest : List Char) : Stops (l.itemsChars level items ++ rest) := by
  cases items with
  | nil =>
    rw [Layout.itemsChars, List.append_assoc]
    exact stops_append (hl.line level) (stops_cons (by decide))
  | cons item items => exact stops_cons (by decide)

theorem stops_fieldsChars {l : Layout} (hl : l.Blank) (level : Nat) (fields : List (String × Json))
    (rest : List Char) : Stops (l.fieldsChars level fields ++ rest) := by
  cases fields with
  | nil =>
    rw [Layout.fieldsChars, List.append_assoc]
    exact stops_append (hl.line level) (stops_cons (by decide))
  | cons field fields => exact stops_cons (by decide)

/-- An array that does not close at once is read item by item. -/
theorem value?_array {l : Layout} (hl : l.Blank) (level : Nat) {item : Json}
    (hitem : item.AllNumbers Number.Legible) (fuel : Nat) (cs : List Char) :
    value? (fuel + 1) ('[' :: (l.line (level + 1) ++ (l.chars (level + 1) item ++ cs))) =
      (items? fuel (l.chars (level + 1) item ++ cs)).map fun r => (.array r.1, r.2) := by
  obtain ⟨c, text, htext, hbracket, hblank⟩ := exists_head l (level + 1) hitem
  have hopen (rest : List Char) : skipBlanks ('[' :: rest) = '[' :: rest := rfl
  rw [value?, hopen]
  simp only [skipBlanks_append (hl.line (level + 1)), htext, List.cons_append, hblank]
  split
  · next heq =>
    cases heq
    exact absurd rfl hbracket
  · cases items? fuel (c :: (text ++ cs)) <;> rfl

/-- An object that does not close at once is read field by field. -/
theorem value?_object {l : Layout} (hl : l.Blank) (level : Nat) (key : String) (fuel : Nat)
    (cs : List Char) :
    value? (fuel + 1) ('{' :: (l.line (level + 1) ++ (stringChars key ++ cs))) =
      (fields? fuel (l.line (level + 1) ++ (stringChars key ++ cs))).map
        fun r => (.object r.1, r.2) := by
  have hopen (rest : List Char) : skipBlanks ('{' :: rest) = '{' :: rest := rfl
  have hquote (rest : List Char) : skipBlanks (stringChars key ++ rest) = stringChars key ++ rest :=
    rfl
  have hfields : fields? fuel (l.line (level + 1) ++ (stringChars key ++ cs)) =
      fields? fuel (stringChars key ++ cs) := by
    cases fuel with
    | zero => rfl
    | succ fuel => rw [fields?, fields?, skipBlanks_append (hl.line (level + 1))]
  rw [value?, hopen, hfields]
  simp only [skipBlanks_append (hl.line (level + 1)), hquote]
  split
  · next heq => cases heq
  · cases fields? fuel (stringChars key ++ cs) <;> rfl

mutual

/-- Scanning the text of a value gives its tree and stops at the end of the text. -/
theorem value?_chars {l : Layout} (hl : l.Blank) (level : Nat) (v : Json)
    (hv : v.AllNumbers Number.Legible) {fuel : Nat} {rest : List Char}
    (hfuel : 2 * (l.chars level v).length ≤ fuel) (hrest : Stops rest) :
    value? fuel (l.chars level v ++ rest) = some (ofJson v, rest) := by
  cases fuel with
  | zero =>
    obtain ⟨c, cs, hcs, -⟩ := exists_head l level hv
    simp [hcs] at hfuel
  | succ fuel =>
    cases v with
    | null => rfl
    | bool b => cases b <;> rfl
    | number n => exact value?_number hv fuel hrest
    | string s =>
      have hopen (rest : List Char) : skipBlanks ('"' :: rest) = '"' :: rest := rfl
      simp only [Layout.chars, stringChars, List.cons_append, List.append_assoc, List.nil_append]
      rw [value?, hopen]
      simp only [string?_chars]
      rfl
    | array items =>
      cases items with
      | nil => rfl
      | cons item items =>
        simp only [Layout.chars, List.length_cons, List.length_append] at hfuel
        simp only [Layout.chars, List.cons_append, List.append_assoc]
        rw [value?_array hl level hv.1]
        cases fuel with
        | zero => omega
        | succ fuel =>
          rw [items?_succ, value?_chars hl (level + 1) item hv.1 (by omega)
            (stops_itemsChars hl level items rest), Option.bind_some,
            afterItem?_chars hl level items hv.2 (ofJson item) (by omega)]
          rfl
    | object fields =>
      cases fields with
      | nil => rfl
      | cons field fields =>
        obtain ⟨key, value⟩ := field
        simp only [Layout.chars, List.length_cons, List.length_append] at hfuel
        simp only [Layout.chars, List.cons_append, List.append_assoc]
        rw [value?_object hl level key]
        cases fuel with
        | zero => omega
        | succ fuel =>
          rw [fields?_succ hl (level + 1), value?_chars hl (level + 1) value hv.1 (by omega)
            (stops_fieldsChars hl level fields rest), Option.bind_some,
            afterValue?_chars hl level fields hv.2 (some key) (ofJson value) (by omega)]
          rfl

theorem afterItem?_chars {l : Layout} (hl : l.Blank) (level : Nat) (items : List Json)
    (hitems : ItemsAllNumbers Number.Legible items) (item : Scanned) {fuel : Nat} {rest : List Char}
    (hfuel : 2 * (l.itemsChars level items).length ≤ fuel) :
    afterItem? fuel item (l.itemsChars level items ++ rest) =
      some (item :: itemsOfJson items, rest) := by
  cases items with
  | nil =>
    have hclose : skipBlanks (l.line level ++ (']' :: rest)) = ']' :: rest := by
      rw [skipBlanks_append (hl.line level)]
      rfl
    simp [afterItem?, Layout.itemsChars, hclose, itemsOfJson]
  | cons next items =>
    simp only [Layout.itemsChars, List.length_cons, List.length_append] at hfuel
    cases fuel with
    | zero => omega
    | succ fuel =>
      have hcomma (rest : List Char) : skipBlanks (',' :: rest) = ',' :: rest := rfl
      simp only [afterItem?, Layout.itemsChars, List.cons_append, List.append_assoc, hcomma]
      rw [items?_succ, value?_congr (skipBlanks_append (hl.line (level + 1))),
        value?_chars hl (level + 1) next hitems.1 (by omega)
          (stops_itemsChars hl level items rest), Option.bind_some,
        afterItem?_chars hl level items hitems.2 (ofJson next) (by omega)]
      rfl

theorem afterValue?_chars {l : Layout} (hl : l.Blank) (level : Nat) (fields : List (String × Json))
    (hfields : FieldsAllNumbers Number.Legible fields) (key : Option String) (value : Scanned)
    {fuel : Nat} {rest : List Char} (hfuel : 2 * (l.fieldsChars level fields).length ≤ fuel) :
    afterValue? fuel key value (l.fieldsChars level fields ++ rest) =
      some ((key, value) :: fieldsOfJson fields, rest) := by
  cases fields with
  | nil =>
    have hclose : skipBlanks (l.line level ++ ('}' :: rest)) = '}' :: rest := by
      rw [skipBlanks_append (hl.line level)]
      rfl
    simp [afterValue?, Layout.fieldsChars, hclose, fieldsOfJson]
  | cons field fields =>
    obtain ⟨next, v⟩ := field
    simp only [Layout.fieldsChars, List.length_cons, List.length_append] at hfuel
    cases fuel with
    | zero => omega
    | succ fuel =>
      have hcomma (rest : List Char) : skipBlanks (',' :: rest) = ',' :: rest := rfl
      simp only [afterValue?, Layout.fieldsChars, List.cons_append, List.append_assoc, hcomma]
      rw [fields?_succ hl (level + 1), value?_chars hl (level + 1) v hfields.1 (by omega)
          (stops_fieldsChars hl level fields rest), Option.bind_some,
        afterValue?_chars hl level fields hfields.2 (some next) (ofJson v) (by omega)]
      rfl

end

theorem ofText?_chars {l : Layout} (hl : l.Blank) {v : Json} (hv : v.AllNumbers Number.Legible) :
    ofText? (String.ofList (l.chars 0 v)) = some (ofJson v) := by
  have hscan : value? (2 * (l.chars 0 v).length + 2) (l.chars 0 v ++ []) = _ :=
    value?_chars hl 0 v hv (Nat.le_add_right _ 2) stops_nil
  rw [List.append_nil] at hscan
  rw [ofText?, String.toList_ofList]
  simp only [hscan]
  rfl

/-- What is written with blanks is scanned back. -/
theorem ofText?_pretty {v : Json} (hv : v.AllNumbers Number.Legible) :
    ofText? v.pretty = some (ofJson v) := by
  rw [pretty, ← Layout.chars_pretty]
  exact ofText?_chars Layout.blank_pretty hv

/-- What is written without blanks is scanned back. -/
theorem ofText?_compact {v : Json} (hv : v.AllNumbers Number.Legible) :
    ofText? v.compact = some (ofJson v) := by
  rw [compact, ← Layout.chars_compact 0]
  exact ofText?_chars Layout.blank_compact hv

/-! ## The first field -/

/-- What is scanned behind the value of a field is put behind that field. -/
theorem exists_fields_of_afterValue? {fuel : Nat} {key : Option String} {value : Scanned}
    {cs rest : List Char} {fields : List (Option String × Scanned)}
    (h : afterValue? fuel key value cs = some (fields, rest)) :
    ∃ others, fields = (key, value) :: others := by
  unfold afterValue? at h
  split at h
  · obtain ⟨r, -, hr⟩ := Option.bind_eq_some_iff.mp h
    cases hr
    exact ⟨_, rfl⟩
  · cases h
    exact ⟨_, rfl⟩
  · cases h

/-- The first field of an object is scanned back, whatever numbers there are in the others. -/
theorem exists_fields_of_value?_object {l : Layout} (hl : l.Blank) (level fuel : Nat)
    {key : String} {value : Json} (hvalue : value.AllNumbers Number.Legible)
    {others : List (String × Json)}
    (hfuel : 2 * (l.chars level (.object ((key, value) :: others))).length ≤ fuel)
    {v : Scanned} {rest end' : List Char}
    (h : value? fuel (l.chars level (.object ((key, value) :: others)) ++ rest) = some (v, end')) :
    ∃ fields, v = .object ((some key, ofJson value) :: fields) := by
  simp only [Layout.chars, List.length_cons, List.length_append] at hfuel
  obtain ⟨fuel, rfl⟩ := Nat.exists_eq_add_of_le' (show 2 ≤ fuel by omega)
  simp only [Layout.chars, List.cons_append, List.append_assoc] at h
  rw [value?_object hl level key, fields?_succ hl (level + 1),
    value?_chars hl (level + 1) value hvalue (by omega) (stops_fieldsChars hl level others rest),
    Option.bind_some] at h
  obtain ⟨r, hr, heq⟩ := Option.map_eq_some_iff.mp h
  obtain ⟨fields, hfields⟩ := exists_fields_of_afterValue? hr
  cases heq
  exact ⟨fields, by rw [hfields]⟩

theorem exists_fields_of_ofText?_pretty {key : String} {value : Json}
    (hvalue : value.AllNumbers Number.Legible) {others : List (String × Json)} {v : Scanned}
    (h : ofText? (Json.object ((key, value) :: others)).pretty = some v) :
    ∃ fields, v = .object ((some key, ofJson value) :: fields) := by
  rw [pretty, ← Layout.chars_pretty, ofText?, String.toList_ofList] at h
  obtain ⟨⟨w, rest⟩, hscan, hend⟩ := Option.bind_eq_some_iff.mp h
  rw [← List.append_nil (Layout.chars _ _ _)] at hscan
  obtain ⟨fields, hfields⟩ := exists_fields_of_value?_object Layout.blank_pretty 0 _ hvalue
    (by simp) hscan
  obtain ⟨-, heq⟩ := Option.ite_none_right_eq_some.mp hend
  cases heq
  exact ⟨fields, hfields⟩

end Scanned

end NotebookKernel
